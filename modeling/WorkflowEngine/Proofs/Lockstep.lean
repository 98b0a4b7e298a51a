import WorkflowEngine.Proofs.Timeless

/-!
# Programs in lockstep

Two programs whose answers differ in nothing but time make the same requests and come
to the same values.  A program may run out of time in one place or another; such ends
are lost, and nothing is said of them.
-/

namespace WorkflowEngine

/-- What handlers give for what they are called with, apart from how long it takes. -/
abbrev Results := Invocation → Except ActionError StepResult

/-- Handlers give their results, and no signal comes. -/
def Exchange.Conforms (results : Results) : Exchange → Prop
  | ⟨.invoke invocation, reply⟩ => reply.answer = results invocation
  | ⟨.signal _, answer⟩ => answer.1 = .run
  | _ => True

/-- Every answer in a history is as expected. -/
def History.Conforms (results : Results) (history : History) : Prop :=
  ∀ exchange ∈ history, exchange.Conforms results

/-- Replies with the same result amount to the same outcome. -/
theorem Reply.timeless_outcome
    {first second : Reply}
    (same : first.answer = second.answer) :
    first.outcome.timeless = second.outcome.timeless := by
  unfold Reply.outcome
  rw [same]
  split <;> rfl

namespace Program

variable {α β : Type} {results : Results}

/-! ## Ends that count -/

/-- A program comes to an end that is not lost. -/
structure EndsWell
    (results : Results)
    (lost : α → Prop)
    (program : Program α)
    (history : History)
    (value : α) : Prop where
  ends : program.Ends history value
  conforms : history.Conforms results
  kept : ¬lost value

/-- Whatever a program is told, it is lost. -/
structure Loses (results : Results) (lost : α → Prop) (program : Program α) : Prop where
  isLost : ∀ {history : History} {value : α}, program.Ends history value →
    history.Conforms results → lost value

namespace Loses

variable {lost : α → Prop} {otherLost : β → Prop}

theorem done {value : α} (isLost : lost value) : (Program.done value).Loses results lost := by
  constructor
  intro history result ends _
  obtain ⟨-, rfl⟩ := ends.of_done
  exact isLost

/-- A program is lost with what follows it. -/
theorem bind
    {program : Program α}
    {next : α → Program β}
    (loses : ∀ value, (next value).Loses results otherLost) :
    (program >>= next).Loses results otherLost := by
  constructor
  intro history result ends conforms
  obtain ⟨value, first, rest, rfl, -, ends⟩ := ends.of_bind
  exact (loses value).isLost ends fun exchange member =>
    conforms exchange (List.mem_append_right _ member)

/-- What is lost before something else stays lost. -/
theorem andThen
    {program : Program α}
    {next : α → Program β}
    (loses : program.Loses results lost)
    (stays : ∀ value, lost value → (next value).Loses results otherLost) :
    (program >>= next).Loses results otherLost := by
  constructor
  intro history result ends conforms
  obtain ⟨value, first, rest, rfl, begins, ends⟩ := ends.of_bind
  obtain ⟨early, late⟩ := List.forall_mem_append.mp conforms
  exact (stays value (loses.isLost begins early)).isLost ends late

end Loses

/-- What follows a program that is lost is lost as well, so a program ends well before
the one that follows it does. -/
theorem EndsWell.of_bind
    {lost : α → Prop}
    {otherLost : β → Prop}
    {program : Program α}
    {next : α → Program β}
    {history : History}
    {result : β}
    (stays : ∀ value, lost value → (next value).Loses results otherLost)
    (endsWell : (program >>= next).EndsWell results otherLost history result) :
    ∃ value first rest, history = first ++ rest ∧
      program.EndsWell results lost first value ∧
      (next value).EndsWell results otherLost rest result := by
  obtain ⟨value, first, rest, rfl, begins, ends⟩ := endsWell.ends.of_bind
  obtain ⟨early, late⟩ := List.forall_mem_append.mp endsWell.conforms
  exact ⟨value, first, rest, rfl,
    ⟨begins, early, fun isLost => endsWell.kept ((stays value isLost).isLost ends late)⟩,
    ends, late, endsWell.kept⟩

/-! ## Lockstep -/

/-- However two programs come to ends that are not lost, they have made the same
requests, and their values are related. -/
structure Lockstep
    (results : Results)
    (lost : α → Prop)
    (related : α → α → Prop)
    (first second : Program α) : Prop where
  meet : ∀ {firstHistory secondHistory : History} {firstValue secondValue : α},
    first.EndsWell results lost firstHistory firstValue →
    second.EndsWell results lost secondHistory secondValue →
    related firstValue secondValue ∧ firstHistory.requests = secondHistory.requests

namespace Lockstep

variable
  {lost : α → Prop}
  {otherLost : β → Prop}
  {related : α → α → Prop}
  {otherRelated : β → β → Prop}
  {first second : Program α}

theorem done {firstValue secondValue : α} (same : related firstValue secondValue) :
    Lockstep results lost related (.done firstValue) (.done secondValue) := by
  constructor
  intro _ _ _ _ firstEnds secondEnds
  obtain ⟨rfl, rfl⟩ := firstEnds.ends.of_done
  obtain ⟨rfl, rfl⟩ := secondEnds.ends.of_done
  exact ⟨same, rfl⟩

/-- A program that is lost is in lockstep with any other. -/
theorem of_loses_left (loses : first.Loses results lost) :
    Lockstep results lost related first second := by
  constructor
  intro _ _ _ _ firstEnds _
  exact (firstEnds.kept (loses.isLost firstEnds.ends firstEnds.conforms)).elim

theorem of_loses_right (loses : second.Loses results lost) :
    Lockstep results lost related first second := by
  constructor
  intro _ _ _ _ _ secondEnds
  exact (secondEnds.kept (loses.isLost secondEnds.ends secondEnds.conforms)).elim

/-- What is known of the ends of one program may be added. -/
theorem and_left
    {holds : α → Prop}
    (lockstep : Lockstep results lost related first second)
    (keeps : ∀ {history value}, first.Ends history value → holds value) :
    Lockstep results lost (fun first second => related first second ∧ holds first)
      first second := by
  constructor
  intro _ _ _ _ firstEnds secondEnds
  obtain ⟨same, requests⟩ := lockstep.meet firstEnds secondEnds
  exact ⟨⟨same, keeps firstEnds.ends⟩, requests⟩

/-- Programs in lockstep go on so, if whatever was lost stays lost. -/
theorem bind
    {firstNext secondNext : α → Program β}
    (lockstep : Lockstep results lost related first second)
    (firstStays : ∀ value, lost value → (firstNext value).Loses results otherLost)
    (secondStays : ∀ value, lost value → (secondNext value).Loses results otherLost)
    (goesOn : ∀ {firstValue secondValue}, related firstValue secondValue →
      Lockstep results otherLost otherRelated (firstNext firstValue) (secondNext secondValue)) :
    Lockstep results otherLost otherRelated (first >>= firstNext) (second >>= secondNext) := by
  constructor
  intro _ _ _ _ firstEnds secondEnds
  obtain ⟨_, _, _, rfl, firstBegins, firstEnds⟩ := firstEnds.of_bind firstStays
  obtain ⟨_, _, _, rfl, secondBegins, secondEnds⟩ := secondEnds.of_bind secondStays
  obtain ⟨same, begun⟩ := lockstep.meet firstBegins secondBegins
  obtain ⟨same, ended⟩ := (goesOn same).meet firstEnds secondEnds
  exact ⟨same, by rw [History.requests_append, History.requests_append, begun, ended]⟩

/-- Where nothing can be lost, the values are related and that is all. -/
theorem bind_of_kept
    {firstNext secondNext : α → Program β}
    (lockstep : Lockstep results (fun _ => False) related first second)
    (goesOn : ∀ {firstValue secondValue}, related firstValue secondValue →
      Lockstep results otherLost otherRelated (firstNext firstValue) (secondNext secondValue)) :
    Lockstep results otherLost otherRelated (first >>= firstNext) (second >>= secondNext) :=
  lockstep.bind (fun _ => False.elim) (fun _ => False.elim) goesOn

/-- Where a value may be missing, all that is lost is what goes on without it. -/
theorem bind_some
    {first second : Program (Option α)}
    {firstNext secondNext : Option α → Program β}
    (lockstep : Lockstep results (· = none) (Option.Rel related) first second)
    (firstLost : (firstNext none).Loses results otherLost)
    (secondLost : (secondNext none).Loses results otherLost)
    (goesOn : ∀ {firstValue secondValue}, related firstValue secondValue →
      Lockstep results otherLost otherRelated (firstNext (some firstValue))
        (secondNext (some secondValue))) :
    Lockstep results otherLost otherRelated (first >>= firstNext) (second >>= secondNext) := by
  refine lockstep.bind ?_ ?_ ?_
  · rintro _ rfl
    exact firstLost
  · rintro _ rfl
    exact secondLost
  · rintro _ _ (same | _)
    · exact goesOn same
    · exact .of_loses_left firstLost

/-- Two programs that make the same request go on with answers that differ in time alone. -/
theorem request
    {firstRequest secondRequest : Request}
    {firstNext : firstRequest.Answer → Program β}
    {secondNext : secondRequest.Answer → Program β}
    (same : firstRequest.timeless = secondRequest.timeless)
    (goesOn : ∀ {firstAnswer secondAnswer},
      Exchange.Conforms results ⟨firstRequest, firstAnswer⟩ →
      Exchange.Conforms results ⟨secondRequest, secondAnswer⟩ →
      Lockstep results otherLost otherRelated (firstNext firstAnswer) (secondNext secondAnswer)) :
    Lockstep results otherLost otherRelated (Program.request firstRequest >>= firstNext)
      (Program.request secondRequest >>= secondNext) := by
  constructor
  intro _ _ _ _ firstEnds secondEnds
  obtain ⟨_, _, rfl, firstLast⟩ := firstEnds.ends.of_request
  obtain ⟨_, _, rfl, secondLast⟩ := secondEnds.ends.of_request
  obtain ⟨firstAnswer, firstConforms⟩ := List.forall_mem_cons.mp firstEnds.conforms
  obtain ⟨secondAnswer, secondConforms⟩ := List.forall_mem_cons.mp secondEnds.conforms
  obtain ⟨related, requests⟩ := (goesOn firstAnswer secondAnswer).meet
    ⟨firstLast, firstConforms, firstEnds.kept⟩ ⟨secondLast, secondConforms, secondEnds.kept⟩
  exact ⟨related, by rw [History.requests_cons, History.requests_cons, same, requests]⟩

end Lockstep
end Program

/-! ## Dispatch -/

section

variable
  {results : Results}
  (environment : Environment)
  (context : Context)
  (step : Step)
  (input : Object)

/-- A wait that is not cut short is a wait, whatever its length. -/
theorem lockstep_waitWithin
    (firstLimit secondLimit : Limit)
    (firstSpan secondSpan : Span) :
    (waitWithin firstLimit firstSpan).Lockstep results (· = none) (Option.Rel fun _ _ => True)
      (waitWithin secondLimit secondSpan) := by
  constructor
  intro _ _ firstLeft secondLeft firstEnds secondEnds
  rcases ends_waitWithin firstEnds.ends with ⟨firstSome, -, rfl⟩ | ⟨_, _, rfl, _⟩
  · rcases ends_waitWithin secondEnds.ends with ⟨secondSome, -, rfl⟩ | ⟨_, _, rfl, _⟩
    · obtain ⟨_, rfl⟩ := Option.isSome_iff_exists.mp firstSome
      obtain ⟨_, rfl⟩ := Option.isSome_iff_exists.mp secondSome
      refine ⟨.some trivial, ?_⟩
      simp only [History.requests_cons, Request.timeless]
    · exact (secondEnds.kept rfl).elim
  · exact (firstEnds.kept rfl).elim

/-- Attempts with the same outcome, whatever time is left after them. -/
abbrev SameAttempt : Option (Outcome × Limit) → Option (Outcome × Limit) → Prop :=
  Option.Rel fun first second => first.1.timeless = second.1.timeless

/-- An attempt has the same outcome within any limits, unless one of them cuts it off. -/
theorem lockstep_attemptWithin (firstLimit secondLimit : Limit) :
    (attemptWithin environment context step input firstLimit).Lockstep results (· = none)
      SameAttempt (attemptWithin environment context step input secondLimit) := by
  unfold attemptWithin
  split
  next outcome _ => exact .done (.some rfl)
  next invocation _ =>
    refine .request rfl fun {firstReply secondReply} firstGives secondGives => ?_
    have same : firstReply.outcome.timeless = secondReply.outcome.timeless :=
      Reply.timeless_outcome (Eq.trans firstGives (Eq.symm secondGives))
    exact (lockstep_waitWithin _ _ _ _).bind_some (.done rfl) (.done rfl) fun _ =>
      .done (.some same)

/-! ## Retries -/

/-- Further attempts are the same for as long as there is time for all of them. -/
theorem lockstep_retryFrom
    (policy : RetryPolicy)
    (remaining number : Nat)
    {first second : Outcome}
    (same : first.timeless = second.timeless)
    (firstLimit secondLimit : Limit) :
    (retryFrom environment context step input policy remaining number first firstLimit).Lockstep
      results (·.outcome = none) (fun first second => first.timeless = second.timeless)
      (retryFrom environment context step input policy remaining number second secondLimit) := by
  induction remaining generalizing number first second firstLimit secondLimit with
  | zero =>
    obtain ⟨duration, rfl⟩ := Outcome.exists_eq_of_timeless_eq same
    exact .done rfl
  | succ remaining inductionHypothesis =>
    unfold retryFrom
    refine (lockstep_waitWithin _ _ _ _).bind_some (.done rfl) (.done rfl) fun _ => ?_
    refine .request rfl fun {firstStart secondStart} _ _ => ?_
    refine (lockstep_attemptWithin _ _ _ _ _ _).bind_some (.done rfl) (.done rfl) ?_
    rintro ⟨first, firstLeft⟩ ⟨second, secondLeft⟩ (same : first.timeless = second.timeless)
    have sameAttempt : Attempt.timeless ⟨number, firstStart, first⟩ =
        Attempt.timeless ⟨number, secondStart, second⟩ := by
      unfold Attempt.timeless
      rw [same]
    dsimp only
    rw [Outcome.succeeded_eq_of_timeless_eq same]
    split
    next =>
      refine .done ?_
      simp only [Retried.timeless, List.map_cons, List.map_nil, Option.map_some, sameAttempt, same]
    next =>
      refine (inductionHypothesis _ same _ _).bind ?_ ?_ ?_
      · exact fun _ cut => .done cut
      · exact fun _ cut => .done cut
      · intro firstRest secondRest sameRest
        refine .done ?_
        rw [Retried.timeless_cons, Retried.timeless_cons, sameRest, sameAttempt]

/-! ## Fan-out -/

/-- Branches with the same outcome. -/
abbrev SameBranches (first second : List Branch) : Prop :=
  first.map Branch.timeless = second.map Branch.timeless

/-- A branch has the same outcome in both. -/
theorem lockstep_runBranch :
    (runBranch environment context step).Lockstep results (fun _ => False)
      (fun first second => first.timeless = second.timeless)
      (runBranch environment context step) := by
  unfold runBranch
  split
  next => exact .done rfl
  next =>
    split
    next => exact .done rfl
    next => exact .request rfl fun _ _ => .done rfl
    next =>
      refine .request rfl fun _ _ => ?_
      split
      next => exact .done rfl
      next =>
        split
        next => exact .done rfl
        next =>
          refine .request rfl fun firstGives secondGives => .done ?_
          have same := Reply.timeless_outcome (Eq.trans firstGives (Eq.symm secondGives))
          simp only [Branch.timeless, same]

/-- So have branches one after another. -/
theorem lockstep_runBranches (steps : List Step) :
    (runBranches environment context steps).Lockstep results (fun _ => False) SameBranches
      (runBranches environment context steps) := by
  induction steps with
  | nil => exact .done rfl
  | cons step rest inductionHypothesis =>
    refine (lockstep_runBranch environment context step).bind_of_kept fun same => ?_
    refine inductionHypothesis.bind_of_kept fun sameRest => .done ?_
    rw [SameBranches, List.map_cons, List.map_cons, same, sameRest]

/-- Whatever time a fan-out has, its branches are the same if there is enough of it. -/
theorem lockstep_fanOutWithin
    (steps : List Step)
    (firstLimit secondLimit : Limit) :
    (fanOutWithin environment context steps firstLimit).Lockstep results (· = none)
      (Option.Rel SameBranches) (fanOutWithin environment context steps secondLimit) := by
  refine (lockstep_runBranches environment context steps).bind_of_kept fun same => ?_
  exact (lockstep_waitWithin _ _ _ _).bind_some (.done rfl) (.done rfl) fun _ =>
    .done (.some same)

end
end WorkflowEngine
