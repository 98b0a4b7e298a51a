import WorkflowEngine.Proofs.Branching
import WorkflowEngine.Proofs.Determinacy

/-!
# Fan-outs in any order

The sub-steps of a parallel step run at the same time, so their requests may be answered
in any order, and their handlers may take any time.  None of that shows in what comes of
the parallel step: it is put together in the order in which the sub-steps are listed.
-/

namespace WorkflowEngine

/-! ## Programs that overlap -/

namespace Program

variable {α : Type}

/-- Runs programs one after the other. -/
def all : List (Program α) → Program (List α)
  | [] => return []
  | program :: rest => do
    let value ← program
    let values ← all rest
    return value :: values

/-- Programs make their exchanges in some order, until each of them has come to its
value. -/
inductive Overlaps : List (Program α) → History → List α → Prop
  | done (values : List α) : Overlaps (values.map .done) [] values
  | ask
      {before after : List (Program α)}
      {request : Request}
      {next : request.Answer → Program α}
      {answer : request.Answer}
      {history : History}
      {values : List α}
      (continued : Overlaps (before ++ next answer :: after) history values) :
      Overlaps (before ++ .ask request next :: after) (⟨request, answer⟩ :: history) values

theorem ends_all_cons
    {program : Program α}
    {rest : List (Program α)}
    {first last : History}
    {value : α}
    {values : List α}
    (ends : program.Ends first value)
    (others : (all rest).Ends last values) :
    (all (program :: rest)).Ends (first ++ last) (value :: values) := by
  have continued : (all rest >>= fun values => Program.done (value :: values)).Ends (last ++ [])
      (value :: values) := others.bind (.here _)
  rw [List.append_nil] at continued
  exact ends.bind continued

theorem Ends.of_all_cons
    {program : Program α}
    {rest : List (Program α)}
    {history : History}
    {results : List α}
    (ends : (all (program :: rest)).Ends history results) :
    ∃ first last value values, history = first ++ last ∧ results = value :: values ∧
      program.Ends first value ∧ (all rest).Ends last values := by
  obtain ⟨value, first, _, rfl, begins, continued⟩ := Ends.of_bind ends
  obtain ⟨values, last, _, rfl, others, finished⟩ := continued.of_bind
  obtain ⟨rfl, rfl⟩ := finished.of_done
  exact ⟨first, last, value, values, by rw [List.append_nil], rfl, begins, others⟩

/-- A request of one of several programs may be answered when its turn comes. -/
theorem ends_all_ask
    {before after : List (Program α)}
    {request : Request}
    {next : request.Answer → Program α}
    {answer : request.Answer}
    {history : History}
    {values : List α}
    (ends : (all (before ++ next answer :: after)).Ends history values) :
    ∃ sequence, sequence.Perm (⟨request, answer⟩ :: history) ∧
      (all (before ++ .ask request next :: after)).Ends sequence values := by
  induction before generalizing history values with
  | nil =>
    obtain ⟨first, last, value, values, rfl, rfl, begins, others⟩ := ends.of_all_cons
    exact ⟨_, .refl _, ends_all_cons (.ask begins) others⟩
  | cons program before inductionHypothesis =>
    obtain ⟨first, last, value, values, rfl, rfl, begins, others⟩ := ends.of_all_cons
    obtain ⟨sequence, permuted, continued⟩ := inductionHypothesis others
    exact ⟨first ++ sequence, (permuted.append_left first).trans List.perm_middle,
      ends_all_cons begins continued⟩

/-- Whatever comes of programs that overlap may come of them one after the other. -/
theorem Overlaps.exists_ends
    {programs : List (Program α)}
    {history : History}
    {values : List α}
    (overlaps : Overlaps programs history values) :
    ∃ sequence, sequence.Perm history ∧ (all programs).Ends sequence values := by
  -- The exchanges are put in order from the last one to the first.
  induction overlaps with
  | done values =>
    refine ⟨[], .refl _, ?_⟩
    induction values with
    | nil => exact .here _
    | cons value rest inductionHypothesis => exact ends_all_cons (.here _) inductionHypothesis
  | ask _ inductionHypothesis =>
    obtain ⟨sequence, permuted, ends⟩ := inductionHypothesis
    obtain ⟨longer, repermuted, ends⟩ := ends_all_ask ends
    exact ⟨longer, repermuted.trans (permuted.cons _), ends⟩

theorem Overlaps.cons_done
    {programs : List (Program α)}
    {history : History}
    {values : List α}
    (overlaps : Overlaps programs history values)
    (value : α) :
    Overlaps (.done value :: programs) history (value :: values) := by
  induction overlaps with
  | done values => exact .done (value :: values)
  | @ask before after request next answer history values _ inductionHypothesis =>
    exact @Overlaps.ask _ (.done value :: before) _ _ _ _ _ _ inductionHypothesis

/-- One program may make its exchanges while the others wait. -/
theorem Overlaps.of_reaches
    (before : List (Program α))
    {program last : Program α}
    {after : List (Program α)}
    {first history : History}
    {values : List α}
    (reaches : program.Reaches first last)
    (overlaps : Overlaps (before ++ last :: after) history values) :
    Overlaps (before ++ program :: after) (first ++ history) values := by
  induction reaches with
  | here => exact overlaps
  | ask _ inductionHypothesis => exact .ask (inductionHypothesis overlaps)

/-- To run one after the other is to overlap in one of many ways. -/
theorem Ends.overlaps
    {programs : List (Program α)}
    {history : History}
    {values : List α}
    (ends : (all programs).Ends history values) :
    Overlaps programs history values := by
  induction programs generalizing history values with
  | nil =>
    obtain ⟨rfl, rfl⟩ := ends.of_done
    exact .done []
  | cons program rest inductionHypothesis =>
    obtain ⟨first, last, value, values, rfl, rfl, begins, others⟩ := ends.of_all_cons
    exact .of_reaches [] begins ((inductionHypothesis others).cons_done value)

end Program

/-! ## Parallel steps -/

theorem runBranches_eq_all
    (environment : Environment)
    (context : Context)
    (steps : List Step) :
    runBranches environment context steps =
      Program.all (steps.map (runBranch environment context)) := by
  induction steps with
  | nil => rfl
  | cons step rest inductionHypothesis =>
    rw [runBranches, inductionHypothesis]
    rfl

/-- Every handler is called with what the context of the fan-out decides. -/
theorem FannedOut.dispatch?_of_call
    {environment : Environment}
    {context : Context}
    {steps : List Step}
    {history : History}
    {branches : List Branch}
    (fanned : FannedOut environment context steps history branches)
    {called : Invocation × Reply}
    (member : called ∈ history.invocations) :
    called.1.step ∈ steps ∧ context.dispatch? called.1.step = some called.1 := by
  induction fanned with
  | nil => simp at member
  | cons branched _ inductionHypothesis =>
    rw [History.invocations_append, List.mem_append] at member
    rcases member with member | member
    · cases branched with
      | called active met resolved =>
        obtain rfl : called = _ := by simpa [Exchange.invocation?] using member
        exact ⟨List.mem_cons_self, by simp [Context.dispatch?, active, met, resolved]⟩
      | _ => simp [Exchange.invocation?] at member
    · obtain ⟨listed, dispatched⟩ := inductionHypothesis member
      exact ⟨List.mem_cons_of_mem _ listed, dispatched⟩

namespace Execution

/-- The sub-steps of a parallel step have run at the same time, within a limit, and have
been taken into account. -/
inductive Overlapped (parent : Step) (limit : Span) (before : Execution) :
    History → History → Execution → Outcome → Prop
  | intro
      {calls settling : History}
      {branches : List Branch}
      {after : Execution}
      {settlement : Settlement}
      (overlaps : Program.Overlaps
        ((before.schedule.branches parent).map (runBranch before.environment before.context))
        calls branches)
      (inTime : (Branch.longest branches).ticks ≤ limit.ticks)
      (settles : (settleBranches branches {} before).Ends settling (after, settlement)) :
      Overlapped parent limit before calls settling after
        (settlement.outcome parent (Branch.longest branches))

section

variable
  {parent : Step}
  {limit : Span}
  {before after : Execution}
  {calls settling : History}
  {outcome : Outcome}

/-- What comes of sub-steps that overlap is an outcome of the first attempt. -/
theorem Overlapped.exists_ends_firstAttempt
    (overlapped : Overlapped parent limit before calls settling after outcome)
    (parallel : parent.type = .parallel)
    (input : Object) :
    ∃ sequence millis, sequence.Perm calls ∧
      (before.firstAttempt parent input limit).Ends
        (sequence ++ ⟨.wait millis, ()⟩ :: settling) (after, some outcome) := by
  cases overlapped with
  | @intro branches _ settlement overlaps inTime settles =>
    obtain ⟨sequence, permuted, ends⟩ := overlaps.exists_ends
    rw [← runBranches_eq_all] at ends
    refine ⟨sequence, (Branch.longest branches).ticks, permuted, ?_⟩
    have fanned : (fanOutWithin before.environment before.context
        (before.schedule.branches parent) (some limit.ticks)).Ends
          (sequence ++ [⟨.wait (Branch.longest branches).ticks, ()⟩]) (some branches) := by
      refine ends.bind ?_
      rw [waitWithin, if_pos inTime]
      exact .ask (.here _)
    unfold firstAttempt
    rw [if_pos parallel, List.append_cons, ← List.append_nil settling]
    exact fanned.bind (settles.bind (.here _))

/-- The first attempt at a parallel step overlaps its sub-steps. -/
theorem overlapped_of_ends
    (parallel : parent.type = .parallel)
    {input : Object}
    {history : History}
    (ends : (before.firstAttempt parent input limit).Ends history (after, some outcome)) :
    ∃ calls millis settling, history = calls ++ ⟨.wait millis, ()⟩ :: settling ∧
      Overlapped parent limit before calls settling after outcome := by
  unfold firstAttempt at ends
  rw [if_pos parallel] at ends
  obtain ⟨result, _, rest, rfl, fanned, continued⟩ := ends.of_bind
  obtain ⟨branches, calls, _, rfl, ran, waiting⟩ := Program.Ends.of_bind fanned
  obtain ⟨left, waits, _, rfl, waited, decided⟩ := waiting.of_bind
  rw [runBranches_eq_all] at ran
  rcases ends_waitWithin waited with ⟨isSome, inTime, rfl⟩ | ⟨_, _, rfl, rfl⟩
  · obtain ⟨left, rfl⟩ := Option.isSome_iff_exists.mp isSome
    obtain ⟨rfl, rfl⟩ := decided.of_done
    obtain ⟨⟨middle, settlement⟩, settling, _, rfl, settles, finished⟩ := continued.of_bind
    obtain ⟨rfl, ended⟩ := finished.of_done
    cases ended
    exact ⟨calls, (Branch.longest branches).ticks, settling, by simp,
      .intro ran.overlaps (inTime _ rfl) settles⟩
  · obtain ⟨rfl, rfl⟩ := decided.of_done
    obtain ⟨rfl, impossible⟩ := continued.of_done
    cases impossible

end

/-! ## What does not depend on the order -/

/-- Sub-steps have failed as far as their attempts tell. -/
theorem Settled.failures_eq_nil_iff
    {branches : List Branch}
    {settlement final : Settlement}
    {before after : Execution}
    {history : History}
    (settled : Settled branches settlement before history after final) :
    final.failures = [] ↔
      settlement.failures = [] ∧ ∀ attempt ∈ history.attempts, attempt.status = .completed := by
  induction settled with
  | nil => simp
  | skipped _ inductionHypothesis => exact inductionHypothesis
  | @ran step input startedAt outcome rest settlement final before middle after first last written
      others inductionHypothesis =>
    obtain ⟨completedAt, usage, attempts⟩ := written.attempts
    rw [inductionHypothesis, History.attempts_append, attempts]
    cases succeeded : outcome.succeeded <;> simp [Settlement.add, attemptRecord, succeeded]

/-- A parallel step succeeds if no sub-step has failed. -/
theorem Settlement.succeeded_outcome
    (settlement : Settlement)
    (parent : Step)
    (duration : Span) :
    (settlement.outcome parent duration).succeeded = true ↔ settlement.failures = [] := by
  unfold Settlement.outcome Outcome.succeeded
  split
  next none => simpa [StepResult.succeed] using none
  next some => simpa [StepResult.fail] using some

section

variable
  {results : Results}
  {parent : Step}
  {before firstAfter secondAfter : Execution}
  {firstLimit secondLimit : Span}
  {firstCalls firstSettling secondCalls secondSettling : History}
  {firstOutcome secondOutcome : Outcome}

/-- What settles a fan-out is no business of handlers. -/
theorem conforms_of_ends_settleBranches
    {branches : List Branch}
    {settlement : Settlement}
    {settling : History}
    {result : Execution × Settlement}
    (settles : (settleBranches branches settlement before).Ends settling result) :
    settling.Conforms results := by
  intro exchange member
  have writing := (settleBranches_uses branches settlement before).of_mem settles exchange member
  obtain ⟨request, answer⟩ := exchange
  cases request with
  | invoke => cases writing
  | signal => cases writing
  | _ => trivial

/-- However the sub-steps of a parallel step overlap, and however long their handlers take
within the time that is left: every handler is called with the context of the fan-out, and
the outcome, the attempts on the trail, the outcomes of the steps and the data that are left
are always the same.  It succeeds if none of the sub-steps that ran has failed. -/
theorem Overlapped.same_results
    (parallel : parent.type = .parallel)
    (first : Overlapped parent firstLimit before firstCalls firstSettling firstAfter firstOutcome)
    (second : Overlapped parent secondLimit before secondCalls secondSettling secondAfter
      secondOutcome)
    (firstConforms : firstCalls.Conforms results)
    (secondConforms : secondCalls.Conforms results) :
    (∀ called ∈ firstCalls.invocations, called.1.step ∈ before.schedule.branches parent ∧
      before.context.dispatch? called.1.step = some called.1) ∧
    (firstOutcome.result = secondOutcome.result ∧ firstOutcome.raised = secondOutcome.raised) ∧
    firstSettling.attempts.map StepRecord.timeless =
      secondSettling.attempts.map StepRecord.timeless ∧
    firstAfter.schedule = secondAfter.schedule ∧
    firstAfter.context = secondAfter.context ∧
    (firstOutcome.succeeded = true ↔
      ∀ attempt ∈ firstSettling.attempts, attempt.status = .completed) ∧
    ∀ input, ∃ sequence millis, sequence.Perm firstCalls ∧
      (before.firstAttempt parent input firstLimit).Ends
        (sequence ++ ⟨.wait millis, ()⟩ :: firstSettling) (firstAfter, some firstOutcome) := by
  have attempted := first.exists_ends_firstAttempt parallel
  cases first with
  | @intro firstBranches _ firstSettlement firstOverlaps _ firstSettles =>
    cases second with
    | @intro secondBranches _ secondSettlement secondOverlaps _ secondSettles =>
      obtain ⟨firstSequence, firstPermuted, firstEnds⟩ := firstOverlaps.exists_ends
      obtain ⟨secondSequence, secondPermuted, secondEnds⟩ := secondOverlaps.exists_ends
      rw [← runBranches_eq_all] at firstEnds secondEnds
      obtain ⟨sameBranches, -⟩ := (lockstep_runBranches _ _ _).meet
        ⟨firstEnds, fun _ member => firstConforms _ (firstPermuted.mem_iff.mp member), id⟩
        ⟨secondEnds, fun _ member => secondConforms _ (secondPermuted.mem_iff.mp member), id⟩
      have firstQuiet : firstSettling.Conforms results :=
        conforms_of_ends_settleBranches firstSettles
      have secondQuiet : secondSettling.Conforms results :=
        conforms_of_ends_settleBranches secondSettles
      obtain ⟨⟨alike, sameSettlement⟩, requests⟩ :=
        (lockstep_settleBranches (.intro rfl) sameBranches {}).meet
          ⟨firstSettles, firstQuiet, id⟩ ⟨secondSettles, secondQuiet, id⟩
      obtain rfl : firstSettlement = secondSettlement := sameSettlement
      have failures := (settled_of_ends firstSettles).failures_eq_nil_iff
      refine ⟨fun called member => ?_, ⟨rfl, rfl⟩, ?_, alike.schedule_eq, alike.context_eq, ?_,
        attempted⟩
      · exact (fannedOut_of_ends firstEnds).dispatch?_of_call
          ((firstPermuted.filterMap _).mem_iff.mpr member)
      · rw [History.timeless_attempts, History.timeless_attempts, requests]
      · rw [Settlement.succeeded_outcome, failures]
        simp

end

/-- A step that fans out to two others. -/
def contest : Step :=
  { id := "fan", type := .parallel
    config := .object [("stepIds", .array [.text "left", .text "right"])] }

/-- A sub-step that names a winner. -/
def rival (id : String) (order : Nat) : Step := { id, type := .custom "call", order }

/-- An execution that is about to fan out to two steps that both name a winner. -/
def rivalry : Execution :=
  opening { handled := [(.custom "call", true)] }
    { id := "contest", steps := [contest, rival "left" 1, rival "right" 2] }
    { executionId := "run" } { channel := 0 } .zero .epoch

/-- Each of the two steps names itself. -/
def rivalResults : Results := fun invocation =>
  .ok (StepResult.succeed.withOutput "winner" (.text invocation.step.id))

/-- What one of the two steps does when its handler takes a number of milliseconds. -/
def rivalRun (step : Step) (delay : Nat) : History × Branch :=
  let played := (runBranch rivalry.environment rivalry.context step).play
    [⟨.ofMillis delay, rivalResults ⟨step, [], rivalry.context⟩⟩]
  (played.1, played.2.1)

/-- Once the left step goes first and replies at once, once the right step does and the
left one takes its time.  The right step is listed last, so its word counts both times. -/
theorem same_results_of_rivals :
    ∃ firstCalls secondCalls firstSettling secondSettling firstAfter secondAfter firstOutcome
        secondOutcome,
      Overlapped contest (.ofMillis 1000) rivalry firstCalls firstSettling firstAfter
        firstOutcome ∧
      Overlapped contest (.ofMillis 1000) rivalry secondCalls secondSettling secondAfter
        secondOutcome ∧
      firstCalls.invocations.map (fun called => called.1.step.id) = ["left", "right"] ∧
      secondCalls.invocations.map (fun called => called.1.step.id) = ["right", "left"] ∧
      firstOutcome.duration ≠ secondOutcome.duration ∧
      firstOutcome.result = secondOutcome.result ∧
      firstSettling.attempts.map StepRecord.timeless =
        secondSettling.attempts.map StepRecord.timeless ∧
      firstAfter.context = secondAfter.context ∧
      secondAfter.context.executionData = [("winner", .text "right")] := by
  have left (delay : Nat) : (runBranch rivalry.environment rivalry.context (rival "left" 1)).Ends
      (rivalRun (rival "left" 1) delay).1 (rivalRun (rival "left" 1) delay).2 :=
    Program.ends_play _ _
  have right (delay : Nat) : (runBranch rivalry.environment rivalry.context (rival "right" 2)).Ends
      (rivalRun (rival "right" 2) delay).1 (rivalRun (rival "right" 2) delay).2 :=
    Program.ends_play _ _
  have settles (leftDelay rightDelay : Nat) := Program.ends_play (settleBranches
    [(rivalRun (rival "left" 1) leftDelay).2, (rivalRun (rival "right" 2) rightDelay).2] {}
    rivalry) []
  have first : Overlapped contest (.ofMillis 1000) rivalry
      ((rivalRun (rival "left" 1) 0).1 ++ ((rivalRun (rival "right" 2) 200).1)) _ _ _ :=
    .intro (.of_reaches [] (left 0) (.of_reaches [.done _] (right 200) (.done [_, _])))
      (by decide) (settles 0 200)
  have second : Overlapped contest (.ofMillis 1000) rivalry
      ((rivalRun (rival "right" 2) 0).1 ++ ((rivalRun (rival "left" 1) 700).1)) _ _ _ :=
    .intro (.of_reaches [_] (right 0) (.of_reaches [] (left 700) (.done [_, _])))
      (by decide) (settles 700 0)
  have leftConforms (delay : Nat) : (rivalRun (rival "left" 1) delay).1.Conforms rivalResults :=
    List.forall_mem_cons.mpr ⟨trivial, List.forall_mem_singleton.mpr rfl⟩
  have rightConforms (delay : Nat) :
      (rivalRun (rival "right" 2) delay).1.Conforms rivalResults :=
    List.forall_mem_cons.mpr ⟨trivial, List.forall_mem_singleton.mpr rfl⟩
  obtain ⟨-, ⟨result, -⟩, attempts, -, context, -⟩ := first.same_results rfl second
    (List.forall_mem_append.mpr ⟨leftConforms 0, rightConforms 200⟩)
    (List.forall_mem_append.mpr ⟨rightConforms 0, leftConforms 700⟩)
  exact ⟨_, _, _, _, _, _, _, _, first, second, rfl, rfl, by decide, result, attempts, context, rfl⟩

end Execution
end WorkflowEngine
