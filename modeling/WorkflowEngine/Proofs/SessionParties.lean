import Mathlib.Logic.Function.Basic
import WorkflowEngine.Proofs.Interleaving
import WorkflowEngine.Proofs.Session

/-!
# Courses of events

A course is a path of an engine together with the places that its parties have
in it: the caller with an execution of its own, and the executions in the
background.  What the registry answers to a party, another turn of its execution
and what a caller is granted go on with a course, and all others stay where they
are.
-/

namespace WorkflowEngine

open Execution (Next startGiven startKnown)

/-! ## Courses of events -/

/-- Who has executions in a session. -/
inductive Party where
  | caller
  | background (job : Nat)
deriving DecidableEq

/-- A path with the places that parties have among its executions. -/
structure Course where
  moves : List Move
  fleet : Fleet
  path : Path moves fleet
  place? : Party → Option Nat
  bounded : ∀ {party place}, place? party = some place → place < fleet.jobs.length
  apart : ∀ {party other place}, place? party = some place → place? other = some place →
    party = other

/-- The start of a path, where nobody has a place. -/
def Course.start : Course where
  moves := []
  fleet := {}
  path := .start
  place? _ := none
  bounded := nofun
  apart := nofun

/-- What a caller can have executed. -/
inductive Errand : Program Next → Prop
  | known (environment : Environment) (id : String) (call : Call) :
      Errand (startKnown environment id call)
  | given (environment : Environment) (workflow : Workflow) (call : Call) :
      Errand (startGiven environment workflow call)

namespace Course

/-- How far the execution of a party has come.  It has no place as long as its
workflow is looked for, and none ever if it is refused one. -/
inductive Shows (course : Course) (party : Party) : Program Next → Prop
  | seeking
      (absent : course.place? party = none)
      (environment : Environment)
      (id : String)
      (call : Call) :
      Shows course party (startKnown environment id call)
  | refused (absent : course.place? party = none) (error : EngineError) :
      Shows course party (.done (.refused error))
  | inside
      {place : Nat}
      {now : Program Next}
      (placed : course.place? party = some place)
      (found : course.fleet.jobs[place]? = some now) :
      Shows course party now

/-- A path goes on, and background executions stay where they are. -/
structure LeadsTo (course later : Course) : Prop where
  moves : course.moves <+: later.moves
  placed : ∀ {job place}, course.place? (.background job) = some place →
    later.place? (.background job) = some place

theorem LeadsTo.refl (course : Course) : course.LeadsTo course :=
  ⟨List.prefix_refl _, fun placed => placed⟩

theorem LeadsTo.trans
    {course middle later : Course}
    (first : course.LeadsTo middle)
    (second : middle.LeadsTo later) :
    course.LeadsTo later :=
  ⟨first.moves.trans second.moves, fun placed => second.placed (first.placed placed)⟩

/-- A path goes on, and at most one party takes part in that. -/
structure Onward (party : Party) (course later : Course) : Prop extends
    course.LeadsTo later where
  absent : ∀ {other}, other ≠ party → course.place? other = none → later.place? other = none
  shown : ∀ {other program}, other ≠ party → course.Shows other program →
    later.Shows other program

theorem Onward.refl (party : Party) (course : Course) : course.Onward party course where
  toLeadsTo := .refl course
  absent _ := id
  shown _ := id

theorem Onward.trans
    {party : Party}
    {course middle later : Course}
    (first : course.Onward party middle)
    (second : middle.Onward party later) :
    course.Onward party later where
  toLeadsTo := first.toLeadsTo.trans second.toLeadsTo
  absent other absent := second.absent other (first.absent other absent)
  shown other shown := second.shown other (first.shown other shown)

/-- An execution has come as far as before if its place and what is there are
the same. -/
theorem Shows.of_same
    {course later : Course}
    {party : Party}
    {program : Program Next}
    (shown : course.Shows party program)
    (place : later.place? party = course.place? party)
    (jobs : ∀ {place}, course.place? party = some place →
      later.fleet.jobs[place]? = course.fleet.jobs[place]?) :
    later.Shows party program := by
  cases shown with
  | seeking absent => exact .seeking (place.trans absent) _ _ _
  | refused absent => exact .refused (place.trans absent) _
  | inside placed found => exact .inside (place.trans placed) ((jobs placed).trans found)

section

variable (course : Course) {party : Party}

/-- A party without a place is given a new one. -/
theorem exists_call (absent : course.place? party = none) (order : Order) :
    ∃ later, course.Onward party later ∧ later.fleet.registry = course.fleet.registry ∧
      later.Shows party (Execution.start order.environment order.workflow order.call) := by
  have old {other : Party} {place : Nat} (placed : course.place? other = some place) :
      place ≠ course.fleet.jobs.length := Nat.ne_of_lt (course.bounded placed)
  let later : Course :=
    { moves := course.moves ++ [.call order]
      fleet := _
      path := .move course.path (.call order)
      place? := Function.update course.place? party (some course.fleet.jobs.length)
      bounded := by
        intro other place placed
        rw [List.length_append, List.length_singleton]
        by_cases same : other = party
        · rw [same, Function.update_self] at placed
          cases placed
          exact Nat.lt_succ_self _
        · rw [Function.update_of_ne same] at placed
          exact Nat.lt_succ_of_lt (course.bounded placed)
      apart := by
        intro first second place placed shared
        rw [Function.update_apply] at placed shared
        split at placed <;> split at shared
        next one two => exact one.trans two.symm
        next =>
          cases placed
          exact (old shared rfl).elim
        next =>
          cases shared
          exact (old placed rfl).elim
        next => exact course.apart placed shared }
  have kept {other : Party} (different : other ≠ party) :
      later.place? other = course.place? other := Function.update_of_ne different _ _
  refine ⟨later, ⟨⟨List.prefix_append _ _, fun placed => ?_⟩, ?_, ?_⟩, rfl, ?_⟩
  · refine (kept fun same => ?_).trans placed
    rw [same, absent] at placed
    cases placed
  · exact fun different absent => (kept different).trans absent
  · exact fun different shown =>
      shown.of_same (kept different) fun placed =>
        List.getElem?_append_left (course.bounded placed)
  · exact .inside (Function.update_self ..) List.getElem?_concat_length

/-- A party moves in its place. -/
theorem exists_move
    {place : Nat}
    {move : Move}
    {after : Fleet}
    {now : Program Next}
    (placed : course.place? party = some place)
    (moved : course.fleet.Moves move after)
    (jobs : after.jobs = course.fleet.jobs.set place now) :
    ∃ later, course.Onward party later ∧ later.fleet.registry = after.registry ∧
      later.Shows party now := by
  let later : Course :=
    { course with
      moves := course.moves ++ [move]
      fleet := after
      path := .move course.path moved
      bounded := fun placed => by
        rw [jobs, List.length_set]
        exact course.bounded placed }
  refine ⟨later, ⟨⟨List.prefix_append _ _, id⟩, fun _ => id, ?_⟩, rfl, .inside placed ?_⟩
  · intro other program different shown
    refine shown.of_same rfl fun found => ?_
    change after.jobs[_]? = _
    rw [jobs, List.getElem?_set_ne]
    rintro rfl
    exact different (course.apart found placed)
  · change after.jobs[place]? = _
    rw [jobs, List.getElem?_set_self (course.bounded placed)]

/-- A request of a caller about an execution moves nobody. -/
theorem exists_grant
    {id : String}
    {signal : Signal}
    {after : Registry}
    (granted : course.fleet.registry.grant id signal = .ok after) :
    ∃ (later : Course) (channel : Nat),
      later.moves = course.moves ++ [.grant id channel signal] ∧
      later.fleet.registry = after ∧ later.place? = course.place? ∧
      ∀ {party program}, course.Shows party program → later.Shows party program := by
  obtain ⟨entry, known, -⟩ := Registry.grant_ok granted
  let later : Course :=
    { course with
      moves := course.moves ++ [.grant id entry.channel signal]
      fleet := { course.fleet with registry := after }
      path := .move course.path (.grant known granted) }
  exact ⟨later, entry.channel, rfl, rfl, rfl, fun shown => shown.of_same rfl fun _ => rfl⟩

/-- A caller whose execution is over gives up its place. -/
theorem exists_leave :
    ∃ later, course.LeadsTo later ∧ later.fleet = course.fleet ∧ later.place? .caller = none ∧
      ∀ {other}, other ≠ .caller → later.place? other = course.place? other := by
  have kept {other : Party} (different : other ≠ .caller) :
      Function.update course.place? .caller none other = course.place? other :=
    Function.update_of_ne different _ _
  have there {other : Party} {place : Nat}
      (placed : Function.update course.place? .caller none other = some place) :
      course.place? other = some place := by
    rw [← kept, placed]
    rintro rfl
    rw [Function.update_self] at placed
    cases placed
  let later : Course :=
    { course with
      place? := Function.update course.place? .caller none
      bounded := fun placed => course.bounded (there placed)
      apart := fun placed shared => course.apart (there placed) (there shared) }
  have left : later.place? .caller = none := by simp [later]
  exact ⟨later, ⟨List.prefix_refl _, fun placed => (kept Party.noConfusion).trans placed⟩, rfl,
    left, kept⟩

/-! ## Programs -/

/-- A party without a place may be sent on any errand. -/
theorem exists_errand
    {program : Program Next}
    (absent : course.place? party = none)
    (errand : Errand program) :
    ∃ later, course.Onward party later ∧ later.fleet.registry = course.fleet.registry ∧
      later.Shows party program := by
  cases errand with
  | known environment id call =>
    exact ⟨course, .refl party course, rfl, .seeking absent environment id call⟩
  | given environment workflow call =>
    unfold startGiven
    split
    next valid _ => exact course.exists_call absent ⟨environment, valid, call⟩
    next error _ => exact ⟨course, .refl party course, rfl, .refused absent error⟩

/-- What a registry answers takes a party on. -/
theorem exists_answer
    {request : Request}
    {next : request.Answer → Program Next}
    {answer : request.Answer}
    {after : Registry}
    (shown : course.Shows party (.ask request next))
    (answers : course.fleet.registry.Answers request answer after) :
    ∃ later, course.Onward party later ∧ later.fleet.registry = after ∧
      later.Shows party (next answer) := by
  generalize asked : Program.ask request next = program at shown
  cases shown with
  | seeking absent environment id call =>
    cases asked
    have same : after = course.fleet.registry := by
      cases answers
      rfl
    subst same
    cases answer with
    | none => exact ⟨course, .refl party course, rfl, .refused absent _⟩
    | some workflow => exact course.exists_call absent ⟨environment, workflow, call⟩
  | refused => cases asked
  | inside placed found =>
    subst asked
    exact course.exists_move placed (.exchange found answers) rfl

theorem exists_turn
    {execution : Execution}
    (shown : course.Shows party (.done (.turn execution))) :
    ∃ later, course.Onward party later ∧ later.fleet.registry = course.fleet.registry ∧
      later.Shows party execution.turn := by
  generalize turns : Program.done (Next.turn execution) = program at shown
  cases shown with
  | seeking => cases turns
  | refused => cases turns
  | inside placed found =>
    subst turns
    have taken := course.exists_move placed (Fleet.Moves.turn found) rfl
    exact taken

/-- A world takes a program as far as it gets. -/
theorem exists_proceed
    {σ : Type}
    {world : World σ}
    {program : Program Next}
    (shared : course.fleet.registry = world.registry)
    (shown : course.Shows party program) :
    ∃ later, course.Onward party later ∧
      later.fleet.registry = (Session.proceed program world).2.registry ∧
      (Session.proceed program world).1.Satisfies (later.Shows party) := by
  induction program generalizing course world with
  | done next => exact ⟨course, .refl party course, shared, shown⟩
  | ask request next inductionHypothesis =>
    have answered {answer : request.Answer} {after : Registry}
        (answers : world.registry.Answers request answer after) :=
      course.exists_answer shown (shared ▸ answers)
    unfold Session.proceed
    split
    next responds =>
      obtain ⟨middle, first, registry, shown⟩ := answered (World.answers_of_respond responds)
      obtain ⟨later, second, proceeded⟩ := inductionHypothesis _ middle registry shown
      exact ⟨later, first.trans second, proceeded⟩
    next responds =>
      have kept := (World.registry_of_broken responds).symm
      exact ⟨course, .refl party course, shared.trans kept, trivial⟩
    next millis next _ =>
      -- Nobody but the world minds how long a wait takes.
      have waited := @Registry.Answers.foreign world.registry (.wait millis) rfl ()
      obtain ⟨later, onward, registry, shown⟩ := answered waited
      exact ⟨later, onward, registry, shown⟩
    next => exact ⟨course, .refl party course, shared, shown⟩
    next => exact ⟨course, .refl party course, shared, trivial⟩

end

end Course
end WorkflowEngine
