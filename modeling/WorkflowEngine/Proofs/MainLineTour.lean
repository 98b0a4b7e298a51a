import Mathlib.Data.List.ReduceOption
import WorkflowEngine.Proofs.Announcements
import WorkflowEngine.Proofs.Forward

/-!
# Tours

A tour tells at which positions a run enters a step, turn by turn.  The tour of a workflow
that leads forward only ever goes ahead, so it comes to an end whatever the surroundings
do.
-/

namespace WorkflowEngine

namespace Workflow

/-- A step is on the main line of a workflow: it is active, and no step lists it. -/
def IsOnMainLine (workflow : Workflow) (step : Step) : Prop :=
  step ∈ workflow.steps ∧ step.isActive = true ∧
    ∀ lister ∈ workflow.steps, ¬ lister.RefersTo .subStep step.id

/-- The step at a position is on the main line. -/
def HasOnMainLine (workflow : Workflow) (position : Nat) : Prop :=
  ∃ step, workflow.orderedSteps[position]? = some step ∧ workflow.IsOnMainLine step

/-- Some positions on the main line, one behind the other. -/
structure Ascends (workflow : Workflow) (positions : List Nat) : Prop where
  increasing : positions.Pairwise (· < ·)
  mainLine : ∀ position ∈ positions, workflow.HasOnMainLine position

namespace Ascends

variable {workflow : Workflow} {positions : List Nat}

/-- There is one step more to climb at a position ahead of all others. -/
theorem concat
    {position : Nat}
    (ascends : workflow.Ascends positions)
    (mainLine : workflow.HasOnMainLine position)
    (ahead : ∀ earlier ∈ positions, earlier < position) :
    workflow.Ascends (positions ++ [position]) where
  increasing := List.pairwise_append.mpr
    ⟨ascends.increasing, List.pairwise_singleton _ _, by simpa using ahead⟩
  mainLine := by
    simpa [or_imp, forall_and] using ⟨ascends.mainLine, mainLine⟩

/-- There are no more positions than steps. -/
theorem length_le (ascends : workflow.Ascends positions) :
    positions.length ≤ workflow.steps.length := by
  have inside : positions ⊆ List.range workflow.steps.length := by
    intro position member
    obtain ⟨step, here, -⟩ := ascends.mainLine position member
    obtain ⟨bound, -⟩ := List.getElem?_eq_some_iff.mp here
    rw [workflow.orderedSteps_perm.length_eq] at bound
    exact List.mem_range.mpr bound
  have distinct : positions.Nodup := ascends.increasing.imp Nat.ne_of_lt
  simpa using (List.subperm_of_subset distinct inside).length_le

end Ascends
end Workflow

/-- Whenever the execution looks at its signal, it is to run. -/
def History.IsUndisturbed (history : History) : Prop :=
  ∀ {listener signal later}, ⟨.signal listener, (signal, later)⟩ ∈ history → signal = .run

namespace Execution

/-- The position of the step that is entered in a turn with some looks at the clock. -/
def stop? (execution : Execution) (clocks : List Span) : Option Nat :=
  (execution.entered? clocks).map fun _ => execution.schedule.cursor

/-- The positions at which a run enters a step, with an entry for every turn.  There is
nothing in the entry of a turn that enters no step. -/
inductive Tour (environment : Environment) (workflow : Workflow) (call : Call) :
    History → List (Option Nat) → Next → Prop
  | start
      {history : History}
      {next : Next}
      (begun : (start environment workflow call).Ends history next) :
      Tour environment workflow call history [] next
  | turn
      {past history : History}
      {stops : List (Option Nat)}
      {execution : Execution}
      {next : Next}
      (earlier : Tour environment workflow call past stops (.turn execution))
      (turned : execution.turn.Ends history next) :
      Tour environment workflow call (past ++ history)
        (stops ++ [execution.stop? history.clocks]) next

/-! ## Turns -/

section

variable
  {before after : Execution}
  {history : History}

theorem stop?_of_current?
    {clock : Span}
    {step : Step}
    (timely : before.isTimedOut clock = false)
    (current : before.schedule.current? = some step)
    (clocks : List Span) :
    before.stop? (clock :: clocks) = some before.schedule.cursor := by
  simp [stop?, entered?, timely, current]

theorem current?_of_stop?
    {clocks : List Span}
    {position : Nat}
    (stopped : before.stop? clocks = some position) :
    position = before.schedule.cursor ∧ ∃ step, before.schedule.current? = some step := by
  obtain ⟨step, entered, rfl⟩ := Option.map_eq_some_iff.mp stopped
  unfold entered? at entered
  split at entered
  · exact ⟨rfl, step, entered⟩
  · cases entered

/-- A turn that does not end the execution stays where it is, or it enters the step under
the cursor and goes ahead. -/
theorem Spent.goes
    (spent : Spent before history (after, .goOn))
    (ahead : ∀ step, before.schedule.current? = some step →
      step.LeadsAhead before.schedule history) :
    (before.stop? history.clocks = none ∧ after.schedule = before.schedule) ∨
      before.stop? history.clocks = some before.schedule.cursor ∧
        before.schedule.cursor < after.schedule.cursor := by
  generalize outcome : (after, Flow.goOn) = result at spent
  cases spent with
  | idle steady =>
    cases outcome
    exact .inl ⟨by rw [steady.unclocked]; rfl, steady.schedule⟩
  | exhausted | late => cases outcome
  | @visited step opening visit closing clock middle _ result opened current timely ends
      synced =>
    obtain ⟨rfl, goesOn⟩ := Prod.mk.inj outcome
    rw [opened.clocks_around synced]
    refine .inr ⟨stop?_of_current? timely current _, ?_⟩
    have visiting : step.LeadsAhead middle.schedule visit := by
      rw [opened.schedule]
      refine (ahead step current).mono fun called member => ?_
      simp [member]
    have further := (visited_of_ends ends).cursor_lt visiting goesOn.symm
    rwa [opened.schedule, ← synced.schedule] at further

theorem isSome_stop?_of_ends_step
    (ends : before.step.Ends history (after, .goOn)) :
    (before.stop? history.clocks).isSome = true := by
  unfold step at ends
  split at ends
  next => cases ends
  next step current =>
    obtain ⟨clock, rest, rfl, timed⟩ := Program.Ends.of_request ends
    split at timed
    next => cases timed
    next timely =>
      have stopped := stop?_of_current? (by simpa using timely) current (History.clocks rest)
      exact Option.isSome_of_eq_some stopped

/-- Without a pause or a cancellation a turn enters a step, or it ends the execution. -/
theorem isSome_stop?_of_ends
    (running : before.isPaused = false)
    (undisturbed : history.IsUndisturbed)
    (ends : before.activity.Ends history (after, .goOn)) :
    after.isPaused = false ∧ (before.stop? history.clocks).isSome = true := by
  unfold activity at ends
  rw [running, if_neg Bool.false_ne_true] at ends
  obtain ⟨⟨signal, listener⟩, rest, rfl, continued⟩ := Program.Ends.of_request ends
  have runs : signal = .run := undisturbed (List.mem_cons_self ..)
  subst runs
  have stepped : { before with listener := listener }.step.Ends rest (after, .goOn) := continued
  have stopped := isSome_stop?_of_ends_step stepped
  exact ⟨(silent_of_ends_step stepped).2.trans running, stopped⟩

end

/-! ## Runs -/

/-- Between two turns the cursor rests on the main line. -/
theorem Run.isOnMainLine_of_current?
    {environment : Environment}
    {workflow : Workflow}
    {call : Call}
    {history : History}
    {execution : Execution}
    {step : Step}
    (run : Run environment workflow call history (.done (.turn execution)))
    (valid : workflow.isValid = true)
    (current : execution.schedule.current? = some step) :
    workflow.IsOnMainLine step := by
  obtain ⟨active, unlisted⟩ := (Schedule.isRunnable_iff run.follows.steps valid current).mp
    (run.rests step current)
  refine ⟨run.follows.mem_steps (Schedule.mem_steps_of_current? current), active, ?_⟩
  exact fun lister listing lists => unlisted ⟨lister, listing, Step.mem_subSteps_iff.mpr lists⟩

namespace Tour

variable
  {environment : Environment}
  {workflow : Workflow}
  {call : Call}
  {history : History}
  {stops : List (Option Nat)}
  {next : Next}

theorem run
    (tour : Tour environment workflow call history stops next) :
    Run environment workflow call history (.done next) := by
  induction tour with
  | start begun => exact .start begun
  | turn _ turned inductionHypothesis => exact .turn inductionHypothesis turned

/-- The step that is entered in a turn is on the main line. -/
theorem hasOnMainLine
    {execution : Execution}
    {clocks : List Span}
    {position : Nat}
    (tour : Tour environment workflow call history stops (.turn execution))
    (valid : workflow.isValid = true)
    (stopped : execution.stop? clocks = some position) :
    workflow.HasOnMainLine position := by
  obtain ⟨rfl, step, current⟩ := current?_of_stop? stopped
  refine ⟨step, ?_, tour.run.isOnMainLine_of_current? valid current⟩
  rw [← tour.run.follows.steps]
  exact current

/-- A tour of a workflow that leads forward ascends, and behind each turn it goes on ahead of
all that came before. -/
theorem ascends
    (tour : Tour environment workflow call history stops next)
    (valid : workflow.isValid = true)
    (forward : workflow.IsForward)
    (replies : ∀ called ∈ history.invocations, workflow.LeadsForward called.1.step called.2) :
    workflow.Ascends stops.reduceOption ∧
      ∀ execution, next = .turn execution →
        ∀ position ∈ stops.reduceOption, position < execution.schedule.cursor := by
  induction tour with
  | start => exact ⟨⟨.nil, nofun⟩, fun _ _ => nofun⟩
  | @turn past history stops execution next earlier turned inductionHypothesis =>
    rw [History.invocations_append, List.forall_mem_append] at replies
    obtain ⟨ascends, ahead⟩ := inductionHypothesis replies.1
    have ahead := ahead execution rfl
    rw [List.reduceOption_append, List.reduceOption_singleton]
    refine ⟨?_, ?_⟩
    · cases stopped : execution.stop? history.clocks with
      | none => simpa using ascends
      | some position =>
        obtain ⟨rfl, -⟩ := current?_of_stop? stopped
        exact ascends.concat (earlier.hasOnMainLine valid stopped) ahead
    · rintro after rfl
      rcases ends_turn turned with ⟨last, acted, same⟩ | ⟨_, _, _, _, _, _, _, _, same⟩
      · cases same
        have leads : ∀ step, execution.schedule.current? = some step →
            step.LeadsAhead execution.schedule history := fun step current =>
          forward.leadsAhead valid earlier.run.follows.steps current replies.2
        rcases (spent_of_ends acted).goes leads with ⟨stopped, stays⟩ | ⟨stopped, further⟩
        · rw [stopped, stays]
          simpa using ahead
        · rw [stopped, List.forall_mem_append]
          refine ⟨fun position member => (ahead position member).trans further, ?_⟩
          simpa using further
      · cases same

/-- Without pauses and cancellations every turn but the last one enters a step. -/
theorem isSome_of_mem
    {execution : Execution}
    (tour : Tour environment workflow call history stops (.turn execution))
    (undisturbed : history.IsUndisturbed) :
    execution.isPaused = false ∧ ∀ stop ∈ stops, stop.isSome = true := by
  generalize reached : Next.turn execution = next at tour
  induction tour generalizing execution with
  | start begun =>
    subst reached
    exact ⟨(events_of_ends_start begun).2 execution rfl, nofun⟩
  | @turn past history stops earlier next tour turned inductionHypothesis =>
    subst reached
    rcases ends_turn turned with ⟨last, acted, same⟩ | ⟨_, _, _, _, _, _, _, _, same⟩
    · cases same
      obtain ⟨running, entered⟩ := inductionHypothesis
        (fun member => undisturbed (List.mem_append_left _ member)) rfl
      obtain ⟨still, enters⟩ := isSome_stop?_of_ends running
        (fun member => undisturbed (List.mem_append_right _ member)) acted
      exact ⟨still, by simpa [or_imp, forall_and] using ⟨entered, enters⟩⟩
    · cases same

/-- So all but the last turn count among the steps that are entered. -/
theorem length_le
    (tour : Tour environment workflow call history stops next)
    (ascends : workflow.Ascends stops.reduceOption)
    (undisturbed : history.IsUndisturbed) :
    stops.length ≤ workflow.steps.length + 1 ∧
      ∀ execution, next = .turn execution → stops.length ≤ workflow.steps.length := by
  have entered {execution : Execution} {past : History} {stops : List (Option Nat)}
      (tour : Tour environment workflow call past stops (.turn execution))
      (undisturbed : past.IsUndisturbed) :
      stops.reduceOption.length = stops.length :=
    List.reduceOption_length_eq_iff.mpr (tour.isSome_of_mem undisturbed).2
  have bounded := ascends.length_le
  refine ⟨?_, ?_⟩
  · cases tour with
    | start => exact Nat.zero_le _
    | turn earlier turned =>
      have before := entered earlier fun member => undisturbed (List.mem_append_left _ member)
      rw [List.reduceOption_append, List.length_append, before] at bounded
      rw [List.length_append, List.length_singleton]
      omega
  · rintro execution rfl
    rwa [entered tour undisturbed] at bounded

end Tour

/-- Every run makes a tour. -/
theorem Run.exists_tour
    {environment : Environment}
    {workflow : Workflow}
    {call : Call}
    {history : History}
    {next : Next}
    (run : Run environment workflow call history (.done next)) :
    ∃ stops, Tour environment workflow call history stops next := by
  generalize reached : Program.done next = now at run
  induction run generalizing next with
  | start begun =>
    subst reached
    exact ⟨[], .start begun⟩
  | turn _ turned inductionHypothesis =>
    subst reached
    obtain ⟨stops, earlier⟩ := inductionHypothesis rfl
    exact ⟨_, .turn earlier turned⟩

end Execution

/-! ## Surroundings -/

/-- How the surroundings of an execution answer, by what has happened so far. -/
abbrev Surroundings := History → (request : Request) → request.Answer

/-- Surroundings that neither pause nor cancel an execution, and whose handlers send it
nowhere back. -/
structure Surroundings.LeadForward (surroundings : Surroundings) (workflow : Workflow) :
    Prop where
  undisturbed : ∀ past listener, (surroundings past (.signal listener)).1 = .run
  replies : ∀ past invocation,
    workflow.LeadsForward invocation.step (surroundings past (.invoke invocation))

/-- Every answer is one of the surroundings. -/
def History.ComesFrom (surroundings : Surroundings) (history : History) : Prop :=
  ∀ exchange ∈ history, ∃ past request, exchange = ⟨request, surroundings past request⟩

namespace Surroundings

variable {surroundings : Surroundings} {history : History}

theorem LeadForward.isUndisturbed
    {workflow : Workflow}
    (lead : surroundings.LeadForward workflow)
    (comes : history.ComesFrom surroundings) :
    history.IsUndisturbed := by
  intro listener signal later member
  obtain ⟨past, request, same⟩ := comes _ member
  injection same with asked answered
  subst asked
  have runs := lead.undisturbed past listener
  rwa [← eq_of_heq answered] at runs

theorem LeadForward.leadsForward
    {workflow : Workflow}
    (lead : surroundings.LeadForward workflow)
    (comes : history.ComesFrom surroundings) :
    ∀ called ∈ history.invocations, workflow.LeadsForward called.1.step called.2 := by
  intro called member
  obtain ⟨exchange, taken, shown⟩ := List.mem_filterMap.mp member
  obtain ⟨past, request, rfl⟩ := comes exchange taken
  cases request with
  | invoke invocation =>
    cases shown
    exact lead.replies past invocation
  | _ => cases shown

end Surroundings

namespace Program

variable {α : Type}

/-- Follows a program to its end through some surroundings. -/
def follow (surroundings : Surroundings) : Program α → History → History × α
  | .done value, _ => ([], value)
  | .ask request next, past =>
    let exchange : Exchange := ⟨request, surroundings past request⟩
    let (history, value) :=
      (next (surroundings past request)).follow surroundings (past ++ [exchange])
    (exchange :: history, value)

theorem ends_follow
    (surroundings : Surroundings)
    (program : Program α)
    (past : History) :
    program.Ends (program.follow surroundings past).1 (program.follow surroundings past).2 ∧
      History.ComesFrom surroundings (program.follow surroundings past).1 := by
  induction program generalizing past with
  | done value => exact ⟨.here _, List.forall_mem_nil _⟩
  | ask request next inductionHypothesis =>
    let exchange : Exchange := ⟨request, surroundings past request⟩
    obtain ⟨ends, comes⟩ := inductionHypothesis (surroundings past request) (past ++ [exchange])
    refine ⟨.ask ends, fun exchange member => ?_⟩
    rcases List.mem_cons.mp member with rfl | later
    · exact ⟨past, request, rfl⟩
    · exact comes exchange later

end Program

namespace Execution

/-- Follows a program through some surroundings, and up to a number of turns behind it. -/
def followTurns (surroundings : Surroundings) : Nat → Program Next → History → History × Next
  | 0, program, past => program.follow surroundings past
  | turns + 1, program, past =>
    match program.follow surroundings past with
    | (history, .turn execution) =>
      let (rest, next) := followTurns surroundings turns execution.turn (past ++ history)
      (history ++ rest, next)
    | (history, next) => (history, next)

/-- Follows an execution from its start through some surroundings. -/
def followed
    (environment : Environment)
    (workflow : Workflow)
    (call : Call)
    (surroundings : Surroundings)
    (turns : Nat) : History × Next :=
  followTurns surroundings turns (start environment workflow call) []

section

variable
  {environment : Environment}
  {workflow : Workflow}
  {call : Call}

/-- Turns that are followed carry a tour on, and they are as many as were asked for unless
the execution has ended. -/
theorem Tour.exists_followTurns
    {surroundings : Surroundings}
    {past : History}
    {stops : List (Option Nat)}
    {execution : Execution}
    (tour : Tour environment workflow call past stops (.turn execution))
    (comes : past.ComesFrom surroundings)
    (turns : Nat) :
    ∃ more,
      Tour environment workflow call
        (past ++ (followTurns surroundings turns execution.turn past).1) (stops ++ more)
        (followTurns surroundings turns execution.turn past).2 ∧
      History.ComesFrom surroundings
        (past ++ (followTurns surroundings turns execution.turn past).1) ∧
      ∀ last, (followTurns surroundings turns execution.turn past).2 = .turn last →
        more.length = turns + 1 := by
  induction turns generalizing past stops execution with
  | zero =>
    obtain ⟨ends, answered⟩ := Program.ends_follow surroundings execution.turn past
    exact ⟨[_], .turn tour ends, List.forall_mem_append.mpr ⟨comes, answered⟩, fun _ _ => rfl⟩
  | succ turns inductionHypothesis =>
    obtain ⟨ends, answered⟩ := Program.ends_follow surroundings execution.turn past
    have comes := List.forall_mem_append.mpr ⟨comes, answered⟩
    have turned := Tour.turn tour ends
    unfold followTurns
    split
    next history after followed =>
      rw [followed] at turned comes
      obtain ⟨more, tour, comes, count⟩ := inductionHypothesis turned comes
      rw [List.append_assoc] at tour comes
      rw [List.append_assoc] at tour
      exact ⟨_, tour, comes, fun last same => by simpa using count last same⟩
    next history next ended followed =>
      rw [followed] at turned comes
      exact ⟨_, turned, comes, fun last same => (ended last same).elim⟩

variable (environment workflow call)

/-- What is followed from the start is a tour. -/
theorem exists_tour_followed (surroundings : Surroundings) (turns : Nat) :
    ∃ stops,
      Tour environment workflow call (followed environment workflow call surroundings turns).1
        stops (followed environment workflow call surroundings turns).2 ∧
      History.ComesFrom surroundings (followed environment workflow call surroundings turns).1 ∧
      ∀ last, (followed environment workflow call surroundings turns).2 = .turn last →
        stops.length = turns := by
  obtain ⟨ends, answered⟩ :=
    Program.ends_follow surroundings (start environment workflow call) []
  have begun := Tour.start ends
  unfold followed
  cases turns with
  | zero => exact ⟨[], begun, answered, fun _ _ => rfl⟩
  | succ turns =>
    unfold followTurns
    split
    next history execution followed =>
      rw [followed] at begun answered
      obtain ⟨more, tour, comes, count⟩ := begun.exists_followTurns answered turns
      exact ⟨more, tour, comes, count⟩
    next history next ended followed =>
      rw [followed] at begun answered
      exact ⟨[], begun, answered, fun last same => (ended last same).elim⟩

end

end Execution

/-- The runs of a valid workflow that leads forward enter steps of the main line only, and
each of them behind all those before it, as long as no handler sends them back.  If nobody
pauses or cancels them, then they take at most one turn more than there are steps, whatever
else their surroundings do. -/
theorem Workflow.IsForward.runs_end
    {workflow : Workflow}
    (forward : workflow.IsForward)
    (valid : workflow.isValid = true)
    (environment : Environment)
    (call : Call) :
    (∀ {history next}, Execution.Run environment workflow call history (.done next) →
      ∃ stops, Execution.Tour environment workflow call history stops next) ∧
    (∀ {history stops next}, Execution.Tour environment workflow call history stops next →
      (∀ called ∈ history.invocations, workflow.LeadsForward called.1.step called.2) →
        workflow.Ascends stops.reduceOption ∧
        stops.reduceOption.length ≤ workflow.steps.length ∧
        (history.IsUndisturbed →
          stops.length ≤ workflow.steps.length + 1 ∧
          ∀ execution, next = .turn execution → stops.length ≤ workflow.steps.length)) ∧
    ∀ surroundings : Surroundings, surroundings.LeadForward workflow →
      ∀ execution, (Execution.followed environment workflow call surroundings
        (workflow.steps.length + 1)).2 ≠ .turn execution := by
  have tours {history stops next}
      (tour : Execution.Tour environment workflow call history stops next)
      (replies : ∀ called ∈ history.invocations,
        workflow.LeadsForward called.1.step called.2) :=
    (tour.ascends valid forward replies).1
  refine ⟨fun run => run.exists_tour, fun tour replies => ?_, fun surroundings lead => ?_⟩
  · have ascends := tours tour replies
    exact ⟨ascends, ascends.length_le, fun undisturbed => tour.length_le ascends undisturbed⟩
  · intro execution goesOn
    obtain ⟨stops, tour, comes, count⟩ := Execution.exists_tour_followed environment workflow
      call surroundings (workflow.steps.length + 1)
    have ascends := tours tour (lead.leadsForward comes)
    have short := (tour.length_le ascends (lead.isUndisturbed comes)).2 execution goesOn
    rw [count execution goesOn] at short
    exact Nat.not_succ_le_self _ short

/-- Surroundings in which every handler replies that a condition holds. -/
def affirming : Surroundings := fun _ request => (request.calmAnswer gatedReplies).1

/-- So the first step leads past the second one to the last, and the execution ends there. -/
theorem tour_of_gated :
    gated.isValid = true ∧ gated.IsForward ∧ affirming.LeadForward gated ∧
    ∃ history record,
      Execution.Tour { handled := [(.condition, true), (.custom "order", true)] } gated
        { executionId := "run" } history [some 0, some 2, none] (.ended record) ∧
      (∀ called ∈ history.invocations, gated.LeadsForward called.1.step called.2) ∧
      history.IsUndisturbed ∧ gated.Ascends [0, 2] ∧ record.status = .completed ∧
      ∀ execution, (Execution.followed { handled := [(.condition, true), (.custom "order", true)] }
        gated { executionId := "run" } affirming 4).2 ≠ .turn execution := by
  have valid : gated.isValid = true := by rfl
  have forward : gated.IsForward := by
    intro step member field id refers route
    rw [← Step.mem_references_iff] at refers
    have known : step = gated.steps[0] ∨ step = gated.steps[1] ∨ step = gated.steps[2] := by
      simpa [gated] using member
    -- Only the first step refers to another one.
    obtain rfl | rfl | rfl := known
    · have only : gated.steps[0].references = [(.onTrue, "order")] := rfl
      rw [only] at refers
      cases List.mem_singleton.mp refers
      exact ⟨gated.steps[2], rfl, 0, 2, by decide, rfl, rfl⟩
    · cases refers
    · cases refers
  have lead : affirming.LeadForward gated := ⟨fun _ _ => rfl, fun _ _ _ named => by cases named⟩
  obtain ⟨-, ascends, ends⟩ := forward.runs_end valid
    { handled := [(.condition, true), (.custom "order", true)] } { executionId := "run" }
  obtain ⟨first, second, third, record, begun, branched, ordered, ended, completed, stopped⟩ :
      ∃ (first second third : Execution) (record : ExecutionRecord),
        ((Execution.start { handled := [(.condition, true), (.custom "order", true)] } gated
          { executionId := "run" }).follow affirming []).2 = .turn first ∧
        (first.turn.follow affirming []).2 = .turn second ∧
        (second.turn.follow affirming []).2 = .turn third ∧
        (third.turn.follow affirming []).2 = .ended record ∧
        record.status = .completed ∧
        [first.stop? (first.turn.follow affirming []).1.clocks,
          second.stop? (second.turn.follow affirming []).1.clocks,
          third.stop? (third.turn.follow affirming []).1.clocks] = [some 0, some 2, none] :=
    ⟨_, _, _, _, rfl, rfl, rfl, rfl, rfl, rfl⟩
  obtain ⟨starting, started⟩ := Program.ends_follow affirming (Execution.start
    { handled := [(.condition, true), (.custom "order", true)] } gated { executionId := "run" }) []
  obtain ⟨branching, chosen⟩ := Program.ends_follow affirming first.turn []
  obtain ⟨ordering, called⟩ := Program.ends_follow affirming second.turn []
  obtain ⟨ending, closed⟩ := Program.ends_follow affirming third.turn []
  rw [begun] at starting
  rw [branched] at branching
  rw [ordered] at ordering
  rw [ended] at ending
  have tour := (((Execution.Tour.start starting).turn branching).turn ordering).turn ending
  have comes := List.forall_mem_append.mpr ⟨List.forall_mem_append.mpr
    ⟨List.forall_mem_append.mpr ⟨started, chosen⟩, called⟩, closed⟩
  simp only [List.nil_append, List.cons_append] at tour
  rw [stopped] at tour
  have replies := lead.leadsForward comes
  exact ⟨valid, forward, lead, _, record, tour, replies, lead.isUndisturbed comes,
    (ascends tour replies).1, completed, ends affirming lead⟩

end WorkflowEngine
