import WorkflowEngine.Proofs.PhasedExecution
import WorkflowEngine.Proofs.Dispatching
import WorkflowEngine.Proofs.Trail

/-!
# Work on the trail

Whatever work an execution has finished, a record on its trail tells of it.  There is
one exception: where time runs out during a fan-out, the branches that have finished
are given up with the others, and only the parallel step itself gets a record.
-/

namespace WorkflowEngine

/-- An outcome of a step that was not dispatched, or had no time to finish. -/
inductive Outcome.IsOwn : Outcome → Prop
  | unevaluated (error : ConditionError) :
      IsOwn (.failed (EngineError.conditionEvaluation error).message true)
  | unresolved (missing : MissingInput) : IsOwn (.failed missing.message false)
  | interrupted (duration : Span) :
      IsOwn { Outcome.failed "interrupted by execution timeout" false with duration }

namespace StepRecord

/-- A record says what an outcome was. -/
structure Reports (record : StepRecord) (outcome : Outcome) : Prop where
  status : record.status = if outcome.succeeded then .completed else .failed
  output : record.output = outcome.result.data
  errorMessage :
    record.errorMessage = if outcome.succeeded then none else some outcome.result.errorMessage
  raised : record.raised = outcome.raised

/-- A record tells of a work. -/
structure TellsOf (record : StepRecord) (work : Work) : Prop where
  stepId : record.stepId = work.invocation.step.id
  stepType : record.stepType = work.invocation.step.type
  input : record.input = work.invocation.input
  reports : record.Reports work.outcome

/-- A record tells of no work: it is that of a whole fan-out, or of a step that was not
dispatched or had no time to finish. -/
def IsOwn (record : StepRecord) : Prop :=
  record.stepType = .parallel ∨ ∃ outcome, Outcome.IsOwn outcome ∧ record.Reports outcome

end StepRecord

/-- The records of a trail tell of works one by one, in their order, and apart from
that only of the execution itself. -/
inductive Accounted : List Work → List StepRecord → Prop
  | nil : Accounted [] []
  | told
      {work : Work}
      {works : List Work}
      {record : StepRecord}
      {trail : List StepRecord}
      (tells : record.TellsOf work)
      (others : Accounted works trail) :
      Accounted (work :: works) (record :: trail)
  | own
      {works : List Work}
      {record : StepRecord}
      {trail : List StepRecord}
      (own : record.IsOwn)
      (others : Accounted works trail) :
      Accounted works (record :: trail)

/-- Works are accounted for one part of the trail after the other. -/
theorem Accounted.append
    {first rest : List Work}
    {opening closing : List StepRecord}
    (begun : Accounted first opening)
    (continued : Accounted rest closing) :
    Accounted (first ++ rest) (opening ++ closing) := by
  induction begun with
  | nil => exact continued
  | told tells _ inductionHypothesis => exact .told tells inductionHypothesis
  | own own _ inductionHypothesis => exact .own own inductionHypothesis

namespace Execution

/-! ## What is written -/

section

variable
  {environment : Environment}
  {step : Step}
  {input : Object}
  {startedAt : Timestamp}
  {number : Nat}
  {outcome : Outcome}
  {before after : Execution}
  {history : History}

/-- The record of an attempt reports its outcome. -/
theorem reports_attemptRecord
    (execution : Execution)
    (completedAt : Timestamp)
    (usage : Option ResourceUsage) :
    (execution.attemptRecord step input startedAt completedAt number outcome usage).Reports
      outcome :=
  ⟨rfl, rfl, rfl, rfl⟩

/-- An attempt that is written tells of its work. -/
theorem Written.tells
    (written : Written step input startedAt number outcome before history after)
    (context : Context) :
    Accounted [⟨⟨step, input, context⟩, outcome⟩] history.attempts := by
  obtain ⟨completedAt, usage, same⟩ := written.attempts
  rw [same]
  exact .told ⟨rfl, rfl, rfl, reports_attemptRecord _ _ _⟩ .nil

/-- The record of a whole fan-out tells of no work. -/
theorem Written.whole
    (written : Written step input startedAt number outcome before history after)
    (parallel : step.type = .parallel) :
    Accounted [] history.attempts := by
  obtain ⟨completedAt, usage, same⟩ := written.attempts
  rw [same]
  exact .own (.inl parallel) .nil

/-- Neither does the record of a step that was not dispatched, or had no time to finish. -/
theorem Written.own
    (written : Written step input startedAt number outcome before history after)
    (own : outcome.IsOwn) :
    Accounted [] history.attempts := by
  obtain ⟨completedAt, usage, same⟩ := written.attempts
  rw [same]
  exact .own (.inr ⟨outcome, own, reports_attemptRecord _ _ _⟩) .nil

/-- Further attempts tell of their works. -/
theorem WrittenAll.tells
    {attempts : List Attempt}
    (written : WrittenAll step input attempts before history after)
    (context : Context) :
    Accounted (attempts.map fun attempt => ⟨⟨step, input, context⟩, attempt.outcome⟩)
      history.attempts := by
  induction written with
  | nil => exact .nil
  | cons written _ inductionHypothesis =>
    rw [History.attempts_append]
    exact (written.tells context).append inductionHypothesis

/-- A branch that ran has done work, or it was not dispatched. -/
theorem work?_of_branched
    {context : Context}
    {listed : Step}
    (branched : Branched environment context listed history
      (.ran step input startedAt outcome)) :
    (Branch.ran step input startedAt outcome).work? context =
        some ⟨⟨step, input, context⟩, outcome⟩ ∨
      (Branch.ran step input startedAt outcome).work? context = none ∧ outcome.IsOwn := by
  cases branched with
  | unevaluated _ broken =>
    refine .inr ⟨?_, .unevaluated _⟩
    simp [Branch.work?, broken]
  | unresolved _ met unresolved =>
    refine .inr ⟨?_, .unresolved _⟩
    simp [Branch.work?, met, unresolved]
  | settled _ met resolved => simp [Branch.work?, met, resolved]
  | called _ met resolved => simp [Branch.work?, met, resolved]

/-- The branches of a fan-out that is waited for tell of their works. -/
theorem Settled.tells
    {context : Context}
    {branches : List Branch}
    {settlement final : Settlement}
    (settled : Settled branches settlement before history after final)
    (branched : ∀ branch ∈ branches, ∃ listed part,
      Branched environment context listed part branch) :
    Accounted (branches.filterMap (·.work? context)) history.attempts := by
  induction settled with
  | nil => exact .nil
  | skipped _ inductionHypothesis =>
    exact inductionHypothesis (List.forall_mem_cons.mp branched).2
  | ran written _ inductionHypothesis =>
    obtain ⟨⟨listed, part, first⟩, others⟩ := List.forall_mem_cons.mp branched
    rw [History.attempts_append]
    rcases work?_of_branched first with worked | ⟨unworked, own⟩
    · rw [List.filterMap_cons_some worked]
      exact (written.tells context).append (inductionHypothesis others)
    · rw [List.filterMap_cons_none unworked]
      exact (written.own own).append (inductionHypothesis others)

end

/-! ## What is finished -/

section

variable (step : Step) (input : Object)

/-- The work that a first attempt finishes.  Some of it comes with the outcome of the
attempt, and some is lost. -/
inductive FirstWork (before : Execution) :
    History → Option Outcome → List Work → List Work → Prop
  | attempted
      {history : History}
      {result : Option Outcome}
      (single : step.type ≠ .parallel)
      (attempted : Attempted before.environment before.context step input history result) :
      FirstWork before history result
        (result.toList.map (Work.mk ⟨step, input, before.context⟩)) []
  /-- Time runs out during a fan-out. -/
  | overrun
      {history : History}
      {branches : List Branch}
      {millis : Nat}
      (parallel : step.type = .parallel)
      (fanned : FannedOut before.environment before.context (before.schedule.branches step)
        history branches)
      (short : millis < (Branch.longest branches).ticks) :
      FirstWork before (history ++ [⟨.wait millis, ()⟩]) none []
        (Branch.works before.context millis branches)
  | fanned
      {history writes : History}
      {branches : List Branch}
      {after : Execution}
      {settlement : Settlement}
      (parallel : step.type = .parallel)
      (fanned : FannedOut before.environment before.context (before.schedule.branches step)
        history branches)
      (settled : Settled branches {} before writes after settlement) :
      FirstWork before (history ++ ⟨.wait (Branch.longest branches).ticks, ()⟩ :: writes)
        (some (settlement.outcome step (Branch.longest branches)))
        (Branch.works before.context (Branch.longest branches).ticks branches) []

/-- The work that is finished in reaction to a failed outcome. -/
inductive RetryWork (first : Outcome) (before : Execution) : History → List Work → Prop
  | none : RetryWork first before [] []
  /-- No time is left for retries. -/
  | late {clock : Span} : RetryWork first before [⟨.clock, clock⟩] []
  | again
      {clock : Span}
      {calls writes : History}
      {retried : Retried}
      {after : Execution}
      (again : TriedAgain step input first before clock calls writes retried after) :
      RetryWork first before (⟨.clock, clock⟩ :: calls ++ writes)
        (retried.attempts.map fun attempt => ⟨⟨step, input, before.context⟩, attempt.outcome⟩)

end

/-- The work that is finished in the visit of a step, apart from what is lost, and the
work that is lost. -/
inductive VisitWork (step : Step) (before : Execution) : History → List Work → List Work → Prop
  | skipped (refused : before.conditionsOf step = .ok false) : VisitWork step before [] [] []
  /-- There is no first attempt. -/
  | undispatched
      {startedAt : Timestamp}
      {outcome : Outcome}
      {writing rest : History}
      {middle : Execution}
      {works : List Work}
      (blocked : before.conditionsOf step = .ok true →
        ∀ input, step.resolveInput before.context ≠ .ok input)
      (own : outcome.IsOwn)
      (written : Written step [] startedAt 0 outcome before writing middle)
      (followed : RetryWork step [] outcome middle rest works) :
      VisitWork step before (⟨.now, startedAt⟩ :: writing ++ rest) works []
  /-- No time is left for the step. -/
  | late {clock : Span} : VisitWork step before [⟨.clock, clock⟩] [] []
  /-- Time runs out during the first attempt. -/
  | interrupted
      {input : Object}
      {clock duration : Span}
      {startedAt : Timestamp}
      {trying writing : History}
      {middle after : Execution}
      {works lost : List Work}
      (met : before.conditionsOf step = .ok true)
      (resolved : step.resolveInput before.context = .ok input)
      (first : FirstWork step input before trying none works lost)
      (written : Written step input startedAt 0
        { Outcome.failed "interrupted by execution timeout" false with duration }
        middle writing after) :
      VisitWork step before (⟨.clock, clock⟩ :: ⟨.now, startedAt⟩ :: trying ++ writing) works lost
  | answered
      {input : Object}
      {clock : Span}
      {startedAt : Timestamp}
      {trying writing rest : History}
      {middle after : Execution}
      {outcome : Outcome}
      {works more : List Work}
      (met : before.conditionsOf step = .ok true)
      (resolved : step.resolveInput before.context = .ok input)
      (first : FirstWork step input before trying (some outcome) works [])
      (continues : before.Continues middle)
      (written : Written step input startedAt 0 outcome middle writing after)
      (followed : RetryWork step input outcome after rest more) :
      VisitWork step before (⟨.clock, clock⟩ :: ⟨.now, startedAt⟩ :: trying ++ writing ++ rest)
        (works ++ more) []

/-- The work that is finished in a turn. -/
inductive TurnWork (before : Execution) : History → List Work → List Work → Prop
  /-- No step is visited. -/
  | idle
      {history : History}
      {after : Execution}
      (kept : Kept before history after) :
      TurnWork before history [] []
  | visited
      {step : Step}
      {opening visit closing : History}
      {middle last after : Execution}
      {works lost : List Work}
      (opened : Kept before opening middle)
      (current : before.schedule.current? = some step)
      (visited : VisitWork step middle visit works lost)
      (synced : Kept last closing after) :
      TurnWork before (opening ++ visit ++ closing) works lost

/-- The work that is finished in a run. -/
inductive RunWork (environment : Environment) (workflow : Workflow) (call : Call) :
    History → List Work → List Work → Prop
  | start
      {history : History}
      {next : Next}
      (started : Started environment workflow call history next) :
      RunWork environment workflow call history [] []
  | turn
      {past history : History}
      {execution : Execution}
      {works more lost : List Work}
      (run : Run environment workflow call past (.done (.turn execution)))
      (earlier : RunWork environment workflow call past works [])
      (turned : TurnWork execution history more lost) :
      RunWork environment workflow call (past ++ history) (works ++ more) lost
  | closed
      {past history : History}
      {last : Execution}
      {ending : Ending}
      {record : ExecutionRecord}
      {works lost : List Work}
      (earlier : RunWork environment workflow call past works lost)
      (closed : Closed last ending history record) :
      RunWork environment workflow call (past ++ history) works lost

/-! ## Every visit finishes some work -/

section

variable
  {step : Step}
  {input : Object}
  {before after : Execution}
  {history : History}
  {result : Execution × Flow}

/-- Work is lost in a fan-out alone, and only that of its branches. -/
structure Losing (step : Step) (schedule : Schedule) (lost : List Work) : Prop where
  parallel : step.type = .parallel
  branches : ∀ work ∈ lost, work.invocation.step ∈ schedule.branches step

/-- A first attempt that comes to an outcome loses no work, and one that loses work
is a fan-out. -/
theorem exists_firstWork
    {outcome : Option Outcome}
    (tried : Tried step input before history after outcome) :
    ∃ works lost, FirstWork step input before history outcome works lost ∧
      (outcome.isSome = true → lost = []) ∧
      (lost ≠ [] → Losing step before.schedule lost) := by
  cases tried with
  | attempted single attempted =>
    exact ⟨_, _, .attempted single attempted, fun _ => rfl, fun lost => (lost rfl).elim⟩
  | fanned parallel fanned settled =>
    exact ⟨_, _, .fanned parallel fanned settled, fun _ => rfl, fun lost => (lost rfl).elim⟩
  | @overrun _ branches millis parallel fanned short =>
    exact ⟨_, _, .overrun parallel fanned short, nofun,
      fun _ => ⟨parallel, fun _ => fanned.mem_steps_of_mem_works⟩⟩

/-- The work of a first attempt is dispatched in its visit. -/
theorem FirstWork.does
    {outcome : Option Outcome}
    {works lost : List Work}
    (firstWork : FirstWork step input before history outcome works lost)
    (met : before.conditionsOf step = .ok true)
    (resolved : step.resolveInput before.context = .ok input) :
    ∀ work ∈ works ++ lost, before.Does step work := by
  intro work member
  cases firstWork with
  | attempted single attempted =>
    rw [List.append_nil] at member
    obtain ⟨outcome, finished, rfl⟩ := List.mem_map.mp member
    obtain rfl := Option.mem_toList.mp finished
    exact ⟨.itself single met (.inl resolved), _, attempted⟩
  | overrun parallel fanned => exact does_of_fannedOut fanned parallel met member
  | fanned parallel fanned =>
    rw [List.append_nil] at member
    exact does_of_fannedOut fanned parallel met member

/-- A failed outcome is followed by work only where the step is tried again. -/
theorem exists_retryWork
    {outcome : Outcome}
    {condition : Option ConditionError}
    (rejected : Rejected step input outcome condition before history result) :
    ∃ works, RetryWork step input outcome before history works ∧
      (works ≠ [] → condition = none ∧ reactionTo step before outcome = .retry) ∧
      (before.conditionsOf step = .ok true →
        (step.resolveInput before.context = .ok input ∨ input = []) →
          ∀ work ∈ works, before.Does step work) := by
  cases rejected with
  | repeated reaction unbroken repeated =>
    have again
        {clock : Span}
        {calls writes : History}
        {retried : Retried}
        {after : Execution}
        (again : TriedAgain step input outcome before clock calls writes retried after) :
        ∃ works, RetryWork step input outcome before (⟨.clock, clock⟩ :: calls ++ writes) works ∧
          (works ≠ [] → condition = none ∧ reactionTo step before outcome = .retry) ∧
          (before.conditionsOf step = .ok true →
            (step.resolveInput before.context = .ok input ∨ input = []) →
              ∀ work ∈ works, before.Does step work) := by
      refine ⟨_, .again again, fun _ => ⟨unbroken, reaction⟩, fun met resolved work member => ?_⟩
      obtain ⟨attempt, listed, rfl⟩ := List.mem_map.mp member
      have single : step.type ≠ .parallel :=
        Step.type_ne_parallel_of_effectiveAction (Step.reaction_eq_retry_iff.mp reaction).2
      exact ⟨.itself single met resolved, again.retries.attempted_of_mem attempt listed⟩
    cases repeated with
    | late => exact ⟨_, .late, fun works => (works rfl).elim, by simp⟩
    | cut tried => exact again tried
    | succeeded tried => exact again tried
    | failed tried => exact again tried
  | _ => exact ⟨_, .none, fun works => (works rfl).elim, by simp⟩

/-- Work is dispatched in a visit, and it is lost where time runs out. -/
theorem exists_visitWork
    (visited : Visited step before history result) :
    ∃ works lost, VisitWork step before history works lost ∧
      (lost ≠ [] → result.2 = .finish (.timedOut (some step.id)) ∧
        Losing step before.schedule lost) ∧
      ∀ work ∈ works ++ lost, before.Does step work := by
  cases visited with
  | skipped refused => exact ⟨_, _, .skipped refused, fun lost => (lost rfl).elim, by simp⟩
  | unevaluated broken written rejected =>
    have blocked (met : before.conditionsOf step = .ok true) :
        ∀ input, step.resolveInput before.context ≠ .ok input := by
      rw [broken] at met
      cases met
    obtain ⟨works, followed, repeated, -⟩ := exists_retryWork rejected
    obtain rfl : works = [] := by
      by_contra some
      cases (repeated some).1
    exact ⟨_, _, .undispatched blocked (.unevaluated _) written followed,
      fun lost => (lost rfl).elim, by simp⟩
  | unresolved met unresolved written rejected =>
    have blocked (_ : before.conditionsOf step = .ok true) :
        ∀ input, step.resolveInput before.context ≠ .ok input := by
      rw [unresolved]
      nofun
    obtain ⟨works, followed, -, does⟩ := exists_retryWork rejected
    refine ⟨_, _, .undispatched blocked (.unresolved _) written followed,
      fun lost => (lost rfl).elim, ?_⟩
    obtain ⟨monitor, rfl⟩ := written.after_eq
    rw [List.append_nil]
    exact fun work member => (does met (.inr rfl) work member).of_same rfl rfl rfl
  | performed met resolved performed =>
    cases performed with
    | late => exact ⟨_, _, .late, fun lost => (lost rfl).elim, by simp⟩
    | interrupted tried written =>
      obtain ⟨works, lost, first, -, losing⟩ := exists_firstWork tried
      exact ⟨works, lost, .interrupted met resolved first written,
        fun some => ⟨rfl, losing some⟩, first.does met resolved⟩
    | @succeeded clock startedAt trying writing _ _ _ tried written =>
      obtain ⟨works, lost, first, none, -⟩ := exists_firstWork tried
      obtain rfl := none rfl
      have worked : VisitWork step before
          (⟨.clock, clock⟩ :: ⟨.now, startedAt⟩ :: trying ++ writing ++ []) (works ++ []) [] :=
        .answered met resolved first tried.continues written .none
      rw [List.append_nil] at worked
      refine ⟨_, _, worked, fun lost => (lost rfl).elim, ?_⟩
      rw [List.append_nil works]
      exact first.does met resolved
    | failed tried written _ rejected =>
      obtain ⟨works, lost, first, none, -⟩ := exists_firstWork tried
      obtain rfl := none rfl
      obtain ⟨more, followed, repeated, does⟩ := exists_retryWork rejected
      refine ⟨_, _, .answered met resolved first tried.continues written followed,
        fun lost => (lost rfl).elim, fun work member => ?_⟩
      rw [List.append_nil, List.mem_append] at member
      rcases member with member | member
      · exact first.does met resolved work (by simpa using member)
      · have reaction := (repeated (List.ne_nil_of_mem member)).2
        have again := (Step.reaction_eq_retry_iff.mp reaction).2
        obtain rfl := tried.after_eq (Step.type_ne_parallel_of_effectiveAction again)
        obtain ⟨monitor, rfl⟩ := written.after_eq
        exact (does met (.inl resolved) work member).of_same rfl rfl rfl

end

/-! ## No work goes unrecorded -/

/-- The works of a history are the calls that have finished in it, and others that need
no call.  All but those that are lost are told of on the trail. -/
structure Audited
    (environment : Environment)
    (history : History)
    (works lost : List Work) : Prop where
  completes : history.Completes environment (works ++ lost)
  accounted : Accounted works history.attempts

section

variable
  {environment : Environment}
  {step : Step}
  {input : Object}
  {before after : Execution}
  {history first rest : History}
  {works more lost : List Work}

/-- What is audited part by part is audited altogether, if nothing was lost before
the last part. -/
theorem Audited.append
    (begun : Audited environment first works [])
    (continued : Audited environment rest more lost) :
    Audited environment (first ++ rest) (works ++ more) lost where
  completes := by
    have completes := begun.completes.append continued.completes
    rwa [List.append_nil, ← List.append_assoc] at completes
  accounted := by
    rw [History.attempts_append]
    exact begun.accounted.append continued.accounted

/-- Where no handler is called and no attempt is recorded there is nothing to audit. -/
theorem Audited.of_silent
    (uncalled : history.invocations = [])
    (unattempted : history.attempts = []) :
    Audited environment history [] [] where
  completes := .of_silent uncalled
  accounted := by
    rw [unattempted]
    exact .nil

theorem Audited.append_silent
    (audited : Audited environment first works lost)
    (uncalled : rest.invocations = [])
    (unattempted : rest.attempts = []) :
    Audited environment (first ++ rest) works lost where
  completes := audited.completes.append_silent uncalled
  accounted := by
    rw [History.attempts_append, unattempted, List.append_nil]
    exact audited.accounted

/-- Between visits no work is done. -/
theorem Kept.audited (kept : Kept before history after) : Audited environment history [] [] :=
  .of_silent kept.invocations_eq_nil kept.attempts_eq_nil

/-- Retries are recorded once they are over, also when time has run out. -/
theorem RetryWork.audited
    {outcome : Outcome}
    (followed : RetryWork step input outcome before history works) :
    Audited before.environment history works [] := by
  cases followed with
  | none => exact .of_silent rfl rfl
  | late => exact .of_silent rfl rfl
  | again again =>
    constructor
    · rw [List.append_nil]
      exact .append_silent (.cons again.retries.completes rfl) again.written.invocations_eq_nil
    · have told := again.written.tells before.context
      simpa [Request.attempt?, again.retries.attempts_eq_nil] using told

/-- Every call that has finished in a first attempt is among its works. -/
theorem FirstWork.completes
    {result : Option Outcome}
    (firstWork : FirstWork step input before history result works lost) :
    history.Completes before.environment (works ++ lost) := by
  cases firstWork with
  | attempted _ attempted =>
    rw [List.append_nil]
    exact attempted.completes
  | overrun _ fanned => exact fanned.completes _
  | fanned _ fanned settled =>
    rw [List.append_nil, List.append_cons]
    exact (fanned.completes _).append_silent settled.invocations_eq_nil

/-- Where time runs out during a first attempt, nothing is on the trail yet. -/
theorem FirstWork.accounted_of_none
    (firstWork : FirstWork step input before history none works lost) :
    Accounted works history.attempts := by
  cases firstWork with
  | attempted _ attempted =>
    rw [attempted.attempts_eq_nil]
    exact .nil
  | overrun _ fanned =>
    rw [History.attempts_append, fanned.attempts_eq_nil]
    exact .nil

/-- The work of a first attempt is on the trail when its outcome is. -/
theorem FirstWork.accounted
    {startedAt : Timestamp}
    {outcome : Outcome}
    {writing : History}
    {middle : Execution}
    (firstWork : FirstWork step input before history (some outcome) works lost)
    (written : Written step input startedAt 0 outcome middle writing after) :
    Accounted works (History.attempts (history ++ writing)) := by
  rw [History.attempts_append]
  cases firstWork with
  | attempted _ attempted =>
    rw [attempted.attempts_eq_nil]
    exact written.tells before.context
  | fanned parallel fanned settled =>
    have told := settled.tells fun branch member => by
      obtain ⟨listed, -, part, branched⟩ := fanned.exists_branched branch member
      exact ⟨listed, part, branched⟩
    rw [History.attempts_append, fanned.attempts_eq_nil, Branch.works_longest]
    simpa [Request.attempt?] using told.append (written.whole parallel)

/-- No work of a visit goes unrecorded, unless it is lost. -/
theorem VisitWork.audited
    (visitWork : VisitWork step before history works lost) :
    Audited before.environment history works lost := by
  cases visitWork with
  | skipped => exact .of_silent rfl rfl
  | late => exact .of_silent rfl rfl
  | @undispatched startedAt _ writing _ _ _ _ own written followed =>
    have refused : Audited before.environment (⟨.now, startedAt⟩ :: writing) [] [] :=
      ⟨.of_silent written.invocations_eq_nil, written.own own⟩
    have retried := followed.audited
    rw [written.continues.environment] at retried
    exact refused.append retried
  | interrupted _ _ first written =>
    constructor
    · exact .append_silent (.cons (.cons first.completes rfl) rfl) written.invocations_eq_nil
    · rw [History.attempts_append]
      simpa [Request.attempt?] using first.accounted_of_none.append (written.own (.interrupted _))
  | answered _ _ first continues written followed =>
    have retried := followed.audited
    rw [(continues.trans written.continues).environment] at retried
    refine .append ⟨?_, ?_⟩ retried
    · exact .append_silent (.cons (.cons first.completes rfl) rfl) written.invocations_eq_nil
    · simpa [Request.attempt?] using first.accounted written

end

/-! ## Turns and runs -/

section

variable
  {environment : Environment}
  {workflow : Workflow}
  {call : Call}
  {before : Execution}
  {history : History}
  {works lost : List Work}

/-- The work of a turn is dispatched in the visit of the step under the cursor. -/
theorem Acted.exists_works
    {result : Execution × Flow}
    (acted : Acted before history result) :
    ∃ works lost, TurnWork before history works lost ∧
      (lost ≠ [] → ∃ step, before.schedule.current? = some step ∧
        result.2 = .finish (.timedOut (some step.id)) ∧ Losing step before.schedule lost) ∧
      ∀ work ∈ works ++ lost, ∃ step, before.schedule.current? = some step ∧
        before.Does step work := by
  cases acted with
  | idle kept => exact ⟨_, _, .idle kept, fun lost => (lost rfl).elim, by simp⟩
  | exhausted kept => exact ⟨_, _, .idle kept, fun lost => (lost rfl).elim, by simp⟩
  | late kept => exact ⟨_, _, .idle kept, fun lost => (lost rfl).elim, by simp⟩
  | @visited step _ _ _ _ _ _ opened current visited _ synced =>
    obtain ⟨works, lost, worked, losing, does⟩ := exists_visitWork visited
    rw [opened.schedule] at losing
    exact ⟨works, lost, .visited opened current worked synced,
      fun some => ⟨step, current, losing some⟩,
      fun work member => ⟨step, current, (does work member).of_same opened.environment.symm
        opened.context.symm opened.schedule.symm⟩⟩

/-- Work is lost only in a turn whose step runs out of time. -/
theorem exists_turnWork
    {result : Execution × Flow}
    (acted : Acted before history result) :
    ∃ works lost, TurnWork before history works lost ∧
      (lost ≠ [] → ∃ step, before.schedule.current? = some step ∧
        result.2 = .finish (.timedOut (some step.id)) ∧ Losing step before.schedule lost) := by
  obtain ⟨works, lost, turned, losing, -⟩ := acted.exists_works
  exact ⟨works, lost, turned, losing⟩

/-- The work of a turn is told of on the trail, unless it is lost. -/
theorem TurnWork.audited
    (turnWork : TurnWork before history works lost) :
    Audited before.environment history works lost := by
  cases turnWork with
  | idle kept => exact kept.audited
  | visited opened _ visited synced =>
    have worked := visited.audited
    rw [opened.environment] at worked
    exact (opened.audited.append worked).append_silent synced.invocations_eq_nil
      synced.attempts_eq_nil

/-- Whatever work is done in a run, some turn has dispatched it. -/
theorem Run.exists_works
    {next : Next}
    (run : Run environment workflow call history (.done next)) :
    ∃ works lost, RunWork environment workflow call history works lost ∧
      ((∃ execution, next = .turn execution) → lost = []) ∧
      ∀ work ∈ works ++ lost, ∃ past execution step,
        Run environment workflow call past (.done (.turn execution)) ∧
          execution.schedule.current? = some step ∧ execution.Does step work := by
  generalize reached : Program.done next = now at run
  induction run generalizing next with
  | start begun =>
    subst reached
    exact ⟨[], [], .start (started_of_ends begun), fun _ => rfl, by simp⟩
  | @turn past acting execution now run turned inductionHypothesis =>
    subst reached
    obtain ⟨works, lost, earlier, none, dispatched⟩ := inductionHypothesis rfl
    obtain rfl := none ⟨execution, rfl⟩
    have known (more lost : List Work)
        (does : ∀ work ∈ more ++ lost, ∃ step, execution.schedule.current? = some step ∧
          execution.Does step work) :
        ∀ work ∈ works ++ more ++ lost, ∃ past execution step,
          Run environment workflow call past (.done (.turn execution)) ∧
            execution.schedule.current? = some step ∧ execution.Does step work := by
      intro work member
      rw [List.append_assoc, List.mem_append] at member
      rcases member with member | member
      · exact dispatched work (List.mem_append_left _ member)
      · obtain ⟨step, current, done⟩ := does work member
        exact ⟨past, execution, step, run, current, done⟩
    rcases ends_turn turned with
      ⟨last, acted, rfl⟩ | ⟨last, ending, acting, closing, record, rfl, acted, ends, rfl⟩
    · obtain ⟨more, lost, turned, losing, does⟩ := (acted_of_ends acted).exists_works
      obtain rfl : lost = [] := by
        by_contra some
        obtain ⟨_, _, ended, _⟩ := losing some
        cases ended
      exact ⟨works ++ more, [], .turn run earlier turned, fun _ => rfl, known more [] does⟩
    · obtain ⟨more, lost, turned, -, does⟩ := (acted_of_ends acted).exists_works
      rw [← List.append_assoc]
      refine ⟨works ++ more, lost, .closed (.turn run earlier turned) (closed_of_ends ends),
        ?_, known more lost does⟩
      rintro ⟨_, impossible⟩
      cases impossible

/-- Until its last turn a run loses no work. -/
theorem Run.exists_runWork
    {execution : Execution}
    (run : Run environment workflow call history (.done (.turn execution))) :
    ∃ works, RunWork environment workflow call history works [] := by
  obtain ⟨works, lost, runWork, none, -⟩ := run.exists_works
  obtain rfl := none ⟨execution, rfl⟩
  exact ⟨works, runWork⟩

/-- The work of a run is told of on the trail, unless it is lost. -/
theorem RunWork.audited
    (runWork : RunWork environment workflow call history works lost) :
    Audited environment history works lost := by
  induction runWork with
  | start started => exact .of_silent started.invocations_eq_nil started.attempts_eq_nil
  | turn run _ turned inductionHypothesis =>
    have worked := turned.audited
    rw [run.follows.environment_eq] at worked
    exact inductionHypothesis.append worked
  | closed _ closed inductionHypothesis =>
    exact inductionHypothesis.append_silent closed.invocations_eq_nil closed.attempts_eq_nil

/-- An attempt on the trail of a run belongs to its execution. -/
theorem Run.identity_of_mem_trail
    {now : Program Next}
    {attempt : StepRecord}
    (run : Run environment workflow call history now)
    (member : attempt ∈ history.trail) :
    attempt.executionId = call.executionId ∧
      attempt.tenantId = call.options.tenantId.getD defaultTenant := by
  obtain ⟨⟨request, answer⟩, made, filed⟩ := List.mem_filterMap.mp member
  have carries := run.follows_phase.2 _ made
  cases request with
  | append record =>
    cases answer with
    | ok stored =>
      cases filed
      exact carries
    | error error => cases filed
  | _ => cases filed

/-- Whatever work a run has finished by its end, a record on the trail tells of it,
one for each, in their order, and the other records are about the execution itself.
Work is only lost where the time limit has cut a fan-out, and then it is that of
branches which had finished before. -/
theorem Run.finished_work_on_trail
    {record : ExecutionRecord}
    (run : Run environment workflow call history (.done (.ended record)))
    (accepted : ∀ attempt error, ⟨.append attempt, .error error⟩ ∉ history) :
    ∃ works lost,
      RunWork environment workflow call history works lost ∧
      history.finished.map .ofCall = (works ++ lost).filter (·.isCall environment) ∧
      Accounted works history.trail ∧
      (∀ attempt ∈ history.trail, attempt.executionId = call.executionId ∧
        attempt.tenantId = call.options.tenantId.getD defaultTenant) ∧
      (lost ≠ [] → record.status = .timeout ∧ ∃ step ∈ workflow.steps, step.type = .parallel ∧
        ∀ work ∈ lost, work.invocation.step.id ∈ step.subSteps) := by
  obtain ⟨past, execution, acting, last, ending, closing, rfl, begun, acted, ends⟩ := run.last_turn
  have closed := closed_of_ends ends
  obtain ⟨works, earlier⟩ := begun.exists_runWork
  obtain ⟨more, lost, turned, losing⟩ := exists_turnWork (acted_of_ends acted)
  have runWork :
      RunWork environment workflow call (past ++ acting ++ closing) (works ++ more) lost :=
    .closed (.turn begun earlier turned) closed
  refine ⟨_, lost, runWork, runWork.audited.completes.finished_eq, ?_,
    fun _ => run.identity_of_mem_trail, fun some => ?_⟩
  · rw [History.trail_eq_attempts accepted]
    exact runWork.audited.accounted
  · obtain ⟨step, current, ended, parallel, branches⟩ := losing some
    cases ended
    refine ⟨closed.status, step, ?_, parallel, fun work member => ?_⟩
    · exact begun.follows.mem_steps (Schedule.mem_steps_of_current? current)
    · obtain ⟨id, listed, found⟩ := List.mem_filterMap.mp (branches work member)
      obtain rfl : work.invocation.step.id = id := by simpa using List.find?_some found
      exact listed

end

/-- A branch, a failed attempt and its retry all have finished, and all of them are on
the trail, next to the parallel step. -/
theorem finished_work_of_spread :
    ∃ history record works,
      played { handled := [(.custom "call", true)] } spread { executionId := "run" } 5
        spreadReplies = (history, .ended record) ∧
      history.finished.map (fun called => called.1.step.id) = ["branch", "last", "last"] ∧
      history.trail.map StepRecord.stepId = ["branch", "fan", "last", "last"] ∧
      history.finished.map .ofCall =
        works.filter (Work.isCall { handled := [(.custom "call", true)] }) ∧
      Accounted works history.trail := by
  have run := run_played { handled := [(.custom "call", true)] } spread { executionId := "run" } 5
    spreadReplies
  obtain ⟨record, ended, completed⟩ : ∃ record,
      (played { handled := [(.custom "call", true)] } spread { executionId := "run" } 5
        spreadReplies).2 = .ended record ∧ record.status = .completed := ⟨_, rfl, rfl⟩
  rw [ended] at run
  obtain ⟨works, lost, -, finished, accounted, -, losing⟩ :=
    run.finished_work_on_trail (accepted_playTurns _ _ _)
  obtain rfl : lost = [] := by
    by_contra some
    rw [(losing some).1] at completed
    cases completed
  rw [List.append_nil] at finished
  exact ⟨_, record, works, Prod.ext rfl ended, rfl, rfl, finished, accounted⟩

/-- A workflow that fans out to a quick step and a slow one. -/
def race : Workflow where
  id := "race"
  steps :=
    [{ id := "fan", type := .parallel
       config := .object [("stepIds", .array [.text "quick", .text "slow"])] },
     { id := "quick", type := .custom "call", order := 1 },
     { id := "slow", type := .custom "call", order := 2 }]

/-- A handler replies at once, and then time runs out while another one is waited for.
There is no record of the reply. -/
theorem finished_work_lost_in_race :
    race.isValid = true ∧
    ∃ history record called,
      Run { handled := [(.custom "call", true)] } race
        { executionId := "run", options := { timeout := some (.ofMillis 1000) } } history
        (.done (.ended record)) ∧
      (∀ attempt error, ⟨.append attempt, .error error⟩ ∉ history) ∧
      history.finished = [called] ∧ called.1.step.id = "quick" ∧
      called.2.outcome.result.data = [("quick", .ofNat 1)] ∧
      history.trail.map StepRecord.stepId = ["fan"] ∧ record.status = .timeout := by
  have run := run_played { handled := [(.custom "call", true)] } race
    { executionId := "run", options := { timeout := some (.ofMillis 1000) } } 3
    [⟨.zero, .ok (StepResult.succeed.withOutput "quick" (.ofNat 1))⟩,
     ⟨.ofMillis 5000, .ok .succeed⟩]
  obtain ⟨record, ended, timeout⟩ : ∃ record,
      (played { handled := [(.custom "call", true)] } race
        { executionId := "run", options := { timeout := some (.ofMillis 1000) } } 3
        [⟨.zero, .ok (StepResult.succeed.withOutput "quick" (.ofNat 1))⟩,
         ⟨.ofMillis 5000, .ok .succeed⟩]).2 = .ended record ∧
      record.status = .timeout := ⟨_, rfl, rfl⟩
  rw [ended] at run
  exact ⟨by rfl, _, record, _, run, accepted_playTurns _ _ _, rfl, rfl, rfl, rfl, timeout⟩

end Execution
end WorkflowEngine
