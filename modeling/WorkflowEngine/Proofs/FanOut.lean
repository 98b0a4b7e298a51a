import WorkflowEngine.Execution.FanOut
import WorkflowEngine.Proofs.Dispatch

/-!
# Histories of fan-outs

How the sub-steps of a parallel step go.  All handlers are called before any of
them is waited for.
-/

namespace WorkflowEngine

/-- The steps that a parallel step runs come in the order in which it lists them. -/
theorem Schedule.ids_branches_sublist (schedule : Schedule) (parent : Step) :
    ((schedule.branches parent).map Step.id).Sublist parent.subSteps := by
  unfold branches
  induction parent.subSteps with
  | nil => exact .slnil
  | cons id rest inductionHypothesis =>
    rw [List.filterMap_cons]
    split
    next => exact inductionHypothesis.cons id
    next step found =>
      obtain rfl : step.id = id := by simpa using List.find?_some found
      exact inductionHypothesis.cons_cons step.id

/-- A parallel step runs only what it lists, found by its identifier. -/
theorem Schedule.listed_of_mem_branches
    {schedule : Schedule}
    {parent listed : Step}
    (member : listed ∈ schedule.branches parent) :
    listed.id ∈ parent.subSteps ∧ schedule.step? listed.id = some listed := by
  obtain ⟨id, named, found⟩ := List.mem_filterMap.mp member
  obtain rfl : listed.id = id := by simpa using List.find?_some found
  exact ⟨named, found⟩

/-- The branches of a fan-out are steps of the schedule. -/
theorem Schedule.mem_steps_of_mem_branches
    {schedule : Schedule}
    {parent listed : Step}
    (member : listed ∈ schedule.branches parent) :
    listed ∈ schedule.steps :=
  List.mem_of_find?_eq_some (listed_of_mem_branches member).2

section

variable
  (environment : Environment)
  (context : Context)

/-- How a sub-step of a parallel step goes until its handler is waited for. -/
inductive Branched (step : Step) : History → Branch → Prop
  | inactive
      (idle : step.isActive = false) :
      Branched step [] (.skipped step)
  | unmet
      (active : step.isActive = true)
      (refused : Condition.evaluateAll context.semantics step.conditions
        (.object context.data) = .ok false) :
      Branched step [] (.skipped step)
  | unevaluated
      {error : ConditionError}
      {startedAt : Timestamp}
      (active : step.isActive = true)
      (broken : Condition.evaluateAll context.semantics step.conditions
        (.object context.data) = .error error) :
      Branched step [⟨.now, startedAt⟩]
        (.ran step [] startedAt (.failed (EngineError.conditionEvaluation error).message true))
  | unresolved
      {missing : MissingInput}
      {startedAt : Timestamp}
      (active : step.isActive = true)
      (met : Condition.evaluateAll context.semantics step.conditions
        (.object context.data) = .ok true)
      (unresolved : step.resolveInput context = .error missing) :
      Branched step [⟨.now, startedAt⟩]
        (.ran step [] startedAt (.failed missing.message false))
  | settled
      {input : Object}
      {outcome : Outcome}
      {startedAt : Timestamp}
      (active : step.isActive = true)
      (met : Condition.evaluateAll context.semantics step.conditions
        (.object context.data) = .ok true)
      (resolved : step.resolveInput context = .ok input)
      (dispatched : Dispatch.ofStep environment context step input = .settled outcome) :
      Branched step [⟨.now, startedAt⟩] (.ran step input startedAt outcome)
  | called
      {input : Object}
      {startedAt : Timestamp}
      {reply : Reply}
      (active : step.isActive = true)
      (met : Condition.evaluateAll context.semantics step.conditions
        (.object context.data) = .ok true)
      (resolved : step.resolveInput context = .ok input)
      (dispatched : Dispatch.ofStep environment context step input =
        .call ⟨step, input, context⟩) :
      Branched step [⟨.now, startedAt⟩, ⟨.invoke ⟨step, input, context⟩, reply⟩]
        (.ran step input startedAt reply.outcome)

/-- How the sub-steps of a parallel step go until their handlers are waited
for. -/
inductive FannedOut : List Step → History → List Branch → Prop
  | nil : FannedOut [] [] []
  | cons
      {step : Step}
      {steps : List Step}
      {first rest : History}
      {branch : Branch}
      {branches : List Branch}
      (branched : Branched environment context step first branch)
      (others : FannedOut steps rest branches) :
      FannedOut (step :: steps) (first ++ rest) (branch :: branches)

variable {environment context}

theorem runBranch_uses (step : Step) :
    (runBranch environment context step).Uses Request.isDispatch := by
  unfold runBranch
  split
  · trivial
  · split
    · trivial
    · exact ⟨rfl, fun startedAt => trivial⟩
    · refine ⟨rfl, fun startedAt => ?_⟩
      split
      · trivial
      · split
        · trivial
        · exact ⟨rfl, fun reply => trivial⟩

theorem fanOutWithin_uses (steps : List Step) (limit : Limit) :
    (fanOutWithin environment context steps limit).Uses Request.isDispatch := by
  have branches : (runBranches environment context steps).Uses Request.isDispatch := by
    induction steps with
    | nil => trivial
    | cons step rest inductionHypothesis =>
      exact (runBranch_uses step).bind fun branch =>
        inductionHypothesis.bind fun branches => trivial
  refine branches.bind fun branches => (waitWithin_uses _ _).bind fun left => ?_
  cases left <;> trivial

theorem branched_of_ends
    {step : Step}
    {history : History}
    {branch : Branch}
    (ends : (runBranch environment context step).Ends history branch) :
    Branched environment context step history branch := by
  unfold runBranch at ends
  split at ends
  next idle =>
    obtain ⟨rfl, rfl⟩ := ends.of_done
    exact .inactive (by simpa using idle)
  next active =>
    have active : step.isActive = true := by simpa using active
    split at ends
    next refused =>
      obtain ⟨rfl, rfl⟩ := ends.of_done
      exact .unmet active refused
    next error broken =>
      obtain ⟨startedAt, _, rfl, failed⟩ := ends.of_request
      obtain ⟨rfl, rfl⟩ := failed.of_done
      exact .unevaluated active broken
    next met =>
      obtain ⟨startedAt, _, rfl, continued⟩ := ends.of_request
      split at continued
      next missing unresolved =>
        obtain ⟨rfl, rfl⟩ := continued.of_done
        exact .unresolved active met unresolved
      next input resolved =>
        split at continued
        next outcome dispatched =>
          obtain ⟨rfl, rfl⟩ := continued.of_done
          exact .settled active met resolved dispatched
        next invocation dispatched =>
          obtain rfl := Dispatch.call_eq dispatched
          obtain ⟨reply, _, rfl, called⟩ := continued.of_request
          obtain ⟨rfl, rfl⟩ := called.of_done
          exact .called active met resolved dispatched

theorem fannedOut_of_ends
    {steps : List Step}
    {history : History}
    {branches : List Branch}
    (ends : (runBranches environment context steps).Ends history branches) :
    FannedOut environment context steps history branches := by
  induction steps generalizing history branches with
  | nil =>
    obtain ⟨rfl, rfl⟩ := ends.of_done
    exact .nil
  | cons step rest inductionHypothesis =>
    obtain ⟨branch, _, _, rfl, branched, continued⟩ := Program.Ends.of_bind ends
    obtain ⟨others, _, _, rfl, followed, last⟩ := continued.of_bind
    obtain ⟨rfl, rfl⟩ := last.of_done
    rw [List.append_nil]
    exact .cons (branched_of_ends branched) (inductionHypothesis followed)

/-- A parallel step waits for its slowest branch, unless the limit is reached. -/
theorem ends_fanOutWithin
    {steps : List Step}
    {limit : Limit}
    {history : History}
    {result : Option (List Branch)}
    (ends : (fanOutWithin environment context steps limit).Ends history result) :
    ∃ before branches, FannedOut environment context steps before branches ∧
      ((result = some branches ∧
          history = before ++ [⟨.wait (Branch.longest branches).ticks, ()⟩]) ∨
        ∃ millis < (Branch.longest branches).ticks,
          result = none ∧ history = before ++ [⟨.wait millis, ()⟩]) := by
  obtain ⟨branches, before, _, rfl, ran, continued⟩ := Program.Ends.of_bind ends
  refine ⟨before, branches, fannedOut_of_ends ran, ?_⟩
  obtain ⟨left, _, _, rfl, waited, last⟩ := continued.of_bind
  rcases ends_waitWithin waited with ⟨some, -, rfl⟩ | ⟨millis, short, rfl, rfl⟩
  · obtain ⟨left, rfl⟩ := Option.isSome_iff_exists.mp some
    obtain ⟨rfl, rfl⟩ := last.of_done
    exact .inl ⟨rfl, by simp⟩
  · obtain ⟨rfl, rfl⟩ := last.of_done
    exact .inr ⟨millis, short, rfl, by simp⟩

theorem FannedOut.attempts_eq_nil
    {steps : List Step}
    {history : History}
    {branches : List Branch}
    (fanned : FannedOut environment context steps history branches) :
    history.attempts = [] := by
  induction fanned with
  | nil => rfl
  | cons branched _ inductionHypothesis =>
    rw [History.attempts_append, inductionHypothesis, List.append_nil]
    cases branched <;> rfl

/-- A branch is one of the steps that were fanned out. -/
theorem Branched.step_eq
    {step : Step}
    {history : History}
    {branch : Branch}
    (branched : Branched environment context step history branch) :
    branch.step = step := by
  cases branched <;> rfl

/-- Branches come in the order of the steps that were fanned out. -/
theorem FannedOut.ids_eq
    {steps : List Step}
    {history : History}
    {branches : List Branch}
    (fanned : FannedOut environment context steps history branches) :
    branches.map (fun branch => branch.step.id) = steps.map Step.id := by
  induction fanned with
  | nil => rfl
  | cons branched _ inductionHypothesis =>
    rw [List.map_cons, branched.step_eq, inductionHypothesis, List.map_cons]

/-- Whether the sub-step of a branch came to an outcome. -/
def Branch.isRan : Branch → Bool
  | .skipped _ => false
  | .ran .. => true

/-- The sub-steps that came to an outcome. -/
def Branch.ranIds (branches : List Branch) : List String :=
  (branches.filter isRan).map fun branch => branch.step.id

theorem Branch.ranIds_sublist (branches : List Branch) :
    (ranIds branches).Sublist (branches.map fun branch => branch.step.id) :=
  List.filter_sublist.map _

/-- Every branch comes from one of the steps that were fanned out. -/
theorem FannedOut.exists_branched
    {steps : List Step}
    {history : History}
    {branches : List Branch}
    (fanned : FannedOut environment context steps history branches) :
    ∀ branch ∈ branches, ∃ step ∈ steps, ∃ part,
      Branched environment context step part branch := by
  induction fanned with
  | nil => simp
  | cons branched _ inductionHypothesis =>
    rintro branch (_ | ⟨_, member⟩)
    · exact ⟨_, List.mem_cons_self, _, branched⟩
    · obtain ⟨step, member, part, found⟩ := inductionHypothesis branch member
      exact ⟨step, List.mem_cons_of_mem _ member, part, found⟩

/-- Every handler that a fan-out calls is called for one of its branches, with
the input of that branch. -/
theorem FannedOut.branch_of_call
    {steps : List Step}
    {history : History}
    {branches : List Branch}
    (fanned : FannedOut environment context steps history branches)
    {invocation : Invocation}
    {reply : Reply}
    (member : (invocation, reply) ∈ history.invocations) :
    ∃ step ∈ steps, ∃ input startedAt,
      invocation = ⟨step, input, context⟩ ∧
      step.resolveInput context = .ok input ∧
      .ran step input startedAt reply.outcome ∈ branches := by
  induction fanned with
  | nil => simp at member
  | @cons first steps opening rest branch branches branched _ inductionHypothesis =>
    rw [History.invocations_append, List.mem_append] at member
    rcases member with member | member
    · cases branched with
      | called _ _ resolved =>
        obtain ⟨rfl, rfl⟩ : invocation = _ ∧ reply = _ := by
          simpa [Exchange.invocation?] using member
        exact ⟨first, List.mem_cons_self, _, _, rfl, resolved, List.mem_cons_self⟩
      | _ => simp [Exchange.invocation?] at member
    · obtain ⟨step, found, input, startedAt, called, resolved, ran⟩ := inductionHypothesis member
      exact ⟨step, List.mem_cons_of_mem _ found, input, startedAt, called, resolved,
        List.mem_cons_of_mem _ ran⟩

theorem FannedOut.mem_steps_of_call
    {steps : List Step}
    {history : History}
    {branches : List Branch}
    (fanned : FannedOut environment context steps history branches)
    {called : Invocation × Reply}
    (member : called ∈ history.invocations) :
    called.1.step ∈ steps := by
  obtain ⟨step, listed, _, _, same, _⟩ := fanned.branch_of_call member
  rwa [same]

end

end WorkflowEngine
