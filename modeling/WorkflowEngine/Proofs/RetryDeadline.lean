import WorkflowEngine.Proofs.RetrySeries

/-!
# Retries cut off by a limit

Of one series of retries, those that are made within a limit are compared with
those that are made without one.  The limit may stop them early, but it changes
nothing of what was done before.
-/

namespace WorkflowEngine

namespace RetrySeries

variable {series : RetrySeries} {bound last total : Nat}

/-- Retries take as long as they need to be finished one after another. -/
theorem waited_flatMap_exchanges (total : Nat) :
    History.waited ((List.range total).flatMap series.exchanges) = series.finish total := by
  induction total with
  | zero => rfl
  | succ total inductionHypothesis =>
    rw [List.range_succ, List.flatMap_append, History.waited_append, inductionHypothesis,
      List.flatMap_singleton, waited_exchanges]
    rfl

/-- A series that is cut off would have gone on with a retry that ends too late. -/
theorem Verdict.of_cut
    {outcome : Option Outcome}
    (cut : series.Verdict (some bound) 0 last none)
    (whole : series.Verdict none 0 total outcome) :
    last < total ∧ bound < series.finish (last + 1) := by
  cases cut with
  | cut fails allowed limited short =>
    cases limited
    refine ⟨?_, short⟩
    cases whole with
    | @succeeded final _ _ success =>
      by_contra behind
      rw [fails (final + 1) (Nat.succ_pos final) (Nat.le_of_not_lt behind)] at success
      cases success
    | exhausted => exact allowed
    | cut _ _ limited _ => cases limited

/-- Retries that are not cut off end as they do without a limit. -/
theorem Verdict.eq_of_isSome
    {limit deadline : Limit}
    {first second : Option Outcome}
    (ends : series.Verdict limit 0 last first)
    (whole : series.Verdict deadline 0 total second)
    (ended : first.isSome = true)
    (other : second.isSome = true) :
    last = total ∧ first = second := by
  obtain ⟨count, succeeded, failed⟩ := ends.decided ended
  obtain ⟨same, succeeds, fails⟩ := whole.decided other
  obtain rfl : last = total := Nat.cast_injective (count.trans same.symm)
  refine ⟨rfl, ?_⟩
  rcases le_or_gt series.firstSuccess series.policy.maxRetries with within | beyond
  · rw [(succeeded within).2, (succeeds within).2]
  · rw [failed beyond, fails beyond]

section

variable {past history : History} {limited whole : Retried}

/-- Retries that a limit does not cut off are those that are made without it. -/
theorem Concluded.eq_of_ne_none
    {limit : Limit}
    (ends : series.Concluded limit 0 last past limited)
    (unlimited : series.Concluded none 0 total history whole)
    (ended : limited.outcome ≠ none) :
    limited = whole := by
  obtain ⟨rfl, decided⟩ := ends.verdict.eq_of_isSome unlimited.verdict
    (Option.isSome_iff_ne_none.mpr ended) unlimited.verdict.isSome
  have attempts := ends.attempts.trans unlimited.attempts.symm
  cases limited
  cases whole
  exact congrArg₂ Retried.mk attempts decided

/-- Retries that a limit cuts off go on without it, behind the limit. -/
theorem Concluded.of_cut
    (ends : series.Concluded (some bound) 0 last past limited)
    (unlimited : series.Concluded none 0 total history whole)
    (stopped : limited.outcome = none) :
    last < total ∧ bound < series.finish (last + 1) := by
  have verdict := ends.verdict
  rw [stopped] at verdict
  exact verdict.of_cut unlimited.verdict

/-- Without a limit the retries take until the last one is finished. -/
theorem Concluded.waited_eq
    (unlimited : series.Concluded none 0 total history whole) :
    history.waited = series.finish total := by
  rw [unlimited.history_eq unlimited.verdict.isSome, List.Ico.zero_bot,
    waited_flatMap_exchanges]

end

/-- A limit cuts retries off without a trace of what comes after it: the attempts that are
left are the first ones, among them every one that is finished before the limit, and none
that is finished behind it.  Retries that are finished before the limit do not notice it. -/
theorem attempts_survive_limit (series : RetrySeries) (bound : Nat) :
    (∃ past limited, (series.program (some bound)).Ends past limited ∧ series.Meets 1 past) ∧
    (∃ history whole, (series.program none).Ends history whole ∧ series.Meets 1 history) ∧
    ∀ past limited history whole,
      (series.program (some bound)).Ends past limited → series.Meets 1 past →
      (series.program none).Ends history whole → series.Meets 1 history →
        (limited.outcome = none →
          limited.attempts <+: whole.attempts ∧
          (∀ attempt ∈ whole.attempts, series.finish attempt.number < bound →
            attempt ∈ limited.attempts) ∧
          ∀ attempt ∈ limited.attempts, series.finish attempt.number ≤ bound) ∧
        (limited.outcome ≠ none → limited = whole) ∧
        (history.waited < bound → limited = whole) := by
  refine ⟨series.exists_ends _, series.exists_ends _, ?_⟩
  intro past limited history whole ends met unlimited meets
  obtain ⟨last, cut⟩ := concluded_of_ends ends met
  obtain ⟨total, concluded⟩ := concluded_of_ends unlimited meets
  refine ⟨fun stopped => ?_, cut.eq_of_ne_none concluded, fun fast => ?_⟩
  · obtain ⟨less, late⟩ := cut.of_cut concluded stopped
    rw [cut.attempts, concluded.attempts]
    refine ⟨?_, fun attempt member inTime => ?_, fun attempt member => ?_⟩
    · exact List.IsPrefix.map _ ⟨_, List.Ico.append_consecutive (Nat.zero_le last) less.le⟩
    · obtain ⟨number, -, rfl⟩ := List.mem_map.mp member
      refine List.mem_map_of_mem (List.Ico.mem.mpr ⟨Nat.zero_le number, ?_⟩)
      by_contra behind
      have finished : series.finish (last + 1) ≤ series.finish (number + 1) :=
        finish_mono (Nat.succ_le_succ (Nat.le_of_not_lt behind))
      exact absurd (late.trans_le finished) (Nat.not_lt_of_gt inTime)
    · obtain ⟨number, made, rfl⟩ := List.mem_map.mp member
      exact (finish_mono (List.Ico.mem.mp made).2).trans (cut.inTime bound rfl)
  · refine cut.eq_of_ne_none concluded fun stopped => ?_
    obtain ⟨less, late⟩ := cut.of_cut concluded stopped
    rw [concluded.waited_eq] at fast
    have finished : series.finish (last + 1) ≤ series.finish total := finish_mono less
    exact absurd (late.trans_le finished) (Nat.not_lt_of_gt fast)

end RetrySeries
end WorkflowEngine
