import WorkflowEngine.Proofs.Halting

/-!
# What becomes of a cancellation

A caller may cancel an execution at any time, and the execution finds out when it
looks at its signal, which it does before every step.  If it looks again, it ends
as cancelled.  If it does not, then the step that was in progress has ended it
first, and its record says how.
-/

namespace WorkflowEngine

namespace Phase

/-- Phases of an execution that cannot get to its end without a look. -/
def IsWaiting : Phase → Prop
  | .entering _ | .between _ | .refused => True
  | _ => False

/-- Phases of an execution that was not told to stop by its latest look. -/
def IsUnstopped : Phase → Prop
  | .stepping _ | .left _ none | .closed _ none => True
  | _ => False

/-- Phases of an execution that was told to stop. -/
def IsStopped (reason : Option String) : Phase → Prop
  | .stopping _ other | .left _ (some other) | .closed _ (some other) => other = reason
  | _ => False

theorem IsWaiting.of_unlooked
    {first next : Phase}
    (unlooked : Unlooked first next)
    (waiting : first.IsWaiting) :
    next.IsWaiting := by
  cases unlooked with
  | stay => exact waiting
  | stored => trivial
  | dropped => trivial
  | _ => cases waiting

theorem IsUnstopped.of_unlooked
    {first next : Phase}
    (unlooked : Unlooked first next)
    (unstopped : first.IsUnstopped) :
    next.IsUnstopped := by
  cases unlooked with
  | stay => exact unstopped
  | finished => trivial
  | announced channel stop =>
    cases stop with
    | none => trivial
    | some reason => cases unstopped
  | _ => cases unstopped

theorem IsStopped.of_unlooked
    {reason : Option String}
    {first next : Phase}
    (unlooked : Unlooked first next)
    (stopped : first.IsStopped reason) :
    next.IsStopped reason := by
  cases unlooked with
  | stay => exact stopped
  | stopped => exact stopped
  | announced channel stop =>
    cases stop with
    | none => cases stopped
    | some other => exact stopped
  | _ => cases stopped

end Phase

section

variable
  {before since : List Move}
  {fleet : Fleet}
  {job channel : Nat}
  {id : String}
  {reason : Option String}

/-- An execution that does not look again after a cancellation is still on its way,
or it was carrying out a step when it was cancelled, and nothing has stopped it. -/
theorem Path.of_silent
    (path : Path (before ++ [.grant id channel (.cancel reason)] ++ since) fleet)
    (admitted : (historyOf job before).phase.channel? = some channel)
    (silent : ∀ exchange ∈ historyOf job since, exchange.isLook = false) :
    (historyOf job (before ++ [.grant id channel (.cancel reason)] ++ since)).phase.IsWaiting ∨
      (historyOf job before).phase = .stepping channel ∧
        (historyOf job
          (before ++ [.grant id channel (.cancel reason)] ++ since)).phase.IsUnstopped := by
  have same : historyOf job (before ++ [.grant id channel (.cancel reason)] ++ since) =
      historyOf job before ++ historyOf job since := by
    simp [Move.exchange?]
  obtain ⟨middle, path⟩ := path.of_append
  obtain ⟨first, earlier, moved⟩ := path.of_concat
  rw [same, History.phase_append]
  -- Only an execution that listens can be cancelled.
  have listening : (historyOf job before).phase.isListening = true := by
    cases moved with
    | grant known granted => exact (earlier.listens.owned admitted known).1
  generalize (historyOf job before).phase = phase at admitted listening
  cases phase with
  | entering => exact .inl (Phase.foldl_of_unlooked Phase.IsWaiting.of_unlooked silent trivial)
  | between => exact .inl (Phase.foldl_of_unlooked Phase.IsWaiting.of_unlooked silent trivial)
  | stepping other =>
    cases admitted
    exact .inr ⟨rfl, Phase.foldl_of_unlooked Phase.IsUnstopped.of_unlooked silent trivial⟩
  | _ => cases listening

end

end WorkflowEngine
