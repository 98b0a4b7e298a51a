import WorkflowEngine.Proofs.Listening

/-!
# Halting executions

Once a caller has paused or cancelled an execution, its loop begins no further
step: it only carries on with the step that its latest look at the signal let
begin.  What a channel says changes by granted requests alone, so every look
from then on finds that the execution is to halt.
-/

namespace WorkflowEngine

/-- The signal that a move sends on a channel. -/
def Move.signal? (channel : Nat) : Move → Option Signal
  | .grant _ other signal => if other = channel then some signal else none
  | _ => none

/-- Whether an exchange is a look at a signal. -/
def Exchange.isLook (exchange : Exchange) : Bool := exchange.look?.isSome

/-! ## What is said on a channel -/

section

variable
  {moves since : List Move}
  {move : Move}
  {fleet after : Fleet}

theorem Registry.Answers.signal_eq
    {registry after : Registry}
    {request : Request}
    {answer : request.Answer}
    (answers : registry.Answers request answer after)
    (channel : Nat) :
    (after.channel channel).signal = (registry.channel channel).signal := by
  cases answers with
  | admitted admitted => rw [Registry.channel_register admitted]
  | unregister id => exact Registry.signal_unregister _ _ _
  | _ => rfl

/-- Only a granted request changes what a channel says. -/
theorem Fleet.Moves.signal_eq
    (sound : fleet.registry.Sound)
    (moved : fleet.Moves move after)
    (channel : Nat) :
    (after.registry.channel channel).signal =
      (move.signal? channel).getD (fleet.registry.channel channel).signal := by
  cases moved with
  | call => rfl
  | turn => rfl
  | exchange asks answers => exact answers.signal_eq channel
  | @grant id entry signal registry known granted =>
    refine (Registry.signal_grant sound granted known channel).trans ?_
    change _ = (if entry.channel = channel then some signal else none).getD _
    by_cases same : channel = entry.channel
    · rw [if_pos same, if_pos same.symm]
      rfl
    · rw [if_neg same, if_neg (Ne.symm same)]
      rfl

/-- An entry that does not belong to a new channel was there before. -/
theorem Fleet.Moves.exists_entry
    {id : String}
    {entry : Entry}
    (sound : fleet.registry.Sound)
    (moved : fleet.Moves move after)
    (known : after.registry.entry? id = some entry)
    (old : entry.channel < fleet.registry.channels.length) :
    ∃ before, fleet.registry.entry? id = some before ∧ entry.channel = before.channel := by
  cases moved with
  | call => exact ⟨entry, known, rfl⟩
  | turn => exact ⟨entry, known, rfl⟩
  | exchange asks answers =>
    obtain ⟨before, found, same, -⟩ := answers.exists_entry sound known old
    exact ⟨before, found, same⟩
  | @grant other last signal registry found granted =>
    rw [Registry.entry?_grant sound granted found] at known
    split at known
    next same =>
      obtain ⟨status, -, rfl⟩ := Option.map_eq_some_iff.mp known
      exact ⟨last, same ▸ found, rfl⟩
    next => exact ⟨entry, known, rfl⟩

theorem Fleet.Moves.length_le (moved : fleet.Moves move after) :
    fleet.registry.channels.length ≤ after.registry.channels.length := by
  cases moved with
  | exchange asks answers => exact answers.length_le
  | grant known granted => exact Nat.le_of_eq (Registry.length_grant granted).symm
  | _ => exact Nat.le_refl _

/-- A channel on which an execution was cancelled. -/
structure Fleet.IsDropped (fleet : Fleet) (channel : Nat) : Prop where
  bounded : channel < fleet.registry.channels.length
  absent : ∀ {id entry}, fleet.registry.entry? id = some entry → entry.channel ≠ channel

theorem Fleet.IsDropped.stays
    {channel : Nat}
    (sound : fleet.registry.Sound)
    (dropped : fleet.IsDropped channel)
    (moved : fleet.Moves move after) :
    after.IsDropped channel where
  bounded := Nat.lt_of_lt_of_le dropped.bounded moved.length_le
  absent known same := by
    obtain ⟨before, found, shared⟩ := moved.exists_entry sound known (same ▸ dropped.bounded)
    exact dropped.absent found (shared.symm.trans same)

/-- The channel of an execution that was cancelled has no entry any more. -/
theorem Fleet.isDropped_of_cancel
    {id : String}
    {channel : Nat}
    {reason : Option String}
    (sound : fleet.registry.Sound)
    (moved : fleet.Moves (.grant id channel (.cancel reason)) after) :
    after.IsDropped channel := by
  cases moved with
  | @grant _ entry _ registry known granted =>
    constructor
    · exact Registry.length_grant granted ▸ sound.bounded known
    · intro other last found same
      rw [Registry.entry?_grant sound granted known] at found
      split at found
      next => cases found
      next different => exact different (sound.distinct found known same)

/-- Nothing is said any more to an execution that was cancelled. -/
theorem Path.signal?_eq_none_of_cancel
    {id : String}
    {channel : Nat}
    {reason : Option String}
    (path : Path (moves ++ [.grant id channel (.cancel reason)] ++ since) fleet) :
    fleet.IsDropped channel ∧ ∀ move ∈ since, move.signal? channel = none := by
  induction since using List.reverseRecOn generalizing fleet with
  | nil =>
    rw [List.append_nil] at path
    obtain ⟨before, path, moved⟩ := path.of_concat
    exact ⟨Fleet.isDropped_of_cancel path.listens.sound moved, by simp⟩
  | append_singleton since move inductionHypothesis =>
    rw [← List.append_assoc] at path
    obtain ⟨before, path, moved⟩ := path.of_concat
    obtain ⟨dropped, silent⟩ := inductionHypothesis path
    refine ⟨dropped.stays path.listens.sound moved, List.forall_mem_append.mpr ⟨silent, ?_⟩⟩
    intro last member
    obtain rfl := List.mem_singleton.mp member
    cases moved with
    | grant known granted => exact if_neg (dropped.absent known)
    | _ => rfl

end

/-! ## What an execution hears -/

namespace Phase

section

variable {phase : Phase} {exchange : Exchange} {channel : Nat}

/-- How an execution comes from phase to phase without a look. -/
inductive Unlooked : Phase → Phase → Prop
  | stay (phase : Phase) : Unlooked phase phase
  | admitted (channel : Nat) : Unlooked .outside (.entering channel)
  | rejected : Unlooked .outside .refused
  | stored (channel : Nat) : Unlooked (.entering channel) (.between channel)
  | dropped (channel : Nat) : Unlooked (.entering channel) .refused
  | finished (channel : Nat) : Unlooked (.stepping channel) (.left channel none)
  | stopped (channel : Nat) (reason : Option String) :
      Unlooked (.stopping channel reason) (.left channel (some reason))
  | announced (channel : Nat) (stop : Option (Option String)) :
      Unlooked (.left channel stop) (.closed channel stop)

theorem unlooked_after (silent : exchange.isLook = false) :
    Unlooked phase (phase.after exchange) := by
  have unlooked : exchange.look? = none := Option.not_isSome_iff_eq_none.mp (by
    unfold Exchange.isLook at silent
    simp [silent])
  unfold after
  rw [unlooked]
  dsimp only
  split <;> constructor

/-- What is kept without a look is kept by any number of exchanges. -/
theorem foldl_of_unlooked
    {holds : Phase → Prop}
    (keeps : ∀ {first next}, Unlooked first next → holds first → holds next)
    {history : History}
    (silent : ∀ exchange ∈ history, exchange.isLook = false)
    (held : holds phase) :
    holds (history.foldl after phase) := by
  induction history generalizing phase with
  | nil => exact held
  | cons exchange rest inductionHypothesis =>
    have silent := List.forall_mem_cons.mp silent
    exact inductionHypothesis silent.2 (keeps (unlooked_after silent.1) held)

end

end Phase

section

variable
  {moves since : List Move}
  {move : Move}
  {fleet after : Fleet}
  {job channel : Nat}

/-- An execution keeps the channel that it was given, unless it leaves before its
record is stored. -/
theorem Phase.channel?_of_answers
    {registry after : Registry}
    {request : Request}
    {answer : request.Answer}
    {phase : Phase}
    (admitted : phase.channel? = some channel)
    (allows : phase.Allows request)
    (answers : registry.Answers request answer after) :
    (phase.after ⟨request, answer⟩).channel? = some channel ∨
      phase.after ⟨request, answer⟩ = .refused ∧ ∃ id, request = .unregister id := by
  have looked {listener : Listener} (looks : request.listener? = some listener) :
      (phase.after ⟨request, answer⟩).channel? = some channel := by
    have same : listener.channel = channel := by
      rcases allows.of_look looks with rfl | rfl <;> exact Option.some.inj admitted
    obtain ⟨-, next, looks, shown | ⟨-, -, shown⟩⟩ := answers.look looks
    · rw [Phase.after_of_look looks, shown, same]
      exact Phase.channel?_ofSignal _ _
    · rw [Phase.after_of_look looks, shown, same]
      rfl
  cases answers with
  | admitted =>
    cases allows.of_register
    cases admitted
  | rejected =>
    cases allows.of_register
    cases admitted
  | setStatus =>
    obtain ⟨-, _, rfl⟩ := allows.of_setStatus
    exact .inl admitted
  | unregister id =>
    obtain ⟨_, rfl⟩ | ⟨_, rfl⟩ | ⟨_, _, rfl⟩ := allows.of_unregister
    · exact .inr ⟨rfl, id, rfl⟩
    · exact .inl admitted
    · exact .inl admitted
  | signal => exact .inl (looked rfl)
  | listen => exact .inl (looked rfl)
  | foreign foreign => exact .inl ((phase.after_foreign answer foreign).1.trans admitted)

/-- An exchange of an execution answers what it asks for, and its phase allows
it to. -/
theorem Path.of_exchange
    {exchange : Exchange}
    (path : Path moves fleet)
    (moved : fleet.Moves move after)
    (made : move.exchange? job = some exchange) :
    (historyOf job moves).phase.Allows exchange.request ∧
      fleet.registry.Answers exchange.request exchange.answer after.registry := by
  cases moved with
  | exchange asks answers =>
    unfold Move.exchange? at made
    dsimp only at made
    split at made
    next same =>
      subst same
      cases made
      obtain ⟨order, -, run⟩ := path.tracks.runs asks
      exact ⟨run.follows_phase.1.1, answers⟩
    next => cases made
  | _ => cases made

theorem Path.channel?_append
    (path : Path (moves ++ since) fleet)
    (admitted : (historyOf job moves).phase.channel? = some channel) :
    (historyOf job (moves ++ since)).phase.channel? = some channel ∨
      (historyOf job (moves ++ since)).phase = .refused ∧
        ∃ exchange ∈ historyOf job since, ∃ id, exchange.request = .unregister id := by
  induction since using List.reverseRecOn generalizing fleet with
  | nil =>
    rw [List.append_nil]
    exact .inl admitted
  | append_singleton since move inductionHypothesis =>
    rw [← List.append_assoc] at path ⊢
    obtain ⟨before, earlier, moved⟩ := path.of_concat
    have reached := inductionHypothesis earlier
    rw [historyOf_append, historyOf_append job since, historyOf_singleton]
    cases made : move.exchange? job with
    | none => simpa using reached
    | some exchange =>
      obtain ⟨allows, answers⟩ := earlier.of_exchange moved made
      rw [Option.toList_some, History.phase_concat]
      rcases reached with reached | ⟨reached, -⟩
      · rcases Phase.channel?_of_answers reached allows answers with kept | ⟨refused, id, left⟩
        · exact .inl kept
        · exact .inr ⟨refused, exchange, by simp, id, left⟩
      · rw [reached] at allows
        exact allows.elim

end

/-- A workflow with a single step. -/
def Order.single : Order where
  environment := { handled := [(.custom "work", true)] }
  workflow := { id := "single", steps := [{ id := "work", type := .custom "work" }] }
  call := { executionId := "run" }

end WorkflowEngine
