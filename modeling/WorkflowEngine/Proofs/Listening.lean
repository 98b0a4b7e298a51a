import WorkflowEngine.Proofs.Interleaving

/-!
# Who listens to whom

Every execution has a channel of its own from its admission on, and the entry
with that channel is its entry.  The entry is there only while the execution
listens: it is gone once the execution was told to stop, and once it has left.
-/

namespace WorkflowEngine

open Execution (identityOf)

namespace Phase

/-- The channel that an execution was given when it was admitted. -/
def channel? : Phase → Option Nat
  | .outside | .refused => none
  | .entering channel | .between channel | .stepping channel | .stopping channel _
  | .left channel _ | .closed channel _ => some channel

/-- Whether an execution may still look at its signal. -/
def isListening : Phase → Bool
  | .entering _ | .between _ | .stepping _ => true
  | _ => false

@[simp] theorem channel?_ofSignal (channel : Nat) (signal : Signal) :
    (ofSignal channel signal).channel? = some channel := by
  cases signal <;> rfl

section

variable {request : Request}

/-- What is no business of the registry makes no difference to the channel. -/
theorem after_foreign
    (phase : Phase)
    (answer : request.Answer)
    (foreign : request.isForRegistry = false) :
    (phase.after ⟨request, answer⟩).channel? = phase.channel? ∧
      (phase.after ⟨request, answer⟩).isListening = phase.isListening := by
  cases request <;> first | (cases phase <;> exact ⟨rfl, rfl⟩) | cases foreign

end

end Phase

/-- Entries belong to the executions that listen to their channels. -/
structure Fleet.Listens (moves : List Move) (fleet : Fleet) : Prop where
  sound : fleet.registry.Sound
  bounded : ∀ {job channel}, (historyOf job moves).phase.channel? = some channel →
    channel < fleet.registry.channels.length
  owned : ∀ {job id entry},
    (historyOf job moves).phase.channel? = some entry.channel →
    fleet.registry.entry? id = some entry →
    (historyOf job moves).phase.isListening = true ∧
      ∃ order, (orders moves)[job]? = some order ∧
        order.identity = ⟨id, entry.workflowId, entry.tenantId⟩

/-- An entry that does not belong to a new channel was there before. -/
theorem Registry.Answers.exists_entry
    {registry after : Registry}
    {request : Request}
    {answer : request.Answer}
    {id : String}
    {entry : Entry}
    (sound : registry.Sound)
    (answers : registry.Answers request answer after)
    (known : after.entry? id = some entry)
    (old : entry.channel < registry.channels.length) :
    ∃ before, registry.entry? id = some before ∧ entry.channel = before.channel ∧
      entry.workflowId = before.workflowId ∧ entry.tenantId = before.tenantId := by
  cases answers with
  | admitted admitted =>
    rw [Registry.entry?_register admitted] at known
    split at known
    next =>
      cases known
      exact (Nat.lt_irrefl _ old).elim
    next => exact ⟨entry, known, rfl, rfl, rfl⟩
  | setStatus => exact Registry.exists_entry_of_setStatus known
  | unregister =>
    rw [Registry.entry?_unregister sound.unambiguous] at known
    split at known
    next => cases known
    next => exact ⟨entry, known, rfl, rfl, rfl⟩
  | _ => exact ⟨entry, known, rfl, rfl, rfl⟩

theorem Registry.Sound.answers
    {registry after : Registry}
    {request : Request}
    {answer : request.Answer}
    (sound : registry.Sound)
    (answers : registry.Answers request answer after) :
    after.Sound := by
  cases answers with
  | admitted admitted => exact sound.register admitted
  | setStatus id status => exact sound.setStatus id status
  | unregister id => exact sound.unregister id
  | _ => exact sound

theorem Registry.Answers.length_le
    {registry after : Registry}
    {request : Request}
    {answer : request.Answer}
    (answers : registry.Answers request answer after) :
    registry.channels.length ≤ after.channels.length := by
  cases answers with
  | admitted admitted =>
    obtain ⟨-, -, rfl⟩ := Registry.register_ok admitted
    simp
  | setStatus => exact Nat.le_refl _
  | unregister => exact Nat.le_of_eq (Registry.length_unregister _ _).symm
  | _ => exact Nat.le_refl _

/-- A look shows the latest signal, or that none will come any more. -/
theorem Registry.Answers.look
    {registry after : Registry}
    {request : Request}
    {answer : request.Answer}
    {listener : Listener}
    (answers : registry.Answers request answer after)
    (looks : request.listener? = some listener) :
    after = registry ∧ ∃ next, (Exchange.mk request answer).look? = some next ∧
      (next = .ofSignal listener.channel (registry.channel listener.channel).signal ∨
        (registry.channel listener.channel).closed = true ∧
          (∀ reason, (registry.channel listener.channel).signal ≠ .cancel reason) ∧
          next = .stopping listener.channel none) := by
  cases answers with
  | signal other =>
    cases looks
    exact ⟨rfl, _, rfl, .inl rfl⟩
  | @listen other heard awake =>
    cases looks
    refine ⟨rfl, ?_⟩
    unfold Registry.heard? at awake
    dsimp only at awake
    split at awake
    next =>
      cases awake
      exact ⟨_, rfl, .inl rfl⟩
    next =>
      split at awake
      next closed =>
        cases awake
        change (registry.channel listener.channel).closed = true at closed
        change ∃ next, (Exchange.mk (.listen listener)
          (.silence (registry.channel listener.channel).signal)).look? = some next ∧ _
        generalize (registry.channel listener.channel).signal = signal
        cases signal with
        | cancel reason => exact ⟨_, rfl, .inl rfl⟩
        | _ => exact ⟨_, rfl, .inr ⟨closed, nofun, rfl⟩⟩
      next => cases awake
  | foreign foreign =>
    cases request with
    | signal | listen => cases foreign
    | _ => cases looks
  | _ => cases looks

/-! ## One exchange -/

namespace Fleet.Listens

section

variable
  {moves : List Move}
  {fleet : Fleet}
  {job : Nat}
  {order : Order}
  {request : Request}
  {answer : request.Answer}
  {after : Registry}

/-- What a look at its signal leads an execution to, while its entry is there. -/
theorem look
    (listens : fleet.Listens moves)
    (answers : fleet.registry.Answers request answer after)
    {listener : Listener}
    (looks : request.listener? = some listener)
    (phase : Phase) :
    (phase.after ⟨request, answer⟩).channel? = some listener.channel ∧
      ∀ {id entry}, fleet.registry.entry? id = some entry → entry.channel = listener.channel →
        (phase.after ⟨request, answer⟩).isListening = true := by
  obtain ⟨rfl, next, looks, shown | ⟨closed, -, shown⟩⟩ := answers.look looks
  · rw [Phase.after_of_look looks, shown]
    refine ⟨Phase.channel?_ofSignal _ _, fun known same => ?_⟩
    obtain ⟨-, going⟩ := listens.sound.opened known
    rw [same] at going
    generalize (Registry.channel _ _).signal = signal at going
    cases signal with
    | cancel reason => exact (going reason rfl).elim
    | _ => rfl
  · rw [Phase.after_of_look looks, shown]
    refine ⟨rfl, fun known same => ?_⟩
    obtain ⟨opened, -⟩ := listens.sound.opened known
    rw [same, closed] at opened
    cases opened

/-- The channel of an execution that makes an exchange is one of those that have
been opened. -/
theorem bounded_after
    (listens : fleet.Listens moves)
    (allows : (historyOf job moves).phase.Allows request)
    (answers : fleet.registry.Answers request answer after)
    {channel : Nat}
    (reached : ((historyOf job moves).phase.after ⟨request, answer⟩).channel? = some channel) :
    channel < after.channels.length := by
  have known (same : (historyOf job moves).phase.channel? = some channel) :
      channel < after.channels.length :=
    Nat.lt_of_lt_of_le (listens.bounded same) answers.length_le
  generalize (historyOf job moves).phase = phase at allows reached known
  have looked {listener : Listener} (looks : request.listener? = some listener) :
      channel < after.channels.length := by
    rw [(listens.look answers looks phase).1] at reached
    rcases allows.of_look looks with rfl | rfl <;> exact known reached
  cases answers with
  | admitted admitted =>
    cases allows.of_register
    obtain ⟨-, rfl, rfl⟩ := Registry.register_ok admitted
    cases reached
    simp
  | rejected =>
    cases allows.of_register
    cases reached
  | setStatus =>
    obtain ⟨-, channel, rfl⟩ := allows.of_setStatus
    exact known reached
  | unregister id =>
    obtain ⟨_, rfl⟩ | ⟨_, rfl⟩ | ⟨_, _, rfl⟩ := allows.of_unregister
    · cases reached
    · exact known reached
    · exact known reached
  | signal => exact looked rfl
  | listen => exact looked rfl
  | foreign foreign => exact known ((phase.after_foreign answer foreign).1 ▸ reached)

/-- The entry of an execution that makes an exchange is its own, and it listens
as long as the entry is there. -/
theorem owned_after
    (listens : fleet.Listens moves)
    (ordered : (orders moves)[job]? = some order)
    (allows : (historyOf job moves).phase.Allows request)
    (carries : request.Carries order.identity)
    (answers : fleet.registry.Answers request answer after)
    {id : String}
    {entry : Entry}
    (reached : ((historyOf job moves).phase.after ⟨request, answer⟩).channel? =
      some entry.channel)
    (known : after.entry? id = some entry) :
    ((historyOf job moves).phase.after ⟨request, answer⟩).isListening = true ∧
      order.identity = ⟨id, entry.workflowId, entry.tenantId⟩ := by
  -- As long as the channel stays the same, the entry was its own before.
  have owned (same : (historyOf job moves).phase.channel? = some entry.channel) :
      (historyOf job moves).phase.isListening = true ∧
        order.identity = ⟨id, entry.workflowId, entry.tenantId⟩ := by
    obtain ⟨before, found, channel, workflowId, tenantId⟩ :=
      answers.exists_entry listens.sound known (listens.bounded same)
    rw [channel] at same
    obtain ⟨listening, other, given, identity⟩ := listens.owned same found
    cases ordered.symm.trans given
    rw [workflowId, tenantId]
    exact ⟨listening, identity⟩
  generalize (historyOf job moves).phase = phase at allows reached owned
  have looked {listener : Listener} (looks : request.listener? = some listener) :
      (phase.after ⟨request, answer⟩).isListening = true ∧
        order.identity = ⟨id, entry.workflowId, entry.tenantId⟩ := by
    obtain ⟨same, listening⟩ := listens.look answers looks phase
    obtain ⟨rfl, -⟩ := answers.look looks
    have shared : entry.channel = listener.channel := by
      rw [same] at reached
      exact (Option.some.inj reached).symm
    refine ⟨listening known shared, (owned ?_).2⟩
    rcases allows.of_look looks with rfl | rfl <;> exact congrArg some shared.symm
  cases answers with
  | admitted admitted =>
    cases allows.of_register
    rw [Registry.entry?_register admitted] at known
    obtain ⟨-, rfl, -⟩ := Registry.register_ok admitted
    split at known
    next same =>
      cases known
      exact ⟨rfl, carries.symm.trans (by rw [same])⟩
    next =>
      have old := listens.sound.bounded known
      injection reached with reached
      exact (Nat.ne_of_lt old reached.symm).elim
  | rejected =>
    cases allows.of_register
    cases reached
  | setStatus =>
    obtain ⟨-, channel, rfl⟩ := allows.of_setStatus
    exact owned reached
  | unregister other =>
    -- Its entry is gone for good once it has left.
    rw [Registry.entry?_unregister listens.sound.unambiguous] at known
    split at known
    next => cases known
    next different =>
      have gone (same : order.identity = ⟨id, entry.workflowId, entry.tenantId⟩) : False :=
        different ((congrArg Identity.executionId same).symm.trans carries.symm)
      obtain ⟨_, rfl⟩ | ⟨_, rfl⟩ | ⟨_, _, rfl⟩ := allows.of_unregister
      · cases reached
      · exact (gone (owned reached).2).elim
      · exact (gone (owned reached).2).elim
  | signal => exact looked rfl
  | listen => exact looked rfl
  | foreign foreign =>
    obtain ⟨channel, listening⟩ := phase.after_foreign answer foreign
    rw [channel] at reached
    rw [listening]
    exact owned reached

end

/-! ## Any number of exchanges -/

theorem start : Listens [] {} where
  sound := Registry.sound_empty
  bounded := nofun
  owned _ := nofun

/-- Where nothing happens to the executions, their entries stay with them. -/
theorem of_same
    {moves : List Move}
    {move : Move}
    {fleet after : Fleet}
    (listens : fleet.Listens moves)
    (sound : after.registry.Sound)
    (silent : ∀ job, move.exchange? job = none)
    (width : after.registry.channels.length = fleet.registry.channels.length)
    (entries : ∀ {id entry}, after.registry.entry? id = some entry →
      ∃ before, fleet.registry.entry? id = some before ∧ entry.channel = before.channel ∧
        entry.workflowId = before.workflowId ∧ entry.tenantId = before.tenantId) :
    after.Listens (moves ++ [move]) := by
  have kept (job : Nat) : historyOf job (moves ++ [move]) = historyOf job moves := by
    simp [silent job]
  constructor
  · exact sound
  · intro job channel reached
    rw [kept] at reached
    exact width ▸ listens.bounded reached
  · intro job id entry reached known
    rw [kept] at reached ⊢
    obtain ⟨before, found, channel, workflowId, tenantId⟩ := entries known
    rw [channel] at reached
    obtain ⟨listening, order, ordered, identity⟩ := listens.owned reached found
    refine ⟨listening, order, ?_, ?_⟩
    · rw [orders_append, List.getElem?_append_left (List.getElem?_eq_some_iff.mp ordered).1]
      exact ordered
    · rw [workflowId, tenantId]
      exact identity

theorem moves
    {moves : List Move}
    {move : Move}
    {fleet after : Fleet}
    (tracks : fleet.Tracks moves)
    (listens : fleet.Listens moves)
    (moved : fleet.Moves move after) :
    after.Listens (moves ++ [move]) := by
  cases moved with
  | call order =>
    exact listens.of_same listens.sound (fun _ => rfl) rfl fun known =>
      ⟨_, known, rfl, rfl, rfl⟩
  | turn turns =>
    exact listens.of_same listens.sound (fun _ => rfl) rfl fun known =>
      ⟨_, known, rfl, rfl, rfl⟩
  | @grant id entry signal registry known granted =>
    refine listens.of_same (listens.sound.grant granted) (fun _ => rfl)
      (Registry.length_grant granted) fun found => ?_
    rw [Registry.entry?_grant listens.sound granted known] at found
    split at found
    next same =>
      obtain ⟨status, -, rfl⟩ := Option.map_eq_some_iff.mp found
      exact ⟨entry, same ▸ known, rfl, rfl, rfl⟩
    next => exact ⟨_, found, rfl, rfl, rfl⟩
  | @exchange mover request answer next registry asks answers =>
    obtain ⟨order, ordered, run⟩ := tracks.runs asks
    obtain ⟨allows, carries, -⟩ := run.follows_phase.1
    have own : historyOf mover (moves ++ [.exchange mover ⟨request, answer⟩]) =
        historyOf mover moves ++ [⟨request, answer⟩] := by
      simp [Move.exchange?]
    have kept {job : Nat} (other : job ≠ mover) :
        historyOf job (moves ++ [.exchange mover ⟨request, answer⟩]) = historyOf job moves := by
      simp [Move.exchange?, Ne.symm other]
    have same : orders (moves ++ [.exchange mover ⟨request, answer⟩]) = orders moves := by
      simp [Move.order?]
    constructor
    · exact listens.sound.answers answers
    · intro job channel reached
      by_cases moves : job = mover
      · subst moves
        rw [own, History.phase_concat] at reached
        exact listens.bounded_after allows answers reached
      · rw [kept moves] at reached
        exact Nat.lt_of_lt_of_le (listens.bounded reached) answers.length_le
    · intro job id entry reached known
      rw [same]
      by_cases moves : job = mover
      · subst moves
        rw [own, History.phase_concat] at reached ⊢
        obtain ⟨listening, identity⟩ :=
          listens.owned_after ordered allows carries answers reached known
        exact ⟨listening, order, ordered, identity⟩
      · rw [kept moves] at reached ⊢
        obtain ⟨before, found, channel, workflowId, tenantId⟩ :=
          answers.exists_entry listens.sound known (listens.bounded reached)
        rw [channel] at reached
        rw [workflowId, tenantId]
        exact listens.owned reached found

end Fleet.Listens

/-- However executions and callers are interleaved, entries belong to the
executions that listen to their channels. -/
theorem Path.listens
    {moves : List Move}
    {fleet : Fleet}
    (path : Path moves fleet) :
    fleet.Listens moves := by
  induction path with
  | start => exact Fleet.Listens.start
  | move path moved inductionHypothesis => exact inductionHypothesis.moves path.tracks moved

end WorkflowEngine
