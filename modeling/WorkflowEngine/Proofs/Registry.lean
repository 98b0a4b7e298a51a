import Mathlib.Data.List.Nodup
import WorkflowEngine.Registry

/-!
# Entries and channels

What the operations of a registry change.  Every one of them is about a single
identifier, and in a registry whose entries have channels of their own it
reaches a single channel.
-/

namespace WorkflowEngine

namespace Dict

variable {α : Type}

/-- No key is there twice. -/
def Unambiguous (dict : Dict α) : Prop := (keys dict).Nodup

theorem find?_eq_none_iff {key : String} {dict : Dict α} :
    find? key dict = none ↔ key ∉ keys dict := by
  induction dict with
  | nil => simp [keys]
  | cons entry rest inductionHypothesis =>
    obtain ⟨other, value⟩ := entry
    unfold keys at inductionHypothesis ⊢
    rw [find?_cons, List.map_cons, List.mem_cons, not_or, ← inductionHypothesis]
    by_cases same : other = key
    · simp [same]
    · simp [same, Ne.symm same]

/-- Where no key is there twice, every entry is found under its key. -/
theorem find?_eq_some_iff
    {key : String}
    {value : α}
    {dict : Dict α}
    (unambiguous : Unambiguous dict) :
    find? key dict = some value ↔ (key, value) ∈ dict := by
  induction dict with
  | nil => simp
  | cons entry rest inductionHypothesis =>
    obtain ⟨other, old⟩ := entry
    obtain ⟨fresh, unambiguous⟩ := List.nodup_cons.mp unambiguous
    rw [find?_cons, List.mem_cons, ← inductionHypothesis unambiguous]
    by_cases same : other = key
    · subst same
      simp [find?_eq_none_iff.mpr fresh, eq_comm]
    · simp [same, Ne.symm same]

/-- A new entry comes in addition to the others. -/
theorem insert_perm
    {key : String}
    {dict : Dict α}
    (absent : find? key dict = none)
    (value : α) :
    (insert key value dict).Perm ((key, value) :: dict) := by
  induction dict with
  | nil => exact .refl _
  | cons entry rest inductionHypothesis =>
    obtain ⟨other, old⟩ := entry
    rw [find?_cons] at absent
    split at absent
    next => cases absent
    next different =>
      unfold insert
      rw [if_neg different]
      split
      · exact .refl _
      · exact ((inductionHypothesis absent).cons _).trans (.swap _ _ _)

/-- Under a key that is free, one entry is added. -/
theorem keys_insert
    {key : String}
    {dict : Dict α}
    (absent : find? key dict = none)
    (value : α) :
    (keys (insert key value dict)).Perm (key :: keys dict) :=
  (insert_perm absent value).map Prod.fst

/-- What a change leaves alone may be counted before it or behind it. -/
theorem countP_modify
    {kind : String × α → Bool}
    {key : String}
    {change : α → α}
    (blind : ∀ value, kind (key, change value) = kind (key, value))
    (dict : Dict α) :
    (modify key change dict).countP kind = dict.countP kind := by
  induction dict with
  | nil => rfl
  | cons entry rest inductionHypothesis =>
    obtain ⟨other, value⟩ := entry
    unfold modify
    split
    next same => rw [same, List.countP_cons, List.countP_cons, blind]
    next => rw [List.countP_cons, List.countP_cons, inductionHypothesis]

/-- Storing under a free key keeps the keys different. -/
theorem Unambiguous.insert
    {key : String}
    {dict : Dict α}
    (unambiguous : Unambiguous dict)
    (absent : find? key dict = none)
    (value : α) :
    Unambiguous (Dict.insert key value dict) :=
  (keys_insert absent value).nodup_iff.mpr
    (List.nodup_cons.mpr ⟨find?_eq_none_iff.mp absent, unambiguous⟩)

/-- A change of a value leaves the keys alone. -/
@[simp] theorem keys_modify (key : String) (change : α → α) (dict : Dict α) :
    keys (modify key change dict) = keys dict := by
  induction dict with
  | nil => rfl
  | cons entry rest inductionHypothesis =>
    obtain ⟨other, value⟩ := entry
    unfold modify
    split
    · rfl
    · exact congrArg (List.cons other) inductionHypothesis

/-- Only the value under the key is changed. -/
theorem find?_modify (key other : String) (change : α → α) (dict : Dict α) :
    find? other (modify key change dict) =
      if other = key then (find? other dict).map change else find? other dict := by
  induction dict with
  | nil => simp [modify]
  | cons entry rest inductionHypothesis =>
    obtain ⟨first, value⟩ := entry
    unfold modify
    by_cases same : first = key
    · subst same
      rw [if_pos rfl]
      by_cases found : other = first
      · simp [found]
      · simp [found, Ne.symm found]
    · rw [if_neg same, find?_cons, find?_cons, inductionHypothesis]
      by_cases found : first = other
      · subst found
        simp [same]
      · simp [found]

theorem erase_sublist (key : String) (dict : Dict α) : (erase key dict).Sublist dict := by
  induction dict with
  | nil => exact .slnil
  | cons entry rest inductionHypothesis =>
    obtain ⟨other, value⟩ := entry
    unfold erase
    split
    · exact List.sublist_cons_self _ _
    · exact inductionHypothesis.cons_cons _

/-- Removing an entry keeps the keys different. -/
theorem Unambiguous.erase
    {dict : Dict α}
    (unambiguous : Unambiguous dict)
    (key : String) :
    Unambiguous (Dict.erase key dict) :=
  unambiguous.sublist ((erase_sublist key dict).map Prod.fst)

/-- Nothing is found any more under a key that was removed, as it is not there twice. -/
theorem find?_erase
    {dict : Dict α}
    (unambiguous : Unambiguous dict)
    (key other : String) :
    find? other (erase key dict) = if other = key then none else find? other dict := by
  induction dict with
  | nil => simp
  | cons entry rest inductionHypothesis =>
    obtain ⟨first, value⟩ := entry
    obtain ⟨fresh, unambiguous⟩ := List.nodup_cons.mp unambiguous
    unfold erase
    by_cases same : first = key
    · subst same
      rw [if_pos rfl]
      by_cases found : other = first
      · rw [if_pos found, found]
        exact find?_eq_none_iff.mpr fresh
      · rw [if_neg found, find?_cons, if_neg (Ne.symm found)]
    · rw [if_neg same, find?_cons, find?_cons, inductionHypothesis unambiguous]
      by_cases found : first = other
      · subst found
        simp [same]
      · simp [found]

end Dict

/-- The status that a granted request gives to the execution that it is for.  One
that is cancelled is forgotten. -/
def Signal.status? : Signal → Option ExecutionStatus
  | .run => some .running
  | .pause => some .paused
  | .cancel _ => none

namespace Registry

/-- The state of a channel. -/
def channel (registry : Registry) (number : Nat) : Channel :=
  registry.channels[number]?.getD {}

/-- What a caller asks for by a signal. -/
def grant (registry : Registry) (id : String) : Signal → Except EngineError Registry
  | .run => registry.resume id
  | .pause => registry.pause id
  | .cancel reason => registry.cancel id reason

/-- The entries of a registry have channels of their own, on which an execution
can still be told something. -/
structure Sound (registry : Registry) : Prop where
  unambiguous : Dict.Unambiguous registry.entries
  bounded : ∀ {id entry}, registry.entry? id = some entry →
    entry.channel < registry.channels.length
  distinct : ∀ {id other entry last}, registry.entry? id = some entry →
    registry.entry? other = some last → entry.channel = last.channel → id = other
  opened : ∀ {id entry}, registry.entry? id = some entry →
    (registry.channel entry.channel).closed = false ∧
      ∀ reason, (registry.channel entry.channel).signal ≠ .cancel reason

theorem sound_empty : Sound {} where
  unambiguous := List.nodup_nil
  bounded := nofun
  distinct := nofun
  opened := nofun

section

variable
  {registry after : Registry}
  {id workflowId tenantId : String}
  {limit : Nat}
  {listener : Listener}
  {entry : Entry}
  {signal : Signal}

/-! ## Admission -/

/-- An admission takes an identifier that is free, and hands out a new channel. -/
theorem register_ok
    (admitted : registry.register id workflowId tenantId limit = .ok (after, listener)) :
    registry.entry? id = none ∧ listener = { channel := registry.channels.length } ∧
      after =
        { entries :=
            Dict.insert id { workflowId, tenantId, channel := registry.channels.length }
              registry.entries
          channels := registry.channels ++ [{}] } := by
  unfold register at admitted
  dsimp only at admitted
  split at admitted
  next => cases admitted
  next unknown =>
    split at admitted
    next => cases admitted
    next =>
      cases admitted
      exact ⟨Option.not_isSome_iff_eq_none.mp unknown, rfl, rfl⟩

/-- The new entry is pending, and the others are as they were. -/
theorem entry?_register
    (admitted : registry.register id workflowId tenantId limit = .ok (after, listener))
    (other : String) :
    after.entry? other =
      if other = id then some { workflowId, tenantId, channel := registry.channels.length }
      else registry.entry? other := by
  obtain ⟨-, -, rfl⟩ := register_ok admitted
  unfold entry?
  by_cases same : other = id
  · subst same
    rw [if_pos rfl]
    exact Dict.find?_insert_self _ _ _
  · rw [if_neg same]
    exact Dict.find?_insert_of_ne same _ _

/-- A new channel says what a missing one says, so that none has changed. -/
theorem channel_register
    (admitted : registry.register id workflowId tenantId limit = .ok (after, listener))
    (number : Nat) :
    after.channel number = registry.channel number := by
  obtain ⟨-, -, rfl⟩ := register_ok admitted
  unfold channel
  dsimp only
  rw [List.getElem?_append, List.getElem?_singleton]
  split
  next => rfl
  next beyond =>
    rw [List.getElem?_eq_none (Nat.le_of_not_lt beyond)]
    split <;> rfl

/-- The channel of a new entry belongs to nobody else. -/
theorem Sound.register
    (sound : registry.Sound)
    (admitted : registry.register id workflowId tenantId limit = .ok (after, listener)) :
    after.Sound := by
  have entries := entry?_register admitted
  have channels := channel_register admitted
  obtain ⟨absent, -, same⟩ := register_ok admitted
  have wider : after.channels.length = registry.channels.length + 1 := by
    rw [same, List.length_append]
    rfl
  constructor
  · rw [same]
    exact sound.unambiguous.insert absent _
  · intro other entry known
    rw [entries] at known
    split at known
    next =>
      cases known
      exact wider ▸ Nat.lt_succ_self _
    next => exact wider ▸ Nat.lt_succ_of_lt (sound.bounded known)
  · intro first other entry last known found shared
    rw [entries] at known found
    split at known <;> split at found
    next => simp [*]
    next =>
      cases known
      exact absurd shared.symm (Nat.ne_of_lt (sound.bounded found))
    next =>
      cases found
      exact absurd shared (Nat.ne_of_lt (sound.bounded known))
    next => exact sound.distinct known found shared
  · intro other entry known
    rw [entries] at known
    rw [channels]
    split at known
    next =>
      cases known
      unfold channel
      simp
    next => exact sound.opened known

/-! ## Statuses -/

theorem entry?_setStatus
    (registry : Registry)
    (id other : String)
    (status : ExecutionStatus) :
    Registry.entry? (registry.setStatus id status) other =
      if other = id then (registry.entry? other).map fun entry => { entry with status := status }
      else registry.entry? other :=
  Dict.find?_modify _ _ _ _

/-- Apart from statuses the entries are as they were. -/
theorem exists_entry_of_setStatus
    {other : String}
    {status : ExecutionStatus}
    (known : Registry.entry? (registry.setStatus id status) other = some entry) :
    ∃ before, registry.entry? other = some before ∧ entry.channel = before.channel ∧
      entry.workflowId = before.workflowId ∧ entry.tenantId = before.tenantId := by
  rw [entry?_setStatus] at known
  split at known
  next =>
    obtain ⟨before, found, rfl⟩ := Option.map_eq_some_iff.mp known
    exact ⟨before, found, rfl, rfl, rfl⟩
  next => exact ⟨entry, known, rfl, rfl, rfl⟩

theorem Sound.setStatus
    (sound : registry.Sound)
    (id : String)
    (status : ExecutionStatus) :
    (registry.setStatus id status).Sound := by
  constructor
  · unfold Dict.Unambiguous Registry.setStatus
    rw [Dict.keys_modify]
    exact sound.unambiguous
  · intro other entry known
    obtain ⟨before, found, same, -⟩ := exists_entry_of_setStatus known
    exact same ▸ sound.bounded found
  · intro first other entry last known found shared
    obtain ⟨before, known, same, -⟩ := exists_entry_of_setStatus known
    obtain ⟨behind, found, alike, -⟩ := exists_entry_of_setStatus found
    exact sound.distinct known found (same ▸ alike ▸ shared)
  · intro other entry known
    obtain ⟨before, found, same, -⟩ := exists_entry_of_setStatus known
    exact same ▸ sound.opened found

/-! ## Signals -/

/-- A change of one channel leaves the others alone. -/
theorem channel_modify
    (channels : List Channel)
    (number target : Nat)
    (change : Channel → Channel) :
    ((channels.modify target change)[number]?.getD {} : Channel) =
      if number = target ∧ number < channels.length then change (channels[number]?.getD {})
      else channels[number]?.getD {} := by
  rw [List.getElem?_modify]
  by_cases bounded : number < channels.length
  · by_cases same : target = number
    · simp [same, bounded]
    · simp [same, Ne.symm same, bounded]
  · simp [bounded]

/-- A signal is sent on one channel alone. -/
theorem channel_send
    (number channel : Nat)
    (signal : Signal) :
    (registry.send channel signal).channel number =
      if number = channel ∧ number < registry.channels.length then
        (registry.channel number).send signal
      else registry.channel number :=
  channel_modify _ _ _ _

theorem unregister_of_absent (absent : registry.entry? id = none) :
    registry.unregister id = registry := by
  unfold unregister
  rw [absent]

theorem unregister_of_known (known : registry.entry? id = some entry) :
    registry.unregister id =
      { entries := Dict.erase id registry.entries
        channels := registry.channels.modify entry.channel Channel.close } := by
  unfold unregister
  rw [known]

/-- The channel of an entry that is removed is closed, and the others stay. -/
theorem channel_unregister
    (known : registry.entry? id = some entry)
    (number : Nat) :
    (registry.unregister id).channel number =
      if number = entry.channel ∧ number < registry.channels.length then
        (registry.channel number).close
      else registry.channel number := by
  rw [unregister_of_known known]
  exact channel_modify _ _ _ _

/-- No channel says anything new when an entry is removed. -/
theorem signal_unregister
    (registry : Registry)
    (id : String)
    (number : Nat) :
    ((registry.unregister id).channel number).signal = (registry.channel number).signal := by
  cases known : registry.entry? id with
  | none => rw [unregister_of_absent known]
  | some entry =>
    rw [channel_unregister known]
    split <;> rfl

/-! ## Departures -/

/-- The entry is gone, and no other one. -/
theorem entry?_unregister
    (unambiguous : Dict.Unambiguous registry.entries)
    (id other : String) :
    Registry.entry? (registry.unregister id) other =
      if other = id then none else registry.entry? other := by
  cases known : registry.entry? id with
  | none =>
    rw [unregister_of_absent known]
    split
    next same => rw [same, known]
    next => rfl
  | some entry =>
    rw [unregister_of_known known]
    exact Dict.find?_erase unambiguous _ _

theorem length_unregister (registry : Registry) (id : String) :
    (registry.unregister id).channels.length = registry.channels.length := by
  unfold unregister
  split
  · rfl
  · exact List.length_modify _ _ _

theorem unambiguous_unregister
    (unambiguous : Dict.Unambiguous registry.entries)
    (id : String) :
    Dict.Unambiguous (registry.unregister id).entries := by
  unfold unregister
  split
  · exact unambiguous
  · exact unambiguous.erase _

/-- A departure takes an entry away, and closes its channel only. -/
theorem Sound.of_departure
    (id : String)
    (sound : registry.Sound)
    (unambiguous : Dict.Unambiguous after.entries)
    (entries : ∀ {other entry}, after.entry? other = some entry →
      other ≠ id ∧ registry.entry? other = some entry)
    (width : after.channels.length = registry.channels.length)
    (channels : ∀ {number}, (∀ entry, registry.entry? id = some entry → number ≠ entry.channel) →
      after.channel number = registry.channel number) :
    after.Sound := by
  constructor
  · exact unambiguous
  · intro other entry known
    exact width ▸ sound.bounded (entries known).2
  · intro first other entry last known found shared
    exact sound.distinct (entries known).2 (entries found).2 shared
  · intro other entry known
    obtain ⟨different, found⟩ := entries known
    rw [channels fun gone departed shared => different (sound.distinct found departed shared)]
    exact sound.opened found

/-- The entries that are left still have channels of their own. -/
theorem Sound.unregister
    (sound : registry.Sound)
    (id : String) :
    (registry.unregister id).Sound := by
  refine .of_departure id sound (unambiguous_unregister sound.unambiguous id) ?_
    (length_unregister registry id) ?_
  · intro other entry known
    rw [entry?_unregister sound.unambiguous] at known
    split at known
    next => cases known
    next different => exact ⟨different, known⟩
  · intro number apart
    cases known : registry.entry? id with
    | none => rw [unregister_of_absent known]
    | some entry =>
      rw [channel_unregister known, if_neg fun same => apart entry known same.1]

/-! ## Requests of callers -/

/-- A transition is granted to an entry with the right status alone, and tells it so. -/
theorem transition_ok
    {action : LifecycleAction}
    {source target : ExecutionStatus}
    (granted : registry.transition id action source target signal = .ok after) :
    ∃ entry, registry.entry? id = some entry ∧ entry.status = source ∧
      after = (registry.setStatus id target).send entry.channel signal := by
  unfold transition at granted
  split at granted
  next => cases granted
  next entry known =>
    split at granted
    next same =>
      cases granted
      exact ⟨entry, known, same, rfl⟩
    next => cases granted

/-- A cancellation is granted to an entry that goes on: it hears of it and is removed. -/
theorem cancel_ok
    {reason : Option String}
    (granted : registry.cancel id reason = .ok after) :
    ∃ entry, registry.entry? id = some entry ∧ entry.status.isTerminal = false ∧
      after = (registry.send entry.channel (.cancel reason)).unregister id := by
  unfold cancel at granted
  split at granted
  next => cases granted
  next entry known =>
    split at granted
    next => cases granted
    next going =>
      cases granted
      exact ⟨entry, known, by simpa using going, rfl⟩

/-- A granted request is sent to an execution that is there.  One that is
cancelled is then forgotten. -/
theorem grant_ok (granted : registry.grant id signal = .ok after) :
    ∃ entry, registry.entry? id = some entry ∧
      ((∃ status, signal.status? = some status ∧
          after = (registry.setStatus id status).send entry.channel signal) ∨
        signal.status? = none ∧ after = (registry.send entry.channel signal).unregister id) := by
  cases signal with
  | run =>
    obtain ⟨entry, known, -, rfl⟩ := transition_ok granted
    exact ⟨entry, known, .inl ⟨_, rfl, rfl⟩⟩
  | pause =>
    obtain ⟨entry, known, -, rfl⟩ := transition_ok granted
    exact ⟨entry, known, .inl ⟨_, rfl, rfl⟩⟩
  | cancel reason =>
    obtain ⟨entry, known, -, rfl⟩ := cancel_ok granted
    exact ⟨entry, known, .inr ⟨rfl, rfl⟩⟩

/-- No entry is told to stop by a transition. -/
theorem Sound.of_transition
    {status : ExecutionStatus}
    (sound : registry.Sound)
    (number : Nat)
    (passing : ∀ reason, signal ≠ .cancel reason) :
    ((registry.setStatus id status).send number signal).Sound := by
  have still := sound.setStatus id status
  constructor
  · exact still.unambiguous
  · intro other entry known
    have bounded := still.bounded known
    unfold send
    rwa [List.length_modify]
  · exact still.distinct
  · intro other last known
    rw [channel_send]
    split
    next => exact ⟨(still.opened known).1, passing⟩
    next => exact still.opened known

/-- The channel that says to stop belongs to no entry any more. -/
theorem Sound.cancel
    {reason : Option String}
    (sound : registry.Sound)
    (granted : registry.cancel id reason = .ok after) :
    after.Sound := by
  obtain ⟨entry, known, -, rfl⟩ := cancel_ok granted
  have sent : Registry.entry? (registry.send entry.channel (.cancel reason)) id = some entry :=
    known
  have unambiguous : Dict.Unambiguous (registry.send entry.channel (.cancel reason)).entries :=
    sound.unambiguous
  refine .of_departure id sound (unambiguous_unregister unambiguous id) ?_ ?_ ?_
  · intro other last found
    rw [entry?_unregister unambiguous] at found
    split at found
    next => cases found
    next different => exact ⟨different, found⟩
  · rw [length_unregister]
    exact List.length_modify _ _ _
  · intro number apart
    rw [channel_unregister sent, if_neg fun same => apart entry known same.1, channel_send,
      if_neg fun same => apart entry known same.1]

/-- Whatever is granted, the entries have channels of their own on which they can be told. -/
theorem Sound.grant
    (sound : registry.Sound)
    (granted : registry.grant id signal = .ok after) :
    after.Sound := by
  cases signal with
  | run =>
    obtain ⟨entry, -, -, rfl⟩ := transition_ok granted
    exact sound.of_transition _ nofun
  | pause =>
    obtain ⟨entry, -, -, rfl⟩ := transition_ok granted
    exact sound.of_transition _ nofun
  | cancel reason => exact sound.cancel granted

/-- What a granted request leaves of the entry that it is for, and of the
others. -/
theorem entry?_grant
    (sound : registry.Sound)
    (granted : registry.grant id signal = .ok after)
    (known : registry.entry? id = some entry)
    (other : String) :
    after.entry? other =
      if other = id then signal.status?.map fun status => { entry with status := status }
      else registry.entry? other := by
  obtain ⟨found, same, ⟨status, going, rfl⟩ | ⟨gone, rfl⟩⟩ := grant_ok granted
  · refine (entry?_setStatus registry id other status).trans ?_
    split
    next same =>
      rw [same, known, going]
      rfl
    next => rfl
  · have unambiguous : Dict.Unambiguous (registry.send found.channel signal).entries :=
      sound.unambiguous
    rw [gone]
    exact entry?_unregister unambiguous id other

/-- A granted request is heard on the channel of its execution. -/
theorem signal_grant
    (sound : registry.Sound)
    (granted : registry.grant id signal = .ok after)
    (known : registry.entry? id = some entry)
    (number : Nat) :
    (after.channel number).signal =
      if number = entry.channel then signal else (registry.channel number).signal := by
  have sent (registry : Registry) (bounded : entry.channel < registry.channels.length) :
      ((registry.send entry.channel signal).channel number).signal =
        if number = entry.channel then signal else (registry.channel number).signal := by
    rw [channel_send]
    by_cases same : number = entry.channel
    · subst same
      rw [if_pos ⟨rfl, bounded⟩, if_pos rfl]
      rfl
    · rw [if_neg fun both => same both.1, if_neg same]
  obtain ⟨found, same, ⟨status, -, rfl⟩ | ⟨-, rfl⟩⟩ := grant_ok granted
  · cases known.symm.trans same
    exact sent _ (sound.bounded known)
  · cases known.symm.trans same
    rw [signal_unregister]
    exact sent _ (sound.bounded known)

/-- No other channel hears of a granted request. -/
theorem getElem?_grant
    {number : Nat}
    (granted : registry.grant id signal = .ok after)
    (known : registry.entry? id = some entry)
    (other : number ≠ entry.channel) :
    after.channels[number]? = registry.channels[number]? := by
  obtain ⟨found, same, ⟨status, -, rfl⟩ | ⟨-, rfl⟩⟩ := grant_ok granted
  · cases known.symm.trans same
    exact List.getElem?_modify_ne _ _ other.symm
  · cases known.symm.trans same
    have sent : Registry.entry? (registry.send entry.channel signal) id = some entry := known
    rw [unregister_of_known sent]
    exact (List.getElem?_modify_ne _ _ other.symm).trans
      (List.getElem?_modify_ne _ _ other.symm)

/-- No channel is opened by a request of a caller. -/
theorem length_grant (granted : registry.grant id signal = .ok after) :
    after.channels.length = registry.channels.length := by
  obtain ⟨found, -, ⟨status, -, rfl⟩ | ⟨-, rfl⟩⟩ := grant_ok granted
  · exact List.length_modify _ _ _
  · rw [length_unregister]
    exact List.length_modify _ _ _

end

end Registry
end WorkflowEngine
