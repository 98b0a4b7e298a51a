import Mathlib.Data.List.Perm.Subperm
import WorkflowEngine.Proofs.Ownership

/-!
# How many executions are under way

The registry admits executions of a workflow up to a bound, and counts entries for
that.  Every entry belongs to an execution that is under way.  An execution that is
under way has its entry until it is cancelled, or until another execution takes the
entry away.  So the bound holds for all executions but those that were forgotten
in one of these ways.
-/

namespace WorkflowEngine

open Execution (Next Run)

/-- An execution of a workflow was admitted and has not left yet. -/
structure IsUnderWay (workflowId : String) (moves : List Move) (job : Nat) : Prop where
  admitted : (historyOf job moves).phase.isAdmitted = true
  ordered : ∃ order, (orders moves)[job]? = some order ∧ order.workflow.id = workflowId

/-- Since its admission, an execution was cancelled, or another one has taken its
entry away. -/
def IsForgotten (moves : List Move) (job : Nat) : Prop :=
  ∃ before since id workflowId tenantId limit listener,
    moves =
      before ++ [.exchange job ⟨.register id workflowId tenantId limit, .ok listener⟩] ++ since ∧
    ((∃ other reason, .grant other listener.channel (.cancel reason) ∈ since) ∨
      ∃ other answer, other ≠ job ∧ .exchange other ⟨.unregister id, answer⟩ ∈ since)

/-- The registry has the entry of an execution. -/
def Fleet.Remembers (moves : List Move) (fleet : Fleet) (job : Nat) : Prop :=
  ∃ id entry, fleet.registry.entry? id = some entry ∧
    (historyOf job moves).phase.channel? = some entry.channel

/-! ## Entries of a workflow -/

namespace Registry

variable
  {registry after : Registry}
  {id workflowId tenantId : String}
  {limit : Nat}
  {listener : Listener}
  {signal : Signal}

theorem lt_of_register
    (admitted : registry.register id workflowId tenantId limit = .ok (after, listener)) :
    registry.activeCount workflowId < limit := by
  unfold register at admitted
  dsimp only at admitted
  split at admitted
  next => cases admitted
  next =>
    split at admitted
    next => cases admitted
    next room => exact Nat.lt_of_not_le room

theorem activeCount_register
    (admitted : registry.register id workflowId tenantId limit = .ok (after, listener))
    (other : String) :
    after.activeCount other =
      registry.activeCount other + if workflowId = other then 1 else 0 := by
  obtain ⟨absent, -, rfl⟩ := register_ok admitted
  unfold activeCount
  rw [(Dict.insert_perm absent _).countP_eq, List.countP_cons]
  simp

@[simp] theorem activeCount_setStatus (status : ExecutionStatus) (other : String) :
    (registry.setStatus id status).activeCount other = registry.activeCount other := by
  unfold activeCount setStatus
  refine Dict.countP_modify ?_ _
  exact fun _ => rfl

theorem activeCount_unregister_le (registry : Registry) (id other : String) :
    (registry.unregister id).activeCount other ≤ registry.activeCount other := by
  unfold unregister
  split
  · exact Nat.le_refl _
  · exact (Dict.erase_sublist _ _).countP_le

theorem activeCount_grant_le
    (granted : registry.grant id signal = .ok after)
    (other : String) :
    after.activeCount other ≤ registry.activeCount other := by
  obtain ⟨entry, -, ⟨status, -, rfl⟩ | ⟨-, rfl⟩⟩ := grant_ok granted
  · exact Nat.le_of_eq (activeCount_setStatus status other)
  · exact activeCount_unregister_le (registry.send entry.channel signal) id other

end Registry

/-! ## Admissions -/

/-- A request asks for admission under a bound, if it asks for admission. -/
def Request.IsBounded (limit : Nat) : Request → Prop
  | .register _ _ _ bound => bound = limit
  | _ => True

/-- Whatever belongs to a turn asks for no admission. -/
theorem Request.isBounded_of_kind
    {request : Request}
    {limit : Nat}
    (kind : request.isKeeping = true ∨ request.isVisit = true) :
    request.IsBounded limit := by
  cases request with
  | register => rcases kind with kind | kind <;> cases kind
  | _ => trivial

namespace Execution

section

variable
  {environment : Environment}
  {workflow : Workflow}
  {call : Call}
  {history : History}

theorem Acted.uses
    {before : Execution}
    {result : Execution × Flow}
    (acted : Acted before history result) :
    ∀ exchange ∈ history,
      exchange.request.isKeeping = true ∨ exchange.request.isVisit = true := by
  intro exchange member
  cases acted with
  | idle kept => exact .inl (kept.keeping exchange member)
  | exhausted kept => exact .inl (kept.keeping exchange member)
  | late kept => exact .inl (kept.keeping exchange member)
  | visited opened _ _ uses synced =>
    rw [List.mem_append, List.mem_append] at member
    rcases member with (member | member) | member
    · exact .inl (opened.keeping exchange member)
    · exact .inr (uses exchange member)
    · exact .inl (synced.keeping exchange member)

theorem uses_of_turn
    {execution : Execution}
    {now : Program Next}
    (reaches : execution.turn.Reaches history now) :
    ∀ exchange ∈ history,
      exchange.request.isKeeping = true ∨ exchange.request.isVisit = true := by
  obtain ⟨rest, next, ends⟩ := reaches.exists_ends
  intro exchange member
  have member : exchange ∈ history ++ rest := List.mem_append_left rest member
  rcases ends_turn ends with
    ⟨last, acted, -⟩ | ⟨last, ending, acting, closing, record, parts, acted, closed, -⟩
  · exact (acted_of_ends acted).uses exchange member
  · rw [parts, List.mem_append] at member
    rcases member with member | member
    · exact (acted_of_ends acted).uses exchange member
    · exact .inl ((closed_of_ends closed).keeping exchange member)

theorem isBounded_of_turn
    {execution : Execution}
    {now : Program Next}
    (reaches : execution.turn.Reaches history now)
    (limit : Nat) :
    ∀ exchange ∈ history, exchange.request.IsBounded limit :=
  fun exchange member => Request.isBounded_of_kind (uses_of_turn reaches exchange member)

theorem isBounded_of_start
    {now : Program Next}
    (reaches : (start environment workflow call).Reaches history now) :
    ∀ exchange ∈ history,
      exchange.request.IsBounded (environment.concurrencyLimit workflow) := by
  obtain ⟨rest, next, ends⟩ := reaches.exists_ends
  suffices complete : ∀ exchange ∈ history ++ rest,
      exchange.request.IsBounded (environment.concurrencyLimit workflow) from
    fun exchange member => complete exchange (List.mem_append_left rest member)
  generalize history ++ rest = all at ends
  cases starts_of_ends ends with
  | rejected | unstored => simp [admission, Request.IsBounded]
  | admitted syncing =>
    obtain ⟨now, stored, rfl, -⟩ := ends_sync syncing
    simp [admission, Request.IsBounded]

/-- An execution asks for admission under the bound of its workflow. -/
theorem Run.isBounded
    {now : Program Next}
    (run : Run environment workflow call history now) :
    ∀ exchange ∈ history,
      exchange.request.IsBounded (environment.concurrencyLimit workflow) := by
  induction run with
  | start begun => exact isBounded_of_start begun
  | turn _ turned inductionHypothesis =>
    exact List.forall_mem_append.mpr ⟨inductionHypothesis, isBounded_of_turn turned _⟩

end

end Execution

section

variable
  {moves : List Move}
  {move : Move}
  {fleet after : Fleet}
  {job : Nat}

/-- An execution that asks for admission does so for its order, under the bound of
that. -/
theorem Path.order_of_register
    {id workflowId tenantId : String}
    {limit : Nat}
    {answer : (Request.register id workflowId tenantId limit).Answer}
    (path : Path moves fleet)
    (moved : fleet.Moves (.exchange job ⟨.register id workflowId tenantId limit, answer⟩) after) :
    ∃ order, (orders moves)[job]? = some order ∧ order.workflow.id = workflowId ∧
      limit = order.environment.concurrencyLimit order.workflow := by
  obtain ⟨order, ordered, carries⟩ := path.carries_of_exchange moved
  refine ⟨order, ordered, (congrArg Identity.workflowId carries).symm, ?_⟩
  have present : job < after.jobs.length := by
    rw [(path.move moved).tracks.length_eq, orders_append, List.length_append]
    exact Nat.lt_add_right _ (List.getElem?_eq_some_iff.mp ordered).1
  obtain ⟨same, known, run⟩ := (path.move moved).tracks.runs (List.getElem?_eq_getElem present)
  obtain rfl : same = order := by simpa [Move.order?, ordered, eq_comm] using known
  exact run.isBounded ⟨.register id workflowId tenantId limit, answer⟩
    (mem_historyOf.mpr (by simp))

/-- The entries of a workflow never exceed its bound. -/
theorem Path.activeCount_le
    {workflowId : String}
    {limit : Nat}
    (path : Path moves fleet)
    (steady : ∀ order ∈ orders moves, order.workflow.id = workflowId →
      order.environment.concurrencyLimit order.workflow = limit) :
    fleet.registry.activeCount workflowId ≤ limit := by
  induction path with
  | start => exact Nat.zero_le _
  | @move moves fleet after move path moved inductionHypothesis =>
    have earlier : ∀ order ∈ orders moves, order.workflow.id = workflowId →
        order.environment.concurrencyLimit order.workflow = limit := by
      intro order member
      exact steady order (by rw [orders_append]; exact List.mem_append_left _ member)
    have bounded := inductionHypothesis earlier
    cases moved with
    | call => exact bounded
    | turn => exact bounded
    | grant _ granted =>
      exact Nat.le_trans (Registry.activeCount_grant_le granted workflowId) bounded
    | @exchange job request answer next registry asks answers =>
      cases answers with
      | @admitted id named tenantId bound listener registry admitted =>
        change registry.activeCount workflowId ≤ limit
        rw [Registry.activeCount_register admitted]
        split
        next same =>
          obtain ⟨order, ordered, named, rfl⟩ :=
            path.order_of_register (.exchange asks (.admitted admitted))
          subst same
          rw [← earlier order (List.mem_of_getElem? ordered) named]
          exact Registry.lt_of_register admitted
        next => exact bounded
      | setStatus id status =>
        change Registry.activeCount _ _ ≤ limit
        rwa [Registry.activeCount_setStatus]
      | unregister id =>
        exact Nat.le_trans (Registry.activeCount_unregister_le _ id workflowId) bounded
      | _ => exact bounded

/-! ## Channels -/

/-- An execution that was ordered does not become one that was not. -/
theorem Phase.after_ne_outside
    {phase : Phase}
    (inside : phase ≠ .outside)
    (exchange : Exchange) :
    phase.after exchange ≠ .outside := by
  intro outside
  cases silent : exchange.isLook with
  | false =>
    have unlooked : Unlooked phase (phase.after exchange) := unlooked_after silent
    rw [outside] at unlooked
    cases unlooked
    exact inside rfl
  | true =>
    obtain ⟨next, looks⟩ := Option.isSome_iff_exists.mp silent
    rw [after_of_look looks] at outside
    subst outside
    obtain ⟨request, answer⟩ := exchange
    cases request with
    | signal =>
      obtain ⟨signal, listener⟩ := answer
      cases signal <;> cases looks
    | listen =>
      cases answer with
      | news signal => cases signal <;> cases looks
      | silence signal => cases signal <;> cases looks
    | _ => cases looks

theorem Phase.isAdmitted_of_isListening
    {phase : Phase}
    (listening : phase.isListening = true) :
    phase.isAdmitted = true := by
  cases phase <;> first | rfl | cases listening

theorem Phase.foldl_ne_outside
    {phase : Phase}
    (inside : phase ≠ .outside)
    (history : History) :
    history.foldl Phase.after phase ≠ .outside := by
  induction history generalizing phase with
  | nil => exact inside
  | cons exchange rest inductionHypothesis =>
    exact inductionHypothesis (after_ne_outside inside exchange)

/-- An execution was given its channel earlier, or just now as a new one. -/
theorem Path.channel?_of_concat
    {channel : Nat}
    (path : Path moves fleet)
    (moved : fleet.Moves move after)
    (reached : (historyOf job (moves ++ [move])).phase.channel? = some channel) :
    (historyOf job moves).phase.channel? = some channel ∨
      channel = fleet.registry.channels.length ∧
        ∃ id workflowId tenantId limit,
          move = .exchange job ⟨.register id workflowId tenantId limit, .ok { channel }⟩ := by
  rw [historyOf_append, historyOf_singleton] at reached
  cases made : move.exchange? job with
  | none =>
    rw [made, Option.toList_none, List.append_nil] at reached
    exact .inl reached
  | some exchange =>
    obtain ⟨allows, answers⟩ := path.of_exchange moved made
    generalize after.registry = registry at answers
    obtain rfl := Move.eq_of_exchange? made
    rw [made, Option.toList_some, History.phase_concat] at reached
    obtain ⟨request, answer⟩ := exchange
    cases held : (historyOf job moves).phase.channel? with
    | some other =>
      rcases Phase.channel?_of_answers held allows answers with kept | ⟨refused, -⟩
      · exact .inl (kept.symm.trans reached)
      · rw [refused] at reached
        cases reached
    | none =>
      cases phase : (historyOf job moves).phase with
      | outside =>
        rw [phase] at allows reached
        cases answers with
        | admitted admitted =>
          obtain ⟨-, rfl, -⟩ := Registry.register_ok admitted
          cases reached
          exact .inr ⟨rfl, _, _, _, _, rfl⟩
        | rejected => cases reached
        | foreign foreign =>
          rw [(Phase.after_foreign .outside _ foreign).1] at reached
          cases reached
        | _ => exact allows.elim
      | refused =>
        rw [phase] at allows
        exact allows.elim
      | _ =>
        rw [phase] at held
        cases held

/-- No two executions are given the same channel. -/
theorem Path.eq_of_channel?
    {other channel : Nat}
    (path : Path moves fleet)
    (first : (historyOf job moves).phase.channel? = some channel)
    (second : (historyOf other moves).phase.channel? = some channel) :
    job = other := by
  induction path with
  | start => cases first
  | move path moved inductionHypothesis =>
    rcases path.channel?_of_concat moved first with first | ⟨new, _, _, _, _, same⟩ <;>
      rcases path.channel?_of_concat moved second with second | ⟨fresh, _, _, _, _, alike⟩
    · exact inductionHypothesis first second
    · exact absurd fresh (Nat.ne_of_lt (path.listens.bounded first))
    · exact absurd new (Nat.ne_of_lt (path.listens.bounded second))
    · exact (Move.exchange.inj (same.symm.trans alike)).1

/-- An entry with a new channel is that of the execution which was just admitted. -/
theorem Fleet.Moves.exists_admission
    {id : String}
    {entry : Entry}
    (sound : fleet.registry.Sound)
    (moved : fleet.Moves move after)
    (known : after.registry.entry? id = some entry)
    (new : ¬ entry.channel < fleet.registry.channels.length) :
    ∃ job workflowId tenantId limit listener,
      move = .exchange job ⟨.register id workflowId tenantId limit, .ok listener⟩ ∧
        listener.channel = entry.channel := by
  cases moved with
  | call => exact (new (sound.bounded known)).elim
  | turn => exact (new (sound.bounded known)).elim
  | grant found granted =>
    have bounded := (sound.grant granted).bounded known
    rw [Registry.length_grant granted] at bounded
    exact (new bounded).elim
  | exchange asks answers =>
    cases answers with
    | admitted admitted =>
      rw [Registry.entry?_register admitted] at known
      split at known
      next same =>
        subst same
        cases known
        obtain ⟨-, rfl, -⟩ := Registry.register_ok admitted
        exact ⟨_, _, _, _, _, rfl, rfl⟩
      next => exact (new (sound.bounded known)).elim
    | setStatus named status =>
      exact (new ((sound.setStatus named status).bounded known)).elim
    | unregister named =>
      have bounded := (sound.unregister named).bounded known
      rw [Registry.length_unregister] at bounded
      exact (new bounded).elim
    | _ => exact (new (sound.bounded known)).elim

/-- An execution whose entry is there does not leave without taking it away. -/
theorem Path.not_unregistered
    {id named : String}
    {entry last : Entry}
    {answer : (Request.unregister named).Answer}
    (path : Path moves fleet)
    (moved : fleet.Moves (.exchange job ⟨.unregister named, answer⟩) after)
    (held : (historyOf job moves).phase.channel? = some entry.channel)
    (known : fleet.registry.entry? id = some entry) :
    after.registry.entry? id ≠ some last := by
  obtain ⟨-, order, ordered, identity⟩ := path.listens.owned held known
  obtain ⟨same, given, carries⟩ := path.carries_of_exchange moved
  obtain rfl : order = same := Option.some.inj (ordered.symm.trans given)
  obtain rfl : named = id := (carries : named = _).trans (congrArg Identity.executionId identity)
  cases moved with
  | exchange asks answers =>
    cases answers with
    | unregister =>
      rw [Registry.entry?_unregister path.listens.sound.unambiguous, if_pos rfl]
      nofun
    | foreign foreign => cases foreign

/-- Every entry has the channel of an execution. -/
theorem Path.exists_owner
    {id : String}
    {entry : Entry}
    (path : Path moves fleet)
    (known : fleet.registry.entry? id = some entry) :
    ∃ job, (historyOf job moves).phase.channel? = some entry.channel := by
  induction path generalizing id entry with
  | start => cases known
  | @move moves fleet after move path moved inductionHypothesis =>
    have sound := path.listens.sound
    by_cases old : entry.channel < fleet.registry.channels.length
    · obtain ⟨before, found, same⟩ := moved.exists_entry sound known old
      obtain ⟨job, held⟩ := inductionHypothesis found
      refine ⟨job, same ▸ ((path.move moved).channel?_append held).resolve_right ?_⟩
      rintro ⟨-, exchange, member, named, left⟩
      obtain rfl := List.mem_singleton.mp (mem_historyOf.mp member)
      obtain ⟨request, answer⟩ := exchange
      cases left
      exact path.not_unregistered moved held found known
    · obtain ⟨job, _, _, _, _, rfl, same⟩ := moved.exists_admission sound known old
      refine ⟨job, ?_⟩
      rw [historyOf_append, historyOf_singleton, Move.exchange?, if_pos rfl, Option.toList_some,
        History.phase_concat, (path.of_exchange moved (if_pos rfl)).1.of_register, ← same]
      rfl

/-! ## Executions that are remembered -/

/-- An execution that is under way was admitted at some time. -/
theorem Path.exists_admission
    (path : Path moves fleet)
    (admitted : (historyOf job moves).phase.isAdmitted = true) :
    ∃ before since id workflowId tenantId limit listener, moves =
      before ++ [.exchange job ⟨.register id workflowId tenantId limit, .ok listener⟩] ++ since := by
  induction path with
  | start => cases admitted
  | @move moves fleet after move path moved inductionHypothesis =>
    have later (earlier : (historyOf job moves).phase.isAdmitted = true) :
        ∃ before since id workflowId tenantId limit listener, moves ++ [move] =
          before ++ [.exchange job ⟨.register id workflowId tenantId limit, .ok listener⟩] ++
            since := by
      obtain ⟨before, since, id, workflowId, tenantId, limit, listener, rfl⟩ :=
        inductionHypothesis earlier
      exact ⟨before, since ++ [move], id, workflowId, tenantId, limit, listener,
        List.append_assoc _ _ _⟩
    rw [historyOf_append, historyOf_singleton] at admitted
    cases made : move.exchange? job with
    | none =>
      rw [made, Option.toList_none, List.append_nil] at admitted
      exact later admitted
    | some exchange =>
      rw [made, Option.toList_some, History.phase_concat] at admitted
      rcases Phase.isAdmitted_of_after (path.of_exchange moved made).1 admitted with
        earlier | ⟨id, workflowId, tenantId, limit, listener, same⟩
      · exact later earlier
      · change exchange = _ at same
        obtain rfl := Move.eq_of_exchange? made
        exact ⟨moves, [], id, workflowId, tenantId, limit, listener, by rw [same]; simp⟩

/-- An execution that is under way has not left since it was admitted. -/
theorem Path.unleft_of_admitted
    {before since : List Move}
    (path : Path (before ++ since) fleet)
    (inside : (historyOf job before).phase ≠ .outside)
    (admitted : (historyOf job (before ++ since)).phase.isAdmitted = true)
    (id : String) :
    ∀ exchange ∈ historyOf job since, exchange.request ≠ .unregister id := by
  induction since using List.reverseRecOn generalizing fleet with
  | nil => simp
  | append_singleton since move inductionHypothesis =>
    rw [← List.append_assoc] at path admitted
    obtain ⟨last, path, moved⟩ := path.of_concat
    rw [historyOf_append, historyOf_singleton] at admitted ⊢
    cases made : move.exchange? job with
    | none =>
      rw [made, Option.toList_none, List.append_nil] at admitted
      rw [Option.toList_none, List.append_nil]
      exact inductionHypothesis path admitted
    | some exchange =>
      rw [made, Option.toList_some, History.phase_concat] at admitted
      have allows := (path.of_exchange moved made).1
      obtain ⟨request, answer⟩ := exchange
      have still : (historyOf job (before ++ since)).phase.isAdmitted = true := by
        refine (Phase.isAdmitted_of_after allows admitted).resolve_right ?_
        rintro ⟨named, workflowId, tenantId, limit, listener, same⟩
        cases same
        rw [historyOf_append, History.phase_append] at allows
        exact Phase.foldl_ne_outside inside _ allows.of_register
      refine List.forall_mem_append.mpr ⟨inductionHypothesis path still, ?_⟩
      rintro exchange member left
      obtain rfl := List.mem_singleton.mp member
      cases left
      obtain ⟨_, phase⟩ | ⟨_, phase⟩ | ⟨_, _, phase⟩ := allows.of_unregister <;>
        (rw [phase] at admitted; cases admitted)

/-- The entry of an execution that is under way is there until the execution is
forgotten. -/
theorem Path.remembers_iff
    (path : Path moves fleet)
    (admitted : (historyOf job moves).phase.isAdmitted = true) :
    fleet.Remembers moves job ↔ ¬ IsForgotten moves job := by
  -- Whatever admission one starts from, the execution has kept its channel since.
  have stays
      {before since : List Move}
      {id workflowId tenantId : String}
      {limit : Nat}
      {listener : Listener}
      (parts : moves = before ++
        [.exchange job ⟨.register id workflowId tenantId limit, .ok listener⟩] ++ since) :
      ∀ exchange ∈ historyOf job since, exchange.request ≠ .unregister id := by
    subst parts
    refine path.unleft_of_admitted ?_ admitted id
    rw [historyOf_append, historyOf_singleton, Move.exchange?, if_pos rfl, Option.toList_some,
      History.phase_concat]
    obtain ⟨last, earlier⟩ := path.of_append
    obtain ⟨first, earlier, moved⟩ := earlier.of_concat
    rw [(earlier.of_exchange moved (if_pos rfl)).1.of_register]
    intro outside
    cases outside
  constructor
  · rintro ⟨id, entry, known, held⟩
      ⟨before, since, named, workflowId, tenantId, limit, listener, parts, forgotten⟩
    have unleft := stays parts
    subst parts
    have same := Option.some.inj (held.symm.trans (path.channel?_of_unleft unleft))
    have dropped : fleet.IsDropped listener.channel := by
      by_cases cancelled : ∃ other reason,
          Move.grant other listener.channel (.cancel reason) ∈ since
      · obtain ⟨other, reason, member⟩ := cancelled
        obtain ⟨early, late, rfl⟩ := List.append_of_mem member
        have path : Path
            (before ++ [.exchange job ⟨.register named workflowId tenantId limit, .ok listener⟩] ++
              early ++ [.grant other listener.channel (.cancel reason)] ++ late) fleet := by
          simpa using path
        exact path.signal?_eq_none_of_cancel.1
      · obtain ⟨other, answer, -, member⟩ := forgotten.resolve_left cancelled
        exact path.isDropped_of_taken
          (fun reason other member => cancelled ⟨other, reason, member⟩) member
    exact dropped.absent known same
  · intro remembered
    obtain ⟨before, since, id, workflowId, tenantId, limit, listener, parts⟩ :=
      path.exists_admission admitted
    have unleft := stays parts
    have uncancelled (reason : Option String) (other : String) :
        .grant other listener.channel (.cancel reason) ∉ since := fun member =>
      remembered ⟨_, _, _, _, _, _, _, parts, .inl ⟨other, reason, member⟩⟩
    have kept (other : Nat) (answer : (Request.unregister id).Answer) :
        .exchange other ⟨.unregister id, answer⟩ ∉ since := by
      intro member
      by_cases own : other = job
      · subst own
        exact unleft _ (mem_historyOf.mpr member) rfl
      · exact remembered ⟨_, _, _, _, _, _, _, parts, .inr ⟨other, answer, own, member⟩⟩
    subst parts
    exact ⟨id, _, path.entry?_of_kept uncancelled kept, path.channel?_of_unleft unleft⟩

/-- As many executions of a workflow are remembered as there are entries of it. -/
theorem Path.exists_remembered
    (path : Path moves fleet)
    (workflowId : String) :
    ∃ remembered : List Nat, remembered.Nodup ∧
      (∀ job, job ∈ remembered ↔
        IsUnderWay workflowId moves job ∧ fleet.Remembers moves job) ∧
      remembered.length = fleet.registry.activeCount workflowId := by
  have listens := path.listens
  have known {id : String} {entry : Entry} :
      fleet.registry.entry? id = some entry ↔ (id, entry) ∈ fleet.registry.entries :=
    Dict.find?_eq_some_iff listens.sound.unambiguous
  have owned (item : String × Entry) : ∃ job, item ∈ fleet.registry.entries →
      (historyOf job moves).phase.channel? = some item.2.channel := by
    by_cases member : item ∈ fleet.registry.entries
    · obtain ⟨job, owns⟩ := path.exists_owner (known.mpr member)
      exact ⟨job, fun _ => owns⟩
    · exact ⟨0, fun found => (member found).elim⟩
  choose owner owns using owned
  let entries := fleet.registry.entries.filter (fun item => item.2.workflowId == workflowId)
  have mem_entries {item : String × Entry} :
      item ∈ entries ↔ item ∈ fleet.registry.entries ∧ item.2.workflowId = workflowId := by
    simp [entries]
  refine ⟨entries.map owner, ?_, fun job => ?_, ?_⟩
  · have distinct : fleet.registry.entries.Nodup := .of_map Prod.fst listens.sound.unambiguous
    refine List.Nodup.map_on ?_ (distinct.filter _)
    -- Entries of one owner have one channel.
    rintro ⟨id, entry⟩ first ⟨other, last⟩ second same
    have first := (mem_entries.mp first).1
    have second := (mem_entries.mp second).1
    have shared := owns _ first
    rw [same, owns _ second] at shared
    obtain rfl :=
      listens.sound.distinct (known.mpr first) (known.mpr second) (Option.some.inj shared).symm
    exact congrArg _ (Option.some.inj ((known.mpr first).symm.trans (known.mpr second)))
  · rw [List.mem_map]
    constructor
    · rintro ⟨⟨id, entry⟩, member, rfl⟩
      obtain ⟨member, named⟩ := mem_entries.mp member
      obtain ⟨listening, order, ordered, identity⟩ :=
        listens.owned (owns _ member) (known.mpr member)
      refine ⟨⟨?_, order, ordered, ?_⟩, id, entry, known.mpr member, owns _ member⟩
      · exact Phase.isAdmitted_of_isListening listening
      · exact (congrArg Identity.workflowId identity).trans named
    · rintro ⟨⟨-, order, ordered, named⟩, id, entry, found, held⟩
      obtain ⟨-, same, given, identity⟩ := listens.owned held found
      obtain rfl : order = same := Option.some.inj (ordered.symm.trans given)
      have member := known.mp found
      refine ⟨(id, entry), mem_entries.mpr ⟨member, ?_⟩, path.eq_of_channel? (owns _ member) held⟩
      exact (congrArg Identity.workflowId identity).symm.trans named
  · rw [List.length_map, ← List.countP_eq_length_filter]
    rfl

/-- The executions of a workflow that are under way and were not forgotten are those
that the registry counts, and they never exceed the bound of the workflow.  So where
no execution under way was forgotten, their number is within the bound, and of a
workflow that allows one execution at a time there is at most one that was not
forgotten. -/
theorem Path.remembered_le_limit
    {environment : Environment}
    {workflow : Workflow}
    (path : Path moves fleet)
    (steady : ∀ order ∈ orders moves, order.workflow.id = workflow.id →
      order.environment = environment ∧ order.workflow = workflow) :
    (∃ remembered : List Nat, remembered.Nodup ∧
      (∀ job, job ∈ remembered ↔ IsUnderWay workflow.id moves job ∧ ¬ IsForgotten moves job) ∧
      remembered.length = fleet.registry.activeCount workflow.id ∧
      remembered.length ≤ environment.concurrencyLimit workflow) ∧
    ((∀ job, IsUnderWay workflow.id moves job → ¬ IsForgotten moves job) →
      ∀ jobs : List Nat, jobs.Nodup → (∀ job ∈ jobs, IsUnderWay workflow.id moves job) →
        jobs.length ≤ environment.concurrencyLimit workflow) ∧
    (workflow.policy.allowConcurrent = false → workflow.policy.maxConcurrent = none →
      ∀ job other, IsUnderWay workflow.id moves job → IsUnderWay workflow.id moves other →
        ¬ IsForgotten moves job → ¬ IsForgotten moves other → job = other) := by
  have bounded : fleet.registry.activeCount workflow.id ≤ environment.concurrencyLimit workflow :=
    path.activeCount_le fun order member named => by
      obtain ⟨rfl, rfl⟩ := steady order member named
      rfl
  obtain ⟨remembered, distinct, mem_remembered, counted⟩ := path.exists_remembered workflow.id
  have mem_remembered (job : Nat) :
      job ∈ remembered ↔ IsUnderWay workflow.id moves job ∧ ¬ IsForgotten moves job := by
    rw [mem_remembered]
    exact and_congr_right fun underWay => path.remembers_iff underWay.admitted
  have most (jobs : List Nat) (separate : jobs.Nodup)
      (listed : ∀ job ∈ jobs, IsUnderWay workflow.id moves job ∧ ¬ IsForgotten moves job) :
      jobs.length ≤ environment.concurrencyLimit workflow := by
    have within : jobs ⊆ remembered := fun job member => (mem_remembered job).mpr (listed job member)
    calc
      jobs.length ≤ remembered.length := (separate.subperm within).length_le
      _ = fleet.registry.activeCount workflow.id := counted
      _ ≤ environment.concurrencyLimit workflow := bounded
  refine ⟨⟨remembered, distinct, mem_remembered, counted, counted ▸ bounded⟩, ?_, ?_⟩
  · exact fun unforgotten jobs separate underWay =>
      most jobs separate fun job member => ⟨underWay job member, unforgotten job (underWay job member)⟩
  · intro serial unbounded job other underWay next unforgotten kept
    by_contra different
    have two := most [job, other] (by simpa using different) (by simp [*])
    simp [Environment.concurrencyLimit, serial, unbounded] at two

end

/-! ## Runs of the engine -/

/-- A workflow of one step that allows one execution at a time. -/
def serial : Workflow where
  id := "serial"
  steps := [{ id := "work", type := .custom "call" }]
  policy := { allowConcurrent := false }

/-- An order for it. -/
def Order.serial (executionId : String) : Order where
  environment := { handled := [(.custom "call", true)] }
  workflow := WorkflowEngine.serial
  call := { executionId }

/-- Among moves that can be looked through, nothing may be found by which an execution
is forgotten. -/
theorem not_isForgotten_of_all
    {moves : List Move}
    (passing : moves.all (fun
      | .grant _ _ (.cancel _) | .exchange _ ⟨.unregister _, _⟩ => false
      | _ => true) = true)
    (job : Nat) :
    ¬ IsForgotten moves job := by
  rintro ⟨before, since, id, _, _, _, listener, rfl, forgotten⟩
  have passing (move : Move) (member : move ∈ since) :=
    List.all_eq_true.mp passing move (List.mem_append_right _ member)
  rcases forgotten with ⟨other, reason, member⟩ | ⟨other, answer, -, member⟩
  · cases passing _ member
  · cases passing _ member

/-- While the step of one execution goes on, another one is not admitted. -/
theorem serial_execution_alone :
    ∃ moves fleet, Path moves fleet ∧
      (∀ order ∈ orders moves, order.workflow.id = serial.id →
        order.environment = (Order.serial "first").environment ∧ order.workflow = serial) ∧
      (orders moves).map (·.call.executionId) = ["first", "second"] ∧
      IsUnderWay serial.id moves 0 ∧
      ∀ jobs : List Nat, jobs.Nodup → (∀ job ∈ jobs, IsUnderWay serial.id moves job) →
        jobs.length ≤ 1 := by
  have path := Path.start.follow (.call (.serial "first") :: Choice.goOn 0 13 ++
    [.call (.serial "second")] ++ Choice.goOn 1 2)
  obtain ⟨moves, fleet, path, ordered, passing, underWay⟩ :
      ∃ moves fleet, Path moves fleet ∧
        orders moves = [.serial "first", .serial "second"] ∧
        moves.all (fun
          | .grant _ _ (.cancel _) | .exchange _ ⟨.unregister _, _⟩ => false
          | _ => true) = true ∧
        (historyOf 0 moves).phase.isAdmitted = true := ⟨_, _, path, rfl, rfl, rfl⟩
  have steady : ∀ order ∈ orders moves, order.workflow.id = serial.id →
      order.environment = (Order.serial "first").environment ∧ order.workflow = serial := by
    rw [ordered]
    simp [Order.serial]
  refine ⟨moves, fleet, path, steady, by rw [ordered]; rfl, ⟨underWay, ?_⟩, ?_⟩
  · exact ⟨.serial "first", by rw [ordered]; rfl, rfl⟩
  · exact (path.remembered_le_limit steady).2.1 fun job _ => not_isForgotten_of_all passing job

/-- Once an execution was cancelled in its step, another one is admitted, and the steps
of both are in progress at the same time. -/
theorem serial_executions_together :
    serial.isValid = true ∧ (Order.serial "first").environment.concurrencyLimit serial = 1 ∧
    ∃ moves fleet, Path moves fleet ∧
      orders moves = [.serial "first", .serial "second"] ∧
      ∀ job ∈ [0, 1], IsUnderWay serial.id moves job ∧
        ∃ invocation reply,
          (historyOf job moves).getLast? = some ⟨.invoke invocation, reply⟩ := by
  have path := Path.start.follow (.call (.serial "first") :: Choice.goOn 0 13 ++
    [.grant "first" (.cancel none), .call (.serial "second")] ++ Choice.goOn 1 13)
  refine ⟨by rfl, rfl, _, _, path, rfl, ?_⟩
  rw [List.forall_mem_cons, List.forall_mem_singleton]
  exact ⟨⟨⟨rfl, _, rfl, rfl⟩, _, _, rfl⟩, ⟨rfl, _, rfl, rfl⟩, _, _, rfl⟩

end WorkflowEngine
