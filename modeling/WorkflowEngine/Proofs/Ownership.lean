import WorkflowEngine.Proofs.Halting

/-!
# Whose entry it is

The registry knows executions by their identifiers alone.  An identifier becomes
free as soon as its execution is cancelled, and the cancelled execution may still
be under way when another one is admitted under the identifier.  When it leaves, it
takes away the entry of the other one.  Nothing else comes between an execution and
its entry.
-/

namespace WorkflowEngine

/-- Whether a request of an execution changes the entry with an identifier, or takes
it away. -/
def Request.addresses (id : String) : Request → Bool
  | .setStatus other _ | .unregister other => other == id
  | _ => false

/-- The status that a move gives to the entry with an identifier. -/
def Move.status? (id : String) : Move → Option ExecutionStatus
  | .exchange _ ⟨.setStatus other status, _⟩ => if other = id then some status else none
  | .grant other _ signal => if other = id then signal.status? else none
  | _ => none

/-- The status of a new entry behind moves that leave it there. -/
def statusBehind (id : String) (moves : List Move) : ExecutionStatus :=
  moves.foldl (fun status move => (move.status? id).getD status) .pending

@[simp] theorem statusBehind_nil (id : String) : statusBehind id [] = .pending := rfl

@[simp] theorem statusBehind_concat (id : String) (moves : List Move) (move : Move) :
    statusBehind id (moves ++ [move]) = (move.status? id).getD (statusBehind id moves) := by
  simp [statusBehind]

/-- Whether an execution was admitted and has not left yet. -/
def Phase.isAdmitted : Phase → Bool
  | .entering _ | .between _ | .stepping _ | .stopping .. => true
  | _ => false

/-- Another execution than a given one that is under way under an identifier. -/
structure IsRival (id : String) (job : Nat) (moves : List Move) (other : Nat) : Prop where
  ne : other ≠ job
  admitted : (historyOf other moves).phase.isAdmitted = true
  shares : ∃ order, (orders moves)[other]? = some order ∧ order.call.executionId = id

section

variable
  {moves : List Move}
  {move : Move}
  {fleet after : Fleet}
  {id : String}
  {entry : Entry}

/-! ## One move -/

/-- What a move makes of an entry that it leaves there. -/
theorem Fleet.Moves.entry?_eq
    (sound : fleet.registry.Sound)
    (moved : fleet.Moves move after)
    (known : fleet.registry.entry? id = some entry)
    (stays : ∀ job answer, move ≠ .exchange job ⟨.unregister id, answer⟩)
    (uncancelled : ∀ reason, move ≠ .grant id entry.channel (.cancel reason)) :
    after.registry.entry? id =
      some { entry with status := (move.status? id).getD entry.status } := by
  cases moved with
  | call => exact known
  | turn => exact known
  | @exchange job request answer next registry asks answers =>
    cases answers with
    | admitted admitted =>
      obtain ⟨absent, -, -⟩ := Registry.register_ok admitted
      rw [Registry.entry?_register admitted, if_neg, known]
      · rfl
      · rintro rfl
        rw [known] at absent
        cases absent
    | setStatus other status =>
      rw [Registry.entry?_setStatus, known]
      change _ = some { entry with status := (if other = id then some status else none).getD _ }
      by_cases same : id = other
      · simp [same]
      · simp [same, Ne.symm same]
    | unregister other =>
      have different : id ≠ other := by
        rintro rfl
        exact stays job () rfl
      rw [Registry.entry?_unregister sound.unambiguous, if_neg different, known]
      rfl
    | foreign foreign => cases request <;> first | exact known | cases foreign
    | _ => exact known
  | @grant other found signal registry there granted =>
    rw [Registry.entry?_grant sound granted there]
    change _ = some { entry with status := (if other = id then signal.status? else none).getD _ }
    by_cases same : id = other
    · subst same
      cases known.symm.trans there
      cases signal with
      | cancel reason => exact (uncancelled reason rfl).elim
      | _ => simp [Signal.status?]
    · simp [same, Ne.symm same, known]

/-- An entry that is taken away does not come back. -/
theorem Fleet.isDropped_of_unregister
    {job : Nat}
    {answer : (Request.unregister id).Answer}
    (sound : fleet.registry.Sound)
    (known : fleet.registry.entry? id = some entry)
    (moved : fleet.Moves (.exchange job ⟨.unregister id, answer⟩) after) :
    after.IsDropped entry.channel := by
  have bounded := Nat.lt_of_lt_of_le (sound.bounded known) moved.length_le
  cases moved with
  | exchange asks answers =>
    refine ⟨bounded, fun found shared => ?_⟩
    cases answers with
    | unregister =>
      rw [Registry.entry?_unregister sound.unambiguous] at found
      split at found
      next => cases found
      next different => exact different (sound.distinct found known shared)
    | foreign foreign => cases foreign

/-- Executions are admitted in order to be under way. -/
theorem Phase.isAdmitted_of_after
    {phase : Phase}
    {request : Request}
    {answer : request.Answer}
    (allows : phase.Allows request)
    (admitted : (phase.after ⟨request, answer⟩).isAdmitted = true) :
    phase.isAdmitted = true ∨
      ∃ id workflowId tenantId limit listener,
        Exchange.mk request answer = ⟨.register id workflowId tenantId limit, .ok listener⟩ := by
  cases phase with
  | outside =>
    cases request with
    | clock => cases admitted
    | register id workflowId tenantId limit =>
      cases answer with
      | error error => cases admitted
      | ok listener => exact .inr ⟨id, workflowId, tenantId, limit, listener, rfl⟩
    | _ => exact allows.elim
  | refused => exact allows.elim
  | left channel stop =>
    cases request <;> first | exact allows.elim | cases admitted
  | closed => exact allows.elim
  | _ => exact .inl rfl

/-- An execution only changes the entry with an identifier while it is under way. -/
theorem Phase.Allows.isAdmitted_of_addresses
    {phase : Phase}
    {request : Request}
    (allows : phase.Allows request)
    (addresses : request.addresses id = true) :
    phase.isAdmitted = true := by
  cases request with
  | setStatus =>
    obtain ⟨-, _, rfl⟩ := allows.of_setStatus
    rfl
  | unregister =>
    obtain ⟨_, rfl⟩ | ⟨_, rfl⟩ | ⟨_, _, rfl⟩ := allows.of_unregister <;> rfl
  | _ => cases addresses

/-- Whatever an execution says of itself, it says of the one that was ordered. -/
theorem Path.carries
    {job : Nat}
    {exchange : Exchange}
    (path : Path moves fleet)
    (made : exchange ∈ historyOf job moves) :
    ∃ order, (orders moves)[job]? = some order ∧
      ∀ exchange ∈ historyOf job moves, exchange.request.Carries order.identity := by
  have present : job < fleet.jobs.length := by
    by_contra beyond
    rw [path.tracks.silent (Nat.le_of_not_lt beyond)] at made
    cases made
  obtain ⟨order, ordered, run⟩ := path.tracks.runs (List.getElem?_eq_getElem present)
  exact ⟨order, ordered, run.follows_phase.2⟩

theorem Move.eq_of_exchange?
    {job : Nat}
    {exchange : Exchange}
    (made : move.exchange? job = some exchange) :
    move = .exchange job exchange := by
  cases move with
  | exchange other same =>
    unfold exchange? at made
    dsimp only at made
    split at made
    next here => rw [here, Option.some.inj made]
    next => cases made
  | _ => cases made

theorem mem_historyOf
    {job : Nat}
    {exchange : Exchange} :
    exchange ∈ historyOf job moves ↔ .exchange job exchange ∈ moves := by
  unfold historyOf
  rw [List.mem_filterMap]
  constructor
  · rintro ⟨move, member, made⟩
    rwa [← Move.eq_of_exchange? made]
  · exact fun member => ⟨_, member, if_pos rfl⟩

/-- An exchange bears what was ordered of its execution. -/
theorem Path.carries_of_exchange
    {job : Nat}
    {exchange : Exchange}
    (path : Path moves fleet)
    (moved : fleet.Moves (.exchange job exchange) after) :
    ∃ order, (orders moves)[job]? = some order ∧ exchange.request.Carries order.identity := by
  have made : exchange ∈ historyOf job (moves ++ [.exchange job exchange]) :=
    mem_historyOf.mpr (by simp)
  obtain ⟨order, ordered, carries⟩ := (path.move moved).carries made
  exact ⟨order, by simpa [Move.order?] using ordered, carries exchange made⟩

/-- An execution that changes the entry with an identifier goes by it. -/
theorem Path.isRival_of_addresses
    {job other : Nat}
    {exchange : Exchange}
    (path : Path moves fleet)
    (moved : fleet.Moves (.exchange other exchange) after)
    (different : other ≠ job)
    (addresses : exchange.request.addresses id = true) :
    IsRival id job moves other where
  ne := different
  admitted := (path.of_exchange moved (if_pos rfl)).1.isAdmitted_of_addresses addresses
  shares := by
    obtain ⟨order, ordered, carries⟩ := path.carries_of_exchange moved
    refine ⟨order, ordered, ?_⟩
    obtain ⟨request, answer⟩ := exchange
    cases request with
    | setStatus named status => exact carries.symm.trans (eq_of_beq addresses)
    | unregister named => exact carries.symm.trans (eq_of_beq addresses)
    | _ => cases addresses

/-- A rival has been one for longer, or was just admitted. -/
theorem Path.isRival_of_concat
    {job other : Nat}
    (path : Path moves fleet)
    (moved : fleet.Moves move after)
    (rival : IsRival id job (moves ++ [move]) other) :
    IsRival id job moves other ∨
      ∃ workflowId tenantId limit listener,
        move = .exchange other ⟨.register id workflowId tenantId limit, .ok listener⟩ := by
  obtain ⟨different, admitted, order, ordered, shares⟩ := rival
  rw [historyOf_append, historyOf_singleton] at admitted
  cases made : move.exchange? other with
  | none =>
    rw [made, Option.toList_none, List.append_nil] at admitted
    refine .inl ⟨different, admitted, order, ?_, shares⟩
    by_cases present : other < (orders moves).length
    · rwa [orders_append, List.getElem?_append_left present] at ordered
    · rw [path.tracks.silent (path.tracks.length_eq ▸ Nat.le_of_not_lt present)] at admitted
      cases admitted
  | some exchange =>
    obtain rfl := Move.eq_of_exchange? made
    obtain ⟨known, given, carries⟩ := path.carries_of_exchange moved
    obtain rfl : known = order := by
      simpa [Move.order?, given] using ordered
    rw [made, Option.toList_some, History.phase_concat] at admitted
    rcases Phase.isAdmitted_of_after (path.of_exchange moved made).1 admitted with
      earlier | ⟨named, workflowId, tenantId, limit, listener, same⟩
    · exact .inl ⟨different, earlier, known, given, shares⟩
    · change exchange = _ at same
      subst same
      obtain rfl : named = id := (congrArg Identity.executionId carries).trans shares
      exact .inr ⟨workflowId, tenantId, limit, listener, rfl⟩

end

/-! ## From the admission on -/

section

variable
  {before since : List Move}
  {fleet after : Fleet}
  {job : Nat}
  {id workflowId tenantId : String}
  {limit : Nat}
  {listener : Listener}

/-- As long as no other execution takes it away, the entry of an execution is there
until it is cancelled or leaves, and its status is the one it was given last. -/
theorem Path.entry?_of_kept
    (path : Path
      (before ++ [.exchange job ⟨.register id workflowId tenantId limit, .ok listener⟩] ++ since)
      fleet)
    (uncancelled : ∀ reason other, .grant other listener.channel (.cancel reason) ∉ since)
    (kept : ∀ other answer, .exchange other ⟨.unregister id, answer⟩ ∉ since) :
    fleet.registry.entry? id = some
      { workflowId, tenantId, status := statusBehind id since, channel := listener.channel } := by
  induction since using List.reverseRecOn generalizing fleet with
  | nil =>
    rw [List.append_nil] at path
    obtain ⟨last, path, moved⟩ := path.of_concat
    cases moved with
    | exchange asks answers =>
      cases answers with
      | admitted admitted =>
        rw [Registry.entry?_register admitted, if_pos rfl]
        obtain ⟨-, rfl, -⟩ := Registry.register_ok admitted
        rfl
      | foreign foreign => cases foreign
  | append_singleton since move inductionHypothesis =>
    rw [← List.append_assoc] at path
    obtain ⟨last, path, moved⟩ := path.of_concat
    have known := inductionHypothesis path
      (fun reason other member => uncancelled reason other (List.mem_append_left _ member))
      (fun other answer member => kept other answer (List.mem_append_left _ member))
    rw [moved.entry?_eq path.listens.sound known, statusBehind_concat]
    · rintro other answer rfl
      exact kept other answer (by simp)
    · rintro reason rfl
      exact uncancelled reason id (by simp)

/-- An entry that another execution has taken away is gone. -/
theorem Path.isDropped_of_taken
    {other : Nat}
    {answer : (Request.unregister id).Answer}
    (path : Path
      (before ++ [.exchange job ⟨.register id workflowId tenantId limit, .ok listener⟩] ++ since)
      fleet)
    (uncancelled : ∀ reason other, .grant other listener.channel (.cancel reason) ∉ since)
    (taken : .exchange other ⟨.unregister id, answer⟩ ∈ since) :
    fleet.IsDropped listener.channel := by
  induction since using List.reverseRecOn generalizing fleet other with
  | nil => cases taken
  | append_singleton since move inductionHypothesis =>
    rw [← List.append_assoc] at path
    obtain ⟨last, earlier, moved⟩ := path.of_concat
    have uncancelled (reason : Option String) (other : String) :
        .grant other listener.channel (.cancel reason) ∉ since :=
      fun member => uncancelled reason other (List.mem_append_left _ member)
    by_cases kept : ∀ other answer, .exchange other ⟨.unregister id, answer⟩ ∉ since
    · rcases List.mem_append.mp taken with member | member
      · exact (kept _ _ member).elim
      · have known := earlier.entry?_of_kept uncancelled kept
        rw [← List.mem_singleton.mp member] at moved
        exact Fleet.isDropped_of_unregister earlier.listens.sound known moved
    · push Not at kept
      obtain ⟨other, answer, member⟩ := kept
      exact (inductionHypothesis earlier uncancelled member).stays earlier.listens.sound moved

/-- Nobody is admitted under an identifier that is in use. -/
theorem Fleet.Moves.not_admitted
    (moved : fleet.Moves
      (.exchange job ⟨.register id workflowId tenantId limit, .ok listener⟩) after) :
    fleet.registry.entry? id = none := by
  cases moved with
  | exchange asks answers =>
    cases answers with
    | admitted admitted => exact (Registry.register_ok admitted).1
    | foreign foreign => cases foreign

/-- Where no rival was under way at the admission, none comes up, and only the
execution itself changes its entry. -/
theorem Path.not_isRival
    (path : Path
      (before ++ [.exchange job ⟨.register id workflowId tenantId limit, .ok listener⟩] ++ since)
      fleet)
    (uncancelled : ∀ reason other, .grant other listener.channel (.cancel reason) ∉ since)
    (unleft : ∀ exchange ∈ historyOf job since, exchange.request ≠ .unregister id)
    (unrivalled : ∀ other, ¬ IsRival id job before other) :
    (∀ other, ¬ IsRival id job
      (before ++ [.exchange job ⟨.register id workflowId tenantId limit, .ok listener⟩] ++ since)
      other) ∧
      ∀ other exchange, .exchange other exchange ∈ since →
        exchange.request.addresses id = true → other = job := by
  induction since using List.reverseRecOn generalizing fleet with
  | nil =>
    rw [List.append_nil] at path ⊢
    obtain ⟨last, earlier, moved⟩ := path.of_concat
    refine ⟨fun other rival => ?_, fun _ _ member => (List.not_mem_nil member).elim⟩
    rcases earlier.isRival_of_concat moved rival with longer | ⟨_, _, _, _, same⟩
    · exact unrivalled other longer
    · exact rival.ne (Move.exchange.inj same).1.symm
  | append_singleton since move inductionHypothesis =>
    rw [← List.append_assoc] at path ⊢
    obtain ⟨last, earlier, moved⟩ := path.of_concat
    have uncancelled (reason : Option String) (other : String) :
        .grant other listener.channel (.cancel reason) ∉ since :=
      fun member => uncancelled reason other (List.mem_append_left _ member)
    have unleft : ∀ exchange ∈ historyOf job since, exchange.request ≠ .unregister id :=
      fun exchange member =>
        unleft exchange (historyOf_append job since [move] ▸ List.mem_append_left _ member)
    obtain ⟨unrivalled, own⟩ := inductionHypothesis earlier uncancelled unleft
    have kept : ∀ other answer, .exchange other ⟨.unregister id, answer⟩ ∉ since := by
      intro other answer member
      obtain rfl := own other _ member (beq_self_eq_true id)
      exact unleft _ (mem_historyOf.mpr member) rfl
    have known := earlier.entry?_of_kept uncancelled kept
    constructor
    · intro other rival
      rcases earlier.isRival_of_concat moved rival with longer | ⟨_, _, _, _, same⟩
      · exact unrivalled other longer
      · rw [same] at moved
        rw [moved.not_admitted] at known
        cases known
    · intro other exchange member addresses
      rcases List.mem_append.mp member with member | member
      · exact own other exchange member addresses
      · rw [← List.mem_singleton.mp member] at moved
        by_contra different
        exact unrivalled other (earlier.isRival_of_addresses moved different addresses)

/-- Before an execution leaves, it keeps its channel. -/
theorem Path.channel?_of_unleft
    (path : Path
      (before ++ [.exchange job ⟨.register id workflowId tenantId limit, .ok listener⟩] ++ since)
      fleet)
    (unleft : ∀ exchange ∈ historyOf job since, exchange.request ≠ .unregister id) :
    (historyOf job
      (before ++ [.exchange job ⟨.register id workflowId tenantId limit, .ok listener⟩] ++
        since)).phase.channel? = some listener.channel := by
  obtain ⟨last, earlier⟩ := path.of_append
  obtain ⟨first, earlier, moved⟩ := earlier.of_concat
  have outside := (earlier.of_exchange moved (if_pos rfl)).1.of_register
  have admitted : (historyOf job (before ++
      [.exchange job ⟨.register id workflowId tenantId limit, .ok listener⟩])).phase.channel? =
        some listener.channel := by
    rw [historyOf_append, historyOf_singleton, Move.exchange?, if_pos rfl, Option.toList_some,
      History.phase_concat, outside]
    rfl
  refine (path.channel?_append admitted).resolve_right ?_
  rintro ⟨-, exchange, member, named, left⟩
  have first : ⟨.register id workflowId tenantId limit, .ok listener⟩ ∈ historyOf job
      (before ++ [.exchange job ⟨.register id workflowId tenantId limit, .ok listener⟩] ++ since) :=
    mem_historyOf.mpr (by simp)
  have later : exchange ∈ historyOf job
      (before ++ [.exchange job ⟨.register id workflowId tenantId limit, .ok listener⟩] ++ since) :=
    mem_historyOf.mpr (List.mem_append_right _ (mem_historyOf.mp member))
  -- It leaves under the identifier under which it was admitted.
  obtain ⟨order, -, carries⟩ := path.carries first
  have entered : (⟨id, workflowId, tenantId⟩ : Identity) = order.identity := carries _ first
  have departed := carries _ later
  rw [left, ← entered] at departed
  obtain rfl : named = id := departed
  exact unleft exchange member left

/-- What becomes of the entry of an execution before the execution is cancelled or
leaves.  It is there unless another execution that goes by the identifier takes it
away.  As long as it is there, its status is the one it was given last, and the
execution is not told to stop.  Where no other execution that goes by the identifier
is under way at the admission, the entry is there, and no other execution changes
it. -/
theorem Path.owns_entry
    (path : Path
      (before ++ [.exchange job ⟨.register id workflowId tenantId limit, .ok listener⟩] ++ since)
      fleet)
    (uncancelled : ∀ reason other, .grant other listener.channel (.cancel reason) ∉ since)
    (unleft : ∀ exchange ∈ historyOf job since, exchange.request ≠ .unregister id) :
    ((∃ entry, fleet.registry.entry? id = some entry ∧ entry.channel = listener.channel) ↔
      ∀ other answer, .exchange other ⟨.unregister id, answer⟩ ∉ since) ∧
    (∀ entry, fleet.registry.entry? id = some entry → entry.channel = listener.channel →
      entry = { workflowId, tenantId, status := statusBehind id since,
                channel := listener.channel } ∧
        (historyOf job
          (before ++ [.exchange job ⟨.register id workflowId tenantId limit, .ok listener⟩] ++
            since)).phase.isListening = true) ∧
    ((∀ other, ¬ IsRival id job before other) →
      (∃ entry, fleet.registry.entry? id = some entry ∧ entry.channel = listener.channel) ∧
        ∀ other exchange, .exchange other exchange ∈ since →
          exchange.request.addresses id = true → other = job) := by
  have present :
      (∃ entry, fleet.registry.entry? id = some entry ∧ entry.channel = listener.channel) ↔
        ∀ other answer, .exchange other ⟨.unregister id, answer⟩ ∉ since := by
    constructor
    · rintro ⟨entry, known, same⟩ other answer taken
      exact (path.isDropped_of_taken uncancelled taken).absent known same
    · exact fun kept => ⟨_, path.entry?_of_kept uncancelled kept, rfl⟩
  refine ⟨present, fun entry known same => ⟨?_, ?_⟩, fun unrivalled => ?_⟩
  · have kept := path.entry?_of_kept uncancelled (present.mp ⟨entry, known, same⟩)
    exact Option.some.inj (known.symm.trans kept)
  · exact (path.listens.owned (same ▸ path.channel?_of_unleft unleft) known).1
  · have own := (path.not_isRival uncancelled unleft unrivalled).2
    refine ⟨present.mpr fun other answer member => ?_, own⟩
    obtain rfl := own other _ member (beq_self_eq_true id)
    exact unleft _ (mem_historyOf.mpr member) rfl

end

/-! ## Runs of the engine -/

/-- Among moves that can be looked through, no cancellation may be found. -/
theorem uncancelled_of_all
    {moves : List Move}
    (passing : moves.all (fun | .grant _ _ (.cancel _) => false | _ => true) = true)
    (channel : Nat)
    (reason : Option String)
    (id : String) :
    .grant id channel (.cancel reason) ∉ moves := by
  intro member
  cases List.all_eq_true.mp passing _ member

/-- Among exchanges that can be looked through, no departure may be found. -/
theorem unleft_of_all
    {history : History}
    (staying : history.all (fun | ⟨.unregister _, _⟩ => false | _ => true) = true)
    (id : String) :
    ∀ exchange ∈ history, exchange.request ≠ .unregister id := by
  rintro ⟨request, answer⟩ member left
  cases left
  cases List.all_eq_true.mp staying _ member

/-- While nobody else goes by its identifier, an execution keeps its entry, also through
a pause. -/
theorem own_entry_through_pause :
    ∃ before since listener fleet,
      Path (before ++ [.exchange 0 ⟨.register "run" "single" "default" 4, .ok listener⟩] ++ since)
        fleet ∧
      orders before = [.single] ∧
      (∀ reason other, .grant other listener.channel (.cancel reason) ∉ since) ∧
      (∀ exchange ∈ historyOf 0 since, exchange.request ≠ .unregister "run") ∧
      (∀ other, ¬ IsRival "run" 0 before other) ∧
      ∃ entry, fleet.registry.entry? "run" = some entry ∧ entry.channel = listener.channel := by
  have path := ((Path.start.follow [.call .single, .go 0 default]).follow [.go 0 default]).follow
    (Choice.goOn 0 4 ++ [.grant "run" .pause])
  obtain ⟨before, since, listener, fleet, path, ordered, passing, staying⟩ :
      ∃ before since listener fleet,
        Path (before ++ [.exchange 0 ⟨.register "run" "single" "default" 4, .ok listener⟩] ++ since)
          fleet ∧
        orders before = [.single] ∧
        since.all (fun | .grant _ _ (.cancel _) => false | _ => true) = true ∧
        (historyOf 0 since).all (fun | ⟨.unregister _, _⟩ => false | _ => true) = true :=
    ⟨_, _, _, _, path, rfl, rfl, rfl⟩
  have uncancelled := uncancelled_of_all passing listener.channel
  have unleft := unleft_of_all staying "run"
  have unrivalled (other : Nat) : ¬ IsRival "run" 0 before other := by
    rintro ⟨different, -, order, given, -⟩
    rw [ordered] at given
    exact different (Nat.lt_one_iff.mp (List.getElem?_eq_some_iff.mp given).1)
  exact ⟨before, since, listener, fleet, path, ordered, uncancelled, unleft, unrivalled,
    ((path.owns_entry uncancelled unleft).2.2 unrivalled).1⟩

/-- An order for another tenant under the same identifier. -/
def Order.namesake : Order :=
  { Order.single with call := { executionId := "run", options := { tenantId := some "other" } } }

/-- An execution was cancelled in a step, and another one was admitted under its
identifier.  When the cancelled one leaves, the other one is still under way and has
not been cancelled, and its entry is gone. -/
theorem entry_lost_to_namesake :
    ∃ before since listener fleet,
      Path (before ++ [.exchange 1 ⟨.register "run" "single" "other" 4, .ok listener⟩] ++ since)
        fleet ∧
      orders before = [.single, .namesake] ∧
      (∀ reason other, .grant other listener.channel (.cancel reason) ∉ since) ∧
      (∀ exchange ∈ historyOf 1 since, exchange.request ≠ .unregister "run") ∧
      fleet.registry.entry? "run" = none := by
  have path := (((Path.start.follow (.call .single :: Choice.goOn 0 9 ++
    [.grant "run" (.cancel none), .call .namesake, .go 1 default])).follow [.go 1 default]).follow
      (Choice.goOn 1 4 ++ Choice.goOn 0 13))
  obtain ⟨before, since, listener, fleet, path, ordered, passing, staying, lost⟩ :
      ∃ before since listener fleet,
        Path (before ++ [.exchange 1 ⟨.register "run" "single" "other" 4, .ok listener⟩] ++ since)
          fleet ∧
        orders before = [.single, .namesake] ∧
        since.all (fun | .grant _ _ (.cancel _) => false | _ => true) = true ∧
        (historyOf 1 since).all (fun | ⟨.unregister _, _⟩ => false | _ => true) = true ∧
        fleet.registry.entry? "run" = none :=
    ⟨_, _, _, _, path, rfl, rfl, rfl, rfl⟩
  exact ⟨before, since, listener, fleet, path, ordered,
    uncancelled_of_all passing listener.channel, unleft_of_all staying "run", lost⟩

end WorkflowEngine
