import Mathlib.Data.List.Pairwise
import WorkflowEngine.Mapping
import WorkflowEngine.Proofs.Keys
import WorkflowEngine.Proofs.Paths
import WorkflowEngine.Proofs.Registry

/-!
# Resolving inputs

The mapped fields of a step are written into an empty input one after the other, in the order
of their keys.  The first required field without a value ends that.  Otherwise every field
holds its value, and the input holds nothing else.
-/

namespace WorkflowEngine

/-- The part of a context that a source reads.  A static value is read nowhere. -/
def Context.source? (context : Context) : InputSource → Option Object
  | .workflowVariable => some context.variables
  | .previousStep => some context.executionData
  | .userInput => some context.inputData
  | .staticValue => none

namespace InputMapping

section

variable (mapping : InputMapping) (context : Context) (field : String)

/-- What stands at the path of a field in its source.  A `null` there counts. -/
def held? : Option Json :=
  (context.source? mapping.source).bind (Object.lookup (mapping.path.getD field))

/-- A field is required and has neither a value in its source nor a default. -/
structure IsMissing : Prop where
  required : mapping.required = true
  unheld : mapping.held? context field = none
  undefaulted : mapping.default = none

theorem value?_eq :
    mapping.value? context field = (mapping.held? context field).or mapping.default := by
  unfold value? find? held?
  cases mapping.source <;> rfl

theorem isMissing_iff :
    mapping.IsMissing context field ↔
      mapping.required = true ∧ mapping.value? context field = none := by
  rw [value?_eq, Option.or_eq_none_iff]
  exact ⟨fun missing => ⟨missing.required, missing.unheld, missing.undefaulted⟩,
    fun ⟨required, unheld, undefaulted⟩ => ⟨required, unheld, undefaulted⟩⟩

end

end InputMapping

/-- The fields of some mappings that have a value, and their values. -/
def fieldWrites (context : Context) (mappings : Dict InputMapping) : List PathWrite :=
  mappings.filterMap fun entry =>
    (entry.2.value? context entry.1).map fun value => (Path.segments entry.1, value)

section

variable
  {context other : Context}
  {mappings before behind : Dict InputMapping}
  {field : String}
  {mapping : InputMapping}
  {begun : Object}

theorem mem_fieldWrites {write : PathWrite} :
    write ∈ fieldWrites context mappings ↔
      ∃ entry ∈ mappings, Path.segments entry.1 = write.1 ∧
        entry.2.value? context entry.1 = some write.2 := by
  obtain ⟨path, value⟩ := write
  simp [fieldWrites, List.mem_filterMap, Option.map_eq_some_iff, and_comm]

/-- Where no field is missing, all that have a value are written. -/
theorem exists_resolveFields
    (present : ∀ entry ∈ mappings, ¬entry.2.IsMissing context entry.1)
    (begun : Object) :
    ∃ input, resolveFields context mappings begun = .ok input ∧
      some (.object input) = standing (some (.object begun)) (fieldWrites context mappings) := by
  induction mappings generalizing begun with
  | nil => exact ⟨begun, rfl, rfl⟩
  | cons entry rest inductionHypothesis =>
    obtain ⟨field, mapping⟩ := entry
    obtain ⟨here, present⟩ := List.forall_mem_cons.mp present
    rw [mapping.isMissing_iff context field, not_and] at here
    unfold fieldWrites at inductionHypothesis ⊢
    rw [resolveFields, List.filterMap_cons]
    cases found : mapping.value? context field with
    | some value =>
      obtain ⟨input, resolved, stands⟩ := inductionHypothesis present (Object.put field value begun)
      rw [Json.object_put] at stands
      exact ⟨input, resolved, stands⟩
    | none =>
      have optional : ¬mapping.required = true := fun required => here required found
      simpa [optional] using inductionHypothesis present begun

/-- The first missing field is reported. -/
theorem resolveFields_of_missing
    (present : ∀ entry ∈ before, ¬entry.2.IsMissing context entry.1)
    (missing : mapping.IsMissing context field)
    (begun : Object) :
    resolveFields context (before ++ (field, mapping) :: behind) begun =
      .error ⟨field, mapping.path.getD field⟩ := by
  induction before generalizing begun with
  | nil =>
    obtain ⟨required, absent⟩ := (mapping.isMissing_iff context field).mp missing
    rw [List.nil_append, resolveFields, absent]
    exact if_pos required
  | cons entry rest inductionHypothesis =>
    obtain ⟨first, earlier⟩ := entry
    obtain ⟨here, present⟩ := List.forall_mem_cons.mp present
    rw [earlier.isMissing_iff context first, not_and] at here
    rw [List.cons_append, resolveFields]
    cases found : earlier.value? context first with
    | some value => exact inductionHypothesis present _
    | none =>
      have optional : ¬earlier.required = true := fun required => here required found
      simpa [optional] using inductionHypothesis present begun

/-- Mappings whose sources hold the same are resolved alike. -/
theorem resolveFields_congr
    (same : ∀ entry ∈ mappings, other.source? entry.2.source = context.source? entry.2.source)
    (begun : Object) :
    resolveFields other mappings begun = resolveFields context mappings begun := by
  induction mappings generalizing begun with
  | nil => rfl
  | cons entry rest inductionHypothesis =>
    obtain ⟨field, mapping⟩ := entry
    obtain ⟨here, same⟩ := List.forall_mem_cons.mp same
    have value : mapping.value? other field = mapping.value? context field := by
      rw [InputMapping.value?_eq, InputMapping.value?_eq, InputMapping.held?, here]
      rfl
    rw [resolveFields, resolveFields, value]
    cases mapping.value? context field with
    | some value => exact inductionHypothesis same _
    | none => simp only [inductionHypothesis same]

end

/-! ## Inputs of steps -/

namespace Step

/-- None of the input fields leads to another one or above it. -/
def FieldsApart (step : Step) : Prop :=
  step.inputs.entries.Pairwise fun first second =>
    ¬Overlap (Path.segments first.1) (Path.segments second.1)

/-- A missing input is about the least field that is missing. -/
structure LeastMissing (step : Step) (context : Context) (missing : MissingInput) : Prop where
  isMissing : ∃ mapping, (missing.field, mapping) ∈ step.inputs.entries ∧
    mapping.IsMissing context missing.field ∧ missing.path = mapping.path.getD missing.field
  least : ∀ entry ∈ step.inputs.entries, entry.2.IsMissing context entry.1 → missing.field ≤ entry.1

/-- What the mapped fields of a step and a context make of an input. -/
structure IsInput (step : Step) (context : Context) (input : Object) : Prop where
  /-- A field holds what its source holds, or else its default, or else nothing. -/
  holds : step.FieldsApart → ∀ entry ∈ step.inputs.entries,
    Object.lookup entry.1 input = (entry.2.held? context entry.1).or entry.2.default
  /-- Everything in the input comes from a field. -/
  comes : ∀ path ≠ [], ∀ content, (Json.object input).follow path = some content →
    ∃ entry ∈ step.inputs.entries, ∃ value,
      (entry.2.held? context entry.1).or entry.2.default = some value ∧
        ComesFrom (Path.segments entry.1, value) path content

/-- What becomes of the mapped inputs of a step. -/
structure ResolvesInputs (step : Step) (context : Context) : Prop where
  fails_iff : (∃ missing, step.resolveInput context = .error missing) ↔
    ∃ entry ∈ step.inputs.entries, entry.2.IsMissing context entry.1
  error_iff : ∀ missing, step.resolveInput context = .error missing ↔
    step.LeastMissing context missing
  succeeds : (∀ entry ∈ step.inputs.entries, ¬entry.2.IsMissing context entry.1) →
    ∃ input, step.resolveInput context = .ok input ∧ step.IsInput context input
  /-- Only the sources of the fields are read. -/
  reads : ∀ other : Context,
    (∀ entry ∈ step.inputs.entries, other.source? entry.2.source = context.source? entry.2.source) →
      step.resolveInput other = step.resolveInput context

section

variable {step : Step} {context : Context} {input : Object}

theorem resolveInput_eq (mapped : step.inputs.entries ≠ []) (context : Context) :
    step.resolveInput context = resolveFields context step.inputs.entries [] := by
  unfold resolveInput
  rw [if_neg (by simpa using mapped)]

theorem FieldsApart.pathsApart (apart : step.FieldsApart) (context : Context) :
    PathsApart (fieldWrites context step.inputs.entries) := by
  refine List.Pairwise.filterMap _ ?_ apart
  intro first second apart write found write' found'
  obtain ⟨value, -, rfl⟩ := Option.map_eq_some_iff.mp found
  obtain ⟨value', -, rfl⟩ := Option.map_eq_some_iff.mp found'
  exact apart

/-- A field overlaps with no other one. -/
theorem FieldsApart.eq_of_overlap
    {first second : String × InputMapping}
    (apart : step.FieldsApart)
    (member : first ∈ step.inputs.entries)
    (member' : second ∈ step.inputs.entries)
    (overlap : Overlap (Path.segments first.1) (Path.segments second.1)) :
    first = second := by
  have symmetric : Std.Symm fun first second : String × InputMapping =>
      ¬Overlap (Path.segments first.1) (Path.segments second.1) :=
    ⟨fun _ _ apart overlap => apart overlap.symm⟩
  by_contra different
  exact List.Pairwise.forall apart member member' different overlap

theorem isInput_of_standing
    (stands : some (.object input) =
      standing (some (.object [])) (fieldWrites context step.inputs.entries)) :
    step.IsInput context input := by
  have comes : ∀ path ≠ [], ∀ content, (Json.object input).follow path = some content →
      ∃ entry ∈ step.inputs.entries, ∃ value, entry.2.value? context entry.1 = some value ∧
        ComesFrom (Path.segments entry.1, value) path content := by
    intro path inside content found
    have read : (standing (some (.object [])) (fieldWrites context step.inputs.entries)).bind
        (Json.follow path) = some content := by
      rw [← stands]
      exact found
    rcases exists_comesFrom read with begun | ⟨⟨whole, value⟩, member, source⟩
    · obtain ⟨key, rest, rfl⟩ := List.exists_cons_of_ne_nil inside
      cases begun
    · obtain ⟨entry, listed, rfl, held⟩ := mem_fieldWrites.mp member
      exact ⟨entry, listed, value, held, source⟩
  refine ⟨fun apart entry member => ?_, ?_⟩
  · rw [← InputMapping.value?_eq]
    cases found : entry.2.value? context entry.1 with
    | some value =>
      have written : (Path.segments entry.1, value) ∈ fieldWrites context step.inputs.entries :=
        mem_fieldWrites.mpr ⟨entry, member, rfl, found⟩
      have read := follow_standing_of_mem (apart.pathsApart context) written (some (.object []))
      rw [← stands] at read
      exact (Object.lookup_eq _ _).trans read
    | none =>
      -- Whatever stood there would come from a field, and none but this one overlaps with it.
      rw [Option.eq_none_iff_forall_ne_some]
      intro content read
      rw [Object.lookup_eq] at read
      obtain ⟨key, rest, same⟩ := Path.exists_segments entry.1
      obtain ⟨other, listed, value, held, source⟩ := comes _ (by simp [same]) content read
      obtain rfl := apart.eq_of_overlap listed member source.overlap
      cases held.symm.trans found
  · simpa only [InputMapping.value?_eq] using comes

/-- Where no field is missing, there is an input. -/
theorem exists_resolveInput
    (mapped : step.inputs.entries ≠ [])
    (present : ∀ entry ∈ step.inputs.entries, ¬entry.2.IsMissing context entry.1) :
    ∃ input, step.resolveInput context = .ok input ∧ step.IsInput context input := by
  obtain ⟨input, resolved, stands⟩ := exists_resolveFields present []
  exact ⟨input, (resolveInput_eq mapped context).trans resolved, isInput_of_standing stands⟩

/-- If a field is missing, there is a first one, and it is reported. -/
theorem exists_first_missing
    (missing : ∃ entry ∈ step.inputs.entries, entry.2.IsMissing context entry.1) :
    ∃ before field mapping behind, step.inputs.entries = before ++ (field, mapping) :: behind ∧
      mapping.IsMissing context field ∧
      (∀ entry ∈ before, ¬entry.2.IsMissing context entry.1) ∧
      step.resolveInput context = .error ⟨field, mapping.path.getD field⟩ := by
  classical
  have found :
      (List.find? (fun entry => entry.2.IsMissing context entry.1) step.inputs.entries).isSome := by
    simpa [List.find?_isSome] using missing
  obtain ⟨⟨field, mapping⟩, found⟩ := Option.isSome_iff_exists.mp found
  obtain ⟨here, before, behind, same, present⟩ := List.find?_eq_some_iff_append.mp found
  have here : mapping.IsMissing context field := by simpa using here
  have present : ∀ entry ∈ before, ¬entry.2.IsMissing context entry.1 := by simpa using present
  refine ⟨before, field, mapping, behind, same, here, present, ?_⟩
  rw [resolveInput_eq (by simp [same]), same]
  exact resolveFields_of_missing present here []

/-- In key order the first field is the least one. -/
theorem leastMissing_of_first
    {before behind : Dict InputMapping}
    {field : String}
    {mapping : InputMapping}
    (same : step.inputs.entries = before ++ (field, mapping) :: behind)
    (missing : mapping.IsMissing context field)
    (present : ∀ entry ∈ before, ¬entry.2.IsMissing context entry.1) :
    step.LeastMissing context ⟨field, mapping.path.getD field⟩ := by
  refine ⟨⟨mapping, by simp [same], missing, rfl⟩, fun entry member missing => ?_⟩
  have sorted := step.inputs.sorted
  rw [same, Dict.Sorted, List.pairwise_append, List.pairwise_cons] at sorted
  rw [same, List.mem_append, List.mem_cons] at member
  rcases member with earlier | rfl | later
  · exact (present entry earlier missing).elim
  · exact le_rfl
  · exact (sorted.2.1.1 entry later).le

/-- Only one field is the least one that is missing. -/
theorem LeastMissing.unique
    {first second : MissingInput}
    (least : step.LeastMissing context first)
    (least' : step.LeastMissing context second) :
    first = second := by
  obtain ⟨field, path⟩ := first
  obtain ⟨field', path'⟩ := second
  obtain ⟨mapping, member, missing, same⟩ := least.isMissing
  obtain ⟨mapping', member', missing', same'⟩ := least'.isMissing
  obtain rfl : field = field' :=
    le_antisymm (least.least _ member' missing') (least'.least _ member missing)
  rw [← Dict.find?_eq_some_iff step.inputs.sorted.nodup_keys] at member member'
  obtain rfl : mapping = mapping' := Option.some.inj (member.symm.trans member')
  exact congrArg (MissingInput.mk field) (same.trans same'.symm)

/-- Mapped inputs are resolved exactly: the least missing field is reported, and where none
is missing, each field holds its value and nothing else is there. -/
theorem resolveInput_resolves
    (mapped : step.inputs.entries ≠ [])
    (context : Context) :
    step.ResolvesInputs context := by
  have fails (missing : ∃ entry ∈ step.inputs.entries, entry.2.IsMissing context entry.1) :
      ∃ missing, step.resolveInput context = .error missing ∧
        step.LeastMissing context missing := by
    obtain ⟨before, field, mapping, behind, same, here, present, failed⟩ :=
      exists_first_missing missing
    exact ⟨_, failed, leastMissing_of_first same here present⟩
  have isMissing {missing : MissingInput} (failed : step.resolveInput context = .error missing) :
      ∃ entry ∈ step.inputs.entries, entry.2.IsMissing context entry.1 := by
    by_contra none
    obtain ⟨input, resolved, -⟩ := exists_resolveInput mapped fun entry member missing =>
      none ⟨entry, member, missing⟩
    cases resolved.symm.trans failed
  constructor
  case fails_iff =>
    refine ⟨fun ⟨_, failed⟩ => isMissing failed, fun missing => ?_⟩
    obtain ⟨missing, failed, -⟩ := fails missing
    exact ⟨missing, failed⟩
  case error_iff =>
    refine fun missing => ⟨fun failed => ?_, fun least => ?_⟩
    · obtain ⟨other, failed', least⟩ := fails (isMissing failed)
      cases failed.symm.trans failed'
      exact least
    · obtain ⟨mapping, member, here, -⟩ := least.isMissing
      obtain ⟨other, failed, least'⟩ := fails ⟨_, member, here⟩
      rw [failed, least.unique least']
  case succeeds => exact exists_resolveInput mapped
  case reads =>
    intro other same
    rw [resolveInput_eq mapped, resolveInput_eq mapped]
    exact resolveFields_congr same []

end

/-- A step whose inputs come from all the sources there are. -/
def shipping : Step where
  id := "ship"
  type := .custom "ship"
  inputs := {
    entries := [
      ("city", { source := .userInput, path := some "address.city", required := true }),
      ("note", { source := .previousStep, default := some (.text "none") }),
      ("priority", { source := .staticValue, default := some (.text "high"), required := true }),
      ("sku.id", { source := .workflowVariable, path := some "sku", required := true }),
      ("sku.size", { source := .previousStep, path := some "size" })]
    sorted := by decide }

/-- A context with a note that is there, but `null`. -/
def toTurin : Context :=
  { Context.create "e1" "orders" [("sku", .text "A-1")]
      [("address", .object [("city", .text "Turin")])] {} ⟨0⟩ with
    executionData := [("note", .null)] }

theorem resolveInput_resolves_shipping :
    shipping.FieldsApart ∧ shipping.ResolvesInputs toTurin := by
  refine ⟨?_, resolveInput_resolves (List.cons_ne_nil _ _) toTurin⟩
  unfold FieldsApart Overlap
  decide

example :
    shipping.resolveInput toTurin =
      .ok [("city", .text "Turin"), ("note", .null), ("priority", .text "high"),
        ("sku", .object [("id", .text "A-1")])] :=
  rfl

end Step

end WorkflowEngine
