import WorkflowEngine.Proofs.Evolution
import WorkflowEngine.Proofs.Resolution

/-!
# Handing data over

A step with output mappings stores what it found at their destinations, and a later step that
reads a destination is given just that.  Of the rest of the context nothing changes, unless a
destination shares its way with an array, which is replaced.
-/

namespace WorkflowEngine

/-- The source from which later steps read what is stored in a target. -/
def OutputTarget.source : OutputTarget → InputSource
  | .workflowVariable => .workflowVariable
  | .nextStep | .workflowOutput => .previousStep

/-- The part of a context that is written for a target. -/
def Context.target (context : Context) : OutputTarget → Object
  | .workflowVariable => context.variables
  | .nextStep | .workflowOutput => context.executionData

@[simp] theorem Context.source?_source (context : Context) (target : OutputTarget) :
    context.source? target.source = some (context.target target) := by
  cases target <;> rfl

/-- The path in its target at which an output field is stored. -/
def destination (entry : String × OutputMapping) : List String :=
  Path.segments (entry.2.pathFor entry.1)

/-- The values that some mappings find in a result for a target, and their destinations. -/
def targetWrites
    (target : OutputTarget)
    (result : Object)
    (mappings : Dict OutputMapping) : List PathWrite :=
  mappings.filterMap fun entry =>
    if entry.2.target.source = target.source then
      (Object.lookup entry.1 result).map fun value => (destination entry, value)
    else none

section

variable {target : OutputTarget} {result : Object} {mappings : Dict OutputMapping}

/-- What is written into a target comes from a mapping to it whose field the result has. -/
theorem mem_targetWrites {write : PathWrite} :
    write ∈ targetWrites target result mappings ↔
      ∃ entry ∈ mappings, entry.2.target.source = target.source ∧
        destination entry = write.1 ∧ Object.lookup entry.1 result = some write.2 := by
  obtain ⟨path, value⟩ := write
  simp [targetWrites, List.mem_filterMap, Option.map_eq_some_iff, and_comm]

/-- A mapping writes into its own target alone. -/
theorem OutputMapping.target_apply
    (mapping : OutputMapping)
    (field : String)
    (value : Json)
    (context : Context)
    (target : OutputTarget) :
    (mapping.apply field value context).target target =
      if mapping.target.source = target.source then
        Object.put (mapping.pathFor field) value (context.target target)
      else context.target target := by
  obtain ⟨stored, path⟩ := mapping
  cases stored <;> cases target <;> rfl

/-- What the mappings find for a target is written there. -/
theorem target_applyFields (context : Context) :
    some (.object ((applyFields result mappings context).target target)) =
      standing (some (.object (context.target target))) (targetWrites target result mappings) := by
  induction mappings generalizing context with
  | nil => rfl
  | cons entry rest inductionHypothesis =>
    obtain ⟨field, mapping⟩ := entry
    unfold targetWrites at inductionHypothesis ⊢
    rw [applyFields, List.filterMap_cons]
    cases found : Object.lookup field result with
    | none => simpa using inductionHypothesis context
    | some value =>
      dsimp only
      rw [inductionHypothesis, OutputMapping.target_apply]
      by_cases same : mapping.target.source = target.source
      · rw [if_pos same, if_pos same, Json.object_put]
        rfl
      · rw [if_neg same, if_neg same]

end

namespace Step

/-- None of the destinations in one target leads to another one or above it. -/
def DestinationsApart (step : Step) : Prop :=
  step.outputs.entries.Pairwise fun first second =>
    first.2.target.source = second.2.target.source →
      ¬Overlap (destination first) (destination second)

/-- An output field of a step is found in a result and stored in a target. -/
structure Stores
    (step : Step)
    (result : Object)
    (target : OutputTarget)
    (entry : String × OutputMapping) : Prop where
  mem : entry ∈ step.outputs.entries
  source_eq : entry.2.target.source = target.source
  found : ∃ value, Object.lookup entry.1 result = some value

/-- What storing the result of a step makes of a context. -/
structure HandsOver (step : Step) (result : Object) (before after : Context) : Prop where
  /-- A value of the result stands at its destination. -/
  stands : ∀ entry ∈ step.outputs.entries, ∀ value, Object.lookup entry.1 result = some value →
    Object.lookup (entry.2.pathFor entry.1) (after.target entry.2.target) = some value
  /-- A step that reads the destination is given the value, or another input is missing. -/
  arrives : ∀ entry ∈ step.outputs.entries, ∀ value, Object.lookup entry.1 result = some value →
    ∀ consumer : Step, consumer.FieldsApart → ∀ wanted ∈ consumer.inputs.entries,
      wanted.2.source = entry.2.target.source →
      wanted.2.pathFor wanted.1 = entry.2.pathFor entry.1 →
        (∃ input, consumer.resolveInput after = .ok input ∧
          Object.lookup wanted.1 input = some value) ∨
        ∃ missing, consumer.resolveInput after = .error missing ∧ missing.field ≠ wanted.1
  /-- Only the targets change. -/
  frame : ∃ vars data, after = { before with «variables» := vars, executionData := data }
  /-- Apart from the destinations exactly that is read in a target which was read before,
  and not through an array on the way to one of them. -/
  keeps : ∀ target path,
    (∀ entry, step.Stores result target entry → ¬Overlap (destination entry) path) →
      ∀ value, (Json.object (after.target target)).follow path = some value ↔
        (Json.object (before.target target)).follow path = some value ∧
          ∀ entry, step.Stores result target entry →
            SharesNoArray (some (.object (before.target target))) (destination entry) path

section

variable {step : Step} {result : Object} {target : OutputTarget} {context : Context}

/-- A step with mappings stores what they name. -/
theorem applyOutput_eq (mapped : step.outputs.entries ≠ []) (result : Object) (context : Context) :
    step.applyOutput result context = applyFields result step.outputs.entries context := by
  unfold applyOutput
  rw [if_neg (by simpa using mapped)]

/-- Destinations that are apart are written apart, whatever the result has of them. -/
theorem DestinationsApart.pathsApart
    (apart : step.DestinationsApart)
    (target : OutputTarget)
    (result : Object) :
    PathsApart (targetWrites target result step.outputs.entries) := by
  refine List.Pairwise.filterMap _ ?_ apart
  intro first second apart write found write' found'
  obtain ⟨same, found⟩ := Option.ite_none_right_eq_some.mp found
  obtain ⟨same', found'⟩ := Option.ite_none_right_eq_some.mp found'
  obtain ⟨value, -, rfl⟩ := Option.map_eq_some_iff.mp found
  obtain ⟨value', -, rfl⟩ := Option.map_eq_some_iff.mp found'
  exact apart (same.trans same'.symm)

/-- A field whose source holds a value gets the value, or another field is missing. -/
theorem resolveInput_of_held
    {wanted : String × InputMapping}
    {value : Json}
    (apart : step.FieldsApart)
    (member : wanted ∈ step.inputs.entries)
    (held : wanted.2.held? context wanted.1 = some value) :
    (∃ input, step.resolveInput context = .ok input ∧
      Object.lookup wanted.1 input = some value) ∨
    ∃ missing, step.resolveInput context = .error missing ∧ missing.field ≠ wanted.1 := by
  by_cases missing : ∃ entry ∈ step.inputs.entries, entry.2.IsMissing context entry.1
  · obtain ⟨before, field, mapping, behind, same, here, -, failed⟩ := exists_first_missing missing
    have listed : (field, mapping) ∈ step.inputs.entries := by simp [same]
    refine .inr ⟨_, failed, fun (equal : field = wanted.1) => ?_⟩
    have overlap : Overlap (Path.segments field) (Path.segments wanted.1) :=
      .inl (equal ▸ List.prefix_rfl)
    obtain rfl := apart.eq_of_overlap listed member overlap
    cases here.unheld.symm.trans held
  · obtain ⟨input, resolved, isInput⟩ := exists_resolveInput (List.ne_nil_of_mem member)
      fun entry member here => missing ⟨entry, member, here⟩
    exact .inl ⟨input, resolved, by rw [isInput.holds apart wanted member, held]; rfl⟩

/-- What a step finds in its result is handed over as it is. -/
theorem applyOutput_handsOver
    (mapped : step.outputs.entries ≠ [])
    (apart : step.DestinationsApart)
    (result : Object)
    (context : Context) :
    step.HandsOver result context (step.applyOutput result context) := by
  have written (target : OutputTarget) :
      some (.object ((step.applyOutput result context).target target)) =
        standing (some (.object (context.target target)))
          (targetWrites target result step.outputs.entries) := by
    rw [applyOutput_eq mapped, target_applyFields]
  have stands : ∀ entry ∈ step.outputs.entries, ∀ value, Object.lookup entry.1 result = some value →
      Object.lookup (entry.2.pathFor entry.1)
        ((step.applyOutput result context).target entry.2.target) = some value := by
    intro entry member value found
    have listed : (destination entry, value) ∈
        targetWrites entry.2.target result step.outputs.entries :=
      mem_targetWrites.mpr ⟨entry, member, rfl, rfl, found⟩
    have read := follow_standing_of_mem (apart.pathsApart _ result) listed
      (some (.object (context.target entry.2.target)))
    rw [← written] at read
    exact (Object.lookup_eq _ _).trans read
  constructor
  case stands => exact stands
  case arrives =>
    intro entry member value found consumer fields wanted member' source path
    refine resolveInput_of_held fields member' ?_
    rw [InputMapping.held?, source, Context.source?_source]
    exact (congrArg (Object.lookup · _) path).trans (stands entry member value found)
  case frame => exact (step.grows_applyOutput result context).exists_eq
  case keeps =>
    intro target path apart value
    have stored {write : PathWrite} (member : write ∈ targetWrites target result step.outputs.entries) :
        ∃ entry, step.Stores result target entry ∧ destination entry = write.1 := by
      obtain ⟨entry, listed, same, path, found⟩ := mem_targetWrites.mp member
      exact ⟨entry, ⟨listed, same, _, found⟩, path⟩
    have outside : ∀ write ∈ targetWrites target result step.outputs.entries,
        ¬Overlap write.1 path := by
      intro write member
      obtain ⟨entry, stores, same⟩ := stored member
      exact same ▸ apart entry stores
    have kept := follow_standing_eq_some_iff outside (some (.object (context.target target))) value
    rw [← written] at kept
    refine kept.trans (and_congr_right fun _ => ⟨fun free entry stores => ?_,
      fun free write member => ?_⟩)
    · obtain ⟨content, found⟩ := stores.found
      exact free (destination entry, content)
        (mem_targetWrites.mpr ⟨entry, stores.mem, stores.source_eq, rfl, found⟩)
    · obtain ⟨entry, stores, same⟩ := stored member
      exact same ▸ free entry stores

end

/-- A step that stores a number, a list and the first item of the list. -/
def ordering : Step where
  id := "order"
  type := .createPurchaseOrder
  outputs := {
    entries := [
      ("available", { target := .workflowVariable, path := some "stock.available" }),
      ("lines", { target := .nextStep, path := some "order.lines" }),
      ("lines.0.sku", { target := .workflowOutput, path := some "order.first" })]
    sorted := by decide }

/-- What that step comes back with. -/
def ordered : Object :=
  [("available", .ofInt 4), ("lines", .array [.object [("sku", .text "A-1")]])]

theorem applyOutput_handsOver_ordered :
    ordering.HandsOver ordered toTurin (ordering.applyOutput ordered toTurin) := by
  refine applyOutput_handsOver (List.cons_ne_nil _ _) ?_ ordered toTurin
  unfold DestinationsApart Overlap
  decide

/-- Two paths part at an object. -/
def PartAtObject (entries : Object) (first second : List String) : Prop :=
  ∃ shared key other rest rest' inner,
    first = shared ++ key :: rest ∧ second = shared ++ other :: rest' ∧ key ≠ other ∧
      (Json.object entries).follow shared = some (.object inner)

/-- A step that stores a number in the first item of a list. -/
def counting : Step where
  id := "count"
  type := .checkStock
  outputs := {
    entries := [("count", { target := .workflowVariable, path := some "lines.0.qty" })]
    sorted := by decide }

/-- An object in an array is lost when a value is stored in it. -/
theorem item_lost_in_array :
    ¬∀ (step : Step) (result : Object) (before : Context),
      step.outputs.entries ≠ [] → step.DestinationsApart → ∀ target path,
        (∀ entry ∈ step.outputs.entries, entry.2.target.source = target.source →
          PartAtObject (before.target target) path (destination entry)) →
        (Json.object ((step.applyOutput result before).target target)).follow path =
          (Json.object (before.target target)).follow path := by
  intro kept
  let before : Context :=
    { toTurin with
      «variables» := [("lines", .array [.object [("sku", .text "A-1")]])] }
  have parts : ∀ entry ∈ counting.outputs.entries, entry.2.target.source = .workflowVariable →
      PartAtObject before.variables ["lines", "0", "sku"] (destination entry) := by
    intro entry member _
    obtain rfl := List.mem_singleton.mp member
    exact ⟨["lines", "0"], "sku", "qty", [], [], [("sku", .text "A-1")], rfl, rfl, by decide, rfl⟩
  have lost : (Json.object (counting.applyOutput [("count", .ofInt 3)] before).variables).follow
      ["lines", "0", "sku"] = none :=
    rfl
  have held : (Json.object before.variables).follow ["lines", "0", "sku"] =
      some (.text "A-1") :=
    rfl
  have same := kept counting [("count", .ofInt 3)] before (List.cons_ne_nil _ _)
    (List.pairwise_singleton _ _) .workflowVariable ["lines", "0", "sku"] parts
  cases lost.symm.trans (same.trans held)

end Step
end WorkflowEngine
