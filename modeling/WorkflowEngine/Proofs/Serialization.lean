import WorkflowEngine.Proofs.Readers
import WorkflowEngine.Workflow.Loading

/-!
# Workflows that are written and read again

What a reader makes of a document is kept to what can be written, and what was written
is read back as it was: every field that is left out has its default, and every choice
is written under a name that is read as the same choice.
-/

namespace WorkflowEngine

open WorkflowEngine.Tree (Reads Ensures FieldsTell AreTyped)

/-! ## Fields -/

section

variable {α : Type} {name key : String} {write : α → Json}

/-- A field that may be missing is written under its name alone. -/
@[simp] theorem lookup_optionalField (value : Option α) :
    (optionalField name write value).lookup key = if key = name then value.map write else none := by
  cases value with
  | none => simp [optionalField]
  | some content =>
    by_cases same : key = name
    · simp [optionalField, same]
    · simp [optionalField, same, List.lookup_cons, beq_false_of_ne same]

/-- It is written once at most. -/
theorem keys_optionalField (value : Option α) :
    ((optionalField name write value).map Prod.fst).Sublist [name] := by
  cases value <;> simp [optionalField]

/-- A dictionary is written under its name unless it is empty. -/
@[simp] theorem lookup_mappingField (entries : Dict α) :
    (mappingField name write entries).lookup key =
      if key = name then
        if entries = [] then none else some (.object (Dict.mapValues write entries))
      else none := by
  cases entries with
  | nil => simp [mappingField]
  | cons entry rest =>
    by_cases same : key = name
    · simp [mappingField, same]
    · simp [mappingField, same, List.lookup_cons, beq_false_of_ne same]

theorem keys_mappingField (entries : Dict α) :
    ((mappingField name write entries).map Prod.fst).Sublist [name] := by
  unfold mappingField
  split <;> simp

@[simp] theorem lookup_unless (empty : Prop) [Decidable empty] (value : Json) :
    (if empty then [] else [(name, value)] : List (String × Json)).lookup key =
      if key = name then if empty then none else some value else none := by
  by_cases left : empty
  · simp [left]
  · by_cases same : key = name
    · simp [left, same]
    · simp [left, same, List.lookup_cons, beq_false_of_ne same]

theorem keys_unless (empty : Prop) [Decidable empty] (value : Json) :
    ((if empty then [] else [(name, value)] : List (String × Json)).map Prod.fst).Sublist
      [name] := by
  split <;> simp

/-- The names of two parts of a record follow one another. -/
theorem keys_append
    {first rest : List (String × Json)}
    {names others : List String}
    (left : (first.map Prod.fst).Sublist names)
    (right : (rest.map Prod.fst).Sublist others) :
    ((first ++ rest).map Prod.fst).Sublist (names ++ others) := by
  rw [List.map_append]
  exact left.append right

end

section

variable
  {α : Type}
  {fields : Tree.Fields}
  {entries : List (String × Json)}
  {name : String}
  {read : Tree → Option α}
  {write : α → Json}

/-- A dictionary that is left out when it is empty is read as the empty one. -/
theorem defaulted_mapping
    {dict : SortedDict α}
    (tells : FieldsTell fields entries)
    (known : entries.lookup name =
      if dict.entries = [] then none else some (.object (Dict.mapValues write dict.entries)))
    (each : ∀ entry ∈ dict.entries, Reads read (write entry.2) entry.2) :
    fields.defaulted name [] (Tree.dictOf? read) = some dict.entries := by
  split at known
  next empty => rw [tells.defaulted_of_absent known, empty]
  next => exact tells.defaulted known (Tree.reads_dict dict.sorted each)

/-- A list that is left out when it is empty is read as the empty one. -/
theorem defaulted_list
    {values : List α}
    (tells : FieldsTell fields entries)
    (known : entries.lookup name =
      if values = [] then none else some (.array (values.map write)))
    (each : ∀ value ∈ values, Reads read (write value) value) :
    fields.defaulted name [] (Tree.listOf? read) = some values := by
  split at known
  next empty => rw [tells.defaulted_of_absent known, empty]
  next => exact tells.defaulted known (Tree.reads_list each)

end

/-! ## Choices -/

theorem InputSource.takesBack_names : Tree.TakesBack InputSource.names := by
  rintro (_ | _ | _ | _) <;> rfl

theorem OutputTarget.takesBack_names : Tree.TakesBack OutputTarget.names := by
  rintro (_ | _ | _) <;> rfl

/-- A jump has two names, of which the first one is written. -/
theorem FailureAction.takesBack_names : Tree.TakesBack FailureAction.names := by
  rintro (_ | _ | _ | _ | _) <;> rfl

theorem Operator.takesBack_names : Tree.TakesBack Operator.names := by
  intro operator
  cases operator <;> rfl

theorem Joiner.takesBack_names : Tree.TakesBack Joiner.names := by
  rintro (_ | _) <;> rfl

/-! ## Mappings -/

/-- What a document can hold of an input mapping. -/
def InputMapping.IsReadable (mapping : InputMapping) : Prop :=
  ∀ value ∈ mapping.default, value.IsOrderly ∧ value ≠ .null

/-- What a document can hold of an input mapping is read back. -/
theorem InputMapping.reads
    {mapping : InputMapping}
    (readable : mapping.IsReadable) :
    Reads InputMapping.read? mapping.toJson mapping := by
  intro tree tells
  obtain ⟨fields, given, tells⟩ := Tree.exists_fields ["source", "path", "default", "required"]
    tells
    (keys_append (keys_append (keys_append (.refl _) (keys_optionalField _))
      (keys_optionalField _)) (.refl _))
    (by decide)
  have source : fields.required "source" (Tree.choiceOf? InputSource.names) =
      some mapping.source :=
    tells.required (by simp) (Tree.reads_choice InputSource.takesBack_names _)
  have path : fields.optional "path" Tree.text? = some mapping.path :=
    tells.optional_text (by simp [List.lookup_cons, List.lookup_append])
  have default : fields.optional "default" Tree.json? = some mapping.default :=
    tells.optional (by simp [List.lookup_cons, List.lookup_append])
      (fun value present => (readable value present).2)
      fun value present => Tree.reads_json (readable value present).1
  have required : fields.defaulted "required" false Tree.bool? = some mapping.required :=
    tells.defaulted (by simp [List.lookup_cons, List.lookup_append]) (Tree.reads_bool _)
  unfold read?
  simp [given, source, path, default, required]

/-- No more is ever read of an input mapping than a document can hold of it. -/
theorem InputMapping.ensures : Ensures InputMapping.read? InputMapping.IsReadable := by
  intro value mapping read
  simp only [read?, Option.bind_eq_bind, Option.bind_eq_some_iff] at read
  obtain ⟨fields, given, source, -, path, -, default, stated, required, -, same⟩ := read
  cases same
  have usual : ∀ value ∈ (none : Option Json), value.IsOrderly ∧ value ≠ .null := by simp
  have kept := (Tree.areTyped_of_fields? given).defaulted Tree.ensures_optional_json usual stated
  exact kept

/-- An output mapping is read back. -/
theorem OutputMapping.reads (mapping : OutputMapping) :
    Reads OutputMapping.read? mapping.toJson mapping := by
  intro tree tells
  obtain ⟨fields, given, tells⟩ := Tree.exists_fields ["target", "path"] tells
    (keys_append (.refl _) (keys_optionalField _)) (by decide)
  have target : fields.required "target" (Tree.choiceOf? OutputTarget.names) =
      some mapping.target :=
    tells.required (by simp) (Tree.reads_choice OutputTarget.takesBack_names _)
  have path : fields.optional "path" Tree.text? = some mapping.path :=
    tells.optional_text (by simp [List.lookup_cons])
  unfold read?
  simp [given, target, path]

/-! ## Failures -/

/-- What a document can hold of a count and a delay. -/
structure FailureHandling.IsReadable (handling : FailureHandling) : Prop where
  maxRetries : ∀ count ∈ handling.maxRetries, count < Nat.pow 2 32
  retryDelayMs : ∀ delay ∈ handling.retryDelayMs, delay < Nat.pow 2 64

/-- What a document can hold of the handling of failures is read back. -/
theorem FailureHandling.reads
    {handling : FailureHandling}
    (readable : handling.IsReadable) :
    Reads FailureHandling.read? handling.toJson handling := by
  intro tree tells
  obtain ⟨fields, given, tells⟩ := Tree.exists_fields
    ["onError", "maxRetries", "retryDelayMs", "fallbackStepId", "continueStepId"] tells
    (keys_append (keys_append (keys_append (keys_append (keys_optionalField _)
      (keys_optionalField _)) (keys_optionalField _)) (keys_optionalField _))
      (keys_optionalField _))
    (by decide)
  have action : fields.optional "onError" FailureAction.read? = some handling.action :=
    tells.optional_choice (by simp [List.lookup_append]; rfl) FailureAction.takesBack_names
  have maxRetries : fields.optional "maxRetries" Tree.nat32? = some handling.maxRetries :=
    tells.optional_nat (by simp [List.lookup_append]) readable.maxRetries
  have retryDelayMs : fields.optional "retryDelayMs" Tree.nat64? = some handling.retryDelayMs :=
    tells.optional_nat (by simp [List.lookup_append]) readable.retryDelayMs
  have fallbackStep : fields.optional "fallbackStepId" Tree.text? = some handling.fallbackStep :=
    tells.optional_text (by simp [List.lookup_append])
  have continueStep : fields.optional "continueStepId" Tree.text? = some handling.continueStep :=
    tells.optional_text (by simp [List.lookup_append])
  unfold read?
  simp [given, action, maxRetries, retryDelayMs, fallbackStep, continueStep]

/-- Counts and delays that are read are within the range of their types. -/
theorem FailureHandling.ensures : Ensures FailureHandling.read? FailureHandling.IsReadable := by
  intro value handling read
  simp only [read?, Option.bind_eq_bind, Option.bind_eq_some_iff] at read
  obtain ⟨fields, given, action, -, maxRetries, retries, retryDelayMs, delays, fallback, -,
    continued, -, same⟩ := read
  cases same
  have typed := Tree.areTyped_of_fields? given
  exact ⟨typed.optional (Tree.ensures_nat _) retries, typed.optional (Tree.ensures_nat _) delays⟩

/-! ## Conditions -/

/-- A condition is read back with its value. -/
theorem Condition.reads
    {condition : Condition}
    (orderly : condition.value.IsOrderly) :
    Reads Condition.read? condition.toJson condition := by
  intro tree tells
  obtain ⟨fields, given, tells⟩ := Tree.exists_fields
    ["field", "operator", "value", "logicalOperator"] tells
    (keys_append (.refl _) (keys_optionalField _)) (by decide)
  have field : fields.required "field" Tree.text? = some condition.field :=
    tells.required (by simp) (Tree.reads_text _)
  have operator : fields.required "operator" Operator.read? = some condition.operator :=
    tells.required (by simp [List.lookup_cons]) (Tree.reads_choice Operator.takesBack_names _)
  have value : fields.defaulted "value" .null Tree.json? = some condition.value :=
    tells.defaulted (by simp [List.lookup_cons]) (Tree.reads_json orderly)
  have joiner : fields.optional "logicalOperator" Joiner.read? = some condition.joiner :=
    tells.optional_choice (by simp [List.lookup_cons]) Joiner.takesBack_names
  unfold read?
  simp [given, field, operator, value, joiner]

/-- The value of a condition that is read has its keys in order. -/
theorem Condition.ensures : Ensures Condition.read? fun condition => condition.value.IsOrderly := by
  intro written condition read
  simp only [read?, Option.bind_eq_bind, Option.bind_eq_some_iff] at read
  obtain ⟨fields, given, field, -, operator, -, value, stated, joiner, -, same⟩ := read
  cases same
  have usual : Json.IsOrderly .null := trivial
  exact (Tree.areTyped_of_fields? given).defaulted Tree.ensures_json usual stated

/-! ## Steps -/

/-- Every type that is known is found under its name. -/
theorem StepType.ofName_name : ∀ type ∈ known, ofName type.name = type := by
  decide +kernel

/-- A type that was read from a name is read from its own name as well. -/
theorem StepType.ofName_name_ofName (name : String) : ofName (ofName name).name = ofName name := by
  cases found : known.find? (fun type => type.name == spelling name) with
  | some type =>
    have same : ofName name = type := by simp [ofName, found]
    rw [same]
    exact ofName_name type (List.mem_of_find?_eq_some found)
  | none =>
    have same : ofName name = .custom name := by simp [ofName, found]
    rw [same]
    exact same

/-- What a document can hold of a step. -/
structure Step.IsReadable (step : Step) : Prop where
  type : StepType.ofName step.type.name = step.type
  low : -(Int.pow 2 63) ≤ step.order
  high : step.order < Int.pow 2 63
  config : step.config.IsOrderly
  inputs : ∀ entry ∈ step.inputs.entries, entry.2.IsReadable
  failure : step.failure.IsReadable
  conditions : ∀ condition ∈ step.conditions, condition.value.IsOrderly
  maxRetries : ∀ count ∈ step.maxRetries, count < Nat.pow 2 32
  retryDelayMs : ∀ delay ∈ step.retryDelayMs, delay < Nat.pow 2 64

/-- What a document can hold of a step is read back. -/
theorem Step.reads {step : Step} (readable : step.IsReadable) :
    Reads Step.read? step.toJson step := by
  intro tree tells
  obtain ⟨fields, given, tells⟩ := Tree.exists_fields
    ["id", "name", "type", "executionOrder", "config", "inputMapping", "outputMapping",
      "errorHandling", "executionConditions", "isCritical", "isActive", "maxRetries",
      "retryDelayMs"]
    tells
    (keys_append (keys_append (keys_append (keys_append (keys_append (keys_append (keys_append
      (keys_append (keys_append (.refl _) (keys_optionalField _)) (.refl _))
      (keys_mappingField _)) (keys_mappingField _)) (.refl _))
      (keys_unless _ _)) (.refl _)) (keys_optionalField _)) (keys_optionalField _))
    (by decide)
  have id : fields.required "id" Tree.text? = some step.id :=
    tells.required (by simp) (Tree.reads_text _)
  have name : fields.optional "name" Tree.text? = some step.name :=
    tells.optional_text (by simp [List.lookup_cons, List.lookup_append])
  have type : fields.required "type" Tree.text? = some step.type.name :=
    tells.required (by simp [List.lookup_cons, List.lookup_append]) (Tree.reads_text _)
  have order : fields.defaulted "executionOrder" 0 Tree.int64? = some step.order :=
    tells.defaulted (by simp [List.lookup_cons, List.lookup_append])
      (Tree.reads_int64 readable.low readable.high)
  have config : fields.defaulted "config" (.object []) Tree.json? = some step.config :=
    tells.defaulted (by simp [List.lookup_cons, List.lookup_append])
      (Tree.reads_json readable.config)
  have inputs : fields.defaulted "inputMapping" [] (Tree.dictOf? InputMapping.read?) =
      some step.inputs.entries :=
    defaulted_mapping tells (by simp [List.lookup_cons, List.lookup_append])
      fun entry member => InputMapping.reads (readable.inputs entry member)
  have outputs : fields.defaulted "outputMapping" [] (Tree.dictOf? OutputMapping.read?) =
      some step.outputs.entries :=
    defaulted_mapping tells (by simp [List.lookup_cons, List.lookup_append])
      fun entry _ => entry.2.reads
  have failure : fields.defaulted "errorHandling" {} FailureHandling.read? = some step.failure :=
    tells.defaulted (by simp [List.lookup_cons, List.lookup_append])
      (FailureHandling.reads readable.failure)
  have conditions : fields.defaulted "executionConditions" [] Condition.readList? =
      some step.conditions :=
    defaulted_list tells (by simp [List.lookup_cons, List.lookup_append])
      fun condition member => Condition.reads (readable.conditions condition member)
  have isCritical : fields.defaulted "isCritical" false Tree.bool? = some step.isCritical :=
    tells.defaulted (by simp [List.lookup_cons, List.lookup_append]) (Tree.reads_bool _)
  have isActive : fields.defaulted "isActive" true Tree.bool? = some step.isActive :=
    tells.defaulted (by simp [List.lookup_cons, List.lookup_append]) (Tree.reads_bool _)
  have maxRetries : fields.optional "maxRetries" Tree.nat32? = some step.maxRetries :=
    tells.optional_nat (by simp [List.lookup_cons, List.lookup_append]) readable.maxRetries
  have retryDelayMs : fields.optional "retryDelayMs" Tree.nat64? = some step.retryDelayMs :=
    tells.optional_nat (by simp [List.lookup_cons, List.lookup_append]) readable.retryDelayMs
  unfold read?
  refine Option.bind_eq_some_iff.mpr ⟨_, given, ?_⟩
  refine Option.bind_eq_some_iff.mpr ⟨_, id, ?_⟩
  refine Option.bind_eq_some_iff.mpr ⟨_, name, ?_⟩
  refine Option.bind_eq_some_iff.mpr ⟨_, type, ?_⟩
  refine Option.bind_eq_some_iff.mpr ⟨_, order, ?_⟩
  refine Option.bind_eq_some_iff.mpr ⟨_, config, ?_⟩
  refine Option.bind_eq_some_iff.mpr ⟨_, inputs, ?_⟩
  refine Option.bind_eq_some_iff.mpr ⟨_, outputs, ?_⟩
  refine Option.bind_eq_some_iff.mpr ⟨_, failure, ?_⟩
  refine Option.bind_eq_some_iff.mpr ⟨_, conditions, ?_⟩
  refine Option.bind_eq_some_iff.mpr ⟨_, isCritical, ?_⟩
  refine Option.bind_eq_some_iff.mpr ⟨_, isActive, ?_⟩
  refine Option.bind_eq_some_iff.mpr ⟨_, maxRetries, ?_⟩
  refine Option.bind_eq_some_iff.mpr ⟨_, retryDelayMs, ?_⟩
  rw [readable.type, SortedDict.ofList_entries, SortedDict.ofList_entries]

/-- No more is ever read of a step than a document can hold of it. -/
theorem Step.ensures : Ensures Step.read? Step.IsReadable := by
  intro value step read
  unfold read? at read
  obtain ⟨fields, given, read⟩ := Option.bind_eq_some_iff.mp read
  obtain ⟨id, -, read⟩ := Option.bind_eq_some_iff.mp read
  obtain ⟨name, -, read⟩ := Option.bind_eq_some_iff.mp read
  obtain ⟨type, -, read⟩ := Option.bind_eq_some_iff.mp read
  obtain ⟨order, ordered, read⟩ := Option.bind_eq_some_iff.mp read
  obtain ⟨config, configured, read⟩ := Option.bind_eq_some_iff.mp read
  obtain ⟨inputs, taken, read⟩ := Option.bind_eq_some_iff.mp read
  obtain ⟨outputs, -, read⟩ := Option.bind_eq_some_iff.mp read
  obtain ⟨failure, handled, read⟩ := Option.bind_eq_some_iff.mp read
  obtain ⟨conditions, guarded, read⟩ := Option.bind_eq_some_iff.mp read
  obtain ⟨isCritical, -, read⟩ := Option.bind_eq_some_iff.mp read
  obtain ⟨isActive, -, read⟩ := Option.bind_eq_some_iff.mp read
  obtain ⟨maxRetries, retries, read⟩ := Option.bind_eq_some_iff.mp read
  obtain ⟨retryDelayMs, delays, same⟩ := Option.bind_eq_some_iff.mp read
  cases same
  have typed := Tree.areTyped_of_fields? given
  have usualOrder : -(Int.pow 2 63) ≤ (0 : Int) ∧ (0 : Int) < Int.pow 2 63 := by decide
  have usualConfig : Json.IsOrderly (.object []) := ⟨.nil, trivial⟩
  have usualFailure : FailureHandling.IsReadable {} := by
    constructor <;> simp
  have within := typed.defaulted Tree.ensures_int64 usualOrder ordered
  have orderly := typed.defaulted Tree.ensures_json usualConfig configured
  have inputs := typed.defaulted_dict InputMapping.ensures taken
  have failure := typed.defaulted FailureHandling.ensures usualFailure handled
  have conditions := typed.defaulted_list Condition.ensures guarded
  -- The type is made opaque so that nothing compares names letter by letter.
  have stable := StepType.ofName_name_ofName type
  generalize StepType.ofName type = kind at stable ⊢
  exact
    { type := stable
      low := within.1
      high := within.2
      config := orderly
      inputs := fun entry member => inputs.2 entry (Dict.mem_of_mem_ofList member)
      failure := failure
      conditions := conditions
      maxRetries := typed.optional (Tree.ensures_nat _) retries
      retryDelayMs := typed.optional (Tree.ensures_nat _) delays }

/-! ## Workflows -/

/-- What a document can hold of a policy. -/
structure WorkflowPolicy.IsReadable (policy : WorkflowPolicy) : Prop where
  executionTimeout : ∀ seconds ∈ policy.executionTimeout, seconds < Nat.pow 2 64
  maxConcurrent : ∀ count ∈ policy.maxConcurrent, count < Nat.pow 2 64

/-- What a document can hold of a policy is read back. -/
theorem WorkflowPolicy.reads {policy : WorkflowPolicy} (readable : policy.IsReadable) :
    Reads WorkflowPolicy.read? policy.toJson policy := by
  intro tree tells
  obtain ⟨fields, given, tells⟩ := Tree.exists_fields
    ["executionTimeout", "maxConcurrentExecutions", "allowConcurrentExecution", "onError"] tells
    (keys_append (keys_append (keys_optionalField _) (keys_optionalField _)) (.refl _))
    (by decide)
  have executionTimeout : fields.optional "executionTimeout" Tree.nat64? =
      some policy.executionTimeout :=
    tells.optional_nat (by simp [List.lookup_append, List.lookup_cons]) readable.executionTimeout
  have maxConcurrent : fields.optional "maxConcurrentExecutions" Tree.nat64? =
      some policy.maxConcurrent :=
    tells.optional_nat (by simp [List.lookup_cons, List.lookup_append]) readable.maxConcurrent
  have allowConcurrent : fields.defaulted "allowConcurrentExecution" true Tree.bool? =
      some policy.allowConcurrent :=
    tells.defaulted (by simp [List.lookup_append]) (Tree.reads_bool _)
  have onFailure : fields.defaulted "onError" .stop FailureAction.read? = some policy.onFailure :=
    tells.defaulted (by simp [List.lookup_cons, List.lookup_append]; rfl)
      (Tree.reads_choice FailureAction.takesBack_names _)
  unfold read?
  simp [given, executionTimeout, maxConcurrent, allowConcurrent, onFailure]

/-- Limits that are read are within the range of their types. -/
theorem WorkflowPolicy.ensures : Ensures WorkflowPolicy.read? WorkflowPolicy.IsReadable := by
  intro value policy read
  simp only [read?, Option.bind_eq_bind, Option.bind_eq_some_iff] at read
  obtain ⟨fields, given, executionTimeout, timeouts, maxConcurrent, counts, allowConcurrent, -,
    onFailure, -, same⟩ := read
  cases same
  have typed := Tree.areTyped_of_fields? given
  exact ⟨typed.optional (Tree.ensures_nat _) timeouts, typed.optional (Tree.ensures_nat _) counts⟩

namespace Workflow

/-- What a document can hold of a workflow. -/
structure IsReadable (workflow : Workflow) : Prop where
  steps : ∀ step ∈ workflow.steps, step.IsReadable
  «variables» : Json.HasOrderly workflow.variables.entries
  policy : workflow.policy.IsReadable

/-- A workflow is read back from every tree that tells it. -/
theorem reads {workflow : Workflow} (readable : workflow.IsReadable) :
    Reads Workflow.read? workflow.toJson workflow := by
  intro tree tells
  obtain ⟨fields, given, tells⟩ := Tree.exists_fields
    ["id", "name", "steps", "variables", "config"] tells
    (keys_append (keys_append (.refl _) (keys_optionalField _)) (.refl _)) (by decide)
  have id : fields.required "id" Tree.text? = some workflow.id :=
    tells.required (by simp) (Tree.reads_text _)
  have name : fields.optional "name" Tree.text? = some workflow.name :=
    tells.optional_text (by simp [List.lookup_cons, List.lookup_append])
  have steps : fields.required "steps" (Tree.listOf? Step.read?) = some workflow.steps :=
    tells.required (by simp [List.lookup_cons, List.lookup_append])
      (Tree.reads_list fun step member => Step.reads (readable.steps step member))
  have «variables» : fields.defaulted "variables" [] Tree.object? =
      some workflow.variables.entries :=
    tells.defaulted (by simp [List.lookup_cons, List.lookup_append])
      (Tree.reads_object ⟨workflow.variables.sorted, readable.variables⟩)
  have policy : fields.defaulted "config" {} WorkflowPolicy.read? = some workflow.policy :=
    tells.defaulted (by simp [List.lookup_cons, List.lookup_append])
      (WorkflowPolicy.reads readable.policy)
  unfold read?
  simp [given, id, name, steps, «variables», policy]

/-- No more is ever read of a workflow than a document can hold of it. -/
theorem ensures : Ensures Workflow.read? Workflow.IsReadable := by
  intro value workflow read
  simp only [read?, Option.bind_eq_bind, Option.bind_eq_some_iff] at read
  obtain ⟨fields, given, id, -, name, -, steps, listed, «variables», stated, policy, configured,
    same⟩ := read
  cases same
  have typed := Tree.areTyped_of_fields? given
  have entries := typed.defaulted_dict Tree.ensures_json stated
  have usual : WorkflowPolicy.IsReadable {} := by
    constructor <;> simp
  exact
    { steps := typed.required (Tree.ensures_list Step.ensures) listed
      «variables» := Json.hasOrderly_iff.mpr fun entry member =>
        entries.2 entry (Dict.mem_of_mem_ofList member)
      policy := typed.defaulted WorkflowPolicy.ensures usual configured }

end Workflow

/-! ## Texts -/

/-- Nothing of a value is lost between its text and what is read of it. -/
def Yaml.Preserves (value : Json) : Prop :=
  ∃ tree, Yaml.readTree? (Yaml.document value) = some tree ∧ tree.Tells value

/-- A workflow that was read from a document is read again from what is written of it,
with every field as it was.  Saved and loaded it is the same workflow if it is valid, and
refused with its problems if not, provided that its text preserves what is written. -/
theorem Workflow.survives_serialization
    {document : Json}
    {workflow : Workflow}
    (read : Workflow.read? (Tree.ofJson document) = some workflow) :
    Workflow.read? (Tree.ofJson workflow.toJson) = some workflow ∧
      (Yaml.Preserves workflow.toJson → ∀ path,
        Workflow.loadFile path (.file workflow.toText) =
          if workflow.isValid then .ok workflow
          else .error (.configuration workflow.problems)) := by
  have taken := Workflow.reads (Workflow.ensures document workflow read)
  refine ⟨taken _ (Tree.tells_ofJson _), fun ⟨tree, found, tells⟩ path => ?_⟩
  have loaded : ofText? workflow.toText = some workflow := by
    unfold ofText? toText
    rw [found, Option.bind_some, taken tree tells]
  show load workflow.toText = workflow.validated
  unfold load
  rw [loaded]

/-! ### A text that preserves a workflow -/

namespace Tree

/-- Whether an untyped scalar tells a value that is no floating-point number. -/
def checksScalar (value : Json) : Tree → Bool
  | .scalar none style content =>
    match value, scalarJson? none style content with
    | .null, some .null => true
    | .bool value, some (.bool told) => value = told
    | .number (.integer value), some (.number (.integer told)) => value = told
    | .text value, some (.text told) => value = told
    | _, _ => false
  | _ => false

mutual

/-- Whether an untyped tree tells a value without floating-point numbers. -/
def checks : Json → Tree → Bool
  | .array items, tree =>
    match tree with
    | .sequence none trees => checksItems items trees
    | _ => false
  | .object entries, tree =>
    match tree with
    | .mapping none trees => checksEntries entries trees
    | _ => false
  | .null, tree => checksScalar .null tree
  | .bool value, tree => checksScalar (.bool value) tree
  | .number value, tree => checksScalar (.number value) tree
  | .text value, tree => checksScalar (.text value) tree

/-- Whether the items of a list tell some values. -/
def checksItems : List Json → List Tree → Bool
  | [], trees => trees.isEmpty
  | item :: rest, trees =>
    match trees with
    | tree :: others => checks item tree && checksItems rest others
    | [] => false

/-- Whether the entries of a map tell some values. -/
def checksEntries : List (String × Json) → List (Option String × Tree) → Bool
  | [], trees => trees.isEmpty
  | (key, value) :: rest, trees =>
    match trees with
    | (some other, tree) :: others =>
      key = other && checks value tree && checksEntries rest others
    | _ => false

end

/-- A scalar that was checked is untyped, and is told for the value. -/
theorem scalar_of_checksScalar
    {value : Json}
    {tree : Tree}
    (checked : checksScalar value tree = true) :
    ∃ style content, tree = .scalar none style content ∧
      scalarJson? none style content = some value := by
  unfold checksScalar at checked
  split at checked
  next style content =>
    refine ⟨style, content, rfl, ?_⟩
    split at checked
    next told => exact told
    next told =>
      rw [told, of_decide_eq_true checked]
    next told => rw [told, of_decide_eq_true checked]
    next told => rw [told, of_decide_eq_true checked]
    next => cases checked
  next => cases checked

mutual

/-- A tree that was checked tells the value. -/
theorem tells_of_checks :
    ∀ {value : Json} {tree : Tree}, checks value tree = true → tree.Tells value
  | .null, _, checked => .inr (scalar_of_checksScalar checked)
  | .bool _, _, checked => .inr (scalar_of_checksScalar checked)
  | .number _, _, checked => .inr (scalar_of_checksScalar checked)
  | .text _, _, checked => .inr (scalar_of_checksScalar checked)
  | .array items, _, checked => by
    unfold checks at checked
    split at checked
    next trees => exact ⟨trees, .inr rfl, allTell_of_checksItems checked⟩
    next => cases checked
  | .object entries, _, checked => by
    unfold checks at checked
    split at checked
    next trees =>
      obtain ⟨keyed, rfl, all⟩ := entriesTell_of_checksEntries checked
      exact ⟨keyed, .inr rfl, all⟩
    next => cases checked

theorem allTell_of_checksItems :
    ∀ {items : List Json} {trees : List Tree}, checksItems items trees = true →
      AllTell trees items
  | [], _, checked => List.isEmpty_iff.mp checked
  | item :: rest, _, checked => by
    unfold checksItems at checked
    split at checked
    next tree others =>
      obtain ⟨head, tail⟩ := Bool.and_eq_true_iff.mp checked
      exact ⟨tree, others, rfl, tells_of_checks head, allTell_of_checksItems tail⟩
    next => cases checked

theorem entriesTell_of_checksEntries :
    ∀ {entries : List (String × Json)} {trees : List (Option String × Tree)},
      checksEntries entries trees = true →
        ∃ keyed : List (String × Tree), trees = keyed.map (fun entry => (some entry.1, entry.2)) ∧
          EntriesTell keyed entries
  | [], _, checked => ⟨[], List.isEmpty_iff.mp checked, rfl⟩
  | (key, value) :: rest, _, checked => by
    unfold checksEntries at checked
    split at checked
    next other tree others =>
      obtain ⟨both, tail⟩ := Bool.and_eq_true_iff.mp checked
      obtain ⟨same, head⟩ := Bool.and_eq_true_iff.mp both
      obtain ⟨keyed, rfl, all⟩ := entriesTell_of_checksEntries tail
      obtain rfl := of_decide_eq_true same
      exact ⟨(key, tree) :: keyed, rfl, tree, keyed, rfl, tells_of_checks head, all⟩
    next => cases checked

end

end Tree

namespace Yaml

/-- The tokens of a text, given by its characters. -/
def charTokens? (chars : List Char) : Option (List Token) :=
  if chars.all isAllowed then
    (Lexer.run (chars.length + 2) (Lexer.start chars)).map (fun lexer => lexer.tokens.reverse)
  else none

/-- That a text preserves a value can be told from its characters. -/
theorem preserves_of_checks
    {value : Json}
    (checked : (((charTokens? ("---".toList ++ printValue 0 value ++ ['\n'])).bind fun tokens =>
      (Node.ofTokens? tokens).bind Node.toTree?).any fun tree => Tree.checks value tree) = true) :
    Preserves value := by
  have written : (document value).toList = "---".toList ++ printValue 0 value ++ ['\n'] :=
    String.toList_ofList
  have found : readTree? (document value) =
      (charTokens? ("---".toList ++ printValue 0 value ++ ['\n'])).bind fun tokens =>
        (Node.ofTokens? tokens).bind Node.toTree? := by
    unfold readTree? tokens?
    rw [written]
    rfl
  rw [← found] at checked
  unfold Preserves
  generalize readTree? (document value) = result at checked ⊢
  cases result with
  | none => cases checked
  | some tree => exact ⟨tree, rfl, Tree.tells_of_checks checked⟩

end Yaml

/-- A workflow with spellings that are not the ones that are written. -/
def Json.sampleWorkflow : Json :=
  .ofEntries
    [("id", .text "wf"),
     ("steps", .array
       [.ofEntries
         [("id", .text "a"),
          ("type", .text "SEND_EMAIL"),
          ("executionConditions", .array
            [.ofEntries
              [("field", .text "ok"),
               ("operator", .text "equals"),
               ("logicalOperator", .text "&&")]]),
          ("errorHandling", .ofEntries [("onError", .text "skip")])]])]

/-- The sample as it is read. -/
def Workflow.sample : Workflow where
  id := "wf"
  steps :=
    [{ id := "a"
       type := .sendEmail
       conditions := [{ field := "ok", operator := .equals, value := .null, joiner := some .and }]
       failure := { action := some .skip } }]

theorem Workflow.sample_survives_serialization :
    Workflow.read? (Tree.ofJson .sampleWorkflow) = some .sample ∧
      Workflow.read? (Tree.ofJson Workflow.sample.toJson) = some .sample ∧
      Workflow.loadFile "wf.yaml" (.file Workflow.sample.toText) = .ok .sample := by
  have read : Workflow.read? (Tree.ofJson .sampleWorkflow) = some .sample := rfl
  have valid : Workflow.sample.isValid = true := by decide +kernel
  have preserves : Yaml.Preserves Workflow.sample.toJson :=
    Yaml.preserves_of_checks (by decide +kernel)
  obtain ⟨again, loaded⟩ := Workflow.survives_serialization read
  exact ⟨read, again, (loaded preserves "wf.yaml").trans (if_pos valid)⟩

end WorkflowEngine
