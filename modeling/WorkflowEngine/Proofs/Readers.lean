import WorkflowEngine.Proofs.Keys
import WorkflowEngine.Workflow.Encoding

/-!
# What readers make of written values

A tree tells a value, either as the typed tree of that value or as an untyped one that
leaves the kinds of its scalars open.  A reader takes a written value for another one if
it finds that in every tree that tells the written one.
-/

namespace WorkflowEngine

namespace Json

mutual

/-- Every object in a value has its keys in order. -/
def IsOrderly : Json → Prop
  | .array items => AreOrderly items
  | .object entries => Dict.Sorted entries ∧ HasOrderly entries
  | .null | .bool _ | .number _ | .text _ => True

/-- All items are in order. -/
def AreOrderly : List Json → Prop
  | [] => True
  | item :: rest => item.IsOrderly ∧ AreOrderly rest

/-- The values of all entries are in order. -/
def HasOrderly : List (String × Json) → Prop
  | [] => True
  | (_, value) :: rest => value.IsOrderly ∧ HasOrderly rest

end

/-- Being in order is a matter of each entry for itself. -/
theorem hasOrderly_iff {entries : List (String × Json)} :
    HasOrderly entries ↔ ∀ entry ∈ entries, entry.2.IsOrderly := by
  induction entries with
  | nil => simp [HasOrderly]
  | cons entry rest inductionHypothesis =>
    obtain ⟨key, value⟩ := entry
    simp [HasOrderly, inductionHypothesis]

/-- An object that is put together key by key is in order as soon as its values are. -/
theorem isOrderly_ofList {entries : List (String × Json)} (orderly : HasOrderly entries) :
    IsOrderly (.object (Dict.ofList entries)) :=
  ⟨Dict.sorted_ofList entries, hasOrderly_iff.mpr fun entry member =>
    hasOrderly_iff.mp orderly entry (Dict.mem_of_mem_ofList member)⟩

end Json

/-! ## Scalars -/

namespace Scalar

/-- What a plain scalar may stand for. -/
inductive Plain (content : String) : Json → Prop
  | null : Plain content .null
  | bool {value : Bool} (found : bool? content = some value) : Plain content (.bool value)
  | integer {value : Int} (found : integer? content = some value) : Plain content (.ofInt value)
  | decimal (value : Float) : Plain content (.number (.decimal value))
  | text : Plain content (.text content)

/-- A scalar that is neither null nor a truth value nor an integer is a decimal or a text. -/
theorem plain_decimalOrText (content : String) :
    Plain content (plainJson?.decimalOrText content) := by
  unfold plainJson?.decimalOrText
  split
  · exact .text
  · split
    · unfold Json.ofFloat
      split
      · exact .decimal _
      · exact .null
    · exact .text

/-- Whatever a plain scalar is taken for, it may stand for. -/
theorem plain_of_plainJson?
    {content : String}
    {value : Json}
    (told : plainJson? content = some value) :
    Plain content value := by
  unfold plainJson? at told
  split at told
  next =>
    cases told
    exact .null
  next =>
    split at told
    next found =>
      cases told
      exact .bool found
    next =>
      unfold plainJson?.number? at told
      split at told
      next found =>
        split at told
        next =>
          cases told
          exact .integer found
        next =>
          split at told
          next => cases told
          next =>
            cases told
            exact plain_decimalOrText content
      next =>
        cases told
        exact plain_decimalOrText content

end Scalar

namespace Tree

/-- Without a tag, a scalar that is quoted is a text. -/
theorem scalarJson?_untagged (style : ScalarStyle) (content : String) :
    scalarJson? none style content =
      if style = .plain then Scalar.plainJson? content else some (.text content) := by
  cases style <;> rfl

variable {style : ScalarStyle} {content : String}

/-- A scalar that is told for a text has that text for its content, however it is quoted. -/
theorem content_of_scalarJson?
    {value : String}
    (told : scalarJson? none style content = some (.text value)) :
    content = value := by
  rw [scalarJson?_untagged] at told
  split at told
  next =>
    generalize result : Json.text value = found at told
    cases Scalar.plain_of_plainJson? told with
    | text => exact Json.text.inj result.symm
    | _ => cases result
  next =>
    cases told
    rfl

/-- Only a plain scalar is told for a truth value. -/
theorem bool?_of_scalarJson?
    {value : Bool}
    (told : scalarJson? none style content = some (.bool value)) :
    style = .plain ∧ Scalar.bool? content = some value := by
  rw [scalarJson?_untagged] at told
  split at told
  next plain =>
    refine ⟨plain, ?_⟩
    generalize result : Json.bool value = found at told
    cases Scalar.plain_of_plainJson? told with
    | bool found =>
      cases result
      exact found
    | _ => cases result
  next => cases told

/-- Only a plain scalar is told for an integer. -/
theorem integer?_of_scalarJson?
    {value : Int}
    (told : scalarJson? none style content = some (.ofInt value)) :
    style = .plain ∧ Scalar.integer? content = some value := by
  rw [scalarJson?_untagged] at told
  split at told
  next plain =>
    refine ⟨plain, ?_⟩
    generalize result : Json.ofInt value = found at told
    cases Scalar.plain_of_plainJson? told with
    | integer found =>
      cases result
      exact found
    | _ => cases result
  next => cases told

/-- What is not null does not look like it. -/
theorem not_null_of_scalarJson?
    {value : Json}
    (present : value ≠ .null)
    (told : scalarJson? none .plain content = some value) :
    (content.isEmpty || Scalar.isNullWord content) = false := by
  by_contra word
  have null : Scalar.plainJson? content = some .null := by
    unfold Scalar.plainJson?
    rw [if_pos (eq_true_of_ne_false word)]
  rw [scalarJson?_untagged, if_pos rfl, null] at told
  exact present (Option.some.inj told).symm

/-! ## Trees that tell a value -/

mutual

/-- A tree tells a value. -/
def Tells : Tree → Json → Prop
  | tree, .array items =>
    ∃ trees, (tree = .array trees ∨ tree = .sequence none trees) ∧ AllTell trees items
  | tree, .object entries =>
    ∃ trees, (tree = .object trees ∨
        tree = .mapping none (trees.map fun entry => (some entry.1, entry.2))) ∧
      EntriesTell trees entries
  | tree, value =>
    tree = ofJson value ∨
      ∃ style content, tree = .scalar none style content ∧
        scalarJson? none style content = some value

/-- Trees tell values one by one. -/
def AllTell : List Tree → List Json → Prop
  | trees, [] => trees = []
  | trees, item :: rest =>
    ∃ tree others, trees = tree :: others ∧ tree.Tells item ∧ AllTell others rest

/-- Trees tell values under the same keys. -/
def EntriesTell : List (String × Tree) → List (String × Json) → Prop
  | trees, [] => trees = []
  | trees, (key, value) :: rest =>
    ∃ tree others, trees = (key, tree) :: others ∧ tree.Tells value ∧ EntriesTell others rest

end

mutual

/-- The tree of a value tells it. -/
theorem tells_ofJson : ∀ value : Json, (ofJson value).Tells value
  | .null => .inl rfl
  | .bool _ => .inl rfl
  | .number _ => .inl rfl
  | .text _ => .inl rfl
  | .array items => ⟨ofItems items, .inl rfl, allTell_ofItems items⟩
  | .object entries => ⟨ofEntries entries, .inl rfl, entriesTell_ofEntries entries⟩

theorem allTell_ofItems : ∀ items : List Json, AllTell (ofItems items) items
  | [] => rfl
  | item :: rest => ⟨ofJson item, ofItems rest, rfl, tells_ofJson item, allTell_ofItems rest⟩

theorem entriesTell_ofEntries :
    ∀ entries : List (String × Json), EntriesTell (ofEntries entries) entries
  | [] => rfl
  | (_, value) :: rest =>
    ⟨ofJson value, ofEntries rest, rfl, tells_ofJson value, entriesTell_ofEntries rest⟩

end

mutual

/-- Whatever tells a value in order is read as that value. -/
theorem json?_of_tells : ∀ {value : Json} {tree : Tree},
    value.IsOrderly → tree.Tells value → tree.json? = some value
  | .null, _, _, tells | .bool _, _, _, tells | .number _, _, _, tells | .text _, _, _, tells => by
    rcases tells with rfl | ⟨style, content, rfl, said⟩
    · rfl
    · exact said
  | .array items, _, orderly, tells => by
    obtain ⟨trees, rfl | rfl, all⟩ := tells
    · simp [json?, itemsJson?_of_allTell orderly all]
    · simp [json?, itemsJson?_of_allTell orderly all, localTag?]
  | .object entries, _, orderly, tells => by
    obtain ⟨trees, rfl | rfl, all⟩ := tells
    · simp [json?, objectJson?_of_entriesTell orderly.2 all, Dict.ofList_of_sorted orderly.1]
    · simp [json?, mappingJson?_of_entriesTell orderly.2 all, Dict.ofList_of_sorted orderly.1,
        localTag?]

/-- Trees that tell items are read as those items. -/
theorem itemsJson?_of_allTell : ∀ {items : List Json} {trees : List Tree},
    Json.AreOrderly items → AllTell trees items → itemsJson? trees = some items
  | [], _, _, rfl => rfl
  | item :: rest, _, orderly, ⟨tree, others, rfl, tells, all⟩ => by
    simp [itemsJson?, json?_of_tells orderly.1 tells, itemsJson?_of_allTell orderly.2 all]

/-- Trees that tell the entries of an object are read as those entries, since its keys are in
order already. -/
theorem objectJson?_of_entriesTell :
    ∀ {entries : List (String × Json)} {trees : List (String × Tree)},
      Json.HasOrderly entries → EntriesTell trees entries → objectJson? trees = some entries
  | [], _, _, rfl => rfl
  | (key, value) :: rest, _, orderly, ⟨tree, others, rfl, tells, all⟩ => by
    simp [objectJson?, json?_of_tells orderly.1 tells, objectJson?_of_entriesTell orderly.2 all]

/-- A mapping whose keys are plain texts is read as the object with these keys. -/
theorem mappingJson?_of_entriesTell :
    ∀ {entries : List (String × Json)} {trees : List (String × Tree)},
      Json.HasOrderly entries → EntriesTell trees entries →
        mappingJson? (trees.map fun entry => (some entry.1, entry.2)) = some entries
  | [], _, _, rfl => rfl
  | (key, value) :: rest, _, orderly, ⟨tree, others, rfl, tells, all⟩ => by
    simp [mappingJson?, json?_of_tells orderly.1 tells, mappingJson?_of_entriesTell orderly.2 all]

end

mutual

/-- A reader of values of any kind puts the keys of objects in order. -/
theorem isOrderly_of_json? : ∀ {value result : Json},
    (ofJson value).json? = some result → result.IsOrderly
  | .null, _, read | .bool _, _, read | .number _, _, read | .text _, _, read => by
    cases read
    trivial
  | .array items, _, read => by
    simp only [ofJson, json?, Option.map_eq_some_iff] at read
    obtain ⟨items, read, rfl⟩ := read
    exact areOrderly_of_itemsJson? read
  | .object entries, _, read => by
    simp only [ofJson, json?, Option.map_eq_some_iff] at read
    obtain ⟨entries, read, rfl⟩ := read
    exact Json.isOrderly_ofList (hasOrderly_of_objectJson? read)

theorem areOrderly_of_itemsJson? : ∀ {items results : List Json},
    itemsJson? (ofItems items) = some results → Json.AreOrderly results
  | [], _, read => by
    cases read
    trivial
  | item :: rest, _, read => by
    simp only [ofItems, itemsJson?, Option.bind_eq_bind, Option.bind_eq_some_iff] at read
    obtain ⟨result, head, results, tail, same⟩ := read
    cases same
    exact ⟨isOrderly_of_json? head, areOrderly_of_itemsJson? tail⟩

/-- Reading the entries of an object puts every value in order. -/
theorem hasOrderly_of_objectJson? : ∀ {entries results : List (String × Json)},
    objectJson? (ofEntries entries) = some results → Json.HasOrderly results
  | [], _, read => by
    cases read
    trivial
  | (key, value) :: rest, _, read => by
    simp only [ofEntries, objectJson?, Option.bind_eq_bind, Option.bind_eq_some_iff] at read
    obtain ⟨result, head, results, tail, same⟩ := read
    cases same
    exact ⟨isOrderly_of_json? head, hasOrderly_of_objectJson? tail⟩

end

/-! ## Readers that take back what was written -/

/-- A reader takes what was written for a value, in whatever tree it finds it. -/
def Reads {α : Type} (read : Tree → Option α) (written : Json) (value : α) : Prop :=
  ∀ tree : Tree, tree.Tells written → read tree = some value

theorem reads_text (value : String) : Reads text? (.text value) value := by
  rintro tree (rfl | ⟨style, content, rfl, told⟩)
  · rfl
  · exact congrArg some (content_of_scalarJson? told)

/-- A table of names takes back the name under which it has a choice written. -/
def TakesBack {α : Type} [BEq α] (table : List (String × α)) : Prop :=
  ∀ value, table.lookup (nameIn table value) = some value

/-- A choice is read under the name that the table has for it. -/
theorem reads_choice
    {α : Type}
    [BEq α]
    {table : List (String × α)}
    (takesBack : TakesBack table)
    (value : α) :
    Reads (choiceOf? table) (.ofChoice table value) value := by
  rintro tree (rfl | ⟨style, content, rfl, told⟩)
  · exact takesBack value
  · rw [content_of_scalarJson? told]
    exact takesBack value

theorem reads_bool (value : Bool) : Reads bool? (.bool value) value := by
  rintro tree (rfl | ⟨style, content, rfl, told⟩)
  · rfl
  · obtain ⟨rfl, found⟩ := bool?_of_scalarJson? told
    exact found

theorem reads_integer (value : Int) : Reads integer? (.ofInt value) value := by
  rintro tree (rfl | ⟨style, content, rfl, told⟩)
  · rfl
  · obtain ⟨rfl, found⟩ := integer?_of_scalarJson? told
    exact found

/-- A signed number is read back within the range of 64 bits. -/
theorem reads_int64
    {value : Int}
    (low : -(Int.pow 2 63) ≤ value)
    (high : value < Int.pow 2 63) :
    Reads int64? (.ofInt value) value := by
  intro tree tells
  unfold int64?
  have within : (-(Int.pow 2 63) ≤ value && value < Int.pow 2 63) = true := by
    rw [Bool.and_eq_true, decide_eq_true_eq, decide_eq_true_eq]
    exact ⟨low, high⟩
  rw [reads_integer value tree tells]
  exact Option.filter_some_pos within

/-- A count is read back below the limit of its type. -/
theorem reads_nat
    {limit value : Nat}
    (small : value < limit) :
    Reads (nat? limit) (.ofNat value) value := by
  intro tree tells
  unfold nat?
  rw [reads_integer value tree tells, Option.filter_some_pos (by simp [small])]
  rfl

/-- A value is read as itself if its keys are in order, since the reader puts
them in order. -/
theorem reads_json {value : Json} (orderly : value.IsOrderly) : Reads json? value value :=
  fun _ tells => json?_of_tells orderly tells

/-- Whether it is typed or not, a tree of named trees gives them as its entries. -/
theorem entries?_of_tells
    {tree : Tree}
    {trees : List (String × Tree)}
    (tells : tree = .object trees ∨
      tree = .mapping none (trees.map fun entry => (some entry.1, entry.2))) :
    tree.entries? = some trees := by
  rcases tells with rfl | rfl
  · rfl
  · unfold entries?
    dsimp only
    induction trees with
    | nil => rfl
    | cons entry rest inductionHypothesis =>
      rw [List.map_cons, List.mapM_cons, inductionHypothesis]
      rfl

/-- A list is read back if every item of it is. -/
theorem reads_list
    {α : Type}
    {read : Tree → Option α}
    {write : α → Json}
    {values : List α}
    (each : ∀ value ∈ values, Reads read (write value) value) :
    Reads (listOf? read) (.array (values.map write)) values := by
  rintro tree ⟨trees, tells, all⟩
  have items : tree.items? = some trees := by
    rcases tells with rfl | rfl <;> rfl
  unfold listOf?
  rw [items, Option.bind_some]
  clear items tells
  induction values generalizing trees with
  | nil =>
    cases all
    rfl
  | cons value rest inductionHypothesis =>
    obtain ⟨tree, others, rfl, tells, all⟩ := all
    obtain ⟨head, tail⟩ := List.forall_mem_cons.mp each
    rw [List.mapM_cons, head tree tells, inductionHypothesis tail others all]
    rfl

/-- A dictionary is read back if every value of it is and its keys are in order. -/
theorem reads_dict
    {α : Type}
    {read : Tree → Option α}
    {write : α → Json}
    {dict : Dict α}
    (sorted : Dict.Sorted dict)
    (each : ∀ entry ∈ dict, Reads read (write entry.2) entry.2) :
    Reads (dictOf? read) (.object (Dict.mapValues write dict)) dict := by
  rintro tree ⟨trees, tells, all⟩
  unfold dictOf?
  rw [entries?_of_tells tells, Option.bind_some]
  suffices entries : (trees.mapM fun entry =>
      (read entry.2).map fun value => (entry.1, value)) = some dict by
    rw [entries, Option.map_some, Dict.ofList_of_sorted sorted]
  clear sorted tells
  induction dict generalizing trees with
  | nil =>
    cases all
    rfl
  | cons entry rest inductionHypothesis =>
    obtain ⟨key, value⟩ := entry
    obtain ⟨tree, others, rfl, tells, all⟩ := all
    obtain ⟨head, tail⟩ := List.forall_mem_cons.mp each
    rw [List.mapM_cons, head tree tells, inductionHypothesis tail others all]
    rfl

theorem reads_object {object : Object} (orderly : Json.IsOrderly (.object object)) :
    Reads object? (.object object) object := by
  have reads : Reads (dictOf? json?) (.object (Dict.mapValues id object)) object :=
    reads_dict orderly.1 fun entry member =>
      reads_json (Json.hasOrderly_iff.mp orderly.2 entry member)
  rwa [show Dict.mapValues id object = object by simp [Dict.mapValues]] at reads

/-- What is not null counts where null would count as left out. -/
theorem optional?_of_tells
    {α : Type}
    {read : Tree → Option α}
    {written : Json}
    {tree : Tree}
    (present : written ≠ .null)
    (tells : tree.Tells written) :
    optional? read tree = (read tree).map some := by
  cases written with
  | array items => obtain ⟨trees, rfl | rfl, -⟩ := tells <;> rfl
  | object entries => obtain ⟨trees, rfl | rfl, -⟩ := tells <;> rfl
  | null => exact absurd rfl present
  | bool value | number value | text value =>
    rcases tells with rfl | ⟨style, content, rfl, told⟩
    · rfl
    · cases style with
      | plain =>
        unfold optional?
        simp [not_null_of_scalarJson? present told]
      | literal => rfl
      | quoted => rfl

/-! ## Records -/

/-- Fields tell the entries of a record. -/
def FieldsTell (fields : Fields) (entries : List (String × Json)) : Prop :=
  ∀ name, Option.Rel Tells (fields.lookup name) (entries.lookup name)

/-- Trees that tell the entries of an object tell them field by field. -/
theorem fieldsTell_of_entriesTell
    {trees : List (String × Tree)}
    {entries : List (String × Json)}
    (all : EntriesTell trees entries) :
    FieldsTell trees entries := by
  intro name
  induction entries generalizing trees with
  | nil =>
    cases all
    exact .none
  | cons entry rest inductionHypothesis =>
    obtain ⟨key, value⟩ := entry
    obtain ⟨tree, others, rfl, tells, all⟩ := all
    rw [List.lookup_cons, List.lookup_cons]
    split
    · exact .some tells
    · exact inductionHypothesis all

/-- Trees stand under the keys of the entries that they tell. -/
theorem keys_of_entriesTell
    {trees : List (String × Tree)}
    {entries : List (String × Json)}
    (all : EntriesTell trees entries) :
    trees.map Prod.fst = entries.map Prod.fst := by
  induction entries generalizing trees with
  | nil =>
    cases all
    rfl
  | cons entry rest inductionHypothesis =>
    obtain ⟨key, value⟩ := entry
    obtain ⟨tree, others, rfl, -, all⟩ := all
    rw [List.map_cons, List.map_cons, inductionHypothesis all]

/-- The check for repeated names finds exactly those that occur twice. -/
theorem distinctNames_iff {fields : Fields} :
    distinctNames fields = true ↔ (fields.map Prod.fst).Nodup := by
  induction fields with
  | nil => simp [distinctNames]
  | cons field rest inductionHypothesis =>
    obtain ⟨name, tree⟩ := field
    have fresh : (!rest.any fun field => field.1 == name) = true ↔ name ∉ rest.map Prod.fst := by
      rw [Bool.not_eq_true', ← Bool.not_eq_true, List.any_eq_true, List.mem_map]
      simp only [beq_iff_eq]
    rw [distinctNames, Bool.and_eq_true, fresh, inductionHypothesis, List.map_cons,
      List.nodup_cons]

/-- The fields of a record are found in every tree that tells it. -/
theorem exists_fields
    {tree : Tree}
    {entries : List (String × Json)}
    (names : List String)
    (tells : tree.Tells (.ofEntries entries))
    (listed : (entries.map Prod.fst).Sublist names)
    (distinct : names.Nodup) :
    ∃ fields, tree.fields? names = some fields ∧ FieldsTell fields entries := by
  obtain ⟨trees, tells, all⟩ := tells
  have keys := keys_of_entriesTell all
  have distinctKeys : (trees.map Prod.fst).Nodup := by
    rw [keys]
    exact Dict.Sorted.nodup_keys (Dict.sorted_ofList entries)
  have known : ∀ entry ∈ trees, names.contains entry.1 := by
    intro entry member
    have key : entry.1 ∈ (Dict.ofList entries).map Prod.fst := keys ▸ List.mem_map_of_mem member
    obtain ⟨other, among, same⟩ := List.mem_map.mp key
    have listed := listed.subset (List.mem_map_of_mem (Dict.mem_of_mem_ofList among))
    rw [same] at listed
    exact List.contains_iff_mem.mpr listed
  refine ⟨trees, ?_, fun name => ?_⟩
  · have given : tree.fields? names = tree.entries?.bind fun entries =>
        let known := entries.filter (fun entry => names.contains entry.1)
        if distinctNames known then some known else none := by
      rcases tells with rfl | rfl <;> rfl
    rw [given, entries?_of_tells tells, Option.bind_some, List.filter_eq_self.mpr known]
    exact if_pos (distinctNames_iff.mpr distinctKeys)
  · rw [← Dict.lookup_ofList (distinct.sublist listed)]
    exact fieldsTell_of_entriesTell all name

namespace FieldsTell

variable
  {α : Type}
  {fields : Fields}
  {entries : List (String × Json)}
  {name : String}
  {read : Tree → Option α}
  {written : Json}

/-- A field that was written is read. -/
theorem required
    {value : α}
    (tells : FieldsTell fields entries)
    (known : entries.lookup name = some written)
    (reads : Reads read written value) :
    fields.required name read = some value := by
  have related := tells name
  rw [known] at related
  unfold Fields.required
  generalize fields.lookup name = found at related ⊢
  cases related with
  | some tells => exact reads _ tells

/-- The default plays no part for a field that was written. -/
theorem defaulted
    {value default : α}
    (tells : FieldsTell fields entries)
    (known : entries.lookup name = some written)
    (reads : Reads read written value) :
    fields.defaulted name default read = some value := by
  have related := tells name
  rw [known] at related
  unfold Fields.defaulted
  generalize fields.lookup name = found at related ⊢
  cases related with
  | some tells => exact reads _ tells

/-- What is left out is its default. -/
theorem defaulted_of_absent
    {default : α}
    (tells : FieldsTell fields entries)
    (absent : entries.lookup name = none) :
    fields.defaulted name default read = some default := by
  have related := tells name
  rw [absent] at related
  unfold Fields.defaulted
  generalize fields.lookup name = found at related ⊢
  cases related
  rfl

/-- A field that may be missing is read, and nothing is read for it if nothing
was written. -/
theorem optional
    {write : α → Json}
    {value : Option α}
    (tells : FieldsTell fields entries)
    (known : entries.lookup name = value.map write)
    (present : ∀ content ∈ value, write content ≠ .null)
    (reads : ∀ content ∈ value, Reads read (write content) content) :
    fields.optional name read = some value := by
  cases value with
  | none => exact tells.defaulted_of_absent known
  | some content =>
    refine tells.defaulted known fun tree tells => ?_
    rw [optional?_of_tells (present content rfl) tells, reads content rfl tree tells]
    rfl

theorem optional_text
    {value : Option String}
    (tells : FieldsTell fields entries)
    (known : entries.lookup name = value.map .text) :
    fields.optional name text? = some value :=
  tells.optional known (fun _ _ => nofun) fun content _ => reads_text content

theorem optional_choice
    [BEq α]
    {table : List (String × α)}
    {value : Option α}
    (tells : FieldsTell fields entries)
    (known : entries.lookup name = value.map (.ofChoice table))
    (takesBack : TakesBack table) :
    fields.optional name (choiceOf? table) = some value :=
  tells.optional known (fun _ _ => nofun) fun content _ => reads_choice takesBack content

theorem optional_nat
    {limit : Nat}
    {value : Option Nat}
    (tells : FieldsTell fields entries)
    (known : entries.lookup name = value.map .ofNat)
    (small : ∀ content ∈ value, content < limit) :
    fields.optional name (nat? limit) = some value :=
  tells.optional known (fun _ _ => nofun) fun content present => reads_nat (small content present)

end FieldsTell

/-! ## What readers ensure -/

/-- Whatever a reader makes of a value has a property. -/
def Ensures {α : Type} (read : Tree → Option α) (holds : α → Prop) : Prop :=
  ∀ (value : Json) (result : α), read (ofJson value) = some result → holds result

theorem ensures_json : Ensures json? Json.IsOrderly := fun _ _ => isOrderly_of_json?

/-- Whatever is read as a signed number is within the range of 64 bits. -/
theorem ensures_int64 :
    Ensures int64? fun value => -(Int.pow 2 63) ≤ value ∧ value < Int.pow 2 63 := by
  intro value result read
  obtain ⟨-, within⟩ := Option.filter_eq_some_iff.mp read
  rwa [Bool.and_eq_true, decide_eq_true_eq, decide_eq_true_eq] at within

/-- Whatever is read as a count is below the limit of its type. -/
theorem ensures_nat (limit : Nat) : Ensures (nat? limit) (· < limit) := by
  intro value result read
  obtain ⟨number, found, rfl⟩ := Option.map_eq_some_iff.mp read
  obtain ⟨-, within⟩ := Option.filter_eq_some_iff.mp found
  simp at within
  omega

/-- The trees of items are told one by one. -/
theorem ofItems_eq_map (items : List Json) : ofItems items = items.map ofJson := by
  induction items with
  | nil => rfl
  | cons item rest inductionHypothesis => simp [ofItems, inductionHypothesis]

theorem ofEntries_eq_map (entries : List (String × Json)) :
    ofEntries entries = entries.map fun entry => (entry.1, ofJson entry.2) := by
  induction entries with
  | nil => rfl
  | cons entry rest inductionHypothesis =>
    obtain ⟨key, value⟩ := entry
    simp [ofEntries, inductionHypothesis]

/-- Each result of a change that succeeds throughout came of one of the values. -/
theorem exists_of_mem_mapM
    {α β : Type}
    {change : α → Option β}
    {values : List α}
    {results : List β}
    {result : β}
    (changed : values.mapM change = some results)
    (member : result ∈ results) :
    ∃ value ∈ values, change value = some result := by
  induction values generalizing results with
  | nil =>
    cases changed
    cases member
  | cons value rest inductionHypothesis =>
    simp only [List.mapM_cons, Option.bind_eq_bind, Option.bind_eq_some_iff] at changed
    obtain ⟨head, first, tail, later, same⟩ := changed
    cases same
    rcases List.mem_cons.mp member with rfl | member
    · exact ⟨value, List.mem_cons_self, first⟩
    · obtain ⟨other, among, found⟩ := inductionHypothesis later member
      exact ⟨other, List.mem_cons_of_mem _ among, found⟩

/-- Only null is read as nothing. -/
theorem optional?_ofJson {α : Type} (read : Tree → Option α) (value : Json) :
    optional? read (ofJson value) =
      if value.isNull then some none else (read (ofJson value)).map some := by
  cases value <;> rfl

/-- Fields hold the trees of values. -/
def AreTyped (fields : Fields) : Prop := ∀ field ∈ fields, ∃ value, field.2 = ofJson value

/-- The fields of a tree that was made of a value are such trees too. -/
theorem areTyped_of_entries?
    {value : Json}
    {fields : Fields}
    (given : (ofJson value).entries? = some fields) :
    AreTyped fields := by
  cases value with
  | object entries =>
    cases given
    rw [ofEntries_eq_map]
    intro field member
    obtain ⟨entry, -, rfl⟩ := List.mem_map.mp member
    exact ⟨entry.2, rfl⟩
  | _ => cases given

section

variable
  {α : Type}
  {read : Tree → Option α}
  {holds : α → Prop}

/-- What holds of each item that is read holds of all items of a list. -/
theorem ensures_list (ensures : Ensures read holds) :
    Ensures (listOf? read) fun values => ∀ value ∈ values, holds value := by
  intro value results given content member
  obtain ⟨trees, items, given⟩ := Option.bind_eq_some_iff.mp given
  cases value with
  | array items =>
    cases items
    obtain ⟨tree, among, read⟩ := exists_of_mem_mapM given member
    rw [ofItems_eq_map] at among
    obtain ⟨item, -, rfl⟩ := List.mem_map.mp among
    exact ensures item content read
  | _ => cases items

/-- A dictionary that is read has its keys in order, whatever the order of the
entries was. -/
theorem ensures_dict (ensures : Ensures read holds) :
    Ensures (dictOf? read) fun dict => Dict.Sorted dict ∧ ∀ entry ∈ dict, holds entry.2 := by
  intro value results given
  obtain ⟨trees, entries, given⟩ := Option.bind_eq_some_iff.mp given
  obtain ⟨listed, changed, rfl⟩ := Option.map_eq_some_iff.mp given
  refine ⟨Dict.sorted_ofList listed, fun entry member => ?_⟩
  obtain ⟨field, among, found⟩ := exists_of_mem_mapM changed (Dict.mem_of_mem_ofList member)
  obtain ⟨content, taken, rfl⟩ := Option.map_eq_some_iff.mp found
  obtain ⟨written, same⟩ := areTyped_of_entries? entries field among
  rw [same] at taken
  exact ensures written content taken

theorem ensures_optional (ensures : Ensures read holds) :
    Ensures (optional? read) fun value => ∀ content ∈ value, holds content := by
  intro value result given content present
  cases present
  rw [optional?_ofJson] at given
  split at given
  next => cases given
  next =>
    obtain ⟨content, read, same⟩ := Option.map_eq_some_iff.mp given
    cases same
    exact ensures value content read

end

/-- A value that is written is null only where it is left out. -/
theorem ensures_optional_json :
    Ensures (optional? json?) fun value =>
      ∀ content ∈ value, content.IsOrderly ∧ content ≠ .null := by
  intro value result given content present
  refine ⟨ensures_optional ensures_json value result given content present, ?_⟩
  rintro rfl
  cases present
  cases value <;> simp [optional?, ofJson, json?] at given

/-- The same if only certain names are allowed. -/
theorem areTyped_of_fields?
    {names : List String}
    {value : Json}
    {fields : Fields}
    (given : (ofJson value).fields? names = some fields) :
    AreTyped fields := by
  cases value with
  | array items =>
    simp only [ofJson, fields?, Option.ite_none_right_eq_some, Option.some.injEq] at given
    obtain ⟨-, rfl⟩ := given
    intro field member
    obtain ⟨item, -, same⟩ := List.mem_map.mp (ofItems_eq_map items ▸ List.of_mem_zip member).2
    exact ⟨item, same.symm⟩
  | object entries =>
    simp only [ofJson, fields?, entries?, Option.bind_some, Option.ite_none_right_eq_some,
      Option.some.injEq] at given
    obtain ⟨-, rfl⟩ := given
    intro field member
    have listed : (ofJson (.object entries)).entries? = some (ofEntries entries) := rfl
    exact areTyped_of_entries? listed field (List.mem_of_mem_filter member)
  | _ => cases given

namespace AreTyped

variable
  {α : Type}
  {fields : Fields}
  {name : String}
  {read : Tree → Option α}
  {holds : α → Prop}

theorem exists_value
    {tree : Tree}
    (typed : AreTyped fields)
    (found : fields.lookup name = some tree) :
    ∃ value, tree = ofJson value := by
  obtain ⟨before, after, rfl, -⟩ := List.lookup_eq_some_iff.mp found
  exact typed (name, tree) (by simp)

/-- What a reader ensures holds of a field that it has read. -/
theorem required
    {value : α}
    (typed : AreTyped fields)
    (ensures : Ensures read holds)
    (given : fields.required name read = some value) :
    holds value := by
  obtain ⟨tree, found, given⟩ := Option.bind_eq_some_iff.mp given
  obtain ⟨written, rfl⟩ := typed.exists_value found
  exact ensures written value given

/-- What a reader ensures and what holds of the default holds of a field that may
be missing. -/
theorem defaulted
    {value default : α}
    (typed : AreTyped fields)
    (ensures : Ensures read holds)
    (usual : holds default)
    (given : fields.defaulted name default read = some value) :
    holds value := by
  unfold Fields.defaulted at given
  split at given
  next =>
    cases given
    exact usual
  next tree found =>
    obtain ⟨written, rfl⟩ := typed.exists_value found
    exact ensures written value given

theorem defaulted_list
    {values : List α}
    (typed : AreTyped fields)
    (ensures : Ensures read holds)
    (given : fields.defaulted name [] (listOf? read) = some values) :
    ∀ value ∈ values, holds value :=
  typed.defaulted (ensures_list ensures) (by simp) given

theorem defaulted_dict
    {dict : Dict α}
    (typed : AreTyped fields)
    (ensures : Ensures read holds)
    (given : fields.defaulted name [] (dictOf? read) = some dict) :
    Dict.Sorted dict ∧ ∀ entry ∈ dict, holds entry.2 := by
  have usual : Dict.Sorted ([] : Dict α) ∧ ∀ entry ∈ ([] : Dict α), holds entry.2 :=
    ⟨.nil, by simp⟩
  have kept := typed.defaulted (ensures_dict ensures) usual given
  exact kept

/-- What a reader ensures holds of a field unless it is missing. -/
theorem optional
    {value : Option α}
    (typed : AreTyped fields)
    (ensures : Ensures read holds)
    (given : fields.optional name read = some value) :
    ∀ content ∈ value, holds content := by
  exact typed.defaulted (ensures_optional ensures) (by simp) given

end AreTyped

end Tree
end WorkflowEngine
