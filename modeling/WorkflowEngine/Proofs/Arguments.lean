import Mathlib.Data.List.Induction
import WorkflowEngine.CommandLine.Options

/-!
# Options in any order

A command line is a list of items: flags, options together with their values, and paths.  They
may come in any order.  What is asked for is told by the items of each option by themselves, of
which the last one counts, and whatever follows an option with a value is that value.
-/

namespace WorkflowEngine
namespace CommandLine

/-- The spelling of an option with a value. -/
def ValueOption.name : ValueOption → String
  | .input => "--input"
  | .settings => "--config"
  | .stateDirectory => "--state-dir"
  | .timeout => "--timeout"
  | .tenant => "--tenant"
  | .user => "--user"

/-- The requests that are answered without a run. -/
def requests : List String := ["--help", "-h", "--version", "-V"]

/-- The flags, in all their spellings. -/
def flags : List String := ["--dry-run", "--verbose", "-v"]

/-- What belongs together on a command line. -/
inductive Item where
  | dryRun
  | verbose (short : Bool)
  | valued (option : ValueOption) (value : String)
  | path (text : String)
  /-- An argument that begins like an option and is none. -/
  | unknown (text : String)
deriving DecidableEq

namespace Item

/-- The arguments of an item. -/
def arguments : Item → List String
  | .dryRun => ["--dry-run"]
  | .verbose short => [if short then "-v" else "--verbose"]
  | .valued option value => [option.name, value]
  | .path text => [text]
  | .unknown text => [text]

/-- What the first argument of an item is. -/
def kind : Item → Argument
  | .dryRun => .dryRun
  | .verbose _ => .verbose
  | .valued option _ => .valued option
  | .path _ => .path
  | .unknown _ => .unknown

/-- The path of an item, if it is one. -/
def path? : Item → Option String
  | .path text => some text
  | _ => none

/-- The value that an item gives to an option. -/
def value? (option : ValueOption) : Item → Option String
  | .valued other value => if other = option then some value else none
  | _ => none

/-- A path does not begin like an option, and what is no option is none. -/
def IsProper : Item → Prop
  | .path text => text.toList.head? ≠ some '-'
  | .unknown text =>
    text.toList.head? = some '-' ∧ text ∉ requests ∧ text ∉ flags ∧
      ∀ option : ValueOption, text ≠ option.name
  | _ => True

/-- An item that is in order by itself: a timeout is a number of 64 bits, and no option is
unknown. -/
def IsComplete : Item → Prop
  | .valued .timeout value => ∃ seconds, Decimal.nat64? value.toList = some seconds
  | .path text => text.toList.head? ≠ some '-'
  | .unknown _ => False
  | _ => True

/-- What is asked for when an item is read after others. -/
def apply (options : Options) : Item → Options
  | .dryRun => { options with dryRun := true }
  | .verbose _ => { options with verbose := true }
  | .valued .input value => { options with inputPath := some value }
  | .valued .settings value => { options with settingsPath := some value }
  | .valued .stateDirectory value => { options with stateDirectory := some value }
  | .valued .timeout value => { options with timeoutSeconds := Decimal.nat64? value.toList }
  | .valued .tenant value => { options with tenantId := some value }
  | .valued .user value => { options with userId := some value }
  | .path text => { options with workflowPath := text }
  | .unknown _ => options

end Item

/-- The arguments of some items. -/
def argumentsOf (items : List Item) : List String := items.flatMap Item.arguments

/-- Items that are in order: each is so by itself, and there is one path at most. -/
structure AreComplete (items : List Item) : Prop where
  complete : ∀ item ∈ items, item.IsComplete
  single : (items.filterMap Item.path?).length ≤ 1

/-- The last value that is given to an option. -/
def lastValue? (option : ValueOption) (items : List Item) : Option String :=
  (items.filterMap (Item.value? option)).getLast?

/-- What some items ask for: every option has its last value, flags are set if they are there,
and the workflow is the path that is given. -/
def asked (items : List Item) : Options where
  workflowPath := (items.filterMap Item.path?).getLast?.getD "workflow.yaml"
  inputPath := lastValue? .input items
  settingsPath := lastValue? .settings items
  stateDirectory := lastValue? .stateDirectory items
  timeoutSeconds := (lastValue? .timeout items).bind fun value => Decimal.nat64? value.toList
  tenantId := lastValue? .tenant items
  userId := lastValue? .user items
  dryRun := items.any (·.kind = .dryRun)
  verbose := items.any (·.kind = .verbose)

/-- The items of each kind are the same, and in the same sequence. -/
def Reordered (items others : List Item) : Prop :=
  ∀ kind, items.filter (·.kind = kind) = others.filter (·.kind = kind)

/-- An item cannot be read behind others. -/
inductive Spoils (before : List Item) : Item → ArgumentError → Prop
  | unknown {text : String} : Spoils before (.unknown text) (.unknownOption text)
  | timeout
      {value : String}
      (noNumber : Decimal.nat64? value.toList = none) :
      Spoils before (.valued .timeout value) (.invalidTimeout value)
  | path
      {text earlier : String}
      (second : .path earlier ∈ before) :
      Spoils before (.path text) (.unexpectedArgument text)

/-- Why some items are refused: the first of them that cannot be read. -/
inductive Explains (items : List Item) (error : ArgumentError) : Prop
  | intro
      {before behind : List Item}
      {item : Item}
      (parts : items = before ++ item :: behind)
      (complete : AreComplete before)
      (spoils : Spoils before item error)

/-! ## Single arguments -/

/-- Every option with a value has one spelling. -/
theorem lookup_names_eq_some_iff {text : String} {option : ValueOption} :
    ValueOption.names.lookup text = some option ↔ text = option.name := by
  constructor
  · intro found
    obtain ⟨before, behind, parts, -⟩ := List.lookup_eq_some_iff.mp found
    have listed : (text, option) ∈ ValueOption.names := parts ▸ by simp
    have spelled : ∀ entry ∈ ValueOption.names, entry.1 = entry.2.name := by decide
    exact spelled _ listed
  · rintro rfl
    cases option <;> rfl

theorem ofText_name (option : ValueOption) : Argument.ofText option.name = .valued option := by
  cases option <;> rfl

/-- What is spelled like nothing that is known is told by its first character. -/
theorem ofText_of_unnamed
    {text : String}
    (noRequest : text ∉ requests)
    (noFlag : text ∉ flags)
    (unnamed : ∀ option : ValueOption, text ≠ option.name) :
    Argument.ofText text = if text.toList.head? = some '-' then .unknown else .path := by
  have unlisted : ValueOption.names.lookup text = none :=
    Option.eq_none_iff_forall_ne_some.mpr fun option found =>
      unnamed option (lookup_names_eq_some_iff.mp found)
  simp only [requests, flags, List.mem_cons, List.not_mem_nil, or_false, not_or] at noRequest noFlag
  simp only [Argument.ofText, noRequest, noFlag, unlisted, decide_false, Bool.or_self,
    Bool.false_eq_true, if_false]

namespace Item

variable
  {item : Item}
  {text : String}
  {options : Options}
  {pathSeen : Bool}

/-- A path is spelled like nothing that is known. -/
theorem ofText_of_path (proper : text.toList.head? ≠ some '-') : Argument.ofText text = .path := by
  have dashed : ∀ spelling ∈ requests ++ flags, spelling.toList.head? = some '-' := by
    decide
  have noRequest : text ∉ requests := fun member =>
    proper (dashed text (List.mem_append_left _ member))
  have noFlag : text ∉ flags := fun member =>
    proper (dashed text (List.mem_append_right _ member))
  have unnamed (option : ValueOption) : text ≠ option.name := by
    rintro rfl
    exact proper (by cases option <;> rfl)
  rw [ofText_of_unnamed noRequest noFlag unnamed, if_neg proper]

theorem length_arguments_pos (item : Item) : 0 < item.arguments.length := by
  cases item <;> exact Nat.succ_pos _

/-! ## Reading items -/

/-- An option and its value are read together. -/
theorem readArguments_valued
    (pathSeen : Bool)
    (options : Options)
    (option : ValueOption)
    (value : String)
    (rest : List String) :
    readArguments pathSeen options ((valued option value).arguments ++ rest) =
      match option.set value options with
      | .ok options => readArguments pathSeen options rest
      | .error error => .error error := by
  rw [arguments, List.cons_append, readArguments, ofText_name]
  rfl

/-- A path is read once, and the second one is refused. -/
theorem readArguments_path
    (proper : text.toList.head? ≠ some '-')
    (pathSeen : Bool)
    (options : Options)
    (rest : List String) :
    readArguments pathSeen options ((path text).arguments ++ rest) =
      if pathSeen then .error (.unexpectedArgument text)
      else readArguments true { options with workflowPath := text } rest := by
  rw [arguments, List.cons_append, readArguments, ofText_of_path proper]
  rfl

/-- An item that is in order is read, and what comes behind it is read as if it stood alone. -/
theorem IsComplete.readArguments_eq
    (complete : item.IsComplete)
    (free : pathSeen = true → item.path? = none)
    (options : Options)
    (rest : List String) :
    readArguments pathSeen options (item.arguments ++ rest) =
      readArguments (pathSeen || item.path?.isSome) (item.apply options) rest := by
  cases item with
  | dryRun => simp [arguments, readArguments, Argument.ofText, path?, apply]
  | verbose short =>
    cases short <;> simp [arguments, readArguments, Argument.ofText, path?, apply]
  | valued option value =>
    rw [readArguments_valued]
    cases option with
    | timeout =>
      obtain ⟨seconds, read⟩ := complete
      simp [ValueOption.set, read, path?, apply]
    | input | settings | stateDirectory | tenant | user =>
      simp [ValueOption.set, path?, apply]
  | path text =>
    have unseen : pathSeen = false := by
      cases pathSeen with
      | false => rfl
      | true => cases free rfl
    rw [readArguments_path complete, unseen]
    rfl
  | unknown text => exact complete.elim

end Item

/-- Whether there is a path among some items. -/
def hasPath (items : List Item) : Bool := items.any (·.path?.isSome)

theorem hasPath_eq_false_iff {items : List Item} :
    hasPath items = false ↔ items.filterMap Item.path? = [] := by
  simp [hasPath]

theorem hasPath_eq_true_iff {items : List Item} :
    hasPath items = true ↔ ∃ text, .path text ∈ items := by
  constructor
  · intro found
    obtain ⟨item, member, given⟩ := List.any_eq_true.mp found
    cases item with
    | path text => exact ⟨text, member⟩
    | dryRun | verbose | valued | unknown => cases given
  · rintro ⟨text, member⟩
    exact List.any_eq_true.mpr ⟨_, member, rfl⟩

/-- Reading some items in order applies them in sequence. -/
theorem readArguments_argumentsOf_append
    {items : List Item}
    {pathSeen : Bool}
    (complete : ∀ item ∈ items, item.IsComplete)
    (single : pathSeen.toNat + (items.filterMap Item.path?).length ≤ 1)
    (options : Options)
    (rest : List String) :
    readArguments pathSeen options (argumentsOf items ++ rest) =
      readArguments (pathSeen || hasPath items) (items.foldl Item.apply options) rest := by
  induction items generalizing pathSeen options with
  | nil => simp [argumentsOf, hasPath]
  | cons item items ih =>
    obtain ⟨first, others⟩ := List.forall_mem_cons.mp complete
    -- The item spends the one path that is still free, or it is none.
    have counted :
        (pathSeen || item.path?.isSome).toNat + (items.filterMap Item.path?).length ≤ 1 ∧
          (pathSeen = true → item.path? = none) := by
      cases given : item.path? with
      | none => simpa [given] using single
      | some text =>
        rw [List.filterMap_cons_some given, List.length_cons] at single
        cases pathSeen with
        | false => simpa [Nat.add_comm] using single
        | true =>
          rw [Bool.toNat_true] at single
          omega
    calc readArguments pathSeen options (argumentsOf (item :: items) ++ rest)
        = readArguments pathSeen options (item.arguments ++ (argumentsOf items ++ rest)) := by
          rw [argumentsOf, List.flatMap_cons, List.append_assoc, argumentsOf]
      _ = readArguments (pathSeen || item.path?.isSome) (item.apply options)
            (argumentsOf items ++ rest) := first.readArguments_eq counted.2 options _
      _ = readArguments (pathSeen || item.path?.isSome || hasPath items)
            (items.foldl Item.apply (item.apply options)) rest := ih others counted.1 _
      _ = readArguments (pathSeen || hasPath (item :: items))
            ((item :: items).foldl Item.apply options) rest := by
          rw [hasPath, hasPath, List.any_cons, Bool.or_assoc, List.foldl_cons]

/-- What is asked for can be told item by item. -/
theorem asked_concat (items : List Item) (item : Item) :
    asked (items ++ [item]) = item.apply (asked items) := by
  cases item with
  | valued option value =>
    cases option <;>
      simp [asked, lastValue?, Item.apply, Item.path?, Item.value?, Item.kind]
  | dryRun | verbose | path | unknown =>
    simp [asked, lastValue?, Item.apply, Item.path?, Item.value?, Item.kind]

/-- Applying items in sequence leaves what the last ones of each option ask for. -/
theorem foldl_apply_eq_asked (items : List Item) : items.foldl Item.apply {} = asked items := by
  induction items using List.reverseRecOn with
  | nil => rfl
  | append_singleton items item ih =>
    rw [List.foldl_append, ih, asked_concat]
    rfl

section

variable
  {items others before behind : List Item}
  {item : Item}
  {error : ArgumentError}

/-- Items that are in order are read, and reading goes on behind them. -/
theorem AreComplete.parse_append (complete : AreComplete items) (rest : List String) :
    parse (argumentsOf items ++ rest) =
      readArguments (hasPath items) (asked items) rest := by
  rw [parse, readArguments_argumentsOf_append complete.complete (by simpa using complete.single),
    Bool.false_or, foldl_apply_eq_asked]

/-- Items that are in order ask for what each option was last given. -/
theorem AreComplete.parse_eq (complete : AreComplete items) :
    parse (argumentsOf items) = .ok (.run (asked items)) := by
  have read := complete.parse_append []
  rwa [List.append_nil] at read

/-! ## Other orders -/

/-- Reordered items are the same ones. -/
theorem Reordered.mem_iff (reordered : Reordered items others) : item ∈ items ↔ item ∈ others := by
  have same : item ∈ items.filter (·.kind = item.kind) ↔
      item ∈ others.filter (·.kind = item.kind) := by
    rw [reordered item.kind]
  simpa using same

/-- What is told of items of one kind is told of them by themselves. -/
theorem filterMap_filter_kind
    {α : Type}
    {read : Item → Option α}
    {kind : Argument}
    (only : ∀ item, item.kind ≠ kind → read item = none) :
    (items.filter (·.kind = kind)).filterMap read = items.filterMap read := by
  rw [List.filterMap_filter]
  congr 1
  funext item
  by_cases same : item.kind = kind
  · simp [same]
  · simp [same, only item same]

/-- What is read of items of one kind alone does not depend on the others. -/
theorem Reordered.filterMap_eq
    {α : Type}
    {read : Item → Option α}
    (kind : Argument)
    (reordered : Reordered items others)
    (only : ∀ item, item.kind ≠ kind → read item = none) :
    items.filterMap read = others.filterMap read := by
  rw [← filterMap_filter_kind only, reordered kind, filterMap_filter_kind only]

/-- Reordering keeps the paths. -/
theorem Reordered.paths_eq (reordered : Reordered items others) :
    items.filterMap Item.path? = others.filterMap Item.path? := by
  refine reordered.filterMap_eq .path fun item other => ?_
  cases item with
  | path => exact (other rfl).elim
  | dryRun | verbose | valued | unknown => rfl

/-- Reordering keeps the last value of each option. -/
theorem Reordered.lastValue?_eq (reordered : Reordered items others) (option : ValueOption) :
    lastValue? option items = lastValue? option others := by
  rw [lastValue?, lastValue?, reordered.filterMap_eq (.valued option) fun item other => ?_]
  cases item with
  | valued given value =>
    refine if_neg fun same => other ?_
    rw [Item.kind, same]
  | dryRun | verbose | path | unknown => rfl

theorem Reordered.any_kind_eq (reordered : Reordered items others) (kind : Argument) :
    items.any (·.kind = kind) = others.any (·.kind = kind) := by
  rw [Bool.eq_iff_iff, List.any_eq_true, List.any_eq_true]
  simp only [reordered.mem_iff]

/-- Items of different options ask for the same in any order. -/
theorem Reordered.asked_eq (reordered : Reordered items others) : asked items = asked others := by
  simp only [asked, reordered.paths_eq, reordered.lastValue?_eq, reordered.any_kind_eq]

/-- Reordered items are in order if they were before. -/
theorem Reordered.areComplete (reordered : Reordered items others) (complete : AreComplete items) :
    AreComplete others where
  complete item member := complete.complete item (reordered.mem_iff.mpr member)
  single := reordered.paths_eq ▸ complete.single

/-! ## Refusals -/

/-- Behind items that are in order, an item that cannot be read is refused. -/
theorem Spoils.parse_eq
    (spoils : Spoils before item error)
    (complete : AreComplete before)
    (proper : item.IsProper)
    (rest : List String) :
    parse (argumentsOf before ++ (item.arguments ++ rest)) = .error error := by
  rw [complete.parse_append]
  cases spoils with
  | @unknown text =>
    obtain ⟨begins, noRequest, noFlag, unnamed⟩ := proper
    rw [Item.arguments, List.cons_append, readArguments,
      ofText_of_unnamed noRequest noFlag unnamed, if_pos begins]
  | timeout noNumber =>
    rw [Item.readArguments_valued]
    simp only [ValueOption.set, noNumber]
  | path second =>
    rw [Item.readArguments_path proper, if_pos (hasPath_eq_true_iff.mpr ⟨_, second⟩)]

/-- An option with a value cannot be the last argument. -/
theorem AreComplete.parse_append_name (complete : AreComplete items) (option : ValueOption) :
    parse (argumentsOf items ++ [option.name]) = .error (.missingValue option.name) := by
  rw [complete.parse_append, readArguments, ofText_name]

/-- Items of which one cannot be read are refused, whatever comes behind them. -/
theorem Explains.parse_eq
    (explains : Explains items error)
    (proper : ∀ item ∈ items, item.IsProper)
    (rest : List String) :
    parse (argumentsOf items ++ rest) = .error error := by
  obtain @⟨before, behind, item, parts, complete, spoils⟩ := explains
  subst parts
  have read := spoils.parse_eq complete (proper item (by simp)) (argumentsOf behind ++ rest)
  simpa [argumentsOf] using read

/-- An item behind others that are in order either keeps them so or cannot be read. -/
theorem AreComplete.concat_or_spoils
    (complete : AreComplete items)
    (proper : item.IsProper) :
    AreComplete (items ++ [item]) ∨ ∃ error, Spoils items item error := by
  have all (fine : item.IsComplete) : ∀ other ∈ items ++ [item], other.IsComplete := by
    simpa [or_imp, forall_and] using ⟨complete.complete, fine⟩
  have extend (fine : item.IsComplete) (unpathed : item.path? = none) :
      AreComplete (items ++ [item]) :=
    ⟨all fine, by simpa [unpathed] using complete.single⟩
  cases item with
  | dryRun => exact .inl (extend trivial rfl)
  | verbose => exact .inl (extend trivial rfl)
  | unknown text => exact .inr ⟨_, .unknown⟩
  | valued option value =>
    cases option with
    | timeout =>
      cases read : Decimal.nat64? value.toList with
      | some seconds => exact .inl (extend ⟨seconds, read⟩ rfl)
      | none => exact .inr ⟨_, .timeout read⟩
    | input | settings | stateDirectory | tenant | user => exact .inl (extend trivial rfl)
  | path text =>
    cases seen : hasPath items with
    | true =>
      obtain ⟨earlier, member⟩ := hasPath_eq_true_iff.mp seen
      exact .inr ⟨_, .path member⟩
    | false =>
      refine .inl ⟨all proper, ?_⟩
      simp [hasPath_eq_false_iff.mp seen, Item.path?]

/-- Items that are not in order have a first one that cannot be read. -/
theorem exists_explains
    (proper : ∀ item ∈ items, item.IsProper)
    (incomplete : ¬AreComplete items) :
    ∃ error, Explains items error := by
  -- The first item that cannot be read is the last of the shortest list that is not in order.
  induction items using List.reverseRecOn with
  | nil => exact (incomplete ⟨by simp, by simp⟩).elim
  | append_singleton items last ih =>
    by_cases complete : AreComplete items
    · rcases complete.concat_or_spoils (proper last (by simp)) with whole | ⟨error, spoils⟩
      · exact (incomplete whole).elim
      · exact ⟨error, .intro rfl complete spoils⟩
    · obtain ⟨error, explains⟩ := ih (fun item member => proper item (by simp [member])) complete
      obtain @⟨before, behind, item, rfl, earlier, spoils⟩ := explains
      exact ⟨error, .intro (List.append_assoc before (item :: behind) [last]) earlier spoils⟩

/-! ## All argument lists -/

/-- The first of some arguments is a request, or an option without value at their end, or it
begins an item. -/
theorem exists_item (text : String) (rest : List String) :
    text ∈ requests ∨ (rest = [] ∧ ∃ option : ValueOption, text = option.name) ∨
      ∃ item : Item, item.IsProper ∧ ∃ behind, text :: rest = item.arguments ++ behind := by
  by_cases request : text ∈ requests
  · exact .inl request
  refine .inr ?_
  by_cases flag : text ∈ flags
  · refine .inr ?_
    simp only [flags, List.mem_cons, List.not_mem_nil, or_false] at flag
    rcases flag with rfl | rfl | rfl
    · exact ⟨.dryRun, trivial, rest, rfl⟩
    · exact ⟨.verbose false, trivial, rest, rfl⟩
    · exact ⟨.verbose true, trivial, rest, rfl⟩
  by_cases named : ∃ option : ValueOption, text = option.name
  · obtain ⟨option, rfl⟩ := named
    cases rest with
    | nil => exact .inl ⟨rfl, option, rfl⟩
    | cons value behind => exact .inr ⟨.valued option value, trivial, behind, rfl⟩
  · refine .inr ?_
    by_cases begins : text.toList.head? = some '-'
    · exact ⟨.unknown text, ⟨begins, request, flag, not_exists.mp named⟩, rest, rfl⟩
    · exact ⟨.path text, begins, rest, rfl⟩

/-- How an argument list is taken apart: into items, behind which there may be an option without
value at the end of the list, or a request with anything behind it. -/
inductive IsMadeOf (items : List Item) : List String → Prop
  | whole : IsMadeOf items (argumentsOf items)
  | dangling (option : ValueOption) : IsMadeOf items (argumentsOf items ++ [option.name])
  | request
      {text : String}
      (known : text ∈ requests)
      (rest : List String) :
      IsMadeOf items (argumentsOf items ++ text :: rest)

/-- An item may be put in front of an argument list that was taken apart. -/
theorem IsMadeOf.cons
    {arguments : List String}
    (made : IsMadeOf items arguments)
    (item : Item) :
    IsMadeOf (item :: items) (item.arguments ++ arguments) := by
  have parts : item.arguments ++ argumentsOf items = argumentsOf (item :: items) := rfl
  cases made with
  | whole => exact .whole
  | dangling option =>
    rw [← List.append_assoc, parts]
    exact .dangling option
  | request known rest =>
    rw [← List.append_assoc, parts]
    exact .request known rest

/-- Every argument list can be taken apart. -/
theorem exists_isMadeOf (arguments : List String) :
    ∃ items : List Item, (∀ item ∈ items, item.IsProper) ∧ IsMadeOf items arguments := by
  -- By the number of arguments: an item takes one or two of them away.
  induction length : arguments.length using Nat.strongRecOn generalizing arguments with
  | ind size ih =>
    cases arguments with
    | nil => exact ⟨[], by simp, .whole⟩
    | cons text rest =>
      rcases exists_item text rest with known | ⟨rfl, option, rfl⟩ | ⟨item, fine, behind, parts⟩
      · exact ⟨[], by simp, .request known rest⟩
      · exact ⟨[], by simp, .dangling option⟩
      · have shorter : behind.length < size := by
          rw [← length, parts, List.length_append]
          have := item.length_arguments_pos
          omega
        obtain ⟨items, proper, made⟩ := ih _ shorter behind rfl
        rw [parts]
        exact ⟨item :: items, List.forall_mem_cons.mpr ⟨fine, proper⟩, made.cons item⟩

end

/-- Items that are in order are read to what the last ones of each option ask for, in any order
of different options.  Items one of which cannot be read are refused because of the first such,
and an option without value because of that.  There are no other argument lists, but for those
in which a request ends the reading. -/
theorem options_in_any_order :
    (∀ items, AreComplete items →
      parse (argumentsOf items) = .ok (.run (asked items)) ∧
        ∀ others, Reordered items others →
          parse (argumentsOf others) = .ok (.run (asked items))) ∧
    (∀ items, (∀ item ∈ items, item.IsProper) → ¬AreComplete items →
      ∃ error, Explains items error ∧ ∀ rest, parse (argumentsOf items ++ rest) = .error error) ∧
    (∀ items, AreComplete items → ∀ option : ValueOption,
      parse (argumentsOf items ++ [option.name]) = .error (.missingValue option.name)) ∧
    ∀ arguments, ∃ items : List Item,
      (∀ item ∈ items, item.IsProper) ∧ IsMadeOf items arguments := by
  refine ⟨fun items complete => ⟨complete.parse_eq, fun others reordered => ?_⟩,
    fun items proper incomplete => ?_, fun items complete => complete.parse_append_name,
    exists_isMadeOf⟩
  · rw [reordered.asked_eq]
    exact (reordered.areComplete complete).parse_eq
  · obtain ⟨error, explains⟩ := exists_explains proper incomplete
    exact ⟨error, explains, explains.parse_eq proper⟩

/-- What follows an option with a value is its value, and of two inputs the last one counts; a
second path is refused. -/
theorem options_in_any_order_repeated :
    parse ["--input", "--dry-run", "-v", "orders.yaml", "--timeout", "30", "--input", "new.json"] =
        .ok (.run {
          workflowPath := "orders.yaml"
          inputPath := some "new.json"
          timeoutSeconds := some 30
          verbose := true }) ∧
      ∃ error, parse ["orders.yaml", "--dry-run", "parcels.yaml"] = .error error := by
  have complete : AreComplete
      [.valued .input "--dry-run", .verbose true, .path "orders.yaml", .valued .timeout "30",
        .valued .input "new.json"] := by
    refine ⟨?_, by decide⟩
    have number : ∃ seconds, Decimal.nat64? "30".toList = some seconds := ⟨30, by decide⟩
    simpa [Item.IsComplete] using number
  refine ⟨(options_in_any_order.1 _ complete).1.trans (by decide), ?_⟩
  have proper : ∀ item ∈ [Item.path "orders.yaml", .dryRun, .path "parcels.yaml"],
      item.IsProper := by
    simp [Item.IsProper]
  obtain ⟨error, -, refused⟩ := options_in_any_order.2.1 _ proper fun complete =>
    absurd complete.single (by decide)
  exact ⟨error, refused []⟩

end CommandLine
end WorkflowEngine
