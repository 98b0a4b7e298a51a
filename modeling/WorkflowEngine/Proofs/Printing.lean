import WorkflowEngine.Json.Reader
import WorkflowEngine.Proofs.Numerals

/-!
# Written values

No two values have one compact form, and none has the empty one.  A text is found again
behind its opening quote by the reader, and a value by its first character together with
what its parts are found again from.
-/

namespace WorkflowEngine
namespace Json

/-! ## Texts -/

/-- A hexadecimal digit is read as it was written. -/
theorem hexDigit?_hexDigit : ∀ value < 16, Reader.hexDigit? (hexDigit value) = some value := by
  decide

/-- The code of a control character is read as it was written. -/
theorem codeUnit?_control {code : Nat} (control : code < 32) (rest : List Char) :
    Reader.codeUnit? ('0' :: '0' :: hexDigit (code / 16) :: hexDigit (code % 16) :: rest) =
      some (code, rest) := by
  have high := hexDigit?_hexDigit (code / 16) (by omega)
  have low := hexDigit?_hexDigit (code % 16) (by omega)
  have zero : Reader.hexDigit? '0' = some 0 := rfl
  unfold Reader.codeUnit?
  dsimp only
  rw [zero, high, low]
  show some _ = _
  congr 2
  omega

/-- A control character is read from the code that it is written with. -/
theorem escapedChar?_control {char : Char} (control : char.toNat < 32) (rest : List Char) :
    Reader.escapedChar? ('0' :: '0' :: hexDigit (char.toNat / 16) :: hexDigit (char.toNat % 16) ::
      rest) = some (char, rest) := by
  unfold Reader.escapedChar?
  rw [codeUnit?_control control]
  show (if _ then _ else _) = _
  rw [if_neg (by omega), if_neg (by omega), Char.ofNat_toNat]

/-- The written form of a character inside a text is read as the character. -/
theorem textBody?_escape (fuel : Nat) (char : Char) (rest : List Char) :
    Reader.textBody? (fuel + 1) (escape char ++ rest) = (do
      let (more, rest) ← Reader.textBody? fuel rest
      some (char :: more, rest)) := by
  unfold escape
  split
  next => subst char; rfl
  split
  next => subst char; rfl
  split
  next => subst char; rfl
  split
  next => subst char; rfl
  split
  next => subst char; rfl
  split
  next backspace =>
    rw [← Char.ofNat_toNat char, backspace]
    rfl
  split
  next feed =>
    rw [← Char.ofNat_toNat char, feed]
    rfl
  split
  next control =>
    show Option.bind (Reader.escapedChar? ('0' :: '0' :: _ :: _ :: rest)) _ = _
    rw [escapedChar?_control control]
    rfl
  next quote backslash _ _ _ _ _ printable =>
    rw [List.singleton_append]
    conv_lhs => unfold Reader.textBody?
    split
    next none => cases none
    next closing => exact absurd (List.head_eq_of_cons_eq closing) quote
    next escaped => exact absurd (List.head_eq_of_cons_eq escaped) backslash
    next plain =>
      cases plain
      rw [if_neg (not_or.mpr ⟨backslash, printable⟩)]

/-- So are the characters of a text, up to the closing quote. -/
theorem textBody?_flatMap_escape
    {chars : List Char}
    {fuel : Nat}
    (enough : chars.length < fuel)
    (rest : List Char) :
    Reader.textBody? fuel (chars.flatMap escape ++ '"' :: rest) = some (chars, rest) := by
  induction chars generalizing fuel with
  | nil =>
    obtain ⟨less, rfl⟩ := Nat.exists_eq_add_one_of_ne_zero (Nat.ne_of_gt enough)
    rfl
  | cons char others inductionHypothesis =>
    obtain ⟨less, rfl⟩ := Nat.exists_eq_add_one_of_ne_zero (Nat.ne_of_gt (Nat.zero_lt_of_lt enough))
    rw [List.flatMap_cons, List.append_assoc, textBody?_escape,
      inductionHypothesis (Nat.lt_of_succ_lt_succ enough)]
    rfl

theorem escape_ne_nil (char : Char) : escape char ≠ [] := by
  intro none
  have read := textBody?_escape 1 char ['"']
  rw [none] at read
  cases read

/-- Escaping never shortens a text. -/
theorem length_le_flatMap_escape (chars : List Char) :
    chars.length ≤ (chars.flatMap escape).length := by
  induction chars with
  | nil => exact Nat.le_refl 0
  | cons char others inductionHypothesis =>
    have some := List.length_pos_iff.mpr (escape_ne_nil char)
    rw [List.flatMap_cons, List.length_append, List.length_cons]
    omega

theorem quote_append (value : String) (rest : List Char) :
    quote value ++ rest = '"' :: (value.toList.flatMap escape ++ '"' :: rest) := by
  simp [quote]

/-- A quoted text is read back, whatever follows it. -/
theorem text?_quote (value : String) (rest : List Char) :
    Reader.text? (quote value ++ rest).tail = some (value, rest) := by
  have length := length_le_flatMap_escape value.toList
  rw [quote_append, List.tail_cons, Reader.text?, textBody?_flatMap_escape]
  · exact congrArg (fun text => some (text, rest)) String.ofList_toList
  · rw [List.length_append]
    omega

/-- A quoted text ends at its closing quote, whatever follows. -/
theorem quote_append_injective
    {first second : String}
    {ending ending' : List Char}
    (same : quote first ++ ending = quote second ++ ending') :
    first = second ∧ ending = ending' := by
  have read := congrArg (Reader.text? ∘ List.tail) same
  dsimp only [Function.comp] at read
  rw [text?_quote, text?_quote] at read
  exact Prod.mk.inj (Option.some.inj read)

/-! ## First characters -/

/-- What the first character of a written value tells. -/
inductive Kind where
  | null
  | bool
  | number
  | text
  | array
  | object

/-- The kind of a value. -/
def kind : Json → Kind
  | .null => .null
  | .bool _ => .bool
  | .number _ => .number
  | .text _ => .text
  | .array _ => .array
  | .object _ => .object

/-- The kind of the values that begin with a character. -/
def Kind.ofChar? (char : Char) : Option Kind :=
  if Decimal.isNumeric char then some .number
  else
    match char with
    | 'n' => some .null
    | 't' | 'f' => some .bool
    | '"' => some .text
    | '[' => some .array
    | '\x7b' => some .object
    | _ => none

/-- Every value begins with a character that tells its kind. -/
theorem print_begins (value : Json) :
    ∃ char rest, value.print = char :: rest ∧ Kind.ofChar? char = some value.kind := by
  cases value with
  | null => exact ⟨'n', _, rfl, rfl⟩
  | bool value =>
    cases value with
    | false => exact ⟨'f', _, rfl, rfl⟩
    | true => exact ⟨'t', _, rfl, rfl⟩
  | number number =>
    obtain ⟨char, rest, same⟩ := List.exists_cons_of_ne_nil number.print_ne_nil
    have numeric := number.isNumeric_of_mem_print char (same ▸ List.mem_cons_self)
    exact ⟨char, rest, same, if_pos numeric⟩
  | text value => exact ⟨'"', _, rfl, rfl⟩
  | array items => exact ⟨'[', _, rfl, rfl⟩
  | object entries => exact ⟨'\x7b', _, rfl, rfl⟩

/-- No value is written as nothing. -/
theorem print_ne_nil (value : Json) : value.print ≠ [] := by
  obtain ⟨char, rest, same, -⟩ := value.print_begins
  exact same ▸ List.cons_ne_nil char rest

/-- Values with one written form are of one kind. -/
theorem kind_eq_of_print
    {first second : Json}
    {ending ending' : List Char}
    (same : first.print ++ ending = second.print ++ ending') :
    first.kind = second.kind := by
  obtain ⟨char, rest, begins, kind⟩ := first.print_begins
  obtain ⟨char', rest', begins', kind'⟩ := second.print_begins
  rw [begins, begins'] at same
  rw [List.head_eq_of_cons_eq same, kind'] at kind
  exact (Option.some.inj kind).symm

/-- A value does not begin as the end of an array or an object does. -/
theorem print_append_ne
    {char : Char}
    (noKind : Kind.ofChar? char = none)
    (value : Json)
    (ending rest : List Char) :
    value.print ++ ending ≠ char :: rest := by
  obtain ⟨first, others, begins, kind⟩ := value.print_begins
  intro same
  rw [begins] at same
  rw [List.head_eq_of_cons_eq same, noKind] at kind
  cases kind

/-! ## Values -/

/-- No numeral goes on. -/
def Ends (ending : List Char) : Prop := ∀ char ∈ ending.head?, Decimal.isNumeric char = false

/-- What follows an item does not go on with a numeral. -/
theorem ends_printMoreItems (items : List Json) (ending : List Char) :
    Ends (printMoreItems items ++ ending) := by
  cases items with
  | nil => rintro _ ⟨⟩; rfl
  | cons item rest => rintro _ ⟨⟩; rfl

/-- Neither does what follows an entry. -/
theorem ends_printMoreEntries (entries : List (String × Json)) (ending : List Char) :
    Ends (printMoreEntries entries ++ ending) := by
  match entries with
  | [] => rintro _ ⟨⟩; rfl
  | (key, value) :: rest => rintro _ ⟨⟩; rfl

theorem boolChars_append_injective
    {first second : Bool}
    {ending ending' : List Char}
    (same : boolChars first ++ ending = boolChars second ++ ending') :
    first = second ∧ ending = ending' := by
  cases first <;> cases second
  · exact ⟨rfl, List.append_cancel_left same⟩
  · cases same
  · cases same
  · exact ⟨rfl, List.append_cancel_left same⟩

/-- Items behind a comma or a closing bracket are told apart if items are. -/
theorem printMoreItems_append_injective
    {items items' : List Json}
    {ending ending' : List Char}
    (told : printItems items ++ ending = printItems items' ++ ending' →
      items = items' ∧ ending = ending')
    (same : printMoreItems items ++ ending = printMoreItems items' ++ ending') :
    items = items' ∧ ending = ending' := by
  match items, items' with
  | [], [] => exact ⟨rfl, List.append_cancel_left same⟩
  | [], _ :: _ => cases same
  | _ :: _, [] => cases same
  | _ :: _, _ :: _ => exact told (List.tail_eq_of_cons_eq same)

/-- Entries behind a comma or a closing brace are told apart if entries are. -/
theorem printMoreEntries_append_injective
    {entries entries' : List (String × Json)}
    {ending ending' : List Char}
    (told : printEntries entries ++ ending = printEntries entries' ++ ending' →
      entries = entries' ∧ ending = ending')
    (same : printMoreEntries entries ++ ending = printMoreEntries entries' ++ ending') :
    entries = entries' ∧ ending = ending' := by
  match entries, entries' with
  | [], [] => exact ⟨rfl, List.append_cancel_left same⟩
  | [], _ :: _ => cases same
  | _ :: _, [] => cases same
  | _ :: _, _ :: _ => exact told (List.tail_eq_of_cons_eq same)

mutual

/-- A value is told from what follows it, where no numeral goes on. -/
theorem print_append_injective :
    ∀ {first second : Json} {ending ending' : List Char}, Ends ending → Ends ending' →
      first.print ++ ending = second.print ++ ending' → first = second ∧ ending = ending'
  | first, second, ending, ending', ends, ends', same => by
    have kinds := kind_eq_of_print same
    cases first with
    | null =>
      cases second with
      | null => exact ⟨rfl, List.append_cancel_left same⟩
      | _ => cases kinds
    | bool value =>
      cases second with
      | bool value' => exact (boolChars_append_injective same).imp_left (congrArg bool)
      | _ => cases kinds
    | number value =>
      cases second with
      | number value' =>
        exact (Number.print_append_injective ends ends' same).imp_left (congrArg number)
      | _ => cases kinds
    | text value =>
      cases second with
      | text value' => exact (quote_append_injective same).imp_left (congrArg text)
      | _ => cases kinds
    | array items =>
      cases second with
      | array items' =>
        exact (printItems_append_injective (List.tail_eq_of_cons_eq same)).imp_left (congrArg array)
      | _ => cases kinds
    | object entries =>
      cases second with
      | object entries' =>
        exact (printEntries_append_injective (List.tail_eq_of_cons_eq same)).imp_left
          (congrArg object)
      | _ => cases kinds

/-- The items of an array are told from what follows the array. -/
theorem printItems_append_injective :
    ∀ {items items' : List Json} {ending ending' : List Char},
      printItems items ++ ending = printItems items' ++ ending' →
        items = items' ∧ ending = ending'
  | [], [], _, _, same => ⟨rfl, List.append_cancel_left same⟩
  | [], item :: rest, _, _, same => by
    rw [printItems, printItems, List.append_assoc] at same
    exact absurd same.symm (print_append_ne rfl item _ _)
  | item :: rest, [], _, _, same => by
    rw [printItems, printItems, List.append_assoc] at same
    exact absurd same (print_append_ne rfl item _ _)
  | item :: rest, item' :: rest', ending, ending', same => by
    rw [printItems, printItems, List.append_assoc, List.append_assoc] at same
    obtain ⟨rfl, behind⟩ := print_append_injective (ends_printMoreItems rest ending)
      (ends_printMoreItems rest' ending') same
    obtain ⟨rfl, ending⟩ := printMoreItems_append_injective printItems_append_injective behind
    exact ⟨rfl, ending⟩

/-- The entries of an object are told from what follows the object. -/
theorem printEntries_append_injective :
    ∀ {entries entries' : List (String × Json)} {ending ending' : List Char},
      printEntries entries ++ ending = printEntries entries' ++ ending' →
        entries = entries' ∧ ending = ending'
  | [], [], _, _, same => ⟨rfl, List.append_cancel_left same⟩
  | [], (key, value) :: rest, _, _, same => by cases same
  | (key, value) :: rest, [], _, _, same => by cases same
  | (key, value) :: rest, (key', value') :: rest', ending, ending', same => by
    rw [printEntries, printEntries, List.append_assoc, List.append_assoc] at same
    obtain ⟨rfl, behind⟩ := quote_append_injective same
    rw [List.cons_append, List.cons_append, List.append_assoc, List.append_assoc] at behind
    obtain ⟨rfl, more⟩ := print_append_injective (ends_printMoreEntries rest ending)
      (ends_printMoreEntries rest' ending') (List.tail_eq_of_cons_eq behind)
    obtain ⟨rfl, ending⟩ := printMoreEntries_append_injective printEntries_append_injective more
    exact ⟨rfl, ending⟩

end

/-- No two values have one compact form. -/
theorem toText_injective : Function.Injective toText := by
  intro first second same
  have forms : first.print ++ [] = second.print ++ [] := by
    rw [List.append_nil, List.append_nil]
    exact String.ofList_injective same
  exact (print_append_injective (by rintro _ ⟨⟩) (by rintro _ ⟨⟩) forms).1

theorem toText_ne_empty (value : Json) : value.toText ≠ "" := fun empty =>
  value.print_ne_nil (String.ofList_injective empty)

end Json
end WorkflowEngine
