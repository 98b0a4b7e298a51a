import Mathlib.Data.List.Basic
import Mathlib.Data.List.TakeWhile
import WorkflowEngine.Template

/-!
# Interpolating templates

A template divides in one way into placeholders, read from left to right, and the characters
at which none begins.  Interpolating it replaces the placeholders that have a value, each by
itself, and keeps everything else.  How a template divides does not depend on the values.
-/

namespace WorkflowEngine
namespace Template

/-- A placeholder as it is written, with its path. -/
inductive IsPlaceholder : (written path : List Char) → Prop
  | intro
      {front path back : List Char}
      (front_blank : ∀ char ∈ front, Text.isBlank char = true)
      (some : path ≠ [])
      (path_solid : ∀ char ∈ path, char ≠ '\x7d' ∧ Text.isBlank char = false)
      (back_blank : ∀ char ∈ back, Text.isBlank char = true) :
      IsPlaceholder ('$' :: '\x7b' :: (front ++ (path ++ (back ++ ['\x7d'])))) path

/-- A part of a template. -/
inductive Piece where
  | kept (char : Char)
  | placeholder (written path : List Char)

/-- The division of a text, from left to right.  A character is kept where no placeholder
begins, and the text is read on right behind it. -/
inductive Divides : List Char → List Piece → Prop
  | nil : Divides [] []
  | kept
      {char : Char}
      {rest : List Char}
      {pieces : List Piece}
      (none : ∀ written path, IsPlaceholder written path → ¬written <+: char :: rest)
      (others : Divides rest pieces) :
      Divides (char :: rest) (.kept char :: pieces)
  | placeholder
      {written path rest : List Char}
      {pieces : List Piece}
      (here : IsPlaceholder written path)
      (others : Divides rest pieces) :
      Divides (written ++ rest) (.placeholder written path :: pieces)

/-- The value for a path, in the first of the data of a context that has one. -/
def found? (context : Context) (path : List Char) : Option Json :=
  [context.executionData, context.variables, context.inputData].findSome?
    (Object.lookup (String.ofList path))

namespace Piece

/-- How a piece stands in the template. -/
def written : Piece → List Char
  | .kept char => [char]
  | .placeholder written _ => written

/-- What becomes of a piece.  A text is inserted as it is, any other value as it is printed. -/
def interpolated (context : Context) : Piece → List Char
  | .kept char => [char]
  | .placeholder written path =>
    match found? context path with
    | some (.text content) => content.toList
    | some value => value.print
    | none => written

/-- A piece is a placeholder for which a context has a value. -/
def Resolves (context : Context) : Piece → Prop
  | .kept _ => False
  | .placeholder _ path => ∃ value, found? context path = some value

end Piece

/-! ## Placeholders -/

section

variable {written path rest behind text : List Char}

theorem isPathChar_iff {char : Char} :
    isPathChar char = true ↔ char ≠ '\x7d' ∧ Text.isBlank char = false := by
  simp [isPathChar]

/-- A placeholder is found at the start of a text, whatever follows it. -/
theorem placeholder?_append (here : IsPlaceholder written path) (rest : List Char) :
    placeholder? (written ++ rest) = some (path, rest) := by
  obtain @⟨front, path, back, blank, some, solid, blank'⟩ := here
  obtain ⟨first, more, rfl⟩ := List.exists_cons_of_ne_nil some
  have inside : ∀ char ∈ first :: more, isPathChar char = true := fun char member =>
    isPathChar_iff.mpr (solid char member)
  have starts : ∀ char ∈ (first :: more ++ (back ++ '\x7d' :: rest)).head?,
      Text.isBlank char = false := by
    rintro _ ⟨⟩
    exact (solid first List.mem_cons_self).2
  have ends : ∀ char ∈ (back ++ '\x7d' :: rest).head?, isPathChar char = false := by
    cases back with
    | nil => simp [isPathChar]
    | cons next last => simp [isPathChar, blank' next List.mem_cons_self]
  have closes : ∀ char ∈ ('\x7d' :: rest).head?, Text.isBlank char = false := by
    rintro _ ⟨⟩
    decide
  have body : ('$' :: '\x7b' :: (front ++ (first :: more ++ (back ++ ['\x7d'])))) ++ rest =
      '$' :: '\x7b' :: (front ++ (first :: more ++ (back ++ '\x7d' :: rest))) := by
    simp
  rw [body, placeholder?, placeholderBody?, Text.dropWhile_append_of_ends blank starts,
    Text.takeWhile_append_of_ends inside ends, Text.dropWhile_append_of_ends inside ends,
    Text.dropWhile_append_of_ends blank' closes]
  rfl

/-- What is found at the start of a text is a placeholder. -/
theorem exists_written_of_placeholder?
    (found : placeholder? text = some (path, behind)) :
    ∃ written, IsPlaceholder written path ∧ text = written ++ behind := by
  unfold placeholder? at found
  split at found
  next rest =>
    dsimp only [placeholderBody?] at found
    split at found
    next first more last taken left =>
      cases found
      let text := rest.dropWhile Text.isBlank
      have front : rest.takeWhile Text.isBlank ++ text = rest := List.takeWhile_append_dropWhile
      have inside : text.takeWhile isPathChar ++ text.dropWhile isPathChar = text :=
        List.takeWhile_append_dropWhile
      have back : (text.dropWhile isPathChar).takeWhile Text.isBlank ++ '\x7d' :: behind =
          text.dropWhile isPathChar := by
        rw [← left]
        exact List.takeWhile_append_dropWhile
      refine ⟨'$' :: '\x7b' :: (rest.takeWhile Text.isBlank ++ (text.takeWhile isPathChar ++
        ((text.dropWhile isPathChar).takeWhile Text.isBlank ++ ['\x7d']))),
        .intro (fun _ => List.mem_takeWhile_imp) (by simp [text, taken])
          (fun _ member => isPathChar_iff.mp (List.mem_takeWhile_imp member))
          (fun _ => List.mem_takeWhile_imp), ?_⟩
      calc
        '$' :: '\x7b' :: rest =
            '$' :: '\x7b' :: (rest.takeWhile Text.isBlank ++ (text.takeWhile isPathChar ++
              ((text.dropWhile isPathChar).takeWhile Text.isBlank ++ '\x7d' :: behind))) := by
          rw [back, inside, front]
        _ = _ := by simp
    next => cases found
  next => cases found

theorem IsPlaceholder.ne_nil (here : IsPlaceholder written path) : written ≠ [] := by
  cases here
  exact List.cons_ne_nil _ _

/-- At one place there is at most one placeholder. -/
theorem IsPlaceholder.unique
    {written' path' rest' : List Char}
    (here : IsPlaceholder written path)
    (here' : IsPlaceholder written' path')
    (same : written ++ rest = written' ++ rest') :
    written = written' ∧ path = path' ∧ rest = rest' := by
  have found := placeholder?_append here rest
  rw [same, placeholder?_append here' rest'] at found
  obtain ⟨rfl, rfl⟩ := Prod.mk.inj (Option.some.inj found)
  exact ⟨List.append_cancel_right same, rfl, rfl⟩

/-- Where none is found, no placeholder begins. -/
theorem not_prefix_of_placeholder?
    (missing : placeholder? text = none)
    (here : IsPlaceholder written path) :
    ¬written <+: text := by
  rintro ⟨rest, rfl⟩
  cases missing.symm.trans (placeholder?_append here rest)

theorem placeholder?_eq_none
    (none : ∀ written path, IsPlaceholder written path → ¬written <+: text) :
    placeholder? text = .none := by
  rw [Option.eq_none_iff_forall_ne_some]
  rintro ⟨path, behind⟩ found
  obtain ⟨written, here, rfl⟩ := exists_written_of_placeholder? found
  exact none written path here (List.prefix_append _ _)

end

/-! ## Divisions -/

section

variable {text : List Char} {pieces others : List Piece} {context : Context}

theorem exists_divides (text : List Char) : ∃ pieces, Divides text pieces := by
  -- A placeholder is not empty, so what follows it is shorter.
  induction length : text.length using Nat.strong_induction_on generalizing text with
  | _ bound inductionHypothesis =>
    cases text with
    | nil => exact ⟨[], .nil⟩
    | cons char rest =>
      cases found : placeholder? (char :: rest) with
      | none =>
        obtain ⟨pieces, others⟩ := inductionHypothesis rest.length (by simp [← length]) rest rfl
        exact ⟨_, .kept (fun _ _ => not_prefix_of_placeholder? found) others⟩
      | some place =>
        obtain ⟨path, behind⟩ := place
        obtain ⟨written, here, same⟩ := exists_written_of_placeholder? found
        have shorter : behind.length < bound := by
          rw [← length, same, List.length_append]
          have := List.length_pos_iff.mpr here.ne_nil
          omega
        obtain ⟨pieces, others⟩ := inductionHypothesis behind.length shorter behind rfl
        rw [same]
        exact ⟨_, .placeholder here others⟩

theorem Divides.unique (divides : Divides text pieces) (divides' : Divides text others) :
    pieces = others := by
  induction divides generalizing others with
  | nil =>
    generalize same : [] = text at divides'
    cases divides' with
    | nil => rfl
    | kept => cases same
    | placeholder here => exact (here.ne_nil (List.append_eq_nil_iff.mp same.symm).1).elim
  | @kept char rest pieces none _ inductionHypothesis =>
    generalize same : char :: rest = text at divides'
    cases divides' with
    | nil => cases same
    | kept _ others =>
      cases same
      rw [inductionHypothesis others]
    | placeholder here => exact (none _ _ here (same ▸ List.prefix_append _ _)).elim
  | @placeholder written path rest pieces here _ inductionHypothesis =>
    generalize same : written ++ rest = text at divides'
    cases divides' with
    | nil => exact (here.ne_nil (List.append_eq_nil_iff.mp same).1).elim
    | kept none => exact (none _ _ here (same ▸ List.prefix_append _ _)).elim
    | placeholder here' others =>
      obtain ⟨rfl, rfl, rfl⟩ := here.unique here' same
      rw [inductionHypothesis others]

/-- A division leaves nothing out. -/
theorem Divides.flatMap_written (divides : Divides text pieces) :
    pieces.flatMap Piece.written = text := by
  induction divides with
  | nil => rfl
  | kept _ _ inductionHypothesis =>
    rw [List.flatMap_cons, inductionHypothesis]
    rfl
  | placeholder _ _ inductionHypothesis =>
    rw [List.flatMap_cons, inductionHypothesis]
    rfl

/-! ## Values -/

theorem value?_eq_found? (context : Context) (path : List Char) :
    value? context (String.ofList path) = found? context path := by
  unfold value? found?
  simp only [List.findSome?_cons, List.findSome?_nil]
  cases Object.lookup (String.ofList path) context.executionData with
  | some value => rfl
  | none =>
    cases Object.lookup (String.ofList path) context.variables with
    | some value => rfl
    | none => cases Object.lookup (String.ofList path) context.inputData <;> rfl

/-- A placeholder at the start of a text is interpolated by itself. -/
theorem interpolateChars_append
    {written path : List Char}
    (here : IsPlaceholder written path)
    (context : Context)
    (fuel : Nat)
    (rest : List Char) :
    interpolateChars context (fuel + 1) (written ++ rest) =
      (Piece.placeholder written path).interpolated context ++
        interpolateChars context fuel rest := by
  have found := placeholder?_append here rest
  obtain ⟨char, more, rfl⟩ := List.exists_cons_of_ne_nil here.ne_nil
  have taken : (char :: (more ++ rest)).take ((more ++ rest).length + 1 - rest.length) =
      char :: more := by
    have size : (more ++ rest).length + 1 - rest.length = (char :: more).length := by
      simp only [List.length_append, List.length_cons]
      omega
    rw [size, ← List.cons_append, List.take_left]
  rw [List.cons_append] at found ⊢
  rw [interpolateChars, found]
  dsimp only
  rw [taken, value?_eq_found?, Piece.interpolated]
  cases found? context path with
  | none => rfl
  | some value => cases value <;> rfl

/-- Every piece of a division is interpolated by itself. -/
theorem Divides.interpolateChars_eq
    (divides : Divides text pieces)
    (context : Context)
    {fuel : Nat}
    (enough : text.length ≤ fuel) :
    interpolateChars context fuel text = pieces.flatMap (Piece.interpolated context) := by
  induction divides generalizing fuel with
  | nil => cases fuel <;> rfl
  | kept none _ inductionHypothesis =>
    obtain ⟨fuel, rfl⟩ := Nat.exists_eq_succ_of_ne_zero (Nat.ne_zero_of_lt enough)
    rw [interpolateChars, placeholder?_eq_none none, List.flatMap_cons,
      ← inductionHypothesis (Nat.le_of_succ_le_succ enough)]
    rfl
  | @placeholder written path rest pieces here _ inductionHypothesis =>
    have some : 0 < written.length := List.length_pos_iff.mpr here.ne_nil
    rw [List.length_append] at enough
    obtain ⟨fuel, rfl⟩ := Nat.exists_eq_succ_of_ne_zero (show fuel ≠ 0 by omega)
    rw [interpolateChars_append here, List.flatMap_cons, inductionHypothesis (by omega)]

theorem Piece.interpolated_eq_written {piece : Piece} (unresolved : ¬piece.Resolves context) :
    piece.interpolated context = piece.written := by
  cases piece with
  | kept char => rfl
  | placeholder written path =>
    have missing : found? context path = none :=
      Option.eq_none_iff_forall_ne_some.mpr fun value found => unresolved ⟨value, found⟩
    rw [interpolated, missing]
    rfl

/-- A template divides in one way, whatever the context, and its pieces are interpolated one
by one.  If no placeholder has a value, the template stays as it is. -/
theorem interpolate_pieces (template : String) :
    ∃ pieces, Divides template.toList pieces ∧
      (∀ others, Divides template.toList others → others = pieces) ∧
      ∀ context,
        interpolate template context =
          String.ofList (pieces.flatMap (Piece.interpolated context)) ∧
        ((∀ piece ∈ pieces, ¬piece.Resolves context) →
          interpolate template context = template) := by
  obtain ⟨pieces, divides⟩ := exists_divides template.toList
  refine ⟨pieces, divides, fun others divides' => divides'.unique divides, fun context => ?_⟩
  have interpolated : interpolate template context =
      String.ofList (pieces.flatMap (Piece.interpolated context)) :=
    congrArg String.ofList (divides.interpolateChars_eq context le_rfl)
  refine ⟨interpolated, fun unresolved => ?_⟩
  have kept : pieces.flatMap (Piece.interpolated context) = pieces.flatMap Piece.written :=
    List.flatMap_congr fun piece member =>
      Piece.interpolated_eq_written (unresolved piece member)
  rw [interpolated, kept, divides.flatMap_written, String.ofList_toList]

end

-- A value with a placeholder in it is inserted as it is, and a path may hold the opening of
-- a placeholder.
example :
    interpolate "$\x7ba\x7d $\x7b b \x7d $\x7ba$\x7bb\x7d $\x7b"
        (Context.create "e1" "wf" [("a", .text "$\x7bb\x7d"), ("b", .array [.null])] [] {} ⟨0⟩) =
      "$\x7bb\x7d [null] $\x7ba$\x7bb\x7d $\x7b" := by
  cbv

end Template
end WorkflowEngine
