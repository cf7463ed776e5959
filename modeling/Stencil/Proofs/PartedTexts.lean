import Stencil.Text.Search

set_option autoImplicit false

/-!
Parts of a text. The parts between the leftmost occurrences of a separator, with the separator put between
them again, are the text, however occurrences overlap (`intercalate_splitFrom`). Parts in which the first
character of the separator does not occur come back from their joined text, since no occurrence can begin
inside of a part (`splitOn_intercalate`); and if they share no character with the separator, they are what is
left of it without the separators (`without_intercalate`).
-/

namespace Stencil

namespace Text

section

variable {c : Char} {others : List Char}

/-- A separator that occurs is passed as a whole. -/
theorem drop_of_occurs {text : List Char} (occurs : (c :: others).isPrefixOf text = true) :
    text = c :: others ++ text.drop (others.length + 1) := by
  obtain ⟨rest, split⟩ := List.isPrefixOf_iff_prefix.mp occurs
  rw [← split, List.drop_left' (List.length_cons)]

theorem splitFrom_ne_nil (separator : List Char) (skip : Nat) (part text : List Char) :
    splitFrom separator skip part text ≠ [] := by
  induction skip, part, text using splitFrom.induct separator with
  | case1 skip part => simp [splitFrom]
  | case2 skip part c text ih => exact ih
  | case3 part c text occurs ih => simp [splitFrom, occurs]
  | case4 part c text apart ih => rwa [splitFrom, if_neg apart]

/-- The parts with the separator between them are the text, but for what is still to pass of the last
occurrence. -/
theorem intercalate_splitFrom (skip : Nat) (part text : List Char) :
    (c :: others).intercalate (splitFrom (c :: others) skip part text) = part.reverse ++ text.drop skip := by
  induction skip, part, text using splitFrom.induct (c :: others) with
  | case1 skip part => simp [splitFrom]
  | case2 skip part d text ih => exact ih
  | case3 part d text occurs ih =>
    have whole := drop_of_occurs occurs
    rw [splitFrom, if_pos occurs, List.intercalate_cons_of_ne_nil (splitFrom_ne_nil _ _ _ _), ih,
      List.append_assoc, List.drop_zero]
    exact congrArg (part.reverse ++ ·) whole.symm
  | case4 part d text apart ih =>
    rw [splitFrom, if_neg apart, ih]
    simp

theorem intercalate_splitOn (text : List Char) :
    (c :: others).intercalate (splitOn (c :: others) text) = text :=
  intercalate_splitFrom 0 [] text

/-- No occurrence begins in a text without the first character of the separator. -/
theorem splitFrom_free {item : List Char} (free : c ∉ item) (part rest : List Char) :
    splitFrom (c :: others) 0 part (item ++ rest) = splitFrom (c :: others) 0 (item.reverse ++ part) rest := by
  induction item generalizing part with
  | nil => rfl
  | cons d item ih =>
    obtain ⟨differs, free⟩ : c ≠ d ∧ c ∉ item := by simpa using free
    have apart : ¬ (c :: others).isPrefixOf (d :: (item ++ rest)) = true := by
      simp [List.isPrefixOf, differs]
    rw [List.cons_append, splitFrom, if_neg apart, ih free]
    simp

theorem splitOn_free {text : List Char} (free : c ∉ text) : splitOn (c :: others) text = [text] := by
  rw [splitOn, ← List.append_nil text, splitFrom_free free]
  simp [splitFrom]

theorem splitFrom_skip (separator : List Char) (skip : Nat) (part text : List Char) :
    splitFrom separator skip part text = splitFrom separator 0 part (text.drop skip) := by
  induction skip, part, text using splitFrom.induct separator with
  | case1 skip part => simp [splitFrom]
  | case2 skip part d text ih => exact ih
  | case3 part d text occurs ih => rfl
  | case4 part d text apart ih => rfl

/-- An occurrence of the separator ends a part. -/
theorem splitFrom_occurs (part rest : List Char) :
    splitFrom (c :: others) 0 part (c :: others ++ rest) =
      part.reverse :: splitFrom (c :: others) 0 [] rest := by
  have occurs : (c :: others).isPrefixOf (c :: (others ++ rest)) = true :=
    List.isPrefixOf_iff_prefix.mpr (List.prefix_append (c :: others) rest)
  rw [List.cons_append, splitFrom, if_pos occurs, splitFrom_skip]
  exact congrArg (fun text => part.reverse :: splitFrom (c :: others) 0 [] text) (List.drop_left' rfl)

/-- Parts without the first character of the separator are the parts of their joined text. -/
theorem splitOn_intercalate {items : List (List Char)} (some : items ≠ []) (free : ∀ item ∈ items, c ∉ item) :
    splitOn (c :: others) ((c :: others).intercalate items) = items := by
  induction items with
  | nil => exact absurd rfl some
  | cons item items ih =>
    obtain ⟨first, later⟩ := List.forall_mem_cons.mp free
    cases items with
    | nil => rw [List.intercalate_singleton, splitOn_free first]
    | cons next items =>
      rw [List.intercalate_cons_cons, List.append_assoc, splitOn, splitFrom_free first, splitFrom_occurs,
        List.append_nil, List.reverse_reverse]
      exact congrArg (item :: ·) (ih (List.cons_ne_nil _ _) later)

/-- The parts between separators are left, and what stands around them. -/
theorem flatten_splitFrom_intercalate {items : List (List Char)} (some : items ≠ [])
    (free : ∀ item ∈ items, c ∉ item) {behind : List Char} (after : c ∉ behind) (part : List Char) :
    (splitFrom (c :: others) 0 part ((c :: others).intercalate items ++ behind)).flatten =
      part.reverse ++ items.flatten ++ behind := by
  induction items generalizing part with
  | nil => exact absurd rfl some
  | cons item items ih =>
    obtain ⟨first, later⟩ := List.forall_mem_cons.mp free
    cases items with
    | nil =>
      have both : c ∉ item ++ behind := by
        rw [List.mem_append]
        exact not_or.mpr ⟨first, after⟩
      rw [List.intercalate_singleton, ← List.append_nil (item ++ behind), splitFrom_free both]
      simp [splitFrom]
    | cons next items =>
      rw [List.intercalate_cons_cons, List.append_assoc, List.append_assoc, splitFrom_free first,
        splitFrom_occurs, List.flatten_cons, ih (List.cons_ne_nil _ _) later]
      simp

end

/-! ### Texts without another one -/

/-- A text without the occurrences of another one; the empty text occurs nowhere. -/
def without (other text : List Char) : List Char :=
  if other.isEmpty then text else replace other [] text

theorem nil_intercalate {α : Type} (items : List (List α)) : [].intercalate items = items.flatten := by
  induction items with
  | nil => rfl
  | cons item items ih =>
    cases items with
    | nil => simp
    | cons next items =>
      rw [List.intercalate_cons_cons, ih, List.append_nil]
      exact List.flatten_cons.symm

/-- Without the separator, the parts are left that share no character with it, and what stands around
them. -/
theorem without_intercalate {separator before behind : List Char} {items : List (List Char)}
    (some : items ≠ []) (apart : ∀ c ∈ separator, c ∉ before ∧ (∀ item ∈ items, c ∉ item) ∧ c ∉ behind) :
    without separator (before ++ separator.intercalate items ++ behind) =
      before ++ items.flatten ++ behind := by
  cases separator with
  | nil => rw [nil_intercalate, without, List.isEmpty_nil, if_pos rfl]
  | cons c others =>
    obtain ⟨first, free, after⟩ := apart c List.mem_cons_self
    rw [without, List.isEmpty_cons, if_neg Bool.false_ne_true, replace, nil_intercalate, splitOn,
      List.append_assoc, splitFrom_free first, List.append_nil,
      flatten_splitFrom_intercalate some free after, List.reverse_reverse]

end Text

end Stencil
