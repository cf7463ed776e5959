import Mathlib.Data.List.TakeWhile
import Stencil.Proofs.BaseVariable

set_option autoImplicit false

/-!
What the fields of a path are. A path that reads fields alone is its variable and then its fields, with
nothing behind them (`spells_of_fieldsOnly`); the fields of any other path are cut off before the first
part that is empty, in brackets or a number.
-/

namespace Stencil.Extraction

/-- True for what separates the parts of a path. -/
def endsPart (c : Char) : Bool := c == '.' || c == '/'

/-- A path without the marks in front of its variable. -/
def unmarked (raw : String) : List Char :=
  dropThis (Text.dropAll "./".toList (Text.dropAll "../".toList (Text.trim raw.toList)))

/-- The parts of a path, from its variable on. -/
def pathParts (raw : String) : List (List Char) := splitWhere endsPart [] (unmarked raw)

/-- A path is the name of a variable and fields behind it, and does not go on behind them. -/
def Spells (name : String) (path : List String) (raw : String) : Prop :=
  (pathParts raw).map String.ofList = name :: path

/-- No part of a path is empty or in brackets, and behind the first none is a number. -/
def FieldsOnly (raw : String) : Prop :=
  ∃ base segments, pathParts raw = base :: segments ∧ base ≠ [] ∧ '[' ∉ base ∧
    ∀ segment ∈ segments, endsFields segment = false

theorem fieldPath_eq (raw : String) : fieldPath raw =
    match pathParts raw with
    | [] => []
    | base :: segments =>
      if base.contains '[' then []
      else (segments.takeWhile fun segment => !endsFields segment).map String.ofList := rfl

theorem head?_splitWhere (test : Char → Bool) (part text : List Char) :
    (splitWhere test part text).head? = some (part.reverse ++ text.takeWhile fun c => !test c) := by
  induction text generalizing part with
  | nil => simp [splitWhere]
  | cons c text ih =>
    by_cases stops : test c = true
    · simp [splitWhere, stops]
    · simp [splitWhere, stops, ih]

/-! ### Marks in front -/

/-- Dropping relative steps of one kind first changes nothing when they are dropped in any order. -/
theorem dropRelative_dropRepeated {mark : List Char}
    (relative : mark = "../".toList ∨ mark = "./".toList) (count fuel : Nat) (text : List Char)
    (enough : text.length ≤ fuel) : ∃ left, (Text.dropRepeated mark count text).length ≤ left ∧
      dropRelative fuel text = dropRelative left (Text.dropRepeated mark count text) := by
  induction count generalizing fuel text with
  | zero => exact ⟨fuel, enough, rfl⟩
  | succ count ih =>
    cases found : Text.after? mark text with
    | none => exact ⟨fuel, by simpa [Text.dropRepeated, found] using enough,
        by simp [Text.dropRepeated, found]⟩
    | some rest =>
      have split : text = mark ++ rest := Text.after?_eq_some_iff.mp found
      have first : (Text.after? "../".toList text).or (Text.after? "./".toList text) = some rest := by
        rw [split]
        rcases relative with rfl | rfl <;> simp [Text.after?]
      have positive : 0 < mark.length := by rcases relative with rfl | rfl <;> decide
      rw [split, List.length_append] at enough
      obtain ⟨fuel, rfl⟩ := Nat.exists_eq_add_of_lt (show 0 < fuel by omega)
      obtain ⟨left, bounded, same⟩ := ih (0 + fuel) rest (by omega)
      refine ⟨left, by simpa [Text.dropRepeated, found] using bounded, ?_⟩
      rw [Text.dropRepeated, found, ← same, dropRelative, first, Nat.zero_add]

/-- The marks are the same for the variable and for the fields where a part follows them. -/
theorem dropThis_dropRelative {raw : String} {c : Char} {text : List Char}
    (begins : unmarked raw = c :: text) (part : endsPart c = false) :
    dropThis (dropRelative (Text.trim raw.toList).length (Text.trim raw.toList)) = c :: text := by
  obtain ⟨fuel, bounded, same⟩ := dropRelative_dropRepeated (.inl rfl) (Text.trim raw.toList).length
    _ (Text.trim raw.toList) (Nat.le_refl _)
  obtain ⟨left, _, again⟩ := dropRelative_dropRepeated (.inr rfl)
    (Text.dropAll "../".toList (Text.trim raw.toList)).length _ _ bounded
  rw [same, again, ← begins]
  show dropThis (dropRelative left (Text.dropAll "./".toList _)) = dropThis (Text.dropAll "./".toList _)
  have point : c ≠ '.' := by
    rintro rfl
    simp [endsPart] at part
  rw [unmarked] at begins
  generalize Text.dropAll "./".toList (Text.dropAll "../".toList (Text.trim raw.toList)) = rest at begins ⊢
  cases rest with
  | nil => simp [dropThis, Text.after?] at begins
  | cons d rest =>
    have other : d ≠ '.' := by
      rintro rfl
      rw [dropThis_of_head (by decide)] at begins
      cases begins
      exact point rfl
    rw [dropRelative_of_head other]

/-! ### Variable and fields -/

theorem isSegmentEnd_eq (c : Char) : isSegmentEnd c = (endsPart c || c == '[') := rfl

theorem takeWhile_segmentEnd {text : List Char}
    (unbracketed : '[' ∉ text.takeWhile fun c => !endsPart c) :
    text.takeWhile (fun c => !isSegmentEnd c) = text.takeWhile fun c => !endsPart c := by
  induction text with
  | nil => rfl
  | cons c text ih =>
    by_cases stops : endsPart c = true
    · have segment : isSegmentEnd c = true := by simp [isSegmentEnd_eq, stops]
      simp [stops, segment]
    · have bracket : c ≠ '[' := by
        rintro rfl
        simp [stops] at unbracketed
      have segment : isSegmentEnd c = false := by simp [isSegmentEnd_eq, stops, bracket]
      simp only [stops, Bool.not_false, List.takeWhile_cons_of_pos, List.mem_cons, not_or] at unbracketed
      simp [stops, segment, ih unbracketed.2]

/-- A path of fields alone is its variable and its fields. -/
theorem spells_of_fieldsOnly {name raw : String} (only : FieldsOnly raw)
    (base : baseVariable? raw = some name) : Spells name (fieldPath raw) raw := by
  obtain ⟨first, segments, parts, given, unbracketed, fields⟩ := only
  have whole : first = (unmarked raw).takeWhile fun c => !endsPart c := by
    have head := head?_splitWhere endsPart [] (unmarked raw)
    rw [← pathParts, parts] at head
    simpa using head
  have named : name = String.ofList first := by
    cases begins : unmarked raw with
    | nil =>
      rw [begins] at whole
      exact absurd whole given
    | cons c text =>
      have part : endsPart c = false := by
        refine Bool.eq_false_iff.mpr fun stops => given ?_
        rw [whole, begins]
        simp [stops]
      rw [baseVariable?] at base
      simp only [dropThis_dropRelative begins part, ← begins,
        takeWhile_segmentEnd (whole ▸ unbracketed), ← whole] at base
      split at base
      · cases base
      · split at base
        · cases base
        · exact (Option.some.inj base).symm
  have kept : (segments.takeWhile fun segment => !endsFields segment) = segments :=
    List.takeWhile_eq_self_iff.mpr fun segment member => by simp [fields segment member]
  have plain : first.contains '[' = false := by simpa using unbracketed
  rw [Spells, fieldPath_eq, parts]
  simp only [plain, Bool.false_eq_true, if_false, kept, List.map_cons, named]

end Stencil.Extraction
