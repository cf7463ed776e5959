import Mathlib.Data.List.Basic
import Stencil.Proofs.PartedTexts
import Stencil.Text.Case

set_option autoImplicit false

/-!
Runs of small letters and digits, of which names and slugs are put together. All of them are ASCII characters
that are no capitals (`forall_of_small`), so runs stay as they are when they are lowered (`map_lowerChars`).
-/

namespace Stencil.Text

/-- A small ASCII letter or a digit. -/
def isSmall (c : Char) : Bool := c.isLower || c.isDigit

/-- Texts of small letters and digits, none of which is empty. -/
def AreRuns (runs : List (List Char)) : Prop := ∀ run ∈ runs, run ≠ [] ∧ ∀ c ∈ run, isSmall c = true

section

variable {c : Char} {text : List Char} {items : List (List Char)}

theorem lower_bounds (lower : c.isLower = true) : 97 ≤ c.toNat ∧ c.toNat ≤ 122 := by
  have bounds : (decide ('a'.val ≤ c.val) && decide (c.val ≤ 'z'.val)) = true := lower
  simp only [Bool.and_eq_true, decide_eq_true_eq, UInt32.le_iff_toNat_le] at bounds
  exact bounds

theorem isAscii_of_small (small : isSmall c = true) : isAscii c = true := by
  rw [isSmall, Bool.or_eq_true] at small
  rw [isAscii, decide_eq_true_eq]
  rcases small with lower | digit
  · exact Nat.lt_of_le_of_lt (lower_bounds lower).2 (by decide)
  · exact Nat.lt_of_le_of_lt (digit_bounds digit).2 (by decide)

/-- What holds of all ASCII codes of small letters and digits holds of all small letters and digits. -/
theorem forall_of_small {p : Char → Prop}
    (codes : ∀ code < 128, isSmall (Char.ofNat code) = true → p (Char.ofNat code)) (small : isSmall c = true) :
    p c :=
  @forall_of_ascii (fun c => isSmall c = true → p c) codes c (isAscii_of_small small) small

theorem isPlainAlphanumeric_of_small (small : isSmall c = true) : isPlainAlphanumeric c = true :=
  @forall_of_small c (fun c => isPlainAlphanumeric c = true) (by decide +kernel) small

theorem toLower_of_small (small : isSmall c = true) : c.toLower = c :=
  @forall_of_small c (fun c => c.toLower = c) (by decide +kernel) small

theorem isAlphanumeric_of_ascii (ascii : isAscii c = true) : isAlphanumeric c = isPlainAlphanumeric c := by
  rw [isAlphanumeric, isLetter, isNumeric, classify_of_ascii _ _ ascii, classify_of_ascii _ _ ascii]
  rfl

theorem isAlphanumeric_of_small (small : isSmall c = true) : isAlphanumeric c = true :=
  (isAlphanumeric_of_ascii (isAscii_of_small small)).trans (isPlainAlphanumeric_of_small small)

theorem isUpper_of_small (small : isSmall c = true) : isUpper c = false := by
  rw [isUpper, classify_of_ascii _ _ (isAscii_of_small small)]
  exact @forall_of_small c (fun c => c.isUpper = false) (by decide +kernel) small

theorem lowerChars_of_ascii (ascii : ∀ c ∈ text, isAscii c = true) :
    lowerChars text = text.map Char.toLower := by
  have plain : ¬ text.contains 'Σ' = true := by
    rw [List.contains_iff_mem]
    intro member
    exact absurd (ascii 'Σ' member) (by decide)
  rw [lowerChars, if_neg plain, List.map_eq_flatMap]
  exact List.flatMap_congr fun c member => lowerChar_of_ascii (ascii c member)

theorem map_of_kept {α : Type} {f : α → α} {items : List α} (kept : ∀ item ∈ items, f item = item) :
    items.map f = items :=
  (List.map_congr_left kept).trans (List.map_id items)

/-- An ASCII text without capitals stays as it is when it is lowered. -/
theorem lowerChars_of_kept (kept : ∀ c ∈ text, isAscii c = true ∧ c.toLower = c) : lowerChars text = text := by
  rw [lowerChars_of_ascii fun c member => (kept c member).1]
  exact map_of_kept fun c member => (kept c member).2

theorem lowerChars_of_small (small : ∀ c ∈ text, isSmall c = true) : lowerChars text = text :=
  lowerChars_of_kept fun c member => ⟨isAscii_of_small (small c member), toLower_of_small (small c member)⟩

theorem map_lowerChars (runs : AreRuns items) : items.map lowerChars = items :=
  map_of_kept fun run listed => lowerChars_of_small (runs run listed).2

end

end Stencil.Text
