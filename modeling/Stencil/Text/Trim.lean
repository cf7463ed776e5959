import Stencil.Text.Class

set_option autoImplicit false

/-! Removing characters from the ends of a text. -/

namespace Stencil.Text

def trimStart (text : List Char) : List Char := text.dropWhile isBlank

/-- Drops the longest ending of characters that pass the test. -/
def dropEndWhile (test : Char → Bool) (text : List Char) : List Char :=
  (text.reverse.dropWhile test).reverse

def trimEnd (text : List Char) : List Char := dropEndWhile isBlank text

def trim (text : List Char) : List Char := trimEnd (trimStart text)

/-- What fails a test is not dropped with what passes it. -/
theorem mem_dropWhile {α : Type} {test : α → Bool} {a : α} {list : List α} (member : a ∈ list)
    (fails : test a = false) : a ∈ list.dropWhile test := by
  induction list with
  | nil => cases member
  | cons b list ih =>
    by_cases passes : test b = true
    · rw [List.dropWhile_cons_of_pos passes]
      rcases List.mem_cons.mp member with rfl | member
      · rw [fails] at passes
        cases passes
      · exact ih member
    · rwa [List.dropWhile_cons_of_neg passes]

theorem dropWhile_of_head {test : Char → Bool} {text : List Char}
    (front : ∀ c, text.head? = some c → test c = false) : text.dropWhile test = text := by
  cases text with
  | nil => rfl
  | cons c text => simp [front c rfl]

/-- Trimming stops at a character that is not blank. -/
theorem trim_of_solid {front text : List Char} {c : Char} (solid : isBlank c = false)
    (head : ∀ d, (front ++ [c]).head? = some d → isBlank d = false) :
    trim (front ++ c :: text) = front ++ c :: trimEnd text := by
  have start : trimStart (front ++ c :: text) = front ++ c :: text := by
    apply dropWhile_of_head
    intro d found
    apply head
    cases front with
    | nil => exact found
    | cons other front => exact found
  rw [trim, start, trimEnd, dropEndWhile, List.reverse_append, List.reverse_cons, List.append_assoc,
    List.dropWhile_append]
  split
  · rename_i blank
    have whole : trimEnd text = [] := by
      rw [trimEnd, dropEndWhile, List.isEmpty_iff.mp blank]
      rfl
    simp [solid, whole]
  · simp [trimEnd, dropEndWhile]

/-- The rest of a text after a beginning, if it has it. -/
def after? : List Char → List Char → Option (List Char)
  | [], text => some text
  | _ :: _, [] => none
  | c :: beginning, d :: text => if c = d then after? beginning text else none

theorem after?_eq_some_iff {beginning text rest : List Char} :
    after? beginning text = some rest ↔ text = beginning ++ rest := by
  induction beginning generalizing text with
  | nil => simp [after?, eq_comm]
  | cons c beginning ih =>
    cases text with
    | nil => simp [after?]
    | cons d text =>
      by_cases h : c = d
      · simp [after?, h, ih]
      · have differs : d ≠ c := fun same => h same.symm
        simp [after?, h, differs]

/-- Removes a beginning as often as it is there; `fuel` bounds the number of times. -/
def dropRepeated (beginning : List Char) : Nat → List Char → List Char
  | 0, text => text
  | fuel + 1, text =>
    match after? beginning text with
    | some rest => dropRepeated beginning fuel rest
    | none => text

def dropAll (beginning text : List Char) : List Char := dropRepeated beginning text.length text

end Stencil.Text
