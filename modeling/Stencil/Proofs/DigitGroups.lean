import Mathlib.Data.List.TakeDrop
import Stencil.Proofs.SplitTexts
import Stencil.Proofs.WholeNumbers

set_option autoImplicit false

/-!
Numbers with a separator between the thousands. The digits before the point are put in groups of three from
the end (`InThousands`), and the sign is left off where no digit shows that the number is not zero
(`thousands_grouped`). Each digit of the rendering stays, so that without the separators it comes back.
-/

namespace Stencil

namespace Number.Binary64

/-- A rendering with some places: digits, and behind a point as many digits as there are places, if any. -/
structure IsFixed (places : Nat) (whole fraction : List Char) : Prop where
  some : whole ≠ []
  digits : ∀ c ∈ whole, c.isDigit = true
  behind : (places = 0 ∧ fraction = []) ∨
    (0 < places ∧ ∃ decimals, fraction = '.' :: decimals ∧ decimals.length = places ∧
      ∀ c ∈ decimals, c.isDigit = true)

/-- The digits of a rendering with some places, filled with zeros so that one stands before the point. -/
def fixedDigits (units places : Nat) : List Char :=
  let digits := Nat.toDigits 10 (roundDiv (units * Nat.pow 10 places) unit)
  List.replicate (places + 1 - digits.length) '0' ++ digits

theorem length_fixedDigits (units places : Nat) : places + 1 ≤ (fixedDigits units places).length := by
  simp only [fixedDigits, List.length_append, List.length_replicate]
  omega

theorem isDigit_of_mem_fixedDigits {units places : Nat} {c : Char} (member : c ∈ fixedDigits units places) :
    c.isDigit = true := by
  rcases List.mem_append.mp member with zero | digit
  · rw [List.eq_of_mem_replicate zero]
    rfl
  · exact Nat.isDigit_of_mem_toDigits (by decide) (by decide) digit

theorem toList_fixedMagnitude (units places : Nat) : (fixedMagnitude units places).toList =
    (fixedDigits units places).take ((fixedDigits units places).length - places) ++
      if places = 0 then []
      else '.' :: (fixedDigits units places).drop ((fixedDigits units places).length - places) := by
  unfold fixedMagnitude
  by_cases none : places = 0
  · simp only [if_pos none, List.append_nil, String.toList_ofList]
    rfl
  · simp only [if_neg none, String.toList_append, String.toList_ofList, List.append_assoc]
    rfl

theorem isFixed_fixedMagnitude (units places : Nat) : ∃ whole fraction,
    (fixedMagnitude units places).toList = whole ++ fraction ∧ IsFixed places whole fraction := by
  have long := length_fixedDigits units places
  refine ⟨_, _, toList_fixedMagnitude units places, ?_, ?_, ?_⟩
  · rw [← List.length_pos_iff, List.length_take]
    omega
  · intro c member
    exact isDigit_of_mem_fixedDigits (List.mem_of_mem_take member)
  · by_cases none : places = 0
    · exact .inl ⟨none, if_pos none⟩
    · refine .inr ⟨Nat.pos_of_ne_zero none, _, if_neg none, ?_, ?_⟩
      · rw [List.length_drop]
        omega
      · intro c member
        exact isDigit_of_mem_fixedDigits (List.mem_of_mem_drop member)

theorem isFixed_of_isFinite {value : Binary64} (finite : value.isFinite = true) (places : Nat) :
    ∃ whole fraction, (value.abs.fixed places).toList = whole ++ fraction ∧
      IsFixed places whole fraction := by
  cases value with
  | infinite negative => cases finite
  | nan => cases finite
  | finite negative units =>
    obtain ⟨whole, fraction, rendered, fixed⟩ := isFixed_fixedMagnitude units places
    exact ⟨whole, fraction, (congrArg String.toList String.empty_append).trans rendered, fixed⟩

end Number.Binary64

namespace Grouping

open Number (Binary64)
open Number.Binary64 (IsFixed)

/-- Groups of the digits of a number: the first has one to three of them, every other has three. -/
inductive InThousands : List Char → List (List Char) → Prop where
  | groups (first : List Char) (others : List (List Char)) (some : 1 ≤ first.length)
      (few : first.length ≤ 3) (three : ∀ group ∈ others, group.length = 3) :
      InThousands (first :: others).flatten (first :: others)

theorem groups_cons (separator : List Char) (c : Char) (digits : List Char) :
    groups separator (c :: digits) =
      c :: ((if digits.length % 3 = 0 ∧ digits ≠ [] then separator else []) ++ groups separator digits) := by
  rw [groups, List.cons_append]

/-- The first group has what is left over of the digits when all other groups have three. -/
theorem exists_groups (separator : List Char) {digits : List Char} (some : digits ≠ []) :
    ∃ first others, digits = first ++ others.flatten ∧ first.length = (digits.length - 1) % 3 + 1 ∧
      (∀ group ∈ others, group.length = 3) ∧
      groups separator digits = separator.intercalate (first :: others) := by
  induction digits with
  | nil => exact absurd rfl some
  | cons c digits ih =>
    by_cases last : digits = []
    · subst last
      exact ⟨[c], [], rfl, rfl, nofun, by simp [groups]⟩
    · obtain ⟨first, others, split, left, three, written⟩ := ih last
      have length := List.length_pos_iff.mpr last
      rw [groups_cons, written]
      -- The digit begins a group of its own just if the first group behind it is full.
      by_cases full : digits.length % 3 = 0
      · have third : first.length = 3 := by omega
        refine ⟨[c], first :: others, ?_, ?_, ?_, ?_⟩
        · rw [List.flatten_cons, ← split]
          rfl
        · simp only [List.length_cons, List.length_nil]
          omega
        · exact List.forall_mem_cons.mpr ⟨third, three⟩
        · rw [if_pos ⟨full, last⟩, List.intercalate_cons_cons]
          simp
      · refine ⟨c :: first, others, ?_, ?_, three, ?_⟩
        · rw [List.cons_append, ← split]
        · simp only [List.length_cons]
          omega
        · rw [if_neg (fun both => full both.1), List.nil_append]
          exact List.intercalate_cons_cons_left.symm

theorem inThousands_groups (separator : List Char) {digits : List Char} (some : digits ≠ []) :
    ∃ written, InThousands digits written ∧ groups separator digits = separator.intercalate written := by
  obtain ⟨first, others, split, left, three, written⟩ := exists_groups separator some
  refine ⟨first :: others, ?_, written⟩
  rw [split]
  exact .groups first others (by omega) (by omega) three

/-! ### The parts of a rendering -/

section

variable {places : Nat} {whole fraction : List Char}

theorem parts_of_isFixed (fixed : IsFixed places whole fraction) :
    parts (whole ++ fraction) = (whole, fraction) := by
  have digits : ∀ c ∈ whole, (c != '.') = true := by
    intro c member
    have digit := fixed.digits c member
    rw [bne_iff_ne]
    rintro rfl
    cases digit
  rw [parts, List.span_eq_takeWhile_dropWhile, List.takeWhile_append_of_pos digits,
    List.dropWhile_append_of_pos digits]
  rcases fixed.behind with ⟨-, rfl⟩ | ⟨-, decimals, rfl, -⟩
  · simp
  · simp

theorem showsDigit_iff (text : List Char) :
    showsDigit text = true ↔ ∃ c ∈ text, c.isDigit = true ∧ c ≠ '0' := by
  simp [showsDigit]

theorem grouped_of_isFixed {value : Binary64} (separator : String)
    (rendered : (value.abs.fixed places).toList = whole ++ fraction) (fixed : IsFixed places whole fraction) :
    ∃ sign, (sign = ['-'] ∨ sign = []) ∧
      (sign = ['-'] ↔ value.lt .zero = true ∧ ∃ c ∈ whole ++ fraction, c.isDigit = true ∧ c ≠ '0') ∧
      grouped value places separator =
        String.ofList (sign ++ groups separator.toList whole ++ fraction) := by
  rw [← showsDigit_iff, ← Bool.and_eq_true]
  simp only [grouped, rendered, parts_of_isFixed fixed]
  refine ⟨_, ite_eq_or_eq _ _ _, ?_, rfl⟩
  split <;> simp [*]

theorem InThousands.ne_nil {digits : List Char} {written : List (List Char)}
    (thousands : InThousands digits written) : written ≠ [] := by
  cases thousands
  exact List.cons_ne_nil _ _

theorem InThousands.flatten {digits : List Char} {written : List (List Char)}
    (thousands : InThousands digits written) : written.flatten = digits := by
  cases thousands
  rfl

/-- A character that is no digit, no point and no sign stands nowhere in a number that is written. -/
theorem not_mem_of_thousands {separator sign : List Char} {written : List (List Char)}
    (fixed : IsFixed places whole fraction) (thousands : InThousands whole written)
    (signed : sign = ['-'] ∨ sign = [])
    (apart : ∀ c ∈ separator, c.isDigit = false ∧ c ≠ '.' ∧ c ≠ '-') :
    ∀ c ∈ separator, c ∉ sign ∧ (∀ group ∈ written, c ∉ group) ∧ c ∉ fraction := by
  intro c separates
  obtain ⟨other, point, minus⟩ := apart c separates
  have nowhere : ∀ d, d.isDigit = true → c ≠ d := by
    rintro d digit rfl
    rw [other] at digit
    cases digit
  refine ⟨?_, fun group listed member => ?_, fun member => ?_⟩
  · rcases signed with rfl | rfl
    · simpa using minus
    · exact List.not_mem_nil
  · have inside := List.mem_flatten.mpr ⟨group, listed, member⟩
    rw [thousands.flatten] at inside
    exact nowhere c (fixed.digits c inside) rfl
  · rcases fixed.behind with ⟨-, rfl⟩ | ⟨-, decimals, rfl, -, digits⟩
    · cases member
    · rcases List.mem_cons.mp member with same | member
      · exact point same
      · exact nowhere c (digits c member) rfl

end

end Grouping

namespace Arithmetic

open Number (Binary64)
open Number.Binary64 (IsFixed)
open Grouping (InThousands)

/-- How many places a call asks for: from none to fifteen, and none if it does not say. -/
def placesOf (count : Option Int) : Nat := (min (max (count.getD 0) 0) 15).toNat

/-- What a call wants between the thousands. -/
def separatorOf (call : Call) : String := ((call.option? "separator").map Json.toText).getD ","

variable {call : Call} {value : Binary64} {count : Option Int}

theorem places_of_integer? {index : Nat} (wanted : call.integer? index = .ok count) :
    places call index = .ok (placesOf count) := by
  rw [places, wanted]
  rfl

theorem formatNumber_of_reads (given : call.number 0 = .ok value) (wanted : call.integer? 1 = .ok count) :
    formatNumber call = .ok (.string (Grouping.grouped value (placesOf count) (separatorOf call))) := by
  rw [formatNumber, given, places_of_integer? wanted]
  rfl

/-- A finite number is written as its magnitude with the wanted places, with a minus if it is negative and
some digit is not zero, and with the separator between groups of three digits before the point. A separator
without digits, points and signs can be taken out again. -/
theorem thousands_grouped (given : call.number 0 = .ok value) (finite : value.isFinite = true)
    (wanted : call.integer? 1 = .ok count) : ∃ sign whole fraction groups,
    (value.abs.fixed (placesOf count)).toList = whole ++ fraction ∧
    IsFixed (placesOf count) whole fraction ∧ InThousands whole groups ∧
    (sign = ['-'] ∨ sign = []) ∧
    (sign = ['-'] ↔ value.lt .zero = true ∧ ∃ c ∈ whole ++ fraction, c.isDigit = true ∧ c ≠ '0') ∧
    formatNumber call = .ok (.string (String.ofList
      (sign ++ (separatorOf call).toList.intercalate groups ++ fraction))) ∧
    ((∀ c ∈ (separatorOf call).toList, c.isDigit = false ∧ c ≠ '.' ∧ c ≠ '-') →
      (do Catalog.answer [] call.now "replace"
            [← formatNumber call, .string (separatorOf call), .string ""]) =
        .ok (.string (String.ofList (sign ++ whole ++ fraction)))) := by
  obtain ⟨whole, fraction, rendered, fixed⟩ := Binary64.isFixed_of_isFinite finite (placesOf count)
  obtain ⟨sign, signed, negative, written⟩ := Grouping.grouped_of_isFixed (separatorOf call) rendered fixed
  obtain ⟨groups, thousands, between⟩ := Grouping.inThousands_groups (separatorOf call).toList fixed.some
  have formatted := formatNumber_of_reads given wanted
  rw [written, between] at formatted
  refine ⟨sign, whole, fraction, groups, rendered, fixed, thousands, signed, negative, formatted, ?_⟩
  intro apart
  have free := Grouping.not_mem_of_thousands fixed thousands signed apart
  rw [formatted, Answer.ok_bind, Texts.answer_without, String.toList_ofList,
    Text.without_intercalate thousands.ne_nil free, thousands.flatten]

/-- A call for a negative number with one decimal and two characters between the thousands. -/
def spacedOut : Call :=
  ⟨"formatNumber", [.int (-1234567), .int 1], [("separator", .string ", ")], ⟨0, 0, 0⟩⟩

/-- The first group is a single digit, and the sign and the decimal come back with the digits. -/
theorem thousands_grouped_spacedOut :
    spacedOut.number 0 = .ok (Binary64.ofInt (-1234567)) ∧
    (Binary64.ofInt (-1234567)).isFinite = true ∧ spacedOut.integer? 1 = .ok (some 1) ∧
    (∀ c ∈ (separatorOf spacedOut).toList, c.isDigit = false ∧ c ≠ '.' ∧ c ≠ '-') ∧
    formatNumber spacedOut = .ok (.string "-1, 234, 567.0") ∧
    (do Catalog.answer [] spacedOut.now "replace"
          [← formatNumber spacedOut, .string (separatorOf spacedOut), .string ""]) =
      .ok (.string "-1234567.0") := by
  have given : spacedOut.number 0 = .ok (Binary64.ofInt (-1234567)) := Call.number_of_int rfl
  have finite : (Binary64.ofInt (-1234567)).isFinite = true := by decide +kernel
  have wanted : spacedOut.integer? 1 = .ok (some 1) := by
    have place : spacedOut.argument? 1 = some (.int 1) := rfl
    rw [Call.integer?_of_word place (by decide), Binary64.toInt64_ofInt_of_small (by decide)]
  have apart : ∀ c ∈ (separatorOf spacedOut).toList, c.isDigit = false ∧ c ≠ '.' ∧ c ≠ '-' := by
    have chars : (separatorOf spacedOut).toList = [',', ' '] := by decide +kernel
    rw [chars]
    simp
  have rendered : ((Binary64.ofInt (-1234567)).abs.fixed (placesOf (some 1))).toList =
      "1234567.0".toList := by decide +kernel
  have formatted : Grouping.grouped (Binary64.ofInt (-1234567)) (placesOf (some 1)) (separatorOf spacedOut) =
      "-1, 234, 567.0" := by decide +kernel
  obtain ⟨sign, whole, fraction, groups, parts, -, -, -, negative, -, removed⟩ :=
    thousands_grouped given finite wanted
  rw [rendered] at parts
  have minus : sign = ['-'] := by
    rw [negative, ← parts]
    exact ⟨by decide +kernel, '1', by decide +kernel, by decide, by decide⟩
  refine ⟨given, finite, wanted, apart, ?_, ?_⟩
  · rw [formatNumber_of_reads given wanted, formatted]
  · rw [removed apart, minus, List.append_assoc, ← parts]
    rfl

end Arithmetic

end Stencil
