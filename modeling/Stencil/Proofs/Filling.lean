import Mathlib.Logic.Function.Iterate
import Stencil.Proofs.CatalogOutcomes
import Stencil.Proofs.PadColumns

set_option autoImplicit false

/-!
The loop that fills up a text, one iteration after the other. An iteration passes through the pad and
leaves the loop if a character did not fit, or if the pad as a whole has no columns. The columns of the
whole are not those of its characters: a control character counts in a text and has no width of its own.
So the loop is never left if the pad has no character with a width but a control character
(`padding_left_iff`).
-/

namespace Stencil.Padding

deriving instance DecidableEq for Progress

/-- The loop before an iteration, or left with a fill. -/
inductive Filling where
  | going (progress : Progress)
  | left (fill : List Char)
  deriving DecidableEq

/-- One iteration: a pass through the pad, unless no columns are missing. -/
def iteration (pad : List Char) : Filling → Filling
  | .left fill => .left fill
  | .going progress =>
    if progress.missing = 0 then .left progress.fill.reverse
    else
      let next := pass pad progress
      if !next.fits || Text.columns pad == 0 then .left next.fill.reverse else .going next

/-- The loop at its beginning; with an empty pad it is not entered. -/
def Filling.start (pad : List Char) (missing : Nat) : Filling :=
  if pad.isEmpty then .left [] else .going ⟨[], missing, true⟩

/-- The loop after some iterations. -/
def Filling.after (pad : List Char) (missing count : Nat) : Filling :=
  (iteration pad)^[count] (.start pad missing)

section

variable {pad fill : List Char}

theorem iteration_left (count : Nat) : (iteration pad)^[count] (.left fill) = .left fill :=
  Function.iterate_fixed rfl count

/-- A loop that is left stays left with the same fill. -/
theorem iterate_left_of_le {state : Filling} {count more : Nat} (le : count ≤ more)
    (left : (iteration pad)^[count] state = .left fill) : (iteration pad)^[more] state = .left fill := by
  obtain ⟨further, rfl⟩ := Nat.exists_eq_add_of_le' le
  rw [Function.iterate_add_apply, left, iteration_left]

theorem iterate_left_unique {state : Filling} {count more : Nat} {other : List Char}
    (left : (iteration pad)^[count] state = .left fill)
    (also : (iteration pad)^[more] state = .left other) : fill = other := by
  have early := iterate_left_of_le (Nat.le_max_left count more) left
  have late := iterate_left_of_le (Nat.le_max_right count more) also
  exact Filling.left.inj (early.symm.trans late)

/-- What the passes give, the loop is left with, and that after one iteration more than the fuel at most. -/
theorem left_of_passes {fuel : Nat} {progress : Progress} (filled : passes pad fuel progress = some fill) :
    (iteration pad)^[fuel + 1] (.going progress) = .left fill := by
  induction fuel generalizing progress with
  | zero =>
    by_cases full : progress.missing = 0
    · simpa [passes, iteration, full] using filled
    · simp [passes, full] at filled
  | succ fuel ih =>
    by_cases full : progress.missing = 0
    · have once : iteration pad (.going progress) = .left fill := by
        simpa [passes, iteration, full] using filled
      rw [Function.iterate_succ_apply, once, iteration_left]
    simp only [passes, if_neg full] at filled
    by_cases stops : (!(pass pad progress).fits || Text.columns pad == 0) = true
    · rw [if_pos stops] at filled
      have once : iteration pad (.going progress) = .left fill := by
        simp only [iteration, if_neg full, if_pos stops, Option.some.inj filled]
      rw [Function.iterate_succ_apply, once, iteration_left]
    · rw [if_neg stops] at filled
      split at filled
      · cases filled
      · have once : iteration pad (.going progress) = .going (pass pad progress) := by
          simp only [iteration, if_neg full, if_neg stops]
        rw [Function.iterate_succ_apply, once]
        exact ih filled

/-- With a weightless pad the loop goes on forever, if columns are missing. -/
theorem going_of_weightless (weightless : Weightless pad) {progress : Progress}
    (lacks : progress.missing ≠ 0) (fits : progress.fits = true) (count : Nat) :
    ∃ next, (iteration pad)^[count] (.going progress) = .going next := by
  induction count generalizing progress with
  | zero => exact ⟨progress, rfl⟩
  | succ count ih =>
    obtain ⟨same, stillFits⟩ := pass_of_zero weightless.1 progress
    have goes : ¬ (!(pass pad progress).fits || Text.columns pad == 0) = true := by
      simp [stillFits, fits, weightless.2]
    have once : iteration pad (.going progress) = .going (pass pad progress) := by
      simp only [iteration, if_neg lacks, if_neg goes]
    rw [Function.iterate_succ_apply, once]
    exact ih (same ▸ lacks) (stillFits.trans fits)

/-- The loop is left with the fill, if there is one, after at most one iteration for each missing column and
one more. -/
theorem after_of_fill {missing : Nat} (filled : fill? pad missing = some fill) :
    Filling.after pad missing (missing + 1) = .left fill := by
  unfold Filling.after Filling.start
  unfold fill? at filled
  by_cases empty : pad.isEmpty = true
  · rw [if_pos empty] at filled ⊢
    cases filled
    exact iteration_left _
  · rw [if_neg empty] at filled ⊢
    exact left_of_passes filled

theorem after_ne_left_of_endless {missing : Nat} (endless : fill? pad missing = none) (count : Nat) :
    Filling.after pad missing count ≠ .left fill := by
  obtain ⟨given, weightless, lacks⟩ := (fill?_eq_none_iff pad missing).mp endless
  have goes : ∃ next, (iteration pad)^[count] (.going ⟨[], missing, true⟩) = .going next :=
    going_of_weightless weightless lacks rfl count
  obtain ⟨next, same⟩ := goes
  have entered : ¬ pad.isEmpty = true := by simpa using given
  rw [Filling.after, Filling.start, if_neg entered, same]
  exact nofun

/-- The fill that is given is the one that the loop is left with. -/
theorem fill?_eq_some_iff {missing : Nat} :
    fill? pad missing = some fill ↔ ∃ count, Filling.after pad missing count = .left fill := by
  refine ⟨fun filled => ⟨missing + 1, after_of_fill filled⟩, ?_⟩
  rintro ⟨count, left⟩
  cases filled : fill? pad missing with
  | none => exact absurd left (after_ne_left_of_endless filled count)
  | some other => rw [iterate_left_unique left (after_of_fill filled)]

theorem weightless_iff (pad : List Char) : Weightless pad ↔
    (∀ c ∈ pad, width c = 0) ∧ ∃ c ∈ pad, Text.isControl c = true := by
  refine and_congr_right fun empty => ?_
  rw [ne_eq, Text.columns_eq_zero_iff empty]
  simp

/-- The loop is left just if nothing is missing, if some character of the pad has a width, or if none of
them is a control character. -/
theorem left_iff {missing : Nat} : (∃ count fill, Filling.after pad missing count = .left fill) ↔
    missing = 0 ∨ (∃ c ∈ pad, 0 < width c) ∨ ∀ c ∈ pad, Text.isControl c = false := by
  have given : (∃ count fill, Filling.after pad missing count = .left fill) ↔
      ¬ fill? pad missing = none := by
    rw [exists_comm]
    simp only [← fill?_eq_some_iff, ← ne_eq, Option.ne_none_iff_exists']
  rw [given, fill?_eq_none_iff, weightless_iff]
  have filled : (∃ c ∈ pad, Text.isControl c = true) → pad ≠ [] := by
    rintro ⟨c, member, -⟩ rfl
    cases member
  simp only [Nat.pos_iff_ne_zero, ← Bool.not_eq_true]
  grind

end

end Stencil.Padding

namespace Stencil.Texts

open Padding (Filling)

/-- The loop that fills up the text of a call, after some iterations. -/
def filling (call : Call) (text : String) (width count : Nat) : Filling :=
  .after (call.textOr 2 " ").toList (width - Text.columns text.toList) count

section

variable {call : Call} {text : String} {width : Nat}

theorem padding_of_given (given : call.text 0 = .ok text) (wanted : call.natural 1 "width" = .ok width)
    (bounded : width ≤ maxOutput) : padding call =
      match Padding.fill? (call.textOr 2 " ").toList (width - Text.columns text.toList) with
      | some fill => .ok (text, String.ofList fill)
      | none => .error .endless := by
  have unfolded : padding call = call.text 0 >>= fun text => call.natural 1 "width" >>= fun width =>
      padText call text width := rfl
  rw [unfolded, given, wanted]
  show padText call text width = _
  rw [padText, if_neg (Nat.not_lt.mpr bounded)]
  rfl

/-- The loop behind `padStart` and `padEnd` is left just if the text is wide enough, if some character of
the pad has a width, or if none of them is a control character. It is then left after one iteration for
each missing column and one more, at the latest, and the helpers have its fill; otherwise they never answer. -/
theorem padding_left_iff (given : call.text 0 = .ok text)
    (wanted : call.natural 1 "width" = .ok width) (bounded : width ≤ maxOutput) :
    ((∃ count fill, filling call text width count = .left fill) ↔
      width ≤ Text.columns text.toList ∨ (∃ c ∈ (call.textOr 2 " ").toList, 0 < Padding.width c) ∨
        ∀ c ∈ (call.textOr 2 " ").toList, Text.isControl c = false) ∧
    (∀ count fill, filling call text width count = .left fill →
      filling call text width (width - Text.columns text.toList + 1) = .left fill ∧
        padding call = .ok (text, String.ofList fill)) ∧
    ((∀ count fill, filling call text width count ≠ .left fill) ↔ padding call = .error .endless) := by
  rw [padding_of_given given wanted bounded]
  unfold filling
  generalize (call.textOr 2 " ").toList = pad
  refine ⟨?_, fun count fill left => ?_, ?_⟩
  · rw [Padding.left_iff, Nat.sub_eq_zero_iff_le]
  · have filled := Padding.fill?_eq_some_iff.mpr ⟨count, left⟩
    rw [filled]
    exact ⟨Padding.after_of_fill filled, rfl⟩
  · cases filled : Padding.fill? pad (width - Text.columns text.toList) with
    | none => exact iff_of_true (fun count fill => Padding.after_ne_left_of_endless filled count) rfl
    | some fill => exact iff_of_false (fun never => never _ fill (Padding.after_of_fill filled)) nofun

/-- A call that has three columns filled with a control character. -/
def controlPadded : Call := ⟨"padStart", [.string "x", .int 3, .string "\x01"], [], ⟨0, 0, 0⟩⟩

set_option maxRecDepth 4096 in
/-- A control character fills nothing, and is no way out of the loop. -/
theorem padding_left_iff_controlPadded :
    controlPadded.text 0 = .ok "x" ∧ controlPadded.natural 1 "width" = .ok 3 ∧ 3 ≤ maxOutput ∧
    (∀ count fill, filling controlPadded "x" 3 count ≠ .left fill) ∧
    padding controlPadded = .error .endless := by
  have given : controlPadded.text 0 = .ok "x" := rfl
  have wanted : controlPadded.natural 1 "width" = .ok 3 := rfl
  have bounded : 3 ≤ maxOutput := by decide
  obtain ⟨left, _, endless⟩ := padding_left_iff given wanted bounded
  have pad : (controlPadded.textOr 2 " ").toList = ['\x01'] := by decide +kernel
  have narrow : Text.columns "x".toList = 1 := by decide +kernel
  have weightless : Padding.width '\x01' = 0 ∧ Text.isControl '\x01' = true := by decide
  rw [pad, narrow] at left
  have never : ¬ (3 ≤ 1 ∨ (∃ c ∈ ['\x01'], 0 < Padding.width c) ∨
      ∀ c ∈ ['\x01'], Text.isControl c = false) := by simp [weightless]
  have goes : ∀ count fill, filling controlPadded "x" 3 count ≠ .left fill :=
    fun count fill same => never (left.mp ⟨count, fill, same⟩)
  exact ⟨given, wanted, bounded, goes, endless.mp goes⟩

end

end Stencil.Texts
