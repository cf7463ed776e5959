import Stencil.Proofs.Filling

set_option autoImplicit false

/-!
Texts filled up to a width. What the loop is left with is the pad written over and over up to where the
next character does not fit (`Fills`): between two iterations the fill is a number of whole pads, and what
is missing and what is filled add up to what was missing at first (`Underway`).
-/

namespace Stencil.Padding

/-- The columns that the characters of a text fill, each for itself. -/
def total : List Char → Nat
  | [] => 0
  | c :: fill => width c + total fill

/-- True for a beginning of the pad written over and over. -/
def Repeats (pad fill : List Char) : Prop := ∃ rounds, fill <+: (List.replicate rounds pad).flatten

/-- The right fill for some missing columns: it does not exceed them, and no character more would fit,
unless the pad has no columns, which is then added once. -/
structure Fills (pad : List Char) (missing : Nat) (fill : List Char) : Prop where
  repeats : Repeats pad fill
  narrow : total fill ≤ missing
  maximal : total fill = missing ∨
    (∃ next, Repeats pad (fill ++ [next]) ∧ missing < total fill + width next) ∨
    Text.columns pad = 0 ∧ fill = pad

/-- What holds between two iterations. -/
structure Underway (pad : List Char) (missing : Nat) (progress : Progress) : Prop where
  whole : ∃ rounds, progress.fill.reverse = (List.replicate rounds pad).flatten ∧
    (Text.columns pad = 0 → rounds = 0)
  balanced : total progress.fill.reverse + progress.missing = missing
  fits : progress.fits = true

/-- What holds of the loop after any number of iterations. -/
def Filling.Sound (pad : List Char) (missing : Nat) : Filling → Prop
  | .going progress => Underway pad missing progress
  | .left fill => Fills pad missing fill

section

variable {pad fill : List Char} {missing : Nat}

@[simp] theorem total_nil : total [] = 0 := rfl

@[simp] theorem total_cons (c : Char) (fill : List Char) : total (c :: fill) = width c + total fill :=
  rfl

@[simp] theorem total_append (first second : List Char) :
    total (first ++ second) = total first + total second := by
  induction first with
  | nil => simp
  | cons c first ih => simp [ih, Nat.add_assoc]

theorem flatten_replicate_succ (rounds : Nat) (pad : List Char) :
    (List.replicate (rounds + 1) pad).flatten = (List.replicate rounds pad).flatten ++ pad := by
  simp [List.replicate_succ']

/-- A pass takes the pad up to the first character that does not fit. -/
theorem pass_takes (pad : List Char) (progress : Progress) : ∃ taken rest, pad = taken ++ rest ∧
    (pass pad progress).fill = taken.reverse ++ progress.fill ∧
    total taken + (pass pad progress).missing = progress.missing ∧
    ((pass pad progress).fits = progress.fits ∧ rest = [] ∨ (pass pad progress).fits = false ∧
      ∃ next after, rest = next :: after ∧ (pass pad progress).missing < width next) := by
  induction pad generalizing progress with
  | nil => exact ⟨[], [], rfl, rfl, by simp [pass], .inl ⟨rfl, rfl⟩⟩
  | cons c pad ih =>
    by_cases narrow : progress.missing < width c
    · refine ⟨[], c :: pad, rfl, ?_⟩
      simp only [pass, if_pos narrow]
      exact ⟨by simp, by simp, .inr ⟨trivial, c, pad, rfl, narrow⟩⟩
    · obtain ⟨taken, rest, split, fill, sum, ends⟩ :=
        ih { progress with fill := c :: progress.fill, missing := progress.missing - width c }
      refine ⟨c :: taken, rest, by rw [split, List.cons_append], ?_⟩
      simp only [pass, if_neg narrow]
      refine ⟨by simp [fill], ?_, ends⟩
      simp only at sum
      rw [total_cons]
      omega

theorem sound_start (pad : List Char) (missing : Nat) :
    (Filling.start pad missing).Sound pad missing := by
  unfold Filling.start
  split
  · rename_i empty
    cases List.isEmpty_iff.mp empty
    exact ⟨⟨0, List.nil_prefix⟩, by simp, .inr (.inr ⟨rfl, rfl⟩)⟩
  · exact ⟨⟨0, rfl, fun _ => rfl⟩, by simp, rfl⟩

/-- An iteration adds a whole pad, or leaves the loop with the right fill. -/
theorem sound_going {progress : Progress} (underway : Underway pad missing progress) :
    (iteration pad (.going progress)).Sound pad missing := by
  obtain ⟨⟨rounds, whole, once⟩, balanced, fits⟩ := underway
  simp only [iteration]
  by_cases full : progress.missing = 0
  · rw [if_pos full]
    exact ⟨⟨rounds, whole ▸ List.prefix_rfl⟩, by omega, .inl (by omega)⟩
  simp only [if_neg full]
  obtain ⟨taken, rest, split, fill, sum, ends⟩ := pass_takes pad progress
  have reversed : (pass pad progress).fill.reverse = (List.replicate rounds pad).flatten ++ taken := by
    rw [fill, List.reverse_append, List.reverse_reverse, whole]
  have added : total (pass pad progress).fill.reverse + (pass pad progress).missing = missing := by
    rw [reversed, ← whole, total_append]
    omega
  rcases ends with ⟨fitted, rfl⟩ | ⟨stuck, next, after, rfl, narrow⟩
  · rw [List.append_nil] at split
    subst split
    rw [← flatten_replicate_succ] at reversed
    by_cases none : Text.columns pad = 0
    · -- A pad without columns leaves the loop at once, so nothing was filled before.
      cases once none
      have same : (pass pad progress).fill.reverse = pad := by simpa using reversed
      simp only [none, beq_self_eq_true, Bool.or_true, if_true]
      exact ⟨⟨1, by simp [same]⟩, by omega, .inr (.inr ⟨none, same⟩)⟩
    · have goes : ¬ (!(pass pad progress).fits || Text.columns pad == 0) = true := by
        simp [fitted, fits, none]
      rw [if_neg goes]
      exact ⟨⟨rounds + 1, reversed, fun empty => absurd empty none⟩, added, fitted.trans fits⟩
  · simp only [stuck, Bool.not_false, Bool.true_or, if_true]
    have further : (pass pad progress).fill.reverse ++ [next] <+:
        (List.replicate (rounds + 1) pad).flatten := by
      rw [flatten_replicate_succ, reversed, split]
      simp
    refine ⟨⟨rounds + 1, (List.prefix_append _ _).trans further⟩, by omega, ?_⟩
    exact .inr (.inl ⟨next, ⟨rounds + 1, further⟩, by omega⟩)

theorem sound_iteration (state : Filling) (sound : state.Sound pad missing) :
    (iteration pad state).Sound pad missing := by
  cases state with
  | going progress => exact sound_going sound
  | left fill => exact sound

theorem sound_after (pad : List Char) (missing count : Nat) :
    (Filling.after pad missing count).Sound pad missing :=
  Function.Iterate.rec (Filling.Sound pad missing) (sound_start pad missing) sound_iteration count

/-- The loop is left with the right fill. -/
theorem fills_of_left {count : Nat} (left : Filling.after pad missing count = .left fill) :
    Fills pad missing fill := by
  have sound := sound_after pad missing count
  rwa [left] at sound

/-- Nothing is filled if nothing is missing, or with an empty pad. -/
theorem fill_eq_nil {count : Nat} (left : Filling.after pad missing count = .left fill)
    (nothing : missing = 0 ∨ pad = []) : fill = [] := by
  have filled := fill?_eq_some_iff.mpr ⟨count, left⟩
  rcases nothing with rfl | rfl
  · unfold fill? passes at filled
    split at filled
    · exact (Option.some.inj filled).symm
    · simpa using filled.symm
  · exact (Option.some.inj filled).symm

theorem mem_of_repeats (repeats : Repeats pad fill) {c : Char} (member : c ∈ fill) : c ∈ pad := by
  obtain ⟨rounds, beginning⟩ := repeats
  obtain ⟨line, inLines, inLine⟩ := List.mem_flatten.mp (beginning.subset member)
  rwa [List.eq_of_mem_replicate inLines] at inLine

theorem total_of_narrow (narrow : ∀ c ∈ fill, width c = 1) : total fill = fill.length := by
  induction fill with
  | nil => rfl
  | cons c fill ih =>
    have rest := ih fun other member => narrow other (.tail _ member)
    rw [total_cons, narrow c List.mem_cons_self, rest, List.length_cons, Nat.add_comm]

/-- Of a pad of characters with one column each, as many are taken as there are missing columns. -/
theorem length_of_narrow (given : pad ≠ []) (narrow : ∀ c ∈ pad, width c = 1)
    (fills : Fills pad missing fill) : fill.length = missing := by
  have counted := total_of_narrow fun c member => narrow c (mem_of_repeats fills.repeats member)
  have below := fills.narrow
  rcases fills.maximal with reached | ⟨next, repeats, wide⟩ | ⟨none, -⟩
  · omega
  · have single := narrow next (mem_of_repeats repeats (by simp))
    omega
  · have columns := Text.columns_pos_of_narrow given narrow
    omega

end

end Stencil.Padding

namespace Stencil.Texts

open Padding (Fills)

/-- What the loop of a call is left with is written before the text by `padStart`, and behind the text by
`padEnd`. It is the right fill for the missing columns: empty if none is missing or if the pad is, and of as
many characters as there are missing columns if each character of the pad has one. -/
theorem padded_text {call : Call} {text : String} {width count : Nat} {fill : List Char}
    (given : call.text 0 = .ok text) (wanted : call.natural 1 "width" = .ok width)
    (bounded : width ≤ maxOutput) (left : filling call text width count = .left fill) :
    padStart call = .ok (.string (String.ofList fill ++ text)) ∧
    padEnd call = .ok (.string (text ++ String.ofList fill)) ∧
    Fills (call.textOr 2 " ").toList (width - Text.columns text.toList) fill ∧
    (width ≤ Text.columns text.toList ∨ (call.textOr 2 " ").toList = [] → fill = []) ∧
    ((call.textOr 2 " ").toList ≠ [] → (∀ c ∈ (call.textOr 2 " ").toList, Padding.width c = 1) →
      fill.length = width - Text.columns text.toList) := by
  have padded : padding call = .ok (text, String.ofList fill) := by
    rw [padding_of_given given wanted bounded, Padding.fill?_eq_some_iff.mpr ⟨count, left⟩]
  have fills := Padding.fills_of_left left
  refine ⟨?_, ?_, fills, fun nothing => ?_, fun filled narrow => ?_⟩
  · rw [padStart, padded]
    rfl
  · rw [padEnd, padded]
    rfl
  · exact Padding.fill_eq_nil left (nothing.imp_left Nat.sub_eq_zero_of_le)
  · exact Padding.length_of_narrow filled narrow fills

/-- A call that has its text filled up to six columns with a wide character and a narrow one. -/
def widePadded : Call := ⟨"padEnd", [.string "x", .int 6, .string "日."], [], ⟨0, 0, 0⟩⟩

set_option maxRecDepth 4096 in
/-- The second wide character fits, and then nothing does. -/
theorem padded_text_widePadded :
    widePadded.text 0 = .ok "x" ∧ widePadded.natural 1 "width" = .ok 6 ∧ 6 ≤ maxOutput ∧
    filling widePadded "x" 6 3 = .left ['日', '.', '日'] ∧
    padEnd widePadded = .ok (.string ("x" ++ String.ofList ['日', '.', '日'])) ∧
    Fills ['日', '.'] 5 ['日', '.', '日'] := by
  have given : widePadded.text 0 = .ok "x" := rfl
  have wanted : widePadded.natural 1 "width" = .ok 6 := rfl
  have bounded : 6 ≤ maxOutput := by decide
  have left : filling widePadded "x" 6 3 = .left ['日', '.', '日'] := by decide +kernel
  obtain ⟨_, behind, fills, _⟩ := padded_text given wanted bounded left
  have pad : (widePadded.textOr 2 " ").toList = ['日', '.'] := by decide +kernel
  have missing : 6 - Text.columns "x".toList = 5 := by decide +kernel
  rw [pad, missing] at fills
  exact ⟨given, wanted, bounded, left, behind, fills⟩

end Stencil.Texts
