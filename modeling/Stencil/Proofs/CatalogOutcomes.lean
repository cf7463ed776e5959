import Stencil.Proofs.CatalogInstallation
import Stencil.Proofs.HelperOutcomes
import Stencil.Proofs.ValueOrder

set_option autoImplicit false

/-!
How calls of the catalog end: with a value or with an error of the helper, but for two exceptions.
`clamp` takes a bound that is no number past its own check, and `padStart` and `padEnd` never come to an
end with a pad of which no character has a width, though the pad has one (`run_outcome`).
-/

namespace Stencil

open Number (Binary64)

/-! ### Fills that never end -/

namespace Padding

theorem missing_pass_le (pad : List Char) (progress : Progress) :
    (pass pad progress).missing ≤ progress.missing := by
  induction pad generalizing progress with
  | nil => exact Nat.le_refl _
  | cons c pad ih =>
    by_cases narrow : progress.missing < width c
    · simp [pass, narrow]
    · simp only [pass, if_neg narrow]
      exact Nat.le_trans (ih _) (Nat.sub_le _ _)

/-- A pass in which everything fits, and nothing gets wider, is one of characters without a width. -/
theorem width_of_pass {pad : List Char} {progress : Progress} (fits : (pass pad progress).fits = true)
    (stuck : (pass pad progress).missing = progress.missing) : ∀ c ∈ pad, width c = 0 := by
  induction pad generalizing progress with
  | nil => simp
  | cons c pad ih =>
    by_cases narrow : progress.missing < width c
    · simp [pass, narrow] at fits
    · simp only [pass, if_neg narrow] at fits stuck
      have less := missing_pass_le pad
        { progress with fill := c :: progress.fill, missing := progress.missing - width c }
      have none : width c = 0 := by
        simp only at less
        omega
      have rest := ih fits (by simpa [none] using stuck)
      simpa [none] using rest

/-- Characters without a width change nothing but the fill. -/
theorem pass_of_zero {pad : List Char} (empty : ∀ c ∈ pad, width c = 0) (progress : Progress) :
    (pass pad progress).missing = progress.missing ∧ (pass pad progress).fits = progress.fits := by
  induction pad generalizing progress with
  | nil => exact ⟨rfl, rfl⟩
  | cons c pad ih =>
    have none : width c = 0 := empty c List.mem_cons_self
    have rest := ih (fun other member => empty other (List.mem_cons_of_mem _ member))
      { progress with fill := c :: progress.fill, missing := progress.missing - width c }
    have wide : ¬ progress.missing < width c := by omega
    simp only [pass, if_neg wide]
    refine ⟨rest.1.trans ?_, rest.2⟩
    simp [none]

/-- True for a pad that has a width, though none of its characters has one. -/
def Weightless (pad : List Char) : Prop := (∀ c ∈ pad, width c = 0) ∧ Text.columns pad ≠ 0

/-- Filling never ends just if the pad is weightless and columns are missing. -/
theorem passes_eq_none_iff (pad : List Char) (fuel : Nat) (progress : Progress)
    (bounded : progress.missing ≤ fuel) (fits : progress.fits = true) :
    passes pad fuel progress = none ↔ Weightless pad ∧ progress.missing ≠ 0 := by
  induction fuel generalizing progress with
  | zero =>
    have full : progress.missing = 0 := by omega
    simp [passes, full]
  | succ fuel ih =>
    by_cases full : progress.missing = 0
    · simp [passes, full]
    simp only [passes, if_neg full]
    by_cases stops : (!(pass pad progress).fits || Text.columns pad == 0) = true
    · rw [if_pos stops]
      refine iff_of_false (by simp) fun both => ?_
      have unchanged := (pass_of_zero both.1.1 progress).2
      rw [unchanged, fits] at stops
      exact both.1.2 (by simpa using stops)
    rw [if_neg stops]
    obtain ⟨fitted, wide⟩ : (pass pad progress).fits = true ∧ Text.columns pad ≠ 0 := by
      simpa using stops
    have less := missing_pass_le pad progress
    by_cases stuck : (pass pad progress).missing = progress.missing
    · rw [if_pos stuck]
      exact iff_of_true rfl ⟨⟨width_of_pass fitted stuck, wide⟩, full⟩
    · rw [if_neg stuck, ih _ (by omega) fitted]
      have moves : ¬ Weightless pad := fun weightless =>
        stuck (pass_of_zero weightless.1 progress).1
      simp [moves]

theorem fill?_eq_none_iff (pad : List Char) (missing : Nat) :
    fill? pad missing = none ↔ pad ≠ [] ∧ Weightless pad ∧ missing ≠ 0 := by
  unfold fill?
  cases pad with
  | nil => simp
  | cons c pad =>
    have inside := passes_eq_none_iff (c :: pad) missing ⟨[], missing, true⟩ (Nat.le_refl _) rfl
    simpa using inside

/-- A control character counts in a text, but has no width. -/
example : fill? ['\x01'] 1 = none := by decide +kernel

end Padding

/-! ### The exceptions -/

/-- True for a call with three numbers, of which a bound is none at all. -/
def Call.HasNanBound (call : Call) : Prop :=
  ∃ value low high, call.number 0 = .ok value ∧ call.number 1 = .ok low ∧ call.number 2 = .ok high ∧
    (low = .nan ∨ high = .nan)

/-- True for a call to fill up a text that is narrower than the width, with a weightless pad. -/
def Call.FillsForever (call : Call) : Prop :=
  ∃ text width, call.text 0 = .ok text ∧ call.natural 1 "width" = .ok width ∧
    width ≤ Texts.maxOutput ∧ Text.columns text.toList < width ∧
    (call.textOr 2 " ").toList ≠ [] ∧ Padding.Weightless (call.textOr 2 " ").toList

section

variable {α β : Type}

/-- What comes after a settled answer fails just if it fails on its value. -/
theorem bind_eq_iff {answer : Answer α} (settled : Settled answer) (next : α → Answer β) {halt : Halt}
    (halts : halt = .unbounded ∨ halt = .endless) :
    (answer >>= next) = .error halt ↔ ∃ value, answer = .ok value ∧ next value = .error halt := by
  cases answer with
  | ok value =>
    constructor
    · exact fun failed => ⟨value, rfl, failed⟩
    · rintro ⟨_, same, failed⟩
      cases same
      exact failed
  | error other =>
    refine ⟨fun failed => ?_, nofun⟩
    have same : other = halt := Except.error.inj failed
    rcases halts with rfl | rfl
    · exact absurd (congrArg Except.error same) settled.1
    · exact absurd (congrArg Except.error same) settled.2

theorem map_eq_error_iff {answer : Answer α} (f : α → β) {halt : Halt} :
    answer.map f = .error halt ↔ answer = .error halt := by
  cases answer with
  | ok value => exact ⟨nofun, nofun⟩
  | error other =>
    constructor
    · exact fun failed => congrArg Except.error (Except.error.inj failed)
    · exact fun failed => congrArg Except.error (Except.error.inj failed)

end

theorem Number.Binary64.compare?_eq_none_iff (left right : Binary64) :
    Binary64.compare? left right = none ↔ left = .nan ∨ right = .nan := by
  cases left <;> cases right <;> simp [Binary64.compare?]

namespace Arithmetic

/-- What `clamp` does with its numbers. -/
def clampNumbers (call : Call) (value low high : Binary64) : Answer Json := do
  if low.gt high then
    call.refuse ("min " ++ low.text ++ " is greater than max " ++ high.text)
  else return .ofBinary (← heldNumber low high value)

theorem clampNumbers_eq_unbounded_iff (call : Call) (value low high : Binary64) :
    clampNumbers call value low high = .error .unbounded ↔ low = .nan ∨ high = .nan := by
  unfold clampNumbers heldNumber
  rw [← Binary64.compare?_eq_none_iff]
  cases order : Binary64.compare? low high with
  | none => simp [Binary64.gt, order, bind, Except.bind]
  | some ordering =>
    cases ordering with
    | gt => simp [Binary64.gt, order, Call.refuse]
    | lt => simp [Binary64.gt, order, bind, Except.bind, pure, Except.pure]
    | eq => simp [Binary64.gt, order, bind, Except.bind, pure, Except.pure]

theorem clampNumbers_ne_endless (call : Call) (value low high : Binary64) :
    clampNumbers call value low high ≠ .error .endless := by
  unfold clampNumbers heldNumber
  split
  · exact nofun
  · split
    · exact nofun
    · exact nofun

theorem clamp_eq_unbounded_iff (call : Call) :
    clamp call = .error .unbounded ↔ call.HasNanBound := by
  have unfolded : clamp call = call.number 0 >>= fun value => call.number 1 >>= fun low =>
      call.number 2 >>= fun high => clampNumbers call value low high := rfl
  simp only [unfolded, bind_eq_iff (call.settled_number _) _ (.inl rfl),
    clampNumbers_eq_unbounded_iff, Call.HasNanBound, exists_and_left]

theorem clamp_ne_endless (call : Call) : clamp call ≠ .error .endless := by
  have unfolded : clamp call = call.number 0 >>= fun value => call.number 1 >>= fun low =>
      call.number 2 >>= fun high => clampNumbers call value low high := rfl
  simp only [ne_eq, unfolded, bind_eq_iff (call.settled_number _) _ (.inr rfl),
    clampNumbers_ne_endless, and_false, exists_false, not_false_eq_true]

end Arithmetic

namespace Texts

/-- What padding does with its text and width. -/
def padText (call : Call) (text : String) (width : Nat) : Answer (String × String) :=
  if maxOutput < width then call.refuse ("width exceeds " ++ toString maxOutput)
  else
    match Padding.fill? (call.textOr 2 " ").toList (width - Text.columns text.toList) with
    | some fill => return (text, String.ofList fill)
    | none => .error .endless

theorem padText_eq_endless_iff (call : Call) (text : String) (width : Nat) :
    padText call text width = .error .endless ↔ width ≤ maxOutput ∧
      Text.columns text.toList < width ∧ (call.textOr 2 " ").toList ≠ [] ∧
      Padding.Weightless (call.textOr 2 " ").toList := by
  have none := Padding.fill?_eq_none_iff (call.textOr 2 " ").toList
    (width - Text.columns text.toList)
  unfold padText
  by_cases large : maxOutput < width
  · have small : ¬ width ≤ maxOutput := by omega
    simp [large, small, Call.refuse]
  · have small : width ≤ maxOutput := by omega
    have missing : width - Text.columns text.toList ≠ 0 ↔ Text.columns text.toList < width := by omega
    rw [if_neg large]
    rw [missing] at none
    cases filled : Padding.fill? (call.textOr 2 " ").toList (width - Text.columns text.toList) with
    | none =>
      obtain ⟨given, weightless, narrow⟩ := none.mp filled
      exact iff_of_true rfl ⟨small, narrow, given, weightless⟩
    | some fill =>
      refine iff_of_false nofun fun ⟨_, narrow, given, weightless⟩ => ?_
      rw [none.mpr ⟨given, weightless, narrow⟩] at filled
      cases filled

theorem padText_ne_unbounded (call : Call) (text : String) (width : Nat) :
    padText call text width ≠ .error .unbounded := by
  unfold padText
  split
  · exact nofun
  · split
    · exact nofun
    · exact nofun

theorem padding_eq_endless_iff (call : Call) :
    padding call = .error .endless ↔ call.FillsForever := by
  have unfolded : padding call = call.text 0 >>= fun text => call.natural 1 "width" >>= fun width =>
      padText call text width := rfl
  simp only [unfolded, bind_eq_iff (call.settled_text _) _ (.inr rfl),
    bind_eq_iff (call.settled_natural _ _) _ (.inr rfl), padText_eq_endless_iff, Call.FillsForever,
    exists_and_left]

theorem padding_ne_unbounded (call : Call) : padding call ≠ .error .unbounded := by
  have unfolded : padding call = call.text 0 >>= fun text => call.natural 1 "width" >>= fun width =>
      padText call text width := rfl
  simp only [ne_eq, unfolded, bind_eq_iff (call.settled_text _) _ (.inl rfl),
    bind_eq_iff (call.settled_natural _ _) _ (.inl rfl), padText_ne_unbounded, and_false,
    exists_false, not_false_eq_true]

end Texts

namespace Catalog

/-- The helpers that have calls without an end of their own. -/
def exceptions : List String := ["clamp", "padStart", "padEnd"]

/-- True for a helper all of whose calls end. -/
def Ends (entry : CatalogEntry) : Prop := entry.name ∈ exceptions ∨ ∀ call, Settled (entry.run call)

theorem ends_of_texts : ∀ entry ∈ Texts.entries, Ends entry := by
  have onText : ∀ change, ∀ call, Settled (Texts.onText change call) :=
    fun change call => Texts.settled_onText call change
  simp only [Texts.entries, List.forall_mem_cons]
  exact ⟨.inr (onText _), .inr (onText _), .inr (onText _), .inr (onText _), .inr (onText _),
    .inr (onText _), .inr (onText _), .inr (onText _), .inr (onText _), .inr Texts.settled_truncate,
    .inl (by decide), .inl (by decide), .inr Texts.settled_repeatText, .inr Texts.settled_replace,
    .inr Texts.settled_split, .inr fun _ => settled_ok _, .inr Texts.settled_substring,
    .inr Texts.settled_startsWith, .inr Texts.settled_endsWith, .inr (onText _), nofun⟩

theorem ends_of_dates : ∀ entry ∈ Dates.entries, Ends entry := by
  have shift : ∀ seconds, ∀ call, Settled (Dates.shift seconds call) :=
    fun seconds call => Dates.settled_shift call seconds
  simp only [Dates.entries, List.forall_mem_cons]
  exact ⟨.inr Dates.settled_now, .inr Dates.settled_formatDate, .inr (shift _), .inr (shift _),
    .inr (shift _), .inr Dates.settled_diffDays, .inr Dates.settled_isBefore,
    .inr Dates.settled_isAfter, nofun⟩

theorem ends_of_numbers : ∀ entry ∈ Arithmetic.entries, Ends entry := by
  have unary : ∀ change, ∀ call, Settled (Arithmetic.unary change call) :=
    fun change call => Arithmetic.settled_unary call change
  have binary : ∀ combine, ∀ call, Settled (Arithmetic.binary combine call) :=
    fun combine call => Arithmetic.settled_binary call combine
  have division : ∀ combine, ∀ call, Settled (Arithmetic.division combine call) :=
    fun combine call => Arithmetic.settled_division call combine
  have extreme : ∀ pick, ∀ call, Settled (Arithmetic.extreme pick call) :=
    fun pick call => Arithmetic.settled_extreme call pick
  simp only [Arithmetic.entries, List.forall_mem_cons]
  exact ⟨.inr (binary _), .inr (binary _), .inr (binary _), .inr (division _), .inr (division _),
    .inr (unary _), .inr Arithmetic.settled_round, .inr (unary _), .inr (unary _), .inr (extreme _),
    .inr (extreme _), .inl (by decide), .inr Arithmetic.settled_sum, .inr Arithmetic.settled_avg,
    .inr Arithmetic.settled_formatNumber, .inr Arithmetic.settled_percent, nofun⟩

theorem ends_of_collections : ∀ entry ∈ Collections.entries, Ends entry := by
  simp only [Collections.entries, List.forall_mem_cons]
  exact ⟨.inr Collections.settled_join, .inr Collections.settled_first,
    .inr Collections.settled_last, .inr Collections.settled_length, .inr Collections.settled_reverse,
    .inr Collections.settled_sort, .inr Collections.settled_unique, .inr Collections.settled_slice,
    .inr Collections.settled_includes, .inr Collections.settled_pluck,
    .inr Collections.settled_filterBy, .inr Collections.settled_chunk,
    .inr Collections.settled_flatten, .inr Collections.settled_range, .inr Collections.settled_compact,
    .inr Collections.settled_isEmpty, nofun⟩

theorem ends_of_objects : ∀ entry ∈ Objects.entries, Ends entry := by
  have keeping : ∀ keep, ∀ call, Settled (Objects.keeping keep call) :=
    fun keep call => Objects.settled_keeping call keep
  simp only [Objects.entries, List.forall_mem_cons]
  exact ⟨.inr Objects.settled_get, .inr Objects.settled_keys, .inr Objects.settled_values,
    .inr Objects.settled_pairs, .inr Objects.settled_has, .inr (keeping _), .inr (keeping _),
    .inr Objects.settled_merge, .inr Objects.settled_json, .inr Objects.settled_yaml,
    .inr Objects.settled_default, nofun⟩

theorem ends_of_comparing : ∀ entry ∈ Choices.comparing, Ends entry := by
  have equality : ∀ wanted, ∀ call, Settled (Choices.equality wanted call) :=
    fun wanted call => Choices.settled_equality call wanted
  have comparison : ∀ test, ∀ call, Settled (Choices.comparison test call) :=
    fun test call => Choices.settled_comparison call test
  simp only [Choices.comparing, List.forall_mem_cons]
  exact ⟨.inr (equality _), .inr (equality _), .inr (comparison _), .inr (comparison _),
    .inr (comparison _), .inr (comparison _), .inr fun _ => settled_ok _, .inr fun _ => settled_ok _,
    .inr Choices.settled_not, .inr Choices.settled_typeOf, nofun⟩

theorem ends_of_choosing : ∀ entry ∈ Choices.choosing, Ends entry := by
  simp only [Choices.choosing, List.forall_mem_cons]
  exact ⟨.inr Choices.settled_ifThen, .inr Choices.settled_switch, .inr fun _ => settled_ok _, nofun⟩

theorem ends_of_listed : ∀ entry ∈ entries, Ends entry := by
  simp only [entries, List.forall_mem_append]
  exact ⟨⟨⟨⟨⟨⟨ends_of_texts, ends_of_dates⟩, ends_of_numbers⟩, ends_of_collections⟩, ends_of_objects⟩,
    ends_of_comparing⟩, ends_of_choosing⟩

/-- A call of a name that is no exception ends. -/
theorem settled_run {call : Call} (common : call.helper ∉ exceptions) : Settled (run call) := by
  unfold run
  cases found : find? call.helper with
  | none => exact settled_refused _
  | some entry =>
    have listed : entry ∈ entries := List.mem_of_find?_eq_some found
    have named : entry.name = call.helper := by simpa using List.find?_some found
    rcases ends_of_listed entry listed with exception | settled
    · exact absurd (named ▸ exception) common
    · exact settled call

theorem run_clamp {call : Call} (named : call.helper = "clamp") : run call = Arithmetic.clamp call := by
  have found : find? "clamp" = some ⟨"clamp", "Limits a number to [min, max]", Arithmetic.clamp⟩ := rfl
  rw [run, named, found]

theorem run_padStart {call : Call} (named : call.helper = "padStart") :
    run call = (Texts.padding call).map fun (text, fill) => .string (fill ++ text) := by
  have found : find? "padStart" =
      some ⟨"padStart", "Pads on the left to a display width", Texts.padStart⟩ := rfl
  rw [run, named, found]
  show (Texts.padding call >>= fun _ => _) = _
  cases Texts.padding call <;> rfl

theorem run_padEnd {call : Call} (named : call.helper = "padEnd") :
    run call = (Texts.padding call).map fun (text, fill) => .string (text ++ fill) := by
  have found : find? "padEnd" =
      some ⟨"padEnd", "Pads on the right to a display width", Texts.padEnd⟩ := rfl
  rw [run, named, found]
  show (Texts.padding call >>= fun _ => _) = _
  cases Texts.padding call <;> rfl

theorem run_eq_unbounded_iff (call : Call) :
    run call = .error .unbounded ↔ call.helper = "clamp" ∧ call.HasNanBound := by
  by_cases exception : call.helper ∈ exceptions
  · simp only [exceptions, List.mem_cons, List.not_mem_nil, or_false] at exception
    rcases exception with named | named | named
    · rw [run_clamp named, Arithmetic.clamp_eq_unbounded_iff]
      exact ⟨fun bound => ⟨named, bound⟩, fun both => both.2⟩
    · rw [run_padStart named, map_eq_error_iff]
      exact iff_of_false (Texts.padding_ne_unbounded call) fun both => by simp [named] at both
    · rw [run_padEnd named, map_eq_error_iff]
      exact iff_of_false (Texts.padding_ne_unbounded call) fun both => by simp [named] at both
  · refine iff_of_false (settled_run exception).1 fun both => exception ?_
    rw [both.1]
    decide

theorem run_eq_endless_iff (call : Call) : run call = .error .endless ↔
    (call.helper = "padStart" ∨ call.helper = "padEnd") ∧ call.FillsForever := by
  by_cases exception : call.helper ∈ exceptions
  · simp only [exceptions, List.mem_cons, List.not_mem_nil, or_false] at exception
    rcases exception with named | named | named
    · rw [run_clamp named]
      exact iff_of_false (Arithmetic.clamp_ne_endless call) fun both => by simp [named] at both
    · rw [run_padStart named, map_eq_error_iff, Texts.padding_eq_endless_iff]
      exact ⟨fun fills => ⟨.inl named, fills⟩, fun both => both.2⟩
    · rw [run_padEnd named, map_eq_error_iff, Texts.padding_eq_endless_iff]
      exact ⟨fun fills => ⟨.inr named, fills⟩, fun both => both.2⟩
  · refine iff_of_false (settled_run exception).2 fun both => exception ?_
    rcases both.1 with named | named
    · rw [named]
      decide
    · rw [named]
      decide

/-- Every call of the catalog ends with a value or with an error of the helper, unless it hands `clamp` a
bound that is no number, or has a text filled up with a weightless pad; what is sorted has an order to go
by. -/
theorem run_outcome (call : Call) :
    ((∃ value, run call = .ok value) ∨ (∃ error, run call = .error (.refused error)) ↔
      ¬ (call.helper = "clamp" ∧ call.HasNanBound) ∧
      ¬ ((call.helper = "padStart" ∨ call.helper = "padEnd") ∧ call.FillsForever)) ∧
    (run call = .error .unbounded ↔ call.helper = "clamp" ∧ call.HasNanBound) ∧
    (run call = .error .endless ↔
      (call.helper = "padStart" ∨ call.helper = "padEnd") ∧ call.FillsForever) ∧
    Std.TransCmp Json.compareValues := by
  refine ⟨?_, run_eq_unbounded_iff call, run_eq_endless_iff call, inferInstance⟩
  rw [← run_eq_unbounded_iff, ← run_eq_endless_iff]
  cases run call with
  | ok value => simp
  | error halt => cases halt <;> simp

/-- The bound passes the check of `clamp`, since it is not above the other one. -/
example : run ⟨"clamp", [.int 1, .string "nan", .int 2], [], ⟨0, 0, 0⟩⟩ = .error .unbounded := rfl

end Catalog

end Stencil
