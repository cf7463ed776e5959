import Stencil.Helper.Collections
import Stencil.Proofs.WholeNumbers

set_option autoImplicit false

/-!
Ranges of integers. The loop goes through the terms of a progression that stand before its end, and through
no other ones, although it stops where 64 bits are left: the first term that does not fit is beyond the end
(`getElem?_progression`). The check of the size before the loop cuts a quotient toward zero, while the last
step need not reach the end, so one term more than the bound passes it (`lt_tdiv_iff_of_counts`).
-/

namespace Stencil

namespace Collections

section

variable {step start finish : Int}

theorem fits_iff {value : Int} :
    fits value = true ↔ -(Nat.pow 2 63 : Int) ≤ value ∧ value < Nat.pow 2 63 := by
  simp [fits]

theorem isBefore_iff {current : Int} : isBefore step current finish = true ↔
    0 < step ∧ current < finish ∨ step < 0 ∧ finish < current := by
  simp [isBefore]

/-- A term that is before the end has only such terms in front of it. -/
theorem isBefore_of_later {current : Int} {index : Nat}
    (later : isBefore step (current + index * step) finish = true) :
    isBefore step current finish = true := by
  rw [isBefore_iff] at later ⊢
  rcases later with ⟨up, below⟩ | ⟨down, above⟩
  · have moved := Int.mul_nonneg (Int.natCast_nonneg index) (Int.le_of_lt up)
    exact .inl ⟨up, by omega⟩
  · have moved := Int.mul_nonpos_of_nonneg_of_nonpos (Int.natCast_nonneg index) (Int.le_of_lt down)
    exact .inr ⟨down, by omega⟩

theorem isBefore_mul_iff (moves : step ≠ 0) (first second : Int) :
    isBefore step (first * step) (second * step) = true ↔ first < second := by
  rw [isBefore_iff]
  rcases Int.lt_or_gt_of_ne moves with down | up
  · have turned : second * step < first * step ↔ first < second := Int.mul_lt_mul_right_of_neg down
    omega
  · have plain : first * step < second * step ↔ first < second := Int.mul_lt_mul_right up
    omega

/-- A sum that leaves 64 bits is beyond every end. -/
theorem not_isBefore_of_not_fits {current : Int} (low : fits current = true) (high : fits finish = true)
    (leaves : ¬ fits (current + step) = true) : ¬ isBefore step (current + step) finish = true := by
  rw [isBefore_iff]
  rw [fits_iff] at low high leaves
  omega

theorem succ_term (current : Int) (index : Nat) :
    current + (index + 1 : Nat) * step = current + step + index * step := by
  rw [Int.natCast_add, Int.add_mul]
  omega

/-- Every term of the progression of unbounded integers that is before the end is listed at its place. -/
theorem getElem?_progression (low : fits start = true) (high : fits finish = true) (index : Nat) :
    (progression step finish start)[index]? =
      if isBefore step (start + index * step) finish then some (start + index * step) else none := by
  induction start using progression.induct step finish generalizing index with
  | case1 current before ih =>
    rw [progression, if_pos before]
    cases index with
    | zero => simp [before]
    | succ index =>
      rw [List.getElem?_cons_succ, succ_term]
      by_cases more : fits (current + step) = true
      · rw [if_pos more, ih more]
      · have beyond : ¬ isBefore step (current + step + index * step) finish = true := fun later =>
          not_isBefore_of_not_fits low high more (isBefore_of_later later)
        rw [if_neg more, if_neg beyond]
        rfl
  | case2 current done =>
    have none : ¬ isBefore step (current + index * step) finish = true := fun later =>
      done (isBefore_of_later later)
    rw [progression, if_neg done, if_neg none]
    rfl

/-- Whatever is listed has 64 bits. -/
theorem fits_of_mem_progression (low : fits start = true) :
    ∀ term ∈ progression step finish start, fits term = true := by
  induction start using progression.induct step finish with
  | case1 current before ih =>
    rw [progression, if_pos before, List.forall_mem_cons]
    refine ⟨low, ?_⟩
    by_cases more : fits (current + step) = true
    · rw [if_pos more]
      exact ih more
    · rw [if_neg more]
      nofun
  | case2 current done =>
    rw [progression, if_neg done]
    nofun

theorem lt_length_progression_iff (low : fits start = true) (high : fits finish = true) (index : Nat) :
    index < (progression step finish start).length ↔
      isBefore step (start + index * step) finish = true := by
  rw [← Nat.not_le, ← List.getElem?_eq_none_iff, getElem?_progression low high]
  split <;> simp [*]

theorem lt_tdiv_of_pos (up : 0 < step) (distance : Int) (bound : Nat) :
    (bound : Int) < distance.tdiv step ↔ (bound + 1 : Nat) * step ≤ distance := by
  by_cases ahead : 0 ≤ distance
  · rw [Int.tdiv_eq_ediv_of_nonneg ahead, ← Int.add_one_le_iff, Int.le_ediv_iff_mul_le up]
    rfl
  · have back : 0 ≤ (-distance).tdiv step := Int.tdiv_nonneg (by omega) (Int.le_of_lt up)
    have moved : 0 ≤ (bound + 1 : Nat) * step :=
      Int.mul_nonneg (Int.natCast_nonneg _) (Int.le_of_lt up)
    rw [Int.neg_tdiv] at back
    omega

/-- A quotient that is cut toward zero is above a bound if one step more than the bound does not pass the
distance. -/
theorem lt_tdiv_iff (moves : step ≠ 0) (distance : Int) (bound : Nat) :
    (bound : Int) < distance.tdiv step ↔
      isBefore step ((bound + 1 : Nat) * step) distance = true ∨ (bound + 1 : Nat) * step = distance := by
  rw [isBefore_iff]
  rcases Int.lt_or_gt_of_ne moves with down | up
  · have turned := lt_tdiv_of_pos (Int.neg_pos_of_neg down) (-distance) bound
    rw [Int.neg_tdiv_neg, Int.mul_neg] at turned
    omega
  · have plain := lt_tdiv_of_pos up distance bound
    omega

/-- The check of the size lets one term more than the bound pass, unless the last step reaches the end. -/
theorem lt_tdiv_iff_of_counts (moves : step ≠ 0) {count : Nat} (bound : Nat)
    (counts : ∀ index : Nat, isBefore step (start + index * step) finish = true ↔ index < count) :
    (bound : Int) < (finish - start).tdiv step ↔
      bound + 1 < count ∨ count = bound + 1 ∧ step ∣ finish - start := by
  have next : isBefore step ((bound + 1 : Nat) * step) (finish - start) = true ↔ bound + 1 < count := by
    rw [← counts, isBefore_iff, isBefore_iff]
    omega
  rw [lt_tdiv_iff moves, next]
  constructor
  · rintro (more | reached)
    · exact .inl more
    · have last : bound < count := by
        rw [← counts, isBefore_iff]
        rw [Int.natCast_add, Int.add_mul] at reached
        omega
      have stop : ¬ bound + 1 < count := by
        rw [← next, isBefore_iff]
        omega
      exact .inr ⟨by omega, (bound + 1 : Nat), by rw [← reached, Int.mul_comm]⟩
  · rintro (more | ⟨exact, quotient, whole⟩)
    · exact .inl more
    · rw [Int.mul_comm] at whole
      have last : (bound : Int) < quotient := by
        rw [← isBefore_mul_iff moves, ← whole]
        have before := (counts bound).mpr (by omega)
        rw [isBefore_iff] at before ⊢
        omega
      have stop : ¬ ((bound + 1 : Nat) : Int) < quotient := by
        rw [← isBefore_mul_iff moves, ← whole, next]
        omega
      have same : quotient = (bound + 1 : Nat) := by omega
      exact .inr (by rw [whole, same])

end

/-- What a call reads as start, end and step: with one bound the start is zero, and the step is one if it
is left out. -/
structure Reads (call : Call) (start finish step : Int) : Prop where
  bounds : call.integer 0 = .ok start ∧ call.integer? 1 = .ok (some finish) ∨
    (call.argument? 1 = none ∨ call.argument? 1 = some .null) ∧ start = 0 ∧ call.integer 0 = .ok finish
  stride : (call.integer? 2).map (·.getD 1) = .ok step

section

variable {call : Call} {start finish step : Int}

theorem fits_of_integer {index : Nat} {value : Int} (read : call.integer index = .ok value) :
    fits value = true := by
  unfold Call.integer at read
  cases given : call.number index with
  | error halt => simp [given, bind, Except.bind] at read
  | ok number =>
    simp only [given, bind, Except.bind] at read
    split at read
    · cases read
      exact fits_iff.mpr number.toInt64_bounds
    · cases read

theorem fits_of_integer? {index : Nat} {value : Int} (read : call.integer? index = .ok (some value)) :
    fits value = true := by
  unfold Call.integer? at read
  split at read
  · cases read
  · cases read
  · cases given : call.integer index with
    | error halt => simp [given, Except.map] at read
    | ok number =>
      simp only [given, Except.map, Except.ok.injEq, Option.some.injEq] at read
      exact read ▸ fits_of_integer given

/-- Whole numbers of at most 53 bits are read as they are. -/
theorem Reads.of_ints (given : call.arguments = [.int start, .int finish, .int step])
    (startSmall : start.natAbs < Nat.pow 2 53) (finishSmall : finish.natAbs < Nat.pow 2 53)
    (stepSmall : step.natAbs < Nat.pow 2 53) : Reads call start finish step := by
  have first : call.integer 0 = .ok start :=
    Call.integer_of_int (by simp [Call.argument, Call.argument?, given]) startSmall
  have second : call.integer 1 = .ok finish :=
    Call.integer_of_int (by simp [Call.argument, Call.argument?, given]) finishSmall
  have third : call.integer 2 = .ok step :=
    Call.integer_of_int (by simp [Call.argument, Call.argument?, given]) stepSmall
  refine ⟨.inl ⟨first, ?_⟩, ?_⟩
  · simp [Call.integer?, Call.argument?, given, Json.int, second, Except.map]
  · simp [Call.integer?, Call.argument?, given, Json.int, third, Except.map]

theorem Reads.fits (reads : Reads call start finish step) : fits start = true ∧ fits finish = true := by
  rcases reads.bounds with ⟨lower, upper⟩ | ⟨-, rfl, upper⟩
  · exact ⟨fits_of_integer lower, fits_of_integer? upper⟩
  · exact ⟨by decide, fits_of_integer upper⟩

/-- A call that reads its bounds has its range checked and listed. -/
theorem range_of_reads (reads : Reads call start finish step) (moves : step ≠ 0) : range call =
    if (maxRange : Int) < (finish - start).tdiv step then
      call.refuse ("range exceeds " ++ toString maxRange ++ " items")
    else .ok (.array ((progression step finish start).map Json.int)) := by
  obtain ⟨stride, read, given⟩ : ∃ stride, call.integer? 2 = .ok stride ∧ stride.getD 1 = step := by
    have stride := reads.stride
    cases read : call.integer? 2 with
    | error halt => simp [read, Except.map] at stride
    | ok stride' => exact ⟨stride', rfl, by simpa [read, Except.map] using stride⟩
  subst given
  unfold range
  rcases reads.bounds with ⟨lower, upper⟩ | ⟨absent, rfl, upper⟩
  · simp only [upper, lower, read, bind, Except.bind, pure, Except.pure, if_neg moves, quotient]
  · have missing : call.integer? 1 = .ok none := by
      unfold Call.integer?
      rcases absent with absent | absent
      · rw [absent]
      · rw [absent]
    simp only [missing, upper, read, bind, Except.bind, pure, Except.pure, if_neg moves, quotient]

/-- What a call of `range` gives depends on how many terms of the progression are before its end: it refuses
more than one term above the bound, and one above the bound if the last step reaches the end; else it lists
as many items as there are terms. So one item more than the bound is listed if the last step passes the
end. -/
theorem range_size_check (reads : Reads call start finish step) (moves : step ≠ 0) :
    ∃ count : Nat,
      (∀ index : Nat, isBefore step (start + index * step) finish = true ↔ index < count) ∧
      (range call = call.refuse "range exceeds 100000 items" ↔
        maxRange + 1 < count ∨ count = maxRange + 1 ∧ step ∣ finish - start) ∧
      (range call ≠ call.refuse "range exceeds 100000 items" →
        ∃ items, range call = .ok (.array items) ∧ items.length = count) := by
  obtain ⟨low, high⟩ := reads.fits
  have counts : ∀ index : Nat, isBefore step (start + index * step) finish = true ↔
      index < (progression step finish start).length := fun index =>
    (lt_length_progression_iff low high index).symm
  refine ⟨(progression step finish start).length, counts, ?_⟩
  rw [range_of_reads reads moves, ← lt_tdiv_iff_of_counts moves maxRange counts]
  have text : "range exceeds " ++ toString maxRange ++ " items" = "range exceeds 100000 items" := by decide
  rw [text]
  by_cases tooLong : (maxRange : Int) < (finish - start).tdiv step
  · simp [tooLong]
  · rw [if_neg tooLong]
    refine ⟨⟨nofun, fun more => absurd more tooLong⟩, fun _ => ⟨_, rfl, List.length_map _⟩⟩

/-- A call for two hundred thousand and one numbers, every second of which is listed. -/
def longRange : Call := ⟨"range", [.int 0, .int 200001, .int 2], [], ⟨0, 0, 0⟩⟩

/-- The last step passes the end, so one item above the bound is listed. -/
theorem range_size_check_longRange : Reads longRange 0 200001 2 ∧ (2 : Int) ≠ 0 ∧
    ∃ items, range longRange = .ok (.array items) ∧ items.length = maxRange + 1 := by
  have reads : Reads longRange 0 200001 2 := .of_ints rfl (by decide) (by decide) (by decide)
  have moves : (2 : Int) ≠ 0 := by decide
  obtain ⟨count, counts, refuses, lists⟩ := range_size_check reads moves
  have last := (counts 100000).mp (by decide)
  have stop : ¬ 100001 < count := fun more => absurd ((counts 100001).mpr more) (by decide)
  have exact : count = maxRange + 1 := by
    unfold maxRange
    omega
  refine ⟨reads, moves, exact ▸ lists fun refused => ?_⟩
  rcases refuses.mp refused with more | ⟨-, whole⟩
  · omega
  · exact absurd whole (by decide)

/-- For all bounds of 64 bits, the loop lists the terms of the progression of unbounded integers that are
before the end, each at its place, and no other ones; all of them have 64 bits. A call that reads these
bounds and passes the check of the size lists just these. -/
theorem range_lists_progression (low : fits start = true) (high : fits finish = true) (moves : step ≠ 0) :
    (∀ index : Nat, (progression step finish start)[index]? =
      if isBefore step (start + index * step) finish then some (start + index * step) else none) ∧
    (∀ term ∈ progression step finish start, fits term = true) ∧
    (isBefore step start finish = false → progression step finish start = []) ∧
    ∀ call, Reads call start finish step → (finish - start).tdiv step ≤ maxRange →
      range call = .ok (.array ((progression step finish start).map .int)) := by
  refine ⟨getElem?_progression low high, fits_of_mem_progression low, fun away => ?_, ?_⟩
  · rw [progression, away]
    rfl
  · intro call reads passes
    rw [range_of_reads reads moves, if_neg (Int.not_lt.mpr passes)]

/-- A call for the numbers in steps of 512 up to the largest one. -/
def rangeToLast : Call :=
  ⟨"range", [.int 9223372036854774784, .int 9223372036854775807, .int 512], [], ⟨0, 0, 0⟩⟩

set_option maxRecDepth 4096 in
/-- The second item is listed, although the sum behind it does not have 64 bits any more. -/
theorem range_lists_progression_rangeToLast :
    fits 9223372036854774784 = true ∧ fits 9223372036854775807 = true ∧ (512 : Int) ≠ 0 ∧
    range rangeToLast =
      .ok (.array [.int 9223372036854774784, .int 9223372036854775296]) := by
  have low : fits 9223372036854774784 = true := by decide
  have high : fits 9223372036854775807 = true := by decide
  have moves : (512 : Int) ≠ 0 := by decide
  obtain ⟨-, -, -, lists⟩ := range_lists_progression low high moves
  have reads : Reads rangeToLast 9223372036854774784 9223372036854775807 512 := ⟨.inl ⟨rfl, rfl⟩, rfl⟩
  have items : progression 512 9223372036854775807 9223372036854774784 =
      [9223372036854774784, 9223372036854775296] := by
    simp [progression, isBefore, fits]
  refine ⟨low, high, moves, ?_⟩
  rw [lists rangeToLast reads (by decide), items]
  rfl

end

end Collections

end Stencil
