import Stencil.Proofs.CatalogInstallation
import Stencil.Proofs.HelperOutcomes
import Stencil.Proofs.Progressions

set_option autoImplicit false

/-!
Parts of arrays. Every position that a slice is given is resolved to one of the array or its end, so a slice
up to a position and the slice from it are the array, and the first and the last items are slices too. The
pieces of an array have one size, but for the last one, and put together they are the array. All of this
holds for every position and size of 64 bits, whatever it is rounded to on the way
(`slices_keep_items`).
-/

namespace Stencil

open Number (Binary64)

namespace Number.Binary64

theorem rounded_pos {value : Nat} (positive : 0 < value) : 0 < rounded value := by
  by_cases small : value < Nat.pow 2 53
  · rwa [rounded_of_lt small]
  · exact Nat.lt_of_lt_of_le (by decide) (le_rounded (Nat.le_of_not_lt small))

/-- What a positive number of 64 bits and its negative are read as: the same magnitude, held inside the bits
on either side. -/
theorem toInt64_ofInt_neg {value : Int} (positive : 1 ≤ value) (word : value.natAbs ≤ Nat.pow 2 64) :
    ∃ magnitude : Int, 1 ≤ magnitude ∧
      (ofInt value).toInt64 = Min.min magnitude (Nat.pow 2 63 - 1) ∧
      (ofInt (-value)).toInt64 = Max.max (-magnitude) (-(Nat.pow 2 63 : Int)) := by
  have most : (0 : Int) < Nat.pow 2 63 := by decide
  have least : 0 < rounded value.natAbs := rounded_pos (by omega)
  refine ⟨rounded value.natAbs, by omega, ?_, ?_⟩
  · rw [toInt64_ofInt word, decide_eq_false (by omega), signedUnits, if_neg Bool.false_ne_true]
    omega
  · rw [toInt64_ofInt (by rwa [Int.natAbs_neg]), decide_eq_true (by omega), signedUnits, if_pos rfl,
      Int.natAbs_neg]
    omega

theorem one_le_toInt64 {value : Int} (positive : 1 ≤ value) (word : value.natAbs ≤ Nat.pow 2 64) :
    1 ≤ (ofInt value).toInt64 := by
  obtain ⟨magnitude, least, read, -⟩ := toInt64_ofInt_neg positive word
  have most : (1 : Int) < Nat.pow 2 63 := by decide
  omega

theorem toInt64_nonneg {value : Int} (positive : 0 ≤ value) (word : value.natAbs ≤ Nat.pow 2 64) :
    0 ≤ (ofInt value).toInt64 := by
  by_cases zero : value = 0
  · subst zero
    exact Int.le_of_eq (toInt64_ofInt_of_small (by decide)).symm
  · exact Int.le_trans (by decide) (one_le_toInt64 (by omega) word)

end Number.Binary64

namespace Collections

open Catalog (answer)

/-! ### Pieces -/

section

variable {size fuel : Nat} {items : List Json}

theorem pieces_cons (some : items ≠ []) :
    pieces size (fuel + 1) items = items.take size :: pieces size fuel (items.drop size) := by
  rw [pieces, if_neg (by simpa using some)]

theorem pieces_nil (size fuel : Nat) : pieces size fuel [] = [] := by
  cases fuel <;> rfl

theorem flatten_pieces (positive : 0 < size) (bounded : items.length ≤ fuel) :
    (pieces size fuel items).flatten = items := by
  induction fuel generalizing items with
  | zero => rw [List.length_eq_zero_iff.mp (Nat.le_zero.mp bounded), pieces, List.flatten_nil]
  | succ fuel ih =>
    cases items with
    | nil => rw [pieces_nil, List.flatten_nil]
    | cons item items =>
      have shorter : ((item :: items).drop size).length ≤ fuel := by
        rw [List.length_drop]
        omega
      rw [pieces_cons (List.cons_ne_nil _ _), List.flatten_cons, ih shorter, List.take_append_drop]

/-- No piece is empty or larger than the size. -/
theorem length_of_mem_pieces (fuel : Nat) (items : List Json) (positive : 0 < size) :
    ∀ piece ∈ pieces size fuel items, 1 ≤ piece.length ∧ piece.length ≤ size := by
  induction fuel generalizing items with
  | zero => simp [pieces]
  | succ fuel ih =>
    cases items with
    | nil => simp [pieces_nil]
    | cons item items =>
      rw [pieces_cons (List.cons_ne_nil _ _), List.forall_mem_cons, List.length_take, List.length_cons]
      exact ⟨by omega, ih _⟩

/-- Only the last piece can be smaller than the size. -/
theorem length_of_mem_dropLast_pieces (size fuel : Nat) (items : List Json) :
    ∀ piece ∈ (pieces size fuel items).dropLast, piece.length = size := by
  induction fuel generalizing items with
  | zero => simp [pieces]
  | succ fuel ih =>
    by_cases none : items = []
    · simp [none, pieces_nil]
    · rw [pieces_cons none]
      cases rest : pieces size fuel (items.drop size) with
      | nil => simp
      | cons next others =>
        have longer : items.drop size ≠ [] := by
          intro short
          rw [short, pieces_nil] at rest
          cases rest
        have full : size ≤ items.length := by
          rw [Ne, List.drop_eq_nil_iff] at longer
          omega
        rw [List.dropLast_cons_of_ne_nil (List.cons_ne_nil _ _), List.forall_mem_cons, ← rest]
        exact ⟨List.length_take_of_le full, ih _⟩

/-- An array that is not larger than the size is a piece of its own. -/
theorem dropLast_pieces_of_short (short : items.length ≤ size) : (pieces size fuel items).dropLast = [] := by
  cases fuel with
  | zero => rfl
  | succ fuel =>
    by_cases none : items = []
    · rw [none, pieces_nil, List.dropLast_nil]
    · rw [pieces_cons none, List.drop_of_length_le short, pieces_nil, List.dropLast_singleton]

end

/-! ### The helpers -/

/-- The items between two positions, none if they are out of order. -/
def between (items : List Json) (start finish : Int) : List Json :=
  (items.drop start.toNat).take (finish - start).toNat

theorem between_zero (items : List Json) (finish : Int) :
    between items 0 finish = items.take finish.toNat := by
  rw [between, Int.sub_zero, Int.toNat_zero, List.drop_zero]

theorem between_length (items : List Json) (start : Int) :
    between items start items.length = items.drop start.toNat := by
  rw [between, List.take_of_length_le]
  rw [List.length_drop]
  omega

theorem resolve_of_nonneg (length : Nat) {index : Int} (nonneg : 0 ≤ index) :
    resolve length index = min index length :=
  if_neg (Int.not_lt.mpr nonneg)

theorem resolve_length (length : Nat) : resolve length length = length := by
  rw [resolve_of_nonneg _ (Int.natCast_nonneg _), Int.min_self]

theorem resolve_zero (length : Nat) : resolve length 0 = 0 := by
  rw [resolve_of_nonneg _ (Int.le_refl 0)]
  omega

/-- The position or size is told from every other that the array has room for: it is read as it is, or it is
beyond every item, and so is what it is rounded to. -/
def Told (items : List Json) (index : Int) : Prop :=
  index.natAbs < Nat.pow 2 53 ∨ items.length ≤ Nat.pow 2 53

section

variable {items : List Json} {index : Int}

theorem resolve_read (word : index.natAbs ≤ Nat.pow 2 64) (told : Told items index) :
    resolve items.length (Binary64.ofInt index).toInt64 = resolve items.length index := by
  by_cases small : index.natAbs < Nat.pow 2 53
  · rw [Binary64.toInt64_ofInt_of_small small]
  · have held : items.length ≤ Nat.pow 2 53 := told.resolve_left small
    obtain ⟨large, side⟩ := Binary64.toInt64_of_large word (Nat.le_of_not_lt small)
    rw [Nat.pow_eq] at small held large
    generalize (Binary64.ofInt index).toInt64 = read at large side
    unfold resolve
    split
    · rw [if_pos (by omega)]
      omega
    · rw [if_neg (by omega)]
      omega

theorem min_read (word : index.natAbs ≤ Nat.pow 2 64) (told : Told items index) (nonneg : 0 ≤ index) :
    min (Binary64.ofInt index).toInt64 items.length = min index items.length := by
  have least := Binary64.toInt64_nonneg nonneg word
  rw [← resolve_of_nonneg _ least, ← resolve_of_nonneg _ nonneg, resolve_read word told]

end

section

variable {call : Call} {items : List Json}

/-- A slice lists the items between its resolved positions, and these are inside the array. -/
theorem slice_of_reads {first second : Option Int} (given : call.arrayOrEmpty 0 = .ok items)
    (start : call.integer? 1 = .ok first) (finish : call.integer? 2 = .ok second) : slice call =
      .ok (.array (between items (resolve items.length (first.getD 0))
        (resolve items.length (second.getD items.length)))) := by
  have low := resolve_bounds items.length (first.getD 0)
  have high := resolve_bounds items.length (second.getD items.length)
  simp only [slice, given, start, finish, bind, Except.bind, pure, Except.pure]
  split
  · rename_i none
    rw [between, Int.toNat_of_nonpos (by omega), List.take_zero]
  · rw [itemsBetween, if_pos ⟨low.1, by omega, high.2⟩]
    rfl

theorem count?_of_reads {count : Int} (counted : call.integer? 1 = .ok (some count)) (positive : 0 ≤ count) :
    count? call = .ok (some count.toNat) := by
  simp only [count?, counted, bind, Except.bind, if_neg (Int.not_lt.mpr positive)]
  rfl

theorem first_of_reads {count : Int} (given : call.arrayOrEmpty 0 = .ok items)
    (counted : call.integer? 1 = .ok (some count)) (positive : 0 ≤ count) :
    first call = .ok (.array (items.take count.toNat)) := by
  simp only [first, given, count?_of_reads counted positive, bind, Except.bind]
  rfl

theorem last_of_reads {count : Int} (given : call.arrayOrEmpty 0 = .ok items)
    (counted : call.integer? 1 = .ok (some count)) (positive : 0 ≤ count) :
    last call = .ok (.array (items.drop (items.length - count.toNat))) := by
  simp only [last, given, count?_of_reads counted positive, bind, Except.bind]
  rfl

theorem chunk_of_reads {size : Int} (given : call.arrayOrEmpty 0 = .ok items)
    (sized : call.integer 1 = .ok size) (positive : 1 ≤ size) :
    chunk call = .ok (.array ((pieces size.toNat items.length items).map .array)) := by
  have nonzero : ¬ size.toNat = 0 := by omega
  simp only [chunk, given, sized, bind, Except.bind, if_neg (Int.not_lt.mpr positive), piecesOf,
    if_neg nonzero]
  rfl

theorem flatten_of_reads {chunks : List (List Json)}
    (given : call.arrayOrEmpty 0 = .ok (chunks.map .array)) :
    flatten call = .ok (.array chunks.flatten) := by
  have spread : (chunks.map Json.array).flatMap spread = chunks.flatten := by
    rw [List.flatMap_map]
    exact List.flatMap_id
  simp only [flatten, given, bind, Except.bind, spread]
  rfl

end

/-! ### Laws of parts -/

section

variable (options : List (String × Json)) (now : Calendar.Instant) {items : List Json} {index : Int}

theorem word_of_fits (fits : Collections.fits index = true) : index.natAbs ≤ Nat.pow 2 64 := by
  rw [fits_iff] at fits
  simp only [Nat.pow_eq] at fits ⊢
  omega

theorem answer_slice_from (word : index.natAbs ≤ Nat.pow 2 64) :
    answer options now "slice" [.array items, .int index] =
      .ok (.array (items.drop (resolve items.length (Binary64.ofInt index).toInt64).toNat)) := by
  have serves : Catalog.helper? "slice" = some slice := rfl
  have given : (Call.mk "slice" [.array items, .int index] options now).argument? 1 = some (.int index) := rfl
  rw [Catalog.answer_eq serves, slice_of_reads rfl (Call.integer?_of_word given word) rfl,
    Option.getD_some, Option.getD_none, resolve_length, between_length]

theorem answer_slice_upTo (word : index.natAbs ≤ Nat.pow 2 64) :
    answer options now "slice" [.array items, .int 0, .int index] =
      .ok (.array (items.take (resolve items.length (Binary64.ofInt index).toInt64).toNat)) := by
  have serves : Catalog.helper? "slice" = some slice := rfl
  have start : (Call.mk "slice" [.array items, .int 0, .int index] options now).argument? 1 =
      some (.int 0) := rfl
  have finish : (Call.mk "slice" [.array items, .int 0, .int index] options now).argument? 2 =
      some (.int index) := rfl
  rw [Catalog.answer_eq serves, slice_of_reads rfl (Call.integer?_of_word start (by decide))
    (Call.integer?_of_word finish word), Option.getD_some, Option.getD_some,
    Binary64.toInt64_ofInt_of_small (by decide), resolve_zero, between_zero]

theorem answer_first (word : index.natAbs ≤ Nat.pow 2 64) (positive : 0 ≤ (Binary64.ofInt index).toInt64) :
    answer options now "first" [.array items, .int index] =
      .ok (.array (items.take (Binary64.ofInt index).toInt64.toNat)) := by
  have serves : Catalog.helper? "first" = some first := rfl
  have given : (Call.mk "first" [.array items, .int index] options now).argument? 1 = some (.int index) := rfl
  rw [Catalog.answer_eq serves, first_of_reads rfl (Call.integer?_of_word given word) positive]

theorem answer_last (word : index.natAbs ≤ Nat.pow 2 64) (positive : 0 ≤ (Binary64.ofInt index).toInt64) :
    answer options now "last" [.array items, .int index] =
      .ok (.array (items.drop (items.length - (Binary64.ofInt index).toInt64.toNat))) := by
  have serves : Catalog.helper? "last" = some last := rfl
  have given : (Call.mk "last" [.array items, .int index] options now).argument? 1 = some (.int index) := rfl
  rw [Catalog.answer_eq serves, last_of_reads rfl (Call.integer?_of_word given word) positive]

theorem answer_chunk (word : index.natAbs ≤ Nat.pow 2 64) (positive : 1 ≤ (Binary64.ofInt index).toInt64) :
    answer options now "chunk" [.array items, .int index] = .ok (.array
      ((pieces (Binary64.ofInt index).toInt64.toNat items.length items).map .array)) := by
  have serves : Catalog.helper? "chunk" = some chunk := rfl
  have given : (Call.mk "chunk" [.array items, .int index] options now).argument 1 = .ok (.int index) := rfl
  rw [Catalog.answer_eq serves, chunk_of_reads rfl (Call.integer_of_word given word) positive]

theorem answer_flatten (chunks : List (List Json)) :
    answer options now "flatten" [.array (chunks.map .array)] = .ok (.array chunks.flatten) := by
  have serves : Catalog.helper? "flatten" = some flatten := rfl
  rw [Catalog.answer_eq serves, flatten_of_reads rfl]

theorem slice_at (fits : Collections.fits index = true) : ∃ front back,
    answer options now "slice" [.array items, .int 0, .int index] = .ok (.array front) ∧
    answer options now "slice" [.array items, .int index] = .ok (.array back) ∧
    front ++ back = items ∧ (Told items index → front.length = resolve items.length index) := by
  have word := word_of_fits fits
  refine ⟨_, _, answer_slice_upTo options now word, answer_slice_from options now word,
    List.take_append_drop _ _, fun told => ?_⟩
  have bounds := resolve_bounds items.length index
  rw [resolve_read word told, List.length_take]
  omega

theorem first_then_slice (fits : Collections.fits index = true) (nonneg : 0 ≤ index) : ∃ front back,
    answer options now "first" [.array items, .int index] = .ok (.array front) ∧
    answer options now "slice" [.array items, .int index] = .ok (.array back) ∧
    front ++ back = items ∧ (Told items index → front.length = min index items.length) := by
  have word := word_of_fits fits
  have least := Binary64.toInt64_nonneg nonneg word
  refine ⟨_, _, answer_first options now word least, answer_slice_from options now word, ?_,
    fun told => ?_⟩
  · generalize (Binary64.ofInt index).toInt64 = read at least
    have same : items.take read.toNat = items.take (resolve items.length read).toNat := by
      rw [List.take_eq_take_iff, resolve_of_nonneg _ least]
      omega
    rw [same, List.take_append_drop]
  · have same := min_read word told nonneg
    generalize (Binary64.ofInt index).toInt64 = read at least same
    rw [List.length_take]
    omega

theorem last_eq_slice (fits : Collections.fits index = true) (positive : 1 ≤ index)
    (held : items.length < Nat.pow 2 63) : ∃ back,
    answer options now "last" [.array items, .int index] = .ok (.array back) ∧
    answer options now "slice" [.array items, .int (-index)] = .ok (.array back) ∧
    (Told items index → back.length = min index items.length) := by
  have word := word_of_fits fits
  have turned : (-index).natAbs ≤ Nat.pow 2 64 := by rwa [Int.natAbs_neg]
  have nonneg : 0 ≤ index := Int.le_trans (by decide) positive
  have least := Binary64.toInt64_nonneg nonneg word
  refine ⟨_, answer_last options now word least, ?_, fun told => ?_⟩
  · obtain ⟨magnitude, some, up, down⟩ := Binary64.toInt64_ofInt_neg positive word
    rw [answer_slice_from options now turned, up, down]
    have same : (resolve items.length (max (-magnitude) (-(Nat.pow 2 63 : Int)))).toNat =
        items.length - (min magnitude (Nat.pow 2 63 - 1)).toNat := by
      rw [Nat.pow_eq] at held ⊢
      rw [resolve, if_pos (by omega)]
      omega
    rw [same]
  · have same := min_read word told nonneg
    generalize (Binary64.ofInt index).toInt64 = read at least same
    rw [List.length_drop]
    omega

theorem flatten_chunks (fits : Collections.fits index = true) (positive : 1 ≤ index) :
    ∃ chunks : List (List Json),
    answer options now "chunk" [.array items, .int index] = .ok (.array (chunks.map .array)) ∧
    answer options now "flatten" [.array (chunks.map .array)] = .ok (.array items) ∧
    (Told items index →
      (∀ chunk ∈ chunks, 1 ≤ chunk.length ∧ chunk.length ≤ index) ∧
      ∀ chunk ∈ chunks.dropLast, chunk.length = index) := by
  have word := word_of_fits fits
  have least := Binary64.one_le_toInt64 positive word
  have nonzero : 0 < (Binary64.ofInt index).toInt64.toNat := by omega
  have whole := flatten_pieces nonzero (Nat.le_refl items.length)
  refine ⟨_, answer_chunk options now word least, ?_, fun told => ?_⟩
  · rw [answer_flatten, whole]
  · have some := length_of_mem_pieces items.length items nonzero
    have full := length_of_mem_dropLast_pieces (Binary64.ofInt index).toInt64.toNat items.length items
    -- A size that is not read as it is leaves one piece, and that is no larger than the array.
    by_cases small : index.natAbs < Nat.pow 2 53
    · rw [Binary64.toInt64_ofInt_of_small small] at some full ⊢
      exact ⟨fun chunk member => by have bounds := some chunk member; omega,
        fun chunk member => by have length := full chunk member; omega⟩
    · have held : items.length ≤ Nat.pow 2 53 := told.resolve_left small
      have large := (Binary64.toInt64_of_large word (Nat.le_of_not_lt small)).1
      rw [Nat.pow_eq] at small held large
      rw [dropLast_pieces_of_short (by omega)]
      refine ⟨fun chunk member => ?_, nofun⟩
      have part := (List.sublist_flatten_of_mem member).length_le
      rw [whole] at part
      have bounds := some chunk member
      omega

/-- What is sliced off an array is neither lost nor repeated, for every position and size of 64 bits. An
array in memory has less than `2 ^ 53` items: every index is told for it. -/
theorem slices_keep_items (items : List Json) :
    (∀ arguments, answer options now "slice" arguments ≠ .error .unbounded) ∧
    (∀ index, 0 ≤ resolve items.length index ∧ resolve items.length index ≤ items.length) ∧
    (∀ index, Collections.fits index = true → ∃ front back,
      answer options now "slice" [.array items, .int 0, .int index] = .ok (.array front) ∧
      answer options now "slice" [.array items, .int index] = .ok (.array back) ∧
      front ++ back = items ∧ (Told items index → front.length = resolve items.length index)) ∧
    (∀ count, Collections.fits count = true → 0 ≤ count → ∃ front back,
      answer options now "first" [.array items, .int count] = .ok (.array front) ∧
      answer options now "slice" [.array items, .int count] = .ok (.array back) ∧
      front ++ back = items ∧ (Told items count → front.length = min count items.length)) ∧
    (∀ count, Collections.fits count = true → 1 ≤ count → items.length < Nat.pow 2 63 → ∃ back,
      answer options now "last" [.array items, .int count] = .ok (.array back) ∧
      answer options now "slice" [.array items, .int (-count)] = .ok (.array back) ∧
      (Told items count → back.length = min count items.length)) ∧
    ∀ size, Collections.fits size = true → 1 ≤ size → ∃ chunks : List (List Json),
      answer options now "chunk" [.array items, .int size] = .ok (.array (chunks.map .array)) ∧
      answer options now "flatten" [.array (chunks.map .array)] = .ok (.array items) ∧
      (Told items size →
        (∀ chunk ∈ chunks, 1 ≤ chunk.length ∧ chunk.length ≤ size) ∧
        ∀ chunk ∈ chunks.dropLast, chunk.length = size) := by
  have serves : Catalog.helper? "slice" = some slice := rfl
  refine ⟨fun arguments => ?_, resolve_bounds items.length, fun index fits => ?_,
    fun count fits nonneg => ?_, fun count fits positive held => ?_, fun size fits positive => ?_⟩
  · rw [Catalog.answer_eq serves]
    exact (settled_slice _).1
  · exact slice_at options now fits
  · exact first_then_slice options now fits nonneg
  · exact last_eq_slice options now fits positive held
  · exact flatten_chunks options now fits positive

end

/-- An array of items of which some are arrays. -/
def nested : List Json := [.array [.int 1, .int 2], .int 3, .array []]

/-- The least position of all is the start of an array, the last two items are the slice from minus two, and
pieces of two items are put together with the arrays among the items left as they are. -/
theorem slices_keep_items_nested :
    Collections.fits (-(Nat.pow 2 63 : Int)) = true ∧ Collections.fits 2 = true ∧ Told nested 2 ∧
    nested.length < Nat.pow 2 63 ∧
    (∃ front back,
      answer [] ⟨0, 0, 0⟩ "slice" [.array nested, .int 0, .int (-(Nat.pow 2 63 : Int))] =
        .ok (.array front) ∧
      answer [] ⟨0, 0, 0⟩ "slice" [.array nested, .int (-(Nat.pow 2 63 : Int))] = .ok (.array back) ∧
      front ++ back = nested) ∧
    (∃ front back, answer [] ⟨0, 0, 0⟩ "first" [.array nested, .int 2] = .ok (.array front) ∧
      answer [] ⟨0, 0, 0⟩ "slice" [.array nested, .int 2] = .ok (.array back) ∧
      front ++ back = nested ∧ front.length = (2 : Int)) ∧
    (∃ back, answer [] ⟨0, 0, 0⟩ "last" [.array nested, .int 2] = .ok (.array back) ∧
      answer [] ⟨0, 0, 0⟩ "slice" [.array nested, .int (-2)] = .ok (.array back) ∧
      back.length = (2 : Int)) ∧
    ∃ chunks : List (List Json),
      answer [] ⟨0, 0, 0⟩ "chunk" [.array nested, .int 2] = .ok (.array (chunks.map .array)) ∧
      answer [] ⟨0, 0, 0⟩ "flatten" [.array (chunks.map .array)] = .ok (.array nested) ∧
      ∀ chunk ∈ chunks.dropLast, chunk.length = (2 : Int) := by
  have least : Collections.fits (-(Nat.pow 2 63 : Int)) = true := by decide
  have two : Collections.fits 2 = true := by decide
  have told : Told nested 2 := .inl (by decide)
  have held : nested.length < Nat.pow 2 63 := by decide
  obtain ⟨-, -, slices, firsts, lasts, chunked⟩ := slices_keep_items [] ⟨0, 0, 0⟩ nested
  refine ⟨least, two, told, held, ?_, ?_, ?_, ?_⟩
  · obtain ⟨front, back, before, after, whole, -⟩ := slices _ least
    exact ⟨front, back, before, after, whole⟩
  · obtain ⟨front, back, before, after, whole, size⟩ := firsts 2 two (by decide)
    exact ⟨front, back, before, after, whole, size told⟩
  · obtain ⟨back, ends, sliced, size⟩ := lasts 2 two (by decide) held
    exact ⟨back, ends, sliced, size told⟩
  · obtain ⟨chunks, cut, joined, sizes⟩ := chunked 2 two (by decide)
    exact ⟨chunks, cut, joined, (sizes told).2⟩

end Collections

end Stencil
