import Stencil.Proofs.Runs
import Stencil.Proofs.SplitTexts

set_option autoImplicit false

/-!
Slugs. Whatever a text is spelled to, its slug is empty or consists of runs of small letters and digits with
single hyphens between them: while it is written backwards, it is such a text or one with one hyphen more
(`Growing`). It has the letters and digits of the lowered text, and is its own slug (`slugs_canonical`).
-/

namespace Stencil.Text

open Property

/-! ### No capitals -/

section

variable {c : Char} {text : List Char}

/-- True for a shift that moves no code point to an ASCII capital. -/
def missesCapitals (shift : Shift) : Bool :=
  decide (90 < shift.stride.first + shift.distance) || decide (shift.stride.last + shift.distance < 65)

theorem isUpper_bounds (capital : c.isUpper = true) : 65 ≤ c.toNat ∧ c.toNat ≤ 90 := by
  have bounds : decide ('A'.val ≤ c.val ∧ c.val ≤ 'Z'.val) = true := capital
  simp only [decide_eq_true_eq, UInt32.le_iff_toNat_le] at bounds
  exact bounds

theorem isUpper_ofNat {code : Nat} (outside : code < 65 ∨ 90 < code) : (Char.ofNat code).isUpper = false := by
  rw [Bool.eq_false_iff]
  intro capital
  by_cases valid : code.isValidChar
  · rw [Char.ofNat, dif_pos valid] at capital
    have bounds : 65 ≤ code ∧ code ≤ 90 := isUpper_bounds capital
    omega
  · rw [Char.ofNat, dif_neg valid] at capital
    exact absurd capital (by decide)

theorem isUpper_of_not_ascii (wide : ¬ isAscii c = true) : c.isUpper = false := by
  rw [Bool.eq_false_iff]
  intro capital
  have bounds := isUpper_bounds capital
  rw [isAscii, decide_eq_true_eq] at wide
  omega

/-- No letter beyond ASCII is lowered to an ASCII capital. -/
theorem isUpper_of_mem_mapCase (wide : ¬ isAscii c = true) :
    ∀ d ∈ mapCase toLowerStrings toLowerShifts c, d.isUpper = false := by
  have strings : ∀ entry ∈ toLowerStrings, ∀ code ∈ entry.2, code < 65 ∨ 90 < code := by decide
  have shifts : ∀ shift ∈ toLowerShifts, missesCapitals shift = true := by decide +kernel
  unfold mapCase
  split
  · rename_i codes found
    intro d member
    obtain ⟨code, listed, rfl⟩ := List.mem_map.mp member
    exact isUpper_ofNat (strings _ (List.mem_of_find?_eq_some found) code listed)
  · split
    · rename_i shift found
      have misses := shifts shift (List.mem_of_find?_eq_some found)
      have inside := List.find?_some found
      simp only [Stride.holds, Bool.and_eq_true, decide_eq_true_eq] at inside
      rw [missesCapitals, Bool.or_eq_true, decide_eq_true_eq, decide_eq_true_eq] at misses
      intro d member
      rw [List.mem_singleton.mp member]
      exact isUpper_ofNat (by omega)
    · intro d member
      rw [List.mem_singleton.mp member]
      exact isUpper_of_not_ascii wide

theorem isUpper_of_mem_lowerChar (c : Char) : ∀ d ∈ lowerChar c, d.isUpper = false := by
  have codes : ∀ code < 128, (Char.ofNat code).toLower.isUpper = false := by decide +kernel
  unfold lowerChar
  split
  · rename_i ascii
    intro d member
    rw [List.mem_singleton.mp member]
    exact forall_of_ascii (p := fun c => c.toLower.isUpper = false) codes ascii
  · rename_i wide
    exact isUpper_of_mem_mapCase wide

theorem isUpper_of_mem_lowerFrom (before text : List Char) :
    ∀ letters ∈ lowerFrom before text, ∀ c ∈ letters, c.isUpper = false := by
  induction text generalizing before with
  | nil => exact nofun
  | cons c text ih =>
    rw [lowerFrom]
    refine List.forall_mem_cons.mpr ⟨?_, ih (c :: before)⟩
    split
    · unfold lowerSigma
      intro d member
      rw [List.mem_singleton.mp member]
      split <;> decide
    · exact isUpper_of_mem_lowerChar c

/-- A lowered text has no ASCII capital. -/
theorem isUpper_of_mem_lowerChars (text : List Char) : ∀ c ∈ lowerChars text, c.isUpper = false := by
  unfold lowerChars
  intro c member
  split at member
  · obtain ⟨letters, listed, inside⟩ := List.mem_flatten.mp member
    exact isUpper_of_mem_lowerFrom [] text letters listed c inside
  · obtain ⟨d, -, inside⟩ := List.mem_flatMap.mp member
    exact isUpper_of_mem_lowerChar d c inside

end

/-! ### Joined texts backwards -/

theorem intercalate_concat (separator : List Char) {items : List (List Char)} (some : items ≠ [])
    (last : List Char) :
    separator.intercalate (items ++ [last]) = separator.intercalate items ++ (separator ++ last) := by
  induction items with
  | nil => exact absurd rfl some
  | cons item items ih =>
    cases items with
    | nil =>
      rw [List.singleton_append, List.intercalate_cons_cons, List.intercalate_singleton,
        List.intercalate_singleton, List.append_assoc]
    | cons next items =>
      rw [List.cons_append, List.cons_append, List.intercalate_cons_cons, List.intercalate_cons_cons,
        ← List.cons_append, ih (List.cons_ne_nil _ _)]
      simp only [List.append_assoc]

theorem reverse_intercalate (separator : List Char) (items : List (List Char)) :
    (separator.intercalate items).reverse =
      separator.reverse.intercalate (items.map List.reverse).reverse := by
  induction items with
  | nil => rfl
  | cons item items ih =>
    cases items with
    | nil =>
      rw [List.intercalate_singleton, List.map_singleton, List.reverse_singleton,
        List.intercalate_singleton]
    | cons next items =>
      have whole : ((item :: next :: items).map List.reverse).reverse =
          ((next :: items).map List.reverse).reverse ++ [item.reverse] := List.reverse_cons
      rw [List.intercalate_cons_cons, List.reverse_append, List.reverse_append, ih, whole,
        intercalate_concat _ (by simp)]

/-! ### Writing a slug -/

section

variable {c : Char} {slug text : List Char} {items : List (List Char)}

/-- A slug that is written backwards: runs between single hyphens, or one more hyphen before them. -/
inductive Growing : List Char → Prop where
  | ended (runs : List (List Char)) (small : AreRuns runs) : Growing (['-'].intercalate runs)
  | parted (runs : List (List Char)) (small : AreRuns runs) (some : runs ≠ []) :
    Growing ('-' :: ['-'].intercalate runs)

theorem isSmall_of_plain (char : isPlainAlphanumeric c = true) (plain : c.isUpper = false) :
    isSmall c = true := by
  have kinds : (c.isUpper || c.isLower || c.isDigit) = true := char
  rwa [plain, Bool.false_or] at kinds

theorem ne_hyphen_of_small (small : isSmall c = true) : c ≠ '-' := by
  rintro rfl
  cases small

theorem AreRuns.cons {run : List Char} (runs : AreRuns (run :: items)) (small : isSmall c = true) :
    AreRuns ((c :: run) :: items) := by
  obtain ⟨first, later⟩ := List.forall_mem_cons.mp runs
  exact List.forall_mem_cons.mpr ⟨⟨List.cons_ne_nil c run, List.forall_mem_cons.mpr ⟨small, first.2⟩⟩, later⟩

theorem AreRuns.single (runs : AreRuns items) (small : isSmall c = true) : AreRuns ([c] :: items) := by
  refine List.forall_mem_cons.mpr ⟨⟨List.cons_ne_nil c [], ?_⟩, runs⟩
  exact List.forall_mem_cons.mpr ⟨small, nofun⟩

/-- Joined runs begin with a small letter or a digit, unless there are none. -/
theorem intercalate_head (runs : AreRuns items) :
    ['-'].intercalate items = [] ∧ items = [] ∨
      ∃ c rest, ['-'].intercalate items = c :: rest ∧ isSmall c = true := by
  cases items with
  | nil => exact .inl ⟨rfl, rfl⟩
  | cons run items =>
    obtain ⟨⟨some, small⟩, -⟩ := List.forall_mem_cons.mp runs
    cases run with
    | nil => exact absurd rfl some
    | cons c run =>
      cases items with
      | nil => exact .inr ⟨c, run, List.intercalate_singleton, small c List.mem_cons_self⟩
      | cons next items =>
        exact .inr ⟨c, _, List.intercalate_cons_cons_left, small c List.mem_cons_self⟩

/-- A character that is no capital makes a slug grow. -/
theorem Growing.step (growing : Growing slug) (plain : c.isUpper = false) : Growing (slugStep slug c) := by
  unfold slugStep
  by_cases char : isPlainAlphanumeric c = true
  · have small := isSmall_of_plain char plain
    rw [if_pos char]
    cases growing with
    | ended runs all =>
      cases runs with
      | nil => exact .ended [[c]] (all.single small)
      | cons run runs =>
        rw [← List.intercalate_cons_cons_left]
        exact .ended ((c :: run) :: runs) (all.cons small)
    | parted runs all some =>
      obtain ⟨run, runs, rfl⟩ := List.exists_cons_of_ne_nil some
      exact .ended ([c] :: run :: runs) (all.single small)
  · rw [if_neg char]
    -- A hyphen is written behind a run only: not at the beginning, and not behind another one.
    cases growing with
    | ended runs all =>
      rcases intercalate_head all with ⟨none, rfl⟩ | ⟨d, rest, some, small⟩
      · exact .ended [] all
      · have other := ne_hyphen_of_small small
        have filled : runs ≠ [] := by
          rintro rfl
          cases some
        rw [some, if_neg (by simpa using other), ← some]
        exact .parted runs all filled
    | parted runs all some => exact .parted runs all some

theorem growing_foldl (plain : ∀ c ∈ text, c.isUpper = false) (growing : Growing slug) :
    Growing (text.foldl slugStep slug) := by
  induction text generalizing slug with
  | nil => exact growing
  | cons c text ih =>
    obtain ⟨first, later⟩ := List.forall_mem_cons.mp plain
    exact ih later (growing.step first)

theorem dropWhile_hyphen (slug : List Char) :
    ('-' :: slug).dropWhile (· == '-') = slug.dropWhile (· == '-') := rfl

theorem dropWhile_other (other : c ≠ '-') (slug : List Char) :
    (c :: slug).dropWhile (· == '-') = c :: slug := by
  simp [other]

theorem dropWhile_intercalate (runs : AreRuns items) :
    (['-'].intercalate items).dropWhile (· == '-') = ['-'].intercalate items := by
  rcases intercalate_head runs with ⟨none, -⟩ | ⟨c, rest, some, small⟩
  · rw [none]
    rfl
  · rw [some, dropWhile_other (ne_hyphen_of_small small)]

/-- The hyphen that is too much is dropped. -/
theorem Growing.dropWhile (growing : Growing slug) :
    ∃ runs, AreRuns runs ∧ slug.dropWhile (· == '-') = ['-'].intercalate runs := by
  cases growing with
  | ended runs all => exact ⟨runs, all, dropWhile_intercalate all⟩
  | parted runs all some =>
    refine ⟨runs, all, ?_⟩
    rw [dropWhile_hyphen, dropWhile_intercalate all]

theorem areRuns_reverse (runs : AreRuns items) : AreRuns (items.map List.reverse).reverse := by
  intro run listed
  obtain ⟨item, member, rfl⟩ := List.mem_map.mp (List.mem_reverse.mp listed)
  obtain ⟨some, small⟩ := runs item member
  exact ⟨fun none => some (List.reverse_eq_nil_iff.mp none),
    fun c inside => small c (List.mem_reverse.mp inside)⟩

theorem areRuns_slugOf (plain : ∀ c ∈ text, c.isUpper = false) :
    ∃ runs, AreRuns runs ∧ slugOf text = ['-'].intercalate runs := by
  have start : Growing [] := .ended [] nofun
  obtain ⟨runs, all, dropped⟩ := (growing_foldl plain start).dropWhile
  refine ⟨_, areRuns_reverse all, ?_⟩
  rw [slugOf, dropped, reverse_intercalate]
  rfl

/-! ### What a slug keeps -/

theorem filter_slugStep (slug : List Char) (c : Char) : (slugStep slug c).filter isPlainAlphanumeric =
    [c].filter isPlainAlphanumeric ++ slug.filter isPlainAlphanumeric := by
  unfold slugStep
  by_cases char : isPlainAlphanumeric c = true
  · rw [if_pos char, List.filter_cons_of_pos char, List.filter_cons_of_pos char]
    rfl
  · rw [if_neg char, List.filter_cons_of_neg char]
    split
    · rfl
    · exact List.filter_cons_of_neg (by decide)

theorem filter_foldl_slugStep (text slug : List Char) : (text.foldl slugStep slug).filter isPlainAlphanumeric =
    (text.filter isPlainAlphanumeric).reverse ++ slug.filter isPlainAlphanumeric := by
  induction text generalizing slug with
  | nil => rfl
  | cons c text ih =>
    have split : (c :: text).filter isPlainAlphanumeric =
        [c].filter isPlainAlphanumeric ++ text.filter isPlainAlphanumeric := List.filter_append [c] text
    have single : ([c].filter isPlainAlphanumeric).reverse = [c].filter isPlainAlphanumeric := by
      rw [← List.filter_reverse, List.reverse_singleton]
    rw [List.foldl_cons, ih, filter_slugStep, split, List.reverse_append, single, List.append_assoc]

theorem filter_dropWhile (slug : List Char) :
    (slug.dropWhile (· == '-')).filter isPlainAlphanumeric = slug.filter isPlainAlphanumeric := by
  induction slug with
  | nil => rfl
  | cons c slug ih =>
    by_cases hyphen : c = '-'
    · subst hyphen
      rw [dropWhile_hyphen, ih, List.filter_cons_of_neg (by decide)]
    · rw [dropWhile_other hyphen]

theorem filter_slugOf (text : List Char) :
    (slugOf text).filter isPlainAlphanumeric = text.filter isPlainAlphanumeric := by
  rw [slugOf, List.filter_reverse, filter_dropWhile, filter_foldl_slugStep, List.filter_nil, List.append_nil,
    List.reverse_reverse]

theorem foldl_slugStep_run {run : List Char} (small : ∀ c ∈ run, isSmall c = true) (slug : List Char) :
    run.foldl slugStep slug = run.reverse ++ slug := by
  induction run generalizing slug with
  | nil => rfl
  | cons c run ih =>
    obtain ⟨first, later⟩ := List.forall_mem_cons.mp small
    rw [List.foldl_cons, slugStep, if_pos (isPlainAlphanumeric_of_small first), ih later]
    simp

/-- A hyphen behind a run is taken over. -/
theorem slugStep_hyphen {run : List Char} (some : run ≠ []) (small : ∀ c ∈ run, isSmall c = true)
    (slug : List Char) : slugStep (run.reverse ++ slug) '-' = '-' :: (run.reverse ++ slug) := by
  obtain ⟨c, front, last⟩ := List.exists_cons_of_ne_nil (fun none => some (List.reverse_eq_nil_iff.mp none))
  have member : c ∈ run := by
    rw [← List.mem_reverse, last]
    exact List.mem_cons_self
  have other := ne_hyphen_of_small (small c member)
  rw [slugStep, if_neg (by decide), last, List.cons_append, if_neg (by simpa using other)]

/-- Joined runs are written as they are. -/
theorem foldl_slugStep_intercalate (runs : AreRuns items) (slug : List Char) :
    (['-'].intercalate items).foldl slugStep slug = (['-'].intercalate items).reverse ++ slug := by
  induction items generalizing slug with
  | nil => rfl
  | cons run items ih =>
    obtain ⟨⟨some, small⟩, later⟩ := List.forall_mem_cons.mp runs
    cases items with
    | nil => rw [List.intercalate_singleton, foldl_slugStep_run small]
    | cons next items =>
      rw [List.intercalate_cons_cons, List.foldl_append, List.foldl_append, foldl_slugStep_run small,
        List.foldl_cons, List.foldl_nil, slugStep_hyphen some small, ih later]
      simp

theorem slugOf_intercalate (runs : AreRuns items) :
    slugOf (['-'].intercalate items) = ['-'].intercalate items := by
  have reversed : (['-'].intercalate items).reverse = ['-'].intercalate (items.map List.reverse).reverse :=
    reverse_intercalate ['-'] items
  rw [slugOf, foldl_slugStep_intercalate runs, List.append_nil, reversed,
    dropWhile_intercalate (areRuns_reverse runs), ← reversed, List.reverse_reverse]

/-! ### Slugs of slugs -/

theorem mem_intercalate (runs : AreRuns items) : ∀ c ∈ ['-'].intercalate items, isSmall c = true ∨ c = '-' := by
  induction items with
  | nil => exact nofun
  | cons run items ih =>
    obtain ⟨⟨-, small⟩, later⟩ := List.forall_mem_cons.mp runs
    cases items with
    | nil =>
      rw [List.intercalate_singleton]
      exact fun c member => .inl (small c member)
    | cons next items =>
      rw [List.intercalate_cons_cons]
      intro c member
      rcases List.mem_append.mp member with before | member
      · rcases List.mem_append.mp before with inside | hyphen
        · exact .inl (small c inside)
        · exact .inr (List.mem_singleton.mp hyphen)
      · exact ih later c member

theorem low_of_plain (plain : isSmall c = true ∨ c = '-') : c.toNat < 0x7F ∧ c.toLower = c := by
  rcases plain with small | rfl
  · exact ⟨@forall_of_small c (fun c => c.toNat < 0x7F) (by decide +kernel) small, toLower_of_small small⟩
  · exact ⟨by decide, by decide⟩

theorem lowerChars_intercalate (runs : AreRuns items) :
    lowerChars (['-'].intercalate items) = ['-'].intercalate items := by
  refine lowerChars_of_kept fun c member => ?_
  obtain ⟨low, kept⟩ := low_of_plain (mem_intercalate runs c member)
  rw [isAscii, decide_eq_true_eq]
  exact ⟨Nat.lt_trans low (by decide), kept⟩

theorem joinSpellings_single (text : List Char) :
    joinSpellings (text.map fun c => [c]) = text.map fun c => [c] := by
  induction text with
  | nil => rfl
  | cons c text ih =>
    cases text with
    | nil => rfl
    | cons d text => exact congrArg ([c] :: ·) ih

/-- Printable ASCII is spelled as it is. -/
theorem toLatin_of_printable (printable : ∀ c ∈ text, c.toNat < 0x7F) : toLatin text = text := by
  have single : text.map spell = text.map fun c => [c] :=
    List.map_congr_left fun c member => if_pos (printable c member)
  rw [toLatin, single, joinSpellings_single, ← List.flatMap_def, List.flatMap_singleton']

theorem toLatin_of_plain (plain : ∀ c ∈ text, isSmall c = true ∨ c = '-') : toLatin text = text :=
  toLatin_of_printable fun c member => (low_of_plain (plain c member)).1

theorem areRuns_slugify (spelled : List Char → List Char) (text : List Char) :
    ∃ runs, AreRuns runs ∧ slugify spelled text = ['-'].intercalate runs :=
  areRuns_slugOf (isUpper_of_mem_lowerChars (spelled text))

/-- A slug is its own slug if its characters are spelled as they are. -/
theorem slugify_slugify {spelled : List Char → List Char}
    (kept : ∀ plain, (∀ c ∈ plain, isSmall c = true ∨ c = '-') → spelled plain = plain) (text : List Char) :
    slugify spelled (slugify spelled text) = slugify spelled text := by
  obtain ⟨runs, small, slug⟩ := areRuns_slugify spelled text
  rw [slug, slugify, kept _ (mem_intercalate small), lowerChars_intercalate small, slugOf_intercalate small]

end

end Stencil.Text

namespace Stencil.Texts

open Catalog (answer)
open Text (AreRuns isPlainAlphanumeric isSmall lowerChars slugify toLatin)

section

variable (options : List (String × Json)) (now : Calendar.Instant)

/-- However a text is spelled, its slug is empty or consists of runs of small letters and digits between single
hyphens, and has the letters and digits of the lowered spelling in their order. If texts of small letters,
digits and hyphens are spelled as they are, it is its own slug; and this is so for the catalog's spelling. -/
theorem slugs_canonical :
    (∀ (spelled : List Char → List Char) (text : List Char),
      (∃ runs, AreRuns runs ∧ slugify spelled text = ['-'].intercalate runs) ∧
      (slugify spelled text).filter isPlainAlphanumeric =
        (lowerChars (spelled text)).filter isPlainAlphanumeric ∧
      ((∀ plain, (∀ c ∈ plain, isSmall c = true ∨ c = '-') → spelled plain = plain) →
        slugify spelled (slugify spelled text) = slugify spelled text)) ∧
    ∀ text : String, ∃ slug, slug.toList = slugify toLatin text.toList ∧
      answer options now "slugify" [.string text] = .ok (.string slug) ∧
      answer options now "slugify" [.string slug] = .ok (.string slug) := by
  have serves : Catalog.helper? "slugify" = some (onText (slugify toLatin)) := rfl
  refine ⟨fun spelled text => ⟨Text.areRuns_slugify spelled text, Text.filter_slugOf _,
    fun kept => Text.slugify_slugify kept text⟩, ?_⟩
  intro text
  have again : slugify toLatin (slugify toLatin text.toList) = slugify toLatin text.toList :=
    Text.slugify_slugify (fun _ => Text.toLatin_of_plain) text.toList
  refine ⟨_, String.toList_ofList, answer_onText options now serves text, ?_⟩
  rw [answer_onText options now serves, String.toList_ofList, again]

end

/-- Letters with marks lose them, and what stands between the words is one hyphen in the slug. -/
theorem slugs_canonical_accented :
    (∀ plain, (∀ c ∈ plain, isSmall c = true ∨ c = '-') → toLatin plain = plain) ∧
    slugify toLatin " Crème -- brûlée!".toList = "creme-brulee".toList ∧
    slugify toLatin "creme-brulee".toList = "creme-brulee".toList := by
  have kept : ∀ plain, (∀ c ∈ plain, isSmall c = true ∨ c = '-') → toLatin plain = plain :=
    fun _ => Text.toLatin_of_plain
  have slug : slugify toLatin " Crème -- brûlée!".toList = "creme-brulee".toList := by decide +kernel
  obtain ⟨-, -, again⟩ := (slugs_canonical [] ⟨0, 0, 0⟩).1 toLatin " Crème -- brûlée!".toList
  have own := again kept
  rw [slug] at own
  exact ⟨kept, slug, own⟩

end Stencil.Texts
