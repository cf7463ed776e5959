import Stencil.Helper.Padding

set_option autoImplicit false

/-!
Columns of texts of simple characters. The columns of a text are not the sum of those of its characters,
since characters that follow each other may be drawn as one. Of a text whose characters have no width of
their own just the control characters count (`columns_eq_zero_iff`), and a text whose characters have one
column each has a width (`columns_pos_of_narrow`).
-/

namespace Stencil.Text

open Property

/-! ### Tables that share no character -/

/-- True for strides of which one ends before the other begins. -/
def isApart (first second : Stride) : Bool :=
  Nat.blt first.last second.first || Nat.blt second.last first.first

/-- True for tables of which each two strides are apart. -/
def areApart (left right : List Stride) : Bool :=
  left.all fun first => right.all fun second => isApart first second

theorem bounds_of_holds {stride : Stride} {code : Nat} (holds : stride.holds code = true) :
    stride.first ≤ code ∧ code ≤ stride.last := by
  simp only [Stride.holds, Bool.and_eq_true, decide_eq_true_eq] at holds
  exact holds.1

theorem listed_eq_false_of_apart {left right : List Stride} (apart : areApart left right = true)
    {code : Nat} (member : listed left code = true) : listed right code = false := by
  obtain ⟨first, inLeft, holds⟩ := (listed_iff left code).mp member
  refine Bool.eq_false_iff.mpr fun also => ?_
  obtain ⟨second, inRight, holdsToo⟩ := (listed_iff right code).mp also
  have between := List.all_eq_true.mp (List.all_eq_true.mp apart first inLeft) second inRight
  simp only [isApart, Bool.or_eq_true, Nat.blt_eq] at between
  have low := bounds_of_holds holds
  have high := bounds_of_holds holdsToo
  omega

theorem listed_append (left right : List Stride) (code : Nat) :
    listed (left ++ right) code = (listed left code || listed right code) := List.any_append

theorem listed_run (first last code : Nat) :
    listed [⟨first, last, 1⟩] code = (decide (first ≤ code) && decide (code ≤ last)) := by
  simp [listed, Stride.holds, Nat.mod_one]

/-! ### Characters without a width -/

/-- The characters without a width, apart from the control characters. -/
def silent : List Stride :=
  extending ++ ignorable ++ overlaid ++
    [⟨0x1160, 0x11FF, 1⟩, ⟨0xD7B0, 0xD7C6, 1⟩, ⟨0xD7CB, 0xD7FB, 1⟩]

/-- The characters that may be drawn as one with others. -/
def joining : List Stride :=
  [⟨0x1F3FB, 0x1F3FF, 1⟩] ++ [⟨0x1F1E6, 0x1F1FF, 1⟩] ++ emoji ++ alefLetters ++ [⟨0x5DC, 0x5DC, 1⟩] ++
    [⟨0x1A10, 0x1A10, 1⟩] ++ [⟨0x2D31, 0x2D65, 1⟩] ++ [⟨0x2D6F, 0x2D6F, 1⟩] ++ [⟨0xA4FC, 0xA4FD, 1⟩] ++
    [⟨0x10C03, 0x10C03, 1⟩] ++ khmerLetters ++ [⟨0x16D67, 0x16D68, 1⟩]

/-- Stretches of code points in which all control characters and characters without a width are, and none
of those that may be drawn as one with others or that a selector changes. -/
def quiet : List Stride := [
  ⟨0, 0x1F, 1⟩, ⟨0x7F, 0x9F, 1⟩, ⟨0xAD, 0xAD, 1⟩, ⟨0x300, 0x5C7, 1⟩, ⟨0x605, 0x61C, 1⟩,
  ⟨0x64B, 0x670, 1⟩, ⟨0x6D6, 0x74A, 1⟩, ⟨0x7A6, 0x85B, 1⟩, ⟨0x890, 0x1773, 1⟩, ⟨0x17B4, 0x193B, 1⟩,
  ⟨0x1A17, 0x202E, 1⟩, ⟨0x2060, 0x20F0, 1⟩, ⟨0x2CEF, 0x2CF1, 1⟩, ⟨0x2D7F, 0x302F, 1⟩,
  ⟨0x3099, 0x3164, 1⟩, ⟨0xA66F, 0x10AE6, 1⟩, ⟨0x10D24, 0x16B36, 1⟩, ⟨0x16F4F, 0x1E94A, 1⟩,
  ⟨0xE0000, 0xE0FFF, 1⟩]

/-- True if each stride of a table lies inside of one of another table. -/
def areInside (inner outer : List Stride) : Bool :=
  inner.all fun stride => outer.any fun around =>
    Nat.ble around.first stride.first && Nat.ble stride.last around.last

theorem listed_of_inside {inner outer : List Stride} (inside : areInside inner outer = true)
    (whole : ∀ stride ∈ outer, stride.step = 1) {code : Nat} (member : listed inner code = true) :
    listed outer code = true := by
  obtain ⟨stride, inInner, holds⟩ := (listed_iff inner code).mp member
  obtain ⟨around, inOuter, between⟩ := List.any_eq_true.mp (List.all_eq_true.mp inside stride inInner)
  simp only [Bool.and_eq_true, Nat.ble_eq] at between
  have bounds := bounds_of_holds holds
  refine (listed_iff outer code).mpr ⟨around, inOuter, ?_⟩
  simp only [Stride.holds, whole around inOuter, Nat.mod_one, Bool.and_eq_true, decide_eq_true_eq,
    beq_self_eq_true, and_true]
  omega

theorem silent_quiet : areInside silent quiet = true := by decide +kernel

theorem quiet_apart : areApart quiet joining = true ∧ areApart quiet emojiOnRequest = true ∧
    areApart quiet textOnRequest = true := by
  decide +kernel

theorem listed_silent {code : Nat} (none : codeColumns code = 0) : listed silent code = true := by
  unfold codeColumns at none
  split at none
  · rename_i columns irregular
    have entries : ∀ entry ∈ irregularColumns, entry.2 ≠ 0 := by decide
    obtain ⟨before, after, split, _⟩ := List.lookup_eq_some_iff.mp irregular
    exact absurd none (entries (code, columns) (by rw [split]; simp))
  · split at none
    · rename_i found
      simpa [silent, listed_append, isSyllablePart, listed, Stride.holds, Nat.mod_one, or_assoc] using found
    · split at none <;> cases none

theorem listed_quiet_of_codeColumns {code : Nat} (none : codeColumns code = 0) :
    listed quiet code = true :=
  listed_of_inside silent_quiet (by decide) (listed_silent none)

theorem isControl_iff (c : Char) :
    isControl c = true ↔ c.toNat < 32 ∨ 127 ≤ c.toNat ∧ c.toNat < 160 := by
  simp [isControl]

theorem listed_quiet_of_control {c : Char} (control : isControl c = true) :
    listed quiet c.toNat = true := by
  rcases (isControl_iff c).mp control with low | high
  · refine (listed_iff quiet c.toNat).mpr ⟨⟨0, 0x1F, 1⟩, by simp [quiet], ?_⟩
    simp [Stride.holds, Nat.mod_one]
    omega
  · refine (listed_iff quiet c.toNat).mpr ⟨⟨0x7F, 0x9F, 1⟩, by simp [quiet], ?_⟩
    simp [Stride.holds, Nat.mod_one]
    omega

section

variable {code : Nat}

theorem onsetOf_of_quiet (still : listed quiet code = true) : onsetOf code = .other := by
  have apart := listed_eq_false_of_apart quiet_apart.1 still
  simp only [joining, listed_append, listed_run, Bool.or_eq_false_iff] at apart
  obtain ⟨⟨⟨⟨⟨⟨⟨⟨⟨⟨⟨tone, region⟩, picture⟩, alef⟩, lamed⟩, ya⟩, tifinagh⟩, joiner⟩, lisu⟩, orkhon⟩,
    khmer⟩, vowel⟩ := apart
  have letters : code ≠ 0x5DC ∧ code ≠ 0x1A10 ∧ ¬ (code = 0xA4FC ∨ code = 0xA4FD) ∧ code ≠ 0x10C03 ∧
      code ≠ 0x16D67 ∧ code ≠ 0x16D68 ∧ code ≠ 0x2D6F := by
    simp only [Bool.and_eq_false_iff, decide_eq_false_iff_not] at lamed ya lisu orkhon vowel joiner
    omega
  have named : isTone code = false ∧ isRegional code = false ∧ isTifinagh code = false := by
    refine ⟨tone, region, ?_⟩
    rw [isTifinagh, tifinagh, Bool.false_or, beq_eq_false_iff_ne]
    exact letters.2.2.2.2.2.2
  simp [onsetOf, letters, named, picture, alef, khmer]

theorem not_accepts_of_quiet (still : listed quiet code = true) :
    acceptsEmojiStyle code = false ∧ acceptsTextStyle code = false := by
  have onRequest := listed_eq_false_of_apart quiet_apart.2.1 still
  have plain := listed_eq_false_of_apart quiet_apart.2.2 still
  simp [acceptsEmojiStyle, acceptsTextStyle, onRequest, plain]

end

/-! ### Texts without a width -/

/-- Nothing that follows is joined with what stands before it. -/
def Still (beginning : Beginning) : Prop := beginning.onset = .other ∨ beginning.onset = .lineFeed

section

variable {code : Nat} {beginning : Beginning}

theorem Still.select (still : Still beginning) (style : Style) :
    (beginning.select style).onset = .other := by
  rcases still with onset | onset <;> simp [Beginning.select, onset, Onset.passesSelectors, Onset.isJoined]

theorem Still.unselected (still : Still beginning) :
    beginning.unselected = beginning ∨ beginning.unselected = .plain := by
  unfold Beginning.unselected
  split
  · exact .inl rfl
  · rcases still with onset | onset <;> simp [onset, Onset.passesSelectors]

theorem Still.not_joined (still : Still beginning) :
    beginning.onset.joinEmoji? code = none ∧ beginning.onset.joinLetter? code = none := by
  rcases still with onset | onset <;> simp [onset, Onset.joinEmoji?, Onset.joinLetter?]

/-- What a character meets that does not become an emoji: a selector of one is taken away before. -/
theorem extend_of_not_accepts (refuses : acceptsEmojiStyle code = false) (still : Still beginning) :
    ∃ met, Still met ∧ (met.onset = .lineFeed → beginning.onset = .lineFeed) ∧
      met.style ≠ some .emoji ∧ extend code beginning = extend code met := by
  by_cases asks : beginning.style = some .emoji
  · -- Nothing still is passed on through a selector, so what is met is the beginning of an empty text.
    have gone : beginning.unselected = .plain := by
      rcases still with onset | onset <;>
        simp [Beginning.unselected, asks, onset, Onset.passesSelectors]
    refine ⟨.plain, .inl rfl, nofun, nofun, ?_⟩
    have plain : Beginning.plain.style ≠ some .emoji := nofun
    simp only [extend, refuses, Bool.false_eq_true, and_false, if_false, if_pos asks, if_neg plain, gone]
  · exact ⟨beginning, still, id, asks, rfl⟩

/-- A character without a width adds no columns and leaves the text before it alone. -/
theorem extend_of_silent (none : codeColumns code = 0) (large : 0xA0 < code) (still : Still beginning) :
    (extend code beginning).1 = 0 ∧ (extend code beginning).2.onset = .other := by
  have quietly := listed_quiet_of_codeColumns none
  obtain ⟨emojiStyle, textStyle⟩ := not_accepts_of_quiet quietly
  have above : ¬ code ≤ 0xA0 := by omega
  obtain ⟨met, still, _, plain, same⟩ := extend_of_not_accepts emojiStyle still
  rw [same, extend, if_neg (by simp [plain])]
  simp only [if_neg plain, if_neg above]
  by_cases selects : code = emojiSelector
  · rw [if_pos selects]
    exact ⟨rfl, still.select .emoji⟩
  rw [if_neg selects]
  by_cases selectsText : code = textSelector
  · rw [if_pos selectsText]
    exact ⟨rfl, still.select .text⟩
  rw [if_neg selectsText, if_neg (by simp [textStyle])]
  have apart : (met.unselected.onset.joinEmoji? code).or (met.unselected.onset.joinLetter? code) = .none := by
    rcases still.unselected with same | same
    · rw [same]
      simp [still.not_joined]
    · rw [same]
      rfl
  rw [apart]
  exact ⟨by simp [none], onsetOf_of_quiet quietly⟩

/-- A control character adds a column, unless it is one before a line feed that the line feed stands
for. -/
theorem extend_of_low (refuses : acceptsEmojiStyle code = false) (low : code ≤ 0xA0)
    (still : Still beginning) :
    ((extend code beginning).1 = 1 ∨ (extend code beginning).1 = 0 ∧ beginning.onset = .lineFeed) ∧
      Still (extend code beginning).2 ∧
      ((extend code beginning).2.onset = .lineFeed → (extend code beginning).1 = 1) := by
  obtain ⟨met, _, onset, plain, same⟩ := extend_of_not_accepts refuses still
  rw [same, extend, if_neg (by simp [plain])]
  simp only [if_neg plain, if_pos low]
  by_cases breaks : code = 0x0A
  · rw [if_pos breaks]
    exact ⟨.inl rfl, .inr rfl, fun _ => rfl⟩
  rw [if_neg breaks]
  by_cases returns : code = 0x0D ∧ met.onset = .lineFeed
  · rw [if_pos returns]
    exact ⟨.inr ⟨rfl, onset returns.2⟩, .inl rfl, nofun⟩
  · rw [if_neg returns]
    exact ⟨.inl rfl, .inl rfl, nofun⟩

end

theorem measure_cons (c : Char) (text : List Char) : measure (c :: text) =
    ((measure text).1 + (extend c.toNat (measure text).2).1, (extend c.toNat (measure text).2).2) := rfl

/-- A character without a width is a control character or one of the tables. -/
theorem width_eq_zero_iff (c : Char) : Padding.width c = 0 ↔
    isControl c = true ∨ isControl c = false ∧ 0xA0 < c.toNat ∧ codeColumns c.toNat = 0 := by
  unfold Padding.width charColumns
  by_cases control : isControl c = true
  · simp [control]
  · have high : isAscii c = false → codeColumns c.toNat = 0 → 0xA0 < c.toNat := by
      intro foreign none
      have space : codeColumns 0xA0 ≠ 0 := by decide +kernel
      have other : c.toNat ≠ 0xA0 := fun same => space (same ▸ none)
      rw [isControl_iff] at control
      simp only [isAscii, decide_eq_false_iff_not] at foreign
      omega
    by_cases ascii : isAscii c = true
    · have low : c.toNat < 128 := by simpa [isAscii] using ascii
      simp [control, ascii]
      omega
    · simp [control, ascii]
      exact fun none => high (by simpa using ascii) none

/-- What the measure of a text without a width is: nothing before the text is joined with it, and only
its control characters were counted. A line feed before which another character may vanish was counted. -/
structure Unwide (text : List Char) (measured : Int × Beginning) : Prop where
  still : Still measured.2
  lineFeed : measured.2.onset = .lineFeed → 0 < measured.1
  nonneg : 0 ≤ measured.1
  counted : 0 < measured.1 ↔ ∃ c ∈ text, isControl c = true

theorem Unwide.cons {c : Char} {text : List Char} {measured : Int × Beginning}
    (empty : Padding.width c = 0) (unwide : Unwide text measured) :
    Unwide (c :: text) (measured.1 + (extend c.toNat measured.2).1, (extend c.toNat measured.2).2) := by
  obtain ⟨still, lineFeed, nonneg, counted⟩ := unwide
  rcases (width_eq_zero_iff c).mp empty with control | ⟨visible, large, none⟩
  · -- The control character is counted, or it vanishes before a line feed that was.
    have low : c.toNat ≤ 0xA0 := by
      have bounds := (isControl_iff c).mp control
      omega
    have refuses := (not_accepts_of_quiet (listed_quiet_of_control control)).1
    obtain ⟨columns, stillAfter, lineFeedAfter⟩ := extend_of_low refuses low still
    have positive : 0 < measured.1 + (extend c.toNat measured.2).1 := by
      rcases columns with one | ⟨vanishes, onset⟩
      · omega
      · have before := lineFeed onset
        omega
    exact ⟨stillAfter, fun _ => positive, Int.le_of_lt positive,
      iff_of_true positive ⟨c, List.mem_cons_self, control⟩⟩
  · obtain ⟨nothing, onset⟩ := extend_of_silent none large still
    refine ⟨.inl onset, fun feeds => ?_, ?_, ?_⟩
    · rw [onset] at feeds
      cases feeds
    · simp only [nothing]
      omega
    · simp only [nothing, Int.add_zero, counted, List.mem_cons, exists_eq_or_imp, visible,
        Bool.false_eq_true, false_or]

theorem unwide_measure {text : List Char} (empty : ∀ c ∈ text, Padding.width c = 0) :
    Unwide text (measure text) := by
  induction text with
  | nil => exact ⟨.inl rfl, nofun, Int.le_refl 0, by simp [measure]⟩
  | cons c text ih =>
    rw [measure_cons]
    exact .cons (empty c List.mem_cons_self) (ih fun other member => empty other (.tail _ member))

/-- A text whose characters have no width has columns just if there are control characters in it. -/
theorem columns_eq_zero_iff {text : List Char} (empty : ∀ c ∈ text, Padding.width c = 0) :
    columns text = 0 ↔ ∀ c ∈ text, isControl c = false := by
  have counted := (unwide_measure empty).counted
  have none : columns text = 0 ↔ ¬ 0 < (measure text).1 := by
    unfold columns
    omega
  simp [none, counted]

/-! ### Texts of narrow characters -/

/-- The columns that a character in front may take back of those counted for a text that begins so. None
for beginnings with a joiner or with parts of a tag, which texts of narrow characters do not have. -/
def owed : Onset → Option Int
  | .joined | .joinedKey | .joinedRegion | .joinedRegions _ | .joinedLetters _ | .joinedDigits _ => none
  | .partner .tifinaghBehindJoiner _ => some 1
  | _ => some 0

theorem owed_nonneg {onset : Onset} {debt : Int} (owes : owed onset = some debt) : 0 ≤ debt := by
  unfold owed at owes
  split at owes <;> cases owes <;> decide

theorem owed_onsetOf (code : Nat) : owed (onsetOf code) = some 0 := by
  simp only [onsetOf, apply_ite owed]
  simp only [owed, ite_self]

section

variable {code : Nat}

theorem ne_of_narrow {other : Nat} (narrow : codeColumns code = 1) (different : codeColumns other ≠ 1) :
    code ≠ other := by
  rintro rfl
  exact different narrow

/-- A narrow character that joins what stands behind it takes back no more than is owed. -/
theorem owed_of_joins (narrow : codeColumns code = 1) {onset next : Onset} {debt columns : Int}
    (owes : owed onset = some debt)
    (joins : (onset.joinEmoji? code).or (onset.joinLetter? code) = some (columns, next)) :
    ∃ rest, owed next = some rest ∧ rest ≤ debt + columns := by
  have notJoiner : code ≠ joiner := ne_of_narrow narrow (by decide +kernel)
  have notSubjoined : code ≠ 0x17D2 := ne_of_narrow narrow (by decide +kernel)
  cases onset with
  | partner letter tied =>
    simp only [Onset.joinEmoji?, Onset.joinLetter?, Option.none_or, if_neg notJoiner] at joins
    split at joins
    · cases joins
      exact ⟨debt, owes, by omega⟩
    · cases letter with
      | tifinagh =>
        cases owes
        simp only at joins
        repeat' split at joins
        all_goals cases joins
        · exact ⟨1, rfl, by decide⟩
        · exact ⟨0, rfl, by decide⟩
      | _ =>
        cases owes
        cases tied
        all_goals
          simp only at joins
          repeat' split at joins
        all_goals cases joins
        all_goals exact ⟨0, rfl, by decide⟩
  | joined | joinedKey | joinedRegion | joinedRegions | joinedLetters | joinedDigits => cases owes
  | _ =>
    cases owes
    simp only [Onset.joinEmoji?, Onset.joinLetter?, if_neg notJoiner, Option.or_none, Option.none_or] at joins
    repeat' split at joins
    all_goals cases joins
    all_goals exact ⟨0, rfl, by decide⟩

/-- What is owed after a narrow character, which adds at least what it owes more than what stands behind it;
before a text that is joined with nothing it adds one column more. -/
theorem owed_extend {beginning : Beginning} {debt : Int} (unstyled : beginning.style = none)
    (owes : owed beginning.onset = some debt)
    (narrow : code ≤ 0xA0 ∧ code ≠ 0x0A ∧ code ≠ 0x0D ∨ 0xA0 < code ∧ codeColumns code = 1) :
    ∃ rest, (extend code beginning).2.style = none ∧ owed (extend code beginning).2.onset = some rest ∧
      rest ≤ debt + (extend code beginning).1 ∧
      (beginning.onset = .other → rest + 1 ≤ (extend code beginning).1) := by
  have positive := owed_nonneg owes
  have unselected : beginning.unselected = beginning := by simp [Beginning.unselected, unstyled]
  unfold extend
  simp only [unstyled, reduceCtorEq, false_and, if_false, unselected]
  rcases narrow with ⟨low, notFeed, notReturn⟩ | ⟨large, single⟩
  · simp only [if_pos low, if_neg notFeed, notReturn, false_and, if_false]
    exact ⟨0, rfl, rfl, by omega, fun _ => by decide⟩
  · have notEmoji : code ≠ emojiSelector := ne_of_narrow single (by decide +kernel)
    have notText : code ≠ textSelector := ne_of_narrow single (by decide +kernel)
    simp only [if_neg (Nat.not_le.mpr large), if_neg notEmoji, if_neg notText]
    cases joins : (beginning.onset.joinEmoji? code).or (beginning.onset.joinLetter? code) with
    | none =>
      refine ⟨0, rfl, owed_onsetOf code, ?_, fun _ => ?_⟩
      · simp only [single]
        omega
      · simp [single]
    | some joined =>
      obtain ⟨columns, next⟩ := joined
      obtain ⟨rest, owesNext, less⟩ := owed_of_joins single owes joins
      refine ⟨rest, rfl, owesNext, less, fun other => ?_⟩
      rw [other] at joins
      cases joins

end

theorem narrow_of_width {c : Char} (one : Padding.width c = 1) :
    c.toNat ≤ 0xA0 ∧ c.toNat ≠ 0x0A ∧ c.toNat ≠ 0x0D ∨ 0xA0 < c.toNat ∧ codeColumns c.toNat = 1 := by
  unfold Padding.width charColumns at one
  split at one
  · cases one
  · rename_i visible
    rw [isControl_iff] at visible
    by_cases low : c.toNat ≤ 0xA0
    · exact .inl ⟨low, by omega, by omega⟩
    · have foreign : ¬ isAscii c = true := by
        simp only [isAscii, decide_eq_true_eq]
        omega
      rw [if_neg foreign] at one
      exact .inr ⟨by omega, one⟩

theorem owed_measure {text : List Char} (narrow : ∀ c ∈ text, Padding.width c = 1) :
    ∃ debt, (measure text).2.style = none ∧ owed (measure text).2.onset = some debt ∧
      (text ≠ [] → debt < (measure text).1) := by
  induction text with
  | nil => exact ⟨0, rfl, rfl, fun filled => absurd rfl filled⟩
  | cons c text ih =>
    obtain ⟨debt, unstyled, owes, less⟩ := ih fun other member => narrow other (.tail _ member)
    obtain ⟨rest, unstyledAfter, owesAfter, grows, first⟩ :=
      owed_extend unstyled owes (narrow_of_width (narrow c List.mem_cons_self))
    rw [measure_cons]
    refine ⟨rest, unstyledAfter, owesAfter, fun _ => ?_⟩
    cases text with
    | nil =>
      have added := first rfl
      have nothing : (measure []).1 = 0 := rfl
      simp only [nothing]
      omega
    | cons d text =>
      have before := less (List.cons_ne_nil d text)
      simp only
      omega

/-- A text of characters with one column each has a width. -/
theorem columns_pos_of_narrow {text : List Char} (filled : text ≠ [])
    (narrow : ∀ c ∈ text, Padding.width c = 1) : 0 < columns text := by
  obtain ⟨debt, _, owes, less⟩ := owed_measure narrow
  have positive := owed_nonneg owes
  have counted := less filled
  unfold columns
  omega

end Stencil.Text
