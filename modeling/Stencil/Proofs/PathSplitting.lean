import Stencil.Proofs.FieldPaths
import Stencil.Proofs.NamedPaths
import Stencil.Proofs.VariableNames

set_option autoImplicit false

/-!
Where a path is split into its variable and its fields. The variable of a path to a name is that name, and
its fields are the segments behind it up to the first index, if at most one `this` stands before the name and
none before a step outward; but the fields are lost behind a `./` before a step outward
(`paths_split_alike`).
-/

namespace Stencil.Template

/-- A numeral of 64 bits, which chooses an item of an array. -/
def isIndexNumeral (text : List Char) : Bool :=
  text.all Char.isDigit && decide (Number.Decimal.ofDigits text < Nat.pow 2 64)

def FurtherSegment.isIndex : FurtherSegment → Bool
  | name text => isIndexNumeral text
  | bracketed _ => true

namespace NamedPath

/-- The segments behind the name, up to the first index. -/
def fields (path : NamedPath) : List String :=
  ((path.further.map Prod.snd).takeWhile fun segment => !segment.isIndex).map fun segment =>
    String.ofList segment.text

/-- How often `this` stands before the name. -/
def selfCount (path : NamedPath) : Nat :=
  match path.start with
  | .itself _ => path.selves.length + 1
  | _ => path.selves.length

/-- A path whose name is found: its steps outward end with a slash and do not follow a `this`, and `this`
stands before the name once at most. -/
structure Plain (path : NamedPath) : Prop where
  slashed : ∀ up ∈ path.ups, up = .slash
  apart : ∀ separator, path.start = .itself separator → path.ups = []
  single : path.selfCount ≤ 1

variable {path : NamedPath}

theorem plain_iff_of_itself {separator : Separator} (start : path.start = .itself separator) :
    path.Plain ↔ path.ups = [] ∧ path.selves = [] := by
  have count : path.selfCount = path.selves.length + 1 := by rw [selfCount, start]
  constructor
  · intro plain
    have single := plain.single
    rw [count] at single
    exact ⟨plain.apart separator start, List.eq_nil_of_length_eq_zero (by omega)⟩
  · rintro ⟨ups, selves⟩
    refine ⟨fun up member => ?_, fun _ _ => ups, ?_⟩
    · rw [ups] at member
      cases member
    · rw [count, selves]
      exact Nat.le_refl 1

theorem plain_iff_of_ne_itself (start : ∀ separator, path.start ≠ .itself separator) :
    path.Plain ↔ (∀ up ∈ path.ups, up = .slash) ∧ path.selves.length ≤ 1 := by
  have count : path.selfCount = path.selves.length := by
    rw [selfCount]
    split
    · rename_i separator same
      exact absurd same (start separator)
    · rfl
  constructor
  · intro plain
    exact ⟨plain.slashed, count ▸ plain.single⟩
  · rintro ⟨slashed, single⟩
    exact ⟨slashed, fun separator same => absurd same (start separator), count ▸ single⟩

theorem length_ups_le (ups : List Separator) (text : List Char) :
    ups.length ≤ (upsText ups ++ text).length := by
  induction ups with
  | nil => exact Nat.zero_le _
  | cons up ups ih =>
    have split : upsText (up :: ups) ++ text = '.' :: '.' :: up.char :: (upsText ups ++ text) := rfl
    rw [split]
    simp only [List.length_cons]
    omega

end NamedPath

end Stencil.Template

namespace Stencil.Extraction

open Template (FurtherSegment NamedPath PathStart Separator furtherText head_furtherText isIndexNumeral
  isNameChar selvesText upsText)
open Template.Path (isSeparator ne_of_isNameChar not_isNameChar_of_isSeparator
  not_isSegmentEnd_of_isNameChar takeWhile_append_stop)

/-! ### The variable -/

section

variable (path : NamedPath)

theorem plainBase?_tail : plainBase? path.tail = some (String.ofList path.name) := by
  have whole : path.tail.takeWhile (fun c => !isSegmentEnd c) = path.name := by
    refine takeWhile_append_stop (fun c member => ?_) fun c found => ?_
    · rw [not_isSegmentEnd_of_isNameChar (path.chars c member)]
      rfl
    · rcases Template.Path.separator_cases (head_furtherText c found) with rfl | rfl <;> rfl
  obtain ⟨c, rest, same, char⟩ := path.head_selves []
  have unmarked : path.tail.head? ≠ some '@' := by
    have begins : path.tail = c :: rest := same
    rw [begins]
    intro mark
    exact ne_of_isNameChar char (by decide) (Option.some.inj mark)
  have kept : ¬ (path.name.isEmpty || path.name == "this".toList) = true := by
    rw [Bool.or_eq_true, List.isEmpty_iff, beq_iff_eq, not_or]
    exact ⟨path.nonempty, path.other⟩
  rw [plainBase?, if_neg unmarked]
  simp only [whole]
  exact if_neg kept

theorem dropThis_itself (separator : Separator) (text : List Char) :
    dropThis ("this".toList ++ separator.char :: text) = text :=
  @base_behind_this _ separator.separates text 0

theorem dropThis_tail : dropThis path.tail = path.tail := by
  have dot : Text.after? "this.".toList path.tail = none := by
    rw [Option.eq_none_iff_forall_ne_some]
    intro rest found
    exact path.tail_ne_this (show isSeparator '.' = true from rfl) rest
      ((Text.after?_eq_some_iff.mp found).trans rfl)
  have slash : Text.after? "this/".toList path.tail = none := by
    rw [Option.eq_none_iff_forall_ne_some]
    intro rest found
    exact path.tail_ne_this (show isSeparator '/' = true from rfl) rest
      ((Text.after?_eq_some_iff.mp found).trans rfl)
  rw [dropThis, dot, slash]
  rfl

/-- The first `this` is no variable. -/
theorem plainBase?_selves (selves : List Separator) : plainBase? (selvesText selves ++ path.tail) =
    if selves = [] then some (String.ofList path.name) else none := by
  cases selves with
  | nil => exact plainBase?_tail path
  | cons separator selves => cases separator <;> rfl

theorem dropThis_selves (selves : List Separator) :
    dropThis (selvesText selves ++ path.tail) = selvesText selves.tail ++ path.tail := by
  cases selves with
  | nil => exact dropThis_tail path
  | cons separator selves => exact dropThis_itself separator _

theorem tail_eq_nil_iff {selves : List Separator} : selves.tail = [] ↔ selves.length ≤ 1 := by
  rw [← List.length_eq_zero_iff, List.length_tail]
  omega

theorem plainBase?_dropThis_selves (selves : List Separator) :
    plainBase? (dropThis (selvesText selves ++ path.tail)) =
      if selves.length ≤ 1 then some (String.ofList path.name) else none := by
  rw [dropThis_selves, plainBase?_selves]
  simp only [tail_eq_nil_iff]

/-- Steps outward are dropped if they end with a slash. -/
theorem plainBase?_ups (ups selves : List Separator) (fuel : Nat) (enough : ups.length ≤ fuel) :
    plainBase? (dropThis (dropRelative fuel (upsText ups ++ (selvesText selves ++ path.tail)))) =
      if (∀ up ∈ ups, up = .slash) ∧ selves.length ≤ 1 then some (String.ofList path.name) else none := by
  induction ups generalizing fuel with
  | nil =>
    obtain ⟨c, rest, same, char⟩ := path.head_selves selves
    have other : c ≠ '.' := ne_of_isNameChar char (by decide)
    rw [upsText, List.flatMap_nil, List.nil_append, same, dropRelative_of_head other, ← same,
      plainBase?_dropThis_selves]
    simp
  | cons up ups ih =>
    obtain ⟨less, rfl⟩ : ∃ less, fuel = less + 1 := ⟨fuel - 1, by rw [List.length_cons] at enough; omega⟩
    have split : upsText (up :: ups) ++ (selvesText selves ++ path.tail) =
        '.' :: '.' :: up.char :: (upsText ups ++ (selvesText selves ++ path.tail)) := rfl
    cases up with
    | slash =>
      have dropped : dropRelative (less + 1)
          ('.' :: '.' :: Separator.slash.char :: (upsText ups ++ (selvesText selves ++ path.tail))) =
            dropRelative less (upsText ups ++ (selvesText selves ++ path.tail)) := by
        simp [dropRelative, Text.after?, Separator.char]
      rw [split, dropped, ih less (by rw [List.length_cons] at enough; omega)]
      simp
    | point =>
      have kept : dropRelative (less + 1)
          ('.' :: '.' :: Separator.point.char :: (upsText ups ++ (selvesText selves ++ path.tail))) =
            '.' :: '.' :: '.' :: (upsText ups ++ (selvesText selves ++ path.tail)) := by
        simp [dropRelative, Text.after?, Separator.char]
      rw [split, kept, dropThis_of_head (by decide), plainBase?_dot]
      simp

/-- The variable behind a `this`, where no steps outward are dropped. -/
theorem plainBase?_behind_this (ups selves : List Separator) :
    plainBase? (upsText ups ++ (selvesText selves ++ path.tail)) =
      if ups = [] ∧ selves = [] then some (String.ofList path.name) else none := by
  cases ups with
  | nil =>
    rw [upsText, List.flatMap_nil, List.nil_append, plainBase?_selves]
    simp
  | cons up ups => exact plainBase?_dot _

/-- The variable of a path without white space at its ends. -/
theorem baseVariable?_raw (unpadded : Text.trim path.text = path.text) :
    (path.Plain → baseVariable? path.raw = some (String.ofList path.name)) ∧
      (¬ path.Plain → baseVariable? path.raw = none) := by
  have text : path.raw.toList = path.text := String.toList_ofList
  have base : baseVariable? path.raw =
      plainBase? (dropThis (dropRelative path.text.length path.text)) := by
    rw [baseVariable?_of_unpadded (by rw [text, unpadded]), text]
  rw [base, NamedPath.text]
  cases start : path.start with
  | bare =>
    rw [NamedPath.plain_iff_of_ne_itself (by simp [start]), PathStart.text, List.nil_append,
      plainBase?_ups path _ _ _ (NamedPath.length_ups_le _ _)]
    exact ⟨fun plain => if_pos plain, fun broken => if_neg broken⟩
  | here =>
    rw [NamedPath.plain_iff_of_ne_itself (by simp [start]), PathStart.text]
    have longer : ("./".toList ++ (upsText path.ups ++ (selvesText path.selves ++ path.tail))).length =
        (upsText path.ups ++ (selvesText path.selves ++ path.tail)).length + 1 + 1 := by simp
    have enough := NamedPath.length_ups_le path.ups (selvesText path.selves ++ path.tail)
    rw [longer, dropRelative_current, plainBase?_ups path _ _ _ (Nat.le_succ_of_le enough)]
    exact ⟨fun plain => if_pos plain, fun broken => if_neg broken⟩
  | itself separator =>
    rw [NamedPath.plain_iff_of_itself start, PathStart.text, List.append_assoc, List.singleton_append,
      base_behind_this separator.separates, plainBase?_behind_this]
    exact ⟨fun plain => if_pos plain, fun broken => if_neg broken⟩

/-! ### The fields -/

theorem endsPart_eq (c : Char) : endsPart c = isSeparator c := rfl

theorem splitWhere_append {test : Char → Bool} {text : List Char}
    (free : ∀ c ∈ text, test c = false) (part more : List Char) :
    splitWhere test part (text ++ more) = splitWhere test (text.reverse ++ part) more := by
  induction text generalizing part with
  | nil => rfl
  | cons c text ih =>
    obtain ⟨here, later⟩ := List.forall_mem_cons.mp free
    rw [List.cons_append, splitWhere, here, if_neg Bool.false_ne_true, ih later]
    simp

theorem not_endsPart_of_isNameChar {c : Char} (char : isNameChar c = true) : endsPart c = false := by
  rw [endsPart_eq, ← Bool.not_eq_true]
  intro separates
  rw [not_isNameChar_of_isSeparator separates] at char
  cases char

/-- A name ends the fields if it is an index. -/
theorem endsFields_name {text : List Char} (nonempty : text ≠ [])
    (chars : ∀ c ∈ text, isNameChar c = true) : endsFields text = isIndexNumeral text := by
  have unbracketed : text.contains '[' = false := by
    rw [← Bool.not_eq_true, List.contains_iff_mem]
    exact fun member => ne_of_isNameChar (chars '[' member) (show isNameChar '[' = false by decide) rfl
  obtain ⟨c, rest, rfl⟩ := List.exists_cons_of_ne_nil nonempty
  have unsigned : c ≠ '+' := ne_of_isNameChar (chars c List.mem_cons_self) (by decide)
  have digits : Text.natural? (c :: rest) = if isIndexNumeral (c :: rest) then
      some (Number.Decimal.ofDigits (c :: rest)) else none := by
    unfold Text.natural?
    split
    · rename_i same
      exact absurd (List.cons.inj same).1 unsigned
    · rfl
  rw [endsFields, unbracketed, digits]
  cases isIndexNumeral (c :: rest) <;> rfl

/-- What is split off behind a name begins with the fields. -/
theorem splitWhere_furtherText {further : List (Separator × FurtherSegment)}
    (valid : ∀ segment ∈ further, segment.2.Valid) (part : List Char) : ∃ segments,
      splitWhere endsPart part (furtherText further) = part.reverse :: segments ∧
        (segments.takeWhile fun segment => !endsFields segment) =
          ((further.map Prod.snd).takeWhile fun segment => !segment.isIndex).map FurtherSegment.text := by
  induction further generalizing part with
  | nil => exact ⟨[], rfl, rfl⟩
  | cons first further ih =>
    obtain ⟨separator, segment⟩ := first
    obtain ⟨here, later⟩ := List.forall_mem_cons.mp valid
    have split : splitWhere endsPart part (furtherText ((separator, segment) :: further)) =
        part.reverse :: splitWhere endsPart [] (segment.text ++ furtherText further) := by
      have stops : endsPart separator.char = true := separator.separates
      show splitWhere endsPart part (separator.char :: (segment.text ++ furtherText further)) = _
      rw [splitWhere, if_pos stops]
    refine ⟨_, split, ?_⟩
    cases segment with
    | name text =>
      obtain ⟨segments, same, fields⟩ := ih later text.reverse
      rw [List.reverse_reverse] at same
      rw [FurtherSegment.text, splitWhere_append fun c member =>
        not_endsPart_of_isNameChar (here.2 c member), List.append_nil, same, List.takeWhile_cons,
        endsFields_name here.1 here.2, fields, List.map_cons, List.takeWhile_cons]
      show _ = List.map _ (if (!isIndexNumeral text) = true then _ else _)
      cases isIndexNumeral text <;> rfl
    | bracketed body =>
      have head := head?_splitWhere endsPart [] ((FurtherSegment.bracketed body).text ++ furtherText further)
      obtain ⟨segments, same⟩ := List.head?_eq_some_iff.mp head
      have ends : endsFields ([].reverse ++ ((FurtherSegment.bracketed body).text ++
          furtherText further).takeWhile fun c => !endsPart c) = true := by
        simp [endsFields, FurtherSegment.text, endsPart]
      rw [same, List.takeWhile_cons, ends]
      rfl

/-- The fields behind marks that are dropped. -/
theorem fieldPath_of_unmarked {raw : String} (unmarks : unmarked raw = path.tail) :
    fieldPath raw = path.fields := by
  have free : ∀ c ∈ path.name, endsPart c = false :=
    fun c member => not_endsPart_of_isNameChar (path.chars c member)
  have plain : path.name.contains '[' = false := by
    rw [← Bool.not_eq_true, List.contains_iff_mem]
    exact fun member => ne_of_isNameChar (path.chars '[' member) (show isNameChar '[' = false by decide) rfl
  obtain ⟨segments, split, fields⟩ := splitWhere_furtherText path.valid path.name.reverse
  have parts : pathParts raw = path.name :: segments := by
    rw [pathParts, unmarks, NamedPath.tail, splitWhere_append free, List.append_nil, split,
      List.reverse_reverse]
  rw [fieldPath_eq, parts]
  simp only [plain, Bool.false_eq_true, if_false]
  rw [fields, List.map_map]
  rfl

theorem dropRepeated_of_head {c : Char} {text : List Char} (other : c ≠ '.') (mark : List Char)
    (fuel : Nat) : Text.dropRepeated ('.' :: mark) fuel (c :: text) = c :: text := by
  cases fuel with
  | zero => rfl
  | succ fuel =>
    have absent : Text.after? ('.' :: mark) (c :: text) = none := if_neg fun same => other same.symm
    rw [Text.dropRepeated, absent]

/-- Steps outward are dropped before the fields are read. -/
theorem dropRepeated_ups {ups : List Separator} (slashed : ∀ up ∈ ups, up = .slash) {c : Char}
    {text : List Char} (other : c ≠ '.') (fuel : Nat) (enough : ups.length ≤ fuel) :
    Text.dropRepeated "../".toList fuel (upsText ups ++ c :: text) = c :: text := by
  induction ups generalizing fuel with
  | nil => exact dropRepeated_of_head other _ fuel
  | cons up ups ih =>
    obtain ⟨rfl, later⟩ := List.forall_mem_cons.mp slashed
    obtain ⟨less, rfl⟩ : ∃ less, fuel = less + 1 := ⟨fuel - 1, by rw [List.length_cons] at enough; omega⟩
    exact ih later less (by rw [List.length_cons] at enough; omega)

/-- A single `./` is dropped. -/
theorem dropAll_here (text : List Char) : Text.dropAll "./".toList (Text.dropAll "../".toList
    ("./".toList ++ text)) = Text.dropRepeated "./".toList (text.length + 1) text := by
  have kept : Text.dropAll "../".toList ("./".toList ++ text) = "./".toList ++ text := rfl
  rw [kept]
  rfl

/-- What is dropped in front of the name of a plain path. -/
theorem unmarked_raw (unpadded : Text.trim path.text = path.text) (plain : path.Plain)
    (near : path.start = .here → path.ups = []) : unmarked path.raw = path.tail := by
  have text : Text.trim path.raw.toList = path.text := by
    rw [NamedPath.raw, String.toList_ofList, unpadded]
  obtain ⟨c, rest, begins, char⟩ := path.head_selves path.selves
  have other : c ≠ '.' := ne_of_isNameChar char (by decide)
  rw [unmarked, text, NamedPath.text]
  cases start : path.start with
  | bare =>
    obtain ⟨slashed, single⟩ := (NamedPath.plain_iff_of_ne_itself (by simp [start])).mp plain
    have climbs : Text.dropAll "../".toList (upsText path.ups ++ (c :: rest)) = c :: rest :=
      dropRepeated_ups slashed other _ (NamedPath.length_ups_le _ _)
    have here : Text.dropAll "./".toList (c :: rest) = c :: rest := dropRepeated_of_head other _ _
    rw [PathStart.text, List.nil_append, begins, climbs, here, ← begins, dropThis_selves,
      tail_eq_nil_iff.mpr single]
    rfl
  | here =>
    obtain ⟨_, single⟩ := (NamedPath.plain_iff_of_ne_itself (by simp [start])).mp plain
    have here : Text.dropRepeated "./".toList ((c :: rest).length + 1) (c :: rest) = c :: rest :=
      dropRepeated_of_head other _ _
    rw [near start, PathStart.text, upsText, List.flatMap_nil, List.nil_append, begins, dropAll_here, here,
      ← begins, dropThis_selves, tail_eq_nil_iff.mpr single]
    rfl
  | itself separator =>
    obtain ⟨ups, selves⟩ := (NamedPath.plain_iff_of_itself start).mp plain
    rw [ups, selves, PathStart.text, List.append_assoc]
    exact dropThis_itself separator path.tail

/-- The fields are lost behind a `./` before a step outward. -/
theorem fieldPath_of_mixed (unpadded : Text.trim path.text = path.text) (start : path.start = .here)
    (outward : path.ups ≠ []) : fieldPath path.raw = [] := by
  obtain ⟨up, ups, same⟩ := List.exists_cons_of_ne_nil outward
  have text : Text.trim path.raw.toList = path.text := by
    rw [NamedPath.raw, String.toList_ofList, unpadded]
  have begins : unmarked path.raw = '.' :: '.' :: up.char ::
      (upsText ups ++ (selvesText path.selves ++ path.tail)) := by
    rw [unmarked, text, NamedPath.text, start, same, PathStart.text, dropAll_here]
    rfl
  rw [fieldPath_eq, pathParts, begins]
  rfl

/-! ### White space at the ends -/

/-- No white space stands before the name. -/
theorem marks_solid : ∀ c ∈ path.start.text ++ (upsText path.ups ++ selvesText path.selves),
    Text.isBlank c = false := by
  have this : ∀ separator : Separator, ∀ c ∈ "this".toList ++ [separator.char], Text.isBlank c = false := by
    rintro (_ | _) <;> exact Text.forall_mem_of_all (by decide)
  have point : ∀ c ∈ "./".toList, Text.isBlank c = false := Text.forall_mem_of_all (by decide)
  have outward : ∀ up : Separator, ∀ c ∈ ['.', '.', up.char], Text.isBlank c = false := by
    rintro (_ | _) <;> exact Text.forall_mem_of_all (by decide)
  intro c member
  rcases List.mem_append.mp member with member | member
  · cases start : path.start with
    | bare =>
      rw [start] at member
      cases member
    | itself separator =>
      rw [start] at member
      exact this separator c member
    | here =>
      rw [start] at member
      exact point c member
  · rcases List.mem_append.mp member with member | member
    · obtain ⟨up, _, member⟩ := List.mem_flatMap.mp member
      exact outward up c member
    · obtain ⟨separator, _, member⟩ := List.mem_flatMap.mp member
      exact this separator c member

/-- White space at an end of the name is not reported, if the path ends with the name. -/
theorem baseVariable?_of_padded (ends : path.further = []) (padded : Text.trim path.text ≠ path.text) :
    baseVariable? path.raw ≠ some (String.ofList path.name) := by
  intro base
  have part := part_of_baseVariable? base
  rw [NamedPath.raw, String.toList_ofList, String.toList_ofList] at part
  obtain ⟨before, after, split, blank⟩ := trim_split path.text
  obtain ⟨b, member⟩ : ∃ b, b ∈ before ++ after := by
    refine List.exists_mem_of_ne_nil _ fun empty => padded ?_
    obtain ⟨rfl, rfl⟩ := List.append_eq_nil_iff.mp empty
    simpa using split
  have marks : path.text =
      (path.start.text ++ (upsText path.ups ++ selvesText path.selves)) ++ path.name := by
    simp [NamedPath.text, NamedPath.tail, ends, furtherText]
  have none : (path.start.text ++ (upsText path.ups ++ selvesText path.selves)).count b = 0 := by
    refine List.count_eq_zero.mpr fun marked => ?_
    have solid := marks_solid path b marked
    rw [blank b member] at solid
    cases solid
  -- The name holds each white space of the path, but the trimmed path does not.
  have whole : path.text.count b = path.name.count b := by
    rw [marks, List.count_append, none, Nat.zero_add]
  have lost : (Text.trim path.text).count b < path.text.count b := by
    have some : 0 < (before ++ after).count b := List.count_pos_iff.mpr member
    conv_rhs => rw [← split]
    rw [List.count_append] at some
    rw [List.count_append, List.count_append]
    omega
  have kept := part.sublist.count_le b
  omega

/-! ### Both -/

/-- A path whose variable and fields are where the name is. -/
structure SplitsAtName (path : NamedPath) : Prop where
  unpadded : Text.trim path.text = path.text
  plain : path.Plain
  near : path.start = .here → path.ups = []

theorem SplitsAtName.fieldPath_eq {path : NamedPath} (splits : SplitsAtName path) :
    fieldPath path.raw = path.fields :=
  fieldPath_of_unmarked path (unmarked_raw path splits.unpadded splits.plain splits.near)

/-- A path to a name is read as a whole and looked up by that name first. If no white space borders it, the
name is its variable, unless a second `this` stands before the name, a step outward stands behind a `this` or
ends with a point; and its fields are the segments behind the name up to the first index, unless a step outward
stands behind a `./`. So paths that differ in their marks alone have one variable and one shape. White space
that ends the path with the name is not a part of the variable. -/
theorem paths_split_alike (path : NamedPath) :
    Template.Path.read? path.text = some (path.path, []) ∧
      path.path.firstName? = some (String.ofList path.name) ∧
      (Text.trim path.text = path.text →
        (path.Plain → baseVariable? path.raw = some (String.ofList path.name)) ∧
        (¬ path.Plain → baseVariable? path.raw = none) ∧
        (path.Plain → (path.start = .here → path.ups = []) → fieldPath path.raw = path.fields) ∧
        (path.start = .here → path.ups ≠ [] → fieldPath path.raw = [])) ∧
      (SplitsAtName path → ∀ other, SplitsAtName other → other.name = path.name →
        other.further = path.further → baseVariable? other.raw = baseVariable? path.raw ∧
          ∀ role shifted,
            Observation.of ⟨other.raw, role, shifted⟩ = Observation.of ⟨path.raw, role, shifted⟩) ∧
      (path.further = [] → Text.trim path.text ≠ path.text →
        baseVariable? path.raw ≠ some (String.ofList path.name)) := by
  refine ⟨path.read?_text, path.firstName?_path, fun unpadded => ⟨?_, ?_, ?_, ?_⟩, ?_, ?_⟩
  · exact (baseVariable?_raw path unpadded).1
  · exact (baseVariable?_raw path unpadded).2
  · exact fun plain near => fieldPath_of_unmarked path (unmarked_raw path unpadded plain near)
  · exact fieldPath_of_mixed path unpadded
  · intro splits other alike name further
    have fields : fieldPath other.raw = fieldPath path.raw := by
      rw [splits.fieldPath_eq, alike.fieldPath_eq, NamedPath.fields, NamedPath.fields, further]
    refine ⟨?_, fun role shifted => ?_⟩
    · rw [(baseVariable?_raw other alike.unpadded).1 alike.plain,
        (baseVariable?_raw path splits.unpadded).1 splits.plain, name]
    · rw [Observation.of, Observation.of, fields]
  · exact baseVariable?_of_padded path

/-- A path to the first of some items. -/
def itemPath (start : PathStart) (ups selves : List Separator) : NamedPath where
  start := start
  ups := ups
  selves := selves
  name := "items".toList
  further := [(.point, .name "a".toList), (.point, .bracketed "0".toList), (.slash, .name "b".toList)]
  nonempty := by decide
  chars := List.all_eq_true.mp (by decide)
  other := by decide
  valid := by
    simp only [List.mem_cons, List.not_mem_nil, or_false, forall_eq_or_imp, forall_eq]
    refine ⟨⟨by decide, List.all_eq_true.mp (by decide)⟩, ?_, by decide, List.all_eq_true.mp (by decide)⟩
    show ']' ∉ "0".toList
    decide

/-- A name that ends with a no-break space. -/
def spacedPath : NamedPath where
  start := .itself .point
  ups := []
  selves := []
  name := "x\u00a0".toList
  further := []
  nonempty := by decide
  chars := List.all_eq_true.mp (by decide)
  other := by decide
  valid := List.forall_mem_nil _

theorem splits_outward : SplitsAtName (itemPath .bare [.slash, .slash] [.point]) :=
  ⟨by decide, ⟨by decide, fun _ other => (by cases other), by decide⟩, fun other => (by cases other)⟩

theorem splits_here : SplitsAtName (itemPath .here [] []) :=
  ⟨by decide, ⟨by decide, fun _ _ => rfl, by decide⟩, fun _ => rfl⟩

theorem paths_split_alike_items :
    (itemPath .bare [.slash, .slash] [.point]).raw = "../../this.items.a.[0]/b" ∧
      baseVariable? "../../this.items.a.[0]/b" = some "items" ∧
      fieldPath "../../this.items.a.[0]/b" = ["a"] ∧
      baseVariable? "./items.a.[0]/b" = baseVariable? "../../this.items.a.[0]/b" ∧
      baseVariable? "this/../items.a.[0]/b" = none ∧
      fieldPath "./../items.a.[0]/b" = [] ∧
      baseVariable? "this.x\u00a0" ≠ some "x\u00a0" := by
  obtain ⟨_, _, split, alike, _⟩ := paths_split_alike (itemPath .bare [.slash, .slash] [.point])
  obtain ⟨variable_eq, _, fields_eq, _⟩ := split splits_outward.unpadded
  obtain ⟨_, _, broken, _, _⟩ := paths_split_alike (itemPath (.itself .slash) [.slash] [])
  obtain ⟨_, _, mixed, _, _⟩ := paths_split_alike (itemPath .here [.slash] [])
  obtain ⟨_, _, _, _, padded⟩ := paths_split_alike spacedPath
  refine ⟨by decide, variable_eq splits_outward.plain, fields_eq splits_outward.plain splits_outward.near,
    (alike splits_outward _ splits_here rfl rfl).1, (broken (by decide)).2.1 fun plain => ?_,
    (mixed (by decide)).2.2.2 rfl (by decide), padded rfl (by decide)⟩
  cases plain.apart .slash rfl

end

end Stencil.Extraction
