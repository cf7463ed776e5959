import Mathlib.Data.List.TakeWhile
import Stencil.Proofs.BaseVariable

set_option autoImplicit false

/-!
Paths to a name, as they are written: an optional `this.`, `this/` or `./`, steps outward, further `this`
segments, and then the name with segments behind it. Each of them is read as a whole, and looked up by that
name first (`read?_text`).
-/

namespace Stencil.Template

open Stencil.Template.Path

/-- What stands between two segments. -/
inductive Separator where
  | point
  | slash
  deriving DecidableEq

def Separator.char : Separator → Char
  | point => '.'
  | slash => '/'

theorem Separator.separates (separator : Separator) : isSeparator separator.char = true := by
  cases separator <;> rfl

/-- What may stand in front of a path. -/
inductive PathStart where
  | bare
  | itself (separator : Separator)
  | here

def PathStart.text : PathStart → List Char
  | bare => []
  | itself separator => "this".toList ++ [separator.char]
  | here => "./".toList

/-- A segment behind the name. -/
inductive FurtherSegment where
  | name (text : List Char)
  | bracketed (body : List Char)

namespace FurtherSegment

def text : FurtherSegment → List Char
  | name text => text
  | bracketed body => '[' :: (body ++ [']'])

/-- The segment as a step. -/
def steps : FurtherSegment → List Segment
  | name text => segmentOf text
  | bracketed body => segmentOf body

def Valid : FurtherSegment → Prop
  | name text => text ≠ [] ∧ ∀ c ∈ text, isNameChar c = true
  | bracketed body => ']' ∉ body

end FurtherSegment

def upsText (ups : List Separator) : List Char := ups.flatMap fun up => ['.', '.', up.char]

def selvesText (selves : List Separator) : List Char :=
  selves.flatMap fun separator => "this".toList ++ [separator.char]

def furtherText (further : List (Separator × FurtherSegment)) : List Char :=
  further.flatMap fun (separator, segment) => separator.char :: segment.text

/-- A path of which the first segment that is no `this` is a name. -/
structure NamedPath where
  start : PathStart
  /-- The separator behind each step outward. -/
  ups : List Separator
  /-- The separator behind each `this` among the segments. -/
  selves : List Separator
  name : List Char
  further : List (Separator × FurtherSegment)
  nonempty : name ≠ []
  chars : ∀ c ∈ name, isNameChar c = true
  other : name ≠ "this".toList
  valid : ∀ segment ∈ further, segment.2.Valid

namespace NamedPath

/-- The name and what stands behind it. -/
def tail (path : NamedPath) : List Char := path.name ++ furtherText path.further

def text (path : NamedPath) : List Char :=
  path.start.text ++ (upsText path.ups ++ (selvesText path.selves ++ path.tail))

def raw (path : NamedPath) : String := String.ofList path.text

/-- The path as it is looked up. -/
def path (path : NamedPath) : Path :=
  ⟨path.raw, List.replicate path.ups.length .up ++
    .named (String.ofList path.name) :: path.further.flatMap fun (_, segment) => segment.steps⟩

theorem firstName?_path (path : NamedPath) : path.path.firstName? = some (String.ofList path.name) := by
  simp only [firstName?, NamedPath.path, outward_climb]

end NamedPath

/-! ### Reading segments -/

theorem readItem?_name {text more : List Char} (nonempty : text ≠ [])
    (chars : ∀ c ∈ text, isNameChar c = true) (stops : ∀ c, more.head? = some c → isNameChar c = false) :
    readItem? (text ++ more) = some (segmentOf text, more) := by
  have taken : (text ++ more).takeWhile isNameChar = text := takeWhile_append_stop chars stops
  have dropped : (text ++ more).dropWhile isNameChar = more := by
    rw [List.dropWhile_append_of_pos chars]
    exact Text.dropWhile_of_head stops
  have named : ∀ rest, text ++ more ≠ '[' :: rest := by
    intro rest same
    obtain ⟨c, others, rfl⟩ := List.exists_cons_of_ne_nil nonempty
    have bracket : c = '[' := (List.cons.inj same).1
    exact ne_of_isNameChar (chars c List.mem_cons_self) (by decide) bracket
  rw [readItem?.eq_2 _ named]
  simp [taken, dropped, nonempty]

theorem readItem?_segment {segment : FurtherSegment} (valid : segment.Valid) {more : List Char}
    (stops : ∀ c, more.head? = some c → isNameChar c = false) :
    readItem? (segment.text ++ more) = some (segment.steps, more) := by
  cases segment with
  | name text => exact readItem?_name valid.1 valid.2 stops
  | bracketed body =>
    have inside : ∀ c ∈ body, (c != ']') = true := by
      intro c member
      rw [bne_iff_ne]
      rintro rfl
      exact valid member
    have whole : body ++ [']'] ++ more = body ++ ']' :: more := List.append_assoc body [']'] more
    have dropped : (body ++ [']'] ++ more).dropWhile (· != ']') = ']' :: more := by
      rw [whole, List.dropWhile_append_of_pos inside]
      simp
    have taken : (body ++ [']'] ++ more).takeWhile (· != ']') = body := by
      rw [whole]
      exact takeWhile_append_stop inside (by simp)
    simp only [FurtherSegment.text, FurtherSegment.steps, List.cons_append, readItem?, dropped, taken]

theorem head_furtherText {further : List (Separator × FurtherSegment)} :
    ∀ c, (furtherText further).head? = some c → isSeparator c = true := by
  intro c found
  cases further with
  | nil => cases found
  | cons first further =>
    cases found
    exact first.1.separates

theorem readItems_furtherText {further : List (Separator × FurtherSegment)}
    (valid : ∀ segment ∈ further, segment.2.Valid) (fuel : Nat)
    (enough : (furtherText further).length ≤ fuel) : readItems fuel (furtherText further) =
      (further.flatMap fun (_, segment) => segment.steps, []) := by
  induction further generalizing fuel with
  | nil => cases fuel <;> rfl
  | cons first further ih =>
    obtain ⟨separator, segment⟩ := first
    obtain ⟨here, later⟩ := List.forall_mem_cons.mp valid
    have split : furtherText ((separator, segment) :: further) =
        separator.char :: (segment.text ++ furtherText further) := rfl
    rw [split, List.length_cons, List.length_append] at enough
    obtain ⟨less, rfl⟩ : ∃ less, fuel = less + 1 := ⟨fuel - 1, by omega⟩
    have item : readItem? (segment.text ++ furtherText further) =
        some (segment.steps, furtherText further) :=
      readItem?_segment here fun c found => not_isNameChar_of_isSeparator (head_furtherText c found)
    rw [split, readItems, if_pos separator.separates, item]
    simp only [ih later less (by omega), List.flatMap_cons]

namespace NamedPath

variable (path : NamedPath)

theorem readItem?_tail : readItem? path.tail =
    some ([.named (String.ofList path.name)], furtherText path.further) := by
  have named : segmentOf path.name = [.named (String.ofList path.name)] := if_neg path.other
  rw [← named]
  exact readItem?_name path.nonempty path.chars fun c found =>
    not_isNameChar_of_isSeparator (head_furtherText c found)

/-- However many `this` stand before it, the name is the first segment that is read. -/
theorem read_selves (selves : List Separator) : ∃ first left more,
    readItem? (selvesText selves ++ path.tail) = some (first, left) ∧
      left.length ≤ (selvesText selves ++ path.tail).length ∧
      (∀ fuel, left.length ≤ fuel → readItems fuel left = (more, [])) ∧
      first ++ more =
        .named (String.ofList path.name) :: path.further.flatMap fun (_, segment) => segment.steps := by
  induction selves with
  | nil =>
    refine ⟨_, _, _, path.readItem?_tail, ?_, fun fuel enough =>
      readItems_furtherText path.valid fuel enough, rfl⟩
    simp [selvesText, tail]
  | cons separator selves ih =>
    obtain ⟨first, left, more, item, shorter, rest, segments⟩ := ih
    have split : selvesText (separator :: selves) ++ path.tail =
        "this".toList ++ separator.char :: (selvesText selves ++ path.tail) := rfl
    have itself : readItem? (selvesText (separator :: selves) ++ path.tail) =
        some ([], separator.char :: (selvesText selves ++ path.tail)) := by
      rw [split]
      refine readItem?_name (by decide) (List.all_eq_true.mp (by decide)) ?_
      intro c found
      cases found
      exact not_isNameChar_of_isSeparator separator.separates
    refine ⟨[], _, first ++ more, itself, ?_, fun fuel enough => ?_, segments⟩
    · rw [split, List.length_append]
      omega
    · rw [List.length_cons] at enough
      obtain ⟨less, rfl⟩ : ∃ less, fuel = less + 1 := ⟨fuel - 1, by omega⟩
      rw [readItems, if_pos separator.separates, item]
      simp only [rest less (by omega)]

/-! ### Reading the path -/

/-- The first character behind the steps outward. -/
theorem head_selves (selves : List Separator) : ∃ c rest, selvesText selves ++ path.tail = c :: rest ∧
    isNameChar c = true := by
  cases selves with
  | nil =>
    obtain ⟨c, others, name⟩ := List.exists_cons_of_ne_nil path.nonempty
    refine ⟨c, others ++ furtherText path.further, ?_, path.chars c (by rw [name]; exact List.mem_cons_self)⟩
    rw [selvesText, List.flatMap_nil, List.nil_append, tail, name, List.cons_append]
  | cons separator selves => exact ⟨'t', _, rfl, by decide⟩

theorem head_ups (ups selves : List Separator) : ∃ c rest,
    upsText ups ++ (selvesText selves ++ path.tail) = c :: rest ∧ c ≠ '@' := by
  cases ups with
  | nil =>
    obtain ⟨c, rest, same, char⟩ := path.head_selves selves
    exact ⟨c, rest, same, ne_of_isNameChar char (by decide)⟩
  | cons up ups => exact ⟨'.', _, rfl, by decide⟩

theorem readUps_upsText (ups selves : List Separator) :
    readUps (upsText ups ++ (selvesText selves ++ path.tail)) =
      (List.replicate ups.length .up, selvesText selves ++ path.tail) := by
  induction ups with
  | nil =>
    obtain ⟨c, rest, same, char⟩ := path.head_selves selves
    have other : c ≠ '.' := ne_of_isNameChar char (by decide)
    rw [upsText, List.flatMap_nil, List.nil_append, same]
    exact readUps.eq_2 _ fun _ _ begins => other (List.cons.inj begins).1
  | cons up ups ih =>
    have split : upsText (up :: ups) ++ (selvesText selves ++ path.tail) =
        '.' :: '.' :: up.char :: (upsText ups ++ (selvesText selves ++ path.tail)) := rfl
    rw [split, readUps, if_pos up.separates, ih]
    rfl

/-- The name is not the word `this`. -/
theorem tail_ne_this {c : Char} (separates : isSeparator c = true) (rest : List Char) :
    path.tail ≠ "this".toList ++ c :: rest := by
  intro same
  have plain : ∀ d ∈ "this".toList, isNameChar d = true := List.all_eq_true.mp (by decide)
  have word : path.tail.takeWhile isNameChar = "this".toList := by
    rw [same]
    refine takeWhile_append_stop plain fun d found => ?_
    cases found
    exact not_isNameChar_of_isSeparator separates
  refine path.other (Eq.trans ?_ word)
  refine (takeWhile_append_stop path.chars fun d found => ?_).symm
  exact not_isNameChar_of_isSeparator (head_furtherText d found)

theorem dropCurrent_itself (separator : Separator) (text : List Char) :
    dropCurrent ("this".toList ++ separator.char :: text) = text := by
  have found : wordAndSeparator? "this".toList ("this".toList ++ separator.char :: text) = some text := by
    have after : Text.after? "this".toList ("this".toList ++ separator.char :: text) =
        some (separator.char :: text) := Text.after?_eq_some_iff.mpr rfl
    rw [wordAndSeparator?, after]
    exact if_pos separator.separates
  rw [dropCurrent, found]

theorem dropCurrent_of_head {text : List Char} (current : wordAndSeparator? "this".toList text = none)
    (point : Text.after? "./".toList text = none) : dropCurrent text = text := by
  rw [dropCurrent, current, point]
  rfl

theorem dropCurrent_bare (ups selves : List Separator) : ∃ left,
    dropCurrent (upsText ups ++ (selvesText selves ++ path.tail)) =
      upsText ups ++ (selvesText left ++ path.tail) := by
  cases ups with
  | cons up ups =>
    refine ⟨selves, dropCurrent_of_head ?_ ?_⟩
    · rfl
    · rfl
  | nil =>
    cases selves with
    | cons separator selves => exact ⟨selves, dropCurrent_itself separator _⟩
    | nil =>
      obtain ⟨c, rest, same, char⟩ := path.head_selves []
      refine ⟨[], dropCurrent_of_head ?_ ?_⟩
      · rw [Option.eq_none_iff_forall_ne_some]
        intro behind found
        obtain ⟨d, separates, begins⟩ := wordAndSeparator?_some found
        exact path.tail_ne_this separates behind begins
      · rw [upsText, List.flatMap_nil, List.nil_append, same]
        have point : ¬ '.' = c := fun begins => ne_of_isNameChar char (by decide) begins.symm
        exact if_neg point

theorem dropCurrent_text : ∃ left,
    dropCurrent path.text = upsText path.ups ++ (selvesText left ++ path.tail) := by
  rw [text]
  cases path.start with
  | bare => exact path.dropCurrent_bare path.ups path.selves
  | itself separator => exact ⟨path.selves, dropCurrent_itself separator _⟩
  | here => exact ⟨path.selves, rfl⟩

/-- A path is read to its end, and looked up by its name. -/
theorem read?_text : read? path.text = some (path.path, []) := by
  obtain ⟨left, current⟩ := path.dropCurrent_text
  obtain ⟨c, rest, begins, unmarked⟩ := path.head_ups path.ups left
  have root : readRoot (c :: rest) = ([], c :: rest) := by
    have none : wordAndSeparator? "@root".toList (c :: rest) = none := by
      have after : Text.after? "@root".toList (c :: rest) = none := if_neg fun same => unmarked same.symm
      rw [wordAndSeparator?, after]
    rw [readRoot, none]
  have mark : readMark (c :: rest) = ([], c :: rest) :=
    readMark.eq_2 _ fun _ same => unmarked (List.cons.inj same).1
  have climb := path.readUps_upsText path.ups left
  obtain ⟨first, behind, more, item, _, items, segments⟩ := path.read_selves left
  rw [begins] at current climb
  rw [read?, current]
  simp only [root, mark, climb, item, items _ (Nat.le_refl _)]
  rw [List.length_nil, Nat.sub_zero, List.take_length]
  refine congrArg (fun steps => some (Path.mk path.raw steps, [])) ?_
  rw [List.nil_append, List.nil_append, List.append_assoc, segments]

end NamedPath

end Stencil.Template
