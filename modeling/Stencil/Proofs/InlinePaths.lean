import Stencil.Proofs.InlineSyntax
import Stencil.Proofs.WrittenCalls

set_option autoImplicit false

/-!
Paths of inline tags. A path of names is read up to its end (`Path.read?_append`), and it is neither a
reserved word nor the beginning of a literal, so it is an argument as it is written (`Path.written`).
-/

namespace Stencil.Inline

open Template (Segment isNameChar)
open Template.Path (isSeparator)

variable {more : List Char}

/-! ### Names -/

namespace Name

variable (name : Name)

theorem nameChars : ∀ c ∈ name.text, isNameChar c = true := fun c member => (name.chars c member).1

theorem begins_eq : ∃ c others, name.text = c :: others ∧ isNameChar c = true ∧ c.isDigit = false ∧
    c ≠ '-' := by
  have begins := name.begins
  have chars := name.nameChars
  cases same : name.text with
  | nil =>
    rw [same] at begins
    cases begins
  | cons c others =>
    rw [same] at begins chars
    simp only [List.head?_cons, Option.any_some, Bool.and_eq_true, Bool.not_eq_true',
      bne_iff_ne] at begins
    exact ⟨c, others, rfl, chars c List.mem_cons_self, begins⟩

theorem nonempty : name.text ≠ [] := by
  obtain ⟨c, others, same, _⟩ := name.begins_eq
  simp [same]

/-- The name of an option. -/
def key : OptionName :=
  ⟨String.ofList name.text, by simpa using name.nonempty, by simpa using name.nameChars⟩

end Name

/-! ### Paths -/

/-- Where a path ends. -/
def EndsPath (more : List Char) : Prop :=
  ∀ c, more.head? = some c → isNameChar c = false ∧ isSeparator c = false

theorem endsPath_nil : EndsPath [] := nofun

def Name.segment (name : Name) : Segment := .named (String.ofList name.text)

def Lead.segments : Lead → List Segment
  | .outer => [.up]
  | _ => []

/-- The path that is written. -/
def Path.target (path : Path) : Template.Path :=
  ⟨String.ofList path.text, path.lead.segments ++ (path.first :: path.others).map Name.segment⟩

theorem readItem?_name (name : Name) (stop : ∀ c, more.head? = some c → isNameChar c = false) :
    Template.Path.readItem? (name.text ++ more) = some ([name.segment], more) := by
  obtain ⟨c, others, same, char, _⟩ := name.begins_eq
  have bracket : c ≠ '[' := Template.Path.ne_of_isNameChar char (by decide)
  have item : Template.Path.readItem? (name.text ++ more) =
      if ((name.text ++ more).takeWhile isNameChar).isEmpty then none
      else some (Template.Path.segmentOf ((name.text ++ more).takeWhile isNameChar),
        (name.text ++ more).dropWhile isNameChar) := by
    rw [same]
    exact Template.Path.readItem?.eq_2 _ fun tail equal => bracket (List.cons.inj equal).1
  have dropped : (name.text ++ more).dropWhile isNameChar = more := by
    rw [List.dropWhile_append_of_pos name.nameChars]
    cases more with
    | nil => rfl
    | cons d more => exact List.dropWhile_cons_of_neg (by simp [stop d rfl])
  have named : name.text ≠ "this".toList := by
    intro this
    exact name.free (this ▸ by decide)
  rw [item, dropped, Template.Path.takeWhile_append_stop name.nameChars stop, if_neg (by
    simpa using name.nonempty), Template.Path.segmentOf, if_neg named]
  rfl

theorem head?_pointed (names : List Name) (ends : EndsPath more) :
    ∀ c, (pointed names ++ more).head? = some c → isNameChar c = false := by
  intro c found
  cases names with
  | nil => exact (ends c found).1
  | cons name names =>
    cases found
    decide

theorem readItems_pointed (ends : EndsPath more) (names : List Name) :
    ∀ fuel, (pointed names).length ≤ fuel →
      Template.Path.readItems fuel (pointed names ++ more) = (names.map Name.segment, more) := by
  induction names with
  | nil =>
    intro fuel _
    cases fuel with
    | zero => rfl
    | succ fuel =>
      cases more with
      | nil => rfl
      | cons c more => simp [pointed, Template.Path.readItems, (ends c rfl).2]
  | cons name names ih =>
    intro fuel enough
    have parts : pointed (name :: names) = '.' :: (name.text ++ pointed names) := by simp [pointed]
    rw [parts] at enough ⊢
    simp only [List.length_cons, List.length_append] at enough
    obtain ⟨fuel, rfl⟩ : ∃ less, fuel = less + 1 := ⟨fuel - 1, by omega⟩
    rw [List.cons_append, List.append_assoc, Template.Path.readItems, if_pos (by decide),
      readItem?_name name (head?_pointed names ends)]
    simp only [ih fuel (by omega)]
    rfl

/-- A name is no longer word, so more of the name stands behind a word that it begins with. -/
theorem Name.behind_word (name : Name) (stop : ∀ c, more.head? = some c → isNameChar c = false)
    {word rest : List Char} (chars : word.all isNameChar = true) (other : name.text ≠ word)
    (found : Text.after? word (name.text ++ more) = some rest) :
    ∃ c others, rest = c :: others ∧ isNameChar c = true ∧
      name.text = word ++ rest.takeWhile isNameChar := by
  have whole := congrArg (List.takeWhile isNameChar) (Text.after?_eq_some_iff.mp found)
  rw [Template.Path.takeWhile_append_stop name.nameChars stop,
    List.takeWhile_append_of_pos (List.all_eq_true.mp chars)] at whole
  cases rest with
  | nil => exact absurd (whole.trans (by simp)) other
  | cons c others =>
    cases char : isNameChar c with
    | true => exact ⟨c, others, rfl, char, whole⟩
    | false => exact absurd (whole.trans (by simp [char])) other

/-- A name is not the word before the current context. -/
theorem wordAndSeparator?_name (name : Name)
    (stop : ∀ c, more.head? = some c → isNameChar c = false) :
    Template.Path.wordAndSeparator? "this".toList (name.text ++ more) = none := by
  cases found : Text.after? "this".toList (name.text ++ more) with
  | none => rw [Template.Path.wordAndSeparator?, found]
  | some rest =>
    have other : name.text ≠ "this".toList := fun same => name.free (same ▸ by decide)
    obtain ⟨c, others, rfl, char, _⟩ := name.behind_word stop rfl other found
    have plain : isSeparator c = false := by
      cases separates : isSeparator c with
      | false => rfl
      | true =>
        rw [Template.Path.not_isNameChar_of_isSeparator separates] at char
        cases char
    rw [Template.Path.wordAndSeparator?, found]
    simp [plain]

/-- What begins with a character of a name begins neither the root nor a mark nor a step outward. -/
theorem readUps_of_name {c : Char} (char : isNameChar c = true) (others : List Char) :
    Template.Path.readRoot (c :: others) = ([], c :: others) ∧
      Template.Path.readMark (c :: others) = ([], c :: others) ∧
      Template.Path.readUps (c :: others) = ([], c :: others) := by
  have dot : c ≠ '.' := Template.Path.ne_of_isNameChar char (by decide)
  have mark : c ≠ '@' := Template.Path.ne_of_isNameChar char (by decide)
  refine ⟨?_, ?_, ?_⟩
  · simp [Template.Path.readRoot, Template.Path.wordAndSeparator?, Text.after?, Ne.symm mark]
  · simp [Template.Path.readMark, mark]
  · exact Template.Path.readUps.eq_2 _ fun d tail same => dot (List.cons.inj same).1

/-- What stands before the first name of a path is passed, as steps outward. -/
theorem Lead.passed (lead : Lead) {c : Char} (char : isNameChar c = true) {others : List Char}
    (plain : Template.Path.wordAndSeparator? "this".toList (c :: others) = Option.none) :
    ∃ behind, Template.Path.dropCurrent (lead.text ++ c :: others) = behind ∧
      Template.Path.readRoot behind = ([], behind) ∧ Template.Path.readMark behind = ([], behind) ∧
      Template.Path.readUps behind = (lead.segments, c :: others) := by
  obtain ⟨root, mark, ups⟩ := readUps_of_name char others
  cases lead with
  | none =>
    have dot : c ≠ '.' := Template.Path.ne_of_isNameChar char (by decide)
    refine ⟨c :: others, ?_, root, mark, ups⟩
    rw [text, List.nil_append, Template.Path.dropCurrent, plain]
    simp [Text.after?, Ne.symm dot]
  | this => exact ⟨c :: others, rfl, root, mark, ups⟩
  | outer =>
    refine ⟨"../".toList ++ c :: others, rfl, rfl, rfl, ?_⟩
    show Template.Path.readUps ('.' :: '.' :: '/' :: c :: others) = _
    rw [Template.Path.readUps, if_pos (by decide), ups]
    rfl

/-- A path is read up to its end. -/
theorem Path.read?_append (path : Path) (ends : EndsPath more) :
    Template.Path.read? (path.text ++ more) = some (path.target, more) := by
  have raw : (path.text ++ more).take ((path.text ++ more).length - more.length) = path.text := by
    rw [List.length_append, Nat.add_sub_cancel, List.take_left]
  obtain ⟨lead, first, others⟩ := path
  obtain ⟨c, letters, same, char, _⟩ := first.begins_eq
  have stop := head?_pointed others ends
  have item := readItem?_name first stop
  have items := readItems_pointed ends others (pointed others ++ more).length (by simp)
  have plain := wordAndSeparator?_name first stop
  rw [same, List.cons_append] at plain item
  obtain ⟨behind, current, root, mark, ups⟩ := lead.passed char plain
  have whole : Path.text ⟨lead, first, others⟩ ++ more =
      lead.text ++ c :: (letters ++ (pointed others ++ more)) := by
    simp [Path.text, same]
  rw [whole] at raw ⊢
  simp only [Template.Path.read?, current, root, mark, ups, item, items, raw]
  simp [Path.target]

/-- No `else` begins with a name. -/
theorem Name.not_else (name : Name) (stop : ∀ c, more.head? = some c → isNameChar c = false) :
    Text.after? "else".toList (name.text ++ more) = none := by
  cases found : Text.after? "else".toList (name.text ++ more) with
  | none => rfl
  | some rest =>
    have apart := name.apart
    have other : name.text ≠ "else".toList := by
      intro same
      rw [same] at apart
      cases apart
    obtain ⟨_, _, _, _, same⟩ := name.behind_word stop rfl other found
    rw [Text.after?_eq_some_iff.mpr same] at apart
    cases apart

/-- A name is not `as` with blanks behind it. -/
theorem Name.isReserved_append (name : Name)
    (stop : ∀ c, more.head? = some c → isNameChar c = false) :
    Template.isReserved (name.text ++ more) = false := by
  have words : Template.isReserved (name.text ++ more) =
      (Text.after? "as".toList (name.text ++ more)).any
        fun rest => Template.endsName (Template.skip rest) := by
    simp only [Template.isReserved, List.findSome?_cons, name.not_else stop, List.findSome?_nil]
    cases Text.after? "as".toList (name.text ++ more) <;> rfl
  rw [words]
  cases found : Text.after? "as".toList (name.text ++ more) with
  | none => rfl
  | some rest =>
    have other : name.text ≠ "as".toList := fun same => name.free (same ▸ by decide)
    obtain ⟨c, others, rfl, char, _⟩ := name.behind_word stop rfl other found
    have solid := Template.isSpace_of_beginsArgument (Template.beginsArgument_of_isNameChar char)
    simp [Template.skip, solid, Template.endsName, char]

/-- A name is no fixed word. -/
theorem Name.afterWord?_append (name : Name)
    (stop : ∀ c, more.head? = some c → isNameChar c = false) :
    Template.afterWord? (name.text ++ more) = none := by
  rw [Template.afterWord?, Option.filter_eq_none_iff]
  intro rest found
  obtain ⟨word, member, found⟩ := List.exists_of_findSome?_eq_some found
  have words : ∀ word ∈ ["null", "true", "false"],
      word.toList ∈ reserved ∧ word.toList.all isNameChar = true := by decide
  have fixed := words word member
  have other : name.text ≠ word.toList := fun same => name.free (same ▸ fixed.1)
  obtain ⟨c, others, rfl, char, _⟩ := name.behind_word stop fixed.2 other found
  simp [Template.endsName, char]

/-- Nor does one begin with a path. -/
theorem Path.not_else (path : Path) (ends : EndsPath more) :
    Text.after? "else".toList (path.text ++ more) = none := by
  obtain ⟨lead, first, others⟩ := path
  cases lead with
  | none =>
    have free := first.not_else (head?_pointed others ends)
    simpa [Path.text, Lead.text] using free
  | outer => rfl
  | this => rfl

namespace Path

variable (path : Path)

theorem isReserved_eq : Template.isReserved path.text = false := by
  obtain ⟨lead, first, others⟩ := path
  cases lead with
  | none =>
    have stop := head?_pointed others endsPath_nil
    rw [List.append_nil] at stop
    exact first.isReserved_append stop
  | outer => rfl
  | this => rfl

/-- No literal begins with a path. -/
theorem beginsNone_eq : Template.beginsNone path.text = true := by
  obtain ⟨lead, first, others⟩ := path
  cases lead with
  | none =>
    have stop := head?_pointed others endsPath_nil
    rw [List.append_nil] at stop
    have word := first.afterWord?_append stop
    obtain ⟨c, letters, same, char, digit, minus⟩ := first.begins_eq
    have unquoted : "\"'[\x7b".toList.contains c = false :=
      Text.contains_eq_false (isNameChar · = true) char (Text.forall_mem_of_all (by decide))
    have number : Template.afterNumber? (first.text ++ pointed others) = none := by
      simp [same, Template.afterNumber?, Text.after?, Ne.symm minus, digit]
    have head : (first.text ++ pointed others).head? = some c := by
      rw [same]
      rfl
    simp only [Template.beginsNone, text, Lead.text, List.nil_append, number, word, head,
      Option.any_some, unquoted]
    rfl
  | outer => rfl
  | this => rfl

/-- A path as an argument. -/
def written : Template.WrittenPath where
  text := path.text
  path := path.target
  read := by
    have read := path.read?_append endsPath_nil
    rwa [List.append_nil] at read
  free := path.isReserved_eq
  apart := Template.apart_of_unbracketed path.beginsNone_eq

end Path

end Stencil.Inline
