import Stencil.Proofs.CoveredTemplates
import Stencil.Proofs.InlineWords

set_option autoImplicit false

/-!
Inline sources are scanned. The regions of a source are the contents of its tags (`regions_source`), and
a region has the variables of all paths in its tag (`regionVariables_content`).
-/

namespace Stencil.Inline

open Extraction (Bare Breaks wordsFrom)
open Template (isNameChar)

/-! ### Contents of tags -/

theorem Leaf.bare_end {before : List Char} (leaf : Leaf) : ∃ front c,
    before ++ leaf.text = front ++ [c] ∧ Text.isBlank c = false ∧ c ≠ '~' := by
  obtain ⟨front, c, same, solid, other, _⟩ := leaf.last
  exact ⟨before ++ front, c, by simp [same], solid, other⟩

mutual

/-- Arguments end with a leaf or a parenthesis. -/
theorem Argument.bare_end : ∀ (argument : Argument) (before : List Char), ∃ front c,
    before ++ argument.text = front ++ [c] ∧ Text.isBlank c = false ∧ c ≠ '~'
  | .leaf leaf, before => leaf.bare_end
  | .option key leaf, before => by
    have ends := @Leaf.bare_end (before ++ key.text ++ ['=']) leaf
    simpa [Argument.text] using ends
  | .call helper arguments, before =>
    ⟨before ++ '(' :: (helper.text ++ arguments.text), ')', by simp [Argument.text], by decide⟩

theorem Arguments.bare_end : ∀ (arguments : Arguments) (before : List Char), ∃ front c,
    before ++ arguments.text = front ++ [c] ∧ Text.isBlank c = false ∧ c ≠ '~'
  | .last argument, before => by
    have ends := argument.bare_end (before ++ [' '])
    simpa [Arguments.text] using ends
  | .next argument arguments, before => by
    have ends := arguments.bare_end (before ++ ' ' :: argument.text)
    simpa [Arguments.text] using ends

end

theorem Name.unclosed (name : Name) : '\x7d' ∉ name.text :=
  fun member => ne_of_isLeafChar (name.leafChars _ member) (by decide) rfl

theorem Path.unclosed (path : Path) : '\x7d' ∉ path.text := (Leaf.path path).unclosed

mutual

theorem Argument.unclosed : ∀ argument : Argument, '\x7d' ∉ argument.text
  | .leaf leaf => leaf.unclosed
  | .option key leaf => by
    have free := key.unclosed
    simpa [Argument.text, free] using leaf.unclosed
  | .call helper arguments => by
    have free := helper.unclosed
    simpa [Argument.text, free] using arguments.unclosed

/-- No tag ends in arguments. -/
theorem Arguments.unclosed : ∀ arguments : Arguments, '\x7d' ∉ arguments.text
  | .last argument => by simpa [Arguments.text] using argument.unclosed
  | .next argument arguments => by
    simpa [Arguments.text] using ⟨argument.unclosed, arguments.unclosed⟩

end

/-- The content of a tag without what stands around a value. -/
def Tag.bare : Tag → List Char
  | .value path => path.text
  | .trimmed path => path.text
  | .plain path => path.text
  | .call helper arguments => helper.text ++ arguments.text

/-- The variables of all paths in a tag. -/
def Tag.variables : Tag → List String
  | .value path => (Leaf.path path).base?.toList
  | .trimmed path => (Leaf.path path).base?.toList
  | .plain path => (Leaf.path path).base?.toList
  | .call _ arguments => arguments.variables

theorem Tag.unclosed (tag : Tag) : '\x7d' ∉ tag.content := by
  cases tag with
  | value path => exact path.unclosed
  | trimmed path => simpa [content] using path.unclosed
  | plain path => simpa [content] using path.unclosed
  | call helper arguments => simpa [content] using ⟨helper.unclosed, arguments.unclosed⟩

theorem Path.isBare (path : Path) : Bare path.text := by
  refine ⟨?_, @Leaf.bare_end [] (.path path)⟩
  obtain ⟨c, others, same, begins, _⟩ := path.begins
  have solid := not_isBlank_of_isLeafChar (path.leafChars c (by simp [same]))
  refine ⟨c, others, same, solid, fun mark => ?_⟩
  have marks : ∀ d ∈ "\x7b~&#/^>!".toList, isNameChar d = false ∧ d ≠ '.' :=
    Text.forall_mem_of_all (by decide)
  exact ne_of_beginsPath begins (marks c mark) rfl

theorem Arguments.isBare (helper : Name) (arguments : Arguments) :
    Bare (helper.text ++ arguments.text) := by
  refine ⟨?_, arguments.bare_end helper.text⟩
  obtain ⟨c, others, same, char, _⟩ := helper.begins_eq
  have solid := not_isBlank_of_isLeafChar (helper.leafChars c (by simp [same]))
  refine ⟨c, others ++ arguments.text, by simp [same], solid, fun mark => ?_⟩
  have marks : ∀ d ∈ "\x7b~&#/^>!".toList, isNameChar d = false :=
    Text.forall_mem_of_all (by decide)
  exact Template.Path.ne_of_isNameChar char (marks c mark) rfl

theorem valuePart?_content (tag : Tag) : Extraction.valuePart? tag.content = some tag.bare := by
  have free : ∀ path : Path, Text.after? "else".toList path.text = none := by
    intro path
    have free := path.not_else endsPath_nil
    rwa [List.append_nil] at free
  cases tag with
  | value path => exact path.isBare.valuePart?_eq path.isBare.cleaned_eq (free path)
  | trimmed path => exact path.isBare.valuePart?_eq path.isBare.cleaned_tildes (free path)
  | plain path => exact path.isBare.valuePart?_eq path.isBare.cleaned_brace (free path)
  | call helper arguments =>
    have bare := arguments.isBare helper
    refine bare.valuePart?_eq bare.cleaned_eq (helper.not_else fun c found => ?_)
    obtain ⟨rest, same⟩ := arguments.begins
    rw [same] at found
    cases found
    decide

/-! ### Variables of tags -/

theorem words_ne_nil : ∀ (argument : Argument) (closers : List Char), argument.words closers ≠ []
  | .leaf _, _ => by simp [Argument.words]
  | .option _ _, _ => by simp [Argument.words]
  | .call _ _, _ => by simp [Argument.words]

theorem Arguments.words_ne_nil (arguments : Arguments) (closers : List Char) :
    arguments.words closers ≠ [] := by
  cases arguments with
  | last argument => exact Inline.words_ne_nil argument closers
  | next argument arguments => simp [words, Inline.words_ne_nil argument]

/-- A single word is a path. -/
theorem variables_path (path : Path) :
    (Extraction.candidates (wordsFrom [] none path.text)).filterMap Extraction.wordVariable? =
      (Leaf.path path).base?.toList := by
  have words := wordsFrom_argument (.leaf (.path path)) closers_nil
    (Or.inl rfl : Breaks [])
  have found := variables_argument (.leaf (.path path)) closers_nil
  simp only [List.append_nil] at words
  rw [show path.text = (Argument.leaf (.path path)).text from rfl, words]
  exact found

/-- Behind the first word are the words of the arguments. -/
theorem variables_call (helper : Name) (arguments : Arguments) :
    (Extraction.candidates (wordsFrom [] none (helper.text ++ arguments.text))).filterMap
      Extraction.wordVariable? = arguments.variables := by
  have words := wordsFrom_arguments arguments closers_nil
    (Or.inl rfl : Breaks [])
  have found := variables_arguments arguments closers_nil
  have breaks := arguments.breaks []
  simp only [List.append_nil] at words breaks
  have plain : (helper.text.any fun c => c == '.' || c == '[') = false := by
    rw [List.any_eq_false]
    intro c member
    have char := helper.nameChars c member
    simp [Template.Path.ne_of_isNameChar char (show isNameChar '.' = false by decide),
      Template.Path.ne_of_isNameChar char (show isNameChar '[' = false by decide)]
  rw [Extraction.wordsFrom_whole helper.whole helper.nonempty breaks, words]
  have filled := arguments.words_ne_nil []
  cases same : arguments.words [] with
  | nil => exact absurd same filled
  | cons word others =>
    rw [same] at found
    have behind : Extraction.candidates (helper.text :: word :: others) = word :: others := by
      simp only [Extraction.candidates, plain, Bool.false_eq_true, if_false]
    rw [show wordsFrom [] none [] = [] from rfl, List.append_nil, behind]
    exact found

/-- A region has the variables of all paths in its tag. -/
theorem regionVariables_content (tag : Tag) : Extraction.regionVariables tag.content = tag.variables := by
  rw [Extraction.regionVariables, valuePart?_content]
  cases tag with
  | value path => exact variables_path path
  | trimmed path => exact variables_path path
  | plain path => exact variables_path path
  | call helper arguments => exact variables_call helper arguments

/-! ### Sources -/

/-- What stands behind the end of a region belongs to no other. -/
theorem Tag.regionsFrom_text (tag : Tag) (fuel : Nat) (more : List Char) :
    Extraction.regionsFrom (fuel + 1) (tag.text ++ more) =
      tag.content :: Extraction.regionsFrom fuel more := by
  have behind : '\x7b' ∉ tag.behind := by cases tag <;> simp [Tag.behind]
  have whole : tag.text ++ more =
      '\x7b' :: '\x7b' :: (tag.content ++ '\x7d' :: '\x7d' :: (tag.behind ++ more)) := by
    simp [Tag.text]
  rw [whole, Extraction.regionsFrom_region tag.unclosed, Extraction.regionsFrom_append behind]

theorem regionsFrom_pieces (pieces : List Piece) : ∀ fuel,
    (pieces.flatMap Piece.chars).length ≤ fuel →
      Extraction.regionsFrom fuel (pieces.flatMap Piece.chars) = (tags pieces).map Tag.content := by
  induction pieces with
  | nil => exact fun fuel _ => Extraction.regionsFrom_nil fuel
  | cons piece pieces ih =>
    intro fuel enough
    rw [List.flatMap_cons, List.length_append] at enough
    rw [List.flatMap_cons]
    cases piece with
    | text inert plain =>
      have free : '\x7b' ∉ inert := fun member => plain _ member (by decide)
      rw [Piece.chars, Extraction.regionsFrom_append free, ih fuel (by omega)]
      rfl
    | tag value =>
      have positive : 0 < (Piece.tag value).chars.length := by simp [Piece.chars, Tag.text]
      obtain ⟨fuel, rfl⟩ : ∃ less, fuel = less + 1 := ⟨fuel - 1, by omega⟩
      rw [Piece.chars, value.regionsFrom_text, ih fuel (by omega)]
      rfl

/-- The regions of a source are the contents of its tags. -/
theorem regions_source (pieces : List Piece) :
    Extraction.regions (source pieces) = (tags pieces).map Tag.content := by
  rw [Extraction.regions, source, String.toList_ofList]
  exact regionsFrom_pieces pieces _ (by simp)

/-- The scan finds the variables of all paths in the tags. -/
theorem mem_scannedVariables_iff {pieces : List Piece} {name : String} :
    name ∈ Extraction.scannedVariables (source pieces) ↔ ∃ tag ∈ tags pieces, name ∈ tag.variables := by
  rw [Extraction.scannedVariables, Extraction.mem_distinctNames, regions_source, List.mem_flatMap]
  simp only [List.mem_map, exists_exists_and_eq_and, regionVariables_content]

end Stencil.Inline
