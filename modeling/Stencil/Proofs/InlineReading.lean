import Stencil.Proofs.InlineData
import Stencil.Proofs.SourceComposition

set_option autoImplicit false

/-!
Inline sources are read. The arguments of an inline tag are read as what they write
(`Arguments.isWritten`), so the tag is read as what it says (`Tag.tag?_eq`), and a source as the values of
its tags, up to text (`read_source`).
-/

namespace Stencil.Inline

open Template (Operand Expression Element WrittenOperand WrittenArguments WrittenValue isNameChar)

variable {more : List Char}

/-! ### Arguments -/

def Leaf.operand : Leaf → Operand
  | .path target => .path target.target
  | .number value => .literal ((Json.read? value.text).getD .null)
  | .truth value => .literal (.bool value)
  | .null => .literal .null
  | .quoted value => .literal (.string (String.ofList value.body))

/-- A text that the reader of literals passes as a whole, and its data. -/
theorem isWritten_of_literal {text : List Char} {value : Json}
    (passed : Template.afterLiteral? 1 text = some [])
    (data : Template.literalOf text = .ok (.literal value)) :
    WrittenOperand text (.literal value) := by
  have read : Template.literal? 1 text = some (.ok (.literal value), []) := by
    rw [Template.literal?, passed, Option.map_some, List.length_nil, Nat.sub_zero, List.take_length, data]
  exact (Template.Leaf.literal ⟨text, value, 1, read⟩).isWritten

theorem Leaf.isWritten {leaf : Leaf} (readable : leaf.Readable) :
    WrittenOperand leaf.text leaf.operand := by
  cases leaf with
  | path target => exact (Template.Leaf.path target.written).isWritten
  | number value =>
    exact isWritten_of_literal (Number.afterLiteral?_eq readable) (Number.literalOf_eq readable)
  | truth value => cases value <;> exact isWritten_of_literal rfl rfl
  | null => exact isWritten_of_literal rfl rfl
  | quoted value => exact isWritten_of_literal value.afterLiteral?_eq (value.literalOf_eq readable)

/-- The key of an option. -/
def Argument.option? : Argument → Option OptionName
  | .option key _ => some key.key
  | _ => none

mutual

def Argument.operand : Argument → Operand
  | .leaf leaf => leaf.operand
  | .option _ leaf => leaf.operand
  | .call helper arguments => .call (.word (String.ofList helper.text)) arguments.written

def Arguments.written : Arguments → List Template.Argument
  | .last argument => [(argument.option?.map OptionName.name, argument.operand)]
  | .next argument arguments =>
    (argument.option?.map OptionName.name, argument.operand) :: arguments.written

end

mutual

/-- An argument is read as its operand, perhaps behind a key. -/
theorem Argument.isWritten : ∀ argument : Argument, argument.Readable → ∃ text,
    argument.text = keyText argument.option? ++ text ∧ WrittenOperand text argument.operand
  | .leaf leaf, readable => ⟨leaf.text, rfl, Leaf.isWritten readable⟩
  | .option key leaf, readable =>
    ⟨leaf.text, by simp [Argument.text, Argument.option?, keyText, Name.key], Leaf.isWritten readable⟩
  | .call helper arguments, readable => by
    have call := WrittenOperand.call helper.key.nonempty helper.key.chars
      (arguments.isWritten readable)
    refine ⟨_, rfl, ?_⟩
    simpa [Name.key, Argument.operand] using call

theorem Arguments.isWritten : ∀ arguments : Arguments, arguments.Readable →
    WrittenArguments arguments.text arguments.written
  | .last argument, readable => by
    obtain ⟨text, same, written⟩ := argument.isWritten readable
    rw [Arguments.text, same]
    exact WrittenArguments.last argument.option? written
  | .next argument arguments, readable => by
    obtain ⟨text, same, written⟩ := argument.isWritten readable.1
    rw [Arguments.text, same]
    exact WrittenArguments.next argument.option? written (arguments.isWritten readable.2)

end

/-! ### Tags -/

/-- Where a path or arguments end with a tag. -/
def EndsTag (more : List Char) : Prop := ∃ c others, more = c :: others ∧ (c = '\x7d' ∨ c = '~')

theorem EndsTag.endsPath (ends : EndsTag more) : EndsPath more := by
  obtain ⟨c, others, rfl, rfl | rfl⟩ := ends
  all_goals
    intro d found
    cases found
    decide

theorem EndsTag.arguments_eq (ends : EndsTag more) (fuel : Nat) :
    Template.arguments fuel more = ([], more) := by
  obtain ⟨c, others, rfl, rfl | rfl⟩ := ends
  · exact (Template.Stops.closer _ others rfl rfl).arguments fuel
  · exact (Template.Stops.closer _ others rfl rfl).arguments fuel

theorem Path.opening (path : Path) : Template.Path.Opening path.text :=
  Template.Path.opening_of_whole path.written.read

/-- A path is what a tag says. -/
theorem Path.writtenValue (path : Path) (ends : EndsTag more) :
    WrittenValue path.text more ⟨.path path.target, []⟩ where
  begins := path.opening.begins
  otherwise := path.not_else ends.endsPath
  read _ := Template.expression?_path path.opening (path.read?_append ends.endsPath)
    (fun c found => (ends.endsPath c found).1) ends.arguments_eq _

/-- A call is what a tag says. -/
theorem Arguments.writtenValue (helper : Name) {arguments : Arguments}
    (readable : arguments.Readable) : WrittenValue (helper.text ++ arguments.text) Template.closing
      ⟨.word (String.ofList helper.text), arguments.written⟩ := by
  have args := arguments.isWritten readable
  have ends : Template.EndsCall Template.closing := Template.EndsCall.tagEnd _
  obtain ⟨c, others, same, char, _⟩ := helper.begins_eq
  refine ⟨⟨c, others ++ arguments.text, by simp [same], Or.inl char⟩, ?_, ?_⟩
  · obtain ⟨d, tail, begins, fails⟩ :=
      (args.follows Template.closing).exists_not isNameChar Template.nameChar_fails
    rw [List.append_assoc, begins]
    refine helper.not_else fun e found => ?_
    cases found
    exact fails
  · intro fuel enough
    simp only [List.length_append] at enough
    have call := Template.expression?_call helper.key.nonempty helper.key.chars args ends
      (show arguments.text.length < fuel by omega)
    rw [List.append_assoc]
    simpa [Name.key] using call

namespace Tag

/-- What a tag says. -/
def expression : Tag → Expression
  | .value path => ⟨.path path.target, []⟩
  | .trimmed path => ⟨.path path.target, []⟩
  | .plain path => ⟨.path path.target, []⟩
  | .call helper arguments => ⟨.word (String.ofList helper.text), arguments.written⟩

def trims : Tag → Bool
  | .trimmed _ => true
  | _ => false

/-- The tag behind its first two braces. -/
def inside (tag : Tag) : List Char := tag.content ++ '\x7d' :: '\x7d' :: tag.behind

/-- A tag is read as what it says. -/
theorem tag?_eq {tag : Tag} (readable : tag.Readable) : Template.tag? [] tag.inside =
    some (⟨.value tag.expression, none, tag.trims, tag.trims, [], []⟩, []) := by
  cases tag with
  | value path => exact Template.tag?_of_written (path.writtenValue ⟨_, _, rfl, Or.inl rfl⟩)
  | call helper arguments => exact Template.tag?_of_written (Arguments.writtenValue helper readable)
  | trimmed path =>
    have value : WrittenValue path.text "~\x7d\x7d".toList ⟨.path path.target, []⟩ :=
      path.writtenValue ⟨_, _, rfl, Or.inr rfl⟩
    have whole : inside (.trimmed path) = '~' :: (path.text ++ "~\x7d\x7d".toList) := by
      simp [inside, content, behind]
    have double : Template.doubleTag? ('~' :: (path.text ++ "~\x7d\x7d".toList)) =
        some (true, ⟨.value ⟨.path path.target, []⟩, none, true, []⟩) :=
      value.doubleTag?_eq rfl rfl
    rw [whole, Template.tag?_eq, Template.tagInside?, Template.comment?_eq_none (by decide),
      Template.tripleTag?_eq_none (by decide), double]
    rfl
  | plain path =>
    have value : WrittenValue path.text "\x7d\x7d\x7d".toList ⟨.path path.target, []⟩ :=
      path.writtenValue ⟨_, _, rfl, Or.inl rfl⟩
    have whole : inside (.plain path) = '\x7b' :: (path.text ++ "\x7d\x7d\x7d".toList) := by
      simp [inside, content, behind]
    have triple : Template.tripleTag? ('\x7b' :: (path.text ++ "\x7d\x7d\x7d".toList)) =
        some (false, ⟨.value ⟨.path path.target, []⟩, none, false, []⟩) := by
      rw [Template.tripleTag?_brace, value.tilde_eq, Template.valueTag?, value.valueExpression?_eq]
      rfl
    rw [whole, Template.tag?_eq, Template.tagInside?, Template.comment?_eq_none (by decide), triple]
    rfl

end Tag

/-! ### Sources -/

/-- A path of names does not begin with a bracket, so it begins no array. -/
theorem Path.apart_target (path : Path) : path.target.Apart := by
  intro body same
  obtain ⟨lead, first, others⟩ := path
  obtain ⟨c, letters, begins, char, _⟩ := first.begins_eq
  have bracket : c ≠ '[' := Template.Path.ne_of_isNameChar char (by decide)
  rw [target, String.toList_ofList] at same
  cases lead with
  | none =>
    simp only [text, Lead.text, begins, List.nil_append, List.cons_append] at same
    exact absurd (List.cons.inj same).1 bracket
  | outer => cases same
  | this => cases same

theorem Leaf.allApart (leaf : Leaf) :
    Template.AllApart (leaf.operand.lone ++ leaf.operand.passed) := by
  cases leaf with
  | path target =>
    intro path member
    obtain rfl := List.mem_singleton.mp member
    exact target.apart_target
  | _ => exact fun path member => absurd member List.not_mem_nil

mutual

theorem Argument.allApart : ∀ argument : Argument,
    Template.AllApart (argument.operand.lone ++ argument.operand.passed)
  | .leaf leaf => leaf.allApart
  | .option _ leaf => leaf.allApart
  | .call _ arguments => arguments.allApart

/-- No path among arguments begins an array. -/
theorem Arguments.allApart : ∀ arguments : Arguments,
    Template.AllApart (Template.passedBy arguments.written)
  | .last argument => by
    simpa [Arguments.written, Template.passedBy] using argument.allApart
  | .next argument arguments => by
    rw [Arguments.written, Template.passedBy, Template.allApart_append]
    exact ⟨argument.allApart, arguments.allApart⟩

end

/-- A tag is read alike in front of more. -/
theorem Tag.kindApart (tag : Tag) : Template.KindApart (.value tag.expression) none := by
  refine ⟨rfl, fun expression same => ?_⟩
  cases same
  cases tag with
  | call helper arguments => exact arguments.allApart
  | _ => exact fun path member => absurd member List.not_mem_nil

/-- The source of pieces has their tags. -/
theorem tagged_of_readable (pieces : List Piece) (readable : ∀ piece ∈ pieces, piece.Readable) :
    Template.Tagged (pieces.flatMap Piece.chars)
      ((tags pieces).map fun tag => (.value tag.expression, none)) := by
  induction pieces with
  | nil => exact Template.Tagged.done
  | cons piece pieces ih =>
    have further := ih fun other member => readable other (List.mem_cons_of_mem _ member)
    cases piece with
    | text inert plain =>
      show Template.Tagged (inert ++ pieces.flatMap Piece.chars) ((tags pieces).map _)
      by_cases empty : inert = []
      · subst empty
        exact further
      · refine further.inert_append (fun c member => ?_) empty
        have apart := plain c member
        constructor
        · rintro rfl
          exact apart (by decide)
        · rintro rfl
          exact apart (by decide)
    | tag value =>
      have read := Template.tag?_append (Tag.tag?_eq (readable _ List.mem_cons_self)) rfl
        value.kindApart [] (pieces.flatMap Piece.chars)
      exact Template.Tagged.tag read rfl further

/-- The tokens of tags alone. -/
def tokensOf (written : List Tag) : List Template.Token :=
  written.map fun tag => .tag ⟨.value tag.expression, none, tag.trims, tag.trims, [], []⟩

/-- The values of tags. -/
def values (written : List Tag) : List Element := written.map fun tag => .value tag.expression

theorem contents_tokensOf (written : List Tag) : Template.contents (tokensOf written) =
    written.map fun tag => (.value tag.expression, none) := by
  induction written with
  | nil => rfl
  | cons tag written ih => exact congrArg (_ :: ·) ih

theorem foldlM_tokensOf (written : List Tag) : ∀ elements : List Element,
    (tokensOf written).foldlM Template.Nesting.token? ⟨[], elements, none⟩ =
      some ⟨[], (values written).reverse ++ elements, none⟩ := by
  induction written with
  | nil => exact fun elements => rfl
  | cons tag written ih =>
    intro elements
    have further := ih (.value tag.expression :: elements)
    simp only [values, List.map_cons, List.reverse_cons, List.append_assoc]
    exact further

theorem nest_tokensOf (written : List Tag) :
    Template.nest (tokensOf written) = .ok (values written) := by
  rw [Template.nest, foldlM_tokensOf]
  simp

/-- A source is read, with the references of its tags. -/
theorem read_source (pieces : List Piece) (readable : ∀ piece ∈ pieces, piece.Readable) :
    ∃ template, Template.read (source pieces) = .ok template ∧
      Extraction.references template = Extraction.references (values (tags pieces)) := by
  have tagged := tagged_of_readable pieces readable
  obtain ⟨tokens, read, same⟩ := Template.tokensFrom_of_tagged tagged
    ((source pieces).length + 1) [] (by simp [source])
  have whole : Template.tokens? (source pieces) = some tokens := by
    rw [Template.tokens?, source, String.toList_ofList]
    exact read
  have contents : Template.contents (Template.spacedTokens tokens) =
      Template.contents (tokensOf (tags pieces)) ++ Template.contents [] := by
    rw [Template.spacedTokens, Template.contents_spaced, same, contents_tokensOf]
    exact (List.append_nil _).symm
  obtain ⟨template, nested, bare⟩ :=
    Template.nest_append contents (nest_tokensOf (tags pieces)) (rfl : Template.nest [] = .ok [])
  refine ⟨template, ?_, ?_⟩
  · rw [Template.read, whole]
    exact nested
  · rw [Extraction.references_append bare]
    exact List.append_nil _

end Stencil.Inline
