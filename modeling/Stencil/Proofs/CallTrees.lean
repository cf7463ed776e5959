import Stencil.Helper.Catalog
import Stencil.Proofs.WrittenCalls

set_option autoImplicit false

/-!
Trees of calls. A tree has helpers of the catalog inside and literals or paths at its leaves, and is
written with a pair of parentheses around every inner call. A source that is one tag of a tree is read
as the template that writes the tree's value (`read_source`).
-/

namespace Stencil

open Template (isNameChar Leaf Operand Argument Expression)

/-- A helper of the catalog. -/
structure CatalogHelper where
  entry : CatalogEntry
  listed : entry ∈ Catalog.entries

mutual

/-- A literal, a path or a call. -/
inductive CallTree where
  | leaf (word : Leaf)
  | call (helper : CatalogHelper) (arguments : CallArguments)

/-- The arguments of a call, of which there is at least one. One with a name is an option. -/
inductive CallArguments where
  | last (key : Option OptionName) (tree : CallTree)
  | next (key : Option OptionName) (tree : CallTree) (arguments : CallArguments)

end

/-! ### Written trees -/

namespace CatalogHelper

def name (helper : CatalogHelper) : String := helper.entry.name

/-- The helper of a name that the catalog knows. -/
def ofName (name : String) (known : (Catalog.find? name).isSome = true) : CatalogHelper :=
  ⟨(Catalog.find? name).get known, List.mem_of_find?_eq_some (Option.some_get known).symm⟩

end CatalogHelper

mutual

/-- A tree as it is written as an argument. -/
def CallTree.text : CallTree → List Char
  | .leaf word => word.text
  | .call helper arguments => '(' :: (helper.name.toList ++ arguments.text ++ [')'])

/-- Arguments as they are written, a space before each. -/
def CallArguments.text : CallArguments → List Char
  | .last key tree => ' ' :: (keyText key ++ tree.text)
  | .next key tree arguments => ' ' :: (keyText key ++ tree.text) ++ arguments.text

end

/-- A tree as it is written in a tag. -/
def CallTree.inside : CallTree → List Char
  | .leaf word => word.text
  | .call helper arguments => helper.name.toList ++ arguments.text

/-- The source that is one tag of a tree. -/
def CallTree.source (tree : CallTree) : String :=
  String.ofList ("\x7b\x7b".toList ++ (tree.inside ++ "\x7d\x7d".toList))

mutual

def CallTree.operand : CallTree → Operand
  | .leaf word => word.operand
  | .call helper arguments => .call (.word helper.name) arguments.written

def CallArguments.written : CallArguments → List Argument
  | .last key tree => [(key.map OptionName.name, tree.operand)]
  | .next key tree arguments => (key.map OptionName.name, tree.operand) :: arguments.written

end

/-- What a tag of a tree says. -/
def CallTree.expression : CallTree → Expression
  | .leaf word => ⟨word.operand, []⟩
  | .call helper arguments => ⟨.word helper.name, arguments.written⟩

/-! ### Names of helpers -/

/-- The names of the catalog are names, and no `else` begins with one. -/
theorem Catalog.written_names : ∀ name ∈ Catalog.names,
    (!name.toList.isEmpty && name.toList.all isNameChar &&
      (Text.after? "else".toList name.toList).isNone) = true := by
  decide +kernel

namespace CatalogHelper

variable (helper : CatalogHelper)

theorem name_mem : helper.name ∈ Catalog.names := List.mem_map_of_mem helper.listed

theorem nonempty : helper.name.toList ≠ [] := by
  have written := Catalog.written_names _ helper.name_mem
  simp only [Bool.and_eq_true] at written
  simpa using written.1.1

theorem chars : ∀ c ∈ helper.name.toList, isNameChar c = true := by
  have written := Catalog.written_names _ helper.name_mem
  simp only [Bool.and_eq_true] at written
  exact List.all_eq_true.mp written.1.2

theorem not_else : Text.after? "else".toList helper.name.toList = none := by
  have written := Catalog.written_names _ helper.name_mem
  simp only [Bool.and_eq_true, Option.isNone_iff_eq_none] at written
  exact written.2

end CatalogHelper

/-! ### Trees are read -/

open Template (WrittenOperand WrittenArguments WrittenValue EndsCall)

mutual

/-- A tree is read as its operand. -/
theorem CallTree.isWritten : ∀ tree : CallTree, WrittenOperand tree.text tree.operand
  | .leaf word => word.isWritten
  | .call helper args => WrittenOperand.call helper.nonempty helper.chars args.isWritten

theorem CallArguments.isWritten : ∀ args : CallArguments, WrittenArguments args.text args.written
  | .last key tree => WrittenArguments.last key tree.isWritten
  | .next key tree args => WrittenArguments.next key tree.isWritten args.isWritten

end

theorem CallArguments.written_ne_nil (args : CallArguments) : args.written ≠ [] :=
  args.isWritten.ne_nil

/-- True for a tree that can be a tag: a call, or a path that does not begin with `else`. -/
def CallTree.CanBeTag : CallTree → Prop
  | .leaf (.literal _) => False
  | .leaf (.path path) => Text.after? "else".toList path.text = none
  | .call _ _ => True

namespace CallTree

open Template

variable {tree : CallTree}

/-- What a tree is read as in a tag. -/
theorem writtenValue {more : List Char} (tag : tree.CanBeTag) (ends : EndsCall more) :
    WrittenValue tree.inside more tree.expression := by
  cases tree with
  | leaf word =>
    cases word with
    | literal word => cases tag
    | path path =>
      have opening := Path.opening_of_whole path.read
      have free : Text.after? "else".toList path.text = none := tag
      have read : Path.read? (path.text ++ more) = some (path.path, more) :=
        Path.read?_append path.read Path.clear_nil (ends.follows.seam [])
      refine ⟨opening.begins, ?_, fun _ => expression?_path opening read ?_ ends.arguments_eq _⟩
      · show Text.after? "else".toList (path.text ++ more) = none
        rw [(ends.follows.seam path.text).after?_append _ (by decide), free]
        rfl
      · obtain ⟨d, tail, rfl, fails⟩ := ends.follows.exists_not isNameChar nameChar_fails
        intro c found
        cases found
        exact fails
  | call helper args =>
    refine ⟨?_, ?_, ?_⟩
    · obtain ⟨c, others, same⟩ := List.exists_cons_of_ne_nil helper.nonempty
      refine ⟨c, others ++ args.text, ?_, Or.inl (helper.chars c (by simp [same]))⟩
      simp [inside, same]
    · show Text.after? "else".toList (helper.name.toList ++ args.text ++ more) = none
      rw [List.append_assoc, ((args.isWritten.follows more).seam _).after?_append _ (by decide),
        helper.not_else]
      rfl
    · intro fuel enough
      simp only [inside, List.length_append] at enough
      show expression? (fuel + 1) (helper.name.toList ++ args.text ++ more) = _
      rw [List.append_assoc]
      exact expression?_call helper.nonempty helper.chars args.isWritten ends (by omega)

/-- A source that is one tag of a tree is read as the tag of the tree's value. -/
theorem read_source (tagged : tree.CanBeTag) :
    Template.read tree.source = .ok [.value tree.expression] := by
  have chars : tree.source.toList = '\x7b' :: '\x7b' :: (tree.inside ++ closing) :=
    String.toList_ofList
  have ended : ∀ fuel before, tokensFrom fuel before [] = some [] := by
    intro fuel before
    cases fuel <;> rfl
  have tag := tag?_of_written (writtenValue tagged (EndsCall.tagEnd _))
  have tokens : tokens? tree.source =
      some [.tag ⟨.value tree.expression, none, false, false, [], []⟩] := by
    simp only [tokens?, chars, tokensFrom, opens, List.drop_succ_cons, List.drop_zero, tag, if_true,
      Option.bind_eq_bind, Option.bind_some, ended]
    rfl
  rw [Template.read, tokens]
  rfl

end CallTree

end Stencil
