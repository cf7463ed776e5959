import Stencil.Extraction.Summary
import Stencil.Proofs.BaseVariable
import Stencil.Proofs.CallArguments

set_option autoImplicit false

/-!
Templates whose paths are reported: no partials, no decorations, and each path that is read is loop data,
the context of an enclosing block, or has a base variable.
-/

namespace Stencil.Template

open Extraction (baseVariable?)

/-! ### Templates whose paths are reported -/

/-- The variables with a mark that a loop sets. -/
def loopVariables : List String := ["@index", "@key", "@first", "@last"]

namespace Path

/-- True for loop data, for the context of an enclosing block, and for what has a base variable. -/
def Listed (inside : Bool) (path : Path) : Prop :=
  path.raw ∈ loopVariables ∨ inside = true ∧ path.raw = "this" ∨
    (baseVariable? path.raw).isSome = true

/-- The base variable, if there is one, is the name with which looking up begins. -/
def Aligned (path : Path) : Prop :=
  ∀ name, baseVariable? path.raw = some name → path.firstName? = some name

end Path

section

variable (accepts : Bool → Path → Prop)

mutual

/-- Every path that is read for the operand's value is accepted. -/
def Operand.Covered (inside : Bool) : Operand → Prop
  | .literal _ => True
  | .word _ => True
  | .path path => accepts inside path
  | .call head arguments => head.name?.isSome = true ∧ argumentsCovered inside arguments

def argumentsCovered (inside : Bool) : List Argument → Prop
  | [] => True
  | (_, operand) :: arguments => operand.Covered inside ∧ argumentsCovered inside arguments

end

/-- The names that a block can give: to an item and its key, or to a value. -/
def NamesCovered (block : String) (params : List String) : Prop :=
  params = [] ∨ block = "each" ∧ params.length ≤ 2 ∨ block = "with" ∧ params.length ≤ 1

mutual

/-- An element without inclusions and decorations, with a written name, in which every path that is
read is accepted. -/
def Element.Covered (inside : Bool) : Element → Prop
  | .text _ => True
  | .comment _ => True
  | .value expression =>
    expression.head.name?.isSome = true ∧ argumentsCovered accepts inside expression.arguments ∧
      (expression.arguments = [] → expression.head.Covered accepts inside)
  | .block expression params _ body inverse =>
    expression.head.name?.isSome = true ∧ argumentsCovered accepts inside expression.arguments ∧
      NamesCovered ((expression.head.name?).getD "") params ∧
      elementsCovered
        (inside || Extraction.Surroundings.shifting.contains ((expression.head.name?).getD "")) body ∧
      elementsCovered inside inverse
  | .inclusion _ _ _ => False
  | .inclusionBlock _ _ _ => False
  | .decoration _ => False
  | .decorationBlock _ _ => False

def elementsCovered (inside : Bool) : List Element → Prop
  | [] => True
  | element :: elements => element.Covered inside ∧ elementsCovered inside elements

end

end

/-! ### Deciding it -/

instance (inside : Bool) (path : Path) : Decidable (path.Listed inside) :=
  inferInstanceAs (Decidable (_ ∨ _ ∧ _ ∨ _))

instance (path : Path) : Decidable path.Aligned :=
  inferInstanceAs (Decidable (∀ name ∈ baseVariable? path.raw, path.firstName? = some name))

instance (block : String) (params : List String) : Decidable (NamesCovered block params) :=
  inferInstanceAs (Decidable (_ ∨ _ ∧ _ ∨ _ ∧ _))

section

variable {accepts : Bool → Path → Prop} [∀ inside path, Decidable (accepts inside path)]

mutual

instance decidableCovered (inside : Bool) : ∀ operand : Operand,
    Decidable (operand.Covered accepts inside)
  | .literal _ => isTrue trivial
  | .word _ => isTrue trivial
  | .path path => inferInstanceAs (Decidable (accepts inside path))
  | .call head arguments =>
    have := decidableArgumentsCovered inside arguments
    inferInstanceAs (Decidable (head.name?.isSome = true ∧ argumentsCovered accepts inside arguments))

instance decidableArgumentsCovered (inside : Bool) : ∀ arguments : List Argument,
    Decidable (argumentsCovered accepts inside arguments)
  | [] => isTrue trivial
  | (_, operand) :: arguments =>
    have := decidableCovered inside operand
    have := decidableArgumentsCovered inside arguments
    inferInstanceAs (Decidable (operand.Covered accepts inside ∧
      argumentsCovered accepts inside arguments))

end

mutual

instance decidableElementCovered (inside : Bool) : ∀ element : Element,
    Decidable (element.Covered accepts inside)
  | .text _ => isTrue trivial
  | .comment _ => isTrue trivial
  | .value _ => inferInstanceAs (Decidable (_ ∧ _ ∧ (_ → _)))
  | .block expression _ _ body inverse =>
    have := decidableElementsCovered
      (inside || Extraction.Surroundings.shifting.contains ((expression.head.name?).getD "")) body
    have := decidableElementsCovered inside inverse
    inferInstanceAs (Decidable (_ ∧ _ ∧ _ ∧ elementsCovered accepts _ body ∧ _))
  | .inclusion _ _ _ => isFalse id
  | .inclusionBlock _ _ _ => isFalse id
  | .decoration _ => isFalse id
  | .decorationBlock _ _ => isFalse id

instance decidableElementsCovered (inside : Bool) : ∀ elements : List Element,
    Decidable (elementsCovered accepts inside elements)
  | [] => isTrue trivial
  | element :: elements =>
    have := decidableElementCovered inside element
    have := decidableElementsCovered inside elements
    inferInstanceAs (Decidable (element.Covered accepts inside ∧
      elementsCovered accepts inside elements))

end

end

end Stencil.Template

namespace Stencil.Extraction

/-! ### The reported variables -/

theorem mem_addName {names : List String} {name other : String} :
    other ∈ addName names name ↔ other ∈ names ∨ other = name := by
  unfold addName
  split
  · rename_i known
    have member : name ∈ names := List.contains_iff_mem.mp known
    refine ⟨Or.inl, ?_⟩
    rintro (found | rfl)
    · exact found
    · exact member
  · simp

theorem mem_foldl_addName {names : List String} {name : String} : ∀ {known : List String},
    name ∈ names.foldl addName known ↔ name ∈ known ∨ name ∈ names := by
  induction names with
  | nil => simp
  | cons first names ih =>
    intro known
    rw [List.foldl_cons, ih, mem_addName, List.mem_cons, or_assoc]

theorem mem_distinctNames {names : List String} {name : String} :
    name ∈ distinctNames names ↔ name ∈ names := by
  rw [distinctNames, mem_foldl_addName]
  simp

/-- True if the base variables of all references are among some variables. -/
def Known (roots : List String) (references : List Reference) : Prop :=
  ∀ reference ∈ references, ∀ name, baseVariable? reference.raw = some name → name ∈ roots

theorem known_variablesOf (references : List Reference) :
    Known (variablesOf references) references := by
  intro reference member name base
  exact mem_distinctNames.mpr (List.mem_filterMap.mpr ⟨reference, member, base⟩)

theorem known_append (roots : List String) (first second : List Reference) :
    Known roots (first ++ second) ↔ Known roots first ∧ Known roots second := by
  simp only [Known, List.mem_append, or_imp, forall_and]

/-- A base variable that no enclosing block has named is reported. -/
theorem mem_of_known_report {roots : List String} {around : Surroundings} {raw : String}
    {role : Role} (known : Known roots (around.report raw role)) {name : String}
    (base : baseVariable? raw = some name) (free : name ∉ around.names) : name ∈ roots := by
  have shown : around.hides raw = false := by
    simp [Surroundings.hides, base, free]
  refine known ⟨raw, role, around.shifted⟩ ?_ name base
  rw [Surroundings.report, shown]
  exact List.mem_singleton.mpr rfl

end Stencil.Extraction
