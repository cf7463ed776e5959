import Stencil.Extraction.Variable
import Stencil.Template.Element

set_option autoImplicit false

/-!
The references of a template: every path that a value, an argument of a tag or an argument of a call
reads, in the order in which they are met. Names of helpers and blocks are no references, and a name
that a block gives to a value hides the variable of that name in its body.
-/

namespace Stencil.Extraction

open Template (Operand Argument Expression Element positional named)

/-- Where a reference stands. -/
inductive Role where
  /-- The whole of a value tag. -/
  | value
  /-- An argument. -/
  | argument
  /-- An argument of a block of the given name. -/
  | blockArgument (block : String)
  deriving DecidableEq

/-- A path that a template reads. It is shifted inside of blocks that change the context. -/
structure Reference where
  raw : String
  role : Role
  shifted : Bool
  deriving DecidableEq

/-- The names given by enclosing blocks, and whether one of them changes the context. -/
structure Surroundings where
  names : List String
  shifted : Bool

namespace Surroundings

def outermost : Surroundings := ⟨[], false⟩

/-- The blocks whose body has another context. -/
def shifting : List String := ["each", "with"]

/-- The surroundings of the body of a block. -/
def inside (around : Surroundings) (block : String) (params : List String) : Surroundings :=
  ⟨params ++ around.names, around.shifted || shifting.contains block⟩

/-- True for a path into a value that an enclosing block has named. -/
def hides (around : Surroundings) (raw : String) : Bool :=
  (baseVariable? raw).any around.names.contains

/-- The reference that a path makes, unless it is hidden. -/
def report (around : Surroundings) (raw : String) (role : Role) : List Reference :=
  if around.hides raw then [] else [⟨raw, role, around.shifted⟩]

end Surroundings

/-- Positional entries first, then named ones in ascending order of their names. -/
def inOrder {α : Type} (entries : List (Option String × α)) : List α :=
  (entries.filterMap fun (key, entry) => if key.isNone then some entry else none) ++
    (named entries).map (·.2)

mutual

/-- The references of an operand; in a call only the arguments count. -/
def operandReferences (around : Surroundings) (role : Role) : Operand → List Reference
  | .literal _ => []
  | .word name => around.report name role
  | .path path => around.report path.raw role
  | .call _ arguments => (inOrder (argumentReferences around .argument arguments)).flatten

/-- The references of each argument. -/
def argumentReferences (around : Surroundings) (role : Role) :
    List Argument → List (Option String × List Reference)
  | [] => []
  | (key, operand) :: arguments =>
    (key, operandReferences around role operand) :: argumentReferences around role arguments

end

/-- The references of a tag's arguments. -/
def expressionReferences (around : Surroundings) (role : Role) (expression : Expression) :
    List Reference :=
  (inOrder (argumentReferences around role expression.arguments)).flatten

/-- The references of a value tag: its own path if it has no arguments. -/
def valueReferences (around : Surroundings) (expression : Expression) : List Reference :=
  if expression.arguments.isEmpty then
    match expression.head.name? with
    | some raw => around.report raw .value
    | none => []
  else expressionReferences around .argument expression

mutual

def elementReferences (around : Surroundings) : Element → List Reference
  | .value expression => valueReferences around expression
  | .block expression params _ body inverse =>
    let name := (expression.head.name?).getD ""
    expressionReferences around (.blockArgument name) expression ++
      templateReferences (around.inside name params) body ++ templateReferences around inverse
  | .inclusionBlock _ _ body => templateReferences around body
  | .decorationBlock _ body => templateReferences around body
  | .text _ => []
  | .inclusion _ _ _ => []
  | .decoration _ => []
  | .comment _ => []

/-- The references of all elements. -/
def templateReferences (around : Surroundings) : List Element → List Reference
  | [] => []
  | element :: elements => elementReferences around element ++ templateReferences around elements

end

end Stencil.Extraction
