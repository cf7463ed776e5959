import Stencil.Extraction.Reference

set_option autoImplicit false

/-!
The walk over a template that collects its references. It keeps the names that the blocks around have
given to values and counts those of them that change the context: both are put up before the body of a
block and taken down behind it.
-/

namespace Stencil.Extraction

open Template (Operand Argument Expression Element)

/-- The state of a walk. -/
structure Walker where
  /-- The names given by each block around that gives any, innermost first. -/
  scopes : List (List String)
  /-- How many of the blocks around change the context. -/
  shifts : Nat
  /-- The references so far, backwards. -/
  seen : List Reference

namespace Walker

/-- Outside of all blocks, before the first reference. -/
def start : Walker := ⟨[], 0, []⟩

/-- True for a path into a value that a block around has named. -/
def isLocal (walker : Walker) (raw : String) : Bool :=
  !walker.scopes.isEmpty &&
    (baseVariable? raw).any fun base => walker.scopes.any (·.contains base)

def report (raw : String) (role : Role) (walker : Walker) : Walker :=
  if walker.isLocal raw then walker
  else { walker with seen := ⟨raw, role, decide (0 < walker.shifts)⟩ :: walker.seen }

/-- Goes into the body of a block; names are put up only if there are any. -/
def enter (block : String) (params : List String) (walker : Walker) : Walker :=
  let walker := if params.isEmpty then walker else { walker with scopes := params :: walker.scopes }
  if Surroundings.shifting.contains block then { walker with shifts := walker.shifts + 1 } else walker

/-- Takes down what was put up for the body of a block. -/
def leave (block : String) (params : List String) (walker : Walker) : Walker :=
  let walker :=
    if Surroundings.shifting.contains block then { walker with shifts := walker.shifts - 1 } else walker
  if params.isEmpty then walker else { walker with scopes := walker.scopes.tail }

/-- Takes steps in order, positional ones first and then those of options by their names. -/
def takeAll (steps : List (Option String × (Walker → Walker))) (walker : Walker) : Walker :=
  (inOrder steps).foldl (fun walker step => step walker) walker

end Walker

mutual

/-- Passes an operand; in a call only the arguments are passed. -/
def walkOperand (role : Role) : Operand → Walker → Walker
  | .literal _ => id
  | .word name => Walker.report name role
  | .path path => Walker.report path.raw role
  | .call _ arguments => Walker.takeAll (argumentSteps .argument arguments)

/-- What passes each argument. -/
def argumentSteps (role : Role) : List Argument → List (Option String × (Walker → Walker))
  | [] => []
  | (key, operand) :: arguments => (key, walkOperand role operand) :: argumentSteps role arguments

end

/-- Passes the arguments of a tag. -/
def walkArguments (role : Role) (expression : Expression) : Walker → Walker :=
  Walker.takeAll (argumentSteps role expression.arguments)

/-- Passes a value tag: its own path if it has no arguments. -/
def walkValue (expression : Expression) (walker : Walker) : Walker :=
  if expression.arguments.isEmpty then
    match expression.head.name? with
    | some raw => walker.report raw .value
    | none => walker
  else walkArguments .argument expression walker

mutual

def walkElement : Element → Walker → Walker
  | .value expression, walker => walkValue expression walker
  | .block expression params _ body inverse, walker =>
    let name := (expression.head.name?).getD ""
    let walker := walkArguments (.blockArgument name) expression walker
    let walker := (walkElements body (walker.enter name params)).leave name params
    -- The alternative is outside of the scope of the block.
    walkElements inverse walker
  | .inclusionBlock _ _ body, walker => walkElements body walker
  | .decorationBlock _ body, walker => walkElements body walker
  | .text _, walker => walker
  | .inclusion _ _ _, walker => walker
  | .decoration _, walker => walker
  | .comment _, walker => walker

/-- Passes all elements. -/
def walkElements : List Element → Walker → Walker
  | [], walker => walker
  | element :: elements, walker => walkElements elements (walkElement element walker)

end

/-- The references of a template. -/
def references (template : Template) : List Reference :=
  (walkElements template Walker.start).seen.reverse

end Stencil.Extraction
