import Stencil.Render.Evaluation
import Stencil.Render.Output

set_option autoImplicit false

/-!
The helpers of the language as blocks. `each` and `with` open a scope for their body, and their
alternative is rendered in the scope around them.
-/

namespace Stencil.Render

/-- Renders a part of a template. -/
abbrev Part := State → Rendered State

/-- The names that a block gives: to its value, or to its value and its key. -/
def blockParams (params : List String) (value key : Json) : List (String × Json) :=
  match params with
  | [name] => [(name, value)]
  | [name, keyName] => [(name, value), (keyName, key)]
  | _ => []

/-- One round of a loop. -/
structure Round where
  value : Json
  /-- The position of an item, or the key of a field. -/
  key : Json
  locals : List (String × Json)

/-- What every round knows of its place. -/
def placeLocals (index count : Nat) : List (String × Json) :=
  [("first", .bool (index == 0)), ("last", .bool (index + 1 == count)), ("index", .nat index)]

def itemRounds (items : List Json) : List Round :=
  items.zipIdx.map fun (value, index) =>
    ⟨value, .nat index, placeLocals index items.length⟩

def fieldRounds (fields : List (String × Json)) : List Round :=
  fields.zipIdx.map fun ((key, value), index) =>
    ⟨value, .string key, ("key", .string key) :: placeLocals index fields.length⟩

/-- Renders the body of a loop for one round; partials defined in it stay until the loop is over. -/
def renderRound (params : List String) (body : Part) (state : State) (round : Round) :
    Rendered State :=
  let named := blockParams params round.value round.key
  body (state.modifyScope fun scope => ⟨round.value, named, round.locals, scope.partials⟩)

def renderRounds (params : List String) (body : Part) (rounds : List Round) (state : State) :
    Rendered State := do
  let after ← rounds.foldlM (renderRound params body) (state.push (Scope.ofData .null))
  return after.pop

def renderEach (params : List String) (body inverse : Part) (value : Json) (state : State) :
    Rendered State :=
  match value with
  | .array (item :: items) => renderRounds params body (itemRounds (item :: items)) state
  | .object (field :: fields) => renderRounds params body (fieldRounds (field :: fields)) state
  | _ => inverse state

/-- Renders a body with a value as its context; the variables of the scope around it stay visible. -/
def renderWith (params : List String) (body inverse : Part) (value : Json) (state : State) :
    Rendered State :=
  if value.holds false then do
    let named := match params with
      | [name] => [(name, value)]
      | _ => []
    let locals := (state.scopes.head?.map Scope.locals).getD []
    return (← body (state.push ⟨value, named, locals, []⟩)).pop
  else inverse state

/-- Renders one of two parts. -/
def renderIf (positive : Bool) (body inverse : Part) (arguments : Arguments) (state : State) :
    Rendered State := do
  let value ← arguments.require "if" 0
  let includeZero := match arguments.option? "includeZero" with
    | some (.bool value) => value
    | _ => false
  if value.holds includeZero == positive then body state else inverse state

/-- Runs a helper of the language. -/
def Builtin.render (builtin : Builtin) (arguments : Arguments) (params : List String)
    (body inverse : Part) (state : State) : Rendered State := do
  match builtin with
  | .ifTrue => renderIf true body inverse arguments state
  | .unlessTrue => renderIf false body inverse arguments state
  | .each => renderEach params body inverse (← arguments.require "each" 0) state
  | .withValue => renderWith params body inverse (← arguments.require "with" 0) state
  | .raw => body state
  | .log =>
    checkLevel arguments
    return state
  | .lookup => return state.write (← Builtin.value .lookup arguments).shown
  | .len => return state.write (← Builtin.value .len arguments).shown

/-- Runs the helper of a tag, or the one that stands in for helpers that are not found. -/
def renderCall (environment : Environment) (missing name : String) (arguments : Arguments)
    (params : List String) (indented : Bool) (body inverse : Part) (state : State) :
    Rendered State :=
  let registered (helper : Helper) : Rendered State :=
    state.runHelper indented fun state =>
      return state.write (← runRegistered environment helper name arguments).shown
  match environment.helper? name, Builtin.find? name with
  | some helper, _ => registered helper
  | none, some builtin =>
    state.runHelper indented (builtin.render arguments params body inverse)
  | none, none =>
    match environment.helper? missing with
    | some helper => registered helper
    | none => .error (.helperNotFound name)

end Stencil.Render
