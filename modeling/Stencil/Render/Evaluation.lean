import Stencil.Render.Scope
import Stencil.Render.Value

set_option autoImplicit false

/-!
Values of operands. The arguments of a call are evaluated from left to right, then its options in the
order of their names, and only then the helper is looked for.
-/

namespace Stencil.Render

open Template (Operand Argument Expression named)

/-- What a template is rendered with: the helpers and templates of an engine, and the present time. -/
structure Environment where
  helper? : String → Option Helper
  template? : String → Option Template
  now : Calendar.Instant

/-- The values of a tag's arguments. -/
structure Arguments where
  positional : List Json
  options : List (String × Json)

namespace Arguments

/-- A parameter that a helper of the language needs. -/
def require (arguments : Arguments) (helper : String) (index : Nat) : Rendered Json :=
  match arguments.positional[index]? with
  | some value => .ok value
  | none => .error (.missingParameter helper index)

def option? (arguments : Arguments) (key : String) : Option Json := Json.find? key arguments.options

/-- Takes evaluated arguments together; the first error wins. -/
def gather (evaluated : List (Option String × Rendered Json)) : Rendered Arguments := do
  let positional ← (evaluated.filterMap fun (key, value) =>
    if key.isNone then some value else none).mapM id
  let options ← (named evaluated).mapM fun (key, value) => return (key, ← value)
  return ⟨positional, options⟩

end Arguments

/-- Runs a registered helper under a name. -/
def runRegistered (environment : Environment) (helper : Helper) (name : String)
    (arguments : Arguments) : Rendered Json :=
  match helper ⟨name, arguments.positional, arguments.options, environment.now⟩ with
  | .ok value => .ok value
  | .error halt => .error (.helper halt)

/-! ### Helpers of the language -/

/-- The helpers that every template has. -/
inductive Builtin where
  | ifTrue
  | unlessTrue
  | each
  | withValue
  | raw
  | log
  | lookup
  | len
  deriving DecidableEq

namespace Builtin

def find? (name : String) : Option Builtin :=
  match name with
  | "if" => some .ifTrue
  | "unless" => some .unlessTrue
  | "each" => some .each
  | "with" => some .withValue
  | "raw" => some .raw
  | "log" => some .log
  | "lookup" => some .lookup
  | "len" => some .len
  | _ => none

def logLevels : List String := ["error", "warn", "info", "debug", "trace"]

/-- The level of a log line, which must be known. -/
def checkLevel (arguments : Arguments) : Rendered Unit :=
  match arguments.option? "level" with
  | some (.string level) =>
    if logLevels.contains (String.ofList (level.toList.map Char.toLower)) then .ok ()
    else .error (.unknownLogLevel level)
  | _ => .ok ()

/-- An item of an array by a natural number, or a field of an object by a text. -/
def lookUp (collection index : Json) : Json :=
  match collection, index with
  | .array items, .number (.int position) =>
    if position < 0 then .null else (items[position.toNat]?).getD .null
  | .object fields, .string key => (Json.find? key fields).getD .null
  | _, _ => .null

/-- The number of items or fields, or of the bytes of a text. -/
def size : Json → Nat
  | .array items => items.length
  | .object fields => fields.length
  | .string text => text.utf8ByteSize
  | _ => 0

/-- The value of a helper inside a call; those that write text have nothing to write there. -/
def value (builtin : Builtin) (arguments : Arguments) : Rendered Json := do
  match builtin with
  | .ifTrue | .unlessTrue => return .string (← (arguments.require "if" 0).map fun _ => "")
  | .each => return .string (← (arguments.require "each" 0).map fun _ => "")
  | .withValue => return .string (← (arguments.require "with" 0).map fun _ => "")
  | .raw => return .string ""
  | .log => return .string (← (checkLevel arguments).map fun _ => "")
  | .lookup =>
    let collection ← arguments.require "lookup" 0
    let index ← arguments.require "lookup" 1
    return lookUp collection index
  | .len =>
    match arguments.positional with
    | value :: _ => return .nat (size value)
    | [] => .error (.missingNamedParameter "len" "x")

end Builtin

/-- Calls a helper for its value. -/
def callValue (environment : Environment) (name : String) (arguments : Arguments) : Rendered Json :=
  match environment.helper? name, Builtin.find? name with
  | some helper, _ => runRegistered environment helper name arguments
  | none, some builtin => builtin.value arguments
  | none, none =>
    match environment.helper? "helperMissing" with
    | some helper => runRegistered environment helper name arguments
    | none => .error (.helperNotFound name)

/-! ### Operands -/

mutual

/-- The value of an operand, none if it is missing. -/
def evaluate (environment : Environment) (data : Json) (scopes : List Scope) :
    Operand → Rendered (Option Json)
  | .literal value => .ok (some value)
  | .path path => resolve data scopes path
  | .word _ => .ok none
  | .call head arguments => do
    let name ← (match head with
      | .word name => .ok name
      | .path path => .ok path.raw
      | head => (evaluate environment data scopes head).map fun value => (value.getD .null).shown)
    let arguments ← Arguments.gather (evaluateArguments environment data scopes arguments)
    return some (← callValue environment name arguments)

/-- The value of each argument; a missing one is null. -/
def evaluateArguments (environment : Environment) (data : Json) (scopes : List Scope) :
    List Argument → List (Option String × Rendered Json)
  | [] => []
  | (key, operand) :: arguments =>
    (key, (evaluate environment data scopes operand).map (·.getD .null)) ::
      evaluateArguments environment data scopes arguments

end

/-- The name of a tag: as it is written, or the text of a call. -/
def headName (environment : Environment) (data : Json) (scopes : List Scope) (head : Operand) :
    Rendered String :=
  match head with
  | .word name => .ok name
  | .path path => .ok path.raw
  | head => (evaluate environment data scopes head).map fun value => (value.getD .null).shown

/-- The name and the argument values of a tag. -/
def evaluateExpression (environment : Environment) (data : Json) (scopes : List Scope)
    (expression : Expression) : Rendered (String × Arguments) := do
  let name ← headName environment data scopes expression.head
  let arguments ←
    Arguments.gather (evaluateArguments environment data scopes expression.arguments)
  return (name, arguments)

/-! ### Written names -/

section

variable (environment : Environment)

theorem headName_of_name? {head : Operand} {name : String} (written : head.name? = some name)
    (data : Json) (scopes : List Scope) : headName environment data scopes head = .ok name := by
  cases head with
  | word text =>
    cases written
    rfl
  | path target =>
    cases written
    rfl
  | literal value => cases written
  | call head arguments => cases written

theorem evaluateExpression_of_name? {expression : Expression} {name : String}
    (written : expression.head.name? = some name) (data : Json) (scopes : List Scope) :
    evaluateExpression environment data scopes expression =
      Arguments.gather (evaluateArguments environment data scopes expression.arguments) >>=
        fun arguments => .ok (name, arguments) := by
  rw [evaluateExpression, headName_of_name? environment written]
  rfl

end

end Stencil.Render
