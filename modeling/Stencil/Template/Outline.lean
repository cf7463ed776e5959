import Stencil.Template.Operand
import Stencil.Text.Quoted

set_option autoImplicit false

/-!
Operands written out by their structure. An error about something that is called without a name shows
this text in place of one.
-/

namespace Stencil

open Text (quote)

/-- Parts in order, between brackets. -/
def bracketed (parts : List String) : String := "[" ++ ", ".intercalate parts ++ "]"

/-- Parts under keys, between braces. -/
def braced (entries : List (String × String)) : String :=
  "\x7b" ++ ", ".intercalate (entries.map fun (key, part) => quote key ++ ": " ++ part) ++ "\x7d"

namespace Json

mutual

/-- A value behind the name of its type. -/
def outline : Json → String
  | null => "Null"
  | bool value => "Bool(" ++ (if value then "true" else "false") ++ ")"
  | number value => "Number(" ++ value.text ++ ")"
  | string value => "String(" ++ quote value ++ ")"
  | array items => "Array " ++ bracketed (outlineItems items)
  | object fields => "Object " ++ braced (outlineFields fields)

def outlineItems : List Json → List String
  | [] => []
  | item :: items => outline item :: outlineItems items

def outlineFields : List (String × Json) → List (String × String)
  | [] => []
  | (key, value) :: fields => (key, outline value) :: outlineFields fields

end

end Json

namespace Template

def Segment.outline : Segment → String
  | .root => "Ruled(path_root)"
  | .localMark => "Ruled(path_local)"
  | .up => "Ruled(path_up)"
  | .named name => "Named(" ++ quote name ++ ")"

/-- The level and the name of a local variable, or the steps of any other path, before the path as it is
written. -/
def Path.outline (path : Path) : String :=
  match path.scopeVariable? with
  | some (level, name) =>
    "Local((" ++ toString level ++ ", " ++ quote name ++ ", " ++ quote path.raw ++ "))"
  | none => "Relative((" ++ bracketed (path.segments.map Segment.outline) ++ ", " ++ quote path.raw ++ "))"

mutual

def Operand.outline : Operand → String
  | .literal value => "Literal(" ++ value.outline ++ ")"
  | .path path => "Path(" ++ path.outline ++ ")"
  | .word name => "Name(" ++ quote name ++ ")"
  | .call head arguments =>
    let arguments := outlineArguments arguments
    let positional := arguments.filterMap fun (key, part) => if key.isNone then some part else none
    "Subexpression(Subexpression \x7b element: Expression(HelperTemplate \x7b name: " ++ head.outline ++
      ", params: " ++ bracketed positional ++ ", hash: " ++ braced (named arguments) ++
      ", block_param: None, template: None, inverse: None, block: false, chain: false, " ++
      "indent_before_write: false \x7d) \x7d)"

def outlineArguments : List Argument → List (Option String × String)
  | [] => []
  | (key, operand) :: arguments => (key, operand.outline) :: outlineArguments arguments

end

/-- What an expression is called in an error: its name, or its structure if it has none. -/
def Expression.label (expression : Expression) : String :=
  (expression.head.name?).getD expression.head.outline

end Template

end Stencil
