import Stencil.Template.Operand

set_option autoImplicit false

/-! What templates consist of. -/

namespace Stencil

namespace Template

inductive Element where
  | text (text : String)
  /-- Writes a value. -/
  | value (expression : Expression)
  /-- Runs a helper with a body and an alternative to it. -/
  | block (expression : Expression) (params : List String) (indented : Bool)
      (body : List Element) (inverse : List Element)
  /-- Includes a partial, every line of it behind an indentation. -/
  | inclusion (expression : Expression) (indented : Bool) (indent : Option String)
  /-- Includes a partial and hands it a body. -/
  | inclusionBlock (expression : Expression) (indented : Bool) (body : List Element)
  | decoration (expression : Expression)
  | decorationBlock (expression : Expression) (body : List Element)
  | comment (text : String)

end Template

/-- A template. -/
abbrev Template := List Template.Element

end Stencil
