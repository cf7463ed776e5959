import Stencil.Helper.Basic

set_option autoImplicit false

/-! Why a template cannot be rendered. -/

namespace Stencil

inductive RenderError where
  | templateNotFound (name : String)
  | partialNotFound (name : String)
  /-- A partial asks for the body of its block, but was included without one. -/
  | partialBlockNotFound
  | helperNotFound (name : String)
  | decoratorNotFound (name : String)
  | missingParameter (helper : String) (index : Nat)
  | missingNamedParameter (helper name : String)
  /-- A decorator's parameter is of another type. -/
  | wrongParameter (expected : String)
  | blockRequired
  /-- An item of an array is chosen by a text that is no position. -/
  | notAnIndex (segment : String)
  | unknownLogLevel (level : String)
  /-- A helper ended without a value. -/
  | helper (halt : Halt)
  /-- Partials include each other without an end. -/
  | tooDeep
  deriving DecidableEq

abbrev Rendered (α : Type) := Except RenderError α

namespace RenderError

def message : RenderError → String
  | templateNotFound name => "Template not found " ++ name
  | partialNotFound name => "Partial not found " ++ name
  | partialBlockNotFound => "Partial block cound not be found"
  | helperNotFound name => "Helper not found " ++ name
  | decoratorNotFound name => "Decorator not found " ++ name
  | missingParameter owner index =>
    "Helper/Decorator " ++ owner ++ " param at index " ++ toString index ++
      " required but not found"
  | missingNamedParameter owner name =>
    "Helper/Decorator " ++ owner ++ " param with name " ++ name ++ " required but not found"
  | wrongParameter expected => "Invalid param type, " ++ expected ++ " expected"
  | blockRequired => "Block content required"
  | notAnIndex segment => "Cannot access array/vector with string index, " ++ segment
  | unknownLogLevel level => "Invalid logging level: " ++ level
  | helper (.refused error) => error.message
  | helper .unbounded => "out of bounds"
  | helper .endless => "fill never ends"
  | tooDeep => "partials nest too deep"

end RenderError

end Stencil
