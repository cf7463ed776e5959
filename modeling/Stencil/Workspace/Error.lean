import Stencil.Diagnostic.Basic
import Stencil.Render.Error
import Stencil.Schema

set_option autoImplicit false

/-! Why a template is not made, or not rendered. -/

namespace Stencil

/-- Why the source of a template cannot be taken from a file. -/
inductive FileFault where
  | notFound
  /-- The file does not hold text. -/
  | notText
  deriving DecidableEq

inductive TemplateError where
  | emptySource
  | invalidSchema (fault : SchemaFault)
  | noSchema
  | faultySource (diagnosis : Diagnosis)
  | faultyPartial (name : String) (diagnosis : Diagnosis)
  | refused (refusal : Refusal)
  | unrendered (error : RenderError)
  | unreadableFile (fault : FileFault)
  deriving DecidableEq

namespace SchemaFault

def message : SchemaFault → String
  | noProtocol => "invalid schema: schema does not expose standard schema properties"
  | unsupportedVersion version =>
    "invalid schema: unsupported standard schema version " ++ toString version ++ " (expected " ++
      toString Schema.version ++ ")"

end SchemaFault

namespace TemplateError

/-- True for errors that a value of the right form would not meet. -/
def isValidation : TemplateError → Bool
  | refused (.invalid _ _) => true
  | _ => false

end TemplateError

end Stencil
