import Stencil.Registry
import Stencil.Schema
import Stencil.Text.Quoted

set_option autoImplicit false

/-! What can be asked for when a template is made, and the text that shows it. -/

namespace Stencil

/-- Registries: the global one, and any number of scoped ones. -/
inductive RegistryId where
  | global
  | scoped (number : Nat)
  deriving DecidableEq

structure Options where
  /-- The registry that the template is made on; none stands for the global one. -/
  registry : Option RegistryId
  /-- Partials that are made first, in the order in which their names came up. -/
  partials : Table String String
  schema : Option Schema
  /-- Whether compiled sources may come from the cache. -/
  cached : Bool
  /-- The name that diagnostics use. -/
  name : Option String

namespace Options

def default : Options := ⟨none, Table.empty, none, true, none⟩

/-- Shows an optional text. -/
def showText : Option String → String
  | some text => "Some(" ++ Text.quote text ++ ")"
  | none => "None"

/-- Shows options without a registry; of a schema only the vendor is shown. -/
def shown (options : Options) : String :=
  "TemplateOptions \x7b registry: None, partials: [" ++
    ", ".intercalate (options.partials.keys.map Text.quote) ++
    "], schema: " ++ showText (options.schema.map Schema.vendor) ++
    ", cache: " ++ (if options.cached then "true" else "false") ++
    ", name: " ++ showText options.name ++ " \x7d"

end Options

end Stencil
