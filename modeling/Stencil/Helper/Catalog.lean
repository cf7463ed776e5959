import Stencil.Helper.Arithmetic
import Stencil.Helper.Choices
import Stencil.Helper.Collections
import Stencil.Helper.Dates
import Stencil.Helper.Objects
import Stencil.Helper.Texts

set_option autoImplicit false

/-! The catalog of helpers that every engine can install. -/

namespace Stencil.Catalog

/-- All helpers of the catalog, in the order in which they are listed. -/
def entries : List CatalogEntry :=
  Texts.entries ++ Dates.entries ++ Arithmetic.entries ++ Collections.entries ++ Objects.entries ++
    Choices.comparing ++ Choices.choosing

def names : List String := entries.map CatalogEntry.name

def find? (name : String) : Option CatalogEntry := entries.find? (·.name == name)

def describe? (name : String) : Option String := (find? name).map CatalogEntry.description

/-- Runs the catalog's helper of the called name. -/
def run (call : Call) : Answer Json :=
  match find? call.helper with
  | some entry => entry.run call
  | none => .error (.refused (.custom ("unknown helper '" ++ call.helper ++ "'")))

end Stencil.Catalog
