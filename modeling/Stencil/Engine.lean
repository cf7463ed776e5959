import Stencil.Helper.Catalog
import Stencil.Render.Basic
import Stencil.Table

set_option autoImplicit false

/-!
Engines: the helpers that are bound by name, and the compiled templates that are registered by name.
Templates include each other by these names.
-/

namespace Stencil

structure Engine where
  helpers : Table String Helper
  templates : Table String Template
  /-- Whether the catalog has been installed. -/
  hasCatalog : Bool

namespace Engine

def empty : Engine := ⟨Table.empty, Table.empty, false⟩

/-- Binds a helper; one that was bound under the name is replaced. -/
def registerHelper (engine : Engine) (name : String) (helper : Helper) : Engine :=
  { engine with helpers := engine.helpers.put name helper }

/-- Binds the helpers of the catalog, once for each engine. -/
def installCatalog (engine : Engine) : Engine :=
  if engine.hasCatalog then engine
  else
    { engine with
      helpers := engine.helpers.putAll (Catalog.entries.map fun entry => (entry.name, entry.run))
      hasCatalog := true }

def hasHelper (engine : Engine) (name : String) : Bool := engine.helpers.contains name

/-- The names of the bound helpers in ascending order. -/
def helperNames (engine : Engine) : List String :=
  engine.helpers.keys.mergeSort fun left right => decide (left ≤ right)

def registerTemplate (engine : Engine) (name : String) (template : Template) : Engine :=
  { engine with templates := engine.templates.put name template }

def unregisterTemplate (engine : Engine) (name : String) : Engine :=
  { engine with templates := engine.templates.erase name }

def hasTemplate (engine : Engine) (name : String) : Bool := engine.templates.contains name

/-- What the templates of an engine are rendered with. -/
def environment (engine : Engine) (now : Calendar.Instant) : Render.Environment :=
  ⟨engine.helpers.find?, engine.templates.find?, now⟩

/-- Renders the template that is registered under a name. -/
def render (engine : Engine) (now : Calendar.Instant) (name : String) (data : Json) :
    Rendered String :=
  match engine.templates.find? name with
  | some template => Render.render (engine.environment now) template data
  | none => .error (.templateNotFound name)

end Engine

end Stencil
