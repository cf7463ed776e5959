import Stencil.Engine

set_option autoImplicit false

/-!
Registries of helpers. A registry keeps helpers by name and binds them to engines, each of them once
to each engine; a helper that is registered again is bound again.
-/

namespace Stencil

/-- Engines: the common one, and any number of others. -/
inductive EngineId where
  | common
  | other (number : Nat)
  deriving DecidableEq

/-- What is said about a helper. -/
structure HelperNote where
  description : Option String
  dependencies : List String
  version : Option String
  deriving DecidableEq

structure Registration where
  helper : Helper
  note : Option HelperNote

structure Registry where
  /-- The engine that renders the templates of the registry. -/
  engine : EngineId
  entries : Table String Registration
  /-- Which helpers have been bound to which engines. -/
  bound : List (EngineId × String)

namespace Registry

/-- A registry without helpers, on an engine. -/
def on (engine : EngineId) : Registry := ⟨engine, Table.empty, []⟩

/-- Registers a helper in the place of one of the same name. -/
def register (registry : Registry) (name : String) (helper : Helper) (note : Option HelperNote) :
    Registry :=
  { registry with
    entries := registry.entries.put name ⟨helper, note⟩
    bound := registry.bound.filter fun binding => decide (binding.2 ≠ name) }

def registerAll (registry : Registry) (helpers : List (String × Helper)) : Registry :=
  helpers.foldl (fun registry helper => registry.register helper.1 helper.2 none) registry

def helper? (registry : Registry) (name : String) : Option Helper :=
  (registry.entries.find? name).map Registration.helper

def note? (registry : Registry) (name : String) : Option HelperNote :=
  (registry.entries.find? name).bind Registration.note

def has (registry : Registry) (name : String) : Bool := registry.entries.contains name

/-- The names of the helpers in the order of their registration. -/
def names (registry : Registry) : List String := registry.entries.keys

def size (registry : Registry) : Nat := registry.entries.size

/-- The helpers that are not bound to an engine yet. -/
def pending (registry : Registry) (id : EngineId) : List (String × Registration) :=
  registry.entries.entries.filter fun entry => decide ((id, entry.1) ∉ registry.bound)

/-- Binds the pending helpers to an engine, after the catalog, and counts them. -/
def bind (registry : Registry) (id : EngineId) (engine : Engine) : Registry × Engine × Nat :=
  let pending := registry.pending id
  let engine := pending.foldl (fun engine entry => engine.registerHelper entry.1 entry.2.helper)
    engine.installCatalog
  ({ registry with bound := pending.map (fun entry => (id, entry.1)) ++ registry.bound }, engine,
    pending.length)

/-- Forgets all helpers; engines keep those that are bound to them. -/
def clear (registry : Registry) : Registry := on registry.engine

end Registry

end Stencil
