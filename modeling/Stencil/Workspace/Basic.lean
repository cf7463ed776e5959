import Stencil.Cache
import Stencil.Workspace.Error
import Stencil.Workspace.Options

set_option autoImplicit false

/-!
A workspace: engines, registries, the cache of compiled sources, and the documents that are held.

A document is a template that has been made. It is registered in its engine under a key of its own
for as long as it is held under some name.
-/

namespace Stencil

structure Document where
  source : String
  name : Option String
  schema : Option Schema
  cached : Bool
  engine : EngineId
  /-- The name under which the template is registered in the engine. -/
  key : String

/-- The key of a source that is registered as the document of some number. -/
def registrationKey (source : String) (number : Nat) : String :=
  "quill:" ++ Digest.ofText source ++ ":" ++ toString number

structure Workspace where
  engines : Table EngineId Engine
  registries : Table RegistryId Registry
  cache : Cache
  /-- How many documents have been made. -/
  made : Nat
  documents : Table String Document

namespace Workspace

def empty : Workspace := ⟨Table.empty, Table.empty, Cache.empty, 0, Table.empty⟩

/-! ### Engines and registries -/

/-- An engine; it is empty until something is done to it. -/
def engine (workspace : Workspace) (id : EngineId) : Engine :=
  (workspace.engines.find? id).getD Engine.empty

def setEngine (workspace : Workspace) (id : EngineId) (engine : Engine) : Workspace :=
  { workspace with engines := workspace.engines.put id engine }

/-- A registry; it is empty and on the common engine unless it was opened on another. -/
def registry (workspace : Workspace) (id : RegistryId) : Registry :=
  (workspace.registries.find? id).getD (Registry.on .common)

def setRegistry (workspace : Workspace) (id : RegistryId) (registry : Registry) : Workspace :=
  { workspace with registries := workspace.registries.put id registry }

def openRegistry (workspace : Workspace) (id : RegistryId) (engine : EngineId) : Workspace :=
  workspace.setRegistry id (Registry.on engine)

def register (workspace : Workspace) (id : RegistryId) (name : String) (helper : Helper)
    (note : Option HelperNote) : Workspace :=
  workspace.setRegistry id ((workspace.registry id).register name helper note)

def registerAll (workspace : Workspace) (id : RegistryId) (helpers : List (String × Helper)) :
    Workspace :=
  workspace.setRegistry id ((workspace.registry id).registerAll helpers)

def clearRegistry (workspace : Workspace) (id : RegistryId) : Workspace :=
  workspace.setRegistry id (workspace.registry id).clear

/-- Binds the helpers of a registry to an engine and counts those that were not bound to it. -/
def bindTo (workspace : Workspace) (id : RegistryId) (engine : EngineId) : Nat × Workspace :=
  let (registry, bound, count) := (workspace.registry id).bind engine (workspace.engine engine)
  (count, (workspace.setRegistry id registry).setEngine engine bound)

/-- Binds the helpers of a registry to its own engine. -/
def bind (workspace : Workspace) (id : RegistryId) : Nat × Workspace :=
  workspace.bindTo id (workspace.registry id).engine

/-- Registers a helper globally and binds it at once. -/
def registerGlobally (workspace : Workspace) (name : String) (helper : Helper) : Workspace :=
  ((workspace.register .global name helper none).bind .global).2

def registerHelper (workspace : Workspace) (id : EngineId) (name : String) (helper : Helper) :
    Workspace :=
  workspace.setEngine id ((workspace.engine id).registerHelper name helper)

/-- Installs the catalog; true if the engine did not have it. -/
def installCatalog (workspace : Workspace) (id : EngineId) : Bool × Workspace :=
  let engine := workspace.engine id
  (!engine.hasCatalog, workspace.setEngine id engine.installCatalog)

/-! ### Compiling -/

/-- Compiles a source. -/
def compile (workspace : Workspace) (cached : Bool) (source : String) :
    Except Template.SourceError Template × Workspace :=
  let (result, cache) := workspace.cache.compile Digest.ofText cached source
  (result, { workspace with cache })

def clearCache (workspace : Workspace) : Workspace := { workspace with cache := Cache.empty }

/-- Compiles a partial and registers it in an engine. -/
def addPartial (workspace : Workspace) (id : EngineId) (cached : Bool) (name source : String) :
    Except TemplateError Unit × Workspace :=
  match workspace.compile cached source with
  | (.ok template, workspace) =>
    (.ok (), workspace.setEngine id ((workspace.engine id).registerTemplate name template))
  | (.error error, workspace) =>
    (.error (.faultyPartial name (error.diagnosis source (some name))), workspace)

/-- Adds partials in turn, up to the first that does not compile. -/
def addPartials (id : EngineId) (cached : Bool) :
    List (String × String) → Workspace → Except TemplateError Unit × Workspace
  | [], workspace => (.ok (), workspace)
  | (name, source) :: partials, workspace =>
    match workspace.addPartial id cached name source with
    | (.ok (), workspace) => addPartials id cached partials workspace
    | (.error error, workspace) => (.error error, workspace)

/-! ### Documents -/

/-- The key of the document that is made next. -/
def nextKey (workspace : Workspace) (source : String) : String :=
  registrationKey source (workspace.made + 1)

/-- Whether some document is registered in an engine under a key. -/
def holds (workspace : Workspace) (document : Document) : Bool :=
  workspace.documents.entries.any fun entry =>
    decide (entry.2.engine = document.engine) && decide (entry.2.key = document.key)

/-- Removes the template of a document that is not held any more. -/
def release (workspace : Workspace) (document : Document) : Workspace :=
  if workspace.holds document then workspace
  else
    workspace.setEngine document.engine
      ((workspace.engine document.engine).unregisterTemplate document.key)

def releaseAll (workspace : Workspace) (documents : Option Document) : Workspace :=
  match documents with
  | some document => workspace.release document
  | none => workspace

/-- Holds a document under a name, in the place of the one that had the name. -/
def hold (workspace : Workspace) (name : String) (document : Document) : Workspace :=
  releaseAll { workspace with documents := workspace.documents.put name document }
    (workspace.documents.find? name)

def drop (workspace : Workspace) (name : String) : Workspace :=
  releaseAll { workspace with documents := workspace.documents.erase name }
    (workspace.documents.find? name)

/-- What a template is made on: the registry's engine, after its catalog and helpers. -/
def prepare (workspace : Workspace) (id : RegistryId) : EngineId × Workspace :=
  let engine := (workspace.registry id).engine
  let workspace := (workspace.installCatalog engine).2
  match id with
  | .global => (engine, workspace)
  | .scoped _ => (engine, (workspace.bind id).2)

/-- Compiles the source of a document and registers it under a new key. -/
def compileDocument (workspace : Workspace) (engine : EngineId) (source : String)
    (options : Options) : Except TemplateError Document × Workspace :=
  match workspace.compile options.cached source with
  | (.ok template, workspace) =>
    let key := workspace.nextKey source
    let workspace := workspace.setEngine engine
      ((workspace.engine engine).registerTemplate key template)
    (.ok ⟨source, options.name, options.schema, options.cached, engine, key⟩,
      { workspace with made := workspace.made + 1 })
  | (.error error, workspace) =>
    (.error (.faultySource (error.diagnosis source options.name)), workspace)

/-- Makes a document: the source and the schema are checked, the engine is prepared, and the partials
are added before the source is compiled. -/
def make (workspace : Workspace) (source : String) (options : Options) :
    Except TemplateError Document × Workspace :=
  if source.isEmpty then (.error .emptySource, workspace)
  else
    match options.schema.bind Schema.fault? with
    | some fault => (.error (.invalidSchema fault), workspace)
    | none =>
      let (engine, workspace) := workspace.prepare (options.registry.getD .global)
      match addPartials engine options.cached options.partials.entries workspace with
      | (.error error, workspace) => (.error error, workspace)
      | (.ok (), workspace) => workspace.compileDocument engine source options

/-- Makes a document and holds it under a name; what had the name stays if none is made. -/
def create (workspace : Workspace) (name source : String) (options : Options) :
    Except TemplateError Document × Workspace :=
  match workspace.make source options with
  | (.ok document, workspace) => (.ok document, workspace.hold name document)
  | (.error error, workspace) => (.error error, workspace)

/-- The source that a file holds, if there is a file. -/
def sourceOf (file : Option ByteArray) : Except TemplateError String :=
  match file with
  | none => .error (.unreadableFile .notFound)
  | some bytes =>
    match String.fromUTF8? bytes with
    | some source => .ok source
    | none => .error (.unreadableFile .notText)

/-- Makes a document from a file. -/
def createFrom (workspace : Workspace) (name : String) (file : Option ByteArray)
    (options : Options) : Except TemplateError Document × Workspace :=
  match sourceOf file with
  | .ok source => workspace.create name source options
  | .error error => (.error error, workspace)

end Workspace

end Stencil
