import Stencil.Workspace.Rendering

set_option autoImplicit false

/-!
Sessions: what a workspace is asked for, one request after the other, and what it replies. Documents
are named by the handles under which they are held.
-/

namespace Stencil

/-- How a document is rendered. -/
inductive RenderMode where
  | plain
  /-- Only with a schema. -/
  | guarded
  /-- Only with a schema, and to nothing if the data is invalid. -/
  | lenient
  deriving DecidableEq

inductive Request where
  | openRegistry (number : Nat) (engine : EngineId)
  | register (registry : RegistryId) (name : String) (helper : Helper) (note : Option HelperNote)
  | registerAll (registry : RegistryId) (helpers : List (String × Helper))
  | registerGlobally (name : String) (helper : Helper)
  | clearRegistry (registry : RegistryId)
  | describeRegistry (registry : RegistryId)
  | describeHelper (registry : RegistryId) (name : String)
  /-- Calls a registered helper, by the name in the call. -/
  | callHelper (registry : RegistryId) (call : Call)
  /-- Binds a registry to its own engine or to a given one. -/
  | bind (registry : RegistryId) (engine : Option EngineId)
  | registerHelper (engine : EngineId) (name : String) (helper : Helper)
  | installCatalog (engine : EngineId)
  /-- Asks for the helpers of an engine, and which templates of some names it has. -/
  | describeEngine (engine : EngineId) (templates : List String)
  | renderTemplate (engine : EngineId) (name : String) (now : Calendar.Instant) (data : Json)
  | create (handle source : String) (options : Options)
  | createFrom (handle : String) (file : Option ByteArray) (options : Options)
  | addPartial (handle name source : String)
  /-- Holds a document under one more handle. -/
  | copy (handle other : String)
  | drop (handle : String)
  | describe (handle : String)
  | render (handle : String) (mode : RenderMode) (timing : Timing) (now : Calendar.Instant)
      (data : Json)
  | validate (handle : String) (timing : Timing) (data : Json)
  | clearCache
  /-- Asks for the numbers of the cache, and which sources it has. -/
  | describeCache (sources : List String)

/-- What a document tells about itself; all else follows from its source. -/
structure Description where
  source : String
  name : Option String
  hasSchema : Bool
  deriving DecidableEq

def Document.description (document : Document) : Description :=
  ⟨document.source, document.name, document.schema.isSome⟩

inductive Reply where
  | done
  | names (names : List String)
  | helper (known : Bool) (note : Option HelperNote)
  | answered (answer : Option (Answer Json))
  | bound (count : Nat)
  | installed (fresh : Bool)
  | engine (helpers : List String) (templates : List Bool)
  | made (result : Except TemplateError Description)
  | added (result : Except TemplateError Unit)
  | dropped (known : Bool)
  | described (description : Description)
  | rendered (result : Except TemplateError (Option String))
  | validated (result : Except TemplateError Verdict)
  | cache (hits misses size : Nat) (contains : List Bool)
  | noDocument

namespace Workspace

/-- Renders a document in one of the modes. -/
def renderAs (workspace : Workspace) (mode : RenderMode) (now : Calendar.Instant)
    (document : Document) (timing : Timing) (data : Json) : Except TemplateError (Option String) :=
  match mode with
  | .plain => (workspace.render now document timing data).map some
  | .guarded => (workspace.renderGuarded now document timing data).map some
  | .lenient => workspace.renderGuarded? now document timing data

/-- The reply on the document of a handle. -/
def onDocument (workspace : Workspace) (handle : String) (reply : Document → Reply × Workspace) :
    Reply × Workspace :=
  match workspace.documents.find? handle with
  | some document => reply document
  | none => (.noDocument, workspace)

def answer (workspace : Workspace) : Request → Reply × Workspace
  | .openRegistry number engine => (.done, workspace.openRegistry (.scoped number) engine)
  | .register registry name helper note =>
    let workspace := workspace.register registry name helper note
    (.names (workspace.registry registry).names, workspace)
  | .registerAll registry helpers =>
    let workspace := workspace.registerAll registry helpers
    (.names (workspace.registry registry).names, workspace)
  | .registerGlobally name helper =>
    let workspace := workspace.registerGlobally name helper
    (.names (workspace.registry .global).names, workspace)
  | .clearRegistry registry => (.done, workspace.clearRegistry registry)
  | .describeRegistry registry => (.names (workspace.registry registry).names, workspace)
  | .describeHelper registry name =>
    let found := workspace.registry registry
    (.helper (found.has name) (found.note? name), workspace)
  | .callHelper registry call =>
    (.answered (((workspace.registry registry).helper? call.helper).map fun helper => helper call),
      workspace)
  | .bind registry engine =>
    let (count, workspace) :=
      workspace.bindTo registry (engine.getD (workspace.registry registry).engine)
    (.bound count, workspace)
  | .registerHelper engine name helper => (.done, workspace.registerHelper engine name helper)
  | .installCatalog engine =>
    let (fresh, workspace) := workspace.installCatalog engine
    (.installed fresh, workspace)
  | .describeEngine engine templates =>
    let found := workspace.engine engine
    (.engine found.helperNames (templates.map found.hasTemplate), workspace)
  | .renderTemplate engine name now data =>
    (.rendered ((workspace.renderRegistered now engine name data).map some), workspace)
  | .create handle source options =>
    let (result, workspace) := workspace.create handle source options
    (.made (result.map Document.description), workspace)
  | .createFrom handle file options =>
    let (result, workspace) := workspace.createFrom handle file options
    (.made (result.map Document.description), workspace)
  | .addPartial handle name source =>
    workspace.onDocument handle fun document =>
      let (result, workspace) :=
        workspace.addPartial document.engine document.cached name source
      (.added result, workspace)
  | .copy handle other =>
    workspace.onDocument handle fun document =>
      (.described document.description, workspace.hold other document)
  | .drop handle => (.dropped (workspace.documents.contains handle), workspace.drop handle)
  | .describe handle =>
    workspace.onDocument handle fun document => (.described document.description, workspace)
  | .render handle mode timing now data =>
    workspace.onDocument handle fun document =>
      (.rendered (workspace.renderAs mode now document timing data), workspace)
  | .validate handle timing data =>
    workspace.onDocument handle fun document =>
      (.validated (document.validate timing data), workspace)
  | .clearCache => (.done, workspace.clearCache)
  | .describeCache sources =>
    let cache := workspace.cache
    (.cache cache.hits cache.misses cache.size (sources.map (cache.contains Digest.ofText)),
      workspace)

/-- The workspace after some requests. -/
def after (workspace : Workspace) (requests : List Request) : Workspace :=
  requests.foldl (fun workspace request => (workspace.answer request).2) workspace

/-- The replies to some requests. -/
def replies (workspace : Workspace) : List Request → List Reply
  | [] => []
  | request :: requests =>
    let (reply, workspace) := workspace.answer request
    reply :: workspace.replies requests

end Workspace

end Stencil
