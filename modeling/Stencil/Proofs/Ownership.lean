import Stencil.Proofs.DocumentLifetime

set_option autoImplicit false

/-!
Two sides of a workspace. Each registry, each engine and each handle belongs to one side. A request
works on some of them, and changes no other (`within_answer`).
-/

namespace Stencil

/-- What requests work on. -/
inductive Resource where
  | registry (id : RegistryId)
  | engine (id : EngineId)
  | document (handle : String)
  deriving DecidableEq

inductive Side where
  | near
  | far
  deriving DecidableEq

namespace Workspace

/-- A handle, and the engine of the document that it holds. -/
def reach (workspace : Workspace) (handle : String) : List Resource :=
  .document handle ::
    ((workspace.documents.find? handle).map fun document => .engine document.engine).toList

/-- What making a document under a handle works on: the handle, with what it held before, and the
registry and its engine. -/
def reachOfMaking (workspace : Workspace) (handle : String) (options : Options) : List Resource :=
  let registry := options.registry.getD .global
  [.registry registry, .engine (workspace.registry registry).engine] ++ workspace.reach handle

/-- The registries, engines and handles that a request works on. -/
def touches (workspace : Workspace) : Request → List Resource
  | .openRegistry number engine => [.registry (.scoped number), .engine engine]
  | .register registry _ _ _ => [.registry registry]
  | .registerAll registry _ => [.registry registry]
  | .registerGlobally _ _ => [.registry .global, .engine (workspace.registry .global).engine]
  | .clearRegistry registry => [.registry registry]
  | .describeRegistry registry => [.registry registry]
  | .describeHelper registry _ => [.registry registry]
  | .callHelper registry _ => [.registry registry]
  | .bind registry engine =>
    [.registry registry, .engine (engine.getD (workspace.registry registry).engine)]
  | .registerHelper engine _ _ => [.engine engine]
  | .installCatalog engine => [.engine engine]
  | .describeEngine engine _ => [.engine engine]
  | .renderTemplate engine _ _ _ => [.engine engine]
  | .create handle _ options => workspace.reachOfMaking handle options
  | .createFrom handle _ options => workspace.reachOfMaking handle options
  | .addPartial handle _ _ => workspace.reach handle
  | .copy handle other => workspace.reach handle ++ workspace.reach other
  | .drop handle => workspace.reach handle
  | .describe handle => workspace.reach handle
  | .render handle _ _ _ _ => workspace.reach handle
  | .validate handle _ _ => workspace.reach handle
  | .clearCache => []
  | .describeCache _ => []

/-- True if all that a request works on belongs to one side. -/
def Owns (owner : Resource → Side) (side : Side) (workspace : Workspace) (request : Request) :
    Prop :=
  ∀ resource ∈ workspace.touches request, owner resource = side

/-- True if each request of a run works on what belongs to its own side. -/
def Separated (owner : Resource → Side) : Workspace → List (Side × Request) → Prop
  | _, [] => True
  | workspace, (side, request) :: steps =>
    Owns owner side workspace request ∧ Separated owner (workspace.answer request).2 steps

section

variable {owner : Resource → Side}

instance (side : Side) (workspace : Workspace) (request : Request) :
    Decidable (Owns owner side workspace request) :=
  inferInstanceAs (Decidable (∀ resource ∈ workspace.touches request, owner resource = side))

instance decidableSeparated : ∀ (workspace : Workspace) (steps : List (Side × Request)),
    Decidable (Separated owner workspace steps)
  | _, [] => isTrue trivial
  | workspace, (side, request) :: steps =>
    have := decidableSeparated (workspace.answer request).2 steps
    inferInstanceAs (Decidable (Owns owner side workspace request ∧
      Separated owner (workspace.answer request).2 steps))

end

/-- The replies that a side gets in a run of both sides. -/
def sideReplies (side : Side) : Workspace → List (Side × Request) → List Reply
  | _, [] => []
  | workspace, (other, request) :: steps =>
    if other = side then
      (workspace.answer request).1 :: sideReplies side (workspace.answer request).2 steps
    else sideReplies side (workspace.answer request).2 steps

/-- The requests of a side. -/
def requestsOf (side : Side) (steps : List (Side × Request)) : List Request :=
  (steps.filter fun step => decide (step.1 = side)).map Prod.snd

variable {workspace next last : Workspace} {resources : List Resource}

/-! ### What a request changes -/

/-- True if a workspace comes from another by changes to some resources alone. -/
structure Within (resources : List Resource) (workspace next : Workspace) : Prop where
  registries : ∀ id, .registry id ∉ resources → next.registry id = workspace.registry id
  engines : ∀ id, .engine id ∉ resources → next.engine id = workspace.engine id
  documents : ∀ handle, .document handle ∉ resources →
    next.documents.find? handle = workspace.documents.find? handle

theorem Within.refl (workspace : Workspace) : Within resources workspace workspace :=
  ⟨fun _ _ => rfl, fun _ _ => rfl, fun _ _ => rfl⟩

theorem Within.trans (first : Within resources workspace next)
    (second : Within resources next last) : Within resources workspace last :=
  ⟨fun id free => (second.registries id free).trans (first.registries id free),
    fun id free => (second.engines id free).trans (first.engines id free),
    fun handle free => (second.documents handle free).trans (first.documents handle free)⟩

/-- The cache and the number of documents belong to nobody. -/
theorem within_of_same (registries : next.registries = workspace.registries)
    (engines : next.engines = workspace.engines)
    (documents : next.documents = workspace.documents) : Within resources workspace next := by
  refine ⟨fun id _ => ?_, fun id _ => ?_, fun handle _ => ?_⟩
  · rw [registry, registry, registries]
  · rw [engine, engine, engines]
  · rw [documents]

theorem registry_setRegistry (workspace : Workspace) (id other : RegistryId) (registry : Registry) :
    (workspace.setRegistry id registry).registry other =
      if other = id then registry else workspace.registry other := by
  unfold Workspace.registry setRegistry
  split
  · rename_i same
    rw [same, Table.find?_put_self]
    rfl
  · rename_i differs
    rw [Table.find?_put_of_ne _ differs]

theorem within_setRegistry {id : RegistryId} (member : .registry id ∈ resources)
    (registry : Registry) : Within resources workspace (workspace.setRegistry id registry) := by
  refine ⟨fun other free => ?_, fun _ _ => rfl, fun _ _ => rfl⟩
  rw [registry_setRegistry, if_neg]
  rintro rfl
  exact free member

theorem within_setEngine {id : EngineId} (member : .engine id ∈ resources) (engine : Engine) :
    Within resources workspace (workspace.setEngine id engine) := by
  refine ⟨fun _ _ => rfl, fun other free => ?_, fun _ _ => rfl⟩
  rw [engine_setEngine, if_neg]
  rintro rfl
  exact free member

theorem within_bindTo {id : RegistryId} {engine : EngineId} (member : .registry id ∈ resources)
    (works : .engine engine ∈ resources) :
    Within resources workspace (workspace.bindTo id engine).2 :=
  (within_setRegistry member _).trans (within_setEngine works _)

theorem within_compile (cached : Bool) (source : String) :
    Within resources workspace (workspace.compile cached source).2 :=
  within_of_same rfl rfl rfl

theorem within_addPartial {id : EngineId} (works : .engine id ∈ resources) (cached : Bool)
    (name source : String) :
    Within resources workspace (workspace.addPartial id cached name source).2 := by
  have compiled : Within resources workspace (workspace.compile cached source).2 :=
    within_compile cached source
  unfold addPartial
  rcases read : workspace.compile cached source with ⟨result, next⟩
  rw [read] at compiled
  cases result with
  | ok template => exact compiled.trans (within_setEngine works _)
  | error error => exact compiled

theorem within_addPartials {id : EngineId} (works : .engine id ∈ resources) (cached : Bool)
    (partials : List (String × String)) : ∀ workspace : Workspace,
    Within resources workspace (addPartials id cached partials workspace).2 := by
  induction partials with
  | nil => exact fun workspace => Within.refl workspace
  | cons entry partials ih =>
    intro workspace
    obtain ⟨name, source⟩ := entry
    have first : Within resources workspace (workspace.addPartial id cached name source).2 :=
      within_addPartial works cached name source
    unfold addPartials
    rcases added : workspace.addPartial id cached name source with ⟨result, next⟩
    rw [added] at first
    cases result with
    | ok _ => exact first.trans (ih next)
    | error error => exact first

theorem within_prepare {id : RegistryId} (member : .registry id ∈ resources)
    (works : .engine (workspace.registry id).engine ∈ resources) :
    Within resources workspace (workspace.prepare id).2 := by
  have installed : Within resources workspace
      (workspace.installCatalog (workspace.registry id).engine).2 := within_setEngine works _
  rcases id with _ | number
  · exact installed
  · exact installed.trans (within_bindTo member works)

theorem within_compileDocument {engine : EngineId} (works : .engine engine ∈ resources)
    (source : String) (options : Options) :
    Within resources workspace (workspace.compileDocument engine source options).2 := by
  have compiled : Within resources workspace (workspace.compile options.cached source).2 :=
    within_compile options.cached source
  unfold compileDocument
  rcases read : workspace.compile options.cached source with ⟨result, next⟩
  rw [read] at compiled
  cases result with
  | ok template =>
    exact (compiled.trans (within_setEngine works _)).trans (within_of_same rfl rfl rfl)
  | error error => exact compiled

theorem prepare_fst (workspace : Workspace) (id : RegistryId) :
    (workspace.prepare id).1 = (workspace.registry id).engine := by
  rcases id with _ | number
  · rfl
  · rfl

theorem within_make {options : Options}
    (member : .registry (options.registry.getD .global) ∈ resources)
    (works : .engine (workspace.registry (options.registry.getD .global)).engine ∈ resources)
    (source : String) : Within resources workspace (workspace.make source options).2 := by
  unfold make
  split
  · exact Within.refl workspace
  · split
    · exact Within.refl workspace
    · have prepared := within_prepare member works
      have same := workspace.prepare_fst (options.registry.getD .global)
      rcases ready : workspace.prepare (options.registry.getD .global) with ⟨engine, next⟩
      rw [ready] at prepared same
      simp only at prepared same ⊢
      rw [← same] at works
      have added := within_addPartials works options.cached options.partials.entries next
      rcases addition : addPartials engine options.cached options.partials.entries next with
        ⟨result, later⟩
      rw [addition] at added
      cases result with
      | ok _ =>
        exact (prepared.trans added).trans (within_compileDocument works source options)
      | error error => exact prepared.trans added

theorem within_releaseAll {document : Option Document}
    (works : ∀ found ∈ document, .engine found.engine ∈ resources) :
    Within resources workspace (workspace.releaseAll document) := by
  cases document with
  | none => exact Within.refl workspace
  | some document =>
    show Within resources workspace (workspace.release document)
    unfold release
    split
    · exact Within.refl workspace
    · exact within_setEngine (works document rfl) _

theorem mem_reach (workspace : Workspace) (handle : String) :
    .document handle ∈ workspace.reach handle := List.mem_cons_self

theorem engine_mem_reach {handle : String} {document : Document}
    (found : workspace.documents.find? handle = some document) :
    .engine document.engine ∈ workspace.reach handle := by
  rw [reach, found]
  exact List.mem_cons_of_mem _ List.mem_cons_self

/-- Changing the document of a handle changes what the handle reached before. -/
theorem within_replace {handle : String} (reached : ∀ resource ∈ workspace.reach handle,
    resource ∈ resources) (document : Option Document) :
    Within resources workspace (workspace.replace handle document) := by
  have changed : Within resources workspace (workspace.rebind handle document) := by
    refine ⟨fun _ _ => rfl, fun _ _ => rfl, fun other free => ?_⟩
    rw [find?_rebind, if_neg]
    rintro rfl
    exact free (reached _ (mem_reach workspace other))
  exact changed.trans (within_releaseAll fun found there => reached _ (engine_mem_reach there))

/-- Making a document changes no handle. -/
theorem find?_make (workspace : Workspace) (source : String) (options : Options) (handle : String) :
    (workspace.make source options).2.documents.find? handle =
      workspace.documents.find? handle := by
  have made : Within [.registry (options.registry.getD .global),
      .engine (workspace.registry (options.registry.getD .global)).engine] workspace
      (workspace.make source options).2 := within_make (by simp) (by simp) source
  exact made.documents handle (by simp)

theorem within_create (workspace : Workspace) (handle source : String) (options : Options) :
    Within (workspace.reachOfMaking handle options) workspace
      (workspace.create handle source options).2 := by
  have made : Within (workspace.reachOfMaking handle options) workspace
      (workspace.make source options).2 :=
    within_make (by simp [reachOfMaking]) (by simp [reachOfMaking]) source
  have same := workspace.find?_make source options handle
  unfold create
  rcases result : workspace.make source options with ⟨value, next⟩
  rw [result] at made same
  cases value with
  | ok document =>
    refine made.trans (within_replace (fun resource member => ?_) (some document))
    have reached : next.reach handle = workspace.reach handle := by
      unfold reach
      rw [same]
    rw [reached] at member
    exact List.mem_append_right _ member
  | error error => exact made

theorem within_onDocument {handle : String} {reply : Document → Reply × Workspace}
    (each : ∀ document, workspace.documents.find? handle = some document →
      Within resources workspace (reply document).2) :
    Within resources workspace (workspace.onDocument handle reply).2 := by
  unfold onDocument
  cases found : workspace.documents.find? handle with
  | some document => exact each document found
  | none => exact Within.refl workspace

/-- A request changes nothing but what it works on. -/
theorem within_answer (workspace : Workspace) (request : Request) :
    Within (workspace.touches request) workspace (workspace.answer request).2 := by
  cases request with
  | openRegistry number engine => exact within_setRegistry (by simp [touches]) _
  | register registry name helper note => exact within_setRegistry (by simp [touches]) _
  | registerAll registry helpers => exact within_setRegistry (by simp [touches]) _
  | registerGlobally name helper =>
    have registered : Within (workspace.touches (.registerGlobally name helper)) workspace
        (workspace.register .global name helper none) := within_setRegistry (by simp [touches]) _
    have same : ((workspace.register .global name helper none).registry .global).engine =
        (workspace.registry .global).engine := by
      unfold register
      rw [registry_setRegistry, if_pos rfl]
      rfl
    refine registered.trans (within_bindTo (by simp [touches]) ?_)
    rw [same]
    simp [touches]
  | clearRegistry registry => exact within_setRegistry (by simp [touches]) _
  | describeRegistry registry => exact Within.refl workspace
  | describeHelper registry name => exact Within.refl workspace
  | callHelper registry call => exact Within.refl workspace
  | bind registry engine => exact within_bindTo (by simp [touches]) (by simp [touches])
  | registerHelper engine name helper => exact within_setEngine (by simp [touches]) _
  | installCatalog engine => exact within_setEngine (by simp [touches]) _
  | describeEngine engine templates => exact Within.refl workspace
  | renderTemplate engine name now data => exact Within.refl workspace
  | create handle source options => exact within_create workspace handle source options
  | createFrom handle file options =>
    show Within (workspace.reachOfMaking handle options) workspace
      (workspace.createFrom handle file options).2
    unfold createFrom
    cases sourceOf file with
    | ok source => exact within_create workspace handle source options
    | error error => exact Within.refl workspace
  | addPartial handle name source =>
    exact within_onDocument fun document found =>
      within_addPartial (engine_mem_reach found) document.cached name source
  | copy handle other =>
    exact within_onDocument fun document found =>
      within_replace (fun resource member => List.mem_append_right _ member) (some document)
  | drop handle => exact within_replace (fun resource member => member) none
  | describe handle => exact within_onDocument fun _ _ => Within.refl workspace
  | render handle mode timing now data => exact within_onDocument fun _ _ => Within.refl workspace
  | validate handle timing data => exact within_onDocument fun _ _ => Within.refl workspace
  | clearCache => exact within_of_same rfl rfl rfl
  | describeCache sources => exact Within.refl workspace

/-! ### Where documents belong -/

section

variable {owner : Resource → Side} {side : Side}

/-- The documents of a side's handles are on the side's engines. -/
def Housed (owner : Resource → Side) (workspace : Workspace) : Prop :=
  ∀ handle document, workspace.documents.find? handle = some document →
    owner (.engine document.engine) = owner (.document handle)

theorem housed_empty : Housed owner empty := by
  intro handle document found
  cases found

theorem Housed.of_documents (housed : Housed owner workspace)
    (same : ∀ handle, next.documents.find? handle = workspace.documents.find? handle) :
    Housed owner next := by
  intro handle document found
  rw [same] at found
  exact housed handle document found

theorem Housed.replace (housed : Housed owner workspace) {handle : String}
    {document : Option Document} (home : ∀ found, document = some found →
      owner (.engine found.engine) = owner (.document handle)) :
    Housed owner (workspace.replace handle document) := by
  intro place found there
  rw [find?_replace] at there
  split at there
  · rename_i here
    rw [here]
    exact home found there
  · exact housed place found there

theorem Housed.hold (housed : Housed owner workspace) {handle : String} {document : Document}
    (home : owner (.engine document.engine) = owner (.document handle)) :
    Housed owner (workspace.hold handle document) := by
  have homes : ∀ found, some document = some found →
      owner (.engine found.engine) = owner (.document handle) := by
    rintro found ⟨⟩
    exact home
  rw [hold_eq_replace]
  exact housed.replace homes

theorem Housed.drop (housed : Housed owner workspace) (handle : String) :
    Housed owner (workspace.drop handle) := by
  have homes : ∀ found : Document, none = some found →
      owner (.engine found.engine) = owner (.document handle) := by
    rintro found ⟨⟩
  rw [drop_eq_replace]
  exact housed.replace homes

theorem engine_of_compileDocument {engine : EngineId} {source : String} {options : Options}
    {document : Document}
    (made : (workspace.compileDocument engine source options).1 = .ok document) :
    document.engine = engine := by
  unfold compileDocument at made
  rcases read : workspace.compile options.cached source with ⟨result, next⟩
  rw [read] at made
  cases result with
  | ok template =>
    cases made
    rfl
  | error error => cases made

/-- A document is made on the engine of its registry. -/
theorem engine_of_make {source : String} {options : Options} {document : Document}
    (made : (workspace.make source options).1 = .ok document) :
    document.engine = (workspace.registry (options.registry.getD .global)).engine := by
  unfold make at made
  split at made
  · cases made
  · split at made
    · cases made
    · have same := workspace.prepare_fst (options.registry.getD .global)
      rcases ready : workspace.prepare (options.registry.getD .global) with ⟨engine, next⟩
      rw [ready] at same made
      simp only at same made
      rcases addition : addPartials engine options.cached options.partials.entries next with
        ⟨result, later⟩
      rw [addition] at made
      cases result with
      | ok _ =>
        have compiled : (later.compileDocument engine source options).1 = .ok document := made
        exact (engine_of_compileDocument compiled).trans same
      | error error => cases made

theorem Housed.create (housed : Housed owner workspace) {handle : String} {options : Options}
    (owns : ∀ resource ∈ workspace.reachOfMaking handle options, owner resource = side)
    (source : String) : Housed owner (workspace.create handle source options).2 := by
  have kept : Housed owner (workspace.make source options).2 :=
    housed.of_documents (workspace.find?_make source options)
  have engine := owns (.engine (workspace.registry (options.registry.getD .global)).engine)
    (by simp [reachOfMaking])
  have place := owns (.document handle) (by simp [reachOfMaking, reach])
  unfold Workspace.create
  rcases result : workspace.make source options with ⟨value, next⟩
  rw [result] at kept
  cases value with
  | ok document =>
    have home : document.engine = (workspace.registry (options.registry.getD .global)).engine :=
      engine_of_make (congrArg Prod.fst result)
    exact kept.hold (by rw [home, engine, place])
  | error error => exact kept

theorem Housed.onDocument (housed : Housed owner workspace) {handle : String}
    {reply : Document → Reply × Workspace}
    (each : ∀ document, workspace.documents.find? handle = some document →
      Housed owner (reply document).2) :
    Housed owner (workspace.onDocument handle reply).2 := by
  unfold Workspace.onDocument
  cases found : workspace.documents.find? handle with
  | some document => exact each document found
  | none => exact housed

/-- Documents stay at home as long as each request works on what belongs to one side. -/
theorem Housed.answer (housed : Housed owner workspace) {request : Request}
    (owns : Owns owner side workspace request) : Housed owner (workspace.answer request).2 := by
  cases request with
  | openRegistry number engine => exact housed
  | register registry name helper note => exact housed
  | registerAll registry helpers => exact housed
  | registerGlobally name helper => exact housed
  | clearRegistry registry => exact housed
  | describeRegistry registry => exact housed
  | describeHelper registry name => exact housed
  | callHelper registry call => exact housed
  | bind registry engine => exact housed
  | registerHelper engine name helper => exact housed
  | installCatalog engine => exact housed
  | describeEngine engine templates => exact housed
  | renderTemplate engine name now data => exact housed
  | create handle source options => exact housed.create owns source
  | createFrom handle file options =>
    show Housed owner (workspace.createFrom handle file options).2
    unfold createFrom
    cases sourceOf file with
    | ok source => exact housed.create owns source
    | error error => exact housed
  | addPartial handle name source =>
    refine housed.onDocument fun document found => housed.of_documents fun place => ?_
    have added : Within [.engine document.engine] workspace
        (workspace.addPartial document.engine document.cached name source).2 :=
      within_addPartial List.mem_cons_self document.cached name source
    exact added.documents place (by simp)
  | copy handle other =>
    refine housed.onDocument fun document found => housed.hold ?_
    rw [owns _ (List.mem_append_left _ (engine_mem_reach found)),
      owns _ (List.mem_append_right _ (mem_reach workspace other))]
  | drop handle => exact housed.drop handle
  | describe handle => exact housed.onDocument fun _ _ => housed
  | render handle mode timing now data => exact housed.onDocument fun _ _ => housed
  | validate handle timing data => exact housed.onDocument fun _ _ => housed
  | clearCache => exact housed
  | describeCache sources => exact housed

end

end Workspace

end Stencil
