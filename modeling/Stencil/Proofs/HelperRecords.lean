import Stencil.Proofs.HelperHistory

set_option autoImplicit false

/-!
Sessions and their history. After any requests, the helpers of every registry and of every engine are
those that the events of the requests say (`recorded_after`).
-/

namespace Stencil

namespace Engine

/-- An engine is as its past says. -/
structure Recorded (engine : Engine) (id : EngineId) (past : List HelperEvent) : Prop where
  helpers : ∀ name, engine.helpers.find? name = served? id name past
  hasCatalog : engine.hasCatalog = stocked id past

variable {engine : Engine} {id : EngineId} {past : List HelperEvent}

theorem Recorded.other (recorded : engine.Recorded id past) {event : HelperEvent}
    (other : event.engine? ≠ some id) : engine.Recorded id (event :: past) := by
  refine ⟨fun name => ?_, ?_⟩
  · rw [served?_cons_of_ne other]
    exact recorded.helpers name
  · rw [stocked_cons_of_ne other]
    exact recorded.hasCatalog

theorem Recorded.registerHelper (recorded : engine.Recorded id past) (name : String)
    (helper : Helper) :
    (engine.registerHelper name helper).Recorded id (.attached id name helper :: past) := by
  refine ⟨fun other => ?_, recorded.hasCatalog⟩
  by_cases same : name = other
  · subst same
    simp [served?, Engine.registerHelper]
  · have before := recorded.helpers other
    simp only [served?, Engine.registerHelper]
    rw [Table.find?_put_of_ne _ (Ne.symm same), if_neg fun both => same both.2, before]

theorem Recorded.installCatalog (recorded : engine.Recorded id past) :
    engine.installCatalog.Recorded id (.stocked id :: past) := by
  refine ⟨fun name => ?_, ?_⟩
  · rw [find?_installCatalog, recorded.helpers, recorded.hasCatalog]
    simp [served?]
  · simp [hasCatalog_installCatalog, stocked]

theorem Recorded.bind (recorded : engine.Recorded id past) {registry : Registry}
    {source : RegistryId} (known : registry.Recorded source past) :
    (registry.bind id engine).2.1.Recorded id (.bound source id :: past) := by
  refine ⟨fun name => ?_, ?_⟩
  · rw [known.find?_bind, recorded.helpers, recorded.hasCatalog]
    simp [served?]
  · simp only [Registry.bind, foldl_registerHelper, hasCatalog_installCatalog, stocked,
      decide_true, Bool.true_or]

end Engine

namespace Workspace

/-- A workspace is as its past says. -/
structure Recorded (workspace : Workspace) (past : List HelperEvent) : Prop where
  registry : ∀ id, (workspace.registry id).Recorded id past
  engine : ∀ id, (workspace.engine id).Recorded id past

/-- The registries and the helpers of the engines stay as they are. -/
structure KeepsHelpers (before after : Workspace) : Prop where
  registry : ∀ id, after.registry id = before.registry id
  helpers : ∀ id, (after.engine id).helpers = (before.engine id).helpers
  hasCatalog : ∀ id, (after.engine id).hasCatalog = (before.engine id).hasCatalog

variable {workspace next : Workspace} {past : List HelperEvent}

/-! ### Requests that leave the helpers alone -/

theorem KeepsHelpers.refl (workspace : Workspace) : KeepsHelpers workspace workspace :=
  ⟨fun _ => rfl, fun _ => rfl, fun _ => rfl⟩

theorem KeepsHelpers.trans {first second third : Workspace} (left : KeepsHelpers first second)
    (right : KeepsHelpers second third) : KeepsHelpers first third :=
  ⟨fun id => (right.registry id).trans (left.registry id),
    fun id => (right.helpers id).trans (left.helpers id),
    fun id => (right.hasCatalog id).trans (left.hasCatalog id)⟩

theorem keepsHelpers_of_same (registries : next.registries = workspace.registries)
    (engines : next.engines = workspace.engines) : KeepsHelpers workspace next := by
  refine ⟨fun id => ?_, fun id => ?_, fun id => ?_⟩
  · rw [registry, registry, registries]
  · rw [engine, engine, engines]
  · rw [engine, engine, engines]

theorem keepsHelpers_setEngine {id : EngineId} {engine : Engine}
    (helpers : engine.helpers = (workspace.engine id).helpers)
    (hasCatalog : engine.hasCatalog = (workspace.engine id).hasCatalog) :
    KeepsHelpers workspace (workspace.setEngine id engine) := by
  refine ⟨fun _ => rfl, fun other => ?_, fun other => ?_⟩
  · rw [engine_setEngine]
    by_cases same : other = id
    · rw [if_pos same, helpers, same]
    · rw [if_neg same]
  · rw [engine_setEngine]
    by_cases same : other = id
    · rw [if_pos same, hasCatalog, same]
    · rw [if_neg same]

theorem Recorded.of_keeps (recorded : workspace.Recorded past)
    (keeps : KeepsHelpers workspace next) : next.Recorded past := by
  refine ⟨fun id => ?_, fun id => ⟨fun name => ?_, ?_⟩⟩
  · rw [keeps.registry]
    exact recorded.registry id
  · rw [keeps.helpers]
    exact (recorded.engine id).helpers name
  · rw [keeps.hasCatalog]
    exact (recorded.engine id).hasCatalog

theorem keepsHelpers_addPartial (id : EngineId) (cached : Bool) (name source : String) :
    KeepsHelpers workspace (workspace.addPartial id cached name source).2 := by
  have compiled : KeepsHelpers workspace (workspace.compile cached source).2 :=
    keepsHelpers_of_same rfl rfl
  unfold addPartial
  rcases read : workspace.compile cached source with ⟨result, next⟩
  rw [read] at compiled
  cases result with
  | ok template => exact compiled.trans (keepsHelpers_setEngine rfl rfl)
  | error error => exact compiled

theorem keepsHelpers_addPartials (id : EngineId) (cached : Bool)
    (partials : List (String × String)) : ∀ workspace : Workspace,
    KeepsHelpers workspace (addPartials id cached partials workspace).2 := by
  induction partials with
  | nil => exact fun workspace => KeepsHelpers.refl workspace
  | cons entry partials ih =>
    intro workspace
    obtain ⟨name, source⟩ := entry
    have first : KeepsHelpers workspace (workspace.addPartial id cached name source).2 :=
      keepsHelpers_addPartial id cached name source
    unfold addPartials
    rcases added : workspace.addPartial id cached name source with ⟨result, next⟩
    rw [added] at first
    cases result with
    | ok _ => exact first.trans (ih next)
    | error error => exact first

theorem keepsHelpers_compileDocument (engine : EngineId) (source : String) (options : Options) :
    KeepsHelpers workspace (workspace.compileDocument engine source options).2 := by
  have compiled : KeepsHelpers workspace (workspace.compile options.cached source).2 :=
    keepsHelpers_of_same rfl rfl
  unfold compileDocument
  rcases read : workspace.compile options.cached source with ⟨result, next⟩
  rw [read] at compiled
  cases result with
  | ok template =>
    have registered : KeepsHelpers next (next.setEngine engine
        ((next.engine engine).registerTemplate (next.nextKey source) template)) :=
      keepsHelpers_setEngine rfl rfl
    exact (compiled.trans registered).trans (keepsHelpers_of_same rfl rfl)
  | error error => exact compiled

theorem keepsHelpers_replace (handle : String) (document : Option Document) :
    KeepsHelpers workspace (workspace.replace handle document) := by
  have changed : KeepsHelpers workspace (workspace.rebind handle document) :=
    keepsHelpers_of_same rfl rfl
  refine changed.trans ?_
  unfold replace
  cases workspace.documents.find? handle with
  | none => exact KeepsHelpers.refl _
  | some former =>
    show KeepsHelpers _ ((workspace.rebind handle document).release former)
    unfold release
    split
    · exact KeepsHelpers.refl _
    · exact keepsHelpers_setEngine rfl rfl

/-! ### Events -/

theorem Recorded.setRegistry (recorded : workspace.Recorded past) {event : HelperEvent}
    {id : RegistryId} (concerns : event.registry? = some id) (silent : event.engine? = none)
    {registry : Registry} (known : registry.Recorded id (event :: past)) :
    (workspace.setRegistry id registry).Recorded (event :: past) := by
  refine ⟨fun other => ?_, fun other => ?_⟩
  · rw [registry_setRegistry]
    by_cases same : other = id
    · rw [if_pos same, same]
      exact known
    · rw [if_neg same]
      refine (recorded.registry other).other ?_
      rw [concerns]
      simpa using Ne.symm same
  · have there : (workspace.setRegistry id registry).engine other = workspace.engine other := rfl
    rw [there]
    refine (recorded.engine other).other ?_
    simp [silent]

theorem Recorded.setEngine (recorded : workspace.Recorded past) {event : HelperEvent}
    {id : EngineId} (concerns : event.engine? = some id) (silent : event.registry? = none)
    {engine : Engine} (known : engine.Recorded id (event :: past)) :
    (workspace.setEngine id engine).Recorded (event :: past) := by
  refine ⟨fun other => ?_, fun other => ?_⟩
  · have there : (workspace.setEngine id engine).registry other = workspace.registry other := rfl
    rw [there]
    refine (recorded.registry other).other ?_
    simp [silent]
  · rw [engine_setEngine]
    by_cases same : other = id
    · rw [if_pos same, same]
      exact known
    · rw [if_neg same]
      refine (recorded.engine other).other ?_
      rw [concerns]
      simpa using Ne.symm same

theorem Recorded.register (recorded : workspace.Recorded past) (id : RegistryId) (name : String)
    (helper : Helper) (note : Option HelperNote) :
    (workspace.register id name helper note).Recorded (.registered id name helper :: past) :=
  recorded.setRegistry rfl rfl ((recorded.registry id).register name helper note)

theorem Recorded.registerAll (id : RegistryId) (helpers : List (String × Helper)) :
    ∀ (workspace : Workspace) (past : List HelperEvent), workspace.Recorded past →
      (workspace.registerAll id helpers).Recorded
        ((helpers.map fun entry => HelperEvent.registered id entry.1 entry.2).reverse ++ past) := by
  induction helpers with
  | nil =>
    intro workspace past recorded
    refine recorded.of_keeps ⟨fun other => ?_, fun _ => rfl, fun _ => rfl⟩
    show (workspace.setRegistry id (workspace.registry id)).registry other = _
    rw [registry_setRegistry]
    by_cases same : other = id
    · rw [if_pos same, same]
    · rw [if_neg same]
  | cons entry helpers ih =>
    intro workspace past recorded
    have first := recorded.register id entry.1 entry.2 none
    have rest := ih _ _ first
    simp only [List.map_cons, List.reverse_cons, List.append_assoc, List.singleton_append]
    refine rest.of_keeps ⟨fun other => ?_, fun _ => rfl, fun _ => rfl⟩
    have here : (workspace.register id entry.1 entry.2 none).registry id =
        (workspace.registry id).register entry.1 entry.2 none := by
      rw [Workspace.register, registry_setRegistry, if_pos rfl]
    rw [Workspace.registerAll, Workspace.registerAll, registry_setRegistry, registry_setRegistry,
      here, Workspace.register, registry_setRegistry]
    by_cases same : other = id
    · rw [if_pos same, if_pos same]
      rfl
    · rw [if_neg same, if_neg same, if_neg same]

theorem registry_bindTo (workspace : Workspace) (id : RegistryId) (engine : EngineId)
    (other : RegistryId) : (workspace.bindTo id engine).2.registry other =
      if other = id then ((workspace.registry id).bind engine (workspace.engine engine)).1
      else workspace.registry other :=
  registry_setRegistry workspace id other _

theorem engine_bindTo (workspace : Workspace) (id : RegistryId) (engine other : EngineId) :
    (workspace.bindTo id engine).2.engine other =
      if other = engine then ((workspace.registry id).bind engine (workspace.engine engine)).2.1
      else workspace.engine other :=
  engine_setEngine (workspace.setRegistry id _) engine other _

theorem Recorded.bindTo (recorded : workspace.Recorded past) (id : RegistryId) (engine : EngineId) :
    (workspace.bindTo id engine).2.Recorded (.bound id engine :: past) := by
  have known := recorded.registry id
  refine ⟨fun other => ?_, fun other => ?_⟩
  · rw [registry_bindTo]
    by_cases same : other = id
    · rw [if_pos same, same]
      exact known.bind engine (workspace.engine engine)
    · rw [if_neg same]
      exact (recorded.registry other).other (by simpa [HelperEvent.registry?] using Ne.symm same)
  · rw [engine_bindTo]
    by_cases same : other = engine
    · rw [if_pos same, same]
      exact (recorded.engine engine).bind known
    · rw [if_neg same]
      exact (recorded.engine other).other (by simpa [HelperEvent.engine?] using Ne.symm same)

theorem Recorded.registerHelper (recorded : workspace.Recorded past) (id : EngineId) (name : String)
    (helper : Helper) :
    (workspace.registerHelper id name helper).Recorded (.attached id name helper :: past) :=
  recorded.setEngine rfl rfl ((recorded.engine id).registerHelper name helper)

theorem Recorded.installCatalog (recorded : workspace.Recorded past) (id : EngineId) :
    (workspace.installCatalog id).2.Recorded (.stocked id :: past) :=
  recorded.setEngine rfl rfl (recorded.engine id).installCatalog

/-! ### Requests -/

theorem Recorded.prepare (recorded : workspace.Recorded past) (id : RegistryId) :
    (workspace.prepare id).2.Recorded ((workspace.eventsOfPreparing id).reverse ++ past) := by
  have installed := recorded.installCatalog (workspace.registry id).engine
  rcases id with _ | number
  · exact installed
  · exact installed.bindTo (.scoped number) (workspace.registry (.scoped number)).engine

theorem Recorded.make (recorded : workspace.Recorded past) (source : String) (options : Options) :
    (workspace.make source options).2.Recorded
      ((workspace.eventsOfMaking source options).reverse ++ past) := by
  unfold Workspace.make eventsOfMaking
  by_cases empty : source.isEmpty = true
  · rw [if_pos empty, if_pos empty]
    exact recorded
  · rw [if_neg empty, if_neg empty]
    cases options.schema.bind Schema.fault? with
    | some fault => exact recorded
    | none =>
      have prepared := recorded.prepare (options.registry.getD .global)
      refine prepared.of_keeps ?_
      rcases workspace.prepare (options.registry.getD .global) with ⟨engine, ready⟩
      have added := keepsHelpers_addPartials engine options.cached options.partials.entries ready
      simp only
      rcases addition : addPartials engine options.cached options.partials.entries ready with
        ⟨result, later⟩
      rw [addition] at added
      cases result with
      | ok _ => exact added.trans (keepsHelpers_compileDocument engine source options)
      | error error => exact added

theorem Recorded.create (recorded : workspace.Recorded past) (handle source : String)
    (options : Options) : (workspace.create handle source options).2.Recorded
      ((workspace.eventsOfMaking source options).reverse ++ past) := by
  have made := recorded.make source options
  unfold Workspace.create
  rcases result : workspace.make source options with ⟨value, next⟩
  rw [result] at made
  cases value with
  | ok document => exact made.of_keeps (keepsHelpers_replace handle (some document))
  | error error => exact made

theorem Recorded.onDocument (recorded : workspace.Recorded past) {handle : String}
    {reply : Document → Reply × Workspace}
    (each : ∀ document, KeepsHelpers workspace (reply document).2) :
    (workspace.onDocument handle reply).2.Recorded past := by
  unfold Workspace.onDocument
  cases workspace.documents.find? handle with
  | some document => exact recorded.of_keeps (each document)
  | none => exact recorded

/-- A request adds its events to the past. -/
theorem Recorded.answer (recorded : workspace.Recorded past) (request : Request) :
    (workspace.answer request).2.Recorded ((workspace.events request).reverse ++ past) := by
  cases request with
  | openRegistry number engine =>
    exact recorded.setRegistry rfl rfl (Registry.recorded_on engine (.scoped number) past)
  | register registry name helper note => exact recorded.register registry name helper note
  | registerAll registry helpers => exact Recorded.registerAll registry helpers _ _ recorded
  | registerGlobally name helper =>
    have registered := recorded.register .global name helper none
    have same : ((workspace.register .global name helper none).registry .global).engine =
        (workspace.registry .global).engine := by
      rw [Workspace.register, registry_setRegistry, if_pos rfl]
      rfl
    have bound := registered.bindTo .global (workspace.registry .global).engine
    rw [← same] at bound
    show (((workspace.register .global name helper none).bindTo .global _).2).Recorded
      (.bound .global _ :: .registered .global name helper :: past)
    rw [← same]
    exact bound
  | clearRegistry registry =>
    exact recorded.setRegistry rfl rfl (Registry.recorded_on _ registry past)
  | bind registry engine => exact recorded.bindTo registry _
  | registerHelper engine name helper => exact recorded.registerHelper engine name helper
  | installCatalog engine => exact recorded.installCatalog engine
  | create handle source options => exact recorded.create handle source options
  | createFrom handle file options =>
    simp only [Workspace.answer, createFrom, events]
    cases sourceOf file with
    | ok source => exact recorded.create handle source options
    | error error => exact recorded
  | addPartial handle name source =>
    exact recorded.onDocument fun document => keepsHelpers_addPartial _ _ name source
  | copy handle other =>
    exact recorded.onDocument fun document => keepsHelpers_replace other (some document)
  | drop handle => exact recorded.of_keeps (keepsHelpers_replace handle none)
  | describe handle => exact recorded.onDocument fun _ => KeepsHelpers.refl workspace
  | render handle mode timing now data =>
    exact recorded.onDocument fun _ => KeepsHelpers.refl workspace
  | validate handle timing data => exact recorded.onDocument fun _ => KeepsHelpers.refl workspace
  | clearCache => exact recorded.of_keeps (keepsHelpers_of_same rfl rfl)
  | describeRegistry registry => exact recorded
  | describeHelper registry name => exact recorded
  | callHelper registry call => exact recorded
  | describeEngine engine templates => exact recorded
  | renderTemplate engine name now data => exact recorded
  | describeCache sources => exact recorded

theorem recorded_empty : empty.Recorded [] := by
  refine ⟨fun id => ⟨List.nodup_nil, fun name => rfl, fun engine name => ?_⟩,
    fun id => ⟨fun name => rfl, rfl⟩⟩
  have unbound : (empty.registry id).bound = [] := rfl
  simp [unbound, registered?]

theorem Recorded.run (requests : List Request) : ∀ (workspace : Workspace)
    (past : List HelperEvent), workspace.Recorded past →
      (workspace.after requests).Recorded (workspace.history requests ++ past) := by
  induction requests with
  | nil => exact fun _ _ recorded => recorded
  | cons request requests ih =>
    intro workspace past recorded
    have rest := ih _ _ (recorded.answer request)
    rw [← List.append_assoc] at rest
    exact rest

/-- After any requests a workspace is as their events say. -/
theorem recorded_after (requests : List Request) :
    (empty.after requests).Recorded (empty.history requests) := by
  have run := Recorded.run requests empty [] recorded_empty
  rwa [List.append_nil] at run

end Workspace

end Stencil
