import Stencil.Proofs.CatalogInstallation
import Stencil.Proofs.Ownership

set_option autoImplicit false

/-!
The history of the helpers. Each request is a few events: a registry is emptied, registers a helper or
is bound to an engine, and an engine gets a helper or the catalog. What follows from the events alone
is what registries and engines should know of helpers: a registry has the helper that it registered
last, an engine has the one that reached it last, and what is bound is what was registered before the
last binding. A registry knows just that (`Registry.Recorded`), whatever is done to it.
-/

namespace Stencil

/-- What happens to the helpers of registries and engines. -/
inductive HelperEvent where
  /-- A registry is opened or cleared. -/
  | emptied (registry : RegistryId)
  | registered (registry : RegistryId) (name : String) (helper : Helper)
  | bound (registry : RegistryId) (engine : EngineId)
  /-- An engine gets a helper past the registries. -/
  | attached (engine : EngineId) (name : String) (helper : Helper)
  /-- The catalog is asked for on an engine. -/
  | stocked (engine : EngineId)

namespace HelperEvent

def registry? : HelperEvent → Option RegistryId
  | emptied registry => some registry
  | registered registry _ _ => some registry
  | bound registry _ => some registry
  | attached _ _ _ => none
  | stocked _ => none

def engine? : HelperEvent → Option EngineId
  | emptied _ => none
  | registered _ _ _ => none
  | bound _ engine => some engine
  | attached engine _ _ => some engine
  | stocked engine => some engine

end HelperEvent

/-! ### What follows from the past

The past is a list of events, the latest first. -/

/-- The helper that a registry registered last under a name, since it was emptied. -/
def registered? (id : RegistryId) (name : String) : List HelperEvent → Option Helper
  | [] => none
  | .emptied other :: past => if other = id then none else registered? id name past
  | .registered other label helper :: past =>
    if other = id ∧ label = name then some helper else registered? id name past
  | .bound _ _ :: past => registered? id name past
  | .attached _ _ _ :: past => registered? id name past
  | .stocked _ :: past => registered? id name past

/-- The names, each once, that a registry registered after it was last bound to an engine. -/
def awaiting (id : RegistryId) (engine : EngineId) : List HelperEvent → List String
  | [] => []
  | .emptied other :: past => if other = id then [] else awaiting id engine past
  | .registered other name _ :: past =>
    if other = id then (awaiting id engine past).insert name else awaiting id engine past
  | .bound other target :: past =>
    if other = id ∧ target = engine then [] else awaiting id engine past
  | .attached _ _ _ :: past => awaiting id engine past
  | .stocked _ :: past => awaiting id engine past

/-- Whether an engine has the catalog: it is asked for, or a registry is bound. -/
def stocked (engine : EngineId) : List HelperEvent → Bool
  | [] => false
  | .bound _ target :: past => decide (target = engine) || stocked engine past
  | .stocked target :: past => decide (target = engine) || stocked engine past
  | .emptied _ :: past => stocked engine past
  | .registered _ _ _ :: past => stocked engine past
  | .attached _ _ _ :: past => stocked engine past

/-- The helper that reached an engine last under a name. -/
def served? (engine : EngineId) (name : String) : List HelperEvent → Option Helper
  | [] => none
  | .bound id target :: past =>
    if target = engine then
      if name ∈ awaiting id engine past then registered? id name past
      else afterCatalog (stocked engine past) name (served? engine name past)
    else served? engine name past
  | .attached target label helper :: past =>
    if target = engine ∧ label = name then some helper else served? engine name past
  | .stocked target :: past =>
    if target = engine then afterCatalog (stocked engine past) name (served? engine name past)
    else served? engine name past
  | .emptied _ :: past => served? engine name past
  | .registered _ _ _ :: past => served? engine name past

namespace Workspace

/-- The events of preparing an engine for a document. The global registry is not bound. -/
def eventsOfPreparing (workspace : Workspace) (id : RegistryId) : List HelperEvent :=
  match id with
  | .global => [.stocked (workspace.registry id).engine]
  | .scoped _ =>
    [.stocked (workspace.registry id).engine, .bound id (workspace.registry id).engine]

/-- The events of making a document: none if the source or the schema is refused. -/
def eventsOfMaking (workspace : Workspace) (source : String) (options : Options) :
    List HelperEvent :=
  if source.isEmpty then []
  else
    match options.schema.bind Schema.fault? with
    | some _ => []
    | none => workspace.eventsOfPreparing (options.registry.getD .global)

/-- The events of a request, in order. -/
def events (workspace : Workspace) : Request → List HelperEvent
  | .openRegistry number _ => [.emptied (.scoped number)]
  | .register registry name helper _ => [.registered registry name helper]
  | .registerAll registry helpers =>
    helpers.map fun entry => .registered registry entry.1 entry.2
  | .registerGlobally name helper =>
    [.registered .global name helper, .bound .global (workspace.registry .global).engine]
  | .clearRegistry registry => [.emptied registry]
  | .bind registry engine => [.bound registry (engine.getD (workspace.registry registry).engine)]
  | .registerHelper engine name helper => [.attached engine name helper]
  | .installCatalog engine => [.stocked engine]
  | .create _ source options => workspace.eventsOfMaking source options
  | .createFrom _ file options =>
    match sourceOf file with
    | .ok source => workspace.eventsOfMaking source options
    | .error _ => []
  | _ => []

/-- The events of some requests, the latest first. -/
def history : Workspace → List Request → List HelperEvent
  | _, [] => []
  | workspace, request :: requests =>
    history (workspace.answer request).2 requests ++ (workspace.events request).reverse

end Workspace

/-! ### Facts about the past -/

section

variable {id : RegistryId} {engine : EngineId} {name : String} {event : HelperEvent}
  {past : List HelperEvent}

theorem registered?_cons_of_ne (other : event.registry? ≠ some id) (name : String) :
    registered? id name (event :: past) = registered? id name past := by
  cases event <;> simp_all [HelperEvent.registry?, registered?]

theorem awaiting_cons_of_ne (other : event.registry? ≠ some id) (engine : EngineId) :
    awaiting id engine (event :: past) = awaiting id engine past := by
  cases event <;> simp_all [HelperEvent.registry?, awaiting]

theorem stocked_cons_of_ne (other : event.engine? ≠ some engine) :
    stocked engine (event :: past) = stocked engine past := by
  cases event <;> simp_all [HelperEvent.engine?, stocked]

theorem served?_cons_of_ne (other : event.engine? ≠ some engine) (name : String) :
    served? engine name (event :: past) = served? engine name past := by
  cases event <;> simp_all [HelperEvent.engine?, served?]

theorem nodup_awaiting (id : RegistryId) (engine : EngineId) (past : List HelperEvent) :
    (awaiting id engine past).Nodup := by
  induction past with
  | nil => exact List.nodup_nil
  | cons event past ih =>
    cases event with
    | emptied other =>
      by_cases same : other = id
      · simp [awaiting, same]
      · simpa [awaiting, same] using ih
    | registered other label helper =>
      by_cases same : other = id
      · simp only [awaiting, if_pos same]
        by_cases waits : label ∈ awaiting id engine past
        · rwa [List.insert_of_mem waits]
        · rw [List.insert_of_not_mem waits]
          exact List.nodup_cons.mpr ⟨waits, ih⟩
      · simpa [awaiting, same] using ih
    | bound other target =>
      by_cases same : other = id ∧ target = engine
      · simp [awaiting, same]
      · simpa [awaiting, same] using ih
    | attached target label helper => exact ih
    | stocked target => exact ih

/-- A name that awaits a binding is registered. -/
theorem isSome_registered?_of_awaiting (waits : name ∈ awaiting id engine past) :
    (registered? id name past).isSome = true := by
  induction past with
  | nil => cases waits
  | cons event past ih =>
    cases event with
    | emptied other =>
      by_cases same : other = id
      · simp [awaiting, same] at waits
      · simp only [awaiting, if_neg same] at waits
        simpa [registered?, same] using ih waits
    | registered other label helper =>
      by_cases same : other = id
      · simp only [awaiting, if_pos same, List.mem_insert_iff] at waits
        by_cases named : label = name
        · simp [registered?, same, named]
        · have before := ih (waits.resolve_left (Ne.symm named))
          simpa [registered?, same, named] using before
      · simp only [awaiting, if_neg same] at waits
        simpa [registered?, same] using ih waits
    | bound other target =>
      by_cases same : other = id ∧ target = engine
      · simp [awaiting, same] at waits
      · simp only [awaiting, if_neg same] at waits
        exact ih waits
    | attached target label helper => exact ih waits
    | stocked target => exact ih waits

end

/-! ### Engines -/

namespace Engine

variable (engine : Engine)

/-- Helpers that are registered in turn. -/
theorem foldl_registerHelper (entries : List (String × Registration)) :
    entries.foldl (fun engine entry => engine.registerHelper entry.1 entry.2.helper) engine =
      { engine with helpers :=
          engine.helpers.putAll (entries.map fun entry => (entry.1, entry.2.helper)) } := by
  induction entries generalizing engine with
  | nil => rfl
  | cons entry entries ih => exact ih (engine.registerHelper entry.1 entry.2.helper)

end Engine

/-! ### Registries -/

namespace Registry

theorem mem_names_iff (registry : Registry) (name : String) :
    name ∈ registry.names ↔ (registry.helper? name).isSome = true := by
  have absent := Table.find?_eq_none_iff registry.entries name
  by_cases member : name ∈ registry.entries.keys
  · have present : registry.entries.find? name ≠ none := fun none => absent.mp none member
    obtain ⟨entry, found⟩ := Option.ne_none_iff_exists'.mp present
    simp [names, helper?, member, found]
  · simp [names, helper?, member, absent.mpr member]

theorem mem_pending_iff (registry : Registry) (id : EngineId) (name : String) :
    name ∈ (registry.pending id).map Prod.fst ↔
      (registry.helper? name).isSome = true ∧ (id, name) ∉ registry.bound := by
  rw [← mem_names_iff]
  simp only [pending, names, Table.keys, List.mem_map, List.mem_filter, decide_eq_true_eq]
  constructor
  · rintro ⟨entry, ⟨member, unbound⟩, rfl⟩
    exact ⟨⟨entry, member, rfl⟩, unbound⟩
  · rintro ⟨⟨entry, member, rfl⟩, unbound⟩
    exact ⟨entry, ⟨member, unbound⟩, rfl⟩

theorem findIn_pending (registry : Registry) (id : EngineId) (name : String) :
    Table.findIn name ((registry.pending id).map fun entry => (entry.1, entry.2.helper)) =
      if (id, name) ∈ registry.bound then none else registry.helper? name := by
  have found := Table.find?_map Registration.helper ⟨registry.pending id⟩ name
  have kept := Table.findIn_filter_key (fun key => decide ((id, key) ∉ registry.bound)) name
    registry.entries.entries
  simp only [Table.find?, Table.map] at found
  rw [found, pending, kept]
  by_cases bound : (id, name) ∈ registry.bound
  · simp [bound]
  · simp [bound, helper?, Table.find?]

/-- A registry is as its past says. -/
structure Recorded (registry : Registry) (id : RegistryId) (past : List HelperEvent) : Prop where
  distinct : registry.names.Nodup
  helper? : ∀ name, registry.helper? name = registered? id name past
  bound : ∀ engine name, (engine, name) ∈ registry.bound ↔
    (registered? id name past).isSome = true ∧ name ∉ awaiting id engine past

variable {registry : Registry} {id : RegistryId} {past : List HelperEvent}

theorem Recorded.other (recorded : registry.Recorded id past) {event : HelperEvent}
    (other : event.registry? ≠ some id) : registry.Recorded id (event :: past) := by
  refine ⟨recorded.distinct, fun name => ?_, fun engine name => ?_⟩
  · rw [registered?_cons_of_ne other]
    exact recorded.helper? name
  · rw [registered?_cons_of_ne other, awaiting_cons_of_ne other]
    exact recorded.bound engine name

theorem recorded_on (engine : EngineId) (id : RegistryId) (past : List HelperEvent) :
    (on engine).Recorded id (.emptied id :: past) := by
  refine ⟨List.nodup_nil, fun name => ?_, fun target name => ?_⟩
  · simp [registered?, on, Registry.helper?, Table.find?, Table.empty, Table.findIn]
  · simp [registered?, on]

theorem Recorded.register (recorded : registry.Recorded id past) (name : String) (helper : Helper)
    (note : Option HelperNote) :
    (registry.register name helper note).Recorded id (.registered id name helper :: past) := by
  refine ⟨Table.nodup_put recorded.distinct name ⟨helper, note⟩, fun other => ?_,
    fun engine other => ?_⟩
  · by_cases same : name = other
    · subst same
      simp [registered?, Registry.register, Registry.helper?]
    · have before := recorded.helper? other
      simp only [Registry.helper?] at before
      simp only [registered?, Registry.register, Registry.helper?]
      rw [Table.find?_put_of_ne _ (Ne.symm same), if_neg fun both => same both.2, before]
  · have before := recorded.bound engine other
    simp only [Registry.register, List.mem_filter, decide_eq_true_eq, before, registered?, awaiting,
      if_pos, List.mem_insert_iff]
    by_cases same : name = other
    · simp [same]
    · have differs : ¬ other = name := fun equal => same equal.symm
      simp [same, differs]

/-- What is pending is what awaits the engine. -/
theorem Recorded.mem_pending (recorded : registry.Recorded id past) (engine : EngineId)
    (name : String) : name ∈ (registry.pending engine).map Prod.fst ↔
      name ∈ awaiting id engine past := by
  rw [mem_pending_iff, recorded.bound, recorded.helper?]
  constructor
  · rintro ⟨present, unbound⟩
    by_cases waits : name ∈ awaiting id engine past
    · exact waits
    · exact absurd ⟨present, waits⟩ unbound
  · intro waits
    exact ⟨isSome_registered?_of_awaiting waits, fun both => both.2 waits⟩

theorem Recorded.distinct_pending (recorded : registry.Recorded id past) (engine : EngineId) :
    ((registry.pending engine).map Prod.fst).Nodup :=
  List.Nodup.sublist (List.Sublist.map _ List.filter_sublist) recorded.distinct

theorem Recorded.length_pending (recorded : registry.Recorded id past) (engine : EngineId) :
    (registry.pending engine).length = (awaiting id engine past).length := by
  have same := (List.perm_ext_iff_of_nodup (recorded.distinct_pending engine)
    (nodup_awaiting id engine past)).mpr (recorded.mem_pending engine)
  simpa using same.length_eq

theorem Recorded.bind (recorded : registry.Recorded id past) (target : EngineId) (engine : Engine) :
    (registry.bind target engine).1.Recorded id (.bound id target :: past) := by
  refine ⟨recorded.distinct, recorded.helper?, fun other name => ?_⟩
  have before := recorded.bound other name
  have pending := recorded.mem_pending target name
  simp only [Registry.bind, List.mem_append, List.mem_map, Prod.mk.injEq, before, registered?,
    awaiting]
  by_cases same : target = other
  · subst same
    simp only [List.mem_map] at pending
    simp only [if_pos, true_and, List.not_mem_nil, not_false_eq_true, and_true, pending]
    constructor
    · rintro (waits | ⟨present, _⟩)
      · exact isSome_registered?_of_awaiting waits
      · exact present
    · intro present
      by_cases waits : name ∈ awaiting id target past
      · exact Or.inl waits
      · exact Or.inr ⟨present, waits⟩
  · simp [same]

/-- The helpers of an engine behind a binding: those that awaited it, and below them the catalog. -/
theorem Recorded.find?_bind (recorded : registry.Recorded id past) (target : EngineId)
    (engine : Engine) (name : String) :
    (registry.bind target engine).2.1.helpers.find? name =
      if name ∈ awaiting id target past then registered? id name past
      else afterCatalog engine.hasCatalog name (engine.helpers.find? name) := by
  have distinct : (((registry.pending target).map fun entry => (entry.1, entry.2.helper)).map
      Prod.fst).Nodup := by
    rw [List.map_map]
    exact recorded.distinct_pending target
  have put := Table.find?_putAll engine.installCatalog.helpers distinct name
  rw [findIn_pending, Engine.find?_installCatalog] at put
  simp only [Registry.bind, Engine.foldl_registerHelper, put, recorded.bound, recorded.helper?]
  by_cases waits : name ∈ awaiting id target past
  · obtain ⟨helper, found⟩ := Option.isSome_iff_exists.mp (isSome_registered?_of_awaiting waits)
    simp [waits, found]
  · cases registered? id name past <;> simp [waits]

end Registry

end Stencil
