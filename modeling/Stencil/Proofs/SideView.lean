import Stencil.Proofs.Inclusions
import Stencil.Proofs.Ownership

set_option autoImplicit false

/-!
What one side of a workspace sees. With another number a document has another key, so a run of both
sides and a run of one are compared up to the templates that stand under keys, and a render must not
depend on those.
-/

namespace Stencil

/-! ### Rendering without keys -/

namespace Render

/-- True if a render does not depend on what stands under keys. -/
def BlindToKeys (environment : Environment) (template : Template) (data : Json) : Prop :=
  ∀ template? : String → Option Template,
    (∀ name, ¬ IsRegistrationKey name → template? name = environment.template? name) →
    render (environment.withTemplates template?) template data = render environment template data

/-- A render is blind to keys if all names that it includes are written, and none is a key. -/
theorem blindToKeys_of_includes {accepts : String → Prop}
    (plain : ∀ name, accepts name → ¬ IsRegistrationKey name) {environment : Environment}
    (closed : Closed accepts environment) {template : Template}
    (includes : IncludesAll accepts template) (data : Json) :
    BlindToKeys environment template data :=
  fun _ agree =>
    render_withTemplates ⟨closed, fun name accepted => agree name (plain name accepted)⟩ includes
      data

end Render

/-! ### Engines -/

/-- Engines that differ in the templates under keys at most. -/
structure Engine.Alike (left right : Engine) : Prop where
  helpers : left.helpers = right.helpers
  catalog : left.hasCatalog = right.hasCatalog
  templates : ∀ name, ¬ IsRegistrationKey name →
    left.templates.find? name = right.templates.find? name

namespace Engine.Alike

variable {left right : Engine}

theorem symm (alike : left.Alike right) : right.Alike left :=
  ⟨alike.helpers.symm, alike.catalog.symm, fun name plain => (alike.templates name plain).symm⟩

theorem registerHelper (alike : left.Alike right) (name : String) (helper : Helper) :
    (left.registerHelper name helper).Alike (right.registerHelper name helper) :=
  ⟨congrArg (fun helpers => helpers.put name helper) alike.helpers, alike.catalog, alike.templates⟩

theorem installCatalog (alike : left.Alike right) :
    left.installCatalog.Alike right.installCatalog := by
  unfold Engine.installCatalog
  rw [← alike.catalog]
  split
  · exact alike
  · exact ⟨by simp only [alike.helpers], rfl, alike.templates⟩

theorem bind (alike : left.Alike right) (registry : Registry) (id : EngineId) :
    (registry.bind id left).2.1.Alike (registry.bind id right).2.1 := by
  have further : ∀ (pending : List (String × Registration)) (left right : Engine),
      left.Alike right →
      (pending.foldl (fun engine entry => engine.registerHelper entry.1 entry.2.helper) left).Alike
        (pending.foldl (fun engine entry => engine.registerHelper entry.1 entry.2.helper)
          right) := by
    intro pending
    induction pending with
    | nil => exact fun _ _ alike => alike
    | cons entry pending ih => exact fun _ _ alike => ih _ _ (alike.registerHelper _ _)
  exact further _ _ _ alike.installCatalog

/-- The same template under the same name. -/
theorem registerTemplate (alike : left.Alike right) (name : String) (template : Template) :
    (left.registerTemplate name template).Alike (right.registerTemplate name template) := by
  refine ⟨alike.helpers, alike.catalog, fun other plain => ?_⟩
  show (left.templates.put name template).find? other =
    (right.templates.put name template).find? other
  by_cases same : other = name
  · rw [same, Table.find?_put_self, Table.find?_put_self]
  · rw [Table.find?_put_of_ne _ same, Table.find?_put_of_ne _ same]
    exact alike.templates other plain

/-- A template under a key of its own on each side. -/
theorem registerKeys (alike : left.Alike right) {first second : String}
    (firstKey : IsRegistrationKey first) (secondKey : IsRegistrationKey second)
    (template other : Template) :
    (left.registerTemplate first template).Alike (right.registerTemplate second other) := by
  refine ⟨alike.helpers, alike.catalog, fun name plain => ?_⟩
  have notFirst : name ≠ first := fun same => plain (same ▸ firstKey)
  have notSecond : name ≠ second := fun same => plain (same ▸ secondKey)
  show (left.templates.put first template).find? name = (right.templates.put second other).find? name
  rw [Table.find?_put_of_ne _ notFirst, Table.find?_put_of_ne _ notSecond]
  exact alike.templates name plain

theorem unregisterKeys (alike : left.Alike right) {first second : String}
    (firstKey : IsRegistrationKey first) (secondKey : IsRegistrationKey second) :
    (left.unregisterTemplate first).Alike (right.unregisterTemplate second) := by
  refine ⟨alike.helpers, alike.catalog, fun name plain => ?_⟩
  have notFirst : name ≠ first := fun same => plain (same ▸ firstKey)
  have notSecond : name ≠ second := fun same => plain (same ▸ secondKey)
  show (left.templates.erase first).find? name = (right.templates.erase second).find? name
  rw [Table.find?_erase_of_ne _ notFirst, Table.find?_erase_of_ne _ notSecond]
  exact alike.templates name plain

/-- Engines that are alike render a template alike, under whatever name it stands in each. -/
theorem render (alike : left.Alike right) {first second : String} {template : Template}
    (there : left.templates.find? first = some template)
    (also : right.templates.find? second = some template) {now : Calendar.Instant} {data : Json}
    (blind : Render.BlindToKeys (right.environment now) template data) :
    left.render now first data = right.render now second data := by
  have same : left.environment now =
      (right.environment now).withTemplates left.templates.find? := by
    unfold Engine.environment
    rw [alike.helpers]
    rfl
  unfold Engine.render
  rw [there, also]
  show Render.render (left.environment now) template data = _
  rw [same]
  exact blind _ alike.templates

theorem helperNames (alike : left.Alike right) :
    left.helperNames = right.helperNames := by
  unfold Engine.helperNames
  rw [alike.helpers]

theorem hasTemplates (alike : left.Alike right) {names : List String}
    (plain : ∀ name ∈ names, ¬ IsRegistrationKey name) :
    names.map left.hasTemplate = names.map right.hasTemplate := by
  refine List.map_congr_left fun name member => ?_
  unfold Engine.hasTemplate Table.contains
  rw [alike.templates name (plain name member)]

end Engine.Alike

/-! ### Documents -/

/-- Documents that differ in their keys at most. -/
structure Document.Alike (left right : Document) : Prop where
  source : left.source = right.source
  name : left.name = right.name
  schema : left.schema = right.schema
  cached : left.cached = right.cached
  engine : left.engine = right.engine

theorem Document.Alike.symm {left right : Document} (alike : left.Alike right) :
    right.Alike left :=
  ⟨alike.source.symm, alike.name.symm, alike.schema.symm, alike.cached.symm, alike.engine.symm⟩

theorem Document.Alike.description {left right : Document} (alike : left.Alike right) :
    left.description = right.description := by
  unfold Document.description
  rw [alike.source, alike.name, alike.schema]

namespace Workspace

variable {owner : Resource → Side} {side : Side} {full solo : Workspace}

/-- Documents that a handle of a side holds in two runs. -/
def Paired (owner : Resource → Side) (side : Side) (full solo : Workspace)
    (left right : Document) : Prop :=
  ∃ handle, owner (.document handle) = side ∧ full.documents.find? handle = some left ∧
    solo.documents.find? handle = some right

/-- What a side has in a run of both sides is what it has in a run of its own. -/
structure View (owner : Resource → Side) (side : Side) (full solo : Workspace) : Prop where
  registries : ∀ id, owner (.registry id) = side → full.registry id = solo.registry id
  engines : ∀ id, owner (.engine id) = side → (full.engine id).Alike (solo.engine id)
  documents : ∀ handle, owner (.document handle) = side →
    full.documents.find? handle = none ∧ solo.documents.find? handle = none ∨
      ∃ left right, full.documents.find? handle = some left ∧
        solo.documents.find? handle = some right ∧ left.Alike right
  keys : ∀ left right other another, Paired owner side full solo left right →
    Paired owner side full solo other another → (left.key = other.key ↔ right.key = another.key)

theorem Paired.symm {left right : Document} (paired : Paired owner side full solo left right) :
    Paired owner side solo full right left := by
  obtain ⟨handle, owned, there, also⟩ := paired
  exact ⟨handle, owned, also, there⟩

theorem View.symm (view : View owner side full solo) : View owner side solo full := by
  refine ⟨?_, ?_, ?_, ?_⟩
  · exact fun id owned => (view.registries id owned).symm
  · exact fun id owned => (view.engines id owned).symm
  · intro handle owned
    rcases view.documents handle owned with ⟨left, right⟩ | ⟨left, right, there, also, alike⟩
    · exact Or.inl ⟨right, left⟩
    · exact Or.inr ⟨right, left, also, there, alike.symm⟩
  · intro left right other another first second
    exact (view.keys right left another other first.symm second.symm).symm

theorem view_refl (workspace : Workspace) : View owner side workspace workspace := by
  refine ⟨fun _ _ => rfl, fun _ _ => ⟨rfl, rfl, fun _ _ => rfl⟩, ?_, ?_⟩
  · intro handle _
    cases found : workspace.documents.find? handle with
    | none => exact Or.inl ⟨rfl, rfl⟩
    | some document => exact Or.inr ⟨document, document, rfl, rfl, rfl, rfl, rfl, rfl, rfl⟩
  · rintro left right other another ⟨first, _, there, also⟩ ⟨second, _, further, again⟩
    rw [there] at also
    rw [further] at again
    cases also
    cases again
    exact Iff.rfl

theorem View.alike (view : View owner side full solo) {left right : Document}
    (paired : Paired owner side full solo left right) : left.Alike right := by
  obtain ⟨handle, owned, there, also⟩ := paired
  rcases view.documents handle owned with ⟨none, _⟩ | ⟨_, _, some, others, alike⟩
  · rw [there] at none
    cases none
  · rw [there] at some
    rw [also] at others
    cases some
    cases others
    exact alike

/-- What the other side does is not seen. -/
theorem View.of_within (view : View owner side full solo) {next : Workspace}
    {resources : List Resource} (within : Within resources full next)
    (apart : ∀ resource ∈ resources, owner resource ≠ side) : View owner side next solo := by
  have free : ∀ resource, owner resource = side → resource ∉ resources :=
    fun resource owned member => apart resource member owned
  have same : ∀ handle, owner (.document handle) = side →
      next.documents.find? handle = full.documents.find? handle :=
    fun handle owned => within.documents handle (free _ owned)
  have paired : ∀ left right, Paired owner side next solo left right →
      Paired owner side full solo left right := by
    rintro left right ⟨handle, owned, there, also⟩
    exact ⟨handle, owned, by rw [← same handle owned, there], also⟩
  refine ⟨?_, ?_, ?_, ?_⟩
  · intro id owned
    rw [within.registries id (free _ owned)]
    exact view.registries id owned
  · intro id owned
    rw [within.engines id (free _ owned)]
    exact view.engines id owned
  · intro handle owned
    rw [same handle owned]
    exact view.documents handle owned
  · intro left right other another first second
    exact view.keys left right other another (paired _ _ first) (paired _ _ second)

/-! ### Changes on both sides -/

/-- The cache and the number of documents are not part of the view. -/
theorem View.of_same (view : View owner side full solo) {next : Workspace}
    (registries : next.registries = full.registries) (engines : next.engines = full.engines)
    (documents : next.documents = full.documents) : View owner side next solo := by
  have within : Within [] full next := within_of_same registries engines documents
  exact view.of_within within fun _ member => absurd member List.not_mem_nil

theorem View.setRegistry (view : View owner side full solo) (id : RegistryId)
    (registry : Registry) :
    View owner side (full.setRegistry id registry) (solo.setRegistry id registry) := by
  refine ⟨fun other owned => ?_, view.engines, view.documents, view.keys⟩
  rw [registry_setRegistry, registry_setRegistry]
  split
  · rfl
  · exact view.registries other owned

theorem View.changeRegistry (view : View owner side full solo) {id : RegistryId}
    (mine : owner (.registry id) = side) (change : Registry → Registry) :
    View owner side (full.setRegistry id (change (full.registry id)))
      (solo.setRegistry id (change (solo.registry id))) := by
  rw [view.registries id mine]
  exact view.setRegistry id _

theorem View.names (view : View owner side full solo) {id : RegistryId}
    (mine : owner (.registry id) = side) :
    Reply.names (full.registry id).names = Reply.names (solo.registry id).names := by
  rw [view.registries id mine]

theorem View.setEngine (view : View owner side full solo) (id : EngineId) {left right : Engine}
    (alike : left.Alike right) :
    View owner side (full.setEngine id left) (solo.setEngine id right) := by
  refine ⟨view.registries, fun other owned => ?_, view.documents, view.keys⟩
  rw [engine_setEngine, engine_setEngine]
  split
  · exact alike
  · exact view.engines other owned

theorem View.installCatalog (view : View owner side full solo) {id : EngineId}
    (owned : owner (.engine id) = side) :
    View owner side (full.installCatalog id).2 (solo.installCatalog id).2 :=
  view.setEngine id (view.engines id owned).installCatalog

theorem View.bindTo (view : View owner side full solo) {id : RegistryId} {engine : EngineId}
    (mine : owner (.registry id) = side) (owned : owner (.engine engine) = side) :
    (full.bindTo id engine).1 = (solo.bindTo id engine).1 ∧
      View owner side (full.bindTo id engine).2 (solo.bindTo id engine).2 := by
  have alike := (view.engines engine owned).bind (full.registry id) engine
  unfold Workspace.bindTo
  rw [← view.registries id mine]
  exact ⟨rfl, (view.setRegistry id _).setEngine engine alike⟩

theorem View.prepare (view : View owner side full solo) {id : RegistryId}
    (mine : owner (.registry id) = side) (owned : owner (.engine (full.registry id).engine) = side) :
    (full.prepare id).1 = (solo.prepare id).1 ∧
      View owner side (full.prepare id).2 (solo.prepare id).2 := by
  have same := view.registries id mine
  refine ⟨by rw [prepare_fst, prepare_fst, same], ?_⟩
  have installed := view.installCatalog owned
  rcases id with _ | number
  · show View owner side (full.installCatalog (full.registry .global).engine).2
      (solo.installCatalog (solo.registry .global).engine).2
    rw [← same]
    exact installed
  · show View owner side
      ((full.installCatalog (full.registry (.scoped number)).engine).2.bindTo (.scoped number)
        (full.registry (.scoped number)).engine).2
      ((solo.installCatalog (solo.registry (.scoped number)).engine).2.bindTo (.scoped number)
        (solo.registry (.scoped number)).engine).2
    rw [← same]
    exact (installed.bindTo mine owned).2

/-- Nor are they on both sides at once. -/
theorem View.of_both (view : View owner side full solo) (left right : Cache) (many few : Nat) :
    View owner side { full with cache := left, made := many }
      { solo with cache := right, made := few } := by
  have changed : View owner side { full with cache := left, made := many } solo :=
    view.of_same rfl rfl rfl
  have both : View owner side { solo with cache := right, made := few }
      { full with cache := left, made := many } := changed.symm.of_same rfl rfl rfl
  exact both.symm

/-! ### Making documents -/

theorem View.addPartial (view : View owner side full solo) (fullSound : full.cache.Sound)
    (soloSound : solo.cache.Sound) {id : EngineId} (owned : owner (.engine id) = side)
    (cached : Bool) (name source : String) :
    (full.addPartial id cached name source).1 = (solo.addPartial id cached name source).1 ∧
      View owner side (full.addPartial id cached name source).2
        (solo.addPartial id cached name source).2 := by
  obtain ⟨fullCache, _, fullCompiled⟩ := compile_eq fullSound cached source
  obtain ⟨soloCache, _, soloCompiled⟩ := compile_eq soloSound cached source
  have compiled := view.of_both fullCache soloCache full.made solo.made
  unfold Workspace.addPartial
  rw [fullCompiled, soloCompiled]
  cases Template.read source with
  | ok template =>
    exact ⟨rfl, compiled.setEngine id ((view.engines id owned).registerTemplate name template)⟩
  | error error => exact ⟨rfl, compiled⟩

theorem View.addPartials {id : EngineId} (owned : owner (.engine id) = side) (cached : Bool)
    (partials : List (String × String)) (plain : PlainNames partials) :
    ∀ full solo : Workspace, View owner side full solo → full.cache.Sound → solo.cache.Sound →
      (addPartials id cached partials full).1 = (addPartials id cached partials solo).1 ∧
        View owner side (addPartials id cached partials full).2
          (addPartials id cached partials solo).2 := by
  induction partials with
  | nil => exact fun full solo view _ _ => ⟨rfl, view⟩
  | cons entry partials ih =>
    intro full solo view fullSound soloSound
    obtain ⟨name, source⟩ := entry
    have rest := ih fun entry member => plain entry (List.mem_cons_of_mem _ member)
    have here : ¬ IsRegistrationKey name := plain _ List.mem_cons_self
    have first := view.addPartial fullSound soloSound owned cached name source
    have fullNext := (keepsKeys_addPartial fullSound id cached here source).2
    have soloNext := (keepsKeys_addPartial soloSound id cached here source).2
    unfold Workspace.addPartials
    rcases left : full.addPartial id cached name source with ⟨result, next⟩
    rcases right : solo.addPartial id cached name source with ⟨other, last⟩
    rw [left, right] at first
    rw [left] at fullNext
    rw [right] at soloNext
    obtain ⟨rfl, seen⟩ := first
    cases result with
    | ok _ => exact rest next last seen fullNext soloNext
    | error error => exact ⟨rfl, seen⟩

/-- Documents that are made in two runs. -/
inductive MadeAlike : Except TemplateError Document → Except TemplateError Document → Prop where
  | document {left right : Document} (alike : left.Alike right) : MadeAlike (.ok left) (.ok right)
  | error (error : TemplateError) : MadeAlike (.error error) (.error error)

theorem View.compileDocument (view : View owner side full solo) (fullSound : full.cache.Sound)
    (soloSound : solo.cache.Sound) {id : EngineId} (owned : owner (.engine id) = side)
    (source : String) (options : Options) :
    MadeAlike (full.compileDocument id source options).1 (solo.compileDocument id source options).1 ∧
      View owner side (full.compileDocument id source options).2
        (solo.compileDocument id source options).2 := by
  obtain ⟨fullCache, _, fullCompiled⟩ := compile_eq fullSound options.cached source
  obtain ⟨soloCache, _, soloCompiled⟩ := compile_eq soloSound options.cached source
  have compiled := view.of_both fullCache soloCache full.made solo.made
  unfold Workspace.compileDocument
  rw [fullCompiled, soloCompiled]
  cases Template.read source with
  | ok template =>
    have fullKey : IsRegistrationKey (full.nextKey source) := ⟨source, full.made + 1, rfl⟩
    have soloKey : IsRegistrationKey (solo.nextKey source) := ⟨source, solo.made + 1, rfl⟩
    have alike := (view.engines id owned).registerKeys fullKey soloKey template template
    have registered := compiled.setEngine id alike
    exact ⟨.document ⟨rfl, rfl, rfl, rfl, rfl⟩,
      registered.of_both fullCache soloCache (full.made + 1) (solo.made + 1)⟩
  | error error => exact ⟨.error _, compiled⟩

theorem View.make (view : View owner side full solo) (fullSound : full.cache.Sound)
    (soloSound : solo.cache.Sound) {options : Options}
    (mine : owner (.registry (options.registry.getD .global)) = side)
    (owned : owner (.engine (full.registry (options.registry.getD .global)).engine) = side)
    (plain : PlainNames options.partials.entries) (source : String) :
    MadeAlike (full.make source options).1 (solo.make source options).1 ∧
      View owner side (full.make source options).2 (solo.make source options).2 := by
  unfold Workspace.make
  split
  · exact ⟨.error _, view⟩
  · split
    · exact ⟨.error _, view⟩
    · have prepared := view.prepare mine owned
      have fullReady := cache_prepare full (options.registry.getD .global)
      have soloReady := cache_prepare solo (options.registry.getD .global)
      have home := full.prepare_fst (options.registry.getD .global)
      rcases left : full.prepare (options.registry.getD .global) with ⟨engine, next⟩
      rcases right : solo.prepare (options.registry.getD .global) with ⟨other, last⟩
      rw [left, right] at prepared
      rw [left] at fullReady home
      rw [right] at soloReady
      obtain ⟨rfl, seen⟩ := prepared
      simp only at fullReady soloReady home seen ⊢
      rw [← fullReady] at fullSound
      rw [← soloReady] at soloSound
      rw [← home] at owned
      have added := View.addPartials owned options.cached options.partials.entries plain next last
        seen fullSound soloSound
      have fullNext := (keepsKeys_addPartials engine options.cached options.partials.entries plain
        next fullSound).2
      have soloNext := (keepsKeys_addPartials engine options.cached options.partials.entries plain
        last soloSound).2
      rcases leftAdded : Workspace.addPartials engine options.cached options.partials.entries next
        with ⟨result, later⟩
      rcases rightAdded : Workspace.addPartials engine options.cached options.partials.entries last
        with ⟨another, final⟩
      rw [leftAdded, rightAdded] at added
      rw [leftAdded] at fullNext
      rw [rightAdded] at soloNext
      obtain ⟨rfl, seen⟩ := added
      cases result with
      | ok _ => exact seen.compileDocument fullNext soloNext owned source options
      | error error => exact ⟨.error _, seen⟩

end Workspace

end Stencil
