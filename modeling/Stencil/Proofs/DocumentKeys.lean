import Stencil.Proofs.CacheTransparency

set_option autoImplicit false

/-!
The keys of documents. Each key belongs to one document, and what stands under keys in the engines are
the templates of the documents that are alive (`Registered`).
-/

namespace Stencil

/-! ### Keys -/

/-- True for the names under which documents are registered. -/
def IsRegistrationKey (name : String) : Prop := ∃ source number, name = registrationKey source number

/-- The digits at the end of a key are those of its number. -/
theorem digits_registrationKey (source : String) (number : Nat) :
    (registrationKey source number).toList.reverse.takeWhile Char.isDigit =
      (Nat.toDigits 10 number).reverse := by
  have digits : ∀ c ∈ (Nat.toDigits 10 number).reverse, c.isDigit = true := by
    intro c member
    exact Nat.isDigit_of_mem_toDigits (by decide) (by decide) (List.mem_reverse.mp member)
  have text : (registrationKey source number).toList.reverse =
      (Nat.toDigits 10 number).reverse ++ ':' :: ("quill:" ++ Digest.ofText source).toList.reverse := by
    simp [registrationKey]
  rw [text, List.takeWhile_append_of_pos digits]
  simp

/-- A key begins with its mark. -/
theorem IsRegistrationKey.head {name : String} (key : IsRegistrationKey name) :
    name.toList.head? = some 'q' := by
  obtain ⟨source, number, rfl⟩ := key
  simp [registrationKey]

theorem registrationKey_number {first second : String} {left right : Nat}
    (same : registrationKey first left = registrationKey second right) : left = right := by
  have digits := digits_registrationKey first left
  rw [same, digits_registrationKey, List.reverse_inj] at digits
  rw [← Nat.ofDigitChars_ten_toDigits (n := left), ← digits, Nat.ofDigitChars_ten_toDigits]

namespace Workspace

/-! ### The templates of engines -/

/-- The template that an engine has under a name. -/
def template? (workspace : Workspace) (engine : EngineId) (name : String) : Option Template :=
  (workspace.engine engine).templates.find? name

theorem engine_setEngine (workspace : Workspace) (id other : EngineId) (engine : Engine) :
    (workspace.setEngine id engine).engine other =
      if other = id then engine else workspace.engine other := by
  unfold Workspace.engine setEngine
  split
  · rename_i same
    rw [same, Table.find?_put_self]
    rfl
  · rename_i differs
    rw [Table.find?_put_of_ne _ differs]

theorem template?_setEngine (workspace : Workspace) (id other : EngineId) (engine : Engine)
    (name : String) : (workspace.setEngine id engine).template? other name =
      if other = id then engine.templates.find? name else workspace.template? other name := by
  unfold template?
  rw [engine_setEngine]
  split
  · rfl
  · rfl

/-- An engine that has the templates that it had. -/
theorem template?_setEngine_of_templates (workspace : Workspace) {id : EngineId} {engine : Engine}
    (same : engine.templates = (workspace.engine id).templates) (other : EngineId) (name : String) :
    (workspace.setEngine id engine).template? other name = workspace.template? other name := by
  rw [template?_setEngine]
  split
  · rename_i here
    rw [here, same]
    rfl
  · rfl

end Workspace

theorem Engine.templates_installCatalog (engine : Engine) :
    engine.installCatalog.templates = engine.templates := by
  unfold Engine.installCatalog
  split
  · rfl
  · rfl

theorem Registry.templates_bind (registry : Registry) (id : EngineId) (engine : Engine) :
    (registry.bind id engine).2.1.templates = engine.templates := by
  have further : ∀ (pending : List (String × Registration)) (engine : Engine),
      (pending.foldl (fun engine entry => engine.registerHelper entry.1 entry.2.helper)
        engine).templates = engine.templates := by
    intro pending
    induction pending with
    | nil => exact fun _ => rfl
    | cons entry pending ih => exact fun engine => ih _
  exact (further _ _).trans engine.templates_installCatalog

namespace Workspace

/-! ### Held documents -/

/-- True for a document that some handle holds. -/
def Held (workspace : Workspace) (document : Document) : Prop :=
  ∃ handle, workspace.documents.find? handle = some document

/-- The documents that are alive and the keys in the engines belong together. -/
structure Registered (workspace : Workspace) (alive : Document → Prop) : Prop where
  compiled : ∀ document, alive document → ∃ template,
    Template.read document.source = .ok template ∧
      workspace.template? document.engine document.key = some template
  numbered : ∀ document, alive document → ∃ number, number ≤ workspace.made ∧
    document.key = registrationKey document.source number
  distinct : ∀ first second, alive first → alive second → first.key = second.key → first = second
  only : ∀ engine name, IsRegistrationKey name → workspace.template? engine name ≠ none →
    ∃ document, alive document ∧ document.engine = engine ∧ document.key = name

/-- What holds in every session in which no partial has the name of a key. -/
structure Orderly (workspace : Workspace) : Prop where
  sound : workspace.cache.Sound
  handles : workspace.documents.keys.Nodup
  registered : workspace.Registered workspace.Held

/-- The documents, their number and the templates under keys stay as they are. -/
structure KeepsKeys (before after : Workspace) : Prop where
  documents : after.documents = before.documents
  made : after.made = before.made
  templates : ∀ engine name, IsRegistrationKey name →
    after.template? engine name = before.template? engine name

theorem KeepsKeys.refl (workspace : Workspace) : KeepsKeys workspace workspace :=
  ⟨rfl, rfl, fun _ _ _ => rfl⟩

theorem KeepsKeys.trans {first second third : Workspace} (left : KeepsKeys first second)
    (right : KeepsKeys second third) : KeepsKeys first third :=
  ⟨right.documents.trans left.documents, right.made.trans left.made, fun engine name key =>
    (right.templates engine name key).trans (left.templates engine name key)⟩

variable {workspace next : Workspace} {alive : Document → Prop}

theorem Registered.key (registered : workspace.Registered alive) {document : Document}
    (live : alive document) : IsRegistrationKey document.key := by
  obtain ⟨number, _, same⟩ := registered.numbered document live
  exact ⟨document.source, number, same⟩

theorem Registered.of_keepsKeys (registered : workspace.Registered alive)
    (keeps : KeepsKeys workspace next) : next.Registered alive := by
  constructor
  · intro document live
    rw [keeps.templates _ _ (registered.key live)]
    exact registered.compiled document live
  · rw [keeps.made]
    exact registered.numbered
  · exact registered.distinct
  · intro engine name key there
    rw [keeps.templates engine name key] at there
    exact registered.only engine name key there

theorem Orderly.of_keepsKeys (orderly : workspace.Orderly) (keeps : KeepsKeys workspace next)
    (sound : next.cache.Sound) : next.Orderly := by
  have held : next.Held = workspace.Held := by
    unfold Held
    rw [keeps.documents]
  refine ⟨sound, ?_, ?_⟩
  · rw [keeps.documents]
    exact orderly.handles
  · rw [held]
    exact orderly.registered.of_keepsKeys keeps

/-! ### What leaves the keys alone -/

theorem keepsKeys_of_engines (engines : next.engines = workspace.engines)
    (documents : next.documents = workspace.documents) (made : next.made = workspace.made) :
    KeepsKeys workspace next := by
  refine ⟨documents, made, fun engine name _ => ?_⟩
  unfold template? Workspace.engine
  rw [engines]

theorem keepsKeys_setRegistry (workspace : Workspace) (id : RegistryId) (registry : Registry) :
    KeepsKeys workspace (workspace.setRegistry id registry) :=
  keepsKeys_of_engines rfl rfl rfl

theorem keepsKeys_setEngine (workspace : Workspace) {id : EngineId} {engine : Engine}
    (same : engine.templates = (workspace.engine id).templates) :
    KeepsKeys workspace (workspace.setEngine id engine) :=
  ⟨rfl, rfl, fun other name _ => workspace.template?_setEngine_of_templates same other name⟩

theorem keepsKeys_registerTemplate (workspace : Workspace) (id : EngineId) {name : String}
    (plain : ¬ IsRegistrationKey name) (template : Template) : KeepsKeys workspace
      (workspace.setEngine id ((workspace.engine id).registerTemplate name template)) := by
  refine ⟨rfl, rfl, fun engine other key => ?_⟩
  have differs : other ≠ name := by
    rintro rfl
    exact plain key
  rw [template?_setEngine]
  split
  · rename_i here
    rw [here]
    exact Table.find?_put_of_ne _ differs template
  · rfl

theorem keepsKeys_installCatalog (workspace : Workspace) (id : EngineId) :
    KeepsKeys workspace (workspace.installCatalog id).2 :=
  keepsKeys_setEngine workspace (workspace.engine id).templates_installCatalog

theorem keepsKeys_bindTo (workspace : Workspace) (id : RegistryId) (engine : EngineId) :
    KeepsKeys workspace (workspace.bindTo id engine).2 :=
  (keepsKeys_setRegistry workspace id _).trans (keepsKeys_setEngine (workspace.setRegistry id _)
    ((workspace.registry id).templates_bind engine (workspace.engine engine)))

theorem keepsKeys_prepare (workspace : Workspace) (id : RegistryId) :
    KeepsKeys workspace (workspace.prepare id).2 := by
  have installed := workspace.keepsKeys_installCatalog (workspace.registry id).engine
  rcases id with _ | number
  · exact installed
  · exact installed.trans (keepsKeys_bindTo _ _ _)

/-- A partial that is added leaves a sound cache and the keys. -/
theorem keepsKeys_addPartial (sound : workspace.cache.Sound) (id : EngineId) (cached : Bool)
    {name : String} (plain : ¬ IsRegistrationKey name) (source : String) :
    KeepsKeys workspace (workspace.addPartial id cached name source).2 ∧
      (workspace.addPartial id cached name source).2.cache.Sound := by
  obtain ⟨cache, keeps, compiled⟩ := compile_eq sound cached source
  have cached : KeepsKeys workspace { workspace with cache } := keepsKeys_of_engines rfl rfl rfl
  unfold addPartial
  rw [compiled]
  cases Template.read source with
  | ok template => exact ⟨cached.trans (keepsKeys_registerTemplate _ id plain template), keeps⟩
  | error error => exact ⟨cached, keeps⟩

/-- True for partials none of which has the name of a key. -/
def PlainNames (partials : List (String × String)) : Prop :=
  ∀ entry ∈ partials, ¬ IsRegistrationKey entry.1

theorem keepsKeys_addPartials (id : EngineId) (cached : Bool) (partials : List (String × String)) :
    PlainNames partials → ∀ workspace : Workspace, workspace.cache.Sound →
      KeepsKeys workspace (addPartials id cached partials workspace).2 ∧
        (addPartials id cached partials workspace).2.cache.Sound := by
  induction partials with
  | nil => exact fun _ workspace sound => ⟨KeepsKeys.refl workspace, sound⟩
  | cons entry partials ih =>
    intro plain workspace sound
    obtain ⟨name, source⟩ := entry
    have first := keepsKeys_addPartial sound id cached (plain _ List.mem_cons_self) source
    have others : PlainNames partials := fun entry member =>
      plain entry (List.mem_cons_of_mem _ member)
    unfold addPartials
    rcases added : workspace.addPartial id cached name source with ⟨result, next⟩
    rw [added] at first
    cases result with
    | ok _ =>
      obtain ⟨keeps, keepsSound⟩ := ih others next first.2
      exact ⟨first.1.trans keeps, keepsSound⟩
    | error error => exact first

/-! ### Making documents -/

/-- What making a document on a workspace comes to. -/
inductive Makes (workspace : Workspace) (source : String) :
    Except TemplateError Document → Workspace → Prop where
  /-- A document is registered under the next key. -/
  | document {prepared : Workspace} (keeps : KeepsKeys workspace prepared)
      (sound : prepared.cache.Sound) {template : Template}
      (read : Template.read source = .ok template) {document : Document}
      (same : document.source = source) (key : document.key = prepared.nextKey source) :
      Makes workspace source (.ok document)
        { prepared.setEngine document.engine
          ((prepared.engine document.engine).registerTemplate document.key template) with
          made := prepared.made + 1 }
  /-- None is made, and no key is left. -/
  | error {next : Workspace} (keeps : KeepsKeys workspace next) (sound : next.cache.Sound)
      (error : TemplateError) : Makes workspace source (.error error) next

theorem makes_compileDocument {prepared : Workspace} (keeps : KeepsKeys workspace prepared)
    (sound : prepared.cache.Sound) (engine : EngineId) (source : String) (options : Options) :
    Makes workspace source (prepared.compileDocument engine source options).1
      (prepared.compileDocument engine source options).2 := by
  obtain ⟨cache, sound, compiled⟩ := compile_eq sound options.cached source
  have keeps : KeepsKeys workspace { prepared with cache } :=
    keeps.trans (keepsKeys_of_engines rfl rfl rfl)
  unfold compileDocument
  rw [compiled]
  cases read : Template.read source with
  | ok template => exact Makes.document keeps sound read rfl rfl
  | error error => exact Makes.error keeps sound _

theorem makes_make (sound : workspace.cache.Sound) (source : String) (options : Options)
    (plain : PlainNames options.partials.entries) :
    Makes workspace source (workspace.make source options).1 (workspace.make source options).2 := by
  unfold make
  split
  · exact Makes.error (KeepsKeys.refl workspace) sound _
  · split
    · exact Makes.error (KeepsKeys.refl workspace) sound _
    · have prepared := keepsKeys_prepare workspace (options.registry.getD .global)
      have ready := cache_prepare workspace (options.registry.getD .global)
      rcases made : workspace.prepare (options.registry.getD .global) with ⟨engine, next⟩
      rw [made] at prepared ready
      rw [← ready] at sound
      have added := keepsKeys_addPartials engine options.cached options.partials.entries plain next
        sound
      simp only
      rcases addition : addPartials engine options.cached options.partials.entries next with
        ⟨result, later⟩
      rw [addition] at added
      have keeps := prepared.trans added.1
      cases result with
      | ok _ => exact makes_compileDocument keeps added.2 engine source options
      | error error => exact Makes.error keeps added.2 error

/-- No document that is alive has the next key. -/
theorem Registered.fresh (registered : workspace.Registered alive) (source : String)
    {document : Document} (live : alive document) : document.key ≠ workspace.nextKey source := by
  intro same
  obtain ⟨number, bound, key⟩ := registered.numbered document live
  have next : number = workspace.made + 1 := registrationKey_number (key.symm.trans same)
  omega

/-- A document that is made joins those that are alive. -/
theorem Registered.register (registered : workspace.Registered alive) {document : Document}
    {template : Template} (read : Template.read document.source = .ok template)
    (key : document.key = workspace.nextKey document.source) :
    Registered { workspace.setEngine document.engine
        ((workspace.engine document.engine).registerTemplate document.key template) with
      made := workspace.made + 1 } (fun other => alive other ∨ other = document) := by
  have there : ∀ engine name, template? { workspace.setEngine document.engine
        ((workspace.engine document.engine).registerTemplate document.key template) with
      made := workspace.made + 1 } engine name =
      if engine = document.engine ∧ name = document.key then some template
      else workspace.template? engine name := by
    intro engine name
    refine (template?_setEngine workspace document.engine engine _ name).trans ?_
    by_cases here : engine = document.engine
    · by_cases named : name = document.key
      · rw [if_pos here, if_pos ⟨here, named⟩, named]
        exact Table.find?_put_self _ _ _
      · rw [if_pos here, if_neg fun both => named both.2, here]
        exact Table.find?_put_of_ne _ named template
    · rw [if_neg here, if_neg fun both => here both.1]
  have apart : ∀ other, alive other → other.key ≠ document.key := by
    intro other live same
    exact registered.fresh document.source live (same.trans key)
  constructor
  · rintro other (live | rfl)
    · rw [there, if_neg fun both => apart other live both.2]
      exact registered.compiled other live
    · exact ⟨template, read, by rw [there, if_pos ⟨rfl, rfl⟩]⟩
  · rintro other (live | rfl)
    · obtain ⟨number, bound, same⟩ := registered.numbered other live
      exact ⟨number, Nat.le_succ_of_le bound, same⟩
    · exact ⟨workspace.made + 1, Nat.le_refl _, key⟩
  · rintro first second (left | rfl) (right | rfl) same
    · exact registered.distinct first second left right same
    · exact absurd same (apart first left)
    · exact absurd same.symm (apart second right)
    · rfl
  · intro engine name isKey present
    rw [there] at present
    by_cases here : engine = document.engine ∧ name = document.key
    · exact ⟨document, Or.inr rfl, here.1.symm, here.2.symm⟩
    · rw [if_neg here] at present
      obtain ⟨other, live, place⟩ := registered.only engine name isKey present
      exact ⟨other, Or.inl live, place⟩

end Workspace

end Stencil
