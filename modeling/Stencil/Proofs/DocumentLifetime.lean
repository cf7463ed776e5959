import Stencil.Proofs.Handles
import Stencil.Proofs.RenderFailure

set_option autoImplicit false

/-!
How long a document lives. Its template stands in its engine under a key of its own, from when it is
made until its last handle is dropped, and no other template ever stands there.
-/

namespace Stencil

namespace Workspace

variable {workspace next : Workspace}

/-! ### Sessions -/

theorem orderly_replace {document : Option Document}
    (registered : workspace.Registered fun other => workspace.Held other ∨ document = some other)
    (sound : workspace.cache.Sound) (nodup : workspace.documents.keys.Nodup) (handle : String) :
    (workspace.replace handle document).Orderly := by
  refine ⟨?_, ?_, registered.replace nodup handle⟩
  · unfold replace
    rw [cache_releaseAll]
    exact sound
  · unfold replace
    rw [documents_releaseAll]
    exact nodup_rebind nodup handle document

theorem orderly_hold {document : Document}
    (registered : workspace.Registered fun other => workspace.Held other ∨ other = document)
    (sound : workspace.cache.Sound) (nodup : workspace.documents.keys.Nodup) (handle : String) :
    (workspace.hold handle document).Orderly := by
  have others : workspace.Registered fun other =>
      workspace.Held other ∨ some document = some other :=
    registered.congr fun other => or_congr_right (by rw [Option.some_inj, eq_comm])
  rw [hold_eq_replace]
  exact orderly_replace others sound nodup handle

theorem Orderly.drop (orderly : workspace.Orderly) (handle : String) :
    (workspace.drop handle).Orderly := by
  have others : workspace.Registered fun other => workspace.Held other ∨ none = some other :=
    orderly.registered.congr fun other => by simp
  rw [drop_eq_replace]
  exact orderly_replace others orderly.sound orderly.handles handle

theorem Orderly.create (orderly : workspace.Orderly) (handle source : String) {options : Options}
    (plain : PlainNames options.partials.entries) :
    (workspace.create handle source options).2.Orderly := by
  have makes := makes_make orderly.sound source options plain
  unfold Workspace.create
  rcases made : workspace.make source options with ⟨result, next⟩
  rw [made] at makes
  simp only at makes
  cases makes with
  | @document prepared keeps sound template read document same key =>
    have ready := orderly.of_keepsKeys keeps sound
    subst same
    exact orderly_hold (ready.registered.register read key) sound ready.handles handle
  | error keeps sound error => exact orderly.of_keepsKeys keeps sound

theorem Orderly.onDocument (orderly : workspace.Orderly) (handle : String)
    {reply : Document → Reply × Workspace}
    (after : ∀ document, workspace.Held document → (reply document).2.Orderly) :
    (workspace.onDocument handle reply).2.Orderly := by
  unfold Workspace.onDocument
  cases found : workspace.documents.find? handle with
  | some document => exact after document ⟨handle, found⟩
  | none => exact orderly

end Workspace

/-- True for requests that register no partial under the name of a key. -/
def Request.Plain : Request → Prop
  | .create _ _ options => Workspace.PlainNames options.partials.entries
  | .createFrom _ _ options => Workspace.PlainNames options.partials.entries
  | .addPartial _ name _ => ¬ IsRegistrationKey name
  | _ => True

namespace Workspace

variable {workspace : Workspace}

theorem Orderly.answer (orderly : workspace.Orderly) {request : Request} (plain : request.Plain) :
    (workspace.answer request).2.Orderly := by
  have unchanged : ∀ {next : Workspace}, KeepsKeys workspace next → next.cache = workspace.cache →
      next.Orderly := by
    intro next keeps same
    refine orderly.of_keepsKeys keeps ?_
    rw [same]
    exact orderly.sound
  cases request with
  | openRegistry number engine => exact unchanged (keepsKeys_setRegistry _ _ _) rfl
  | register registry name helper note => exact unchanged (keepsKeys_setRegistry _ _ _) rfl
  | registerAll registry helpers => exact unchanged (keepsKeys_setRegistry _ _ _) rfl
  | registerGlobally name helper =>
    exact unchanged ((keepsKeys_setRegistry _ _ _).trans (keepsKeys_bindTo _ _ _)) rfl
  | clearRegistry registry => exact unchanged (keepsKeys_setRegistry _ _ _) rfl
  | describeRegistry registry => exact orderly
  | describeHelper registry name => exact orderly
  | callHelper registry call => exact orderly
  | bind registry engine => exact unchanged (keepsKeys_bindTo _ _ _) rfl
  | registerHelper engine name helper => exact unchanged (keepsKeys_setEngine _ rfl) rfl
  | installCatalog engine => exact unchanged (keepsKeys_installCatalog _ _) rfl
  | describeEngine engine templates => exact orderly
  | renderTemplate engine name now data => exact orderly
  | create handle source options => exact orderly.create handle source plain
  | createFrom handle file options =>
    show (workspace.createFrom handle file options).2.Orderly
    unfold createFrom
    cases sourceOf file with
    | ok source => exact orderly.create handle source plain
    | error error => exact orderly
  | addPartial handle name source =>
    refine orderly.onDocument handle fun document _ => ?_
    have added := keepsKeys_addPartial orderly.sound document.engine document.cached plain source
    exact orderly.of_keepsKeys added.1 added.2
  | copy handle other =>
    refine orderly.onDocument handle fun document held => ?_
    refine orderly_hold (orderly.registered.congr fun found => ?_) orderly.sound orderly.handles
      other
    exact ⟨fun either => either.elim id fun same => same ▸ held, Or.inl⟩
  | drop handle => exact orderly.drop handle
  | describe handle => exact orderly.onDocument handle fun _ _ => orderly
  | render handle mode timing now data => exact orderly.onDocument handle fun _ _ => orderly
  | validate handle timing data => exact orderly.onDocument handle fun _ _ => orderly
  | clearCache => exact orderly.of_keepsKeys (keepsKeys_of_engines rfl rfl rfl) Cache.sound_empty
  | describeCache sources => exact orderly

theorem orderly_empty : empty.Orderly := by
  refine ⟨Cache.sound_empty, List.nodup_nil, ?_⟩
  constructor
  · rintro document ⟨handle, found⟩
    cases found
  · rintro document ⟨handle, found⟩
    cases found
  · rintro first second ⟨handle, found⟩
    cases found
  · intro engine name _ present
    exact absurd rfl present

theorem orderly_after {requests : List Request} (plain : ∀ request ∈ requests, request.Plain) :
    (empty.after requests).Orderly := by
  have further : ∀ workspace : Workspace, workspace.Orderly → (workspace.after requests).Orderly := by
    induction requests with
    | nil => exact fun _ orderly => orderly
    | cons request requests ih =>
      intro workspace orderly
      have rest : ∀ other ∈ requests, other.Plain := fun other member =>
        plain other (List.mem_cons_of_mem _ member)
      exact ih rest _ (orderly.answer (plain request List.mem_cons_self))
  exact further empty orderly_empty

/-! ### What a document is promised -/

/-- The promises to documents, as long as some handle holds them. -/
structure Lifetime (workspace : Workspace) : Prop where
  /-- The engine has the template of the document's source under the document's key. -/
  compiled : ∀ document, workspace.Held document → ∃ template,
    Template.read document.source = .ok template ∧
      workspace.template? document.engine document.key = some template
  /-- Handles with one key hold one document. -/
  distinct : ∀ first second, workspace.Held first → workspace.Held second →
    first.key = second.key → first = second
  /-- The keys that engines have are those of the documents that are held. -/
  present : ∀ engine name, IsRegistrationKey name → (workspace.template? engine name ≠ none ↔
    ∃ document, workspace.Held document ∧ document.engine = engine ∧ document.key = name)
  /-- A new document has the key of no other, even of the same source. -/
  fresh : ∀ handle source options document, PlainNames options.partials.entries →
    (workspace.create handle source options).1 = .ok document →
    document.source = source ∧ IsRegistrationKey document.key ∧
      ∀ engine, workspace.template? engine document.key = none
  /-- Where no document can be made, no key is left. -/
  failed : ∀ handle source options error, PlainNames options.partials.entries →
    (workspace.create handle source options).1 = .error error →
    KeepsKeys workspace (workspace.create handle source options).2
  failedFrom : ∀ handle file options error, PlainNames options.partials.entries →
    (workspace.createFrom handle file options).1 = .error error →
    KeepsKeys workspace (workspace.createFrom handle file options).2
  /-- A document with another handle loses nothing when a handle is dropped. -/
  shared : ∀ handle other document, other ≠ handle →
    workspace.documents.find? handle = some document →
    workspace.documents.find? other = some document →
    ∀ engine, (workspace.drop handle).engine engine = workspace.engine engine
  /-- With the last handle the key goes, and nothing else. -/
  last : ∀ handle document, workspace.documents.find? handle = some document →
    (∀ other, workspace.documents.find? other = some document → other = handle) →
    ∀ engine, ((workspace.drop handle).engine engine).helpers = (workspace.engine engine).helpers ∧
      ∀ name, (workspace.drop handle).template? engine name =
        if engine = document.engine ∧ name = document.key then none
        else workspace.template? engine name
  /-- Rendering a document renders the template of its source, which is always there. -/
  rendered : ∀ document, workspace.Held document → ∃ template,
    Template.read document.source = .ok template ∧ ∀ now data,
      workspace.renderRegistered now document.engine document.key data =
        (Render.render ((workspace.engine document.engine).environment now) template data).mapError
          .unrendered ∧
      ∀ name, workspace.renderRegistered now document.engine document.key data ≠
        .error (.unrendered (.templateNotFound name))

theorem Orderly.fresh (orderly : workspace.Orderly) (source : String) (engine : EngineId) :
    workspace.template? engine (workspace.nextKey source) = none := by
  apply Classical.byContradiction
  intro present
  obtain ⟨document, held, _, key⟩ :=
    orderly.registered.only engine _ ⟨source, workspace.made + 1, rfl⟩ present
  exact orderly.registered.fresh source held key

theorem create_fst (workspace : Workspace) (handle source : String) (options : Options) :
    (workspace.create handle source options).1 = (workspace.make source options).1 := by
  unfold Workspace.create
  rcases workspace.make source options with ⟨result, next⟩
  cases result with
  | ok document => rfl
  | error error => rfl

/-- A document that is made has the next key. -/
theorem Makes.ok {next : Workspace} {source : String} {result : Except TemplateError Document}
    (makes : Makes workspace source result next) {document : Document}
    (made : result = .ok document) :
    document.source = source ∧ document.key = workspace.nextKey source := by
  cases makes with
  | document keeps sound read same key =>
    cases made
    refine ⟨same, key.trans ?_⟩
    unfold nextKey
    rw [keeps.made]
  | error keeps sound error => cases made

theorem Makes.failed {next : Workspace} {source : String} {result : Except TemplateError Document}
    (makes : Makes workspace source result next) {error : TemplateError}
    (made : result = .error error) : KeepsKeys workspace next := by
  cases makes with
  | document keeps sound read same key => cases made
  | error keeps sound error => exact keeps

theorem Orderly.create_error (orderly : workspace.Orderly) {handle source : String}
    {options : Options} (plain : PlainNames options.partials.entries) {error : TemplateError}
    (failed : (workspace.create handle source options).1 = .error error) :
    KeepsKeys workspace (workspace.create handle source options).2 := by
  have makes := makes_make orderly.sound source options plain
  rw [create_fst] at failed
  have keeps := makes.failed failed
  unfold Workspace.create
  rcases result : workspace.make source options with ⟨value, next⟩
  rw [result] at failed keeps
  cases failed
  exact keeps

/-- Dropping a handle touches an engine only if it was the last of its document. -/
theorem Orderly.drop_shared (orderly : workspace.Orderly) {handle other : String}
    {document : Document} (differs : other ≠ handle)
    (found : workspace.documents.find? handle = some document)
    (also : workspace.documents.find? other = some document) (engine : EngineId) :
    (workspace.drop handle).engine engine = workspace.engine engine := by
  have holds : holds { workspace with documents := workspace.documents.erase handle }
      document = true := by
    refine (holds_iff (Table.nodup_erase orderly.handles handle) document).mpr ?_
    exact ⟨document, ⟨other, by rw [Table.find?_erase_of_ne _ differs, also]⟩, rfl, rfl⟩
  unfold Workspace.drop
  rw [found]
  show (release _ document).engine engine = _
  rw [release_of_held holds]
  rfl

theorem Orderly.drop_last (orderly : workspace.Orderly) {handle : String} {document : Document}
    (found : workspace.documents.find? handle = some document)
    (alone : ∀ other, workspace.documents.find? other = some document → other = handle) :
    workspace.drop handle = { workspace with documents := workspace.documents.erase handle }.setEngine
      document.engine ((workspace.engine document.engine).unregisterTemplate document.key) := by
  have free : ¬ holds { workspace with documents := workspace.documents.erase handle }
      document = true := by
    intro holding
    obtain ⟨other, ⟨place, there⟩, _, key⟩ :=
      (holds_iff (Table.nodup_erase orderly.handles handle) document).mp holding
    have differs : place ≠ handle := by
      rintro rfl
      rw [Table.find?_erase_self] at there
      cases there
    rw [Table.find?_erase_of_ne _ differs] at there
    obtain rfl := orderly.registered.distinct other document ⟨place, there⟩ ⟨handle, found⟩ key
    exact differs (alone place there)
  unfold Workspace.drop
  rw [found]
  exact if_neg free

theorem Orderly.lifetime (orderly : workspace.Orderly) : workspace.Lifetime := by
  have registered := orderly.registered
  refine ⟨registered.compiled, registered.distinct, ?_, ?_, ?_, ?_, ?_, ?_, ?_⟩
  · intro engine name isKey
    refine ⟨registered.only engine name isKey, ?_⟩
    rintro ⟨document, held, rfl, rfl⟩ absent
    obtain ⟨template, _, there⟩ := registered.compiled document held
    rw [absent] at there
    cases there
  · intro handle source options document plain made
    rw [create_fst] at made
    obtain ⟨same, key⟩ := (makes_make orderly.sound source options plain).ok made
    refine ⟨same, ⟨source, workspace.made + 1, key⟩, fun engine => ?_⟩
    rw [key]
    exact orderly.fresh source engine
  · intro handle source options error plain made
    exact orderly.create_error plain made
  · intro handle file options error plain made
    unfold Workspace.createFrom at made ⊢
    cases given : sourceOf file with
    | ok source =>
      rw [given] at made
      exact orderly.create_error plain made
    | error error => exact KeepsKeys.refl workspace
  · intro handle other document differs found also engine
    exact orderly.drop_shared differs found also engine
  · intro handle document found alone engine
    rw [orderly.drop_last found alone]
    refine ⟨?_, fun name => ?_⟩
    · rw [engine_setEngine]
      split
      · rename_i here
        rw [here]
        rfl
      · rfl
    · exact template?_unregister { workspace with documents := workspace.documents.erase handle }
        document.engine engine document.key name
  · intro document held
    obtain ⟨template, read, there⟩ := registered.compiled document held
    refine ⟨template, read, fun now data => ?_⟩
    have renders : workspace.renderRegistered now document.engine document.key data =
        (Render.render ((workspace.engine document.engine).environment now) template data).mapError
          .unrendered := by
      unfold renderRegistered Engine.render
      rw [show (workspace.engine document.engine).templates.find? document.key = some template
        from there]
    refine ⟨renders, fun name failed => ?_⟩
    rw [renders] at failed
    cases result : Render.render ((workspace.engine document.engine).environment now) template
        data with
    | ok text =>
      rw [result] at failed
      cases failed
    | error error =>
      rw [result] at failed
      cases failed
      exact Render.located_render _ template data name result

/-- In every session in which no partial has the name of a key, documents have their promised
lifetime. -/
theorem lifetime_of_documents (requests : List Request)
    (plain : ∀ request ∈ requests, request.Plain) : (empty.after requests).Lifetime :=
  (orderly_after plain).lifetime

/-- A document with a partial is held under two handles, and the first of them is dropped. -/
theorem lifetime_of_copied_document :
    ((empty.after [.create "a" "x" ⟨none, ⟨[("p", "y")]⟩, none, true, none⟩, .copy "a" "b",
      .drop "a", .addPartial "b" "r" "z"]).documents.find? "b").isSome = true ∧
    (empty.after [.create "a" "x" ⟨none, ⟨[("p", "y")]⟩, none, true, none⟩, .copy "a" "b",
      .drop "a", .addPartial "b" "r" "z"]).Lifetime := by
  refine ⟨by decide +kernel, lifetime_of_documents _ ?_⟩
  have plain : ∀ name : String, name.toList.head? ≠ some 'q' → ¬ IsRegistrationKey name :=
    fun _ other key => other key.head
  intro request member
  simp only [List.mem_cons, List.not_mem_nil, or_false] at member
  rcases member with rfl | rfl | rfl | rfl
  · intro entry member
    obtain rfl := List.mem_singleton.mp member
    exact plain "p" (by decide)
  · exact trivial
  · exact trivial
  · exact plain "r" (by decide)

end Workspace

end Stencil
