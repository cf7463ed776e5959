import Stencil.Workspace.Session

set_option autoImplicit false

/-!
The cache never shows. Every entry holds what its source is read to, whatever the digests are, so that
compiling with the cache is compiling without it; and a session in which documents are made with other
cache options has the same replies, except on the cache itself.
-/

namespace Stencil

namespace Cache

/-! ### The cache by itself -/

/-- What is done with a cache. -/
inductive Step where
  | compile (cached : Bool) (source : String)
  | clear

def step (digest : String → String) (cache : Cache) : Step → Cache
  | .compile cached source => (cache.compile digest cached source).2
  | .clear => empty

def run (digest : String → String) (steps : List Step) : Cache := steps.foldl (step digest) empty

/-- Every entry holds the template of its source. -/
def Sound (cache : Cache) : Prop :=
  ∀ key entry, cache.entries.find? key = some entry → Template.read entry.source = .ok entry.template

variable {cache : Cache}

theorem sound_empty : empty.Sound := by
  intro key entry found
  cases found

/-- A new entry may take the place of one whose source has the same digest. -/
theorem Sound.put (sound : cache.Sound) (key : String) {source : String} {template : Template}
    (read : Template.read source = .ok template) (hits misses : Nat) :
    Sound ⟨cache.entries.put key ⟨source, template⟩, hits, misses⟩ := by
  intro other entry found
  by_cases same : other = key
  · subst same
    rw [Table.find?_put_self] at found
    cases found
    exact read
  · rw [Table.find?_put_of_ne _ same] at found
    exact sound other entry found

theorem Sound.find? (sound : cache.Sound) {digest : String → String} {source : String}
    {template : Template} (found : cache.find? digest source = some template) :
    Template.read source = .ok template := by
  unfold Cache.find? at found
  split at found
  · rename_i entry kept
    split at found
    · rename_i same
      cases found
      rw [← same]
      exact sound _ entry kept
    · cases found
  · cases found

/-- Compiling gives what reading gives, and leaves a sound cache. -/
theorem Sound.compile (sound : cache.Sound) (digest : String → String) (cached : Bool)
    (source : String) :
    (cache.compile digest cached source).1 = Template.read source ∧
      (cache.compile digest cached source).2.Sound := by
  cases cached with
  | false => exact ⟨rfl, sound⟩
  | true =>
    show (cache.read digest source).1 = _ ∧ (cache.read digest source).2.Sound
    unfold Cache.read
    cases found : cache.find? digest source with
    | some template => exact ⟨(sound.find? found).symm, sound⟩
    | none =>
      cases read : Template.read source with
      | ok template => exact ⟨rfl, sound.put _ read _ _⟩
      | error error => exact ⟨rfl, sound⟩

theorem Sound.step (sound : cache.Sound) (digest : String → String) (step : Step) :
    (cache.step digest step).Sound := by
  cases step with
  | compile cached source => exact (sound.compile digest cached source).2
  | clear => exact sound_empty

theorem sound_run (digest : String → String) (steps : List Step) : (run digest steps).Sound := by
  have further : ∀ cache : Cache, cache.Sound → (steps.foldl (Cache.step digest) cache).Sound := by
    induction steps with
    | nil => exact fun _ sound => sound
    | cons step steps ih => exact fun _ sound => ih _ (sound.step digest step)
  exact further empty sound_empty

end Cache

/-! ### Sessions without the cache -/

/-- The request with other caching of the document that it makes. -/
def Request.withCaching (cached : Bool) : Request → Request
  | .create handle source options => .create handle source { options with cached }
  | .createFrom handle file options => .createFrom handle file { options with cached }
  | request => request

/-- The reply without what it tells of the cache. -/
def Reply.withoutCache : Reply → Reply
  | .cache _ _ _ _ => .cache 0 0 0 []
  | reply => reply

def Document.uncached (document : Document) : Document := { document with cached := false }

namespace Workspace

/-- The workspace with an empty cache that is never used. -/
def uncached (workspace : Workspace) : Workspace :=
  { workspace with cache := Cache.empty, documents := workspace.documents.map Document.uncached }

/-- One result is the other without the cache. -/
structure Mirrors {α β : Type} (forget : α → β) (result : α × Workspace) (bare : β × Workspace) :
    Prop where
  value : forget result.1 = bare.1
  workspace : result.2.uncached = bare.2
  sound : result.2.cache.Sound

variable {workspace : Workspace}

/-- Compiling gives what reading gives, and changes the cache at most. -/
theorem compile_eq (sound : workspace.cache.Sound) (cached : Bool) (source : String) :
    ∃ cache : Cache, cache.Sound ∧
      workspace.compile cached source = (Template.read source, { workspace with cache }) := by
  obtain ⟨value, keeps⟩ := sound.compile Digest.ofText cached source
  refine ⟨_, keeps, ?_⟩
  rw [← value]
  rfl

/-! ### Making documents -/

theorem mirrors_addPartial (sound : workspace.cache.Sound) (engine : EngineId) (cached : Bool)
    (name source : String) : Mirrors id (workspace.addPartial engine cached name source)
      (workspace.uncached.addPartial engine false name source) := by
  obtain ⟨cache, keeps, compiled⟩ := compile_eq sound cached source
  have bare : workspace.uncached.compile false source = (Template.read source, workspace.uncached) :=
    rfl
  unfold addPartial
  rw [compiled, bare]
  cases Template.read source with
  | ok template => exact ⟨rfl, rfl, keeps⟩
  | error error => exact ⟨rfl, rfl, keeps⟩

theorem mirrors_addPartials (engine : EngineId) (cached : Bool) (partials : List (String × String)) :
    ∀ workspace : Workspace, workspace.cache.Sound →
      Mirrors id (addPartials engine cached partials workspace)
        (addPartials engine false partials workspace.uncached) := by
  induction partials with
  | nil => exact fun _ sound => ⟨rfl, rfl, sound⟩
  | cons entry partials ih =>
    intro workspace sound
    obtain ⟨name, source⟩ := entry
    have first := mirrors_addPartial sound engine cached name source
    unfold addPartials
    rcases left : workspace.addPartial engine cached name source with ⟨result, next⟩
    rcases right : workspace.uncached.addPartial engine false name source with ⟨other, bare⟩
    rw [left, right] at first
    obtain ⟨rfl, rfl, keeps⟩ := first
    cases result with
    | ok _ => exact ih next keeps
    | error error => exact ⟨rfl, rfl, keeps⟩

theorem mirrors_compileDocument (sound : workspace.cache.Sound) (engine : EngineId)
    (source : String) (options : Options) :
    Mirrors (Except.map Document.uncached) (workspace.compileDocument engine source options)
      (workspace.uncached.compileDocument engine source { options with cached := false }) := by
  obtain ⟨cache, keeps, compiled⟩ := compile_eq sound options.cached source
  have bare : workspace.uncached.compile false source = (Template.read source, workspace.uncached) :=
    rfl
  unfold compileDocument
  rw [compiled]
  simp only [bare]
  cases Template.read source with
  | ok template => exact ⟨rfl, rfl, keeps⟩
  | error error => exact ⟨rfl, rfl, keeps⟩

theorem uncached_prepare (workspace : Workspace) (id : RegistryId) :
    workspace.uncached.prepare id =
      ((workspace.prepare id).1, (workspace.prepare id).2.uncached) := by
  rcases id with _ | number
  · rfl
  · rfl

theorem cache_prepare (workspace : Workspace) (id : RegistryId) :
    (workspace.prepare id).2.cache = workspace.cache := by
  rcases id with _ | number
  · rfl
  · rfl

theorem mirrors_make (sound : workspace.cache.Sound) (source : String) (options : Options) :
    Mirrors (Except.map Document.uncached) (workspace.make source options)
      (workspace.uncached.make source { options with cached := false }) := by
  unfold make
  by_cases empty : source.isEmpty = true
  · rw [if_pos empty, if_pos empty]
    exact ⟨rfl, rfl, sound⟩
  · rw [if_neg empty, if_neg empty]
    simp only
    cases options.schema.bind Schema.fault? with
    | some fault => exact ⟨rfl, rfl, sound⟩
    | none =>
      simp only [uncached_prepare]
      rcases prepared : workspace.prepare (options.registry.getD .global) with ⟨engine, next⟩
      have ready : next.cache.Sound := by
        have same := cache_prepare workspace (options.registry.getD .global)
        rw [prepared] at same
        rw [same]
        exact sound
      have added := mirrors_addPartials engine options.cached options.partials.entries next ready
      simp only
      rcases left : addPartials engine options.cached options.partials.entries next with
        ⟨result, later⟩
      rcases right : addPartials engine false options.partials.entries next.uncached with
        ⟨other, bare⟩
      rw [left, right] at added
      obtain ⟨rfl, rfl, keeps⟩ := added
      cases result with
      | ok _ => exact mirrors_compileDocument keeps engine source options
      | error error => exact ⟨rfl, rfl, keeps⟩

/-! ### Holding documents -/

theorem uncached_holds (workspace : Workspace) (document : Document) :
    workspace.uncached.holds document.uncached = workspace.holds document := by
  simp only [holds, uncached, Table.map, List.any_map]
  rfl

theorem uncached_release (workspace : Workspace) (document : Document) :
    (workspace.release document).uncached = workspace.uncached.release document.uncached := by
  unfold release
  rw [uncached_holds]
  split
  · rfl
  · rfl

theorem uncached_releaseAll (workspace : Workspace) (document : Option Document) :
    (workspace.releaseAll document).uncached =
      workspace.uncached.releaseAll (document.map Document.uncached) := by
  cases document with
  | none => rfl
  | some document => exact uncached_release workspace document

theorem uncached_find? (workspace : Workspace) (handle : String) :
    workspace.uncached.documents.find? handle =
      (workspace.documents.find? handle).map Document.uncached :=
  Table.find?_map Document.uncached workspace.documents handle

theorem uncached_hold (workspace : Workspace) (handle : String) (document : Document) :
    (workspace.hold handle document).uncached =
      workspace.uncached.hold handle document.uncached := by
  unfold hold
  rw [uncached_releaseAll, uncached_find?]
  simp only [uncached, Table.map_put]

theorem uncached_drop (workspace : Workspace) (handle : String) :
    (workspace.drop handle).uncached = workspace.uncached.drop handle := by
  unfold drop
  rw [uncached_releaseAll, uncached_find?]
  simp only [uncached, Table.map_erase]

theorem cache_releaseAll (workspace : Workspace) (document : Option Document) :
    (workspace.releaseAll document).cache = workspace.cache := by
  cases document with
  | none => rfl
  | some document =>
    simp only [releaseAll, release]
    split
    · rfl
    · rfl

theorem mirrors_create (sound : workspace.cache.Sound) (handle source : String)
    (options : Options) :
    Mirrors (Except.map Document.uncached) (workspace.create handle source options)
      (workspace.uncached.create handle source { options with cached := false }) := by
  have made := mirrors_make sound source options
  unfold create
  rcases left : workspace.make source options with ⟨result, next⟩
  rcases right : workspace.uncached.make source { options with cached := false } with ⟨other, bare⟩
  rw [left, right] at made
  obtain ⟨rfl, rfl, keeps⟩ := made
  cases result with
  | ok document =>
    refine ⟨rfl, uncached_hold next handle document, ?_⟩
    rw [show (next.hold handle document).cache = next.cache from cache_releaseAll _ _]
    exact keeps
  | error error => exact ⟨rfl, rfl, keeps⟩

/-! ### Requests -/

/-- A reply to a request without caching, and what it leaves. -/
structure Follows (left right : Reply × Workspace) : Prop where
  reply : left.1.withoutCache = right.1.withoutCache
  workspace : left.2.uncached = right.2
  sound : left.2.cache.Sound

theorem Mirrors.made {result bare : Except TemplateError Document × Workspace}
    (mirrors : Mirrors (Except.map Document.uncached) result bare) :
    Follows (.made (result.1.map Document.description), result.2)
      (.made (bare.1.map Document.description), bare.2) := by
  refine ⟨?_, mirrors.workspace, mirrors.sound⟩
  rw [← mirrors.value]
  cases result.1 with
  | ok document => rfl
  | error error => rfl

theorem follows_onDocument (sound : workspace.cache.Sound) (handle : String)
    {left right : Document → Reply × Workspace}
    (reply : ∀ document, Follows (left document) (right document.uncached)) :
    Follows (workspace.onDocument handle left) (workspace.uncached.onDocument handle right) := by
  unfold onDocument
  rw [uncached_find?]
  cases workspace.documents.find? handle with
  | some document => exact reply document
  | none => exact ⟨rfl, rfl, sound⟩

theorem follows_createFrom (sound : workspace.cache.Sound) (handle : String)
    (file : Option ByteArray) (options : Options) :
    Follows (workspace.answer (.createFrom handle file options))
      (workspace.uncached.answer (.createFrom handle file { options with cached := false })) := by
  show Follows (.made ((workspace.createFrom handle file options).1.map _), _)
    (.made ((workspace.uncached.createFrom handle file _).1.map _), _)
  unfold createFrom
  cases sourceOf file with
  | ok source => exact (mirrors_create sound handle source options).made
  | error error => exact ⟨rfl, rfl, sound⟩

/-- A request without caching has the same reply, except on the cache. -/
theorem follows_answer (sound : workspace.cache.Sound) (request : Request) :
    Follows (workspace.answer request)
      (workspace.uncached.answer (request.withCaching false)) := by
  cases request with
  | openRegistry number engine => exact ⟨rfl, rfl, sound⟩
  | register registry name helper note => exact ⟨rfl, rfl, sound⟩
  | registerAll registry helpers => exact ⟨rfl, rfl, sound⟩
  | registerGlobally name helper => exact ⟨rfl, rfl, sound⟩
  | clearRegistry registry => exact ⟨rfl, rfl, sound⟩
  | describeRegistry registry => exact ⟨rfl, rfl, sound⟩
  | describeHelper registry name => exact ⟨rfl, rfl, sound⟩
  | callHelper registry call => exact ⟨rfl, rfl, sound⟩
  | bind registry engine => exact ⟨rfl, rfl, sound⟩
  | registerHelper engine name helper => exact ⟨rfl, rfl, sound⟩
  | installCatalog engine => exact ⟨rfl, rfl, sound⟩
  | describeEngine engine templates => exact ⟨rfl, rfl, sound⟩
  | renderTemplate engine name now data => exact ⟨rfl, rfl, sound⟩
  | create handle source options => exact (mirrors_create sound handle source options).made
  | createFrom handle file options => exact follows_createFrom sound handle file options
  | addPartial handle name source =>
    refine follows_onDocument sound handle fun document => ?_
    have added := mirrors_addPartial sound document.engine document.cached name source
    exact ⟨congrArg (fun result => Reply.withoutCache (.added result)) added.value, added.workspace,
      added.sound⟩
  | copy handle other =>
    refine follows_onDocument sound handle fun document => ?_
    refine ⟨rfl, uncached_hold workspace other document, ?_⟩
    rw [show (workspace.hold other document).cache = workspace.cache from cache_releaseAll _ _]
    exact sound
  | drop handle =>
    refine ⟨?_, uncached_drop workspace handle, ?_⟩
    · show Reply.dropped (workspace.documents.find? handle).isSome =
        .dropped (workspace.uncached.documents.find? handle).isSome
      rw [uncached_find?, Option.isSome_map]
    · show (workspace.drop handle).cache.Sound
      rw [show (workspace.drop handle).cache = workspace.cache from cache_releaseAll _ _]
      exact sound
  | describe handle => exact follows_onDocument sound handle fun document => ⟨rfl, rfl, sound⟩
  | render handle mode timing now data =>
    refine follows_onDocument sound handle fun document => ⟨?_, rfl, sound⟩
    cases mode with
    | plain => rfl
    | guarded => rfl
    | lenient => rfl
  | validate handle timing data =>
    exact follows_onDocument sound handle fun document => ⟨rfl, rfl, sound⟩
  | clearCache => exact ⟨rfl, rfl, Cache.sound_empty⟩
  | describeCache sources => exact ⟨rfl, rfl, sound⟩

theorem replies_uncached (requests : List Request) : ∀ workspace : Workspace,
    workspace.cache.Sound → (workspace.replies requests).map Reply.withoutCache =
      (workspace.uncached.replies (requests.map (Request.withCaching false))).map
        Reply.withoutCache := by
  induction requests with
  | nil => exact fun _ _ => rfl
  | cons request requests ih =>
    intro workspace sound
    have follows := follows_answer sound request
    have rest := ih (workspace.answer request).2 follows.sound
    rw [follows.workspace] at rest
    simp only [List.map_cons, replies, follows.reply, rest]

theorem withCaching_withCaching (last first : Bool) (request : Request) :
    (request.withCaching first).withCaching last = request.withCaching last := by
  cases request <;> rfl

/-- Compiling after any use of a cache gives what reading gives, whatever the digests are; and the
replies of a session are the same with any other caching of each request, except on the cache. -/
theorem caching_never_shows :
    (∀ (digest : String → String) (steps : List Cache.Step) (cached : Bool) (source : String),
      ((Cache.run digest steps).compile digest cached source).1 = Template.read source) ∧
    ∀ session : List (Request × Bool),
      (empty.replies (session.map fun step => step.1.withCaching step.2)).map Reply.withoutCache =
        (empty.replies (session.map Prod.fst)).map Reply.withoutCache := by
  refine ⟨?_, ?_⟩
  · intro digest steps cached source
    exact ((Cache.sound_run digest steps).compile digest cached source).1
  · intro session
    rw [replies_uncached _ empty Cache.sound_empty, replies_uncached _ empty Cache.sound_empty]
    simp only [List.map_map]
    congr 3
    funext step
    exact withCaching_withCaching false step.2 step.1

end Workspace

end Stencil
