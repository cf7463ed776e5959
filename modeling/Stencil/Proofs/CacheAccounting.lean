import Mathlib.Data.Finset.Card
import Mathlib.Data.List.Induction
import Stencil.Proofs.CacheTransparency

set_option autoImplicit false

/-!
What the numbers of the cache say. As long as no two sources share a digest, they tell how often sources were
compiled through the cache since it was cleared, how often the source had not been compiled before, and how many
sources have been (`Accounts`). Making a document compiles its partials and then its source, up to the first
that does not compile (`compilations`).
-/

namespace Stencil

/-- True for a source that is read to a template. -/
def compiles (source : String) : Bool := (Template.read source).isOk

theorem compiles_of_read {source : String} {template : Template} (read : Template.read source = .ok template) :
    compiles source = true := by
  rw [compiles, read]
  rfl

theorem compiles_of_fails {source : String} {error : Template.SourceError}
    (fails : Template.read source = .error error) : compiles source = false := by
  rw [compiles, fails]
  rfl

/-- A new key comes behind the others. -/
theorem Table.entries_put_of_fresh {κ α : Type} [DecidableEq κ] (table : Table κ α) {key : κ}
    (fresh : key ∉ table.keys) (value : α) :
    (table.put key value).entries = table.entries ++ [(key, value)] := by
  obtain ⟨entries⟩ := table
  simp only [put, keys] at fresh ⊢
  induction entries with
  | nil => rfl
  | cons entry entries ih =>
    obtain ⟨other, old⟩ := entry
    obtain ⟨differs, absent⟩ := not_or.mp (fun listed => fresh (List.mem_cons.mpr listed))
    rw [putIn, if_neg differs, ih absent, List.cons_append]

namespace Cache

/-! ### What has been compiled -/

/-- The source that a step compiles through the cache. -/
def Step.cachedSource? : Step → Option String
  | .compile true source => some source
  | .compile false _ => none
  | .clear => none

def Step.isClear : Step → Bool
  | .compile _ _ => false
  | .clear => true

/-- The sources that have been compiled through the cache since it was cleared, in their order. -/
def used (steps : List Step) : List String :=
  (steps.reverse.takeWhile fun step => !step.isClear).reverse.filterMap Step.cachedSource?

/-- True if the source that is used at a position had been compiled at an earlier one. -/
def wasCompiled (uses : List String) (index : Nat) : Bool :=
  (uses.take index).any fun earlier => uses[index]? == some earlier && compiles earlier

/-- How many sources are used that had not been compiled before. -/
def missed (uses : List String) : Nat :=
  (List.range uses.length).countP fun index => !wasCompiled uses index

theorem used_compile (steps : List Step) (source : String) :
    used (steps ++ [.compile true source]) = used steps ++ [source] := by
  simp [used, Step.isClear, Step.cachedSource?]

theorem used_uncached (steps : List Step) (source : String) :
    used (steps ++ [.compile false source]) = used steps := by
  simp [used, Step.isClear, Step.cachedSource?]

theorem used_clear (steps : List Step) : used (steps ++ [.clear]) = [] := by
  simp [used, Step.isClear]

theorem wasCompiled_of_lt {uses : List String} {index : Nat} (inside : index < uses.length) (source : String) :
    wasCompiled (uses ++ [source]) index = wasCompiled uses index := by
  rw [wasCompiled, List.take_append_of_le_length (Nat.le_of_lt inside), List.getElem?_append_left inside]
  rfl

theorem wasCompiled_last (uses : List String) (source : String) :
    wasCompiled (uses ++ [source]) uses.length = true ↔ source ∈ uses ∧ compiles source = true := by
  simp [wasCompiled]

theorem missed_concat (uses : List String) (source : String) :
    missed (uses ++ [source]) = missed uses + if source ∈ uses ∧ compiles source = true then 0 else 1 := by
  have earlier : (List.range uses.length).countP (fun index => !wasCompiled (uses ++ [source]) index) =
      missed uses :=
    List.countP_congr fun index inside => by rw [wasCompiled_of_lt (List.mem_range.mp inside)]
  rw [missed, List.length_append, List.length_singleton, List.range_succ, List.countP_append, earlier,
    List.countP_singleton]
  simp only [Bool.not_eq_true', ← Bool.not_eq_true, wasCompiled_last, ite_not]

/-! ### What the cache has -/

/-- The sources of the entries. -/
def sources (cache : Cache) : List String := cache.entries.entries.map fun entry => entry.2.source

/-- The numbers and the entries of a cache after some sources have been compiled through it. -/
structure Accounts (digest : String → String) (uses : List String) (cache : Cache) : Prop where
  total : cache.hits + cache.misses = uses.length
  misses : cache.misses = missed uses
  keyed : cache.entries.keys = cache.sources.map digest
  distinct : cache.entries.keys.Nodup
  stored : ∀ source, source ∈ cache.sources ↔ source ∈ uses ∧ compiles source = true

variable {digest : String → String} {uses : List String} {source : String} {cache : Cache}

theorem mem_sources_iff : source ∈ cache.sources ↔
    ∃ key template, (key, ⟨source, template⟩) ∈ cache.entries.entries := by
  rw [Cache.sources, List.mem_map]
  constructor
  · rintro ⟨⟨key, source, template⟩, listed, rfl⟩
    exact ⟨key, template, listed⟩
  · rintro ⟨key, template, listed⟩
    exact ⟨_, listed, rfl⟩

theorem accounts_empty (digest : String → String) : Accounts digest [] empty :=
  ⟨rfl, rfl, rfl, List.nodup_nil, fun source => by simp [Cache.sources, empty, Table.empty]⟩

/-- Each entry stands under the digest of its source. -/
theorem Accounts.key (accounts : Accounts digest uses cache) {key : String} {template : Template}
    (listed : (key, ⟨source, template⟩) ∈ cache.entries.entries) : key = digest source := by
  have keyed := accounts.keyed
  rw [Table.keys, Cache.sources, List.map_map, List.map_inj_left] at keyed
  exact keyed _ listed

/-- A source is found just if it has been compiled. -/
theorem Accounts.find?_isSome (accounts : Accounts digest uses cache) (source : String) :
    (cache.find? digest source).isSome = true ↔ source ∈ uses ∧ compiles source = true := by
  rw [← accounts.stored, mem_sources_iff]
  unfold find?
  constructor
  · intro found
    split at found
    · rename_i entry kept
      split at found
      · rename_i same
        subst same
        exact ⟨_, entry.template, Table.mem_of_find? kept⟩
      · cases found
    · cases found
  · rintro ⟨key, template, listed⟩
    obtain rfl := accounts.key listed
    rw [Table.find?_of_mem accounts.distinct listed]
    simp

theorem Accounts.find?_eq_none (accounts : Accounts digest uses cache)
    (missing : cache.find? digest source = none) : ¬ (source ∈ uses ∧ compiles source = true) := by
  rw [← accounts.find?_isSome, missing]
  exact Bool.false_ne_true

/-- A source that has not been compiled has a digest of its own. -/
theorem Accounts.fresh (accounts : Accounts digest uses cache)
    (apart : Set.InjOn digest {other | other ∈ uses ++ [source]}) (new : source ∉ cache.sources) :
    digest source ∉ cache.entries.keys := by
  rw [accounts.keyed, List.mem_map]
  rintro ⟨other, listed, same⟩
  have known := ((accounts.stored other).mp listed).1
  have equal : other = source :=
    apart (List.mem_append_left _ known) (List.mem_append_right _ List.mem_cons_self) same
  exact new (equal ▸ listed)

theorem Accounts.total_concat (accounts : Accounts digest uses cache) {count : Nat}
    (more : count = cache.hits + cache.misses + 1) : count = (uses ++ [source]).length := by
  rw [List.length_append, List.length_singleton, more, accounts.total]

/-- One more source that had not been compiled. -/
theorem missed_of_none (accounts : Accounts digest uses cache) (missing : cache.find? digest source = none) :
    missed (uses ++ [source]) = cache.misses + 1 := by
  rw [missed_concat, if_neg (accounts.find?_eq_none missing), accounts.misses]

theorem Accounts.hit (accounts : Accounts digest uses cache) {template : Template}
    (found : cache.find? digest source = some template) :
    Accounts digest (uses ++ [source]) { cache with hits := cache.hits + 1 } := by
  have known : source ∈ uses ∧ compiles source = true := by
    rw [← accounts.find?_isSome, found]
    rfl
  refine ⟨?_, ?_, accounts.keyed, accounts.distinct, fun other => (accounts.stored other).trans ?_⟩
  · exact accounts.total_concat (Nat.add_right_comm _ _ _)
  · rw [missed_concat, if_pos known]
    exact accounts.misses
  · rw [List.mem_append, List.mem_singleton]
    constructor
    · exact fun old => ⟨.inl old.1, old.2⟩
    · rintro ⟨old | rfl, reads⟩
      · exact ⟨old, reads⟩
      · exact known

theorem Accounts.fault (accounts : Accounts digest uses cache) (missing : cache.find? digest source = none)
    {error : Template.SourceError} (fails : Template.read source = .error error) :
    Accounts digest (uses ++ [source]) { cache with misses := cache.misses + 1 } := by
  refine ⟨?_, (missed_of_none accounts missing).symm, accounts.keyed, accounts.distinct,
    fun other => (accounts.stored other).trans ?_⟩
  · exact accounts.total_concat rfl
  · rw [List.mem_append, List.mem_singleton]
    constructor
    · exact fun old => ⟨.inl old.1, old.2⟩
    · rintro ⟨old | rfl, reads⟩
      · exact ⟨old, reads⟩
      · rw [compiles_of_fails fails] at reads
        cases reads

theorem Accounts.put (accounts : Accounts digest uses cache)
    (apart : Set.InjOn digest {other | other ∈ uses ++ [source]})
    (missing : cache.find? digest source = none) {template : Template}
    (read : Template.read source = .ok template) :
    Accounts digest (uses ++ [source])
      ⟨cache.entries.put (digest source) ⟨source, template⟩, cache.hits, cache.misses + 1⟩ := by
  have new : source ∉ cache.sources := by
    rw [accounts.stored]
    exact accounts.find?_eq_none missing
  have fresh := accounts.fresh apart new
  have entries := Table.entries_put_of_fresh cache.entries fresh ⟨source, template⟩
  have sources : Cache.sources ⟨cache.entries.put (digest source) ⟨source, template⟩, cache.hits,
      cache.misses + 1⟩ = cache.sources ++ [source] := by
    rw [Cache.sources, entries, List.map_append]
    rfl
  have keys : (cache.entries.put (digest source) ⟨source, template⟩).keys =
      cache.entries.keys ++ [digest source] := by
    rw [Table.keys, entries, List.map_append]
    rfl
  refine ⟨?_, (missed_of_none accounts missing).symm, ?_, Table.nodup_put accounts.distinct _ _,
    fun other => ?_⟩
  · exact accounts.total_concat rfl
  · rw [sources, keys, accounts.keyed, List.map_append]
    rfl
  · rw [sources, List.mem_append, List.mem_append, List.mem_singleton, accounts.stored]
    constructor
    · rintro (old | rfl)
      · exact ⟨.inl old.1, old.2⟩
      · exact ⟨.inr rfl, compiles_of_read read⟩
    · rintro ⟨old | same, reads⟩
      · exact .inl ⟨old, reads⟩
      · exact .inr same

/-- Compiling through the cache is accounted for. -/
theorem Accounts.read (accounts : Accounts digest uses cache)
    (apart : Set.InjOn digest {other | other ∈ uses ++ [source]}) :
    Accounts digest (uses ++ [source]) (cache.read digest source).2 := by
  unfold Cache.read
  cases found : cache.find? digest source with
  | some template => exact accounts.hit found
  | none =>
    cases read : Template.read source with
    | ok template => exact accounts.put apart found read
    | error error => exact accounts.fault found read

theorem accounts_run (steps : List Step) (apart : Set.InjOn digest {source | source ∈ used steps}) :
    Accounts digest (used steps) (run digest steps) := by
  -- By the last step: what has been used before it is the beginning of what is used with it.
  induction steps using List.reverseRecOn with
  | nil => exact accounts_empty digest
  | append_singleton steps step ih =>
    rw [run, List.foldl_append]
    show Accounts digest _ ((run digest steps).step digest step)
    cases step with
    | clear =>
      rw [used_clear]
      exact accounts_empty digest
    | compile cached source =>
      cases cached with
      | false =>
        rw [used_uncached] at apart ⊢
        exact ih apart
      | true =>
        rw [used_compile] at apart ⊢
        exact (ih (apart.mono fun other => List.mem_append_left _)).read apart

/-- There are as many entries as different sources that have been compiled. -/
theorem Accounts.size (accounts : Accounts digest uses cache) :
    cache.size = (uses.filter compiles).toFinset.card := by
  have distinct : cache.sources.Nodup := by
    have keys := accounts.distinct
    rw [accounts.keyed] at keys
    exact keys.of_map digest
  have same : (uses.filter compiles).toFinset = cache.sources.toFinset := by
    ext source
    rw [List.mem_toFinset, List.mem_toFinset, List.mem_filter, accounts.stored]
  rw [same, List.toFinset_card_of_nodup distinct, Cache.sources, List.length_map]
  rfl

end Cache

namespace Workspace

open Cache (used missed)

/-! ### What making a document compiles -/

/-- Texts up to the first that does not compile, and this one. -/
def upToFault : List String → List String
  | [] => []
  | text :: texts => text :: if compiles text then upToFault texts else []

/-- What making a document compiles: nothing if the source is empty or the schema cannot be used, and else the
partials in their order and then the source, up to the first that does not compile. -/
def compilations (source : String) (options : Options) : List Cache.Step :=
  if source.isEmpty = true ∨ (options.schema.bind Schema.fault?).isSome = true then []
  else (upToFault (options.partials.entries.map Prod.snd ++ [source])).map (.compile options.cached)

/-- The cache after some texts have been compiled. -/
def cacheAfter (cached : Bool) (texts : List String) (cache : Cache) : Cache :=
  (texts.map (Cache.Step.compile cached)).foldl (Cache.step Digest.ofText) cache

variable {workspace : Workspace}

theorem compile_cacheAfter (sound : workspace.cache.Sound) (cached : Bool) (text : String) :
    workspace.compile cached text =
      (Template.read text, { workspace with cache := cacheAfter cached [text] workspace.cache }) := by
  rw [← (sound.compile Digest.ofText cached text).1]
  rfl

theorem sound_cacheAfter (sound : workspace.cache.Sound) (cached : Bool) (text : String) :
    (cacheAfter cached [text] workspace.cache).Sound :=
  (sound.compile Digest.ofText cached text).2

theorem cacheAfter_append (cached : Bool) (first second : List String) (cache : Cache) :
    cacheAfter cached (first ++ second) cache = cacheAfter cached second (cacheAfter cached first cache) := by
  rw [cacheAfter, List.map_append, List.foldl_append]
  rfl

/-- Partials are compiled up to the first that does not compile; the texts behind them come after all of them,
or not at all. -/
theorem cache_addPartials (engine : EngineId) (cached : Bool) (behind : List String)
    (partials : List (String × String)) : ∀ workspace : Workspace, workspace.cache.Sound →
    ∃ done rest, upToFault (partials.map Prod.snd ++ behind) = done ++ rest ∧
      (addPartials engine cached partials workspace).2.cache = cacheAfter cached done workspace.cache ∧
      (addPartials engine cached partials workspace).2.cache.Sound ∧
      ((∃ error, (addPartials engine cached partials workspace).1 = .error error) ∧ rest = [] ∨
        (addPartials engine cached partials workspace).1 = .ok () ∧ rest = upToFault behind) := by
  induction partials with
  | nil => exact fun workspace sound => ⟨[], _, rfl, rfl, sound, .inr ⟨rfl, rfl⟩⟩
  | cons entry partials ih =>
    intro workspace sound
    obtain ⟨name, text⟩ := entry
    have kept := sound_cacheAfter sound cached text
    unfold addPartials addPartial
    rw [compile_cacheAfter sound]
    cases read : Template.read text with
    | error error =>
      refine ⟨[text], [], ?_, rfl, kept, .inl ⟨⟨_, rfl⟩, rfl⟩⟩
      rw [List.map_cons, List.cons_append, upToFault, compiles_of_fails read]
      rfl
    | ok template =>
      obtain ⟨done, rest, split, cache, later, ends⟩ := ih
        (({ workspace with cache := cacheAfter cached [text] workspace.cache }).setEngine engine
          ((({ workspace with cache := cacheAfter cached [text] workspace.cache }).engine
            engine).registerTemplate name template)) kept
      refine ⟨text :: done, rest, ?_, cache, later, ends⟩
      rw [List.map_cons, List.cons_append, upToFault, compiles_of_read read, if_pos rfl, split]
      rfl

theorem cache_compileDocument (sound : workspace.cache.Sound) (engine : EngineId) (source : String)
    (options : Options) :
    (workspace.compileDocument engine source options).2.cache =
      cacheAfter options.cached (upToFault [source]) workspace.cache := by
  have single : upToFault [source] = [source] := by
    unfold upToFault
    split <;> rfl
  rw [single]
  unfold compileDocument
  rw [compile_cacheAfter sound]
  cases Template.read source with
  | ok template => rfl
  | error error => rfl

theorem cache_make (sound : workspace.cache.Sound) (source : String) (options : Options) :
    (workspace.make source options).2.cache =
      (compilations source options).foldl (Cache.step Digest.ofText) workspace.cache := by
  unfold make compilations
  by_cases empty : source.isEmpty = true
  · rw [if_pos empty, if_pos (.inl empty)]
    rfl
  rw [if_neg empty]
  cases valid : options.schema.bind Schema.fault? with
  | some fault =>
    rw [if_pos (.inr rfl)]
    rfl
  | none =>
    have neither : ¬ (source.isEmpty = true ∨ (none : Option SchemaFault).isSome = true) := by simp [empty]
    rw [if_neg neither]
    rcases prepared : workspace.prepare (options.registry.getD .global) with ⟨engine, next⟩
    have same : next.cache = workspace.cache := by
      have kept := cache_prepare workspace (options.registry.getD .global)
      rwa [prepared] at kept
    have ready : next.cache.Sound := same ▸ sound
    -- If a partial does not compile, nothing is left to compile; else the source is.
    obtain ⟨done, rest, split, cache, later, ends⟩ :=
      cache_addPartials engine options.cached [source] options.partials.entries next ready
    rw [split]
    show _ = cacheAfter options.cached (done ++ rest) workspace.cache
    rw [cacheAfter_append, ← same, ← cache]
    simp only
    rcases addition : addPartials engine options.cached options.partials.entries next with ⟨result, added⟩
    rw [addition] at later ends
    rcases ends with ⟨⟨error, failed⟩, rfl⟩ | ⟨succeeded, rfl⟩
    · obtain rfl : result = .error error := failed
      rfl
    · obtain rfl : result = .ok () := succeeded
      exact cache_compileDocument later engine source options

/-! ### Sessions -/

/-- What a request does with the cache. -/
def cacheSteps (workspace : Workspace) : Request → List Cache.Step
  | .create _ source options => compilations source options
  | .createFrom _ file options =>
    match sourceOf file with
    | .ok source => compilations source options
    | .error _ => []
  | .addPartial handle _ source =>
    match workspace.documents.find? handle with
    | some document => [.compile document.cached source]
    | none => []
  | .clearCache => [.clear]
  | _ => []

/-- What the requests of a session do with the cache. -/
def cacheHistory (workspace : Workspace) : List Request → List Cache.Step
  | [] => []
  | request :: requests => workspace.cacheSteps request ++ (workspace.answer request).2.cacheHistory requests

theorem cache_create (sound : workspace.cache.Sound) (handle source : String) (options : Options) :
    (workspace.create handle source options).2.cache =
      (compilations source options).foldl (Cache.step Digest.ofText) workspace.cache := by
  rw [← cache_make sound]
  unfold create
  rcases workspace.make source options with ⟨result, next⟩
  cases result with
  | ok document => exact cache_releaseAll _ _
  | error error => rfl

theorem cache_onDocument {handle : String} {reply : Document → Reply × Workspace}
    (same : ∀ document, (reply document).2.cache = workspace.cache) :
    (workspace.onDocument handle reply).2.cache = workspace.cache := by
  unfold onDocument
  cases workspace.documents.find? handle with
  | some document => exact same document
  | none => rfl

/-- A request changes the cache as it compiles sources and clears it. -/
theorem cache_answer (sound : workspace.cache.Sound) (request : Request) :
    (workspace.answer request).2.cache =
      (workspace.cacheSteps request).foldl (Cache.step Digest.ofText) workspace.cache := by
  cases request with
  | create handle source options => exact cache_create sound handle source options
  | createFrom handle file options =>
    show (workspace.createFrom handle file options).2.cache = _
    simp only [createFrom, cacheSteps]
    cases sourceOf file with
    | ok source => exact cache_create sound handle source options
    | error error => rfl
  | addPartial handle name source =>
    simp only [answer, onDocument, cacheSteps]
    cases workspace.documents.find? handle with
    | none => rfl
    | some document =>
      simp only [addPartial, compile_cacheAfter sound]
      cases Template.read source with
      | ok template => rfl
      | error error => rfl
  | copy handle other => exact cache_onDocument fun document => cache_releaseAll _ _
  | drop handle => exact cache_releaseAll _ _
  | describe handle => exact cache_onDocument fun document => rfl
  | render handle mode timing now data => exact cache_onDocument fun document => rfl
  | validate handle timing data => exact cache_onDocument fun document => rfl
  | _ => rfl

/-- The cache of a session is the one after what its requests do with it, so its numbers are accounted for. -/
theorem cache_after (requests : List Request) : ∀ workspace : Workspace, workspace.cache.Sound →
    (workspace.after requests).cache =
      (workspace.cacheHistory requests).foldl (Cache.step Digest.ofText) workspace.cache := by
  induction requests with
  | nil => exact fun _ _ => rfl
  | cons request requests ih =>
    intro workspace sound
    have next := ih (workspace.answer request).2 (follows_answer sound request).sound
    rw [cacheHistory, List.foldl_append, ← cache_answer sound]
    exact next

/-- The numbers of a cache after any steps, as long as no two sources that have been compiled through it since
it was cleared share a digest: each of these compilations is a hit or a miss, and a miss just if the source had
not been compiled before without an error; there is an entry for each source that has been, and for no other.
Compiling without the cache changes nothing. Making a document compiles each partial and then the source, up to
the first that does not compile; and the cache of every session is the one after what its requests compile. -/
theorem cache_accounts :
    (∀ (digest : String → String) (steps : List Cache.Step),
      Set.InjOn digest {source | source ∈ used steps} →
      (Cache.run digest steps).hits + (Cache.run digest steps).misses = (used steps).length ∧
      (Cache.run digest steps).misses = missed (used steps) ∧
      (Cache.run digest steps).size = ((used steps).filter compiles).toFinset.card ∧
      ∀ source, (Cache.run digest steps).contains digest source = true ↔
        source ∈ used steps ∧ compiles source = true) ∧
    (∀ (digest : String → String) (before after : List Cache.Step) (source : String),
      Cache.run digest (before ++ .compile false source :: after) = Cache.run digest (before ++ after)) ∧
    (∀ (steps : List Cache.Step) (workspace : Workspace) (source : String) (options : Options),
      workspace.cache = Cache.run Digest.ofText steps →
      (workspace.make source options).2.cache =
        Cache.run Digest.ofText (steps ++ compilations source options)) ∧
    ∀ requests : List Request,
      (empty.after requests).cache = Cache.run Digest.ofText (empty.cacheHistory requests) := by
  refine ⟨?_, ?_, ?_, fun requests => cache_after requests empty Cache.sound_empty⟩
  · intro digest steps apart
    have accounts := Cache.accounts_run steps apart
    exact ⟨accounts.total, accounts.misses, accounts.size, accounts.find?_isSome⟩
  · intro digest before after source
    rw [Cache.run, Cache.run, List.foldl_append, List.foldl_append]
    rfl
  · intro steps workspace source options same
    have sound : workspace.cache.Sound := same ▸ Cache.sound_run Digest.ofText steps
    rw [cache_make sound, same, Cache.run, Cache.run, List.foldl_append]

/-- A tag that does not end. -/
def openTag : String := "\x7b\x7bx"

/-- Two sources before the cache is cleared and after it, of which one does not compile. -/
def mixedSteps : List Cache.Step :=
  [.compile true "x", .clear, .compile true "x", .compile true openTag, .compile false "y", .compile true "x",
    .compile true openTag]

/-- Options with a partial that does not compile between two that do. -/
def openPartial : Options :=
  { Options.default with partials := ⟨[("a", "x"), ("b", openTag), ("c", "y")]⟩ }

/-- The source that does not compile is missed twice and is no entry, and the last partial is not compiled. -/
theorem cache_accounts_mixed :
    Set.InjOn Digest.ofText {source | source ∈ used mixedSteps} ∧
    (Cache.run Digest.ofText mixedSteps).hits + (Cache.run Digest.ofText mixedSteps).misses = 4 ∧
    (Cache.run Digest.ofText mixedSteps).misses = 3 ∧ (Cache.run Digest.ofText mixedSteps).size = 1 ∧
    (Cache.run Digest.ofText mixedSteps).contains Digest.ofText "x" = true ∧
    (Cache.run Digest.ofText mixedSteps).contains Digest.ofText openTag = false ∧
    empty.cache = Cache.run Digest.ofText [] ∧
    (empty.make "z" openPartial).2.cache =
      Cache.run Digest.ofText [.compile true "x", .compile true openTag] := by
  have uses : used mixedSteps = ["x", openTag, "x", openTag] := by decide +kernel
  have reads : compiles "x" = true := by decide +kernel
  have fails : compiles openTag = false := by decide +kernel
  have apart : Set.InjOn Digest.ofText {source | source ∈ used mixedSteps} := by
    have differs : Digest.ofText "x" ≠ Digest.ofText openTag := by decide +kernel
    have either : ∀ source ∈ used mixedSteps, source = "x" ∨ source = openTag := by
      rw [uses]
      simp
    intro first inFirst second inSecond same
    rcases either first inFirst with rfl | rfl <;> rcases either second inSecond with rfl | rfl
    · rfl
    · exact absurd same differs
    · exact absurd same.symm differs
    · rfl
  obtain ⟨accounts, -, made, -⟩ := cache_accounts
  obtain ⟨total, misses, size, contains⟩ := accounts Digest.ofText mixedSteps apart
  refine ⟨apart, ?_, ?_, ?_, ?_, ?_, rfl, ?_⟩
  · rw [total, uses]
    rfl
  · rw [misses]
    decide +kernel
  · rw [size, uses]
    decide +kernel
  · rw [contains, uses]
    exact ⟨List.mem_cons_self, reads⟩
  · rw [Bool.eq_false_iff, ne_eq, contains, fails]
    exact fun both => absurd both.2 Bool.false_ne_true
  · have stopped : compilations "z" openPartial = [.compile true "x", .compile true openTag] := by
      have texts : openPartial.partials.entries.map Prod.snd ++ ["z"] = ["x", openTag, "y", "z"] := rfl
      rw [compilations, if_neg (by decide), texts, upToFault, reads, if_pos rfl, upToFault, fails]
      rfl
    rw [made [] empty "z" openPartial rfl, stopped]
    rfl

end Workspace

end Stencil
