import Mathlib.Data.List.Basic
import Mathlib.Data.List.Induction
import Stencil.Proofs.HelperRecords
import Stencil.Proofs.ObservationTable

set_option autoImplicit false

/-!
Making a document, step by step. The first thing that is wrong decides the result: an empty source, a
schema that cannot be used, the first partial that does not compile, and the source. What is left
behind is nothing in the first two cases; in the others the engine has been prepared, and has the
partials before the one that does not compile (`make_outcome`).
-/

namespace Stencil

open Extraction (distinctNames addName)

/-! ### Entries that are given in turn -/

section

variable {α : Type}

/-- The entries that count: each name once, where it came up first, with what was given last. -/
def lastGiven (given : List (String × α)) : List (String × α) :=
  (distinctNames (given.map Prod.fst)).filterMap fun name =>
    (Table.findIn name given.reverse).map fun value => (name, value)

namespace Table

/-- A table is fixed by its keys in their order and by what it holds under each of them. -/
theorem entries_eq_of_nodup {table : Table String α} (distinct : table.keys.Nodup) :
    table.entries =
      table.keys.filterMap fun name => (table.find? name).map fun value => (name, value) := by
  have found : ∀ entry ∈ table.entries,
      (table.find? entry.1).map (fun value => (entry.1, value)) = some entry := by
    intro entry listed
    rw [find?_of_mem distinct listed]
    rfl
  calc table.entries = table.entries.filterMap some := List.filterMap_some.symm
    _ = table.entries.filterMap fun entry =>
        (table.find? entry.1).map fun value => (entry.1, value) :=
      List.filterMap_congr fun entry listed => (found entry listed).symm
    _ = table.keys.filterMap fun name => (table.find? name).map fun value => (name, value) := by
      rw [keys, List.filterMap_map]
      rfl

theorem nodup_putAll (given : List (String × α)) :
    ((empty : Table String α).putAll given).keys.Nodup := by
  induction given using List.reverseRecOn with
  | nil => exact List.nodup_nil
  | append_singleton given entry ih =>
    rw [putAll, List.foldl_append]
    exact nodup_put ih entry.1 entry.2

theorem keys_putAll (given : List (String × α)) :
    ((empty : Table String α).putAll given).keys = distinctNames (given.map Prod.fst) := by
  induction given using List.reverseRecOn with
  | nil => rfl
  | append_singleton given entry ih =>
    have last := keys_put ((empty : Table String α).putAll given) entry.1 entry.2
    rw [ih] at last
    rw [putAll, List.foldl_append, List.map_append, distinctNames, List.foldl_append]
    refine last.trans ?_
    simp only [List.map_cons, List.map_nil, List.foldl_cons, List.foldl_nil, addName,
      List.contains_iff_mem]
    rfl

theorem find?_putAll_empty (given : List (String × α)) (name : String) :
    ((empty : Table String α).putAll given).find? name = findIn name given.reverse := by
  induction given using List.reverseRecOn with
  | nil => rfl
  | append_singleton given entry ih =>
    obtain ⟨other, value⟩ := entry
    rw [putAll, List.foldl_append, List.reverse_append]
    by_cases same : name = other
    · subst same
      simp [findIn]
    · have kept := find?_put_of_ne ((empty : Table String α).putAll given) same value
      simp only [List.reverse_singleton, List.singleton_append, findIn, if_neg same]
      exact kept.trans ih

/-- What is put in turn is kept as `lastGiven` says. -/
theorem entries_putAll (given : List (String × α)) :
    ((empty : Table String α).putAll given).entries = lastGiven given := by
  rw [entries_eq_of_nodup (nodup_putAll given), keys_putAll, lastGiven]
  exact List.filterMap_congr fun name _ => by rw [find?_putAll_empty]

end Table

theorem nodup_lastGiven (given : List (String × α)) : ((lastGiven given).map Prod.fst).Nodup := by
  have distinct := Table.nodup_putAll given
  rwa [Table.keys, Table.entries_putAll] at distinct

end

namespace Workspace

/-! ### What is left behind -/

/-- The helpers that making a document on a registry binds; those of the global registry are not. -/
def pendingHelpers (workspace : Workspace) : RegistryId → List (String × Registration)
  | .global => []
  | .scoped number =>
    (workspace.registry (.scoped number)).pending (workspace.registry (.scoped number)).engine

/-- The template that a list of partials gives to a name. -/
def compiled? (partials : List (String × String)) (name : String) : Option Template :=
  (Table.findIn name partials).bind fun text => (Template.read text).toOption

/-- A workspace in which the engine of a registry has been prepared, and has got some partials. -/
structure Prepared (workspace : Workspace) (id : RegistryId) (partials : List (String × String))
    (next : Workspace) : Prop where
  hasCatalog : (next.engine (workspace.registry id).engine).hasCatalog = true
  helpers : ∀ name, (next.engine (workspace.registry id).engine).helpers.find? name =
    (Table.findIn name ((workspace.pendingHelpers id).map fun entry => (entry.1, entry.2.helper))).or
      (afterCatalog (workspace.engine (workspace.registry id).engine).hasCatalog name
        ((workspace.engine (workspace.registry id).engine).helpers.find? name))
  templates : ∀ name, next.template? (workspace.registry id).engine name =
    (compiled? partials name).or (workspace.template? (workspace.registry id).engine name)
  otherEngines : ∀ engine, engine ≠ (workspace.registry id).engine →
    next.engine engine = workspace.engine engine
  /-- Of the registries only the helpers that were pending change: they are bound. -/
  registries : ∀ other, next.registry other =
    if other = id then
      { workspace.registry id with
        bound := (workspace.pendingHelpers id).map
          (fun entry => ((workspace.registry id).engine, entry.1)) ++ (workspace.registry id).bound }
    else workspace.registry other
  documents : next.documents = workspace.documents
  made : next.made = workspace.made

/-- How making a document goes, and what it leaves behind. -/
inductive MakingOutcome (workspace : Workspace) (source : String) (options : Options)
    (partials : List (String × String)) : Except TemplateError Document → Workspace → Prop where
  | emptySource (empty : source = "") : MakingOutcome workspace source options partials
      (.error .emptySource) workspace
  | invalidSchema (nonempty : source ≠ "") (fault : SchemaFault)
      (invalid : options.schema.bind Schema.fault? = some fault) :
      MakingOutcome workspace source options partials (.error (.invalidSchema fault)) workspace
  /-- The partials before the one that does not compile stay, and its name keeps what it had. -/
  | faultyPartial (nonempty : source ≠ "") (valid : options.schema.bind Schema.fault? = none)
      (before : List (String × String)) (name text : String) (after : List (String × String))
      (split : partials = before ++ (name, text) :: after)
      (compiles : ∀ entry ∈ before, ∃ template, Template.read entry.2 = .ok template)
      (error : Template.SourceError) (fails : Template.read text = .error error)
      (next : Workspace) (left : Prepared workspace (options.registry.getD .global) before next)
      (kept : ∀ engine, next.template? engine name = workspace.template? engine name) :
      MakingOutcome workspace source options partials
        (.error (.faultyPartial name (error.diagnosis text (some name)))) next
  | faultySource (nonempty : source ≠ "") (valid : options.schema.bind Schema.fault? = none)
      (compiles : ∀ entry ∈ partials, ∃ template, Template.read entry.2 = .ok template)
      (error : Template.SourceError) (fails : Template.read source = .error error)
      (next : Workspace) (left : Prepared workspace (options.registry.getD .global) partials next) :
      MakingOutcome workspace source options partials
        (.error (.faultySource (error.diagnosis source options.name))) next
  /-- The document is registered behind all partials, and nothing else is. -/
  | made (nonempty : source ≠ "") (valid : options.schema.bind Schema.fault? = none)
      (compiles : ∀ entry ∈ partials, ∃ template, Template.read entry.2 = .ok template)
      (template : Template) (reads : Template.read source = .ok template)
      (ready : Workspace) (left : Prepared workspace (options.registry.getD .global) partials ready)
      (document : Document)
      (describes : document = ⟨source, options.name, options.schema, options.cached,
        (workspace.registry (options.registry.getD .global)).engine, workspace.nextKey source⟩) :
      MakingOutcome workspace source options partials (.ok document)
        { ready.setEngine document.engine
            ((ready.engine document.engine).registerTemplate document.key template) with
          made := workspace.made + 1 }

/-! ### Preparing an engine -/

variable {workspace next : Workspace} {id : RegistryId} {partials : List (String × String)}

theorem engine_prepare_global (engine : EngineId) :
    (workspace.prepare .global).2.engine engine =
      if engine = (workspace.registry .global).engine then
        (workspace.engine (workspace.registry .global).engine).installCatalog
      else workspace.engine engine :=
  engine_setEngine workspace _ engine _

/-- Binding asks for the catalog once more, which changes nothing. -/
theorem engine_prepare_scoped (number : Nat) (engine : EngineId) :
    (workspace.prepare (.scoped number)).2.engine engine =
      if engine = (workspace.registry (.scoped number)).engine then
        ((workspace.registry (.scoped number)).bind (workspace.registry (.scoped number)).engine
          (workspace.engine (workspace.registry (.scoped number)).engine)).2.1
      else workspace.engine engine := by
  have bound := (workspace.installCatalog (workspace.registry (.scoped number)).engine).2.engine_bindTo
    (.scoped number) (workspace.registry (.scoped number)).engine engine
  have installed : ∀ other,
      (workspace.installCatalog (workspace.registry (.scoped number)).engine).2.engine other =
        if other = (workspace.registry (.scoped number)).engine then
          (workspace.engine (workspace.registry (.scoped number)).engine).installCatalog
        else workspace.engine other := fun other => engine_setEngine workspace _ other _
  refine bound.trans ?_
  by_cases same : engine = (workspace.registry (.scoped number)).engine
  · rw [if_pos same, if_pos same, installed, if_pos rfl]
    simp only [Registry.bind, Engine.installCatalog_installCatalog]
    rfl
  · rw [if_neg same, if_neg same, installed, if_neg same]

theorem find?_bind {registry : Registry} (distinct : registry.names.Nodup) (target : EngineId)
    (engine : Engine) (name : String) :
    (registry.bind target engine).2.1.helpers.find? name =
      (Table.findIn name ((registry.pending target).map fun entry => (entry.1, entry.2.helper))).or
        (afterCatalog engine.hasCatalog name (engine.helpers.find? name)) := by
  have kept : (((registry.pending target).map fun entry => (entry.1, entry.2.helper)).map
      Prod.fst).Nodup := by
    rw [List.map_map]
    exact List.Nodup.sublist (List.Sublist.map _ List.filter_sublist) distinct
  have put := Table.find?_putAll engine.installCatalog.helpers kept name
  rw [Engine.find?_installCatalog] at put
  simp only [Registry.bind, Engine.foldl_registerHelper, put]

theorem prepared_prepare (distinct : (workspace.registry id).names.Nodup) :
    Prepared workspace id [] (workspace.prepare id).2 := by
  rcases id with _ | number
  · refine ⟨?_, fun name => ?_, fun name => ?_, fun engine other => ?_, fun other => ?_, rfl, rfl⟩
    · rw [engine_prepare_global, if_pos rfl]
      exact Engine.hasCatalog_installCatalog _
    · rw [engine_prepare_global, if_pos rfl, Engine.find?_installCatalog]
      rfl
    · rw [template?, engine_prepare_global, if_pos rfl, Engine.templates_installCatalog]
      rfl
    · rw [engine_prepare_global, if_neg other]
    · split
      · rename_i same
        rw [same]
        rfl
      · rfl
  · refine ⟨?_, fun name => ?_, fun name => ?_, fun engine other => ?_, fun other => ?_, rfl, rfl⟩
    · rw [engine_prepare_scoped, if_pos rfl]
      simp only [Registry.bind, Engine.foldl_registerHelper, Engine.hasCatalog_installCatalog]
    · rw [engine_prepare_scoped, if_pos rfl, find?_bind distinct]
      rfl
    · rw [template?, engine_prepare_scoped, if_pos rfl, Registry.templates_bind]
      rfl
    · rw [engine_prepare_scoped, if_neg other]
    · exact registry_bindTo
        (workspace.installCatalog (workspace.registry (.scoped number)).engine).2 (.scoped number)
        (workspace.registry (.scoped number)).engine other

/-! ### Adding partials -/

theorem Prepared.withCache (prepared : Prepared workspace id partials next) (cache : Cache) :
    Prepared workspace id partials { next with cache } :=
  ⟨prepared.hasCatalog, prepared.helpers, prepared.templates, prepared.otherEngines,
    prepared.registries, prepared.documents, prepared.made⟩

theorem compiled?_concat (partials : List (String × String)) {name text : String}
    {template : Template} (compiles : Template.read text = .ok template)
    (fresh : name ∉ partials.map Prod.fst) (other : String) :
    compiled? (partials ++ [(name, text)]) other =
      if other = name then some template else compiled? partials other := by
  rw [compiled?, Table.findIn_append]
  by_cases same : other = name
  · subst same
    rw [(Table.findIn_eq_none_iff other partials).mpr fresh, if_pos rfl]
    simp [Table.findIn, compiles, Except.toOption]
  · simp [Table.findIn, same, compiled?]

/-- A partial that compiles is registered under its name. -/
theorem Prepared.registerTemplate (prepared : Prepared workspace id partials next)
    {name text : String} {template : Template} (compiles : Template.read text = .ok template)
    (fresh : name ∉ partials.map Prod.fst) :
    Prepared workspace id (partials ++ [(name, text)])
      (next.setEngine (workspace.registry id).engine
        ((next.engine (workspace.registry id).engine).registerTemplate name template)) := by
  have engines := engine_setEngine next (workspace.registry id).engine
  refine ⟨?_, fun other => ?_, fun other => ?_, fun engine other => ?_, prepared.registries,
    prepared.documents, prepared.made⟩
  · rw [engines, if_pos rfl]
    exact prepared.hasCatalog
  · rw [engines, if_pos rfl]
    exact prepared.helpers other
  · have before := prepared.templates other
    rw [template?_setEngine, if_pos rfl, compiled?_concat partials compiles fresh]
    by_cases same : other = name
    · subst same
      rw [if_pos rfl]
      exact Table.find?_put_self _ other template
    · rw [if_neg same, ← before]
      exact Table.find?_put_of_ne _ same template
  · rw [engines, if_neg other]
    exact prepared.otherEngines engine other

/-- How adding partials goes: all of them compile, or those before one that does not. -/
inductive Adds (workspace : Workspace) (id : RegistryId) (done : List (String × String)) :
    List (String × String) → Except TemplateError Unit × Workspace → Prop where
  | all {rest : List (String × String)} {next : Workspace}
      (compiles : ∀ entry ∈ rest, ∃ template, Template.read entry.2 = .ok template)
      (left : Prepared workspace id (done ++ rest) next) (sound : next.cache.Sound) :
      Adds workspace id done rest (.ok (), next)
  | before {rest : List (String × String)} {next : Workspace} (before : List (String × String))
      (name text : String) (after : List (String × String))
      (split : rest = before ++ (name, text) :: after)
      (compiles : ∀ entry ∈ before, ∃ template, Template.read entry.2 = .ok template)
      (error : Template.SourceError) (fails : Template.read text = .error error)
      (left : Prepared workspace id (done ++ before) next) :
      Adds workspace id done rest
        (.error (.faultyPartial name (error.diagnosis text (some name))), next)

/-- One more partial before the others that are still to be added. -/
theorem Adds.cons {done rest : List (String × String)} {name text : String} {template : Template}
    {result : Except TemplateError Unit × Workspace} (compiles : Template.read text = .ok template)
    (adds : Adds workspace id (done ++ [(name, text)]) rest result) :
    Adds workspace id done ((name, text) :: rest) result := by
  have first : ∀ {others : List (String × String)},
      (∀ entry ∈ others, ∃ template, Template.read entry.2 = .ok template) →
        ∀ entry ∈ (name, text) :: others, ∃ template, Template.read entry.2 = .ok template := by
    intro others further entry listed
    rcases List.mem_cons.mp listed with rfl | listed
    · exact ⟨template, compiles⟩
    · exact further entry listed
  cases adds with
  | all further left sound =>
    rw [List.append_assoc] at left
    exact .all (first further) left sound
  | before before other fault after split further error fails left =>
    rw [List.append_assoc] at left
    refine .before ((name, text) :: before) other fault after ?_ (first further) error fails left
    rw [split, List.cons_append]

theorem adds_addPartials (cached : Bool) (rest : List (String × String)) :
    ∀ (done : List (String × String)) (next : Workspace), Prepared workspace id done next →
      next.cache.Sound → ((done ++ rest).map Prod.fst).Nodup →
        Adds workspace id done rest (addPartials (workspace.registry id).engine cached rest next) := by
  induction rest with
  | nil =>
    intro done next prepared sound _
    refine .all (by simp) ?_ sound
    rwa [List.append_nil]
  | cons entry rest ih =>
    intro done next prepared sound distinct
    obtain ⟨name, text⟩ := entry
    obtain ⟨cache, keeps, compiled⟩ := compile_eq sound cached text
    have ready := prepared.withCache cache
    unfold addPartials addPartial
    rw [compiled]
    cases read : Template.read text with
    | ok template =>
      have fresh : name ∉ done.map Prod.fst := by
        intro listed
        rw [List.map_append, List.nodup_append] at distinct
        exact distinct.2.2 name listed name (by simp) rfl
      refine Adds.cons read (ih (done ++ [(name, text)]) _ (ready.registerTemplate read fresh) keeps ?_)
      simpa using distinct
    | error error =>
      refine .before [] name text rest rfl (by simp) error read ?_
      rwa [List.append_nil]

/-! ### Making -/

theorem sound_after (requests : List Request) :
    ∀ workspace : Workspace, workspace.cache.Sound → (workspace.after requests).cache.Sound := by
  induction requests with
  | nil => exact fun _ sound => sound
  | cons request requests ih =>
    exact fun workspace sound => ih _ (follows_answer sound request).sound

/-- A name that some partials do not give keeps what it had. -/
theorem Prepared.kept (prepared : Prepared workspace id partials next) {name : String}
    (absent : name ∉ partials.map Prod.fst) (engine : EngineId) :
    next.template? engine name = workspace.template? engine name := by
  by_cases own : engine = (workspace.registry id).engine
  · rw [own, prepared.templates, compiled?, (Table.findIn_eq_none_iff name partials).mpr absent]
    rfl
  · rw [template?, prepared.otherEngines engine own]
    rfl

theorem outcome_compileDocument {source : String} {options : Options} (nonempty : source ≠ "")
    (valid : options.schema.bind Schema.fault? = none)
    (compiles : ∀ entry ∈ partials, ∃ template, Template.read entry.2 = .ok template)
    (left : Prepared workspace (options.registry.getD .global) partials next)
    (sound : next.cache.Sound) {engine : EngineId}
    (own : engine = (workspace.registry (options.registry.getD .global)).engine) :
    MakingOutcome workspace source options partials (next.compileDocument engine source options).1
      (next.compileDocument engine source options).2 := by
  obtain ⟨cache, _, compiled⟩ := compile_eq sound options.cached source
  have complete := left.withCache cache
  unfold compileDocument
  rw [compiled]
  cases read : Template.read source with
  | error error => exact .faultySource nonempty valid compiles error read _ complete
  | ok template =>
    have key : nextKey { next with cache } source = workspace.nextKey source := by
      rw [nextKey, nextKey, complete.made]
    have made := MakingOutcome.made nonempty valid compiles template read _ complete _ rfl
    simp only [key]
    rw [← complete.made, ← own] at made
    exact made

theorem outcome_make (sound : workspace.cache.Sound)
    (distinct : ∀ id, (workspace.registry id).names.Nodup) (source : String) (options : Options)
    (named : (options.partials.entries.map Prod.fst).Nodup) :
    MakingOutcome workspace source options options.partials.entries
      (workspace.make source options).1 (workspace.make source options).2 := by
  unfold make
  by_cases empty : source.isEmpty = true
  · rw [if_pos empty]
    exact .emptySource (String.isEmpty_iff.mp empty)
  rw [if_neg empty]
  have nonempty : source ≠ "" := fun same => empty (String.isEmpty_iff.mpr same)
  cases valid : options.schema.bind Schema.fault? with
  | some fault => exact .invalidSchema nonempty fault valid
  | none =>
    have engine := workspace.prepare_fst (options.registry.getD .global)
    have prepared := prepared_prepare (distinct (options.registry.getD .global))
    have soundly : (workspace.prepare (options.registry.getD .global)).2.cache.Sound := by
      rw [cache_prepare]
      exact sound
    have adds := adds_addPartials options.cached options.partials.entries [] _ prepared soundly named
    rcases ready : workspace.prepare (options.registry.getD .global) with ⟨target, start⟩
    rw [ready] at adds engine
    simp only at adds engine ⊢
    rw [← engine] at adds
    rcases addition : addPartials target options.cached options.partials.entries start with
      ⟨result, later⟩
    rw [addition] at adds
    cases adds with
    | before before name text after split compiles error fails left =>
      have absent : name ∉ before.map Prod.fst := by
        intro listed
        rw [split, List.map_append, List.nodup_append] at named
        exact named.2.2 name listed name (by simp) rfl
      exact .faultyPartial nonempty valid before name text after split compiles error fails later left
        (left.kept absent)
    | all compiles left keeps =>
      exact outcome_compileDocument nonempty valid compiles left keeps engine

/-! ### The first fault -/

theorem MakingOutcome.made_iff {source : String} {options : Options}
    {result : Except TemplateError Document}
    (outcome : MakingOutcome workspace source options partials result next) :
    (∃ document, result = .ok document) ↔ source ≠ "" ∧ options.schema.bind Schema.fault? = none ∧
      (∀ entry ∈ partials, ∃ template, Template.read entry.2 = .ok template) ∧
      (Extraction.extract source).precision = .precise := by
  rw [Extraction.extract_precise_iff]
  cases outcome with
  | emptySource empty => simp [empty]
  | invalidSchema nonempty fault invalid => simp [invalid]
  | faultyPartial nonempty valid before name text after split compiles error fails next left kept =>
    have broken : ¬ ∀ entry ∈ partials, ∃ template, Template.read entry.2 = .ok template := by
      intro all
      obtain ⟨template, read⟩ := all (name, text) (by simp [split])
      rw [fails] at read
      cases read
    exact iff_of_false (by simp) fun all => broken all.2.2.1
  | faultySource nonempty valid compiles error fails next left => simp [fails]
  | made nonempty valid compiles template reads ready left document describes =>
    refine ⟨fun _ => ⟨nonempty, valid, compiles, template, reads⟩, fun _ => ⟨document, rfl⟩⟩

/-- Options with partials that are given in turn. -/
def withPartials (options : Options) (given : List (String × String)) : Options :=
  { options with partials := Table.empty.putAll given }

/-- In every state, making a document is decided by the first fault of the source, the schema, the
partials and the source as a template, and leaves behind what was done before it. A source that gets so
far is taken just if its variables are found precisely. -/
theorem make_first_fault (requests : List Request) (source : String) (options : Options)
    (given : List (String × String)) :
    MakingOutcome (empty.after requests) source (withPartials options given) (lastGiven given)
      ((empty.after requests).make source (withPartials options given)).1
      ((empty.after requests).make source (withPartials options given)).2 ∧
    ((∃ document, ((empty.after requests).make source (withPartials options given)).1 = .ok document) ↔
      source ≠ "" ∧ options.schema.bind Schema.fault? = none ∧
      (∀ entry ∈ lastGiven given, ∃ template, Template.read entry.2 = .ok template) ∧
      (Extraction.extract source).precision = .precise) := by
  have recorded := recorded_after requests
  have outcome := outcome_make (sound_after requests empty Cache.sound_empty)
    (fun id => (recorded.registry id).distinct) source (withPartials options given)
    (Table.nodup_putAll given)
  have entries : (withPartials options given).partials.entries = lastGiven given :=
    Table.entries_putAll given
  rw [entries] at outcome
  exact ⟨outcome, outcome.made_iff⟩

end Workspace

end Stencil
