import Stencil.Engine

set_option autoImplicit false

/-!
The catalog in an engine. Its names are distinct, so each is served by its own helper once the catalog
is installed (`Engine.find?_installCatalog`), and stays so where the catalog came before.
-/

namespace Stencil

/-- The catalog's helper of a name. -/
def Catalog.helper? (name : String) : Option Helper := (Catalog.find? name).map CatalogEntry.run

/-- What the catalog's helper of a name answers to arguments. -/
def Catalog.answer (options : List (String × Json)) (now : Calendar.Instant) (name : String)
    (arguments : List Json) : Answer Json :=
  Catalog.run ⟨name, arguments, options, now⟩

theorem Catalog.answer_eq {name : String} {helper : Helper} (serves : Catalog.helper? name = some helper)
    (options : List (String × Json)) (now : Calendar.Instant) (arguments : List Json) :
    Catalog.answer options now name arguments = helper ⟨name, arguments, options, now⟩ := by
  obtain ⟨entry, found, rfl⟩ := Option.map_eq_some_iff.mp serves
  simp only [Catalog.answer, Catalog.run, found]

/-- What comes after an answer goes on with its value. -/
theorem Answer.ok_bind {α β : Type} (value : α) (next : α → Answer β) :
    (Except.ok value >>= next) = next value := rfl

/-- The helper of an engine after the catalog is asked for: it comes once, and replaces what is there. -/
def afterCatalog (has : Bool) (name : String) (helper? : Option Helper) : Option Helper :=
  if has then helper? else (Catalog.helper? name).or helper?

theorem Catalog.distinct_names : Catalog.names.Nodup := by decide +kernel

theorem findIn_catalogEntries (name : String) (entries : List CatalogEntry) :
    Table.findIn name (entries.map fun entry => (entry.name, entry.run)) =
      (entries.find? (·.name == name)).map CatalogEntry.run := by
  induction entries with
  | nil => rfl
  | cons entry entries ih =>
    by_cases same : entry.name = name
    · simp [Table.findIn, same]
    · have differs : ¬ name = entry.name := fun equal => same equal.symm
      simp [Table.findIn, same, differs, ih]

namespace Engine

variable (engine : Engine)

theorem hasCatalog_installCatalog : engine.installCatalog.hasCatalog = true := by
  unfold installCatalog
  split
  · assumption
  · rfl

theorem installCatalog_installCatalog :
    engine.installCatalog.installCatalog = engine.installCatalog := by
  rw [installCatalog, if_pos engine.hasCatalog_installCatalog]

theorem find?_installCatalog (name : String) : engine.installCatalog.helpers.find? name =
    afterCatalog engine.hasCatalog name (engine.helpers.find? name) := by
  cases has : engine.hasCatalog with
  | true => simp [installCatalog, has, afterCatalog]
  | false =>
    have distinct : ((Catalog.entries.map fun entry => (entry.name, entry.run)).map
        Prod.fst).Nodup := by
      rw [List.map_map]
      exact Catalog.distinct_names
    have found := Table.find?_putAll engine.helpers distinct name
    rw [findIn_catalogEntries] at found
    simpa [installCatalog, has, afterCatalog, Catalog.helper?, Catalog.find?] using found

end Engine

theorem find?_name_of_mem {entries : List CatalogEntry}
    (distinct : (entries.map CatalogEntry.name).Nodup) {entry : CatalogEntry}
    (listed : entry ∈ entries) : entries.find? (·.name == entry.name) = some entry := by
  induction entries with
  | nil => cases listed
  | cons first entries ih =>
    rw [List.map_cons, List.nodup_cons] at distinct
    rcases List.mem_cons.mp listed with rfl | listed
    · simp
    · have differs : first.name ≠ entry.name := by
        intro same
        exact distinct.1 (same ▸ List.mem_map_of_mem listed)
      simpa [differs] using ih distinct.2 listed

/-- A listed helper is found under its name. -/
theorem Catalog.find?_of_mem {entry : CatalogEntry} (listed : entry ∈ entries) :
    find? entry.name = some entry :=
  find?_name_of_mem Catalog.distinct_names listed

/-- An engine that has every helper of the catalog. -/
def Engine.ServesCatalog (engine : Engine) : Prop :=
  ∀ entry ∈ Catalog.entries, engine.helpers.find? entry.name = some entry.run

/-- Installing the catalog brings every helper of it. -/
theorem Engine.servesCatalog_installCatalog {engine : Engine} (new : engine.hasCatalog = false) :
    engine.installCatalog.ServesCatalog := by
  intro entry listed
  have found : Catalog.helper? entry.name = some entry.run := by
    rw [Catalog.helper?, Catalog.find?_of_mem listed]
    rfl
  rw [find?_installCatalog, new, afterCatalog, found]
  rfl

end Stencil
