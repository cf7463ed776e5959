import Stencil.Proofs.DocumentKeys

set_option autoImplicit false

/-!
Handles. When a handle gets another document or none, the one that it had is released if no other handle
holds it, so the documents that are alive are those that are held.
-/

namespace Stencil.Workspace

variable {workspace next : Workspace} {alive : Document → Prop}

/-! ### Holding and dropping documents -/

/-- Gives a handle another document or none. -/
def rebind (workspace : Workspace) (handle : String) (document : Option Document) : Workspace :=
  { workspace with documents :=
      match document with
      | some document => workspace.documents.put handle document
      | none => workspace.documents.erase handle }

/-- Gives a handle another document or none, and releases the one that it had. -/
def replace (workspace : Workspace) (handle : String) (document : Option Document) : Workspace :=
  (workspace.rebind handle document).releaseAll (workspace.documents.find? handle)

theorem hold_eq_replace (workspace : Workspace) (handle : String) (document : Document) :
    workspace.hold handle document = workspace.replace handle (some document) := rfl

theorem drop_eq_replace (workspace : Workspace) (handle : String) :
    workspace.drop handle = workspace.replace handle none := rfl

theorem find?_rebind (workspace : Workspace) (handle other : String) (document : Option Document) :
    (workspace.rebind handle document).documents.find? other =
      if other = handle then document else workspace.documents.find? other := by
  by_cases same : other = handle
  · subst same
    rw [if_pos rfl]
    cases document with
    | some document => exact Table.find?_put_self _ _ _
    | none => exact Table.find?_erase_self _ _
  · rw [if_neg same]
    cases document with
    | some document => exact Table.find?_put_of_ne _ same document
    | none => exact Table.find?_erase_of_ne _ same

theorem nodup_rebind (nodup : workspace.documents.keys.Nodup) (handle : String)
    (document : Option Document) : (workspace.rebind handle document).documents.keys.Nodup := by
  cases document with
  | some document => exact Table.nodup_put nodup handle document
  | none => exact Table.nodup_erase nodup handle

theorem holds_iff (nodup : workspace.documents.keys.Nodup) (document : Document) :
    workspace.holds document = true ↔ ∃ other, workspace.Held other ∧
      other.engine = document.engine ∧ other.key = document.key := by
  simp only [holds, List.any_eq_true, Bool.and_eq_true, decide_eq_true_eq]
  constructor
  · rintro ⟨⟨handle, other⟩, member, same⟩
    exact ⟨other, ⟨handle, Table.find?_of_mem nodup member⟩, same⟩
  · rintro ⟨other, ⟨handle, found⟩, same⟩
    exact ⟨(handle, other), Table.mem_of_find? found, same⟩

theorem release_of_held {document : Document} (held : workspace.holds document = true) :
    workspace.release document = workspace := if_pos held

theorem template?_unregister (workspace : Workspace) (id engine : EngineId) (key name : String) :
    (workspace.setEngine id ((workspace.engine id).unregisterTemplate key)).template? engine name =
      if engine = id ∧ name = key then none else workspace.template? engine name := by
  rw [template?_setEngine]
  by_cases here : engine = id
  · by_cases named : name = key
    · rw [if_pos here, if_pos ⟨here, named⟩, named]
      exact Table.find?_erase_self _ _
    · rw [if_pos here, if_neg fun both => named both.2, here]
      exact Table.find?_erase_of_ne _ named
  · rw [if_neg here, if_neg fun both => here both.1]

/-- Releasing takes away the template under the key, if no handle is left. -/
theorem template?_release {document : Document} (free : workspace.holds document = false)
    (engine : EngineId) (name : String) : (workspace.release document).template? engine name =
      if engine = document.engine ∧ name = document.key then none
      else workspace.template? engine name := by
  have released : workspace.release document = workspace.setEngine document.engine
      ((workspace.engine document.engine).unregisterTemplate document.key) := by
    rw [release, free]
    rfl
  rw [released, template?_unregister]

theorem documents_release (workspace : Workspace) (document : Document) :
    (workspace.release document).documents = workspace.documents := by
  unfold release
  split
  · rfl
  · rfl

theorem made_release (workspace : Workspace) (document : Document) :
    (workspace.release document).made = workspace.made := by
  unfold release
  split
  · rfl
  · rfl

theorem Registered.congr (registered : workspace.Registered alive) {others : Document → Prop}
    (same : ∀ document, others document ↔ alive document) : workspace.Registered others := by
  have equal : others = alive := funext fun document => propext (same document)
  rw [equal]
  exact registered

/-- Releasing a document that may have lost its last handle. -/
theorem Registered.release (registered : workspace.Registered alive)
    (nodup : workspace.documents.keys.Nodup) {document : Document} (lives : alive document)
    (held : ∀ other, workspace.Held other → alive other)
    (rest : ∀ other, alive other → workspace.Held other ∨ other = document) :
    (workspace.release document).Registered (workspace.release document).Held := by
  have same : (workspace.release document).Held = workspace.Held := by
    unfold Held
    rw [documents_release]
  rw [same]
  cases holds : workspace.holds document with
  | true =>
    rw [release_of_held holds]
    obtain ⟨other, isHeld, _, key⟩ := (holds_iff nodup document).mp holds
    have still : workspace.Held document := by
      rw [← registered.distinct other document (held other isHeld) lives key]
      exact isHeld
    refine registered.congr fun other => ⟨held other, fun live => ?_⟩
    rcases rest other live with isHeld | rfl
    · exact isHeld
    · exact still
  | false =>
    have gone : ¬ workspace.Held document := by
      intro isHeld
      have holding := (holds_iff nodup document).mpr ⟨document, isHeld, rfl, rfl⟩
      rw [holds] at holding
      cases holding
    constructor
    · intro other isHeld
      have apart : other.key ≠ document.key := by
        intro key
        obtain rfl := registered.distinct other document (held other isHeld) lives key
        exact gone isHeld
      rw [template?_release holds, if_neg fun both => apart both.2]
      exact registered.compiled other (held other isHeld)
    · rw [made_release]
      exact fun other isHeld => registered.numbered other (held other isHeld)
    · exact fun first second left right =>
        registered.distinct first second (held first left) (held second right)
    · intro engine name isKey present
      rw [template?_release holds] at present
      by_cases here : engine = document.engine ∧ name = document.key
      · rw [if_pos here] at present
        exact absurd rfl present
      · rw [if_neg here] at present
        obtain ⟨other, live, place⟩ := registered.only engine name isKey present
        rcases rest other live with isHeld | rfl
        · exact ⟨other, isHeld, place⟩
        · exact absurd ⟨place.1.symm, place.2.symm⟩ here

theorem Registered.of_documents (registered : workspace.Registered alive)
    (documents : Table String Document) : Registered { workspace with documents } alive :=
  ⟨registered.compiled, registered.numbered, registered.distinct, registered.only⟩

/-- A document comes to a handle, or none does, in the place of the one that had the handle. -/
theorem Registered.replace {document : Option Document}
    (registered : workspace.Registered fun other => workspace.Held other ∨ document = some other)
    (nodup : workspace.documents.keys.Nodup) (handle : String) :
    (workspace.replace handle document).Registered (workspace.replace handle document).Held := by
  have changed : (workspace.rebind handle document).Registered fun other =>
      workspace.Held other ∨ document = some other := registered.of_documents _
  have held : ∀ other, (workspace.rebind handle document).Held other →
      workspace.Held other ∨ document = some other := by
    rintro other ⟨place, found⟩
    rw [find?_rebind] at found
    split at found
    · exact Or.inr found
    · exact Or.inl ⟨place, found⟩
  have rest : ∀ other, workspace.Held other ∨ document = some other →
      (workspace.rebind handle document).Held other ∨
        workspace.documents.find? handle = some other := by
    rintro other (⟨place, found⟩ | same)
    · by_cases here : place = handle
      · exact Or.inr (here ▸ found)
      · exact Or.inl ⟨place, by rw [find?_rebind, if_neg here, found]⟩
    · exact Or.inl ⟨handle, by rw [find?_rebind, if_pos rfl, same]⟩
  unfold Workspace.replace
  cases old : workspace.documents.find? handle with
  | none =>
    refine changed.congr fun other => ⟨held other, fun live => ?_⟩
    rcases rest other live with isHeld | gone
    · exact isHeld
    · rw [old] at gone
      cases gone
  | some former =>
    refine changed.release (nodup_rebind nodup handle document) (Or.inl ⟨handle, old⟩) held ?_
    intro other live
    rcases rest other live with isHeld | gone
    · exact Or.inl isHeld
    · rw [old] at gone
      exact Or.inr (Option.some.inj gone).symm

theorem documents_releaseAll (workspace : Workspace) (document : Option Document) :
    (workspace.releaseAll document).documents = workspace.documents := by
  cases document with
  | none => rfl
  | some document => exact documents_release workspace document

theorem find?_replace (workspace : Workspace) (handle other : String) (document : Option Document) :
    (workspace.replace handle document).documents.find? other =
      if other = handle then document else workspace.documents.find? other := by
  unfold replace
  rw [documents_releaseAll, find?_rebind]

end Stencil.Workspace
