import Stencil.Proofs.HelperRecords

set_option autoImplicit false

/-!
Binding a registry. If the helpers of an engine come through one registry and from the catalog alone,
what the registry has marked as bound to the engine is what the engine has; so after a binding the
engine has the helper that was registered last under each name (`bind_brings_last_registered`).
-/

namespace Stencil

namespace HelperEvent

/-- True for what brings an engine helpers that are neither those of a registry nor the catalog's. -/
def bypasses (id : RegistryId) (engine : EngineId) : HelperEvent → Bool
  | attached target _ _ => decide (target = engine)
  | bound other target => decide (target = engine) && decide (other ≠ id)
  | emptied _ => false
  | registered _ _ _ => false
  | stocked _ => false

end HelperEvent

/-- True if the helpers of an engine come through a registry and from the catalog alone. -/
def OnlyThrough (id : RegistryId) (engine : EngineId) (past : List HelperEvent) : Prop :=
  ∀ event ∈ past, event.bypasses id engine = false

instance (id : RegistryId) (engine : EngineId) (past : List HelperEvent) :
    Decidable (OnlyThrough id engine past) :=
  inferInstanceAs (Decidable (∀ event ∈ past, event.bypasses id engine = false))

section

variable {id : RegistryId} {engine : EngineId} {name : String} {event : HelperEvent}
  {past : List HelperEvent} {helper : Helper}

/-- What is registered and awaited no longer was so before, unless the event is the binding. -/
theorem settled_cons (found : registered? id name (event :: past) = some helper)
    (settled : name ∉ awaiting id engine (event :: past)) :
    registered? id name past = some helper ∧
      (event = .bound id engine ∨ name ∉ awaiting id engine past) := by
  cases event with
  | emptied other =>
    by_cases same : other = id
    · simp [registered?, same] at found
    · simp only [registered?, if_neg same] at found
      simp only [awaiting, if_neg same] at settled
      exact ⟨found, Or.inr settled⟩
  | registered other label latest =>
    by_cases same : other = id
    · simp only [awaiting, if_pos same, List.mem_insert_iff, not_or] at settled
      have apart : ¬ (other = id ∧ label = name) := fun both => settled.1 both.2.symm
      simp only [registered?, if_neg apart] at found
      exact ⟨found, Or.inr settled.2⟩
    · have apart : ¬ (other = id ∧ label = name) := fun both => same both.1
      simp only [registered?, if_neg apart] at found
      simp only [awaiting, if_neg same] at settled
      exact ⟨found, Or.inr settled⟩
  | bound other target =>
    by_cases same : other = id ∧ target = engine
    · exact ⟨found, Or.inl (by rw [same.1, same.2])⟩
    · simp only [awaiting, if_neg same] at settled
      exact ⟨found, Or.inr settled⟩
  | attached target label latest => exact ⟨found, Or.inr settled⟩
  | stocked target => exact ⟨found, Or.inr settled⟩

theorem stocked_cons (event : HelperEvent) (has : stocked engine past = true) :
    stocked engine (event :: past) = true := by
  cases event <;> simp [stocked, has]

/-- An engine that does not await a registered name was bound, so it has the catalog. -/
theorem stocked_of_not_awaiting (found : registered? id name past = some helper)
    (settled : name ∉ awaiting id engine past) : stocked engine past = true := by
  induction past with
  | nil => cases found
  | cons event past ih =>
    obtain ⟨before, rfl | settled⟩ := settled_cons found settled
    · simp [stocked]
    · exact stocked_cons event (ih before settled)

/-- What a registry has and an engine does not await is what the engine has. -/
theorem served?_of_not_awaiting (only : OnlyThrough id engine past)
    (found : registered? id name past = some helper) (settled : name ∉ awaiting id engine past) :
    served? engine name past = some helper := by
  induction past with
  | nil => cases found
  | cons event past ih =>
    have here : event.bypasses id engine = false := only event List.mem_cons_self
    have rest : OnlyThrough id engine past :=
      fun other member => only other (List.mem_cons_of_mem _ member)
    obtain ⟨before, bound⟩ := settled_cons found settled
    by_cases waits : name ∈ awaiting id engine past
    · obtain rfl := bound.resolve_right fun settled => settled waits
      simp [served?, waits, before]
    · have held := ih rest before waits
      have has := stocked_of_not_awaiting before waits
      cases event with
      | emptied other => exact held
      | registered other label latest => exact held
      | bound other target =>
        by_cases works : target = engine
        · have own : other = id := by simpa [HelperEvent.bypasses, works] using here
          simp [served?, works, own, waits, afterCatalog, has, held]
        · simpa [served?, works] using held
      | attached target label latest =>
        have apart : target ≠ engine := by simpa [HelperEvent.bypasses] using here
        simpa [served?, apart] using held
      | stocked target => simp [served?, afterCatalog, has, held]

end

namespace Registry

/-- After a binding nothing is pending. -/
theorem pending_bind (registry : Registry) (id : EngineId) (engine : Engine) :
    (registry.bind id engine).1.pending id = [] := by
  refine List.filter_eq_nil_iff.mpr fun entry member => ?_
  have marked : (id, entry.1) ∈ (registry.bind id engine).1.bound := by
    by_cases bound : (id, entry.1) ∈ registry.bound
    · exact List.mem_append_right _ bound
    · have waits : entry ∈ registry.pending id := List.mem_filter.mpr ⟨member, by simpa using bound⟩
      exact List.mem_append_left _ (List.mem_map.mpr ⟨entry, waits, rfl⟩)
  simp [marked]

/-- Binding again brings nothing and changes nothing. -/
theorem bind_bind (registry : Registry) (id : EngineId) (engine : Engine) :
    (registry.bind id engine).1.bind id (registry.bind id engine).2.1 =
      ((registry.bind id engine).1, (registry.bind id engine).2.1, 0) := by
  have none := registry.pending_bind id engine
  have has : (registry.bind id engine).2.1.hasCatalog = true := by
    simp only [bind, Engine.foldl_registerHelper, Engine.hasCatalog_installCatalog]
  have stays : (registry.bind id engine).2.1.installCatalog = (registry.bind id engine).2.1 := by
    rw [Engine.installCatalog, if_pos has]
  generalize registry.bind id engine = result at none stays ⊢
  obtain ⟨registry, engine, count⟩ := result
  simp only at none stays ⊢
  simp [bind, none, stays]

end Registry

namespace Workspace

/-- Binding again at once leaves the whole workspace as it is. -/
theorem bindTo_bindTo (workspace : Workspace) (id : RegistryId) (engine : EngineId) :
    (workspace.bindTo id engine).2.bindTo id engine = (0, (workspace.bindTo id engine).2) := by
  have registry := workspace.registry_bindTo id engine id
  have target := workspace.engine_bindTo id engine engine
  have again := (workspace.registry id).bind_bind engine (workspace.engine engine)
  rw [if_pos rfl] at registry target
  rw [← registry, ← target] at again
  have kept : (workspace.bindTo id engine).2.setRegistry id
      ((workspace.bindTo id engine).2.registry id) = (workspace.bindTo id engine).2 := by
    have there : (workspace.bindTo id engine).2.registries.find? id =
        some ((workspace.bindTo id engine).2.registry id) := by
      rw [registry]
      exact Table.find?_put_self _ _ _
    rw [setRegistry, Table.put_of_find? there]
  have held : (workspace.bindTo id engine).2.setEngine engine
      ((workspace.bindTo id engine).2.engine engine) = (workspace.bindTo id engine).2 := by
    have there : (workspace.bindTo id engine).2.engines.find? engine =
        some ((workspace.bindTo id engine).2.engine engine) := by
      rw [target]
      exact Table.find?_put_self _ _ _
    rw [setEngine, Table.put_of_find? there]
  generalize (workspace.bindTo id engine).2 = next at again kept held ⊢
  simp only [bindTo, again, kept, held]

variable {workspace : Workspace} {past : List HelperEvent} {id : RegistryId} {engine : EngineId}

/-- What is marked as bound to an engine is registered, and the engine has it. -/
theorem Recorded.helper_of_bound (recorded : workspace.Recorded past)
    (only : OnlyThrough id engine past) {name : String}
    (marked : (engine, name) ∈ (workspace.registry id).bound) :
    ∃ helper, (workspace.registry id).helper? name = some helper ∧
      (workspace.engine engine).helpers.find? name = some helper := by
  obtain ⟨present, settled⟩ := ((recorded.registry id).bound engine name).mp marked
  obtain ⟨helper, found⟩ := Option.isSome_iff_exists.mp present
  refine ⟨helper, ?_, ?_⟩
  · rw [(recorded.registry id).helper?, found]
  · rw [(recorded.engine engine).helpers]
    exact served?_of_not_awaiting only found settled

/-- After a binding an engine has what the registry registered last. -/
theorem Recorded.helper_of_bindTo (recorded : workspace.Recorded past)
    (only : OnlyThrough id engine past) {name : String} {helper : Helper}
    (found : registered? id name past = some helper) :
    ((workspace.bindTo id engine).2.engine engine).helpers.find? name = some helper := by
  have bound := recorded.bindTo id engine
  have still : OnlyThrough id engine (.bound id engine :: past) := by
    intro event member
    rcases List.mem_cons.mp member with rfl | member
    · simp [HelperEvent.bypasses]
    · exact only event member
  rw [(bound.engine engine).helpers]
  exact served?_of_not_awaiting still found (by simp [awaiting])

/-- After any requests, what a registry has marked as bound to an engine is registered in it, and the
engine has the same helper. Binding counts the names that were registered after the last binding and
gives the engine the last helper of every name; binding again at once changes nothing. -/
theorem bind_brings_last_registered (id : RegistryId) (engine : EngineId) (requests : List Request)
    (only : OnlyThrough id engine (empty.history requests)) :
    (∀ name, (engine, name) ∈ ((empty.after requests).registry id).bound →
      ∃ helper, ((empty.after requests).registry id).helper? name = some helper ∧
        ((empty.after requests).engine engine).helpers.find? name = some helper) ∧
    ∀ target : Option EngineId,
      target.getD ((empty.after requests).registry id).engine = engine →
      ∃ next, (empty.after requests).answer (.bind id target) =
          (.bound (awaiting id engine (empty.history requests)).length, next) ∧
        (∀ name helper now, registered? id name (empty.history requests) = some helper →
          ((next.engine engine).environment now).helper? name = some helper) ∧
        next.answer (.bind id target) = (.bound 0, next) := by
  have recorded := recorded_after requests
  refine ⟨fun name marked => recorded.helper_of_bound only marked, fun target works => ?_⟩
  have count : ((empty.after requests).bindTo id engine).1 =
      (awaiting id engine (empty.history requests)).length :=
    (recorded.registry id).length_pending engine
  have still : target.getD (((empty.after requests).bindTo id engine).2.registry id).engine =
      engine := by
    rw [registry_bindTo, if_pos rfl]
    exact works
  refine ⟨((empty.after requests).bindTo id engine).2, ?_, ?_, ?_⟩
  · rw [← count, answer, works]
  · intro name helper now found
    exact recorded.helper_of_bindTo only found
  · rw [answer, still, bindTo_bindTo]

/-- A helper of the catalog's name `add` is bound, forgotten and registered again as another. -/
def overriding : List Request :=
  [.openRegistry 1 (.other 1), .register (.scoped 1) "add" (fun _ => .ok (.bool false)) none,
    .create "t" "\x7b\x7badd 1\x7d\x7d" { Options.default with registry := some (.scoped 1) },
    .clearRegistry (.scoped 1), .register (.scoped 1) "add" (fun _ => .ok (.bool true)) none,
    .bind (.scoped 1) (some (.other 2))]

/-- The registry's own engine has the former helper until it is bound once more. -/
theorem bind_brings_last_registered_overriding :
    OnlyThrough (.scoped 1) (.other 1) (empty.history overriding) ∧
    ∃ next, (empty.after overriding).answer (.bind (.scoped 1) none) = (.bound 1, next) ∧
      (∀ now, ((next.engine (.other 1)).environment now).helper? "add" =
        some fun _ => .ok (.bool true)) ∧
      next.answer (.bind (.scoped 1) none) = (.bound 0, next) := by
  have only : OnlyThrough (.scoped 1) (.other 1) (empty.history overriding) := by decide +kernel
  have own : ((empty.after overriding).registry (.scoped 1)).engine = .other 1 := by decide +kernel
  have waiting : awaiting (.scoped 1) (.other 1) (empty.history overriding) = ["add"] := by
    decide +kernel
  obtain ⟨next, first, helpers, again⟩ :=
    (bind_brings_last_registered (.scoped 1) (.other 1) overriding only).2 none own
  rw [waiting] at first
  exact ⟨only, next, first, fun now => helpers "add" _ now rfl, again⟩

end Workspace

end Stencil
