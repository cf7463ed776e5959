import Stencil.Proofs.HelperBinding

set_option autoImplicit false

/-!
Users' helpers and the catalog. A name is served by the user's helper that reached the engine last,
except where the catalog has a helper of the name and came to the engine after it
(`helper_of_latest`). A binding brings the catalog first, so this befalls only helpers that an engine
was given past the registries.
-/

namespace Stencil

/-- The user's helper that reached an engine last under a name, and whether the engine had the catalog
by then. -/
def latest? (engine : EngineId) (name : String) : List HelperEvent → Option (Helper × Bool)
  | [] => none
  | .bound id target :: past =>
    if target = engine ∧ name ∈ awaiting id engine past then
      (registered? id name past).map fun helper => (helper, true)
    else latest? engine name past
  | .attached target label helper :: past =>
    if target = engine ∧ label = name then some (helper, stocked engine past)
    else latest? engine name past
  | .emptied _ :: past => latest? engine name past
  | .registered _ _ _ :: past => latest? engine name past
  | .stocked _ :: past => latest? engine name past

section

variable {engine : EngineId} {name : String} {past : List HelperEvent} {helper : Helper}

theorem stocked_of_latest? (latest : latest? engine name past = some (helper, true)) :
    stocked engine past = true := by
  induction past with
  | nil => cases latest
  | cons event past ih =>
    cases event with
    | bound id target =>
      by_cases works : target = engine
      · simp [stocked, works]
      · have apart : ¬ (target = engine ∧ name ∈ awaiting id engine past) :=
          fun both => works both.1
        simp only [latest?, if_neg apart] at latest
        exact stocked_cons _ (ih latest)
    | attached target label other =>
      by_cases here : target = engine ∧ label = name
      · simp only [latest?, if_pos here, Option.some.injEq, Prod.mk.injEq] at latest
        exact stocked_cons _ latest.2
      · simp only [latest?, if_neg here] at latest
        exact stocked_cons _ (ih latest)
    | emptied other => exact stocked_cons _ (ih latest)
    | registered other label latest => exact stocked_cons _ (ih latest)
    | stocked target => exact stocked_cons _ (ih latest)

/-- What an engine has under a name, by the user's helper that reached it last. -/
def resolved? (stocked : Bool) (name : String) : Option (Helper × Bool) → Option Helper
  | some (helper, true) => some helper
  | some (helper, false) => afterCatalog (!stocked) name (some helper)
  | none => afterCatalog (!stocked) name none

/-- The catalog takes the place of what came before it. -/
theorem afterCatalog_resolved? (engine : EngineId) (name : String) (past : List HelperEvent) :
    afterCatalog (stocked engine past) name
        (resolved? (stocked engine past) name (latest? engine name past)) =
      resolved? true name (latest? engine name past) := by
  cases latest : latest? engine name past with
  | none => cases stocked engine past <;> simp [resolved?, afterCatalog]
  | some entry =>
    obtain ⟨helper, late⟩ := entry
    cases late with
    | true =>
      have has := stocked_of_latest? latest
      simp [resolved?, afterCatalog, has]
    | false => cases stocked engine past <;> simp [resolved?, afterCatalog]

theorem served?_eq_resolved? (engine : EngineId) (name : String) (past : List HelperEvent) :
    served? engine name past = resolved? (stocked engine past) name (latest? engine name past) := by
  induction past with
  | nil => rfl
  | cons event past ih =>
    cases event with
    | emptied other => exact ih
    | registered other label helper => exact ih
    | bound id target =>
      by_cases works : target = engine
      · by_cases waits : name ∈ awaiting id engine past
        · obtain ⟨helper, found⟩ :=
            Option.isSome_iff_exists.mp (isSome_registered?_of_awaiting waits)
          simp [served?, latest?, works, waits, found, resolved?]
        · simp [served?, latest?, stocked, works, waits, ih, afterCatalog_resolved?]
      · simp [served?, latest?, stocked, works, ih]
    | attached target label helper =>
      by_cases here : target = engine ∧ label = name
      · cases has : stocked engine past <;>
          simp [served?, latest?, stocked, here, has, resolved?, afterCatalog]
      · simp only [served?, latest?, stocked, if_neg here, ih]
    | stocked target =>
      by_cases works : target = engine
      · simp [served?, latest?, stocked, works, ih, afterCatalog_resolved?]
      · simp [served?, latest?, stocked, works, ih]

/-- A helper that comes through a registry comes after the catalog. -/
theorem latest?_of_awaiting {id : RegistryId} (waits : name ∈ awaiting id engine past) :
    ∃ helper, registered? id name past = some helper ∧
      latest? engine name (.bound id engine :: past) = some (helper, true) := by
  obtain ⟨helper, found⟩ := Option.isSome_iff_exists.mp (isSome_registered?_of_awaiting waits)
  exact ⟨helper, found, by simp [latest?, waits, found]⟩

end

namespace Workspace

/-- After any requests, a name is served by the user's helper that reached the engine last, unless it
came before the catalog and the catalog has a helper of the name: then by the catalog's. A helper that
comes through a registry never comes before the catalog. -/
theorem helper_of_latest (engine : EngineId) (name : String) :
    (∀ requests helper late, latest? engine name (empty.history requests) = some (helper, late) →
      ∀ now, (((empty.after requests).engine engine).environment now).helper? name =
        if late = false ∧ stocked engine (empty.history requests) = true then
          (Catalog.helper? name).or (some helper)
        else some helper) ∧
    ∀ id past, name ∈ awaiting id engine past →
      ∃ helper, registered? id name past = some helper ∧
        latest? engine name (.bound id engine :: past) = some (helper, true) := by
  refine ⟨fun requests helper late latest now => ?_, fun id past => latest?_of_awaiting⟩
  have served := ((recorded_after requests).engine engine).helpers name
  rw [served?_eq_resolved?, latest] at served
  refine served.trans ?_
  cases late with
  | true => simp [resolved?]
  | false => cases stocked engine (empty.history requests) <;> simp [resolved?, afterCatalog]

/-- An engine gets a helper of the catalog's name `uppercase`, and then through a registry, as a
document is made, one of the name `add`. -/
def givenBefore : List Request :=
  [.openRegistry 1 (.other 1), .registerHelper (.other 1) "uppercase" (fun _ => .ok (.bool true)),
    .register (.scoped 1) "add" (fun _ => .ok (.bool true)) none,
    .create "t" "x" { Options.default with registry := some (.scoped 1) }]

/-- The former is replaced by the catalog's, the latter is not. -/
theorem helper_of_latest_given_before :
    ∃ helper, latest? (.other 1) "uppercase" (empty.history givenBefore) = some (helper, false) ∧
      ∀ now, (((empty.after givenBefore).engine (.other 1)).environment now).helper? "uppercase" =
          Catalog.helper? "uppercase" ∧
        (((empty.after givenBefore).engine (.other 1)).environment now).helper? "add" =
          some fun _ => .ok (.bool true) := by
  have early : latest? (.other 1) "uppercase" (empty.history givenBefore) =
      some (fun _ => .ok (.bool true), false) := rfl
  have late : latest? (.other 1) "add" (empty.history givenBefore) =
      some (fun _ => .ok (.bool true), true) := rfl
  have has : stocked (.other 1) (empty.history givenBefore) = true := by decide +kernel
  refine ⟨_, early, fun now => ⟨?_, ?_⟩⟩
  · rw [(helper_of_latest (.other 1) "uppercase").1 givenBefore _ _ early now, if_pos ⟨rfl, has⟩]
    rfl
  · rw [(helper_of_latest (.other 1) "add").1 givenBefore _ _ late now, if_neg (by simp)]

end Workspace

end Stencil
