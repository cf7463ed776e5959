import Mathlib.Data.List.Induction
import Stencil.Extraction.Summary
import Stencil.Proofs.CoveredTemplates

set_option autoImplicit false

/-!
What is known about variables. The table of a template's references holds each of its variables once, in
order of their first references, with what the references to it say, one merged after the other
(`observations_eq_map`).
-/

namespace Stencil.Extraction

/-! ### Names in order -/

theorem addName_of_mem {names : List String} {name : String} (member : name ∈ names) :
    addName names name = names := by
  rw [addName, if_pos (List.contains_iff_mem.mpr member)]

theorem addName_of_not_mem {names : List String} {name : String} (new : name ∉ names) :
    addName names name = names ++ [name] := by
  rw [addName, if_neg (fun known => new (List.contains_iff_mem.mp known))]

theorem distinctNames_append_singleton (names : List String) (name : String) :
    distinctNames (names ++ [name]) = addName (distinctNames names) name := by
  rw [distinctNames, List.foldl_append]
  rfl

/-- Names that occur again add nothing. -/
theorem foldl_addName_distinctNames (names : List String) : ∀ known,
    (distinctNames names).foldl addName known = names.foldl addName known := by
  induction names using List.reverseRecOn with
  | nil => exact fun _ => rfl
  | append_singleton names name ih =>
    intro known
    rw [distinctNames_append_singleton, List.foldl_append, List.foldl_cons, List.foldl_nil]
    by_cases member : name ∈ names
    · rw [addName_of_mem (mem_distinctNames.mpr member), ih,
        addName_of_mem (mem_foldl_addName.mpr (Or.inr member))]
    · rw [addName_of_not_mem (fun known => member (mem_distinctNames.mp known)), List.foldl_append, ih]
      rfl

/-- Duplicates may be removed part by part first. -/
theorem distinctNames_flatMap {α : Type} (parts : List α) (names : α → List String) :
    distinctNames (parts.flatMap fun part => distinctNames (names part)) =
      distinctNames (parts.flatMap names) := by
  suffices ∀ known, (parts.flatMap fun part => distinctNames (names part)).foldl addName known =
      (parts.flatMap names).foldl addName known from this []
  induction parts with
  | nil => exact fun _ => rfl
  | cons part parts ih =>
    intro known
    rw [List.flatMap_cons, List.flatMap_cons, List.foldl_append, List.foldl_append,
      foldl_addName_distinctNames, ih]

theorem extract_precise_iff (source : String) :
    (extract source).precision = .precise ↔ ∃ template, Template.read source = .ok template := by
  unfold extract
  cases Template.read source with
  | ok template => simp
  | error error =>
    simp only [reduceCtorEq, exists_false, iff_false]
    split
    · simp
    · simp

/-! ### Observations -/

/-- What the references to a variable say, in order. -/
def observationsOf (name : String) (references : List Reference) : List Observation :=
  (references.filter fun reference => baseVariable? reference.raw == some name).map Observation.of

/-- What observations say together: their shapes, one merged after the other, and whether each of them is
exact. -/
def Observation.merged (seen : List Observation) : Observation :=
  ⟨(seen.map Observation.shape).foldl Shape.merge .any, seen.all Observation.exact⟩

theorem Observation.merged_append_singleton (seen : List Observation) (last : Observation) :
    merged (seen ++ [last]) = (merged seen).combine last := by
  simp [merged, combine]

section

variable {name : String} {references : List Reference} {reference : Reference}

theorem observationsOf_append_of_eq (references : List Reference)
    (base : baseVariable? reference.raw = some name) :
    observationsOf name (references ++ [reference]) =
      observationsOf name references ++ [Observation.of reference] := by
  simp [observationsOf, base]

theorem observationsOf_append_of_ne (other : baseVariable? reference.raw ≠ some name) :
    observationsOf name (references ++ [reference]) = observationsOf name references := by
  simp [observationsOf, other]

theorem mem_variablesOf :
    name ∈ variablesOf references ↔
      ∃ reference ∈ references, baseVariable? reference.raw = some name := by
  rw [variablesOf, mem_distinctNames, List.mem_filterMap]

/-- Nothing is known about a name that is no variable. -/
theorem observationsOf_eq_nil (unknown : name ∉ variablesOf references) :
    observationsOf name references = [] := by
  rw [observationsOf, List.map_eq_nil_iff, List.filter_eq_nil_iff]
  intro reference member base
  exact unknown (mem_variablesOf.mpr ⟨reference, member, by simpa using base⟩)

theorem variablesOf_append_of_none (none : baseVariable? reference.raw = none) :
    variablesOf (references ++ [reference]) = variablesOf references := by
  simp [variablesOf, none]

theorem variablesOf_append_of_some (base : baseVariable? reference.raw = some name) :
    variablesOf (references ++ [reference]) = addName (variablesOf references) name := by
  rw [variablesOf, List.filterMap_append]
  simp only [List.filterMap_cons, base, List.filterMap_nil]
  exact distinctNames_append_singleton _ name

end

/-- The table holds each variable once, with all that its references say. -/
theorem observations_eq_map (references : List Reference) : observations references =
    (variablesOf references).map fun name =>
      (name, Observation.merged (observationsOf name references)) := by
  induction references using List.reverseRecOn with
  | nil => rfl
  | append_singleton references reference ih =>
    rw [observations, List.foldl_append, List.foldl_cons, List.foldl_nil]
    rw [show references.foldl observe [] = observations references from rfl, ih, observe]
    cases base : baseVariable? reference.raw with
    | none =>
      dsimp only
      rw [variablesOf_append_of_none base]
      refine List.map_congr_left fun other _ => ?_
      rw [observationsOf_append_of_ne (by simp [base])]
    | some name =>
      have others : ∀ other, other ≠ name → observationsOf other (references ++ [reference]) =
          observationsOf other references := by
        intro other differs
        refine observationsOf_append_of_ne ?_
        rw [base]
        exact fun same => differs (Option.some.inj same).symm
      have last := observationsOf_append_of_eq references base
      dsimp only
      rw [variablesOf_append_of_some base]
      have listed : ((variablesOf references).map fun name =>
          (name, Observation.merged (observationsOf name references))).any (·.1 == name) = true ↔
            name ∈ variablesOf references := by
        simp
      by_cases known : name ∈ variablesOf references
      · rw [if_pos (listed.mpr known), addName_of_mem known, List.map_map]
        refine List.map_congr_left fun other _ => ?_
        by_cases same : other = name
        · subst same
          simp [last, Observation.merged_append_singleton]
        · simp [same, others other same]
      · rw [if_neg (listed.not.mpr known), addName_of_not_mem known, List.map_append]
        congr 1
        · refine List.map_congr_left fun other member => ?_
          have differs : other ≠ name := fun same => known (same ▸ member)
          rw [others other differs]
        · rw [List.map_singleton, last, Observation.merged_append_singleton,
            observationsOf_eq_nil known]
          rfl

end Stencil.Extraction
