import Stencil.Proofs.ReferenceScopes

set_option autoImplicit false

/-!
The three reports on a source. Its inferred shapes, its extracted variables and its metadata are about
the same variables in the same order. Nothing is known of their shapes just if the source has no reading;
if it has one, a variable's shape is known precisely just if each occurrence that is reported shows it
(`reports_agree`).
-/

namespace Stencil.Extraction

/-- True where a path shows the shape of its variable: it is written as a value, iterated over or entered,
and it is read from the data of the template. -/
structure Occurrence.ShowsShape (occurrence : Occurrence) : Prop where
  role : occurrence.role = .value ∨ occurrence.role = .blockArgument "each" ∨
    occurrence.role = .blockArgument "with"
  unshifted : ¬ occurrence.Shifted

/-- True if each occurrence of a variable that is reported shows its shape. -/
def ShapeShown (template : Template) (name : String) : Prop :=
  ∀ occurrence : Occurrence, occurrence.In template → ¬ occurrence.Bound →
    baseVariable? occurrence.raw = some name → occurrence.ShowsShape

/-- An observation is exact for a value, an iteration and an entered context in the outermost one. -/
theorem exact_of_iff (reference : Reference) :
    (Observation.of reference).exact = true ↔
      (reference.role = .value ∨ reference.role = .blockArgument "each" ∨
        reference.role = .blockArgument "with") ∧ reference.shifted = false := by
  obtain ⟨raw, role, shifted⟩ := reference
  unfold Observation.of
  dsimp only
  split
  · simp
  · simp
  · simp
  · rename_i block each enters
    have other : Role.blockArgument block ≠ .blockArgument "each" := by
      rintro ⟨⟩
      exact each rfl
    have another : Role.blockArgument block ≠ .blockArgument "with" := by
      rintro ⟨⟩
      exact enters rfl
    simp [other, another]
  · simp

theorem exact_merged_iff (template : Template) (name : String) :
    (Observation.merged (observationsOf name (references template))).exact = true ↔
      ShapeShown template name := by
  unfold ShapeShown
  simp only [Observation.merged, List.all_eq_true, observationsOf, List.mem_map, List.mem_filter,
    mem_references_iff, beq_iff_eq]
  constructor
  · intro all occurrence occurs free base
    have exact := all _ ⟨_, ⟨⟨occurrence, occurs, free, rfl⟩, base⟩, rfl⟩
    obtain ⟨role, unshifted⟩ := (exact_of_iff _).mp exact
    exact ⟨role, of_decide_eq_false unshifted⟩
  · rintro all _ ⟨reference, ⟨⟨occurrence, occurs, free, rfl⟩, base⟩, rfl⟩
    obtain ⟨role, unshifted⟩ := all occurrence occurs free base
    exact (exact_of_iff _).mpr ⟨role, decide_eq_false unshifted⟩

theorem inferShapes_of_read {source : String} {template : Template}
    (done : Template.read source = .ok template) : inferShapes source =
      (variablesOf (references template)).map fun name =>
        (name, (Observation.merged (observationsOf name (references template))).inference) := by
  rw [inferShapes, done]
  dsimp only
  rw [observations_eq_map, List.map_map]
  rfl

theorem inferShapes_of_error {source : String} {error : Template.SourceError}
    (failed : Template.read source = .error error) :
    inferShapes source = (scannedVariables source).map fun name => (name, .unknown) := by
  rw [inferShapes, failed]

/-- An inference is precise for an exact observation, approximate for another, and known for both. -/
theorem Observation.inference_iff (observation : Observation) :
    observation.inference ≠ .unknown ∧
      ((∃ shape, observation.inference = .precise shape) ↔ observation.exact = true) ∧
      ((∃ shape, observation.inference = .approximate shape) ↔ ¬ observation.exact = true) := by
  unfold inference
  split
  · rename_i exact
    simp [exact]
  · rename_i inexact
    simp [inexact]

theorem names_inferShapes (source : String) :
    (inferShapes source).map Prod.fst = (extract source).names := by
  cases read : Template.read source with
  | ok template =>
    rw [inferShapes_of_read read, extract, read, List.map_map]
    exact List.map_id _
  | error error =>
    rw [inferShapes_of_error read, extract, read, List.map_map]
    exact List.map_id _

/-- The three reports are about the same variables in the same order. No shape is known just if the
source has no reading. In a source with a reading the shape of a variable is known precisely if each
occurrence that is reported shows it, and approximately if not. -/
theorem reports_agree (source : String) :
    (inferShapes source).map Prod.fst = (extract source).names ∧
    (metadata source).names = (extract source).names ∧
    ((extract source).precision = .precise ↔ ∃ template, Template.read source = .ok template) ∧
    (∀ entry ∈ inferShapes source, entry.2 = .unknown ↔ (extract source).precision ≠ .precise) ∧
    ∀ template, Template.read source = .ok template → ∀ entry ∈ inferShapes source,
      ((∃ shape, entry.2 = .precise shape) ↔ ShapeShown template entry.1) ∧
        ((∃ shape, entry.2 = .approximate shape) ↔ ¬ ShapeShown template entry.1) := by
  refine ⟨names_inferShapes source, rfl, extract_precise_iff source, ?_, ?_⟩
  · rintro entry member
    rw [ne_eq, extract_precise_iff]
    cases read : Template.read source with
    | ok template =>
      rw [inferShapes_of_read read] at member
      obtain ⟨name, _, rfl⟩ := List.mem_map.mp member
      have known := (Observation.merged (observationsOf name (references template))).inference_iff.1
      simp [known]
    | error error =>
      rw [inferShapes_of_error read] at member
      obtain ⟨name, _, rfl⟩ := List.mem_map.mp member
      simp
  · intro template read entry member
    rw [inferShapes_of_read read] at member
    obtain ⟨name, _, rfl⟩ := List.mem_map.mp member
    dsimp only
    rw [← exact_merged_iff template name]
    exact (Observation.inference_iff _).2

end Stencil.Extraction
