import Mathlib.Data.List.DropRight
import Mathlib.Data.List.Induction
import Mathlib.Data.List.ReduceOption
import Stencil.Draft

set_option autoImplicit false

/-!
What a draft comes to. Each step of writing emits fragments and cuts; a source that is built is laid out
from what the steps since the last clearing have emitted (`layout`), whatever was built before
(`built_as_laid_out`).
-/

namespace Stencil

namespace DraftStep

def isClear : DraftStep → Bool
  | clear => true
  | _ => false

/-- The fragments that a step emits; `none` is a cut. -/
def emitted : DraftStep → List (Option String)
  | endSection => [none]
  | add fragment =>
    if fragment.isHeading then [none, some fragment.written] else [some fragment.written]
  | addWhen condition text => if condition then [some text] else []
  | choose condition text alternative => [some (if condition then text else alternative)]
  | each lines => if lines.isEmpty then [] else [some (Fragment.stack lines)]
  | clear => []

end DraftStep

/-- A call while a draft is written: a step, or a look at the source so far. -/
inductive DraftCall where
  | write (step : DraftStep)
  | build

namespace Draft

/-! ### The layout -/

/-- The steps after the last clearing. -/
def standing (steps : List DraftStep) : List DraftStep := steps.rtakeWhile fun step => !step.isClear

/-- Fragments between two cuts; cuts without a fragment between them are as good as one. -/
def groups (fragments : List (Option String)) : List (List String) :=
  ((fragments.splitOn none).map List.reduceOption).filter fun group => !group.isEmpty

/-- The source that steps come to: a line break between the fragments of a group, a blank line between
two groups. -/
def layout (steps : List DraftStep) : String :=
  "\n\n".intercalate ((groups ((standing steps).flatMap DraftStep.emitted)).map Fragment.stack)

/-! ### Writing -/

/-- The draft after some steps. -/
def ofSteps (steps : List DraftStep) : Draft := steps.foldl step empty

/-- The sources that are built while calls are made. -/
def built (draft : Draft) : List DraftCall → List String
  | [] => []
  | .write step :: calls => (draft.step step).built calls
  | .build :: calls => draft.source :: draft.built calls

/-- For each look at the source the steps made before it; the first ones are given. -/
def histories (steps : List DraftStep) : List DraftCall → List (List DraftStep)
  | [] => []
  | .write step :: calls => histories (steps ++ [step]) calls
  | .build :: calls => steps :: histories steps calls

def put (draft : Draft) : Option String → Draft
  | none => draft.endSection
  | some text => draft.push text

variable {draft : Draft} {step : DraftStep}

/-- A step puts what it emits. -/
theorem step_eq_foldl_put (kept : step.isClear = false) :
    draft.step step = step.emitted.foldl put draft := by
  cases step with
  | endSection => rfl
  | add fragment =>
    by_cases heading : fragment.isHeading = true
    · simp [Draft.step, add, DraftStep.emitted, heading, put]
    · simp [Draft.step, add, DraftStep.emitted, heading, put]
  | addWhen condition text => cases condition <;> rfl
  | choose condition text alternative => rfl
  | each lines => cases lines <;> rfl
  | clear => cases kept

theorem foldl_step_eq_foldl_put (steps : List DraftStep) (draft : Draft)
    (kept : ∀ step ∈ steps, step.isClear = false) :
    steps.foldl Draft.step draft = (steps.flatMap DraftStep.emitted).foldl put draft := by
  induction steps generalizing draft with
  | nil => rfl
  | cons first steps ih =>
    obtain ⟨here, further⟩ := List.forall_mem_cons.mp kept
    rw [List.foldl_cons, List.flatMap_cons, List.foldl_append, step_eq_foldl_put here, ih _ further]

/-- What was written before the last clearing is gone. -/
theorem ofSteps_standing (steps : List DraftStep) : ofSteps (standing steps) = ofSteps steps := by
  induction steps using List.reverseRecOn with
  | nil => rfl
  | append_singleton steps step ih =>
    rw [standing, List.rtakeWhile_concat]
    cases clears : step.isClear with
    | true =>
      have same : step = .clear := by cases step <;> first | rfl | cases clears
      rw [same, ofSteps, ofSteps, List.foldl_append]
      rfl
    | false =>
      rw [if_pos (by simp), ← standing, ofSteps, ofSteps, List.foldl_append, List.foldl_append,
        ← ofSteps, ← ofSteps, ih]

theorem isClear_of_mem_standing {steps : List DraftStep} :
    ∀ step ∈ standing steps, step.isClear = false := by
  intro step member
  simpa using List.mem_rtakeWhile_imp member

/-! ### Groups -/

theorem reduceOption_map_some (texts : List String) : (texts.map some).reduceOption = texts := by
  induction texts with
  | nil => rfl
  | cons text texts ih => rw [List.map_cons, List.reduceOption_cons_of_some, ih]

theorem groups_texts (texts : List String) :
    groups (texts.map some) = if texts.isEmpty then [] else [texts] := by
  have uncut : (texts.map some).splitOn none = [texts.map some] :=
    List.splitOn_eq_singleton (by simp)
  rw [groups, uncut, List.map_singleton, reduceOption_map_some]
  cases texts <;> rfl

theorem groups_cut (texts : List String) (fragments : List (Option String)) :
    groups (texts.map some ++ none :: fragments) =
      if texts.isEmpty then groups fragments else texts :: groups fragments := by
  have first : (texts.map some ++ none :: fragments).splitOn none =
      texts.map some :: fragments.splitOn none :=
    List.splitOnP_append_cons_of_forall_mem (by simp) none rfl fragments
  rw [groups, first, List.map_cons, reduceOption_map_some]
  cases texts <;> rfl

/-- Ended sections stay as they are; the pending fragments begin the first group of those to come. -/
theorem allSections_foldl_put (fragments : List (Option String)) (draft : Draft) :
    (fragments.foldl put draft).allSections =
      draft.sections ++ (groups (draft.pending.map some ++ fragments)).map Fragment.stack := by
  induction fragments generalizing draft with
  | nil =>
    rw [List.append_nil, groups_texts]
    cases empty : draft.pending.isEmpty <;> simp [allSections, empty]
  | cons fragment fragments ih =>
    rw [List.foldl_cons, ih]
    cases fragment with
    | none =>
      rw [groups_cut]
      cases empty : draft.pending.isEmpty <;> simp [put, endSection, allSections, empty]
    | some text => simp [put, push]

theorem source_ofSteps (steps : List DraftStep) : (ofSteps steps).source = layout steps := by
  rw [← ofSteps_standing, ofSteps, foldl_step_eq_foldl_put _ _ isClear_of_mem_standing, source,
    allSections_foldl_put]
  rfl

theorem built_eq_map_histories (calls : List DraftCall) (steps : List DraftStep) :
    (ofSteps steps).built calls = (histories steps calls).map layout := by
  induction calls generalizing steps with
  | nil => rfl
  | cons call calls ih =>
    cases call with
    | write step =>
      have further : (ofSteps steps).step step = ofSteps (steps ++ [step]) := by
        rw [ofSteps, ofSteps, List.foldl_append]
        rfl
      rw [built, further, ih, histories]
    | build => rw [built, source_ofSteps, ih, histories, List.map_cons]

/-! ### Steps and calls without effect -/

theorem endSection_endSection (draft : Draft) : draft.endSection.endSection = draft.endSection := rfl

theorem source_endSection (draft : Draft) : draft.endSection.source = draft.source := rfl

/-- A step that leaves every draft as it is can be left out. -/
theorem ofSteps_without {step : DraftStep} (idle : ∀ draft : Draft, draft.step step = draft)
    (before after : List DraftStep) : ofSteps (before ++ step :: after) = ofSteps (before ++ after) := by
  rw [ofSteps, ofSteps, List.foldl_append, List.foldl_cons, idle, List.foldl_append]

theorem built_append (before : List DraftCall) (draft : Draft) : ∃ next : Draft,
    ∀ after, draft.built (before ++ after) = draft.built before ++ next.built after := by
  induction before generalizing draft with
  | nil => exact ⟨draft, fun _ => rfl⟩
  | cons call before ih =>
    cases call with
    | write step => exact ih (draft.step step)
    | build =>
      obtain ⟨next, splits⟩ := ih draft
      refine ⟨next, fun after => ?_⟩
      rw [List.cons_append, built, splits, built, List.cons_append]

/-- Every source that is built is the layout of the steps before it. So ending a section once more or at the
end, a text on a false condition and the lines for no items change nothing, what stands before a clearing is
forgotten, and looking at the source changes no later one. -/
theorem built_as_laid_out (calls : List DraftCall) :
    empty.built calls = (histories [] calls).map layout ∧
      (∀ steps, (ofSteps (steps ++ [.endSection])).source = (ofSteps steps).source) ∧
      (∀ before after, ofSteps (before ++ .endSection :: .endSection :: after) =
        ofSteps (before ++ .endSection :: after)) ∧
      (∀ before after text, ofSteps (before ++ .addWhen false text :: after) = ofSteps (before ++ after)) ∧
      (∀ (α : Type) (format : α → Nat → String) (before after : List DraftStep),
        ofSteps (before ++ .ofItems [] format :: after) = ofSteps (before ++ after)) ∧
      (∀ before after, ofSteps (before ++ .clear :: after) = ofSteps after) ∧
      ∀ before after, ∃ text later, empty.built (before ++ after) = empty.built before ++ later ∧
        empty.built (before ++ .build :: after) = empty.built before ++ text :: later := by
  refine ⟨built_eq_map_histories calls [], fun steps => ?_, fun before after => ?_,
    fun before after text => ?_, fun α format before after => ?_, fun before after => ?_,
    fun before after => ?_⟩
  · rw [ofSteps, List.foldl_append]
    exact source_endSection _
  · rw [ofSteps, ofSteps, List.foldl_append, List.foldl_append]
    exact congrArg (after.foldl step) (endSection_endSection _)
  · exact ofSteps_without (fun _ => rfl) before after
  · exact ofSteps_without (fun _ => rfl) before after
  · rw [ofSteps, List.foldl_append]
    rfl
  · obtain ⟨next, splits⟩ := built_append before empty
    exact ⟨next.source, next.built after, splits after, splits (.build :: after)⟩

/-- A section of empty texts is kept, one without texts is not. -/
example : layout [.add (.text ""), .endSection, .endSection, .add (.heading 1 "a"), .endSection] =
    "\n\n# a" := by decide

end Draft

end Stencil
