import Stencil.Extraction.Walk
import Stencil.Proofs.CallArguments

set_option autoImplicit false

/-!
The walk over a template. A walker that has passed an element is where it was before it, with the same
names and the same count put up, and has seen the references of the element in its surroundings
(`walkElement_eq`). So the references of a template are those in the outermost surroundings
(`references_eq`).
-/

namespace Stencil.Extraction

open Template (Operand Argument Expression Element)

namespace Walker

/-- The surroundings that a walker has come to. -/
def around (walker : Walker) : Surroundings := ⟨walker.scopes.flatten, decide (0 < walker.shifts)⟩

/-- A walker at the same place that has seen more. -/
def saw (walker : Walker) (references : List Reference) : Walker :=
  { walker with seen := references.reverse ++ walker.seen }

variable (walker : Walker)

@[simp] theorem around_saw (references : List Reference) :
    (walker.saw references).around = walker.around := rfl

@[simp] theorem saw_nil : walker.saw [] = walker := rfl

@[simp] theorem saw_saw (first second : List Reference) :
    (walker.saw first).saw second = walker.saw (first ++ second) := by
  simp [saw]

theorem isLocal_eq_hides (raw : String) : walker.isLocal raw = walker.around.hides raw := by
  obtain ⟨scopes, shifts, seen⟩ := walker
  cases base : baseVariable? raw with
  | none => simp [isLocal, Surroundings.hides, base]
  | some name =>
    have named : scopes.any (·.contains name) = scopes.flatten.contains name := by
      induction scopes with
      | nil => rfl
      | cons scope scopes ih => simp_all
    cases scopes with
    | nil => simp [isLocal, Surroundings.hides, around, base]
    | cons scope scopes =>
      simp only [isLocal, Surroundings.hides, around, base, Option.any_some, named]
      rfl

theorem report_eq (raw : String) (role : Role) :
    walker.report raw role = walker.saw (walker.around.report raw role) := by
  unfold report Surroundings.report
  rw [isLocal_eq_hides]
  split <;> rfl

/-- The body of a block is walked in the surroundings inside of it. -/
theorem around_enter (block : String) (params : List String) :
    (walker.enter block params).around = walker.around.inside block params := by
  unfold enter around Surroundings.inside
  generalize Surroundings.shifting.contains block = shifts
  cases params <;> cases shifts <;> simp

/-- Behind the body of a block the walker is where it was before it. -/
theorem leave_enter (block : String) (params : List String) (references : List Reference) :
    ((walker.enter block params).saw references).leave block params = walker.saw references := by
  unfold enter leave saw
  generalize Surroundings.shifting.contains block = shifts
  cases params <;> cases shifts <;> simp

/-- Steps that see references each see all of them in order. -/
theorem foldl_saw {α : Type} (step : α → Walker → Walker) (seen : Surroundings → α → List Reference)
    {items : List α}
    (each : ∀ item ∈ items, ∀ walker, step item walker = walker.saw (seen walker.around item)) :
    items.foldl (fun walker item => step item walker) walker =
      walker.saw (items.map (seen walker.around)).flatten := by
  induction items generalizing walker with
  | nil => rfl
  | cons item items ih =>
    rw [List.foldl_cons, each item List.mem_cons_self,
      ih _ fun other member => each other (List.mem_cons_of_mem _ member)]
    simp

end Walker

theorem argumentSteps_eq_map (role : Role) (arguments : List Argument) :
    argumentSteps role arguments =
      arguments.map fun argument => (argument.1, walkOperand role argument.2) := by
  induction arguments with
  | nil => rfl
  | cons argument arguments ih => rw [argumentSteps, ih, List.map_cons]

/-- Arguments are passed in order if each of them is passed. -/
theorem takeAll_eq {role : Role} {arguments : List Argument}
    (each : ∀ argument ∈ arguments, ∀ walker : Walker,
      walkOperand role argument.2 walker =
        walker.saw (operandReferences walker.around role argument.2)) (walker : Walker) :
    Walker.takeAll (argumentSteps role arguments) walker =
      walker.saw (inOrder (argumentReferences walker.around role arguments)).flatten := by
  rw [argumentSteps_eq_map, argumentReferences_eq_map, Walker.takeAll, inOrder_map, inOrder_map,
    List.foldl_map]
  refine walker.foldl_saw (walkOperand role) (fun around => operandReferences around role)
    fun operand member walker => ?_
  obtain ⟨key, member⟩ := exists_of_mem_inOrder member
  exact each (key, operand) member walker

mutual

theorem walkOperand_eq (role : Role) : ∀ (operand : Operand) (walker : Walker),
    walkOperand role operand walker = walker.saw (operandReferences walker.around role operand)
  | .literal _, _ => rfl
  | .word name, walker => walker.report_eq name role
  | .path path, walker => walker.report_eq path.raw role
  | .call _ arguments, walker => takeAll_eq (walkOperand_eq_of_mem .argument arguments) walker

theorem walkOperand_eq_of_mem (role : Role) : ∀ arguments : List Argument,
    ∀ argument ∈ arguments, ∀ walker : Walker, walkOperand role argument.2 walker =
      walker.saw (operandReferences walker.around role argument.2)
  | [], _, member => absurd member List.not_mem_nil
  | (_, operand) :: arguments, argument, member => by
    rcases List.mem_cons.mp member with rfl | member
    · exact walkOperand_eq role operand
    · exact walkOperand_eq_of_mem role arguments argument member

end

theorem walkArguments_eq (role : Role) (expression : Expression) (walker : Walker) :
    walkArguments role expression walker =
      walker.saw (expressionReferences walker.around role expression) :=
  takeAll_eq (walkOperand_eq_of_mem role expression.arguments) walker

theorem walkValue_eq (expression : Expression) (walker : Walker) :
    walkValue expression walker = walker.saw (valueReferences walker.around expression) := by
  unfold walkValue valueReferences
  split
  · cases expression.head.name? with
    | none => rfl
    | some raw => exact walker.report_eq raw .value
  · exact walkArguments_eq .argument expression walker

mutual

/-- A walker stays where it is, and has then seen the references of what it has passed. -/
theorem walkElement_eq : ∀ (element : Element) (walker : Walker),
    walkElement element walker = walker.saw (elementReferences walker.around element)
  | .value expression, walker => walkValue_eq expression walker
  | .block expression params _ body inverse, walker => by
    rw [walkElement, walkArguments_eq, walkElements_eq body, Walker.leave_enter,
      walkElements_eq inverse, Walker.around_enter]
    simp [elementReferences]
  | .inclusionBlock _ _ body, walker => walkElements_eq body walker
  | .decorationBlock _ body, walker => walkElements_eq body walker
  | .text _, _ => rfl
  | .inclusion _ _ _, _ => rfl
  | .decoration _, _ => rfl
  | .comment _, _ => rfl

theorem walkElements_eq : ∀ (elements : List Element) (walker : Walker),
    walkElements elements walker = walker.saw (templateReferences walker.around elements)
  | [], _ => rfl
  | element :: elements, walker => by
    rw [walkElements, walkElement_eq element, walkElements_eq elements, templateReferences]
    simp

end

/-- The references of a template are those outside of all blocks. -/
theorem references_eq (template : Template) :
    references template = templateReferences Surroundings.outermost template := by
  rw [references, walkElements_eq]
  simp only [Walker.saw, Walker.start, List.append_nil, List.reverse_reverse]
  rfl

end Stencil.Extraction
