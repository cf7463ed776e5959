import Stencil.Proofs.CallArguments

set_option autoImplicit false

/-!
Rendering a template never fails because a template is not found: that error belongs to what looks a
template up by its name, and partials that are not found have an error of their own.
-/

namespace Stencil.Render

open Template (Operand Argument Expression Element)

/-- True for results that are not the error of a missing template. -/
def Located {α : Type} (result : Rendered α) : Prop :=
  ∀ name, result ≠ .error (.templateNotFound name)

section

variable {α β : Type}

theorem located_ok (value : α) : Located (.ok value) := by
  intro name failed
  cases failed

theorem Located.bind {result : Rendered α} {next : α → Rendered β} (first : Located result)
    (rest : ∀ value, Located (next value)) : Located (result >>= next) := by
  cases result with
  | ok value => exact rest value
  | error error =>
    intro name failed
    cases failed
    exact first name rfl

theorem Located.map {result : Rendered α} (first : Located result) (f : α → β) :
    Located (result.map f) := by
  cases result with
  | ok value => exact located_ok (f value)
  | error error =>
    intro name failed
    cases failed
    exact first name rfl

theorem located_mapM {values : List α} {f : α → Rendered β}
    (each : ∀ value ∈ values, Located (f value)) : Located (values.mapM f) := by
  induction values with
  | nil => exact located_ok []
  | cons value values ih =>
    rw [List.mapM_cons]
    refine (each value List.mem_cons_self).bind fun _ => ?_
    exact (ih fun other member => each other (List.mem_cons_of_mem _ member)).bind fun _ =>
      located_ok _

theorem located_foldlM {f : β → α → Rendered β} (each : ∀ state value, Located (f state value))
    (values : List α) : ∀ state, Located (values.foldlM f state) := by
  induction values with
  | nil => exact fun state => located_ok state
  | cons value values ih =>
    intro state
    rw [List.foldlM_cons]
    exact (each state value).bind ih

end

/-! ### Values -/

theorem located_step (value : Option Json) (name : String) : Located (step value name) := by
  unfold step
  split
  · split
    · exact located_ok _
    · intro other failed
      cases failed
  · exact located_ok _
  · exact located_ok _

theorem located_walk (value : Json) (names : List String) : Located (walk value names) :=
  located_foldlM located_step names (some value)

theorem located_resolve (data : Json) (scopes : List Scope) (path : Template.Path) :
    Located (resolve data scopes path) := by
  unfold resolve
  split
  · exact located_ok _
  · split
    split
    · split
      · exact located_walk _ _
      · exact located_walk _ _
    · exact located_walk _ _
    · exact located_walk _ _

variable (environment : Environment)

theorem located_runRegistered (helper : Helper) (name : String) (arguments : Arguments) :
    Located (runRegistered environment helper name arguments) := by
  unfold runRegistered
  split
  · exact located_ok _
  · intro other failed
    cases failed

theorem located_require (arguments : Arguments) (helper : String) (index : Nat) :
    Located (arguments.require helper index) := by
  unfold Arguments.require
  split
  · exact located_ok _
  · intro other failed
    cases failed

theorem located_checkLevel (arguments : Arguments) : Located (Builtin.checkLevel arguments) := by
  unfold Builtin.checkLevel
  split
  · split
    · exact located_ok _
    · intro other failed
      cases failed
  · exact located_ok _

theorem located_value (builtin : Builtin) (arguments : Arguments) :
    Located (builtin.value arguments) := by
  have empty : ∀ {α : Type} {result : Rendered α}, Located result →
      Located (do return Json.string (← result.map fun _ => "")) :=
    fun located => (located.map _).bind fun _ => located_ok _
  cases builtin with
  | ifTrue => exact empty (located_require _ _ _)
  | unlessTrue => exact empty (located_require _ _ _)
  | each => exact empty (located_require _ _ _)
  | withValue => exact empty (located_require _ _ _)
  | raw => exact located_ok _
  | log => exact empty (located_checkLevel _)
  | lookup =>
    exact (located_require _ _ _).bind fun _ => (located_require _ _ _).bind fun _ => located_ok _
  | len =>
    cases first : arguments.positional with
    | cons value others =>
      simp only [Builtin.value, first]
      exact located_ok _
    | nil =>
      simp only [Builtin.value, first]
      intro other failed
      cases failed

theorem located_callValue (name : String) (arguments : Arguments) :
    Located (callValue environment name arguments) := by
  unfold callValue
  split
  · exact located_runRegistered _ _ _ _
  · exact located_value _ _
  · split
    · exact located_runRegistered _ _ _ _
    · intro other failed
      cases failed

theorem located_gather {evaluated : List (Option String × Rendered Json)}
    (each : ∀ entry ∈ evaluated, Located entry.2) : Located (Arguments.gather evaluated) := by
  unfold Arguments.gather
  refine (located_mapM fun value member => ?_).bind fun _ =>
    (located_mapM fun entry member => ?_).bind fun _ => located_ok _
  · obtain ⟨⟨key, other⟩, found, same⟩ := List.mem_filterMap.mp member
    cases key with
    | none =>
      cases same
      exact each _ found
    | some key => cases same
  · exact (each _ (Template.mem_named member)).bind fun _ => located_ok _

mutual

theorem located_evaluate (data : Json) (scopes : List Scope) :
    ∀ operand : Operand, Located (evaluate environment data scopes operand)
  | .literal value => located_ok _
  | .path path => located_resolve data scopes path
  | .word _ => located_ok _
  | .call head arguments => by
    have named : Located (match head with
        | .word name => .ok name
        | .path path => .ok path.raw
        | head => (evaluate environment data scopes head).map fun value =>
          (value.getD .null).shown : Rendered String) := by
      have value := located_evaluate data scopes head
      split
      · exact located_ok _
      · exact located_ok _
      · exact value.map _
    unfold evaluate
    refine named.bind fun name => ?_
    refine (located_gather (located_evaluateArguments data scopes arguments)).bind fun found => ?_
    exact (located_callValue environment name found).bind fun _ => located_ok _

theorem located_evaluateArguments (data : Json) (scopes : List Scope) :
    ∀ arguments : List Argument,
      ∀ entry ∈ evaluateArguments environment data scopes arguments, Located entry.2
  | [], _, member => by cases member
  | (key, operand) :: arguments, entry, member => by
    unfold evaluateArguments at member
    rcases List.mem_cons.mp member with rfl | member
    · exact (located_evaluate data scopes operand).map _
    · exact located_evaluateArguments data scopes arguments entry member

end

theorem located_headName (data : Json) (scopes : List Scope) (head : Operand) :
    Located (headName environment data scopes head) := by
  unfold headName
  split
  · exact located_ok _
  · exact located_ok _
  · exact (located_evaluate environment data scopes _).map _

theorem located_evaluateExpression (data : Json) (scopes : List Scope) (expression : Expression) :
    Located (evaluateExpression environment data scopes expression) :=
  (located_headName environment data scopes _).bind fun _ =>
    (located_gather (located_evaluateArguments environment data scopes _)).bind fun _ =>
      located_ok _

/-! ### Parts -/

/-- True for a part that never fails with a missing template. -/
def LocatedPart (part : Part) : Prop := ∀ state, Located (part state)

theorem located_nothing : LocatedPart nothing := fun state => located_ok state

variable {body inverse : Part}

theorem located_renderRounds (params : List String) (inner : LocatedPart body)
    (rounds : List Round) : LocatedPart (renderRounds params body rounds) := by
  intro state
  have each : ∀ state round, Located (renderRound params body state round) :=
    fun state round => inner _
  exact (located_foldlM each rounds _).bind fun _ => located_ok _

theorem located_renderEach (params : List String) (inner : LocatedPart body)
    (outer : LocatedPart inverse) (value : Json) :
    LocatedPart (renderEach params body inverse value) := by
  intro state
  unfold renderEach
  split
  · exact located_renderRounds params inner _ state
  · exact located_renderRounds params inner _ state
  · exact outer state

theorem located_renderWith (params : List String) (inner : LocatedPart body)
    (outer : LocatedPart inverse) (value : Json) :
    LocatedPart (renderWith params body inverse value) := by
  intro state
  unfold renderWith
  split
  · exact (inner _).bind fun _ => located_ok _
  · exact outer state

theorem located_renderIf (positive : Bool) (inner : LocatedPart body) (outer : LocatedPart inverse)
    (arguments : Arguments) : LocatedPart (renderIf positive body inverse arguments) := by
  intro state
  refine (located_require _ _ _).bind fun value => ?_
  have either : ∀ chosen : Bool, Located (if chosen = true then body state else inverse state) := by
    intro chosen
    cases chosen with
    | true => exact inner state
    | false => exact outer state
  exact either _

theorem located_builtin (builtin : Builtin) (arguments : Arguments) (params : List String)
    (inner : LocatedPart body) (outer : LocatedPart inverse) :
    LocatedPart (builtin.render arguments params body inverse) := by
  intro state
  cases builtin with
  | ifTrue => exact located_renderIf true inner outer arguments state
  | unlessTrue => exact located_renderIf false inner outer arguments state
  | each =>
    exact (located_require _ _ _).bind fun value =>
      located_renderEach params inner outer value state
  | withValue =>
    exact (located_require _ _ _).bind fun value =>
      located_renderWith params inner outer value state
  | raw => exact inner state
  | log => exact (located_checkLevel _).bind fun _ => located_ok _
  | lookup => exact (located_value .lookup arguments).bind fun _ => located_ok _
  | len => exact (located_value .len arguments).bind fun _ => located_ok _

theorem located_runHelper {run : State → Rendered State} (located : LocatedPart run)
    (indented : Bool) : LocatedPart fun state => state.runHelper indented run :=
  fun _ => (located _).bind fun _ => located_ok _

theorem located_runPartial {run : State → Rendered State} (located : LocatedPart run)
    (indented : Bool) (indent : Option String) :
    LocatedPart fun state => state.runPartial indented indent run :=
  fun _ => (located _).bind fun _ => located_ok _

theorem located_renderCall (missing name : String) (arguments : Arguments) (params : List String)
    (indented : Bool) (inner : LocatedPart body) (outer : LocatedPart inverse) :
    LocatedPart (renderCall environment missing name arguments params indented body inverse) := by
  intro state
  have registered : ∀ helper, Located (state.runHelper indented fun state => do
      return state.write (← runRegistered environment helper name arguments).shown) := by
    intro helper
    refine located_runHelper (fun state => ?_) indented state
    exact (located_runRegistered environment helper name arguments).bind fun _ => located_ok _
  unfold renderCall
  split
  · exact registered _
  · exact located_runHelper (located_builtin _ arguments params inner outer) indented state
  · split
    · exact registered _
    · intro other failed
      cases failed

theorem located_renderValue (data : Json) (expression : Expression) :
    LocatedPart (renderValue environment data expression) := by
  intro state
  unfold renderValue
  split
  · refine (located_headName environment data _ _).bind fun name => ?_
    split
    · exact located_renderCall environment _ name _ _ _ located_nothing located_nothing state
    · refine (located_evaluate environment data _ _).bind fun found => ?_
      split
      · exact located_ok _
      · split
        · exact (located_runRegistered environment _ name _).bind fun _ => located_ok _
        · exact located_ok _
  · refine (located_evaluateExpression environment data _ _).bind fun found => ?_
    exact located_renderCall environment _ _ _ _ _ located_nothing located_nothing state

theorem located_renderDecoration (data : Json) (expression : Expression)
    (body : Option Template) : LocatedPart fun state =>
      renderDecoration environment data expression body state := by
  intro state
  refine (located_evaluateExpression environment data _ _).bind fun found => ?_
  simp only
  split
  · refine (located_require _ _ _).bind fun value => ?_
    split
    · exact located_ok _
    · intro other failed
      cases failed
    · intro other failed
      cases failed
  · intro other failed
    cases failed

theorem located_blockText {body : Option Part} (inner : ∀ part ∈ body, LocatedPart part)
    (state : State) : Located (blockText body state) := by
  unfold blockText
  split
  · exact located_ok _
  · exact (inner _ rfl _).bind fun _ => located_ok _

theorem located_expandPartial {partials : Template → Part}
    (included : ∀ template, LocatedPart (partials template)) (name : String)
    (arguments : Arguments) (indent : Option String) {body : Option Part}
    (inner : ∀ part ∈ body, LocatedPart part) :
    LocatedPart (expandPartial environment partials name arguments indent body) := by
  intro state
  refine (located_blockText inner _).bind fun found => ?_
  obtain ⟨block, inside⟩ := found
  simp only
  split
  · exact (included _ _).bind fun _ => located_ok _
  · exact located_ok _
  · intro other failed
    cases failed

theorem located_expandBlock {body : Option Part} (inner : ∀ part ∈ body, LocatedPart part) :
    LocatedPart (expandBlock body) := by
  intro state
  unfold expandBlock
  split
  · exact located_ok _
  · exact inner _ rfl state
  · intro other failed
    cases failed

theorem located_renderInclusion {partials : Template → Part}
    (included : ∀ template, LocatedPart (partials template)) (data : Json)
    (expression : Expression) (indented : Bool) (indent : Option String) {body : Option Part}
    (inner : ∀ part ∈ body, LocatedPart part) : LocatedPart fun state =>
      renderInclusion environment partials data expression indented indent body state := by
  intro state
  refine (located_evaluateExpression environment data _ _).bind fun found => ?_
  refine located_runPartial ?_ indented indent state
  split
  · exact located_expandBlock inner
  · exact located_expandPartial environment included _ _ _ inner

mutual

theorem located_renderElement {partials : Template → Part}
    (included : ∀ template, LocatedPart (partials template)) (data : Json) :
    ∀ element : Element, LocatedPart (renderElement environment partials data element)
  | .text text => fun _ => located_ok _
  | .value expression => located_renderValue environment data expression
  | .block expression params indented body inverse => fun state =>
    (located_evaluateExpression environment data _ _).bind fun _ =>
      located_renderCall environment _ _ _ params indented
        (located_renderElements included data body)
        (located_renderElements included data inverse) state
  | .inclusion expression indented indent =>
    located_renderInclusion environment included data expression indented indent (by simp)
  | .inclusionBlock expression indented body =>
    located_renderInclusion environment included data expression indented none fun _ same =>
      Option.some.inj same ▸ located_renderElements included data body
  | .decoration expression => located_renderDecoration environment data expression none
  | .decorationBlock expression body =>
    located_renderDecoration environment data expression (some body)
  | .comment _ => located_nothing

theorem located_renderElements {partials : Template → Part}
    (included : ∀ template, LocatedPart (partials template)) (data : Json) :
    ∀ elements : List Element, LocatedPart (renderElements environment partials data elements)
  | [] => located_nothing
  | element :: elements => fun state =>
    (located_renderElement included data element state).bind
      (located_renderElements included data elements)

end

theorem located_renderAt (data : Json) (depth : Nat) :
    ∀ template, LocatedPart (renderAt environment data depth template) := by
  induction depth with
  | zero =>
    intro template state name failed
    cases failed
  | succ depth ih => exact fun template => located_renderElements environment ih data template

/-- A template that is rendered is there. -/
theorem located_render (template : Template) (data : Json) :
    Located (render environment template data) :=
  (located_renderAt environment data maxDepth template _).map _

end Stencil.Render
