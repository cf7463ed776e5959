import Stencil.Render.Basic

set_option autoImplicit false

/-!
A render looks up the templates that its inclusions name, and no other. So what stands under other
names makes no difference to it (`render_withTemplates`).
-/

namespace Stencil.Render

open Template (Operand Argument Expression Element)

variable {accepts : String → Prop}

/-! ### Inclusions by name -/

/-- True for a tag whose name is written in it and accepted. -/
def Named (accepts : String → Prop) (expression : Expression) : Prop :=
  ∃ name, expression.head.name? = some name ∧ accepts name

mutual

/-- True for an element that includes partials by accepted names alone. -/
def Includes (accepts : String → Prop) : Element → Prop
  | .text _ => True
  | .value _ => True
  | .block _ _ _ body inverse => IncludesAll accepts body ∧ IncludesAll accepts inverse
  | .inclusion expression _ _ => Named accepts expression
  | .inclusionBlock expression _ body => Named accepts expression ∧ IncludesAll accepts body
  | .decoration _ => True
  | .decorationBlock _ body => IncludesAll accepts body
  | .comment _ => True

def IncludesAll (accepts : String → Prop) : List Element → Prop
  | [] => True
  | element :: elements => Includes accepts element ∧ IncludesAll accepts elements

end

section

variable [DecidablePred accepts]

instance (expression : Expression) : Decidable (Named accepts expression) :=
  inferInstanceAs (Decidable (∃ name ∈ expression.head.name?, accepts name))

mutual

instance decidableIncludes : ∀ element : Element, Decidable (Includes accepts element)
  | .text _ => isTrue trivial
  | .value _ => isTrue trivial
  | .block _ _ _ body inverse =>
    have := decidableIncludesAll body
    have := decidableIncludesAll inverse
    inferInstanceAs (Decidable (IncludesAll accepts body ∧ IncludesAll accepts inverse))
  | .inclusion expression _ _ => inferInstanceAs (Decidable (Named accepts expression))
  | .inclusionBlock expression _ body =>
    have := decidableIncludesAll body
    inferInstanceAs (Decidable (Named accepts expression ∧ IncludesAll accepts body))
  | .decoration _ => isTrue trivial
  | .decorationBlock _ body => decidableIncludesAll body
  | .comment _ => isTrue trivial

instance decidableIncludesAll : ∀ elements : List Element, Decidable (IncludesAll accepts elements)
  | [] => isTrue trivial
  | element :: elements =>
    have := decidableIncludes element
    have := decidableIncludesAll elements
    inferInstanceAs (Decidable (Includes accepts element ∧ IncludesAll accepts elements))

end

end

/-- The environment with other templates. -/
def Environment.withTemplates (environment : Environment) (template? : String → Option Template) :
    Environment :=
  { environment with template? }

/-! ### Scopes -/

/-- True for scopes whose partials include others by accepted names alone. -/
def Tame (accepts : String → Prop) (scopes : List Scope) : Prop :=
  ∀ scope ∈ scopes, ∀ entry ∈ scope.partials, IncludesAll accepts entry.2

theorem Tame.tail {scopes : List Scope} (tame : Tame accepts scopes) : Tame accepts scopes.tail :=
  fun scope member => tame scope (List.mem_of_mem_tail member)

theorem Tame.push {scopes : List Scope} (tame : Tame accepts scopes) {scope : Scope}
    (plain : scope.partials = []) : Tame accepts (scope :: scopes) := by
  intro other member entry inside
  rcases List.mem_cons.mp member with rfl | member
  · rw [plain] at inside
    cases inside
  · exact tame other member entry inside

theorem Tame.inline? {scopes : List Scope} (tame : Tame accepts scopes) {name : String}
    {template : Template} (found : inline? name scopes = some template) :
    IncludesAll accepts template := by
  obtain ⟨scope, member, here⟩ := List.exists_of_findSome?_eq_some found
  obtain ⟨entry, there, rfl⟩ := Option.map_eq_some_iff.mp here
  exact tame scope member entry (List.mem_of_find?_eq_some there)

theorem Tame.modifyScope {state : State} (tame : Tame accepts state.scopes) {change : Scope → Scope}
    (keeps : ∀ scope, ∀ entry ∈ (change scope).partials,
      entry ∈ scope.partials ∨ IncludesAll accepts entry.2) :
    Tame accepts (state.modifyScope change).scopes := by
  unfold State.modifyScope
  cases open_ : state.scopes with
  | nil =>
    rw [open_] at tame
    simp only [open_]
    exact tame
  | cons scope scopes =>
    rw [open_] at tame
    intro other member entry inside
    rcases List.mem_cons.mp member with rfl | member
    · rcases keeps scope entry inside with old | accepted
      · exact tame scope List.mem_cons_self entry old
      · exact accepted
    · exact tame other (List.mem_cons_of_mem _ member) entry inside

theorem scopes_write (state : State) (text : String) :
    (state.write text).scopes = state.scopes := by
  unfold State.write
  split
  · rfl
  · rfl

theorem scopes_settle (before after : State) : (before.settle after).scopes = after.scopes := by
  unfold State.settle
  split
  · rfl
  · rfl

/-! ### Parts -/

/-- True for results that leave tame scopes. -/
def Ends (accepts : String → Prop) (result : Rendered State) : Prop :=
  ∀ after, result = .ok after → Tame accepts after.scopes

theorem ends_ok {state : State} (tame : Tame accepts state.scopes) : Ends accepts (.ok state) := by
  rintro after ⟨⟩
  exact tame

theorem ends_error (error : RenderError) : Ends accepts (.error error) := by
  rintro after ⟨⟩

theorem Ends.bind {α : Type} (result : Rendered α) {next : α → Rendered State}
    (rest : ∀ value, Ends accepts (next value)) : Ends accepts (result >>= next) := by
  cases result with
  | ok value => exact rest value
  | error error => exact ends_error error

/-- Parts that do the same in tame scopes, and keep them tame. -/
def Parallel (accepts : String → Prop) (left right : Part) : Prop :=
  ∀ state, Tame accepts state.scopes → left state = right state ∧ Ends accepts (right state)

theorem parallel_of_ends {part : Part} (ends : ∀ state, Tame accepts state.scopes →
    Ends accepts (part state)) : Parallel accepts part part :=
  fun state tame => ⟨rfl, ends state tame⟩

theorem parallel_nothing : Parallel accepts nothing nothing :=
  parallel_of_ends fun _ tame => ends_ok tame

theorem parallel_write (text : String) : Parallel accepts (fun state => .ok (state.write text))
    fun state => .ok (state.write text) := by
  refine parallel_of_ends fun state tame => ends_ok ?_
  rw [scopes_write]
  exact tame

theorem parallel_error (error : RenderError) :
    Parallel accepts (fun _ => .error error) fun _ => .error error :=
  parallel_of_ends fun _ _ => ends_error error

theorem Parallel.andThen {left right next last : Part} (begins : Parallel accepts left right)
    (goes : Parallel accepts next last) :
    Parallel accepts (fun state => left state >>= next) fun state => right state >>= last := by
  intro state tame
  obtain ⟨same, ends⟩ := begins state tame
  simp only [same]
  cases found : right state with
  | ok after => exact goes after (ends after found)
  | error error => exact ⟨rfl, ends_error error⟩

/-- Parts that go on with a value of the state. -/
theorem parallel_value {α : Type} (value : State → Rendered α) {left right : α → Part}
    (each : ∀ found, Parallel accepts (left found) (right found)) :
    Parallel accepts (fun state => value state >>= fun found => left found state)
      fun state => value state >>= fun found => right found state := by
  intro state tame
  simp only
  cases value state with
  | ok found => exact each found state tame
  | error error => exact ⟨rfl, ends_error error⟩

/-- Parts that are entered and left in the same way. -/
theorem Parallel.around {left right : Part} (parallel : Parallel accepts left right)
    (enter : State → State) (leave : State → State → State)
    (enters : ∀ state, Tame accepts state.scopes → Tame accepts (enter state).scopes)
    (leaves : ∀ before after, Tame accepts after.scopes →
      Tame accepts (leave before after).scopes) :
    Parallel accepts (fun state => left (enter state) >>= fun after => .ok (leave state after))
      fun state => right (enter state) >>= fun after => .ok (leave state after) := by
  intro state tame
  obtain ⟨same, ends⟩ := parallel (enter state) (enters state tame)
  refine ⟨by simp only [same], ?_⟩
  show Ends accepts (right (enter state) >>= fun after => .ok (leave state after))
  cases found : right (enter state) with
  | ok after => exact ends_ok (leaves state after (ends after found))
  | error error => exact ends_error error

theorem Parallel.runHelper {left right : Part} (parallel : Parallel accepts left right)
    (indented : Bool) : Parallel accepts (fun state => state.runHelper indented left)
      fun state => state.runHelper indented right := by
  refine parallel.around
    (fun state => { state with
      produced := false, fresh := state.fresh || (indented && state.ended) })
    State.settle (fun _ tame => tame) fun before after tame => ?_
  rw [scopes_settle]
  exact tame

theorem Parallel.runPartial {left right : Part} (parallel : Parallel accepts left right)
    (indented : Bool) (indent : Option String) :
    Parallel accepts (fun state => state.runPartial indented indent left)
      fun state => state.runPartial indented indent right := by
  refine parallel.around
    (fun state => { state with
      produced := false, fresh := indented && (state.ended || indent.isSome) })
    State.settle (fun _ tame => tame) fun before after tame => ?_
  rw [scopes_settle]
  exact tame

/-! ### Blocks of the language -/

section

variable {left right other another : Part}

theorem parallel_rounds (params : List String) (inner : Parallel accepts left right)
    (rounds : List Round) :
    Parallel accepts (fun state => rounds.foldlM (renderRound params left) state)
      fun state => rounds.foldlM (renderRound params right) state := by
  induction rounds with
  | nil => exact parallel_nothing
  | cons round rounds ih =>
    have first : Parallel accepts (fun state => renderRound params left state round)
        fun state => renderRound params right state round := by
      intro state tame
      exact inner _ (tame.modifyScope fun scope entry inside => Or.inl inside)
    simp only [List.foldlM_cons]
    exact first.andThen ih

theorem parallel_renderRounds (params : List String) (inner : Parallel accepts left right)
    (rounds : List Round) :
    Parallel accepts (renderRounds params left rounds) (renderRounds params right rounds) :=
  (parallel_rounds params inner rounds).around (fun state => state.push (Scope.ofData .null))
    (fun _ after => after.pop) (fun _ tame => tame.push rfl) fun _ _ tame => tame.tail

theorem parallel_renderEach (params : List String) (inner : Parallel accepts left right)
    (outer : Parallel accepts other another) (value : Json) :
    Parallel accepts (renderEach params left other value)
      (renderEach params right another value) := by
  unfold renderEach
  split
  · exact parallel_renderRounds params inner _
  · exact parallel_renderRounds params inner _
  · exact outer

theorem parallel_renderWith (params : List String) (inner : Parallel accepts left right)
    (outer : Parallel accepts other another) (value : Json) :
    Parallel accepts (renderWith params left other value)
      (renderWith params right another value) := by
  unfold renderWith
  by_cases holds : value.holds false = true
  · simp only [if_pos holds]
    exact inner.around (fun state => state.push ⟨value, _, _, []⟩) (fun _ after => after.pop)
      (fun _ tame => tame.push rfl) fun _ _ tame => tame.tail
  · simp only [if_neg holds]
    exact outer

theorem parallel_renderIf (positive : Bool) (inner : Parallel accepts left right)
    (outer : Parallel accepts other another) (arguments : Arguments) :
    Parallel accepts (renderIf positive left other arguments)
      (renderIf positive right another arguments) := by
  refine parallel_value (fun _ => arguments.require "if" 0) fun value => ?_
  have either : ∀ chosen : Bool,
      Parallel accepts (fun state => if chosen = true then left state else other state)
        fun state => if chosen = true then right state else another state := by
    intro chosen
    cases chosen with
    | true => exact inner
    | false => exact outer
  exact either _

theorem parallel_builtin (builtin : Builtin) (arguments : Arguments) (params : List String)
    (inner : Parallel accepts left right) (outer : Parallel accepts other another) :
    Parallel accepts (builtin.render arguments params left other)
      (builtin.render arguments params right another) := by
  cases builtin with
  | ifTrue => exact parallel_renderIf true inner outer arguments
  | unlessTrue => exact parallel_renderIf false inner outer arguments
  | each =>
    exact parallel_value (fun _ => arguments.require "each" 0) fun value =>
      parallel_renderEach params inner outer value
  | withValue =>
    exact parallel_value (fun _ => arguments.require "with" 0) fun value =>
      parallel_renderWith params inner outer value
  | raw => exact inner
  | log => exact parallel_value (fun _ => Builtin.checkLevel arguments) fun _ => parallel_nothing
  | lookup =>
    exact parallel_value (fun _ => Builtin.value .lookup arguments) fun value =>
      parallel_write value.shown
  | len =>
    exact parallel_value (fun _ => Builtin.value .len arguments) fun value =>
      parallel_write value.shown

variable (environment : Environment)

theorem parallel_renderCall (missing name : String) (arguments : Arguments) (params : List String)
    (indented : Bool) (inner : Parallel accepts left right)
    (outer : Parallel accepts other another) :
    Parallel accepts (renderCall environment missing name arguments params indented left other)
      (renderCall environment missing name arguments params indented right another) := by
  have registered : ∀ helper : Helper, Parallel accepts
      (fun state => state.runHelper indented fun state => do
        return state.write (← runRegistered environment helper name arguments).shown)
      fun state => state.runHelper indented fun state => do
        return state.write (← runRegistered environment helper name arguments).shown := by
    intro helper
    refine Parallel.runHelper ?_ indented
    exact parallel_value (fun _ => runRegistered environment helper name arguments) fun value =>
      parallel_write value.shown
  unfold renderCall
  split
  · exact registered _
  · exact (parallel_builtin _ arguments params inner outer).runHelper indented
  · split
    · exact registered _
    · exact parallel_error _

theorem parallel_renderValue (data : Json) (expression : Expression) :
    Parallel accepts (renderValue environment data expression)
      (renderValue environment data expression) := by
  have called : ∀ missing name arguments, Parallel accepts
      (renderCall environment missing name arguments [] false nothing nothing)
      (renderCall environment missing name arguments [] false nothing nothing) :=
    fun missing name arguments =>
      parallel_renderCall environment missing name arguments [] false parallel_nothing
        parallel_nothing
  refine parallel_of_ends fun state tame => ?_
  unfold renderValue
  split
  · refine Ends.bind _ fun name => ?_
    split
    · exact (called _ _ _ state tame).2
    · refine Ends.bind _ fun found => ?_
      split
      · exact (parallel_write _ state tame).2
      · split
        · exact Ends.bind _ fun value => (parallel_write _ state tame).2
        · exact ends_ok tame
  · exact Ends.bind _ fun found => (called _ _ _ state tame).2

/-- A definition keeps scopes tame if its body includes accepted names alone. -/
theorem parallel_renderDecoration (data : Json) (expression : Expression) {body : Option Template}
    (inner : ∀ template ∈ body, IncludesAll accepts template) :
    Parallel accepts (renderDecoration environment data expression body)
      (renderDecoration environment data expression body) := by
  refine parallel_of_ends fun state tame => Ends.bind _ fun found => ?_
  simp only
  split
  · refine Ends.bind _ fun value => ?_
    split
    · refine ends_ok (tame.modifyScope fun scope entry inside => ?_)
      rcases List.mem_cons.mp inside with rfl | inside
      · exact Or.inr (inner _ rfl)
      · exact Or.inl inside
    · exact ends_error _
    · exact ends_error _
  · exact ends_error _

end

/-! ### Other templates -/

/-- True if the templates of accepted names include others by accepted names alone. -/
def Closed (accepts : String → Prop) (environment : Environment) : Prop :=
  ∀ name, accepts name → ∀ template, environment.template? name = some template →
    IncludesAll accepts template

/-- True if other templates agree with those of an environment on the accepted names, and none of these
includes a name that is not accepted. -/
structure Replaces (accepts : String → Prop) (environment : Environment)
    (template? : String → Option Template) : Prop where
  closed : Closed accepts environment
  agree : ∀ name, accepts name → template? name = environment.template? name

/-- True if templates that include accepted names alone are rendered in parallel. -/
def ParallelAll (accepts : String → Prop) (first second : Template → Part) : Prop :=
  ∀ template, IncludesAll accepts template → Parallel accepts (first template) (second template)

section

variable (environment : Environment) (template? : String → Option Template)

mutual

/-- No value depends on templates. -/
theorem evaluate_withTemplates (data : Json) (scopes : List Scope) : ∀ operand : Operand,
    evaluate (environment.withTemplates template?) data scopes operand =
      evaluate environment data scopes operand
  | .literal value => rfl
  | .path path => rfl
  | .word name => rfl
  | .call head arguments => by
    have value := evaluate_withTemplates data scopes head
    have values := evaluateArguments_withTemplates data scopes arguments
    unfold evaluate
    rw [values]
    cases head with
    | literal _ => rfl
    | path _ => rfl
    | word _ => rfl
    | call _ _ => simp only [value]; rfl

theorem evaluateArguments_withTemplates (data : Json) (scopes : List Scope) :
    ∀ arguments : List Argument,
      evaluateArguments (environment.withTemplates template?) data scopes arguments =
        evaluateArguments environment data scopes arguments
  | [] => rfl
  | (key, operand) :: arguments => by
    unfold evaluateArguments
    rw [evaluate_withTemplates data scopes operand,
      evaluateArguments_withTemplates data scopes arguments]

end

theorem headName_withTemplates (data : Json) (scopes : List Scope) (head : Operand) :
    headName (environment.withTemplates template?) data scopes head =
      headName environment data scopes head := by
  unfold headName
  split
  · rfl
  · rfl
  · rw [evaluate_withTemplates]

theorem evaluateExpression_withTemplates (data : Json) (scopes : List Scope)
    (expression : Expression) :
    evaluateExpression (environment.withTemplates template?) data scopes expression =
      evaluateExpression environment data scopes expression := by
  unfold evaluateExpression
  rw [headName_withTemplates, evaluateArguments_withTemplates]

theorem renderValue_withTemplates (data : Json) (expression : Expression) :
    renderValue (environment.withTemplates template?) data expression =
      renderValue environment data expression := by
  funext state
  unfold renderValue
  rw [headName_withTemplates, evaluate_withTemplates, evaluateExpression_withTemplates]
  rfl

theorem renderDecoration_withTemplates (data : Json) (expression : Expression)
    (body : Option Template) :
    renderDecoration (environment.withTemplates template?) data expression body =
      renderDecoration environment data expression body := by
  funext state
  unfold renderDecoration
  rw [evaluateExpression_withTemplates]

variable {environment template?} {first second : Template → Part} {left right : Option Part}

theorem findPartial?_withTemplates (replaces : Replaces accepts environment template?)
    {name : String} (accepted : accepts name) (scopes : List Scope) :
    findPartial? (environment.withTemplates template?) name scopes =
      findPartial? environment name scopes :=
  congrArg (inline? name scopes).or (replaces.agree name accepted)

theorem includes_of_findPartial? (closed : Closed accepts environment) {scopes : List Scope}
    (tame : Tame accepts scopes) {name : String} (accepted : accepts name) {template : Template}
    (found : findPartial? environment name scopes = some template) :
    IncludesAll accepts template := by
  rcases Option.or_eq_some_iff.mp found with inside | ⟨_, outside⟩
  · exact tame.inline? inside
  · exact closed name accepted template outside

theorem parallel_blockText (inner : Option.Rel (Parallel accepts) left right) {state : State}
    (tame : Tame accepts state.scopes) :
    blockText left state = blockText right state ∧
      ∀ found, blockText right state = .ok found → Tame accepts found.2.scopes := by
  cases inner with
  | none =>
    refine ⟨rfl, ?_⟩
    rintro found ⟨⟩
    exact tame
  | @some begins goes parallel =>
    obtain ⟨same, ends⟩ := parallel { state with text := "" } tame
    refine ⟨by simp only [blockText, same], fun found done => ?_⟩
    unfold blockText at done
    simp only at done
    cases rendered : goes { state with text := "" } with
    | ok after =>
      rw [rendered] at done
      cases done
      exact ends after rendered
    | error error =>
      rw [rendered] at done
      cases done

theorem parallel_expandPartial (replaces : Replaces accepts environment template?)
    (included : ParallelAll accepts first second) {name : String} (accepted : accepts name)
    (arguments : Arguments) (indent : Option String)
    (inner : Option.Rel (Parallel accepts) left right) :
    Parallel accepts
      (expandPartial (environment.withTemplates template?) first name arguments indent left)
      (expandPartial environment second name arguments indent right) := by
  intro state tame
  have entered : Tame accepts (state.push (partialScope arguments state.scopes)).scopes :=
    tame.push rfl
  obtain ⟨same, ends⟩ := parallel_blockText inner entered
  unfold expandPartial
  rw [same]
  cases written : blockText right (state.push (partialScope arguments state.scopes)) with
  | error error => exact ⟨rfl, ends_error error⟩
  | ok found =>
    obtain ⟨block, inside⟩ := found
    have kept : Tame accepts inside.scopes := ends _ written
    simp only [bind, Except.bind]
    rw [findPartial?_withTemplates replaces accepted]
    cases there : findPartial? environment name inside.scopes with
    | some template =>
      have within :=
        included template (includes_of_findPartial? replaces.closed kept accepted there)
      exact within.around
        (fun _ => { inside with block, indent := state.indent ++ indent.getD "" })
        (fun _ after => { after.pop with block := state.block, indent := state.indent })
        (fun _ _ => kept) (fun _ _ tame => tame.tail) state tame
    | none =>
      cases block with
      | some text => exact ⟨rfl, ends_ok kept.tail⟩
      | none => exact ⟨rfl, ends_error _⟩

theorem parallel_expandBlock (inner : Option.Rel (Parallel accepts) left right) :
    Parallel accepts (expandBlock left) (expandBlock right) := by
  intro state tame
  unfold expandBlock
  cases state.block with
  | some block => exact ⟨rfl, ends_ok tame⟩
  | none =>
    cases inner with
    | some parallel => exact parallel state tame
    | none => exact ⟨rfl, ends_error _⟩

theorem parallel_renderInclusion (replaces : Replaces accepts environment template?)
    (included : ParallelAll accepts first second) (data : Json) {expression : Expression}
    (named : Named accepts expression) (indented : Bool) (indent : Option String)
    (inner : Option.Rel (Parallel accepts) left right) :
    Parallel accepts
      (renderInclusion (environment.withTemplates template?) first data expression indented indent
        left)
      (renderInclusion environment second data expression indented indent right) := by
  obtain ⟨name, written, accepted⟩ := named
  intro state tame
  unfold renderInclusion
  rw [evaluateExpression_withTemplates, evaluateExpression_of_name? environment written]
  cases Arguments.gather (evaluateArguments environment data state.scopes expression.arguments) with
  | error error => exact ⟨rfl, ends_error error⟩
  | ok arguments =>
    have part : Parallel accepts
        (if name = blockName then expandBlock left
          else expandPartial (environment.withTemplates template?) first name arguments indent left)
        (if name = blockName then expandBlock right
          else expandPartial environment second name arguments indent right) := by
      split
      · exact parallel_expandBlock inner
      · exact parallel_expandPartial replaces included accepted arguments indent inner
    exact part.runPartial indented indent state tame

mutual

theorem parallel_renderElement (replaces : Replaces accepts environment template?)
    (included : ParallelAll accepts first second) (data : Json) :
    ∀ element : Element, Includes accepts element → Parallel accepts
      (renderElement (environment.withTemplates template?) first data element)
      (renderElement environment second data element)
  | .text text, _ => parallel_write text
  | .value expression, _ => by
    unfold renderElement
    rw [renderValue_withTemplates]
    exact parallel_renderValue environment data expression
  | .block expression params indented body inverse, includes => by
    have inner := parallel_renderElements replaces included data body includes.1
    have outer := parallel_renderElements replaces included data inverse includes.2
    unfold renderElement
    simp only [evaluateExpression_withTemplates]
    exact parallel_value (fun state => evaluateExpression environment data state.scopes expression)
      fun found => parallel_renderCall environment _ found.1 found.2 params indented inner outer
  | .inclusion expression indented indent, named =>
    parallel_renderInclusion replaces included data named indented indent .none
  | .inclusionBlock expression indented body, includes =>
    parallel_renderInclusion replaces included data includes.1 indented none
      (.some (parallel_renderElements replaces included data body includes.2))
  | .decoration expression, _ => by
    unfold renderElement
    rw [renderDecoration_withTemplates]
    exact parallel_renderDecoration environment data expression (by simp)
  | .decorationBlock expression body, includes => by
    unfold renderElement
    rw [renderDecoration_withTemplates]
    refine parallel_renderDecoration environment data expression ?_
    rintro template ⟨⟩
    exact includes
  | .comment _, _ => parallel_nothing

theorem parallel_renderElements (replaces : Replaces accepts environment template?)
    (included : ParallelAll accepts first second) (data : Json) :
    ∀ elements : List Element, IncludesAll accepts elements → Parallel accepts
      (renderElements (environment.withTemplates template?) first data elements)
      (renderElements environment second data elements)
  | [], _ => parallel_nothing
  | element :: elements, includes =>
    (parallel_renderElement replaces included data element includes.1).andThen
      (parallel_renderElements replaces included data elements includes.2)

end

theorem parallel_renderAt (replaces : Replaces accepts environment template?) (data : Json)
    (depth : Nat) : ParallelAll accepts (renderAt (environment.withTemplates template?) data depth)
      (renderAt environment data depth) := by
  induction depth with
  | zero => exact fun template _ => parallel_error _
  | succ depth ih => exact fun template => parallel_renderElements replaces ih data template

/-- A render is the same with any other templates that agree on the names that it includes. -/
theorem render_withTemplates (replaces : Replaces accepts environment template?)
    {template : Template} (includes : IncludesAll accepts template) (data : Json) :
    render (environment.withTemplates template?) template data =
      render environment template data := by
  have start : Tame accepts (State.start data).scopes := by
    intro scope member entry inside
    rw [List.mem_singleton.mp member] at inside
    cases inside
  unfold render
  rw [(parallel_renderAt replaces data maxDepth template includes _ start).1]

end

end Stencil.Render
