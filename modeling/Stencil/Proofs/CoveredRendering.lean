import Stencil.Proofs.CoveredTemplates
import Stencil.Proofs.TemplatePaths
import Stencil.Proofs.Walking

set_option autoImplicit false

/-!
Rendering with objects that agree on the variables of a template's references. Such a render is steady:
it writes the same text or fails alike (`render_eq_of_agreeOn`).
-/

namespace Stencil.Render

open Extraction
open Template

section

variable {ι : Type} {objects : ι → List (String × Json)} {roots : List String}

/-- The run of each choice renders its object. -/
def dataOf (objects : ι → List (String × Json)) (i : ι) : Json := .object (objects i)

/-- True for objects that agree on some variables. -/
def Agreeing (objects : ι → List (String × Json)) (roots : List String) : Prop :=
  ∀ name ∈ roots, Fixed fun i => Json.find? name (objects i)

/-- The layers know what the surroundings promise: the names of enclosing blocks have values, and the
context of an enclosing block is a value. -/
structure Sees (around : Surroundings) (layers : List Layer) : Prop where
  names : ∀ name ∈ around.names, ∃ value, layerParam? name layers = some value
  shifted : around.shifted = true →
    ∃ layer outer value, layers = layer :: outer ∧ layer.value? = some value

variable {around : Surroundings} {layers : List Layer}

/-! ### Paths -/

/-- Loop data is looked up in the innermost scope alone. -/
theorem resolve_of_loopVariable {path : Path} (read : path.IsRead)
    (loop : path.raw ∈ loopVariables) : ∃ name, ∀ data scopes, resolve data scopes path =
      .ok ((scopes[0]?.map Scope.locals).bind (lookup? name)) := by
  obtain ⟨text, rest, found⟩ := read
  obtain ⟨written⟩ := Path.read?_written found
  have split : ∀ raw ∈ loopVariables, ∃ word, raw.toList = '@' :: word ∧
      (∀ c ∈ word, isNameChar c = true) ∧ word.head? ≠ some 'r' ∧ word ≠ "this".toList := by
    intro raw member
    simp only [loopVariables, List.mem_cons, List.not_mem_nil, or_false] at member
    rcases member with rfl | rfl | rfl | rfl
    · exact ⟨"index".toList, rfl, List.all_eq_true.mp (by decide), by decide, by decide⟩
    · exact ⟨"key".toList, rfl, List.all_eq_true.mp (by decide), by decide, by decide⟩
    · exact ⟨"first".toList, rfl, List.all_eq_true.mp (by decide), by decide, by decide⟩
    · exact ⟨"last".toList, rfl, List.all_eq_true.mp (by decide), by decide, by decide⟩
  obtain ⟨word, marked, chars, other, named⟩ := split path.raw loop
  have segments : path.segments = [.localMark, .named (String.ofList word)] := by
    rw [written.segments_of_marked marked chars other, Path.segmentOf, if_neg named]
  have local? : path.scopeVariable? = some (0, String.ofList word) := by
    rw [Path.scopeVariable?, segments]
    rfl
  refine ⟨String.ofList word, fun data scopes => ?_⟩
  simp only [resolve, local?, Option.bind_map]
  rfl

theorem resolve_this {path : Path} (read : path.IsRead) (raw : path.raw = "this") (data : Json)
    (scopes : List Scope) : resolve data scopes path = .ok (some (contextAt 0 scopes)) := by
  obtain ⟨text, rest, found⟩ := read
  obtain ⟨written⟩ := Path.read?_written found
  have segments : path.segments = [] := by
    have chars : ∀ c ∈ path.raw.toList, isNameChar c = true := by
      rw [raw]
      exact List.all_eq_true.mp (by decide)
    rw [written.segments_of_word chars, raw]
    rfl
  have unmarked : path.scopeVariable? = none := by
    rw [Path.scopeVariable?, segments]
  rw [resolve, unmarked, segments]
  rfl

theorem resolve_of_firstName? {path : Path} {name : String} (first : path.firstName? = some name) :
    ∃ depth more, ∀ data scopes, resolve data scopes path =
      match param? name scopes with
      | some value => walk value more
      | none => walk (contextAt depth scopes) (name :: more) := by
  obtain ⟨depth, rest, outwards⟩ := Path.outward_of_firstName? first
  refine ⟨depth, names rest, fun data scopes => ?_⟩
  have marked := Path.scopeVariable?_of_firstName? first
  cases found : param? name scopes with
  | some value => simp only [resolve, marked, outwards, found]
  | none => simp only [resolve, marked, outwards, found]

theorem walk_object (fields : List (String × Json)) (name : String) (more : List String) :
    walk (.object fields) (name :: more) = more.foldlM step (Json.find? name fields) := rfl

/-- What a path leads to does not depend on the data, as far as the data agree on its variable. -/
theorem resolve_fixed (agreeing : Agreeing objects roots) (sees : Sees around layers)
    {path : Path} (read : path.IsRead) (listed : path.Listed around.shifted) (aligned : path.Aligned)
    {role : Role} (known : Known roots (around.report path.raw role)) :
    Fixed fun i => resolve (dataOf objects i) (fill (dataOf objects i) layers) path := by
  rcases listed with loop | ⟨inside, raw⟩ | base
  · obtain ⟨name, found⟩ := resolve_of_loopVariable read loop
    refine ⟨.ok ((layers[0]?.map Layer.locals).bind (lookup? name)), fun i => ?_⟩
    simp only [found, locals_fill]
  · obtain ⟨layer, outer, value, rfl, entered⟩ := sees.shifted inside
    refine ⟨.ok (some value), fun i => ?_⟩
    simp only [resolve_this read raw]
    simp [contextAt, fill, Layer.fill, entered]
  · obtain ⟨name, base⟩ := Option.isSome_iff_exists.mp base
    obtain ⟨depth, more, leads⟩ := resolve_of_firstName? (aligned name base)
    simp only [leads, param?_fill]
    cases given : layerParam? name layers with
    | some value => exact ⟨walk value more, fun _ => rfl⟩
    | none =>
      rcases contextAt_fill layers depth with ⟨value, same⟩ | same
      · exact ⟨walk value (name :: more), fun i => by simp only [same]⟩
      · have free : name ∉ around.names := by
          intro member
          obtain ⟨value, named⟩ := sees.names name member
          rw [given] at named
          cases named
        obtain ⟨value, agree⟩ := agreeing name (mem_of_known_report known base free)
        refine ⟨more.foldlM step value, fun i => ?_⟩
        simp only [same, dataOf, walk_object, agree]

/-! ### Operands -/

/-- What the theorem accepts of a path. -/
def Accepted (inside : Bool) (path : Path) : Prop := path.Listed inside ∧ path.Aligned

instance (inside : Bool) (path : Path) : Decidable (Accepted inside path) :=
  inferInstanceAs (Decidable (path.Listed inside ∧ path.Aligned))

variable (environment : Environment)

theorem evaluate_call {head : Operand} {name : String} (named : head.name? = some name)
    (arguments : List Argument) (data : Json) (scopes : List Scope) :
    evaluate environment data scopes (.call head arguments) =
      Arguments.gather (evaluateArguments environment data scopes arguments) >>= fun arguments =>
        (callValue environment name arguments).map some := by
  cases head with
  | word text =>
    cases named
    rfl
  | path target =>
    cases named
    rfl
  | literal value => cases named
  | call head arguments => cases named

/-- Arguments are the same with all data if each one is whose references are known. -/
theorem gather_fixed_of_each {arguments : List Argument} {role : Role}
    (known : Known roots (inOrder (argumentReferences around role arguments)).flatten)
    (each : ∀ argument ∈ arguments, Known roots (operandReferences around role argument.2) →
      Fixed fun i =>
        evaluate environment (dataOf objects i) (fill (dataOf objects i) layers) argument.2) :
    Fixed fun i => Arguments.gather (evaluateArguments environment (dataOf objects i)
      (fill (dataOf objects i) layers) arguments) := by
  simp only [evaluateArguments_eq_map]
  have counted : ∀ operand ∈ inOrder arguments, Fixed fun i =>
      (evaluate environment (dataOf objects i) (fill (dataOf objects i) layers) operand).map
        (·.getD .null) := by
    intro operand counts
    obtain ⟨key, member⟩ := exists_of_mem_inOrder counts
    have fixed := each (key, operand) member fun reference found =>
      known reference (mem_references_of_mem counts found)
    exact fixed.map (Except.map (·.getD .null))
  exact gather_fixed counted

mutual

/-- The value of an operand does not depend on the data, as far as they agree on its references. -/
theorem evaluate_fixed (agreeing : Agreeing objects roots) (sees : Sees around layers)
    (role : Role) : ∀ operand : Operand, operand.Covered Accepted around.shifted →
    AllRead operand.paths → Known roots (operandReferences around role operand) →
    Fixed fun i => evaluate environment (dataOf objects i) (fill (dataOf objects i) layers) operand
  | .literal value, _, _, _ => ⟨.ok (some value), fun _ => rfl⟩
  | .word _, _, _, _ => ⟨.ok none, fun _ => rfl⟩
  | .path path, accepted, inside, known =>
    resolve_fixed agreeing sees (inside path List.mem_cons_self) accepted.1 accepted.2 known
  | .call head arguments, covered, inside, known => by
    obtain ⟨name, named⟩ := Option.isSome_iff_exists.mp covered.1
    have gathered := gather_fixed_of_each environment known
      (evaluateEach_fixed agreeing sees .argument arguments covered.2
        ((allRead_append _ _).mp inside).2)
    simp only [evaluate_call environment named]
    exact gathered.bind fun found => ⟨_, fun _ => rfl⟩

theorem evaluateEach_fixed (agreeing : Agreeing objects roots) (sees : Sees around layers)
    (role : Role) : ∀ arguments : List Argument,
    argumentsCovered Accepted around.shifted arguments → AllRead (argumentPaths arguments) →
    ∀ argument ∈ arguments, Known roots (operandReferences around role argument.2) →
    Fixed fun i =>
      evaluate environment (dataOf objects i) (fill (dataOf objects i) layers) argument.2
  | [], _, _, _, member, _ => by cases member
  | (key, operand) :: arguments, covered, inside, argument, member, known => by
    have inside := (allRead_append _ _).mp inside
    rcases List.mem_cons.mp member with rfl | member
    · exact evaluate_fixed agreeing sees role operand covered.1 inside.1 known
    · exact evaluateEach_fixed agreeing sees role arguments covered.2 inside.2 argument member known

end

/-- The arguments of a tag are the same with all data. -/
theorem arguments_fixed (agreeing : Agreeing objects roots) (sees : Sees around layers)
    (role : Role) {arguments : List Argument}
    (covered : argumentsCovered Accepted around.shifted arguments)
    (inside : AllRead (argumentPaths arguments))
    (known : Known roots (inOrder (argumentReferences around role arguments)).flatten) :
    Fixed fun i => Arguments.gather (evaluateArguments environment (dataOf objects i)
      (fill (dataOf objects i) layers) arguments) :=
  gather_fixed_of_each environment known
    (evaluateEach_fixed environment agreeing sees role arguments covered inside)

/-! ### Elements -/

/-- Writes what a path alone leads to. -/
def writeFound (name : String) (found : Option Json) (state : State) : Rendered State :=
  match found with
  | some value => .ok (state.write value.shown)
  | none =>
    match environment.helper? "helperMissing" with
    | some helper =>
      (runRegistered environment helper name ⟨[], []⟩).map fun value => state.write value.shown
    | none => .ok state

theorem steady_writeFound (name : String) (found : Option Json) :
    Steady (dataOf objects) layers fun _ => writeFound environment name found := by
  unfold writeFound
  cases found with
  | some value => exact steady_write value.shown
  | none =>
    cases environment.helper? "helperMissing" with
    | some helper => exact steady_registered environment helper name ⟨[], []⟩
    | none => exact steady_nothing

theorem renderValue_of_path {expression : Expression} {name : String}
    (named : expression.head.name? = some name) (plain : expression.arguments = [])
    (free : ((environment.helper? name).isSome || (Builtin.find? name).isSome) = false)
    (data : Json) (state : State) : renderValue environment data expression state =
      evaluate environment data state.scopes expression.head >>= fun found =>
        writeFound environment name found state := by
  simp only [renderValue, plain, List.isEmpty_nil, if_true, headName_of_name? environment named]
  show (if ((environment.helper? name).isSome || (Builtin.find? name).isSome) = true then _ else _) = _
  rw [free]
  cases evaluate environment data state.scopes expression.head with
  | error error => rfl
  | ok found =>
    cases found with
    | some value => rfl
    | none =>
      show (match environment.helper? "helperMissing" with
        | some helper => _
        | none => _) = _
      unfold writeFound
      cases environment.helper? "helperMissing" with
      | some helper => rfl
      | none => rfl

theorem steady_noBody {params : List String} {name : String} :
    ∀ opened, Opens layers params name opened →
      Steady (dataOf objects) opened fun _ => nothing :=
  fun _ _ => steady_nothing

theorem steady_renderValue (agreeing : Agreeing objects roots) (sees : Sees around layers)
    {expression : Expression} (covered : (Element.value expression).Covered Accepted around.shifted)
    (inside : AllRead expression.paths)
    (known : Known roots (valueReferences around expression)) :
    Steady (dataOf objects) layers fun i =>
      renderValue environment (dataOf objects i) expression := by
  obtain ⟨name?, arguments, head⟩ := covered
  obtain ⟨name, named⟩ := Option.isSome_iff_exists.mp name?
  obtain ⟨headRead, argumentsRead⟩ := (allRead_append _ _).mp inside
  by_cases plain : expression.arguments = []
  · cases helper : (environment.helper? name).isSome || (Builtin.find? name).isSome with
    | true =>
      have same : ∀ data, renderValue environment data expression =
          renderCall environment "helperMissing" name ⟨[], []⟩ [] false nothing nothing := by
        intro data
        funext state
        simp only [renderValue, plain, List.isEmpty_nil, if_true, headName_of_name? environment named]
        exact if_pos helper
      simp only [same]
      exact steady_renderCall environment _ name _ false steady_noBody steady_nothing
    | false =>
      have reported : Known roots (operandReferences around .value expression.head) := by
        cases same : expression.head with
        | word text =>
          simpa [valueReferences, plain, same, Operand.name?, operandReferences] using known
        | path target =>
          simpa [valueReferences, plain, same, Operand.name?, operandReferences] using known
        | literal value => simp [same, Operand.name?] at named
        | call callee arguments => simp [same, Operand.name?] at named
      have found := evaluate_fixed environment agreeing sees .value expression.head (head plain)
        headRead reported
      have same : ∀ i, renderValue environment (dataOf objects i) expression = fun state =>
          evaluate environment (dataOf objects i) state.scopes expression.head >>= fun found =>
            writeFound environment name found state := by
        intro i
        funext state
        exact renderValue_of_path environment named plain helper _ state
      simp only [same]
      exact found.steady
        (fun i scopes => evaluate environment (dataOf objects i) scopes expression.head)
        (steady_writeFound environment name)
  · have filled : expression.arguments.isEmpty = false := by
      simpa using plain
    have reported : Known roots
        (inOrder (argumentReferences around .argument expression.arguments)).flatten := by
      simpa [valueReferences, filled, expressionReferences] using known
    have gathered := arguments_fixed environment agreeing sees .argument arguments argumentsRead
      reported
    have same : ∀ i, renderValue environment (dataOf objects i) expression = fun state =>
        Arguments.gather (evaluateArguments environment (dataOf objects i) state.scopes
          expression.arguments) >>= fun arguments =>
            renderCall environment "helperMissing" name arguments [] false nothing nothing state := by
      intro i
      funext state
      simp only [renderValue, filled, evaluateExpression_of_name? environment named, bind_assoc]
      rfl
    simp only [same]
    refine gathered.steady (fun i scopes => Arguments.gather
      (evaluateArguments environment (dataOf objects i) scopes expression.arguments)) fun found => ?_
    exact steady_renderCall environment _ name found false steady_noBody steady_nothing

/-! ### Blocks -/

theorem lookup?_blockParams {params : List String} (short : params.length ≤ 2) (value key : Json)
    {name : String} (member : name ∈ params) :
    ∃ found, lookup? name (blockParams params value key) = some found := by
  match params, short with
  | [], _ => cases member
  | [first], _ =>
    obtain rfl := List.mem_singleton.mp member
    exact ⟨value, by simp [blockParams, lookup?]⟩
  | [first, second], _ =>
    by_cases same : first = name
    · exact ⟨value, by simp [blockParams, lookup?, same]⟩
    · have other : name = second := by
        rcases List.mem_cons.mp member with rfl | member
        · exact absurd rfl same
        · exact List.mem_singleton.mp member
      subst other
      exact ⟨key, by simp [blockParams, lookup?, same]⟩

/-- What stands on top of the layers hides no name that they know. -/
theorem Sees.push (sees : Sees around layers) {params : List String} {block : String} {value : Json}
    {named : List (String × Json)}
    (given : ∀ name ∈ params, ∃ found, lookup? name named = some found)
    (locals : List (String × Json)) :
    Sees (around.inside block params) (⟨some value, named, locals, []⟩ :: layers) := by
  refine ⟨?_, fun _ => ⟨_, layers, value, rfl, rfl⟩⟩
  intro name member
  simp only [layerParam?, List.findSome?_cons]
  cases found : lookup? name named with
  | some value => exact ⟨value, rfl⟩
  | none =>
    rcases List.mem_append.mp member with own | outer
    · obtain ⟨other, given⟩ := given name own
      rw [found] at given
      cases given
    · exact sees.names name outer

/-- What a block opens is what the walk expects in its body. -/
theorem Sees.opens (sees : Sees around layers) {params : List String} {block : String}
    (names : NamesCovered block params) {opened : List Layer}
    (opens : Opens layers params block opened) : Sees (around.inside block params) opened := by
  cases opens with
  | each value key locals =>
    have short : params.length ≤ 2 := by
      rcases names with rfl | ⟨_, short⟩ | ⟨other, _⟩
      · exact Nat.zero_le 2
      · exact short
      · exact absurd other (by decide)
    exact sees.push (fun name => lookup?_blockParams short value key) locals
  | withValue value named locals same =>
    have short : params.length ≤ 1 := by
      rcases names with rfl | ⟨other, _⟩ | ⟨_, short⟩
      · exact Nat.zero_le 1
      · exact absurd other (by decide)
      · exact short
    rw [same short]
    exact sees.push (fun name => lookup?_blockParams (by omega) value .null) locals
  | same loops enters =>
    have none : params = [] := by
      rcases names with same | ⟨other, _⟩ | ⟨other, _⟩
      · exact same
      · exact absurd other loops
      · exact absurd other enters
    have still : Surroundings.shifting.contains block = false := by
      simp [Surroundings.shifting, loops, enters]
    simp only [Surroundings.inside, none, still, List.nil_append, Bool.or_false]
    exact sees

mutual

/-- An element does the same with all data that agree on its references. -/
theorem steady_renderElement (agreeing : Agreeing objects roots)
    (partials : ι → Template → Part) : ∀ (element : Element) (around : Surroundings)
    (layers : List Layer), Sees around layers → element.Covered Accepted around.shifted →
    AllRead element.paths → Known roots (elementReferences around element) →
    Steady (dataOf objects) layers fun i =>
      renderElement environment (partials i) (dataOf objects i) element
  | .text text, _, _, _, _, _, _ => steady_write text
  | .comment _, _, _, _, _, _, _ => steady_nothing
  | .value expression, _, _, sees, covered, inside, known =>
    steady_renderValue environment agreeing sees covered inside known
  | .block expression params indented body inverse, around, layers, sees, covered, inside, known => by
    obtain ⟨name?, arguments, names, bodyCovered, inverseCovered⟩ := covered
    obtain ⟨name, named⟩ := Option.isSome_iff_exists.mp name?
    simp only [Element.paths, allRead_append] at inside
    obtain ⟨expressionRead, bodyRead, inverseRead⟩ := inside
    simp only [elementReferences, known_append] at known
    simp only [named, Option.getD_some] at names bodyCovered known
    obtain ⟨⟨own, bodyKnown⟩, inverseKnown⟩ := known
    have gathered := arguments_fixed environment agreeing sees (.blockArgument name) arguments
      ((allRead_append _ _).mp expressionRead).2 own
    have inner : ∀ opened, Opens layers params name opened → Steady (dataOf objects) opened fun i =>
        renderElements environment (partials i) (dataOf objects i) body := fun opened opens =>
      steady_renderElements agreeing partials body (around.inside name params) opened
        (sees.opens names opens) bodyCovered bodyRead bodyKnown
    have outer := steady_renderElements agreeing partials inverse around layers sees inverseCovered
      inverseRead inverseKnown
    have same : ∀ i, renderElement environment (partials i) (dataOf objects i)
        (.block expression params indented body inverse) = fun state =>
          Arguments.gather (evaluateArguments environment (dataOf objects i) state.scopes
            expression.arguments) >>= fun arguments =>
              renderCall environment "blockHelperMissing" name arguments params indented
                (renderElements environment (partials i) (dataOf objects i) body)
                (renderElements environment (partials i) (dataOf objects i) inverse) state := by
      intro i
      funext state
      simp only [renderElement, evaluateExpression_of_name? environment named, bind_assoc]
      rfl
    simp only [same]
    refine gathered.steady (fun i scopes => Arguments.gather
      (evaluateArguments environment (dataOf objects i) scopes expression.arguments)) fun found => ?_
    exact steady_renderCall environment _ name found indented inner outer

theorem steady_renderElements (agreeing : Agreeing objects roots)
    (partials : ι → Template → Part) : ∀ (elements : List Element) (around : Surroundings)
    (layers : List Layer), Sees around layers → elementsCovered Accepted around.shifted elements →
    AllRead (elementPaths elements) → Known roots (templateReferences around elements) →
    Steady (dataOf objects) layers fun i =>
      renderElements environment (partials i) (dataOf objects i) elements
  | [], _, _, _, _, _, _ => steady_nothing
  | element :: elements, around, layers, sees, covered, inside, known => by
    obtain ⟨headRead, tailRead⟩ := (allRead_append _ _).mp inside
    obtain ⟨headKnown, tailKnown⟩ := (known_append roots _ _).mp known
    exact (steady_renderElement agreeing partials element around layers sees covered.1 headRead
      headKnown).andThen (steady_renderElements agreeing partials elements around layers sees
        covered.2 tailRead tailKnown)

end

end

/-! ### Templates -/

/-- True for objects that both lack a field or have equal values for it, for each of some names. -/
def AgreeOn (names : List String) (first second : List (String × Json)) : Prop :=
  ∀ name ∈ names, Json.find? name first = Json.find? name second

/-- A template is rendered alike with objects that agree on the variables of its references. -/
theorem render_eq_of_agreeOn (environment : Environment) {template : Template}
    (covered : elementsCovered Accepted false template) (inside : AllRead (elementPaths template))
    {first second : List (String × Json)}
    (agree : AgreeOn (variablesOf (references template)) first second) :
    render environment template (.object first) = render environment template (.object second) := by
  have agreeing : Agreeing (fun chosen : Bool => if chosen then first else second)
      (variablesOf (references template)) := by
    intro name member
    refine ⟨Json.find? name second, fun chosen => ?_⟩
    cases chosen with
    | true => exact agree name member
    | false => rfl
  have sees : Sees Surroundings.outermost [Layer.outermost] := by
    refine ⟨?_, ?_⟩
    · intro name member
      cases member
    · intro shifted
      cases shifted
  have known : Known (variablesOf (references template))
      (templateReferences Surroundings.outermost template) := by
    rw [← references_eq]
    exact known_variablesOf _
  obtain ⟨result, same⟩ := steady_renderElements environment agreeing
    (fun chosen => renderAt environment (.object (if chosen then first else second)) 1999) template
    Surroundings.outermost [Layer.outermost] sees covered inside known
    (State.start .null)
  have text : ∀ chosen : Bool,
      render environment template (.object (if chosen then first else second)) =
        result.map State.text := by
    intro chosen
    refine (congrArg (Except.map State.text) (same chosen)).trans ?_
    cases result with
    | error error => rfl
    | ok after => rfl
  exact (text true).trans (text false).symm

end Stencil.Render
