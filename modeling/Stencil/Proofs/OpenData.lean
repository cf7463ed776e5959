import Stencil.Render.Basic

set_option autoImplicit false

/-!
One template rendered with many data. The scopes of two such runs differ only where the context is the
data itself, so a stack of scopes is kept as layers with the data left open. A part is steady if it does
the same with all data: it writes the same or fails alike, and leaves the scopes as they were.
-/

namespace Stencil.Render

/-- A scope in which the data has been left open. -/
structure Layer where
  /-- The context, none where it is the data. -/
  value? : Option Json
  params : List (String × Json)
  locals : List (String × Json)
  partials : List (String × Template)

namespace Layer

def outermost : Layer := ⟨none, [], [], []⟩

def fill (data : Json) (layer : Layer) : Scope :=
  ⟨layer.value?.getD data, layer.params, layer.locals, layer.partials⟩

end Layer

/-- The scopes of the run with some data. -/
def fill (data : Json) (layers : List Layer) : List Scope := layers.map (Layer.fill data)

/-- The value that some layer has named. -/
def layerParam? (name : String) (layers : List Layer) : Option Json :=
  layers.findSome? fun layer => lookup? name layer.params

theorem param?_fill (name : String) (data : Json) (layers : List Layer) :
    param? name (fill data layers) = layerParam? name layers := by
  rw [param?, fill, List.findSome?_map]
  rfl

theorem locals_fill (data : Json) (layers : List Layer) (level : Nat) :
    ((fill data layers)[level]?).map Scope.locals = (layers[level]?).map Layer.locals := by
  rw [fill, List.getElem?_map, Option.map_map]
  rfl

theorem head_locals_fill (data : Json) (layers : List Layer) :
    (fill data layers).head?.map Scope.locals = layers.head?.map Layer.locals := by
  rw [fill, List.head?_map, Option.map_map]
  rfl

/-- A context further out is some value, or the data. -/
theorem contextAt_fill (layers : List Layer) (depth : Nat) :
    (∃ value, ∀ data, contextAt depth (fill data layers) = value) ∨
      ∀ data, contextAt depth (fill data layers) = data := by
  have ofLayer : ∀ layer : Layer,
      (∃ value, ∀ data, (layer.fill data).value = value) ∨ ∀ data, (layer.fill data).value = data := by
    intro layer
    cases same : layer.value? with
    | none => exact Or.inr fun data => by rw [Layer.fill, same]; rfl
    | some value => exact Or.inl ⟨value, fun data => by rw [Layer.fill, same]; rfl⟩
  simp only [contextAt, context, fill, List.getElem?_map, List.head?_map, Option.map_map]
  cases layers[depth]? with
  | some layer => exact ofLayer layer
  | none =>
    cases layers with
    | nil => exact Or.inl ⟨.null, fun _ => rfl⟩
    | cons layer layers => exact ofLayer layer

/-! ### States -/

namespace State

/-- The state with other scopes. -/
def within (state : State) (scopes : List Scope) : State := { state with scopes }

@[simp] theorem within_scopes (state : State) (scopes : List Scope) :
    (state.within scopes).scopes = scopes := rfl

theorem within_write (state : State) (scopes : List Scope) (text : String) :
    (state.within scopes).write text = (state.write text).within scopes := by
  unfold write
  split
  · rfl
  · rfl

theorem settle_within (before after : State) (scopes : List Scope) :
    (before.within scopes).settle (after.within scopes) = (before.settle after).within scopes := by
  cases produced : after.produced with
  | false => simp [settle, within, produced]
  | true => simp [settle, within, produced]

theorem modifyScope_within (state : State) (change : Scope → Scope) (scope : Scope)
    (scopes : List Scope) :
    (state.within (scope :: scopes)).modifyScope change =
      state.within (change scope :: scopes) := rfl

end State

/-! ### Steady parts -/

section

variable {ι : Type}

/-- True for what does not depend on the choice. -/
def Fixed {α : Type} (value : ι → α) : Prop := ∃ same, ∀ i, value i = same

theorem Fixed.map {α β : Type} {value : ι → α} (fixed : Fixed value) (f : α → β) :
    Fixed fun i => f (value i) := by
  obtain ⟨same, all⟩ := fixed
  exact ⟨f same, fun i => congrArg f (all i)⟩

theorem Fixed.bind {α β : Type} {value : ι → Rendered α} {next : α → ι → Rendered β}
    (fixed : Fixed value) (rest : ∀ found, Fixed (next found)) :
    Fixed fun i => value i >>= fun found => next found i := by
  obtain ⟨same, all⟩ := fixed
  cases same with
  | error error => exact ⟨.error error, fun i => by simp only [all]; rfl⟩
  | ok found =>
    obtain ⟨last, others⟩ := rest found
    exact ⟨last, fun i => by simp only [all]; exact others i⟩

/-- True for a part that does the same with all data. -/
def Steady (data : ι → Json) (layers : List Layer) (part : ι → Part) : Prop :=
  ∀ state : State, ∃ result : Rendered State, ∀ i,
    part i (state.within (fill (data i) layers)) =
      result.map fun after => after.within (fill (data i) layers)

variable {data : ι → Json} {layers : List Layer}

theorem steady_nothing : Steady data layers fun _ => nothing := by
  intro state
  exact ⟨.ok state, fun _ => rfl⟩

theorem steady_error (error : RenderError) : Steady data layers fun _ _ => .error error := by
  intro state
  exact ⟨.error error, fun _ => rfl⟩

theorem steady_write (text : String) : Steady data layers fun _ state => .ok (state.write text) := by
  intro state
  refine ⟨.ok (state.write text), fun i => ?_⟩
  show Except.ok ((state.within _).write text) = _
  rw [State.within_write]
  rfl

theorem Steady.andThen {first second : ι → Part} (begins : Steady data layers first)
    (goes : Steady data layers second) :
    Steady data layers fun i state => first i state >>= second i := by
  intro state
  obtain ⟨middle, same⟩ := begins state
  cases middle with
  | error error => exact ⟨.error error, fun i => by simp only [same]; rfl⟩
  | ok after =>
    obtain ⟨result, rest⟩ := goes after
    exact ⟨result, fun i => by simp only [same]; exact rest i⟩

/-- A part that goes on with a value of its scopes. -/
theorem Fixed.steady {α : Type} (value : ι → List Scope → Rendered α) {part : α → ι → Part}
    (fixed : Fixed fun i => value i (fill (data i) layers))
    (rest : ∀ found, Steady data layers (part found)) :
    Steady data layers fun i state => value i state.scopes >>= fun found => part found i state := by
  intro state
  obtain ⟨same, all⟩ := fixed
  cases same with
  | error error => exact ⟨.error error, fun i => by simp only [State.within_scopes, all]; rfl⟩
  | ok found =>
    obtain ⟨result, others⟩ := rest found state
    refine ⟨result, fun i => ?_⟩
    simp only [State.within_scopes, all]
    exact others i

theorem Steady.runHelper {part : ι → Part} (steady : Steady data layers part) (indented : Bool) :
    Steady data layers fun i state => state.runHelper indented (part i) := by
  intro state
  obtain ⟨result, same⟩ :=
    steady { state with produced := false, fresh := state.fresh || (indented && state.ended) }
  refine ⟨result.map state.settle, fun i => ?_⟩
  have run := same i
  simp only [State.within] at run
  simp only [State.runHelper, State.within, run]
  cases result with
  | error error => rfl
  | ok after =>
    exact congrArg Except.ok (State.settle_within state after (fill (data i) layers))

/-! ### Blocks of the language -/

variable {body inverse : ι → Part}

/-- The layers in which the body of a block is rendered. -/
inductive Opens (layers : List Layer) (params : List String) : String → List Layer → Prop where
  | each (value key : Json) (locals : List (String × Json)) :
    Opens layers params "each" (⟨some value, blockParams params value key, locals, []⟩ :: layers)
  | withValue (value : Json) (named locals : List (String × Json))
    (names : params.length ≤ 1 → named = blockParams params value .null) :
    Opens layers params "with" (⟨some value, named, locals, []⟩ :: layers)
  | same {name : String} (loops : name ≠ "each") (enters : name ≠ "with") :
    Opens layers params name layers

/-- The rounds of a loop; the layer of the round before is on top. -/
theorem steady_rounds {params : List String}
    (inner : ∀ opened, Opens layers params "each" opened → Steady data opened body)
    (rounds : List Round) : ∀ (top : Layer) (state : State), top.partials = [] →
    ∃ result : Rendered State, ∀ i,
      (rounds.foldlM (renderRound params (body i))
          (state.within (fill (data i) (top :: layers)))).map State.pop =
        result.map fun after => after.within (fill (data i) layers) := by
  induction rounds with
  | nil =>
    intro top state _
    exact ⟨.ok state, fun _ => rfl⟩
  | cons round rounds ih =>
    intro top state noPartials
    have entered : ∀ i, renderRound params (body i) (state.within (fill (data i) (top :: layers))) round =
        body i (state.within (fill (data i)
          (⟨some round.value, blockParams params round.value round.key, round.locals, []⟩ ::
            layers))) := by
      intro i
      simp only [renderRound, fill, List.map_cons, State.modifyScope_within, Layer.fill, noPartials,
        Option.getD_some]
    obtain ⟨middle, same⟩ := inner _ (.each round.value round.key round.locals) state
    cases middle with
    | error error =>
      refine ⟨.error error, fun i => ?_⟩
      rw [List.foldlM_cons, entered, same]
      rfl
    | ok after =>
      obtain ⟨result, rest⟩ := ih
        ⟨some round.value, blockParams params round.value round.key, round.locals, []⟩ after rfl
      refine ⟨result, fun i => ?_⟩
      rw [List.foldlM_cons, entered, same]
      exact rest i

theorem steady_renderRounds {params : List String}
    (inner : ∀ opened, Opens layers params "each" opened → Steady data opened body)
    (rounds : List Round) : Steady data layers fun i => renderRounds params (body i) rounds := by
  intro state
  obtain ⟨result, same⟩ := steady_rounds inner rounds ⟨some .null, [], [], []⟩ state rfl
  refine ⟨result, fun i => ?_⟩
  rw [← same i]
  rfl

theorem steady_renderEach {params : List String}
    (inner : ∀ opened, Opens layers params "each" opened → Steady data opened body)
    (outer : Steady data layers inverse) (value : Json) :
    Steady data layers fun i => renderEach params (body i) (inverse i) value := by
  unfold renderEach
  split
  · exact steady_renderRounds inner _
  · exact steady_renderRounds inner _
  · exact outer

/-- A value that holds is entered under its name, if it has one. -/
theorem renderWith_of_holds (params : List String) {value : Json} (holds : value.holds false = true) :
    ∃ named, (params.length ≤ 1 → named = blockParams params value .null) ∧
      ∀ (body inverse : Part) (state : State), renderWith params body inverse value state =
        (body (state.push
          ⟨value, named, (state.scopes.head?.map Scope.locals).getD [], []⟩)).map State.pop := by
  refine ⟨_, ?_, fun body inverse state => if_pos holds⟩
  intro short
  match params, short with
  | [], _ => rfl
  | [name], _ => rfl

theorem steady_renderWith {params : List String}
    (inner : ∀ opened, Opens layers params "with" opened → Steady data opened body)
    (outer : Steady data layers inverse) (value : Json) :
    Steady data layers fun i => renderWith params (body i) (inverse i) value := by
  intro state
  by_cases holds : value.holds false = true
  · obtain ⟨named, names, enters⟩ := renderWith_of_holds params holds
    obtain ⟨result, same⟩ :=
      inner _ (.withValue value named ((layers.head?.map Layer.locals).getD []) names) state
    refine ⟨result, fun i => ?_⟩
    have entered := same i
    simp only [fill, List.map_cons, Layer.fill, Option.getD_some] at entered
    simp only [enters, State.within_scopes, head_locals_fill]
    show (body i (state.within (_ :: fill (data i) layers))).map State.pop = _
    rw [fill, entered]
    cases result with
    | error error => rfl
    | ok after => rfl
  · obtain ⟨result, same⟩ := outer state
    refine ⟨result, fun i => ?_⟩
    rw [← same i]
    exact if_neg holds

theorem steady_renderIf (positive : Bool) (inner : Steady data layers body)
    (outer : Steady data layers inverse) (arguments : Arguments) :
    Steady data layers fun i => renderIf positive (body i) (inverse i) arguments := by
  unfold renderIf
  cases arguments.require "if" 0 with
  | error error => exact steady_error error
  | ok value =>
    have either : ∀ chosen : Bool, Steady data layers fun i state =>
        if chosen = true then body i state else inverse i state := by
      intro chosen
      cases chosen with
      | true => exact inner
      | false => exact outer
    exact either _

/-- A helper of the language does the same with all data if its body does so in what it opens. -/
theorem steady_builtin {name : String} {builtin : Builtin} (found : Builtin.find? name = some builtin)
    {params : List String}
    (inner : ∀ opened, Opens layers params name opened → Steady data opened body)
    (outer : Steady data layers inverse) (arguments : Arguments) :
    Steady data layers fun i => builtin.render arguments params (body i) (inverse i) := by
  have keeps : name ≠ "each" → name ≠ "with" → Steady data layers body :=
    fun loops enters => inner layers (.same loops enters)
  unfold Builtin.find? at found
  split at found <;> cases found
  · exact steady_renderIf true (keeps (by decide) (by decide)) outer arguments
  · exact steady_renderIf false (keeps (by decide) (by decide)) outer arguments
  · unfold Builtin.render
    cases arguments.require "each" 0 with
    | error error => exact steady_error error
    | ok value => exact steady_renderEach inner outer value
  · unfold Builtin.render
    cases arguments.require "with" 0 with
    | error error => exact steady_error error
    | ok value => exact steady_renderWith inner outer value
  · exact keeps (by decide) (by decide)
  · unfold Builtin.render
    cases Builtin.checkLevel arguments with
    | error error => exact steady_error error
    | ok _ => exact steady_nothing
  · unfold Builtin.render
    cases Builtin.value .lookup arguments with
    | error error => exact steady_error error
    | ok value => exact steady_write value.shown
  · unfold Builtin.render
    cases Builtin.value .len arguments with
    | error error => exact steady_error error
    | ok value => exact steady_write value.shown

/-- A registered helper sees its arguments only. -/
theorem steady_registered (environment : Environment) (helper : Helper) (name : String)
    (arguments : Arguments) : Steady data layers fun _ state =>
      (runRegistered environment helper name arguments).map fun value => state.write value.shown := by
  cases runRegistered environment helper name arguments with
  | error error => exact steady_error error
  | ok value => exact steady_write value.shown

theorem steady_renderCall (environment : Environment) (missing name : String) (arguments : Arguments)
    {params : List String} (indented : Bool)
    (inner : ∀ opened, Opens layers params name opened → Steady data opened body)
    (outer : Steady data layers inverse) :
    Steady data layers fun i =>
      renderCall environment missing name arguments params indented (body i) (inverse i) := by
  have registered : ∀ helper, Steady data layers fun _ state => state.runHelper indented fun state =>
      (runRegistered environment helper name arguments).map fun value => state.write value.shown :=
    fun helper => (steady_registered environment helper name arguments).runHelper indented
  unfold renderCall
  cases environment.helper? name with
  | some helper => exact registered helper
  | none =>
    cases found : Builtin.find? name with
    | some builtin => exact (steady_builtin found inner outer arguments).runHelper indented
    | none =>
      cases environment.helper? missing with
      | some helper => exact registered helper
      | none => exact steady_error _

end

end Stencil.Render
