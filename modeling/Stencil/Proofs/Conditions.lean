import Mathlib
import Stencil.Proofs.CallComposition
import Stencil.Proofs.WholeNumbers

set_option autoImplicit false

/-!
Conditions. What the helpers of the catalog count as true and what the blocks `if` and `unless` count as
true is the same for every value but the empty object and the numbers between zero and the normal range
of binary64; on these, and only on these, a condition and its negation both fail
(`conditions_agree`).
-/

namespace Stencil

namespace Number.Binary64

/-! ### Whole numbers as binary64 -/

/-- A whole number of 64 bits is zero or in the normal range. -/
theorem isNormal_ofInt {value : Int} (bounded : value.natAbs ≤ Nat.pow 2 64) :
    (ofInt value).isNormal = !(ofInt value).isZero := by
  rw [ofInt_eq bounded]
  rcases Nat.eq_zero_or_pos (rounded value.natAbs) with zero | positive
  · rw [zero, Nat.zero_mul]
    rfl
  · have normal := le_mul_unit positive
    have nonzero : rounded value.natAbs * unit ≠ 0 := Nat.ne_of_gt (Nat.mul_pos positive unit_pos)
    rw [isNormal, isZero, beq_false_of_ne nonzero]
    exact decide_eq_true normal

end Number.Binary64

open Number (Binary64)

namespace Json

/-- True for the values that the catalog counts as true and conditions as false. -/
def Borderline : Json → Prop
  | object fields => fields = []
  | number (.real _ units) => 0 < units ∧ units < 1 <<< 52
  | _ => False

/-- True for a value that, if it is an integer, is one of 64 bits. -/
def FitsWord : Json → Prop
  | number (.int value) => -(Nat.pow 2 63 : Int) ≤ value ∧ value < Nat.pow 2 64
  | _ => True

/-- What lies between the two is true for the catalog and false for conditions. -/
theorem truthy_of_borderline {value : Json} (between : value.Borderline) :
    value.truthy = true ∧ value.holds false = false := by
  cases value with
  | object fields =>
    rw [show fields = [] from between]
    exact ⟨rfl, rfl⟩
  | number value =>
    cases value with
    | int value => cases between
    | real negative units =>
      obtain ⟨positive, small⟩ : 0 < units ∧ units < 1 <<< 52 := between
      have nonzero : units ≠ 0 := by omega
      have apart : ¬ 1 <<< 52 ≤ units := by omega
      simp only [truthy, holds, Numeral.toBinary, Binary64.isZero, Binary64.isNormal,
        beq_false_of_ne nonzero, decide_eq_false apart, Bool.not_false, Bool.or_false, and_self]
  | null => cases between
  | bool value => cases between
  | string value => cases between
  | array items => cases between

theorem truthy_eq_holds {value : Json} (fits : value.FitsWord) (clear : ¬ value.Borderline) :
    value.truthy = value.holds false := by
  cases value with
  | object fields =>
    have filled : fields ≠ [] := clear
    simp [truthy, holds, filled]
  | number value =>
    cases value with
    | int value =>
      obtain ⟨low, high⟩ : -(Nat.pow 2 63 : Int) ≤ value ∧ value < Nat.pow 2 64 := fits
      have bounded : value.natAbs ≤ Nat.pow 2 64 := by
        simp only [Nat.pow_eq] at low high ⊢
        omega
      simp [truthy, holds, Numeral.toBinary, Binary64.isNormal_ofInt bounded]
    | real negative units =>
      have outside : ¬ (0 < units ∧ units < 1 <<< 52) := clear
      rcases Nat.eq_zero_or_pos units with rfl | positive
      · rfl
      · have normal : 1 <<< 52 ≤ units := by omega
        have nonzero : units ≠ 0 := by omega
        simp only [truthy, holds, Numeral.toBinary, Binary64.isZero, Binary64.isNormal,
          beq_false_of_ne nonzero, decide_eq_true normal, Bool.not_false, Bool.or_true]
  | null => rfl
  | bool value => rfl
  | string value =>
    have same : value.isEmpty = decide (value = "") := by
      rw [Bool.eq_iff_iff, String.isEmpty_iff, decide_eq_true_iff]
    simp [truthy, holds, same]
  | array items => rfl

end Json

namespace Render

open Template (Element Operand Expression)

/-! ### Conditions on a field -/

/-- The path `x`. -/
def fieldX : Operand := .path ⟨"x", [.named "x"]⟩

/-- The block `if` or `unless` on `x`, or on `(not x)`. -/
def condition (positive negated : Bool) (main other : Template) : Element :=
  .block ⟨.word (if positive then "if" else "unless"),
    [(none, if negated then .call (.word "not") [(none, fieldX)] else fieldX)]⟩ [] false main other

/-- What a condition on `x` or on `(not x)` counts its operand as. -/
def verdict (negated : Bool) (value : Json) : Bool :=
  if negated then !value.truthy else value.holds false

section

variable {engine : Engine} (value : Json)

/-- The data whose field `x` is a value. -/
def dataX : Json := .object [("x", value)]

theorem evaluate_fieldX (environment : Environment) :
    evaluate environment (dataX value) [Scope.ofData (dataX value)] fieldX = .ok (some value) := by
  rfl

/-- What a condition on `x` or on `(not x)` counts its operand as. -/
theorem evaluate_tested (serves : engine.ServesCatalog) (now : Calendar.Instant) (negated : Bool) :
    ∃ tested, evaluate (engine.environment now) (dataX value) [Scope.ofData (dataX value)]
        (if negated then .call (.word "not") [(none, fieldX)] else fieldX) = .ok (some tested) ∧
      tested.holds false = verdict negated value := by
  cases negated with
  | false => exact ⟨value, evaluate_fieldX value _, rfl⟩
  | true =>
    have found : (engine.environment now).helper? "not" = some Choices.not :=
      serves ⟨"not", "Negates truthiness", Choices.not⟩ (by simp [Catalog.entries, Choices.comparing])
    have called : callValue (engine.environment now) "not" ⟨[value], []⟩ =
        .ok (.bool !value.truthy) := by
      rw [callValue, found]
      rfl
    refine ⟨.bool !value.truthy, ?_, rfl⟩
    rw [if_pos rfl, evaluate]
    show (callValue (engine.environment now) "not" ⟨[value], []⟩ >>= fun result => _) = _
    rw [called]
    rfl

theorem renderElement_condition (serves : engine.ServesCatalog)
    (own : engine.helpers.find? "if" = none ∧ engine.helpers.find? "unless" = none)
    (now : Calendar.Instant) (positive negated : Bool) (main other : Template)
    (partials : Template → Part) {state : State}
    (scopes : state.scopes = [Scope.ofData (dataX value)]) :
    renderElement (engine.environment now) partials (dataX value)
        (condition positive negated main other) state =
      state.runHelper false (renderElements (engine.environment now) partials (dataX value)
        (if verdict negated value == positive then main else other)) := by
  obtain ⟨tested, found, counts⟩ := evaluate_tested value serves now negated
  have read : evaluateExpression (engine.environment now) (dataX value) state.scopes
      ⟨.word (if positive then "if" else "unless"),
        [(none, if negated then .call (.word "not") [(none, fieldX)] else fieldX)]⟩ =
      .ok (if positive then "if" else "unless", ⟨[tested], []⟩) := by
    rw [evaluateExpression_of_name? _ rfl, scopes]
    simp only [evaluateArguments, found]
    rfl
  have runs : ∀ body inverse : Part, renderCall (engine.environment now) "blockHelperMissing"
      (if positive then "if" else "unless") ⟨[tested], []⟩ [] false body inverse state =
        state.runHelper false (renderIf positive body inverse ⟨[tested], []⟩) := by
    intro body inverse
    cases positive with
    | true =>
      have free : (engine.environment now).helper? "if" = none := own.1
      rw [if_pos rfl, renderCall, free]
      rfl
    | false =>
      have free : (engine.environment now).helper? "unless" = none := own.2
      rw [if_neg Bool.false_ne_true, renderCall, free]
      rfl
  have chosen : renderIf positive
      (renderElements (engine.environment now) partials (dataX value) main)
      (renderElements (engine.environment now) partials (dataX value) other) ⟨[tested], []⟩ =
        renderElements (engine.environment now) partials (dataX value)
          (if verdict negated value == positive then main else other) := by
    funext state
    rw [← counts]
    show (if tested.holds false == positive then _ else _) = _
    split
    · rfl
    · rfl
  simp only [condition, renderElement, read]
  rw [← chosen]
  exact runs _ _

/-- A template that is a condition alone renders its main branch or nothing. -/
theorem render_condition (serves : engine.ServesCatalog)
    (own : engine.helpers.find? "if" = none ∧ engine.helpers.find? "unless" = none)
    (now : Calendar.Instant) (negated : Bool) :
    render (engine.environment now) [condition true negated [.text "main"] []] (dataX value) =
      .ok (if verdict negated value then "main" else "") := by
  have scopes : (State.start (dataX value)).scopes = [Scope.ofData (dataX value)] := rfl
  have chosen := renderElement_condition value serves own now true negated [.text "main"] []
    (renderAt (engine.environment now) (dataX value) 1999) scopes
  show (renderElement (engine.environment now) (renderAt (engine.environment now) (dataX value) 1999)
    (dataX value) (condition true negated [.text "main"] []) (State.start (dataX value)) >>=
      nothing).map State.text = _
  rw [chosen]
  cases verdict negated value with
  | true => rfl
  | false => rfl

end

def plainSource : String := "\x7b\x7b#if x\x7d\x7dmain\x7b\x7b/if\x7d\x7d"

def negatedSource : String := "\x7b\x7b#if (not x)\x7d\x7dmain\x7b\x7b/if\x7d\x7d"

theorem read_plainSource :
    Template.read plainSource = .ok [condition true false [.text "main"] []] := by
  cbv

theorem read_negatedSource :
    Template.read negatedSource = .ok [condition true true [.text "main"] []] := by
  cbv

/-! ### Where the two agree -/

/-- The catalog and the conditions agree on a value, whatever the branches are, and one of the two
templates renders its main branch, unless the value is borderline; on a borderline value none does. -/
theorem conditions_agree (engine : Engine) (serves : engine.ServesCatalog)
    (own : engine.helpers.find? "if" = none ∧ engine.helpers.find? "unless" = none) (value : Json)
    (fits : value.FitsWord) :
    (value.truthy = value.holds false ↔ ¬ value.Borderline) ∧
    (∀ (now : Calendar.Instant) (positive negated : Bool) (main other : Template)
      (partials : Template → Part) (state : State), state.scopes = [Scope.ofData (dataX value)] →
        renderElement (engine.environment now) partials (dataX value)
            (condition positive negated main other) state =
          state.runHelper false (renderElements (engine.environment now) partials (dataX value)
            (if verdict negated value == positive then main else other))) ∧
    ∃ plain negated, Template.read plainSource = .ok plain ∧
      Template.read negatedSource = .ok negated ∧ ∀ now : Calendar.Instant,
        ((render (engine.environment now) plain (dataX value) = .ok "main" ↔
          ¬ render (engine.environment now) negated (dataX value) = .ok "main") ↔
            ¬ value.Borderline) := by
  have agree : value.truthy = value.holds false ↔ ¬ value.Borderline := by
    refine ⟨fun same between => ?_, fun clear => value.truthy_eq_holds fits clear⟩
    obtain ⟨counted, failed⟩ := Json.truthy_of_borderline between
    rw [counted, failed] at same
    cases same
  refine ⟨agree, fun now positive negated main other partials state scopes =>
    renderElement_condition value serves own now positive negated main other partials scopes,
    _, _, read_plainSource, read_negatedSource, fun now => ?_⟩
  rw [render_condition value serves own, render_condition value serves own, ← agree, verdict, verdict]
  cases value.truthy with
  | true => cases value.holds false <;> simp
  | false => cases value.holds false <;> simp

theorem own_catalogEngine : catalogEngine.helpers.find? "if" = none ∧
    catalogEngine.helpers.find? "unless" = none := by
  have absent : (catalogEngine.helpers.find? "if").isNone ∧
      (catalogEngine.helpers.find? "unless").isNone := by decide +kernel
  exact ⟨Option.isNone_iff_eq_none.mp absent.1, Option.isNone_iff_eq_none.mp absent.2⟩

theorem conditions_agree_number :
    catalogEngine.ServesCatalog ∧
    (catalogEngine.helpers.find? "if" = none ∧ catalogEngine.helpers.find? "unless" = none) ∧
    (Json.int 3).FitsWord ∧ (Json.int 3).truthy = (Json.int 3).holds false := by
  have fits : (Json.int 3).FitsWord := ⟨by decide, by decide⟩
  have agrees := conditions_agree catalogEngine servesCatalog_catalogEngine own_catalogEngine
    (Json.int 3) fits
  exact ⟨servesCatalog_catalogEngine, own_catalogEngine, fits, agrees.1.mpr id⟩

/-- The empty object counts for the catalog alone, so neither condition renders its main branch. -/
theorem conditions_differ :
    (Json.object []).truthy = true ∧ (Json.object []).holds false = false ∧
    ∃ plain negated, Template.read plainSource = .ok plain ∧
      Template.read negatedSource = .ok negated ∧ ∀ now : Calendar.Instant,
        render (catalogEngine.environment now) plain (.object [("x", .object [])]) = .ok "" ∧
        render (catalogEngine.environment now) negated (.object [("x", .object [])]) = .ok "" := by
  refine ⟨rfl, rfl, _, _, read_plainSource, read_negatedSource, fun now => ⟨?_, ?_⟩⟩
  · exact render_condition (.object []) servesCatalog_catalogEngine own_catalogEngine now false
  · exact render_condition (.object []) servesCatalog_catalogEngine own_catalogEngine now true

end Render

end Stencil
