import Stencil.Workspace.Session

set_option autoImplicit false

/-!
Schemas at the entry points. Whatever waits for a schema is a function of the outcome on which the
schema settles; whatever does not wait gives the same if the outcome is there at once, and the same
refusal of every value if it is not. Documents without a schema refuse what insists on one, and the
lenient form swallows the refusals of invalid values alone (`entry_points_agree`).
-/

namespace Stencil

namespace Outcome

/-- The value that is taken, if one is. -/
def value? : Outcome → Option Json
  | valid value => some value
  | invalid _ => none

/-- The value that is taken, or the issues in the name of a vendor. -/
def taken (vendor : String) : Outcome → Except Refusal Json
  | valid value => .ok value
  | invalid issues => .error (.invalid issues vendor)

/-- What a render mode makes of an outcome, where `render` renders a value. -/
def rendered (mode : RenderMode) (vendor : String) (render : Json → Except TemplateError String) :
    Outcome → Except TemplateError (Option String)
  | valid value => (render value).map some
  | invalid issues =>
    match mode with
    | .lenient => .ok none
    | .plain => .error (.refused (.invalid issues vendor))
    | .guarded => .error (.refused (.invalid issues vendor))

end Outcome

/-- What is given at once: what is given in the end if the outcome is there, and else a refusal. -/
def Validation.atOnce {α : Type} (validation : Validation) (refused inTheEnd : α) : α :=
  match validation with
  | ready _ => inTheEnd
  | deferred _ => refused

namespace Schema

variable (schema : Schema) (value : Json)

theorem validate_awaited : schema.validate .awaited value =
    .ok ⟨(schema.check value).settled, schema.vendor⟩ := by
  unfold validate
  cases schema.check value with
  | ready outcome => rfl
  | deferred outcome => rfl

theorem validate_immediate : schema.validate .immediate value =
    (schema.check value).atOnce (.error (.deferred schema.vendor))
      (schema.validate .awaited value) := by
  unfold validate
  cases schema.check value with
  | ready outcome => rfl
  | deferred outcome => rfl

theorem parse_awaited : schema.parse .awaited value =
    (schema.check value).settled.taken schema.vendor := by
  simp only [parse, validate_awaited, Verdict.result]
  cases (schema.check value).settled with
  | valid value => rfl
  | invalid issues => rfl

theorem parse_immediate : schema.parse .immediate value =
    (schema.check value).atOnce (.error (.deferred schema.vendor))
      (schema.parse .awaited value) := by
  rw [parse, parse, validate_immediate]
  cases schema.check value with
  | ready outcome => rfl
  | deferred outcome => rfl

theorem parse?_awaited : schema.parse? .awaited value = (schema.check value).settled.value? := by
  rw [parse?, parse_awaited]
  cases (schema.check value).settled with
  | valid value => rfl
  | invalid issues => rfl

theorem parse?_immediate : schema.parse? .immediate value =
    (schema.check value).atOnce none (schema.parse? .awaited value) := by
  rw [parse?, parse?, parse_immediate]
  cases schema.check value with
  | ready outcome => rfl
  | deferred outcome => rfl

end Schema

namespace Document

variable {document : Document} {schema : Schema}

theorem validate_of_schema (guarded : document.schema = some schema) (timing : Timing)
    (data : Json) : document.validate timing data =
      (schema.validate timing data).mapError .refused := by
  simp only [validate, requireSchema, guarded]
  rfl

theorem validate_of_none (bare : document.schema = none) (timing : Timing) (data : Json) :
    document.validate timing data = .error .noSchema := by
  simp only [validate, requireSchema, bare]
  rfl

end Document

namespace Workspace

variable (workspace : Workspace) (now : Calendar.Instant) {document : Document} {schema : Schema}

/-! ### Documents without a schema -/

theorem render_of_none (bare : document.schema = none) (timing : Timing) (data : Json) :
    workspace.render now document timing data =
      workspace.renderRegistered now document.engine document.key data := by
  simp only [render, Document.accept, bare]
  rfl

theorem renderGuarded_of_none (bare : document.schema = none) (timing : Timing) (data : Json) :
    workspace.renderGuarded now document timing data = .error .noSchema := by
  simp only [renderGuarded, Document.requireSchema, bare]
  rfl

/-! ### Documents with a schema -/

theorem renderGuarded_of_schema (guarded : document.schema = some schema) (timing : Timing)
    (data : Json) : workspace.renderGuarded now document timing data =
      workspace.render now document timing data := by
  simp only [renderGuarded, Document.requireSchema, guarded]
  rfl

theorem render_of_schema (guarded : document.schema = some schema) (timing : Timing)
    (data : Json) : workspace.render now document timing data =
      ((schema.parse timing data).mapError .refused).bind
        (workspace.renderRegistered now document.engine document.key) := by
  simp only [render, Document.accept, guarded]
  rfl

/-- What waits for the schema depends on the data through the settled outcome alone. -/
theorem renderAs_awaited (guarded : document.schema = some schema) (mode : RenderMode)
    (data : Json) : workspace.renderAs mode now document .awaited data =
      (schema.check data).settled.rendered mode schema.vendor
        (workspace.renderRegistered now document.engine document.key) := by
  have parsed := schema.parse_awaited data
  have plain := workspace.render_of_schema now guarded .awaited data
  have same := workspace.renderGuarded_of_schema now guarded .awaited data
  rw [parsed] at plain
  cases outcome : (schema.check data).settled with
  | valid value =>
    have rendered : workspace.render now document .awaited data =
        workspace.renderRegistered now document.engine document.key value := by
      rw [plain, outcome]
      rfl
    cases mode with
    | plain =>
      rw [renderAs, rendered]
      rfl
    | guarded =>
      rw [renderAs, same, rendered]
      rfl
    | lenient =>
      rw [renderAs, renderGuarded?, same, rendered, Outcome.rendered, renderRegistered]
      cases (workspace.engine document.engine).render now document.key value with
      | ok text => rfl
      | error error => rfl
  | invalid issues =>
    have refused : workspace.render now document .awaited data =
        .error (.refused (.invalid issues schema.vendor)) := by
      rw [plain, outcome]
      rfl
    cases mode with
    | plain =>
      rw [renderAs, refused]
      rfl
    | guarded =>
      rw [renderAs, same, refused]
      rfl
    | lenient =>
      rw [renderAs, renderGuarded?, same, refused]
      rfl

/-- What does not wait gives the same at once, or the refusal that names the schema. -/
theorem renderAs_immediate (guarded : document.schema = some schema) (mode : RenderMode)
    (data : Json) : workspace.renderAs mode now document .immediate data =
      (schema.check data).atOnce (.error (.refused (.deferred schema.vendor)))
        (workspace.renderAs mode now document .awaited data) := by
  have late := workspace.render_of_schema now guarded .awaited data
  have soon := workspace.render_of_schema now guarded .immediate data
  rw [schema.parse_immediate data] at soon
  cases mode <;>
    simp only [renderAs, renderGuarded?, workspace.renderGuarded_of_schema now guarded, soon, late] <;>
    cases schema.check data <;> rfl

/-- Data is refused by name, or not rendered: a schema that is there is never missed. -/
theorem render_ne_noSchema (guarded : document.schema = some schema) (timing : Timing)
    (data : Json) : workspace.render now document timing data ≠ .error .noSchema := by
  rw [workspace.render_of_schema now guarded]
  cases schema.parse timing data with
  | error refusal =>
    intro missed
    cases missed
  | ok value =>
    intro missed
    have failed : ((workspace.engine document.engine).render now document.key value).mapError
        TemplateError.unrendered = .error .noSchema := missed
    cases rendered : (workspace.engine document.engine).render now document.key value with
    | ok text => rw [rendered] at failed; cases failed
    | error error => rw [rendered] at failed; cases failed

theorem renderGuarded_eq_noSchema_iff (timing : Timing) (data : Json) :
    workspace.renderGuarded now document timing data = .error .noSchema ↔
      document.schema = none := by
  constructor
  · intro missed
    cases guarded : document.schema with
    | none => rfl
    | some schema =>
      rw [workspace.renderGuarded_of_schema now guarded] at missed
      exact absurd missed (workspace.render_ne_noSchema now guarded timing data)
  · exact fun bare => workspace.renderGuarded_of_none now bare timing data

/-! ### The lenient form -/

/-- The lenient form gives nothing exactly for data that is invalid. -/
theorem renderGuarded?_eq_none_iff (timing : Timing) (data : Json) :
    workspace.renderGuarded? now document timing data = .ok none ↔
      ∃ issues vendor, workspace.renderGuarded now document timing data =
        .error (.refused (.invalid issues vendor)) := by
  unfold renderGuarded?
  cases workspace.renderGuarded now document timing data with
  | ok text => simp
  | error error =>
    cases error with
    | refused refusal => cases refusal <;> simp [TemplateError.isValidation]
    | _ => simp [TemplateError.isValidation]

/-- The lenient form passes on whatever else there is. -/
theorem renderGuarded?_of_ne_none (timing : Timing) (data : Json)
    (kept : workspace.renderGuarded? now document timing data ≠ .ok none) :
    workspace.renderGuarded? now document timing data =
      (workspace.renderGuarded now document timing data).map some := by
  unfold renderGuarded? at kept ⊢
  cases result : workspace.renderGuarded now document timing data with
  | ok text => rfl
  | error error =>
    rw [result] at kept
    cases swallowed : error.isValidation with
    | true => simp [swallowed] at kept
    | false => simp [swallowed, Except.map]

theorem renderGuarded?_eq_noSchema_iff (timing : Timing) (data : Json) :
    workspace.renderGuarded? now document timing data = .error .noSchema ↔
      document.schema = none := by
  rw [← workspace.renderGuarded_eq_noSchema_iff now timing data]
  by_cases lost : workspace.renderGuarded? now document timing data = .ok none
  · obtain ⟨issues, vendor, refused⟩ := (workspace.renderGuarded?_eq_none_iff now timing data).1 lost
    simp [lost, refused]
  · rw [workspace.renderGuarded?_of_ne_none now timing data lost]
    cases workspace.renderGuarded now document timing data <;> simp [Except.map]

end Workspace

namespace Document

variable {document : Document}

theorem validate_eq_noSchema_iff (timing : Timing) (data : Json) :
    document.validate timing data = .error .noSchema ↔ document.schema = none := by
  constructor
  · intro missed
    cases guarded : document.schema with
    | none => rfl
    | some schema =>
      rw [validate_of_schema guarded] at missed
      cases verdict : schema.validate timing data <;> rw [verdict] at missed <;> cases missed
  · exact fun bare => validate_of_none bare timing data

end Document

namespace Workspace

/--
The entry points agree on what a schema says of data.

What waits depends on the data through the settled outcome: a valid value is what is given and what
is rendered, and issues are refused in the name of the schema's vendor. What does not wait gives the
same if the outcome is there, and else refuses to validate, to parse and to render. A document
refuses what insists on a schema exactly if it has none. The lenient form gives nothing exactly if
the guarded form refuses invalid data, and passes on every other result.
-/
theorem entry_points_agree (workspace : Workspace) (now : Calendar.Instant) (document : Document)
    (data : Json) :
    (∀ schema : Schema,
      schema.validate .awaited data = .ok ⟨(schema.check data).settled, schema.vendor⟩ ∧
      schema.parse .awaited data = (schema.check data).settled.taken schema.vendor ∧
      schema.parse? .awaited data = (schema.check data).settled.value? ∧
      schema.validate .immediate data = (schema.check data).atOnce
        (.error (.deferred schema.vendor)) (schema.validate .awaited data) ∧
      schema.parse .immediate data = (schema.check data).atOnce
        (.error (.deferred schema.vendor)) (schema.parse .awaited data) ∧
      schema.parse? .immediate data = (schema.check data).atOnce
        none (schema.parse? .awaited data)) ∧
    (∀ schema : Schema, document.schema = some schema →
      document.validate .awaited data = .ok ⟨(schema.check data).settled, schema.vendor⟩ ∧
      document.validate .immediate data = (schema.check data).atOnce
        (.error (.refused (.deferred schema.vendor))) (document.validate .awaited data) ∧
      ∀ mode : RenderMode,
        workspace.renderAs mode now document .awaited data =
          (schema.check data).settled.rendered mode schema.vendor
            (workspace.renderRegistered now document.engine document.key) ∧
        workspace.renderAs mode now document .immediate data = (schema.check data).atOnce
          (.error (.refused (.deferred schema.vendor)))
          (workspace.renderAs mode now document .awaited data)) ∧
    ∀ timing : Timing,
      (document.schema = none → workspace.render now document timing data =
        workspace.renderRegistered now document.engine document.key data) ∧
      (document.validate timing data = .error .noSchema ↔ document.schema = none) ∧
      (workspace.renderGuarded now document timing data = .error .noSchema ↔
        document.schema = none) ∧
      (workspace.renderGuarded? now document timing data = .error .noSchema ↔
        document.schema = none) ∧
      (workspace.renderGuarded? now document timing data = .ok none ↔
        ∃ issues vendor, workspace.renderGuarded now document timing data =
          .error (.refused (.invalid issues vendor))) ∧
      (workspace.renderGuarded? now document timing data ≠ .ok none →
        workspace.renderGuarded? now document timing data =
          (workspace.renderGuarded now document timing data).map some) := by
  refine ⟨fun schema => ?schemas, fun schema guarded => ?guarded, fun timing => ?timings⟩
  case schemas =>
    exact ⟨schema.validate_awaited data, schema.parse_awaited data, schema.parse?_awaited data,
      schema.validate_immediate data, schema.parse_immediate data, schema.parse?_immediate data⟩
  case guarded =>
    refine ⟨?_, ?_, fun mode => ⟨workspace.renderAs_awaited now guarded mode data,
      workspace.renderAs_immediate now guarded mode data⟩⟩
    · rw [Document.validate_of_schema guarded, schema.validate_awaited]
      rfl
    · rw [Document.validate_of_schema guarded, Document.validate_of_schema guarded,
        schema.validate_immediate]
      cases schema.check data <;> rfl
  case timings =>
    exact ⟨fun bare => workspace.render_of_none now bare timing data,
      Document.validate_eq_noSchema_iff timing data,
      workspace.renderGuarded_eq_noSchema_iff now timing data,
      workspace.renderGuarded?_eq_noSchema_iff now timing data,
      workspace.renderGuarded?_eq_none_iff now timing data,
      workspace.renderGuarded?_of_ne_none now timing data⟩

/-- A schema that answers late, and takes all but null. -/
def late : Schema where
  protocol? := some ⟨Schema.version, "late"⟩
  check value :=
    match value with
    | .null => .deferred (.invalid [⟨"expected a value", []⟩])
    | value => .deferred (.valid value)

/-- A document that reads "hi", for data that the schema takes. -/
def greeting : Document := ⟨"hi", none, some late, false, .common, "greeting"⟩

/-- A workspace whose common engine has the template of the document. -/
def greetingHeld : Workspace :=
  empty.setEngine .common (Engine.empty.registerTemplate "greeting" [.text "hi"])

/-- Waiting tells data that is taken from data that is not, and at once both are refused. -/
theorem entry_points_agree_late : greeting.schema = some late ∧
    ∀ now : Calendar.Instant,
      greetingHeld.renderAs .lenient now greeting .awaited (.bool true) = .ok (some "hi") ∧
      greetingHeld.renderAs .lenient now greeting .awaited .null = .ok none ∧
      greetingHeld.renderAs .plain now greeting .awaited .null =
        .error (.refused (.invalid [⟨"expected a value", []⟩] "late")) ∧
      greetingHeld.renderAs .lenient now greeting .immediate .null =
        .error (.refused (.deferred "late")) := by
  refine ⟨rfl, fun now => ?_⟩
  have taken := (entry_points_agree greetingHeld now greeting (.bool true)).2.1 late rfl
  have refused := (entry_points_agree greetingHeld now greeting .null).2.1 late rfl
  have text : greetingHeld.renderRegistered now .common "greeting" (.bool true) = .ok "hi" := by
    rfl
  refine ⟨?_, (refused.2.2 .lenient).1, (refused.2.2 .plain).1, (refused.2.2 .lenient).2⟩
  rw [(taken.2.2 .lenient).1]
  simp only [late, Validation.settled, Outcome.rendered, greeting, text, Except.map]

end Workspace

end Stencil
