import Stencil.Workspace.Basic

set_option autoImplicit false

/-!
Rendering documents. A schema lets the data through first; the guarded forms insist on a schema, and
the lenient form gives nothing for data that the schema finds invalid.
-/

namespace Stencil

namespace Document

/-- The data that is rendered: what the schema lets through, or the data itself. -/
def accept (document : Document) (timing : Timing) (data : Json) : Except TemplateError Json :=
  match document.schema with
  | some schema => (schema.parse timing data).mapError .refused
  | none => .ok data

def requireSchema (document : Document) : Except TemplateError Schema :=
  match document.schema with
  | some schema => .ok schema
  | none => .error .noSchema

/-- Checks data without rendering it. -/
def validate (document : Document) (timing : Timing) (data : Json) :
    Except TemplateError Verdict := do
  let schema ← document.requireSchema
  (schema.validate timing data).mapError .refused

end Document

namespace Workspace

/-- Renders a template that is registered in an engine. -/
def renderRegistered (workspace : Workspace) (now : Calendar.Instant) (id : EngineId)
    (name : String) (data : Json) : Except TemplateError String :=
  ((workspace.engine id).render now name data).mapError .unrendered

/-- Renders a document. -/
def render (workspace : Workspace) (now : Calendar.Instant) (document : Document) (timing : Timing)
    (data : Json) : Except TemplateError String := do
  let value ← document.accept timing data
  workspace.renderRegistered now document.engine document.key value

/-- Renders a document that has a schema. -/
def renderGuarded (workspace : Workspace) (now : Calendar.Instant) (document : Document)
    (timing : Timing) (data : Json) : Except TemplateError String := do
  let _ ← document.requireSchema
  workspace.render now document timing data

/-- Renders a document that has a schema; invalid data gives nothing. -/
def renderGuarded? (workspace : Workspace) (now : Calendar.Instant) (document : Document)
    (timing : Timing) (data : Json) : Except TemplateError (Option String) :=
  match workspace.renderGuarded now document timing data with
  | .ok text => .ok (some text)
  | .error error => if error.isValidation then .ok none else .error error

end Workspace

end Stencil
