import Stencil.Json.Basic

set_option autoImplicit false

/-!
Schemas guard the data of a template. A schema names its protocol and checks a value: the outcome is
there at once or has to be awaited. Every entry point is a function of the settled outcome, and the
immediate ones refuse an outcome that has to be awaited.
-/

namespace Stencil

/-- A step on the way to a field. -/
inductive PathStep where
  | key (name : String)
  | position (index : Nat)
  deriving DecidableEq

/-- What is wrong with a value, and where. -/
structure Issue where
  message : String
  path : List PathStep
  deriving DecidableEq

namespace PathStep

def text : PathStep → String
  | key name => name
  | position index => toString index

end PathStep

namespace Issue

/-- The path with dots, none for an issue of the whole value. -/
def dotted? (issue : Issue) : Option String :=
  if issue.path.isEmpty then none
  else some (".".intercalate (issue.path.map PathStep.text))

end Issue

inductive Outcome where
  /-- The value is taken, perhaps changed. -/
  | valid (value : Json)
  | invalid (issues : List Issue)

/-- What a schema answers: an outcome that is there, or one that comes later. -/
inductive Validation where
  | ready (outcome : Outcome)
  | deferred (outcome : Outcome)

/-- How long a caller waits for an outcome. -/
inductive Timing where
  | immediate
  | awaited
  deriving DecidableEq

namespace Validation

/-- The outcome that is there in the end. -/
def settled : Validation → Outcome
  | ready outcome => outcome
  | deferred outcome => outcome

/-- The outcome that a caller gets. -/
def outcome? (timing : Timing) : Validation → Option Outcome
  | ready outcome => some outcome
  | deferred outcome =>
    match timing with
    | .immediate => none
    | .awaited => some outcome

end Validation

structure Protocol where
  version : Nat
  vendor : String
  deriving DecidableEq

structure Schema where
  protocol? : Option Protocol
  check : Json → Validation

/-- An outcome and whose it is. -/
structure Verdict where
  outcome : Outcome
  vendor : String

/-- Why a schema lets no value through. -/
inductive Refusal where
  | invalid (issues : List Issue) (vendor : String)
  /-- The outcome has to be awaited. -/
  | deferred (vendor : String)
  deriving DecidableEq

/-- Why a schema cannot be used at all. -/
inductive SchemaFault where
  | noProtocol
  | unsupportedVersion (version : Nat)
  deriving DecidableEq

namespace Refusal

/-- The report of issues: a heading, and one line for each. -/
def report (issues : List Issue) (vendor : String) : String :=
  let heading := if vendor.isEmpty then "Validation failed:"
    else "Validation failed (" ++ vendor ++ "):"
  let lines := issues.map fun issue =>
    "\n  - " ++ issue.message ++ (issue.dotted?.map fun path => " (at " ++ path ++ ")").getD ""
  heading ++ String.join lines

def message : Refusal → String
  | invalid issues vendor => report issues vendor
  | deferred vendor => "schema '" ++ vendor ++ "' validates asynchronously; use the async variant"

end Refusal

namespace Verdict

/-- The value that is taken, or the issues as a refusal. -/
def result (verdict : Verdict) : Except Refusal Json :=
  match verdict.outcome with
  | .valid value => .ok value
  | .invalid issues => .error (.invalid issues verdict.vendor)

end Verdict

namespace Schema

/-- The one version of the protocol that is understood. -/
def version : Nat := 1

def fault? (schema : Schema) : Option SchemaFault :=
  match schema.protocol? with
  | none => some .noProtocol
  | some protocol =>
    if protocol.version = version then none else some (.unsupportedVersion protocol.version)

/-- True for a schema that can be used. -/
def isStandard (schema : Schema) : Bool := schema.fault?.isNone

def vendor (schema : Schema) : String := (schema.protocol?.map Protocol.vendor).getD ""

def validate (schema : Schema) (timing : Timing) (value : Json) : Except Refusal Verdict :=
  match (schema.check value).outcome? timing with
  | some outcome => .ok ⟨outcome, schema.vendor⟩
  | none => .error (.deferred schema.vendor)

/-- The value that the schema lets through. -/
def parse (schema : Schema) (timing : Timing) (value : Json) : Except Refusal Json :=
  match schema.validate timing value with
  | .ok verdict => verdict.result
  | .error refusal => .error refusal

/-- The value that the schema lets through, if any. -/
def parse? (schema : Schema) (timing : Timing) (value : Json) : Option Json :=
  (schema.parse timing value).toOption

/-- Objects that have every one of some fields, and none of these null. -/
def required (fields : List String) : Schema where
  protocol? := some ⟨version, "quill"⟩
  check value :=
    match value with
    | .object present =>
      let lacking := fields.filter fun field =>
        match Json.find? field present with
        | none | some .null => true
        | some _ => false
      if lacking.isEmpty then .ready (.valid value)
      else .ready (.invalid (lacking.map fun field => ⟨"required", [.key field]⟩))
    | _ => .ready (.invalid [⟨"expected an object", []⟩])

end Schema

end Stencil
