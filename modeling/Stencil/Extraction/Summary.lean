import Stencil.Extraction.Mention
import Stencil.Extraction.Region
import Stencil.Extraction.Shape
import Stencil.Extraction.Walk
import Stencil.Template.Nesting

set_option autoImplicit false

/-!
What a source needs to be rendered: its variables, their shapes, and the helpers and partials it
names. A source without a reading is scanned for what looks like variables.
-/

namespace Stencil.Extraction

/-- How reliable a list of variables is. -/
inductive Precision where
  /-- All references were read. -/
  | precise
  /-- The source has no reading, but regions that were scanned. -/
  | approximate
  /-- The source has no reading and no regions. -/
  | unknown
  deriving DecidableEq

/-- The variables that were found in a source. -/
structure Finding where
  names : List String
  precision : Precision
  deriving DecidableEq

/-- The different variables of references, in order of their first places. -/
def variablesOf (references : List Reference) : List String :=
  distinctNames (references.filterMap fun reference => baseVariable? reference.raw)

/-- The variables of a source. -/
def extract (source : String) : Finding :=
  match Template.read source with
  | .ok template => ⟨variablesOf (references template), .precise⟩
  | .error _ =>
    ⟨scannedVariables source, if (regions source).isEmpty then .unknown else .approximate⟩

/-- What is known about a variable. -/
inductive Inference where
  | precise (shape : Shape)
  | approximate (shape : Shape)
  | unknown

def Observation.inference (observation : Observation) : Inference :=
  if observation.exact then .precise observation.shape else .approximate observation.shape

/-- The shapes of a source's variables. -/
def inferShapes (source : String) : List (String × Inference) :=
  match Template.read source with
  | .ok template =>
    (observations (references template)).map fun (name, seen) => (name, seen.inference)
  | .error _ => (scannedVariables source).map fun name => (name, .unknown)

/-- The names that a source uses. -/
structure Metadata where
  /-- The names of its variables. -/
  names : List String
  helpers : List String
  partials : List String
  deriving DecidableEq

def metadata (source : String) : Metadata :=
  ⟨(extract source).names, helperNames source, partialNames source⟩

end Stencil.Extraction
