import Stencil.Render.Error
import Stencil.Template.Element
import Stencil.Text.Natural

set_option autoImplicit false

/-!
Scopes, and how paths are looked up in them. The body of a block that changes the context has a scope
of its own, and so has every partial; the outermost scope is that of the data.
-/

namespace Stencil.Render

open Template (Path Segment)

structure Scope where
  /-- The context. -/
  value : Json
  /-- The values that the block has named. -/
  params : List (String × Json)
  /-- The variables with a mark, such as the position in a loop. -/
  locals : List (String × Json)
  /-- The partials that are defined in the block. -/
  partials : List (String × Template)

namespace Scope

def ofData (data : Json) : Scope := ⟨data, [], [], []⟩

end Scope

/-- The first entry of a name. -/
def lookup? {α : Type} (name : String) (entries : List (String × α)) : Option α :=
  (entries.find? (·.1 == name)).map (·.2)

/-- The value that some scope has named, the innermost first. -/
def param? (name : String) (scopes : List Scope) : Option Json :=
  scopes.findSome? fun scope => lookup? name scope.params

/-- The partial that some scope defines, the innermost first. -/
def inline? (name : String) (scopes : List Scope) : Option Template :=
  scopes.findSome? fun scope => lookup? name scope.partials

def context (scopes : List Scope) : Json := (scopes.head?.map Scope.value).getD .null

/-- One step into a value; what is missing has no parts. -/
def step (value : Option Json) (name : String) : Rendered (Option Json) :=
  match value with
  | some (.array items) =>
    match Text.natural? name.toList with
    | some index => .ok items[index]?
    | none => .error (.notAnIndex name)
  | some (.object fields) => .ok (Json.find? name fields)
  | _ => .ok none

def walk (value : Json) (names : List String) : Rendered (Option Json) :=
  names.foldlM step (some value)

/-- The names of a path. -/
def names (segments : List Segment) : List String :=
  segments.filterMap fun segment =>
    match segment with
    | .named name => some name
    | _ => none

/-- Splits a path after its steps outward. -/
def outward : List Segment → Nat × List Segment
  | .up :: segments =>
    let (depth, rest) := outward segments
    (depth + 1, rest)
  | segments => (0, segments)

/-- The context that many scopes further out; beyond the outermost it is the innermost again. -/
def contextAt (depth : Nat) (scopes : List Scope) : Json :=
  (scopes[depth]?.map Scope.value).getD (context scopes)

/-- The value at a path, none if it is missing. A value that a block has named comes before a field of
the context, even after steps outward. -/
def resolve (data : Json) (scopes : List Scope) (path : Path) : Rendered (Option Json) :=
  match path.scopeVariable? with
  | some (level, name) => .ok ((scopes[level]?).bind fun scope => lookup? name scope.locals)
  | none =>
    let (depth, rest) := outward path.segments
    match rest with
    | .named name :: more =>
      match param? name scopes with
      | some value => walk value (names more)
      | none => walk (contextAt depth scopes) (name :: names more)
    | .root :: more => walk (if depth = 0 then data else contextAt depth scopes) (names more)
    | rest => walk (contextAt depth scopes) (names rest)

end Stencil.Render
