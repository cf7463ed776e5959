import Stencil.Render.Block

set_option autoImplicit false

/-!
Rendering templates. Partials are rendered by the same rules, through a function that is handed down,
so that how deep they may include each other is bounded in one place.
-/

namespace Stencil.Render

open Template (Expression Element)

def nothing : Part := fun state => .ok state

/-- Writes a value tag. A name alone is a helper if there is one, and else a path. -/
def renderValue (environment : Environment) (data : Json) (expression : Expression) (state : State) :
    Rendered State := do
  if expression.arguments.isEmpty then
    let name ← headName environment data state.scopes expression.head
    if (environment.helper? name).isSome || (Builtin.find? name).isSome then
      renderCall environment "helperMissing" name ⟨[], []⟩ [] false nothing nothing state
    else
      match ← evaluate environment data state.scopes expression.head with
      | some value => return state.write value.shown
      | none =>
        match environment.helper? "helperMissing" with
        | some helper =>
          return state.write (← runRegistered environment helper name ⟨[], []⟩).shown
        | none => return state
  else
    let (name, arguments) ← evaluateExpression environment data state.scopes expression
    renderCall environment "helperMissing" name arguments [] false nothing nothing state

/-- Defines a partial in the innermost scope. -/
def definePartial (name : String) (body : Template) (state : State) : State :=
  state.modifyScope fun scope => { scope with partials := (name, body) :: scope.partials }

/-- Runs a decorator: only the definition of partials is known, and it needs a name and a body. -/
def renderDecoration (environment : Environment) (data : Json) (expression : Expression)
    (body : Option Template) (state : State) : Rendered State := do
  let (name, arguments) ← evaluateExpression environment data state.scopes expression
  if name = "inline" then
    match ← arguments.require "inline" 0, body with
    | .string name, some body => return definePartial name body state
    | .string _, none => .error .blockRequired
    | _, _ => .error (.wrongParameter "String")
  else .error (.decoratorNotFound name)

/-- The name under which a partial includes the block that it was included with. -/
def blockName : String := "@partial-block"

/-- The partial of a name: one that an open scope defines comes before a template. -/
def findPartial? (environment : Environment) (name : String) (scopes : List Scope) : Option Template :=
  (inline? name scopes).or (environment.template? name)

/-- The fields of a value to which options are added: items and characters count by position. -/
def fieldsOf : Json → List (String × Json)
  | .object fields => fields
  | .array items =>
    items.zipIdx.foldl (fun fields (item, index) => Json.insert (toString index) item fields) []
  | .string text =>
    text.toList.zipIdx.foldl (fun fields (c, index) =>
      Json.insert (toString index) (.string (String.singleton c)) fields) []
  | _ => []

/-- The scope of a partial: its context is the argument or the one around it, with all options. -/
def partialScope (arguments : Arguments) (scopes : List Scope) : Scope :=
  let base := (arguments.positional.head?).getD (context scopes)
  let value :=
    if arguments.options.isEmpty then base
    else .object (arguments.options.foldl (fun fields (key, value) =>
      Json.insert key value fields) (fieldsOf base))
  ⟨value, arguments.options, (scopes.head?.map Scope.locals).getD [], []⟩

/-- Renders the block of an inclusion to a text of its own. -/
def blockText (body : Option Part) (state : State) : Rendered (Option String × State) :=
  match body with
  | none => .ok (none, state)
  | some body => do
    let after ← body { state with text := "" }
    return (some after.text, { after with text := state.text })

/-- Renders a partial in a scope of its own. A block is rendered first, in that same scope, so that the
partial sees what the block defines; it stands in for a partial that is not found. -/
def expandPartial (environment : Environment) (partials : Template → Part) (name : String)
    (arguments : Arguments) (indent : Option String) (body : Option Part) (state : State) :
    Rendered State := do
  let (block, inner) ← blockText body (state.push (partialScope arguments state.scopes))
  let after ←
    match findPartial? environment name inner.scopes, block with
    | some template, _ =>
      partials template { inner with block, indent := state.indent ++ indent.getD "" }
    | none, some block => .ok (inner.insert block)
    | none, none => .error (.partialNotFound name)
  return { after.pop with block := state.block, indent := state.indent }

/-- Inserts the block of the partial that is being rendered; if there is none, `body` is rendered where
it stands. -/
def expandBlock (body : Option Part) (state : State) : Rendered State :=
  match state.block, body with
  | some block, _ => .ok (state.insert block)
  | none, some body => body state
  | none, none => .error .partialBlockNotFound

/-- Includes a partial. -/
def renderInclusion (environment : Environment) (partials : Template → Part) (data : Json)
    (expression : Expression) (indented : Bool) (indent : Option String) (body : Option Part)
    (state : State) : Rendered State := do
  let (name, arguments) ← evaluateExpression environment data state.scopes expression
  state.runPartial indented indent
    (if name = blockName then expandBlock body
      else expandPartial environment partials name arguments indent body)

mutual

/-- Renders an element; `partials` renders those that are included. -/
def renderElement (environment : Environment) (partials : Template → Part) (data : Json) :
    Element → Part
  | .text text => fun state => .ok (state.write text)
  | .value expression => renderValue environment data expression
  | .block expression params indented body inverse => fun state => do
    let (name, arguments) ← evaluateExpression environment data state.scopes expression
    renderCall environment "blockHelperMissing" name arguments params indented
      (renderElements environment partials data body)
      (renderElements environment partials data inverse) state
  | .inclusion expression indented indent =>
    renderInclusion environment partials data expression indented indent none
  | .inclusionBlock expression indented body =>
    renderInclusion environment partials data expression indented none
      (some (renderElements environment partials data body))
  | .decoration expression => renderDecoration environment data expression none
  | .decorationBlock expression body => renderDecoration environment data expression (some body)
  | .comment _ => nothing

/-- Renders elements in turn. -/
def renderElements (environment : Environment) (partials : Template → Part) (data : Json) :
    List Element → Part
  | [] => nothing
  | element :: elements => fun state => do
    renderElements environment partials data elements
      (← renderElement environment partials data element state)

end

/-- Renders a template in which partials nest at most `depth` deep. -/
def renderAt (environment : Environment) (data : Json) : Nat → Template → Part
  | 0, _ => fun _ => .error .tooDeep
  | depth + 1, template => renderElements environment (renderAt environment data depth) data template

/-- How deep partials may nest. -/
def maxDepth : Nat := 2000

/-- Renders a template with data. -/
def render (environment : Environment) (template : Template) (data : Json) : Rendered String :=
  (renderAt environment data maxDepth template (State.start data)).map State.text

end Stencil.Render
