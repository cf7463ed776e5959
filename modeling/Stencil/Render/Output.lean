import Stencil.Render.Scope
import Stencil.Template.Spacing

set_option autoImplicit false

/-!
The state of rendering, and how text is written. Partials that stand on a line of their own indent
every line that they write.
-/

namespace Stencil.Render

structure State where
  /-- What has been written. -/
  text : String
  /-- The open scopes, innermost first. -/
  scopes : List Scope
  /-- The text of the block that the partial was included with, none if it was included without one. -/
  block : Option String
  /-- Written before each line. -/
  indent : String
  /-- Whether the current tag has written anything. -/
  produced : Bool
  /-- Whether the next text is the first of its line. -/
  fresh : Bool
  /-- Whether the last text ended its line. -/
  ended : Bool

namespace State

def start (data : Json) : State := ⟨"", [Scope.ofData data], none, "", false, false, false⟩

/-- A text with an indentation behind each line break but the last. -/
def indentLines (indent : String) : List Char → String → String
  | [], written => written
  | [c], written => written.push c
  | c :: text, written =>
    let written := written.push c
    indentLines indent text (if c = '\n' then written ++ indent else written)

/-- Writes a text. -/
def write (state : State) (text : String) : State :=
  match text.toList with
  | [] => state
  | c :: rest =>
    let lead := if state.fresh && !Template.isLineBreak c then state.indent else ""
    let written := state.text ++ lead
    let written :=
      if state.indent.isEmpty then written ++ text else indentLines state.indent (c :: rest) written
    let ended := (((c :: rest).getLast?).map Template.isLineBreak).getD false
    { state with text := written, produced := true, fresh := ended, ended }

/-- Inserts a text that has been laid out already: no line of it is indented again, and the place in the
line stays as it was. -/
def insert (state : State) (text : String) : State := { state with text := state.text ++ text }

def push (state : State) (scope : Scope) : State := { state with scopes := scope :: state.scopes }

def pop (state : State) : State := { state with scopes := state.scopes.tail }

/-- Changes the innermost scope. -/
def modifyScope (state : State) (change : Scope → Scope) : State :=
  match state.scopes with
  | [] => state
  | scope :: scopes => { state with scopes := change scope :: scopes }

/-- The state after a tag. One that has written nothing leaves the place in the line as it was. -/
def settle (before after : State) : State :=
  if after.produced then { after with fresh := after.ended }
  else { after with produced := before.produced, fresh := before.fresh }

/-- Runs a helper. One that took its line away is at the beginning of a line if text just ended one. -/
def runHelper (state : State) (indented : Bool) (run : State → Rendered State) : Rendered State := do
  let fresh := state.fresh || (indented && state.ended)
  return state.settle (← run { state with produced := false, fresh })

/-- Runs a partial, which may bring an indentation with it. -/
def runPartial (state : State) (indented : Bool) (indent : Option String)
    (run : State → Rendered State) : Rendered State := do
  let fresh := indented && (state.ended || indent.isSome)
  return state.settle (← run { state with produced := false, fresh })

end State

end Stencil.Render
