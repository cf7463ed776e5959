import Stencil.Diagnostic.Location
import Stencil.Template.Nesting
import Stencil.Text.Quoted
import Stencil.Text.Search

set_option autoImplicit false

/-!
Diagnostics of sources that are no templates: the message, the place as far as it is known, the
source lines around it, and advice that words of the error's text call for.
-/

namespace Stencil

open Template (Fault SourceError)

structure SyntaxError where
  message : String
  template : Option String
  line : Option Nat
  column : Option Nat
  context : List (Nat × String)
  suggestions : List String
  deriving DecidableEq

namespace SyntaxError

/-! ### Context -/

/-- How many lines are shown on each side. -/
def radius : Nat := 2

/-- The last line shown around a line, if its number has 64 bits. -/
def lastShown? (line : Nat) : Option Nat :=
  if line + radius < Nat.pow 2 64 then some (line + radius) else none

/-- The numbered lines of a source around a line. -/
def excerpt (source : String) (line : Nat) : List (Nat × String) :=
  match lastShown? line with
  | none => []
  | some last =>
    let first := max (line - radius) 1
    ((Text.lines source).zipIdx 1).filterMap fun (text, number) =>
      if first ≤ number ∧ number ≤ last then some (number, text) else none

/-! ### Advice -/

/-- Words that call for advice: it is given if, for each group, some word of it occurs. -/
def advice : List (List (List String) × String) := [
  ([["closing", "unclosed"]],
    "Check that every block tag (\x7b\x7b#if\x7d\x7d, \x7b\x7b#each\x7d\x7d, ...) has a matching closing tag."),
  ([["mismatch", "was opened"]],
    "A block was closed with a different name than it was opened with."),
  ([["helper"], ["not found"]],
    "Make sure the helper is registered and its name is spelled correctly."),
  ([["partial"]],
    "Make sure the partial is registered before the template that includes it."),
  ([["expected", "parse", "invalid"]],
    "Check for unbalanced braces or stray characters inside \x7b\x7b \x7d\x7d.")]

def suggest (message : String) : List String :=
  let lower := Text.lowerChars message.toList
  advice.filterMap fun (groups, advice) =>
    if groups.all fun words => words.any fun word => Text.contains word.toList lower then some advice
    else none

/-! ### Diagnostics -/

/-- The diagnostic of an error text. -/
def diagnose (message source : String) (template : Option String) : SyntaxError :=
  let place := Diagnostic.locate message.toList
  let context := (place.line.map (excerpt source)).getD []
  ⟨String.ofList (Text.trim message.toList), template, place.line, place.column, context,
    suggest message⟩

/-- The number of a line in four columns. -/
def numbered (number : Nat) : String :=
  let digits := toString number
  String.ofList (List.replicate (4 - digits.length) ' ') ++ digits

/-- The mark under a line: one sign for each byte. -/
def underline (text : String) (column : Nat) : String :=
  String.ofList ((List.range text.utf8ByteSize).map fun index => if index = column then '^' else '-')

/-- The lines of a source that an error text quotes, counted from zero. -/
def segment (source : String) (line column : Nat) : String :=
  let lines := (Text.lines source).zipIdx.map fun (text, index) =>
    if line ≤ index + 3 ∧ index ≤ line + 3 then
      numbered index ++ " | " ++ text ++ "\n" ++
        (if index + 1 = line then "     |" ++ underline text column ++ "\n" else "")
    else ""
  String.join lines

/-- The text of an error at a place. -/
def placedText (reason source : String) (line column : Nat) : String :=
  "Template error: " ++ reason ++ "\n    --> Template error in \"Unnamed\":" ++ toString line ++ ":" ++
    toString column ++ "\n     |\n" ++ segment source line column ++ "     |\n     = reason: " ++
    reason ++ "\n"

/-- The text of a diagnostic with all its parts. -/
def text (error : SyntaxError) : String :=
  let name := (error.template.map fun name => " in '" ++ name ++ "'").getD ""
  let place := match error.line, error.column with
    | some line, some column => " at line " ++ toString line ++ ", column " ++ toString column
    | some line, none => " at line " ++ toString line
    | none, _ => ""
  let width := ((error.context.getLast?).map fun (number, _) => (toString number).length).getD 1
  let lines := error.context.map fun (number, text) =>
    let digits := toString number
    "\n" ++ (if error.line = some number then ">" else " ") ++ " " ++
      String.ofList (List.replicate (width - digits.length) ' ') ++ digits ++ " | " ++ text
  let hints := error.suggestions.map ("\n  - " ++ ·)
  "template syntax error" ++ name ++ place ++ ": " ++ error.message ++
    (if lines.isEmpty then "" else "\n" ++ String.join lines) ++
    (if hints.isEmpty then "" else "\n\nSuggestions:" ++ String.join hints)

end SyntaxError

namespace Template.Fault

def closingText (kind opened closing : String) : String :=
  kind ++ " " ++ Text.quote opened ++ " was opened, but " ++ Text.quote closing ++ " is closing"

def reason : Fault → String
  | .invalidLiteral text => "invalid parameter " ++ Text.quote text
  | .mismatchedBlock opened closing _ _ => closingText "helper" opened closing
  | .mismatchedDecoration opened closing _ _ => closingText "decorator" opened closing

def place? : Fault → Option (Nat × Nat)
  | .invalidLiteral _ => none
  | .mismatchedBlock _ _ line column => some (line, column)
  | .mismatchedDecoration _ _ line column => some (line, column)

/-- The diagnostic of a fault. A place of its own comes before one that its text names. -/
def diagnostic (fault : Fault) (source : String) (template : Option String) : SyntaxError :=
  match fault.place? with
  | none => { SyntaxError.diagnose fault.reason source template with message := fault.reason }
  | some (line, column) =>
    let text := SyntaxError.placedText fault.reason source line column
    ⟨fault.reason, template, some line, some column, SyntaxError.excerpt source line,
      SyntaxError.suggest text⟩

end Template.Fault

/-- What is said about a source that is no template; the wording for one without any reading is left
open. -/
inductive Diagnosis where
  | unreadable (template : Option String)
  | faulty (error : SyntaxError)
  deriving DecidableEq

namespace Template.SourceError

def diagnosis (error : SourceError) (source : String) (template : Option String) : Diagnosis :=
  match error with
  | .unreadable => .unreadable template
  | .faulty fault => .faulty (fault.diagnostic source template)

end Template.SourceError

end Stencil
