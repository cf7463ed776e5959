import Stencil.Template.Element
import Stencil.Template.Outline
import Stencil.Template.Spacing

set_option autoImplicit false

/-!
Nesting tokens into templates. Blocks that are open are kept on a stack; a closing tag turns the
topmost one into an element of the one below it.

A source whose tags do not pair up has no reading. Names that do not agree, and literals that are no
data, are faults of a source that has one: the first of them is reported.
-/

namespace Stencil.Template

/-- A fault in a source that has a reading. -/
inductive Fault where
  | invalidLiteral (text : String)
  | mismatchedBlock (opened closing : String) (line column : Nat)
  | mismatchedDecoration (opened closing : String) (line column : Nat)
  deriving DecidableEq

/-- Why a source is no template. -/
inductive SourceError where
  | unreadable
  | faulty (fault : Fault)
  deriving DecidableEq

/-- What opened a block. -/
inductive Opener where
  | block (expression : Expression) (params : List String) (indented : Bool)
  /-- A block that is chained to the one below it. -/
  | chained (expression : Expression) (params : List String) (indented : Bool)
  | raw (expression : Expression) (params : List String) (indented : Bool)
  | inclusion (expression : Expression) (indented : Bool)
  | decoration (expression : Expression)

/-- An open block: its main part, once that has ended, and the elements of the part being read,
backwards. -/
structure Frame where
  opener : Opener
  main : Option (List Element)
  elements : List Element

/-- The open blocks, innermost first, the elements outside of them, backwards, and the first fault. -/
structure Nesting where
  frames : List Frame
  elements : List Element
  fault : Option Fault

namespace Nesting

def push (nesting : Nesting) (element : Element) : Nesting :=
  match nesting.frames with
  | [] => { nesting with elements := element :: nesting.elements }
  | frame :: frames =>
    { nesting with frames := { frame with elements := element :: frame.elements } :: frames }

def enter (nesting : Nesting) (opener : Opener) : Nesting :=
  { nesting with frames := ⟨opener, none, []⟩ :: nesting.frames }

/-- Keeps the first fault. -/
def note (nesting : Nesting) (fault : Option Fault) : Nesting :=
  { nesting with fault := nesting.fault.or fault }

end Nesting

/-- Ends the main part of a block. -/
def Frame.turn (frame : Frame) : Frame := ⟨frame.opener, some frame.elements.reverse, []⟩

/-- The main part and the alternative of a block. -/
def Frame.parts (frame : Frame) : List Element × List Element :=
  match frame.main with
  | some main => (main, frame.elements.reverse)
  | none => (frame.elements.reverse, [])

/-- Closes the blocks chained to a block, each of which is the alternative of the one below, and then
the block itself. -/
def closeChain (inner : Option Element) : List Frame → Option (Expression × Element × List Frame)
  | [] => none
  | frame :: frames =>
    let (main, inverse) := { frame with elements := inner.toList ++ frame.elements }.parts
    match frame.opener with
    | .chained expression params indented =>
      closeChain (some (.block expression params indented main inverse)) frames
    | .block expression params indented =>
      some (expression, .block expression params indented main inverse, frames)
    | _ => none

/-- The line and column of a place, both from one; the source up to it is given backwards. -/
def placeOf (before : List Char) : Nat × Nat :=
  (before.count '\n' + 1, (before.takeWhile (· != '\n')).length + 1)

/-- Closes a block of a helper under a name. -/
def Nesting.closeBlock (nesting : Nesting) (tag : Tag) (name : String) (expression : Expression)
    (element : Element) (frames : List Frame) : Nesting :=
  let (line, column) := placeOf tag.before
  let agrees := expression.head.name? == some name
  let fault := if agrees then none else some (.mismatchedBlock expression.label name line column)
  ({ nesting with frames }.note fault).push element

/-- Closes a block of a partial or decorator, whose closing tag may leave the name out. -/
def Nesting.closeDecoration (nesting : Nesting) (tag : Tag) (name : String)
    (expression : Expression) (element : Element) (frames : List Frame) : Nesting :=
  let (line, column) := placeOf tag.before
  let agrees := name.isEmpty || expression.head.name? == some name
  let fault :=
    if agrees then none else some (.mismatchedDecoration expression.label name line column)
  ({ nesting with frames }.note fault).push element

/-- Closes the innermost block. -/
def Nesting.close? (nesting : Nesting) (tag : Tag) (helper included : Option String) :
    Option Nesting :=
  match nesting.frames with
  | [] => none
  | frame :: frames =>
    match frame.opener with
    | .inclusion expression indented =>
      included.map fun name => nesting.closeDecoration tag name expression
        (.inclusionBlock expression indented frame.elements.reverse) frames
    | .decoration expression =>
      helper.map fun name => nesting.closeDecoration tag name expression
        (.decorationBlock expression frame.elements.reverse) frames
    | .raw _ _ _ => none
    | _ =>
      helper.bind fun name => (closeChain none nesting.frames).map fun (expression, element, rest) =>
        nesting.closeBlock tag name expression element rest

/-- True while the main part of a helper's block is read. -/
def Frame.isOpenMain (frame : Frame) : Bool :=
  frame.main.isNone &&
    match frame.opener with
    | .block _ _ _ => true
    | .chained _ _ _ => true
    | _ => false

/-- Adds a tag; none where it cannot stand. -/
def Nesting.tag? (nesting : Nesting) (tag : Tag) : Option Nesting :=
  let nesting := nesting.note (tag.invalid.map fun invalid => .invalidLiteral invalid.text)
  match tag.kind with
  | .value expression => some (nesting.push (.value expression))
  | .inclusion expression => some (nesting.push (.inclusion expression tag.isIndented tag.indent?))
  | .decoration expression => some (nesting.push (.decoration expression))
  | .comment text => some (nesting.push (.comment text))
  | .opening expression params => some (nesting.enter (.block expression params tag.isIndented))
  | .rawOpening expression params => some (nesting.enter (.raw expression params tag.isIndented))
  | .inclusionOpening expression => some (nesting.enter (.inclusion expression tag.isIndented))
  | .decorationOpening expression => some (nesting.enter (.decoration expression))
  | .otherwise =>
    match nesting.frames with
    | frame :: frames =>
      if frame.isOpenMain then some { nesting with frames := frame.turn :: frames } else none
    | [] => none
  | .chain expression params =>
    match nesting.frames with
    | frame :: frames =>
      if frame.isOpenMain then
        some ({ nesting with frames := frame.turn :: frames }.enter
          (.chained expression params tag.isIndented))
      else none
    | [] => none
  | .closing helper included => nesting.close? tag helper included
  | .rawClosing name =>
    match nesting.frames with
    | ⟨.raw expression params indented, _, elements⟩ :: frames =>
      some (nesting.closeBlock tag name expression
        (.block expression params indented elements.reverse []) frames)
    | _ => none

/-- Adds a token. -/
def Nesting.token? (nesting : Nesting) : Token → Option Nesting
  | .tag tag => nesting.tag? tag
  | .text text => some (nesting.push (.text (String.ofList text)))
  | .gap text => some (nesting.push (.text (String.ofList text)))
  | .raw text => some (nesting.push (.text (String.ofList text)))

/-- Nests all tokens of a source. -/
def nest (tokens : List Token) : Except SourceError Template :=
  match tokens.foldlM Nesting.token? ⟨[], [], none⟩ with
  | some ⟨[], elements, none⟩ => .ok elements.reverse
  | some ⟨[], _, some fault⟩ => .error (.faulty fault)
  | _ => .error .unreadable

/-- Reads a template. -/
def read (source : String) : Except SourceError Template :=
  match tokens? source with
  | some tokens => nest (spacedTokens tokens)
  | none => .error .unreadable

/-- A source that is read, to a template of which something holds. -/
theorem exists_of_read {source : String} {holds : Template → Bool}
    (found : (read source).toOption.any holds = true) :
    ∃ template, read source = .ok template ∧ holds template = true := by
  cases done : read source with
  | ok template =>
    rw [done] at found
    exact ⟨template, rfl, found⟩
  | error error =>
    rw [done] at found
    cases found

end Stencil.Template
