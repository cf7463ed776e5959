import Stencil.Text.Trim

set_option autoImplicit false

/-!
Paths into data, and how they are written: an optional `this.` or `./`, an optional `@root.`, the
mark `@` of a local variable, any number of `../`, and then segments separated by `.` or `/`.
-/

namespace Stencil.Template

/-- True for the characters of names. -/
def isNameChar (c : Char) : Bool :=
  Text.isPlainAlphanumeric c || c == '-' || c == '_' || c == '$' || c == ':' || !Text.isAscii c

/-- One step of a path. -/
inductive Segment where
  /-- Back to the data that the template was given. -/
  | root
  /-- The mark of a local variable. -/
  | localMark
  /-- Out to the enclosing context. -/
  | up
  | named (name : String)
  deriving DecidableEq

/-- A path: as it is written, and its steps. The word `this` is no step. -/
structure Path where
  raw : String
  segments : List Segment
  deriving DecidableEq

namespace Path

/-- The level and the name of a local variable: `@../name` is the one of the enclosing block. -/
def variableFrom : Nat → List Segment → Option (Nat × String)
  | level, .up :: segments => variableFrom (level + 1) segments
  | level, .named name :: _ => some (level, name)
  | _, _ => none

def scopeVariable? (path : Path) : Option (Nat × String) :=
  match path.segments with
  | .localMark :: segments => variableFrom 0 segments
  | _ => none

/-! ### Reading -/

def isSeparator (c : Char) : Bool := c == '.' || c == '/'

/-- Drops a word and the separator after it. -/
def wordAndSeparator? (word text : List Char) : Option (List Char) :=
  match Text.after? word text with
  | some (c :: rest) => if isSeparator c then some rest else none
  | _ => none

/-- Drops a leading `this.`, `this/` or `./`. -/
def dropCurrent (text : List Char) : List Char :=
  match wordAndSeparator? "this".toList text with
  | some rest => rest
  | none => (Text.after? "./".toList text).getD text

def readRoot (text : List Char) : List Segment × List Char :=
  match wordAndSeparator? "@root".toList text with
  | some rest => ([.root], rest)
  | none => ([], text)

def readMark : List Char → List Segment × List Char
  | '@' :: text => ([.localMark], text)
  | text => ([], text)

/-- Reads as many `../` as there are. -/
def readUps : List Char → List Segment × List Char
  | '.' :: '.' :: c :: text =>
    if isSeparator c then
      let (segments, rest) := readUps text
      (.up :: segments, rest)
    else ([], '.' :: '.' :: c :: text)
  | text => ([], text)

def segmentOf (name : List Char) : List Segment :=
  if name = "this".toList then [] else [.named (String.ofList name)]

/-- Reads a name, or any text in brackets. -/
def readItem? : List Char → Option (List Segment × List Char)
  | '[' :: text =>
    match text.dropWhile (· != ']') with
    | _ :: rest => some (segmentOf (text.takeWhile (· != ']')), rest)
    | [] => none
  | text =>
    let name := text.takeWhile isNameChar
    if name.isEmpty then none else some (segmentOf name, text.dropWhile isNameChar)

/-- Reads further segments, each after a separator; `fuel` bounds their number. -/
def readItems : Nat → List Char → List Segment × List Char
  | 0, text => ([], text)
  | _, [] => ([], [])
  | fuel + 1, c :: text =>
    if isSeparator c then
      match readItem? text with
      | some (segments, rest) =>
        let (more, rest) := readItems fuel rest
        (segments ++ more, rest)
      | none => ([], c :: text)
    else ([], c :: text)

/-- Reads the longest path at the beginning of a text. -/
def read? (text : List Char) : Option (Path × List Char) :=
  let (root, rest) := readRoot (dropCurrent text)
  let (mark, rest) := readMark rest
  let (ups, rest) := readUps rest
  match readItem? rest with
  | none => none
  | some (first, rest) =>
    let (more, rest) := readItems rest.length rest
    let raw := String.ofList (text.take (text.length - rest.length))
    some (⟨raw, root ++ mark ++ ups ++ first ++ more⟩, rest)

end Path

end Stencil.Template
