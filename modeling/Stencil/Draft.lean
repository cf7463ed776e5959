import Stencil.Json.Printer
import Stencil.Text.Search

set_option autoImplicit false

/-!
Drafts of template sources, written step by step. The fragments of a section stand on lines of their
own, and a blank line stands between two sections; a section without fragments leaves no trace.
-/

namespace Stencil

/-- A piece of a draft. -/
inductive Fragment where
  | text (text : String)
  | heading (level : Nat) (text : String)
  | code (text : String) (language : Option String)
  | list (items : List String)
  | orderedList (items : List String)
  | table (header : List String) (rows : List (List String))
  | quote (text : String)
  | rule
  | data (value : Json)
  | link (text target : String)
  | image (text target : String)
  | checkbox (text : String) (checked : Bool)
  | checkboxes (items : List (String × Bool))
  | value (name : String)
  | inclusion (name : String)

namespace Fragment

def stack (lines : List String) : String := "\n".intercalate lines

/-- Three marks, the language, and the text on lines of its own. -/
def fence (language text : String) : String :=
  "\x60\x60\x60" ++ language ++ "\n" ++ text ++ "\n\x60\x60\x60"

def row (cells : List String) : String :=
  "|" ++ String.join (cells.map fun cell => " " ++ cell ++ " |")

def checkboxLine (text : String) (checked : Bool) : String :=
  "- [" ++ (if checked then "x" else " ") ++ "] " ++ text

/-- The level of a heading, which has one to six signs. -/
def headingLevel (level : Nat) : Nat := min (max level 1) 6

/-- What a fragment writes. -/
def written : Fragment → String
  | text content => content
  | heading level title =>
    String.ofList (List.replicate (headingLevel level) '#') ++ " " ++ title
  | code content language => fence (language.getD "") content
  | list items => stack (items.map ("- " ++ ·))
  | orderedList items =>
    stack ((items.zipIdx 1).map fun (item, number) => toString number ++ ". " ++ item)
  | table header rows =>
    stack (row header :: row (header.map fun _ => "---") :: rows.map row)
  | quote content => stack ((Text.lines content).map ("> " ++ ·))
  | rule => "---"
  | data content => fence "json" content.pretty
  | link label target => "[" ++ label ++ "](" ++ target ++ ")"
  | image label target => "![" ++ label ++ "](" ++ target ++ ")"
  | checkbox label checked => checkboxLine label checked
  | checkboxes items => stack (items.map fun (label, checked) => checkboxLine label checked)
  | value name => "\x7b\x7b" ++ name ++ "\x7d\x7d"
  | inclusion name => "\x7b\x7b> " ++ name ++ "\x7d\x7d"

/-- True for a fragment that begins a section. -/
def isHeading : Fragment → Bool
  | heading _ _ => true
  | _ => false

end Fragment

/-- A step of writing a draft. -/
inductive DraftStep where
  | endSection
  | add (fragment : Fragment)
  | addWhen (condition : Bool) (text : String)
  | choose (condition : Bool) (text alternative : String)
  /-- Lines, one for each item of some list. -/
  | each (lines : List String)
  | clear

namespace DraftStep

/-- One line for each item, made from the item and its position. -/
def ofItems {α : Type} (items : List α) (format : α → Nat → String) : DraftStep :=
  each (items.zipIdx.map fun (item, index) => format item index)

end DraftStep

structure Draft where
  /-- The sections that have ended. -/
  sections : List String
  /-- The fragments of the section that has not. -/
  pending : List String
  deriving DecidableEq

namespace Draft

def empty : Draft := ⟨[], []⟩

def push (draft : Draft) (text : String) : Draft :=
  { draft with pending := draft.pending ++ [text] }

/-- The sections with the pending one. -/
def allSections (draft : Draft) : List String :=
  if draft.pending.isEmpty then draft.sections
  else draft.sections ++ [Fragment.stack draft.pending]

/-- Ends the pending section, if it has fragments. -/
def endSection (draft : Draft) : Draft := ⟨draft.allSections, []⟩

def add (draft : Draft) (fragment : Fragment) : Draft :=
  (if fragment.isHeading then draft.endSection else draft).push fragment.written

def step (draft : Draft) : DraftStep → Draft
  | .endSection => draft.endSection
  | .add fragment => draft.add fragment
  | .addWhen condition text => if condition then draft.push text else draft
  | .choose condition text alternative => draft.push (if condition then text else alternative)
  | .each lines => if lines.isEmpty then draft else draft.push (Fragment.stack lines)
  | .clear => empty

/-- The source that has been written so far. -/
def source (draft : Draft) : String := "\n\n".intercalate draft.allSections

end Draft

end Stencil
