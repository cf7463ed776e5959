import Stencil.Template.Tag

set_option autoImplicit false

/-!
The tokens of a template: text and tags in turn. A backslash keeps two braces from opening a tag and
is not written itself; of several backslashes before a tag the first is not written.
-/

namespace Stencil.Template

inductive Token where
  | text (text : List Char)
  /-- Spaces between two tags, or after the last one. -/
  | gap (text : List Char)
  /-- The text of a raw block. -/
  | raw (text : List Char)
  | tag (tag : Tag)

/-- Text up to a tag, without its escapes; and the source before the tag, backwards, and from it on. -/
structure Chunk where
  text : List Char
  before : List Char
  rest : List Char

/-- True where two braces stand. -/
def opens : List Char → Bool
  | '\x7b' :: '\x7b' :: _ => true
  | _ => false

/-- Reads text up to the given opening of a tag; in a run of backslashes before a tag all after the
first are text. -/
def chunk (stop : List Char) : Bool → List Char → List Char → List Char → Chunk
  | _, done, before, [] => ⟨done.reverse, before, []⟩
  | false, done, before, '\\' :: '\x7b' :: '\x7b' :: '\x7b' :: '\x7b' :: text =>
    let braces := ['\x7b', '\x7b', '\x7b', '\x7b']
    chunk stop false (braces ++ done) (braces ++ '\\' :: before) text
  | false, done, before, '\\' :: '\x7b' :: '\x7b' :: text =>
    let braces := ['\x7b', '\x7b']
    chunk stop false (braces ++ done) (braces ++ '\\' :: before) text
  | inRun, done, before, c :: text =>
    if c = '\\' then
      if !inRun && opens (text.dropWhile (· == '\\')) then chunk stop true done (c :: before) text
      else chunk stop inRun (c :: done) (c :: before) text
    else if stop.isPrefixOf (c :: text) then ⟨done.reverse, before, c :: text⟩
    else chunk stop false (c :: done) (c :: before) text

/-- The token of text: spaces count as text only where the source begins. -/
def textToken (before text : List Char) : Token :=
  if !before.isEmpty && text.all isSpace then .gap text else .text text

/-- The source read before what is left of it, backwards. -/
def advance (before text rest : List Char) : List Char :=
  (text.take (text.length - rest.length)).reverse ++ before

/-- The text of a raw block, without the spaces that begin it, and its end. -/
def rawBody? (before text : List Char) : Option (List Token × List Char × List Char) := do
  let start := skip text
  let body := chunk "\x7b\x7b\x7b\x7b".toList false [] (advance before text start) start
  let (trims, inside) ← rawClosing? body.rest
  let tag : Tag :=
    ⟨inside.kind, inside.invalid, trims, inside.trimsAfter, body.before, inside.rest⟩
  return ([.raw body.text, .tag tag], advance body.before body.rest inside.rest, inside.rest)

/-- The tokens of a source, if every tag has a reading; `fuel` bounds their number. -/
def tokensFrom : Nat → List Char → List Char → Option (List Token)
  | _, _, [] => some []
  | 0, _, _ => none
  | fuel + 1, before, text =>
    if opens text then do
      let (tag, rest) ← tag? before (text.drop 2)
      let after := advance before text rest
      match tag.kind with
      | .rawOpening _ _ =>
        let (body, after, rest) ← rawBody? after rest
        return .tag tag :: (body ++ (← tokensFrom fuel after rest))
      | _ => return .tag tag :: (← tokensFrom fuel after rest)
    else do
      let part := chunk ['\x7b', '\x7b'] false [] before text
      return textToken before part.text :: (← tokensFrom fuel part.before part.rest)

def tokens? (source : String) : Option (List Token) :=
  tokensFrom (source.length + 1) [] source.toList

end Stencil.Template
