import Stencil.Template.Token

set_option autoImplicit false

/-!
Blanks around tags. A tilde removes all blanks on its side. A tag that stands alone on its line
takes the line with it: what follows up to the line break is removed after it, and the blanks before
it are removed from the text.
-/

namespace Stencil.Template

/-- A blank inside a line. -/
def isLineBlank (c : Char) : Bool := c == ' ' || c == '\t'

def isLineBreak (c : Char) : Bool := c == '\n' || c == '\r'

/-- True if a source goes on with blanks and a line break, or is at its end. -/
def endsLine (after : List Char) : Bool :=
  after.isEmpty || ((after.dropWhile isLineBlank).head?.map isLineBreak).getD false

/-- True if only blanks stand between a place and the line break before it; the source up to the
place is given backwards. -/
def beginsLine (before : List Char) : Bool :=
  ((before.dropWhile isLineBlank).head?.map isLineBreak).getD true

namespace TagKind

/-- All tags but values take their line with them. -/
def takesLine : TagKind → Bool
  | value _ => false
  | _ => true

def isComment : TagKind → Bool
  | comment _ => true
  | _ => false

end TagKind

namespace Tag

/-- True for a tag that stands alone on its line and takes it with it. -/
def isAlone (tag : Tag) : Bool :=
  tag.kind.takesLine && endsLine tag.after && beginsLine tag.before

/-- True where the output may be at the beginning of a line that the tag took. -/
def isIndented (tag : Tag) : Bool := tag.isAlone && !tag.trimsBefore

/-- The blanks right before a tag. -/
def indent? (tag : Tag) : Option String :=
  let blanks := tag.before.takeWhile isLineBlank
  if tag.trimsBefore || blanks.isEmpty then none else some (String.ofList blanks.reverse)

/-- Text that a tag follows, without what the tag removes. -/
def trimText (tag : Tag) (text : List Char) : List Char :=
  let text := if tag.trimsBefore then Text.trimEnd text else text
  if tag.isAlone then Text.dropEndWhile isLineBlank text else text

end Tag

/-- What is still to be removed from the text that follows. -/
structure Spacing where
  blanks : Bool
  line : Bool

namespace Spacing

/-- Drops one line break. -/
def dropBreak : List Char → List Char
  | '\r' :: '\n' :: text => text
  | '\n' :: text => text
  | text => text

/-- Text without what the tags before it remove. -/
def trimText (spacing : Spacing) (text : List Char) : List Char :=
  if spacing.blanks then Text.trimStart text
  else if spacing.line then dropBreak (text.dropWhile isLineBlank)
  else text

/-- What a tag removes from the text after it. A comment leaves the blanks to the tag before it, and
a value the line. -/
def after (spacing : Spacing) (tag : Tag) : Spacing :=
  ⟨if tag.kind.isComment then spacing.blanks else tag.trimsAfter,
    if tag.kind.takesLine then tag.isAlone else spacing.line⟩

end Spacing

/-- Text before the next token, without what that token removes. -/
def trimBefore (rest : List Token) (text : List Char) : List Char :=
  match rest with
  | .tag tag :: _ => tag.trimText text
  | _ => text

/-- The tokens with all removals done. Spaces that a tilde removes leave the line to be removed. -/
def spaced : Spacing → List Token → List Token
  | _, [] => []
  | spacing, .tag tag :: rest => .tag tag :: spaced (spacing.after tag) rest
  | spacing, .raw text :: rest => .raw (trimBefore rest (spacing.trimText text)) :: spaced spacing rest
  | spacing, .text text :: rest =>
    .text (trimBefore rest (spacing.trimText text)) :: spaced { spacing with line := false } rest
  | spacing, .gap text :: rest =>
    if spacing.blanks then spaced spacing rest
    else
      .text (trimBefore rest (spacing.trimText text)) :: spaced { spacing with line := false } rest

def spacedTokens (tokens : List Token) : List Token := spaced ⟨false, false⟩ tokens

end Stencil.Template
