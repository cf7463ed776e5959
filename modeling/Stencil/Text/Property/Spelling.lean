import Stencil.Text.Property.Spelling.Asian
import Stencil.Text.Property.Spelling.Emoji
import Stencil.Text.Property.Spelling.European
import Stencil.Text.Property.Spelling.Ideograph
import Stencil.Text.Property.Spelling.Latin
import Stencil.Text.Property.Spelling.Syllable
import Stencil.Text.Property.Spelling.Symbol

set_option autoImplicit false

/-!
Latin spellings of characters beyond ASCII. A word that stands for a whole character, such as the word for
an emoji, ends in a space.
-/

namespace Stencil.Text.Property

def letterRows : List Row :=
  latinLetters ++ latinLettersWithMarks ++ greekLetters ++ cyrillicLetters ++ armenianLetters ++
    semiticLetters ++ thaiLetters ++ georgianLetters ++ ancientGreekLetters ++ symbols ++ kana ++
    formLetters

def emojiRows : List Row := plainPictures ++ natureAndPeople ++ things ++ facesAndTravel

/-- The reading of an ideograph. -/
def reading? (code : Nat) : Option String :=
  ((readingsA ++ readingsB).find? fun (_, characters) => characters.toList.any (·.toNat == code)).map
    (·.1)

/-- The spelling of a sign in a run of signs that are spelled alike. -/
def alike? (code : Nat) : Option String := (alike.find? (·.1.holds code)).map (·.2)

/-- The ASCII text that stands for a character, if one is known. -/
def spelling? (code : Nat) : Option String :=
  ((spelledIn letterRows code).or (alike? code))
    |>.or ((emojiRows.findSome? (·.spelling? code)).or (reading? code) |>.map (· ++ " "))
    |>.or ((indian? code).or ((korean? code).or (formula? code)))
    |>.or (if listed unspoken code then some "" else none)

end Stencil.Text.Property
