import Stencil.Proofs.LineContext
import Stencil.Proofs.TagReading
import Stencil.Proofs.WrittenForms

set_option autoImplicit false

/-!
Tags as they are written: what stands before what a tag says, what it says, and how it ends, with every
space. Every tag that shows a value, opens a block, begins an alternative or includes a partial is the
text of such a form, and if its literals are data, it says what the form says (`tag?_form`).
-/

namespace Stencil.Template

/-! ### Ends -/

/-- A tilde behind spaces, if there is one. -/
def tildeText (tilde : Option Gap) : List Char := tilde.elim [] fun gap => gap.text ++ ['~']

/-- The end of a tag before its closing braces. -/
structure EndForm where
  tilde : Option Gap
  gap : Gap

def EndForm.text (ends : EndForm) : List Char := tildeText ends.tilde ++ ends.gap.text

theorem tilde_split (text : List Char) :
    ∃ tilde : Option Gap, text = tildeText tilde ++ (Template.tilde text).2 := by
  unfold Template.tilde
  cases found : token? "~" text with
  | none => exact ⟨none, rfl⟩
  | some rest =>
    obtain ⟨gap, whole⟩ := token?_split found
    refine ⟨some gap, ?_⟩
    rw [whole]
    simp [tildeText]

theorem tagEnd?_split {ending : String} {text rest : List Char} {trims : Bool}
    (found : tagEnd? ending text = some (trims, rest)) :
    ∃ ends : EndForm, text = ends.text ++ (ending.toList ++ rest) := by
  obtain ⟨_, closed⟩ := tagEnd?_eq_some found
  obtain ⟨tilde, opened⟩ := tilde_split text
  obtain ⟨gap, behind⟩ := token?_split closed
  refine ⟨⟨tilde, gap⟩, ?_⟩
  rw [EndForm.text, List.append_assoc, ← behind]
  exact opened

/-! ### What tags say -/

/-- What a value tag says: a call in parentheses, or a call without them or a path. -/
inductive Saying where
  | call (before : Gap) (phrase : Phrase) (after : Gap)
  | plain (phrase : Phrase)

namespace Saying

def text : Saying → List Char
  | .call before phrase after => (Form.call before phrase after).text
  | .plain phrase => phrase.text

def expression : Saying → Expression
  | .call before phrase after => ⟨(Form.call before phrase after).operand, []⟩
  | .plain phrase => phrase.expression

end Saying

/-- What gives a name: a path, or a call in parentheses. -/
inductive NameForm where
  | path (written : PathForm)
  | call (before : Gap) (phrase : Phrase) (after : Gap)

namespace NameForm

def saying : NameForm → Saying
  | .path written => .plain (.path written)
  | .call before phrase after => .call before phrase after

def form : NameForm → Form
  | .path written => .path written
  | .call before phrase after => .call before phrase after

theorem text_saying (name : NameForm) : name.saying.text = name.form.text := by
  cases name <;> rfl

theorem expression_saying (name : NameForm) : name.saying.expression = ⟨name.form.operand, []⟩ := by
  cases name <;> rfl

end NameForm

/-- The partial that a tag includes: its name, or what gives the name. -/
inductive PartialForm where
  | name (name : String)
  | given (inner : NameForm)

namespace PartialForm

def text : PartialForm → List Char
  | .name word => word.toList
  | .given inner => inner.form.text

def operand : PartialForm → Operand
  | .name word => .word word
  | .given inner => inner.form.operand

/-- A name without quotes ends where no character can be a part of it. -/
def Apart (target : PartialForm) (arguments : Forms) : Prop :=
  ∀ word, target = .name word → (∀ c ∈ word.toList, isPartialChar c = true) →
    ∀ c ∈ arguments.text.head?, isPartialChar c = false

end PartialForm

/-- A partial with arguments. -/
structure InclusionForm where
  target : PartialForm
  arguments : Forms
  apart : target.Apart arguments

namespace InclusionForm

def text (included : InclusionForm) : List Char := included.target.text ++ included.arguments.text

def expression (included : InclusionForm) : Expression := ⟨included.target.operand, included.arguments.written⟩

end InclusionForm

/-- How a tag marks that it shows a value. -/
inductive ValueMark where
  | plain
  /-- A third brace right behind the first two. -/
  | triple
  /-- A brace of its own. -/
  | brace
  | ampersand

/-- How a tag marks that it opens a block or begins an alternative, with `else` or a caret. -/
inductive LineMark where
  | opening
  | chain (caret : Bool)
  | raw

/-- The sign of an alternative. -/
def alternativeSign (caret : Bool) : List Char := if caret then ['^'] else "else".toList

def LineMark.kind : LineMark → Expression → List String → TagKind
  | .opening => .opening
  | .chain _ => .chain
  | .raw => .rawOpening

/-- What a tag says as it is written, and with which marks. -/
inductive Said where
  | value (mark : ValueMark) (saying : Saying)
  | otherwise (caret : Bool)
  /-- A name with arguments and names for values. -/
  | line (mark : LineMark) (name : OptionName) (arguments : Forms) (params : List Char)
  | inclusion (included : InclusionForm)
  /-- An inclusion with a body, with spaces between its two signs. -/
  | inclusionOpening (between : Gap) (included : InclusionForm)

namespace Said

/-- The braces that follow the first two at once. -/
def outer : Said → List Char
  | .value .triple _ => ['\x7b']
  | .line .raw _ _ _ => ['\x7b', '\x7b']
  | _ => []

/-- The sign behind a tilde. -/
def sign : Said → List Char
  | .value .brace _ => ['\x7b']
  | .value .ampersand _ => ['&']
  | .otherwise caret => alternativeSign caret
  | .line (.chain caret) _ _ _ => alternativeSign caret
  | .line .opening _ _ _ => ['#']
  | .inclusion _ => ['>']
  | .inclusionOpening between _ => '#' :: (between.text ++ ['>'])
  | _ => []

def text : Said → List Char
  | .value _ saying => saying.text
  | .otherwise _ => []
  | .line _ name arguments params => (Phrase.named name arguments).text ++ params
  | .inclusion included => included.text
  | .inclusionOpening _ included => included.text

/-- A brace of its own is closed before the end of the tag. -/
def closer (closed : Gap) : Said → List Char
  | .value .brace _ => closed.text ++ ['\x7d']
  | _ => []

/-- The closing braces. -/
def ending : Said → String
  | .value .triple _ => "\x7d\x7d\x7d"
  | .line .raw _ _ _ => "\x7d\x7d\x7d\x7d"
  | _ => "\x7d\x7d"

/-- What is called with what, if anything. -/
def expression? : Said → Option Expression
  | .value _ saying => some saying.expression
  | .otherwise _ => none
  | .line _ name arguments _ => some (Phrase.named name arguments).expression
  | .inclusion included => some included.expression
  | .inclusionOpening _ included => some included.expression

/-- A tag of some kind is written like this. -/
inductive Kind : Said → TagKind → Prop where
  | value (mark : ValueMark) (saying : Saying) (expression : Expression) :
      Kind (.value mark saying) (.value expression)
  | otherwise (caret : Bool) : Kind (.otherwise caret) .otherwise
  | line (mark : LineMark) (name : OptionName) (arguments : Forms) (params : List Char)
      (expression : Expression) (names : List String) :
      Kind (.line mark name arguments params) (mark.kind expression names)
  | inclusion (included : InclusionForm) (expression : Expression) :
      Kind (.inclusion included) (.inclusion expression)
  | inclusionOpening (between : Gap) (included : InclusionForm) (expression : Expression) :
      Kind (.inclusionOpening between included) (.inclusionOpening expression)

end Said

/-- A tag as it is written, behind its first two braces. -/
structure TagForm where
  tilde : Option Gap
  before : Gap
  said : Said
  gap : Gap
  closed : Gap
  ends : EndForm

namespace TagForm

variable (form : TagForm)

/-- What stands before what the tag says. -/
def lead : List Char :=
  form.said.outer ++ (tildeText form.tilde ++ (form.before.text ++ (form.said.sign ++ form.gap.text)))

/-- What stands behind what the tag says, without the closing braces. -/
def tail : List Char := form.said.closer form.closed ++ form.ends.text

/-- All but the closing braces. -/
def body : List Char := form.lead ++ (form.said.text ++ form.tail)

def text : List Char := form.body ++ form.said.ending.toList

/-- The form of a tag whose inside is read from a text. -/
structure Of (text : List Char) (inside : Inside) : Prop where
  whole : text = form.text ++ inside.rest
  kind : form.said.Kind inside.kind
  speaks : inside.invalid = none → form.said.expression? = inside.kind.expression?

end TagForm

/-! ### Reading -/

section

variable {text rest : List Char} {checked : Checked Expression}

/-- Spaces behind spaces. -/
def Gap.join (gap further : Gap) : Gap where
  text := gap.text ++ further.text
  spaces c member := (List.mem_append.mp member).elim (gap.spaces c) (further.spaces c)

def noGap : Gap := ⟨[], List.forall_mem_nil _⟩

def oneSpace : Gap := ⟨[' '], Text.forall_mem_of_all (by decide)⟩

theorem valueExpression?_form (read : valueExpression? text = some (checked, rest)) :
    ∃ (gap : Gap) (saying : Saying), text = gap.text ++ (saying.text ++ rest) ∧
      Settles checked saying.expression := by
  obtain ⟨gap, opened⟩ := skip_split text
  simp only [valueExpression?] at read
  split at read
  · rename_i call left found
    cases read
    obtain ⟨before, phrase, after, whole, settles⟩ := (formReaders _).call found
    exact ⟨gap, .call before phrase after, whole ▸ opened, settles.map _⟩
  · obtain ⟨phrase, whole, settles⟩ := (formReaders _).expression read
    refine ⟨gap, .plain phrase, ?_, settles⟩
    rw [opened, whole]
    rfl

theorem nameExpression?_form (read : nameExpression? text = some (checked, rest)) :
    ∃ (gap : Gap) (name : NameForm), text = gap.text ++ (name.form.text ++ rest) ∧
      Settles checked ⟨name.form.operand, []⟩ := by
  obtain ⟨gap, opened⟩ := skip_split text
  simp only [nameExpression?] at read
  split at read
  · rename_i call left found
    cases read
    obtain ⟨before, phrase, after, whole, settles⟩ := (formReaders _).call found
    exact ⟨gap, .call before phrase after, whole ▸ opened, settles.map _⟩
  · obtain ⟨⟨path, left⟩, found, same⟩ := Option.map_eq_some_iff.mp read
    cases same
    obtain ⟨written, rfl, whole⟩ := path_form found
    refine ⟨gap, .path written, ?_, settles_ok _⟩
    rw [opened, whole]
    rfl

/-- Names between bars are a part of the text. -/
theorem blockParams?_split {params : List String} (read : blockParams? text = some (params, rest)) :
    ∃ part, text = part ++ rest := by
  obtain ⟨behind, inner, first, left, word, bar, name, cases⟩ := blockParams?_eq_some read
  have opened : left <:+ text :=
    (remains_name name).1.trans ((skip_suffix inner).trans ((remains_token (by decide) bar).1.trans
      (remains_token (by decide) word).1))
  have closed : rest <:+ left := by
    rcases cases with ⟨second, last, found, closed, _⟩ | ⟨_, closed, _⟩
    · exact (remains_token (by decide) closed).1.trans
        ((remains_name found).1.trans (skip_suffix left))
    · exact (remains_token (by decide) closed).1
  obtain ⟨part, same⟩ := closed.trans opened
  exact ⟨part, same.symm⟩

theorem line?_form {line : Line} (read : line? text = some (line, rest)) :
    ∃ (gap : Gap) (name : OptionName) (arguments : Forms) (params : List Char),
      text = gap.text ++ ((Phrase.named name arguments).text ++ (params ++ rest)) ∧
        Settles line.expression (Phrase.named name arguments).expression := by
  obtain ⟨gap, opened⟩ := skip_split text
  obtain ⟨⟨name, behind⟩, named, same⟩ := Option.map_eq_some_iff.mp read
  obtain ⟨written, rfl, whole⟩ := name?_split named
  obtain ⟨forms, further, all⟩ := (formReaders (fuelOf behind)).arguments behind
  dsimp only at same
  split at same
  · rename_i params left found
    cases same
    obtain ⟨part, split⟩ := blockParams?_split found
    refine ⟨gap, written, forms, part, ?_, settles_callOf (settles_ok _) all⟩
    rw [split] at further
    refine opened.trans ?_
    rw [whole, congrArg (written.name.toList ++ ·) further]
    simp [Phrase.text]
  · cases same
    refine ⟨gap, written, forms, [], ?_, settles_callOf (settles_ok _) all⟩
    refine opened.trans ?_
    rw [whole, congrArg (written.name.toList ++ ·) further]
    simp [Phrase.text]

theorem upToQuote_split (text : List Char) : text = (upToQuote text).1 ++ (upToQuote text).2 := by
  fun_induction upToQuote text with
  | case1 text body rest inner ih =>
    rw [inner] at ih
    simpa using ih
  | case2 text => rfl
  | case3 c text quote escape body rest inner ih =>
    rw [inner] at ih
    simpa using ih
  | case4 => rfl

/-- The name of a partial is read as it is written, and without quotes up to its end. -/
theorem partialName?_split {name : String} (read : partialName? text = some (name, rest)) :
    text = name.toList ++ rest ∧ ((∀ c ∈ name.toList, isPartialChar c = true) →
      ∀ c ∈ rest.head?, isPartialChar c = false) := by
  simp only [partialName?] at read
  split at read
  · cases read
    exact ⟨by simp, fun _ c next => not_of_head?_dropWhile next⟩
  · split at read
    · rename_i inner _
      split at read
      · rename_i c body left quoted
        cases read
        have split := upToQuote_split inner
        rw [quoted] at split
        refine ⟨by simp [split], fun chars => ?_⟩
        cases chars '\'' (by simp)
      · cases read
    · cases read

theorem partialLine?_form (read : partialLine? text = some (checked, rest)) :
    ∃ (gap : Gap) (included : InclusionForm), text = gap.text ++ (included.text ++ rest) ∧
      Settles checked included.expression := by
  obtain ⟨gap, opened⟩ := skip_split text
  simp only [partialLine?] at read
  obtain ⟨⟨head, behind⟩, found, same⟩ := Option.map_eq_some_iff.mp read
  cases same
  obtain ⟨forms, whole, all⟩ := (formReaders (fuelOf behind)).arguments behind
  split at found
  · rename_i name left named
    cases found
    obtain ⟨split, ends⟩ := partialName?_split named
    have apart : (PartialForm.name name).Apart forms := by
      rintro word same chars c next
      cases same
      refine ends chars c ?_
      rw [whole]
      exact List.mem_head?_append_of_mem_head? next
    have settles : Settles (.ok (.word name)) (PartialForm.name name).operand := settles_ok _
    refine ⟨gap, ⟨.name name, forms, apart⟩, ?_, settles_callOf settles all⟩
    rw [InclusionForm.text, PartialForm.text, List.append_assoc, ← whole, ← split]
    exact opened
  · obtain ⟨⟨expression, left⟩, named, same⟩ := Option.map_eq_some_iff.mp found
    cases same
    obtain ⟨further, name, split, settles⟩ := nameExpression?_form named
    have heads : Settles (expression.map Expression.head) (PartialForm.given name).operand :=
      settles.map Expression.head
    have apart : (PartialForm.given name).Apart forms := by
      intro word same
      cases same
    refine ⟨gap.join further, ⟨.given name, forms, apart⟩, ?_, settles_callOf heads all⟩
    rw [Gap.join, InclusionForm.text, PartialForm.text, List.append_assoc, List.append_assoc, ← whole,
      ← split]
    exact opened

/-- A tag ends as its form does. -/
theorem ended?_form {ending : String} {kind : Expression → TagKind} {inside : Inside}
    (read : ended? ending kind (checked, text) = some inside) :
    ∃ ends : EndForm, text = ends.text ++ (ending.toList ++ inside.rest) ∧
      ∃ expression, inside.kind = kind expression ∧
        (inside.invalid = none → checked = .ok expression) := by
  obtain ⟨trims, rest, found, rfl⟩ := ended?_eq_some read
  obtain ⟨ends, whole⟩ := tagEnd?_split found
  cases checked with
  | error invalid => exact ⟨ends, whole, _, rfl, nofun⟩
  | ok expression => exact ⟨ends, whole, expression, rfl, fun _ => rfl⟩

end

/-! ### Tags -/

/-- True for tags that show a value, open a block, begin an alternative or include a partial. -/
def TagKind.isSpoken : TagKind → Bool
  | value _ => true
  | opening _ _ => true
  | chain _ _ => true
  | otherwise => true
  | rawOpening _ _ => true
  | inclusion _ => true
  | inclusionOpening _ => true
  | _ => false

section

variable {text : List Char} {inside : Inside} (tilde : Option Gap)

/-- What a tag says, and how it ends. -/
theorem form_of_ended {said : Said} {ending : String} {kind : Expression → TagKind}
    {checked : Checked Expression} {expression : Expression} {left : List Char} (before gap closed : Gap)
    (whole : text = before.text ++ (said.sign ++ (gap.text ++ (said.text ++ (said.closer closed ++ left)))))
    (settles : Settles checked expression) (speaks : said.expression? = some expression)
    (last : said.ending = ending) (fits : ∀ expression, said.Kind (kind expression))
    (same : ∀ expression, (kind expression).expression? = some expression)
    (read : ended? ending kind (checked, left) = some inside) :
    ∃ form : TagForm, form.Of (said.outer ++ (tildeText tilde ++ text)) inside := by
  obtain ⟨ends, behind, found, kinds, valid⟩ := ended?_form read
  refine ⟨⟨tilde, before, said, gap, closed, ends⟩, ?_, ?_, ?_⟩
  · rw [whole, behind]
    simp [TagForm.text, TagForm.body, TagForm.lead, TagForm.tail, last]
  · rw [kinds]
    exact fits found
  · intro sound
    rw [kinds, same, settles _ (valid sound)]
    exact speaks

/-- A value, with the mark of a tag. -/
theorem value_form (mark : ValueMark) {ending : String} {saying : Saying}
    {checked : Checked Expression} {left : List Char} (before gap closed : Gap)
    (whole : text = before.text ++ ((Said.value mark saying).sign ++ (gap.text ++ (saying.text ++
      ((Said.value mark saying).closer closed ++ left)))))
    (settles : Settles checked saying.expression) (last : (Said.value mark saying).ending = ending)
    (read : ended? ending .value (checked, left) = some inside) :
    ∃ form : TagForm, form.Of ((Said.value mark saying).outer ++ (tildeText tilde ++ text)) inside :=
  form_of_ended tilde before gap closed whole settles rfl last (fun _ => Said.Kind.value _ _ _)
    (fun _ => rfl) read

theorem valueTag?_form (read : valueTag? "\x7d\x7d" text = some inside) :
    ∃ form : TagForm, form.Of (tildeText tilde ++ text) inside := by
  obtain ⟨⟨checked, left⟩, found, ended⟩ := Option.bind_eq_some_iff.mp read
  obtain ⟨gap, saying, whole, settles⟩ := valueExpression?_form found
  exact value_form tilde .plain noGap gap noGap whole settles rfl ended

theorem tripleValue_form (read : valueTag? "\x7d\x7d\x7d" text = some inside) :
    ∃ form : TagForm, form.Of ('\x7b' :: (tildeText tilde ++ text)) inside := by
  obtain ⟨⟨checked, left⟩, found, ended⟩ := Option.bind_eq_some_iff.mp read
  obtain ⟨gap, saying, whole, settles⟩ := valueExpression?_form found
  exact value_form tilde .triple noGap gap noGap whole settles rfl ended

theorem plainValue?_form (read : plainValue? text = some inside) :
    ∃ form : TagForm, form.Of (tildeText tilde ++ text) inside := by
  simp only [plainValue?] at read
  split at read
  · rename_i inner opened
    obtain ⟨⟨checked, left⟩, found, read⟩ := Option.bind_eq_some_iff.mp read
    obtain ⟨last, closer, ended⟩ := Option.bind_eq_some_iff.mp read
    obtain ⟨before, whole⟩ := token?_split opened
    obtain ⟨gap, saying, split, settles⟩ := valueExpression?_form found
    obtain ⟨closed, further⟩ := token?_split closer
    have parts : text = before.text ++ (['\x7b'] ++ (gap.text ++ (saying.text ++
        ((closed.text ++ ['\x7d']) ++ last)))) := by
      dsimp only at further
      rw [whole, split, further]
      simp
    exact value_form tilde .brace before gap closed parts settles rfl ended
  · rename_i inner _ opened
    obtain ⟨⟨checked, left⟩, found, ended⟩ := Option.bind_eq_some_iff.mp read
    obtain ⟨before, whole⟩ := token?_split opened
    obtain ⟨gap, name, split, settles⟩ := nameExpression?_form found
    rw [split, ← name.text_saying] at whole
    rw [← name.expression_saying] at settles
    exact value_form tilde .ampersand before gap noGap whole settles rfl ended
  · cases read

/-- A name with arguments and block parameters, with the mark of a tag. -/
theorem line_form (mark : LineMark) {ending : String} {sign outer behind : List Char} (before : Gap)
    (whole : text = before.text ++ (sign ++ behind))
    (same : ∀ name arguments params, (Said.line mark name arguments params).sign = sign ∧
      (Said.line mark name arguments params).outer = outer ∧
      (Said.line mark name arguments params).ending = ending)
    (read : (line? behind).bind (endedLine? ending mark.kind) = some inside) :
    ∃ form : TagForm, form.Of (outer ++ (tildeText tilde ++ text)) inside := by
  obtain ⟨⟨line, left⟩, found, ended⟩ := Option.bind_eq_some_iff.mp read
  obtain ⟨gap, name, arguments, params, split, settles⟩ := line?_form found
  obtain ⟨sign_eq, outer_eq, last⟩ := same name arguments params
  have parts : text = before.text ++ ((Said.line mark name arguments params).sign ++ (gap.text ++
      (((Phrase.named name arguments).text ++ params) ++ ([] ++ left)))) := by
    rw [whole, split, sign_eq]
    simp
  rw [← outer_eq]
  refine form_of_ended tilde before gap noGap parts settles rfl last
    (fun _ => Said.Kind.line _ _ _ _ _ _) (fun _ => ?_) ended
  cases mark <;> rfl

/-- A partial with arguments, with the signs of a tag. -/
theorem partialLine_form {said : InclusionForm → Said} {kind : Expression → TagKind}
    {sign behind : List Char} (before : Gap) (whole : text = before.text ++ (sign ++ behind))
    (same : ∀ line, (said line).sign = sign ∧ (said line).text = line.text ∧
      (said line).expression? = some line.expression)
    (plain : ∀ line, (said line).outer = [] ∧ (said line).closer noGap = [] ∧
      (said line).ending = "\x7d\x7d")
    (fits : ∀ line expression, (said line).Kind (kind expression))
    (speaks : ∀ expression, (kind expression).expression? = some expression)
    (read : (partialLine? behind).bind (ended? "\x7d\x7d" kind) = some inside) :
    ∃ form : TagForm, form.Of (tildeText tilde ++ text) inside := by
  obtain ⟨⟨checked, left⟩, found, ended⟩ := Option.bind_eq_some_iff.mp read
  obtain ⟨gap, line, split, settles⟩ := partialLine?_form found
  obtain ⟨sign_eq, text_eq, expression_eq⟩ := same line
  obtain ⟨outer_eq, closer_eq, last⟩ := plain line
  have parts : text = before.text ++ ((said line).sign ++ (gap.text ++ ((said line).text ++
      ((said line).closer noGap ++ left)))) := by
    rw [whole, split, sign_eq, text_eq, closer_eq]
    rfl
  have form := form_of_ended tilde before gap noGap parts settles expression_eq last (fits line) speaks
    ended
  rwa [outer_eq] at form

theorem inclusion?_form (read : inclusion? text = some inside) :
    ∃ form : TagForm, form.Of (tildeText tilde ++ text) inside := by
  obtain ⟨rest, angle, read⟩ := Option.bind_eq_some_iff.mp read
  obtain ⟨before, opened⟩ := token?_split angle
  exact partialLine_form tilde before opened (fun _ => ⟨rfl, rfl, rfl⟩) (fun _ => ⟨rfl, rfl, rfl⟩)
    Said.Kind.inclusion (fun _ => rfl) read

theorem opening?_form (read : opening? text = some inside) (spoken : inside.kind.isSpoken = true) :
    ∃ form : TagForm, form.Of (tildeText tilde ++ text) inside := by
  obtain ⟨rest, hash, read⟩ := Option.bind_eq_some_iff.mp read
  obtain ⟨before, opened⟩ := token?_split hash
  split at read
  · obtain ⟨⟨line, left⟩, found, ended⟩ := Option.bind_eq_some_iff.mp read
    obtain ⟨_, _, _, kind, _⟩ := ended?_form ended
    rw [kind] at spoken
    cases spoken
  · rename_i inner _ angle
    obtain ⟨between, further⟩ := token?_split angle
    have parts : text = before.text ++ (('#' :: (between.text ++ ['>'])) ++ inner) := by
      rw [opened, further]
      simp
    exact partialLine_form tilde before parts (fun _ => ⟨rfl, rfl, rfl⟩) (fun _ => ⟨rfl, rfl, rfl⟩)
      (Said.Kind.inclusionOpening between) (fun _ => rfl) read
  · exact line_form tilde .opening before opened (fun _ _ _ => ⟨rfl, rfl, rfl⟩) read

theorem alternative?_form (read : alternative? text = some inside) :
    ∃ form : TagForm, form.Of (tildeText tilde ++ text) inside := by
  obtain ⟨rest, sign, read⟩ := Option.bind_eq_some_iff.mp read
  obtain ⟨caret, before, opened⟩ : ∃ (caret : Bool) (before : Gap),
      text = before.text ++ (alternativeSign caret ++ rest) := by
    rcases Option.or_eq_some_iff.mp sign with word | ⟨_, mark⟩
    · exact ⟨false, token?_split word⟩
    · exact ⟨true, token?_split mark⟩
  split at read
  · rename_i trims left closed
    cases read
    obtain ⟨ends, whole⟩ := tagEnd?_split closed
    refine ⟨⟨tilde, before, .otherwise caret, noGap, noGap, ends⟩, ?_, Said.Kind.otherwise caret,
      fun _ => rfl⟩
    rw [opened, whole]
    simp [TagForm.text, TagForm.body, TagForm.lead, TagForm.tail, Said.outer, Said.sign, Said.text,
      Said.closer, Said.ending, noGap]
  · exact line_form tilde (.chain caret) before opened (fun _ _ _ => ⟨rfl, rfl, rfl⟩) read

end

section

variable {text : List Char} {inside : Inside} {trims : Bool}

theorem doubleTag?_form (read : doubleTag? text = some (trims, inside))
    (spoken : inside.kind.isSpoken = true) : ∃ form : TagForm, form.Of text inside := by
  obtain ⟨tilde, split⟩ := tilde_split text
  simp only [doubleTag?] at read
  obtain ⟨result, found, same⟩ := Option.map_eq_some_iff.mp read
  cases same
  rw [split]
  simp only [Option.orElse_eq_orElse, Option.orElse_eq_or, Option.or_eq_some_iff] at found
  rcases found with read | ⟨_, read | ⟨_, read | ⟨_, read | ⟨_, read | ⟨_, read | ⟨_, read⟩⟩⟩⟩⟩⟩
  · exact alternative?_form tilde read
  · exact valueTag?_form tilde read
  · exact plainValue?_form tilde read
  · exact opening?_form tilde read spoken
  · obtain ⟨rest, _, read⟩ := Option.bind_eq_some_iff.mp read
    obtain ⟨⟨line, left⟩, _, ended⟩ := Option.bind_eq_some_iff.mp read
    obtain ⟨_, _, _, kind, _⟩ := ended?_form ended
    rw [kind] at spoken
    cases spoken
  · exact inclusion?_form tilde read
  · obtain ⟨rest, _, read⟩ := Option.bind_eq_some_iff.mp read
    obtain ⟨⟨name, trims, last⟩, _, read⟩ := Option.bind_eq_some_iff.mp read
    cases read
    cases spoken

theorem tripleTag?_form (read : tripleTag? text = some (trims, inside)) :
    ∃ form : TagForm, form.Of text inside := by
  obtain ⟨rest, brace, read⟩ := Option.bind_eq_some_iff.mp read
  obtain ⟨tilde, split⟩ := tilde_split rest
  obtain ⟨⟨checked, left⟩, found, read⟩ := Option.bind_eq_some_iff.mp read
  obtain ⟨result, ended, same⟩ := Option.bind_eq_some_iff.mp read
  cases same
  rw [Text.after?_eq_some_iff.mp brace, split]
  exact tripleValue_form tilde (Option.bind_eq_some_iff.mpr ⟨_, found, ended⟩)

theorem rawOpening?_form (read : rawOpening? text = some (trims, inside)) :
    ∃ form : TagForm, form.Of text inside := by
  obtain ⟨rest, braces, read⟩ := Option.bind_eq_some_iff.mp read
  obtain ⟨tilde, split⟩ := tilde_split rest
  obtain ⟨result, line, same⟩ := Option.bind_eq_some_iff.mp read
  cases same
  rw [Text.after?_eq_some_iff.mp braces, split]
  exact line_form tilde .raw noGap rfl (fun _ _ _ => ⟨rfl, rfl, rfl⟩) line

end

/-- A tag as it is read, with its form. -/
theorem tag?_form {before text rest : List Char} {tag : Tag} (read : tag? before text = some (tag, rest))
    (spoken : tag.kind.isSpoken = true) : ∃ form : TagForm, text = form.text ++ rest ∧
      form.said.Kind tag.kind ∧ (tag.invalid = none → form.said.expression? = tag.kind.expression?) := by
  suffices ∀ trims inside, tagInside? text = some (trims, inside) → inside.kind.isSpoken = true →
      ∃ form : TagForm, form.Of text inside by
    rw [tag?_eq] at read
    obtain ⟨⟨trims, inside⟩, found, same⟩ := Option.map_eq_some_iff.mp read
    cases same
    obtain ⟨form, whole, kind, speaks⟩ := this trims inside found spoken
    exact ⟨form, whole, kind, speaks⟩
  intro trims inside read spoken
  simp only [tagInside?, Option.orElse_eq_orElse, Option.orElse_eq_or, Option.or_eq_some_iff] at read
  rcases read with comment | ⟨_, read | ⟨_, read | ⟨_, read⟩⟩⟩
  · obtain ⟨found, read, same⟩ := Option.map_eq_some_iff.mp comment
    obtain ⟨rest, _, read⟩ := Option.bind_eq_some_iff.mp read
    obtain ⟨⟨body, last⟩, _, read⟩ := Option.bind_eq_some_iff.mp read
    cases read
    cases same
    cases spoken
  · exact tripleTag?_form read
  · exact doubleTag?_form read spoken
  · exact rawOpening?_form read

end Stencil.Template
