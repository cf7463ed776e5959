import Mathlib
import Stencil.Proofs.CoveredTemplates
import Stencil.Proofs.FormWords
import Stencil.Proofs.Mentions
import Stencil.Proofs.PlacedTags

set_option autoImplicit false

/-!
What mentions cover. In a source that is read, every partial that is included under a plain name, and every
helper that is called with arguments behind a blank, is mentioned, if the marks of the tag stand right
behind its braces and the tag does not chain a block to another one (`mentions_cover`).
-/

namespace Stencil.Template

open Extraction (Blanks BeginsArgument Marks isPartialPart)

/-! ### Beginnings of arguments -/

/-- A text whose first character that is no blank does not end a tag. -/
def Opens (text : List Char) : Prop := ∀ c ∈ (Text.trimStart text).head?, c ≠ '\x7d' ∧ c ≠ '~'

theorem opens_cons {c : Char} (solid : Text.isBlank c = false) (inner : c ≠ '\x7d' ∧ c ≠ '~')
    (rest : List Char) : Opens (c :: rest) := by
  intro d first
  rw [Text.trimStart, List.dropWhile_cons_of_neg (by simp [solid])] at first
  cases first
  exact inner

theorem opens_of_chars {text : List Char} (inner : ∀ c ∈ text, c ≠ '\x7d' ∧ c ≠ '~') : Opens text :=
  fun c first => inner c ((List.dropWhile_suffix _).subset (List.mem_of_mem_head? first))

theorem Opens.append {first second : List Char} (here : Opens first) (there : Opens second) :
    Opens (first ++ second) := by
  intro c member
  rw [Text.trimStart, List.dropWhile_append] at member
  split at member
  · exact there c member
  · rename_i filled
    have nonempty : first.dropWhile Text.isBlank ≠ [] := fun empty => filled (by rw [empty]; rfl)
    obtain ⟨d, others, same⟩ := List.exists_cons_of_ne_nil nonempty
    refine here c ?_
    rw [Text.trimStart, same]
    rw [same] at member
    exact member

theorem opens_of_nameChars {text : List Char} (chars : ∀ c ∈ text, isNameChar c = true) : Opens text :=
  opens_of_chars fun c member => ⟨Path.ne_of_isNameChar (chars c member) (by decide),
    Path.ne_of_isNameChar (chars c member) (by decide)⟩

theorem Gap.opens (gap : Gap) : Opens gap.text := by
  refine opens_of_chars fun c member => ?_
  have blank := gap.blank c member
  refine ⟨?_, ?_⟩
  all_goals
    rintro rfl
    cases blank

theorem PathForm.opens (written : PathForm) : Opens written.path.raw.toList := by
  obtain ⟨path, text, rest, read⟩ := written
  have opening := Path.opening_of_read read
  dsimp only
  generalize path.raw.toList = raw at opening ⊢
  cases opening with
  | marked others mark =>
    rcases mark with rfl | rfl | rfl
    all_goals exact opens_cons (by decide) (by decide) others
  | word nonempty chars stops =>
    refine (opens_of_nameChars chars).append ?_
    rcases stops with rfl | ⟨c, others, rfl, separates, _⟩
    · exact opens_of_chars (List.forall_mem_nil _)
    · rcases Path.separator_cases separates with rfl | rfl
      all_goals exact opens_cons (by decide) (by decide) others

theorem LiteralForm.opens (literal : LiteralForm) : Opens literal.text := by
  obtain ⟨fuel, more, read⟩ := literal.read
  rcases literal_cases read with ⟨c, body, last, same, closes⟩ | ⟨_, chars, _⟩
  · rw [same]
    cases closes with
    | quote mark =>
      rcases mark with rfl | rfl
      all_goals exact opens_cons (by decide) (by decide) _
    | array => exact opens_cons (by decide) (by decide) _
    | object => exact opens_cons (by decide) (by decide) _
  · exact opens_of_chars fun c member => ⟨Inline.ne_of_isLeafChar (chars c member) (by decide),
      Inline.ne_of_isLeafChar (chars c member) (by decide)⟩

theorem opens_keyOf (key : Option KeyForm) : Opens (keyOf key) := by
  cases key with
  | none => exact opens_of_chars (List.forall_mem_nil _)
  | some written =>
    exact (opens_of_nameChars written.key.chars).append
      (written.before.opens.append (opens_cons (by decide) (by decide) _))

theorem Form.opens (form : Form) : Opens form.text := by
  cases form with
  | literal literal => exact literal.opens
  | path written => exact written.opens
  | call before phrase after => exact opens_cons (by decide) (by decide) _

theorem Forms.opens : ∀ forms : Forms, Opens forms.text
  | .nil => opens_of_chars (List.forall_mem_nil _)
  | .cons gap key form others =>
    gap.opens.append ((opens_keyOf key).append (form.opens.append others.opens))

/-- Arguments that stand behind a blank, and are not all blank. -/
structure Forms.Spaced (arguments : Forms) : Prop where
  separated : ∃ c ∈ arguments.text.head?, Text.isBlank c = true
  visible : ∃ c ∈ arguments.text, Text.isBlank c = false

theorem Forms.Spaced.exists_argument {arguments : Forms} (spaced : arguments.Spaced) :
    ∃ behind c rest, arguments.text = behind ++ c :: rest ∧ Blanks behind ∧ behind ≠ [] ∧
      BeginsArgument c := by
  obtain ⟨behind, blank, split⟩ := Extraction.blanks_trimStart arguments.text
  obtain ⟨d, first, space⟩ := spaced.separated
  obtain ⟨e, member, solid⟩ := spaced.visible
  cases trimmed : Text.trimStart arguments.text with
  | nil =>
    rw [trimmed, List.append_nil] at split
    rw [split] at member
    rw [blank e member] at solid
    cases solid
  | cons c rest =>
    rw [trimmed] at split
    have head : c ∈ (Text.trimStart arguments.text).head? := by
      rw [trimmed]
      rfl
    have opened : Text.isBlank c = false := not_of_head?_dropWhile head
    refine ⟨behind, c, rest, split, blank, ?_, opened, arguments.opens c head⟩
    rintro rfl
    rw [split] at first
    cases first
    rw [opened] at space
    cases space

/-! ### Beginnings of tags -/

namespace Said

/-- The braces before the last two of those that a tag begins with. -/
def extra : Said → List Char
  | .value .brace _ => ['\x7b']
  | said => said.outer

theorem extra_cases (said : Said) : said.extra = [] ∨ ∃ front, said.extra = front ++ ['\x7b'] := by
  cases said with
  | value mark saying =>
    cases mark with
    | plain => exact Or.inl rfl
    | triple => exact Or.inr ⟨[], rfl⟩
    | brace => exact Or.inr ⟨[], rfl⟩
    | ampersand => exact Or.inl rfl
  | line mark name arguments params =>
    cases mark with
    | opening => exact Or.inl rfl
    | chain caret => exact Or.inl rfl
    | raw => exact Or.inr ⟨['\x7b'], rfl⟩
  | _ => exact Or.inl rfl

/-- The name and the arguments of a call without parentheses that is a whole tag. -/
def call? : Said → Option (OptionName × Forms)
  | .value _ (.plain (.named name arguments)) => some (name, arguments)
  | .line _ name arguments _ => some (name, arguments)
  | _ => none

def included? : Said → Option InclusionForm
  | .inclusion included => some included
  | .inclusionOpening _ included => some included
  | _ => none

/-- The sign of an inclusion. -/
def angle : Said → List Char
  | .inclusion _ => ['>']
  | .inclusionOpening _ _ => ['>']
  | _ => []

theorem text_of_call {said : Said} {name : OptionName} {arguments : Forms}
    (call : said.call? = some (name, arguments)) :
    said.angle = [] ∧ ∃ params, said.text = name.name.toList ++ (arguments.text ++ params) := by
  cases said with
  | value mark saying =>
    cases saying with
    | call before phrase after => cases call
    | plain phrase =>
      cases phrase with
      | path written => cases call
      | named name arguments =>
        cases call
        exact ⟨rfl, [], by simp [text, Saying.text, Phrase.text]⟩
  | line mark name arguments params =>
    cases call
    exact ⟨rfl, params, by simp [text, Phrase.text]⟩
  | _ => cases call

theorem text_of_included {said : Said} {included : InclusionForm} (found : said.included? = some included) :
    said.angle = ['>'] ∧ said.extra = [] ∧ said.text = included.text ∧ (∀ gap, said.closer gap = []) ∧
      said.ending = "\x7d\x7d" := by
  cases said with
  | inclusion included =>
    cases found
    exact ⟨rfl, rfl, rfl, fun _ => rfl, rfl⟩
  | inclusionOpening between included =>
    cases found
    exact ⟨rfl, rfl, rfl, fun _ => rfl, rfl⟩
  | _ => cases found

end Said

namespace TagForm

/-- The marks of the tag stand right behind its braces. Alternatives and the blocks chained to others have
other marks, and so have values behind an ampersand, which are paths or calls in parentheses. -/
def Joined (form : TagForm) : Prop :=
  (∀ gap ∈ form.tilde, gap.text = []) ∧
    match form.said with
    | .value .plain _ => True
    | .value .triple _ => True
    | .value .brace _ => form.tilde = none ∧ form.before.text = []
    | .line .opening _ _ _ => form.before.text = []
    | .line .raw _ _ _ => True
    | .inclusion _ => form.before.text = []
    | .inclusionOpening between _ => form.before.text = [] ∧ between.text = []
    | _ => False

variable {form : TagForm}

/-- What stands before what a joined tag says. -/
theorem joined_lead (joined : form.Joined) : ∃ (marks : Marks) (gap : List Char), Blanks gap ∧
    '\x7b' :: '\x7b' :: form.lead =
      form.said.extra ++ '\x7b' :: '\x7b' :: (marks.text ++ (form.said.angle ++ gap)) := by
  obtain ⟨tilde, before, said, gap, closed, ends⟩ := form
  obtain ⟨tildes, marked⟩ := joined
  obtain ⟨mark, sign⟩ : ∃ mark : Bool, tildeText tilde = if mark then ['~'] else [] := by
    cases tilde with
    | none => exact ⟨false, rfl⟩
    | some gap => exact ⟨true, by simp [tildeText, tildes gap rfl]⟩
  have spaces := Blanks.append before.blank gap.blank
  cases said with
  | value shown saying =>
    cases shown with
    | plain => exact ⟨⟨mark, false⟩, _, spaces, by
        simp [lead, sign, Said.outer, Said.sign, Said.extra, Said.angle, Marks.text]⟩
    | triple => exact ⟨⟨mark, false⟩, _, spaces, by
        simp [lead, sign, Said.outer, Said.sign, Said.extra, Said.angle, Marks.text]⟩
    | brace =>
      obtain ⟨rfl, empty⟩ : tilde = none ∧ before.text = [] := marked
      exact ⟨⟨false, false⟩, _, gap.blank, by
        simp [lead, empty, tildeText, Said.outer, Said.sign, Said.extra, Said.angle, Marks.text]⟩
    | ampersand => exact marked.elim
  | otherwise caret => exact marked.elim
  | line opens name arguments params =>
    cases opens with
    | opening =>
      have empty : before.text = [] := marked
      exact ⟨⟨mark, true⟩, _, gap.blank, by
        simp [lead, sign, empty, Said.outer, Said.sign, Said.extra, Said.angle, Marks.text]⟩
    | chain caret => exact marked.elim
    | raw => exact ⟨⟨mark, false⟩, _, spaces, by
        simp [lead, sign, Said.outer, Said.sign, Said.extra, Said.angle, Marks.text]⟩
  | inclusion included =>
    have empty : before.text = [] := marked
    exact ⟨⟨mark, false⟩, _, gap.blank, by
      simp [lead, sign, empty, Said.outer, Said.sign, Said.extra, Said.angle, Marks.text]⟩
  | inclusionOpening between included =>
    obtain ⟨empty, joined⟩ : before.text = [] ∧ between.text = [] := marked
    exact ⟨⟨mark, true⟩, _, gap.blank, by
      simp [lead, sign, empty, joined, Said.outer, Said.sign, Said.extra, Said.angle, Marks.text]⟩

theorem text_of_joined (joined : form.Joined) : ∃ (marks : Marks) (gap : List Char), Blanks gap ∧
    '\x7b' :: '\x7b' :: form.text = form.said.extra ++ '\x7b' :: '\x7b' :: (marks.text ++
      (form.said.angle ++ (gap ++ (form.said.text ++ (form.tail ++ form.said.ending.toList))))) := by
  obtain ⟨marks, gap, blank, lead⟩ := joined_lead joined
  have whole : '\x7b' :: '\x7b' :: form.text =
      ('\x7b' :: '\x7b' :: form.lead) ++ (form.said.text ++ (form.tail ++ form.said.ending.toList)) := by
    simp [text, body]
  refine ⟨marks, gap, blank, ?_⟩
  rw [whole, lead]
  simp

end TagForm

/-- No name goes on in the end of a tag. -/
theorem not_isPartialPart_of_end (ends : EndForm) :
    ∀ c ∈ ends.text ++ "\x7d\x7d".toList, isPartialPart c = false := by
  have spaces : ∀ gap : Gap, ∀ c ∈ gap.text, isPartialPart c = false := by
    intro gap c member
    rw [Bool.eq_false_iff]
    intro part
    have solid := Extraction.not_isBlank_of_isPartialPart part
    rw [gap.blank c member] at solid
    cases solid
  intro c member
  simp only [EndForm.text, List.append_assoc, List.mem_append] at member
  rcases member with tilde | gap | braces
  · cases same : ends.tilde with
    | none =>
      rw [same] at tilde
      cases tilde
    | some gap =>
      rw [same, tildeText, Option.elim_some] at tilde
      rcases List.mem_append.mp tilde with member | member
      · exact spaces gap c member
      · rw [List.mem_singleton.mp member]
        decide +kernel
  · exact spaces ends.gap c gap
  · have closed : ∀ d ∈ "\x7d\x7d".toList, isPartialPart d = false :=
      Text.forall_mem_of_all (by decide +kernel)
    exact closed c braces

theorem isPartialChar_of_isPartialPart {c : Char} (part : isPartialPart c = true) :
    isPartialChar c = true := by
  cases ascii : Text.isAscii c with
  | false => simp [isPartialChar, ascii]
  | true =>
    have wider := @Text.forall_of_ascii (fun c => isPartialPart c = true → isPartialChar c = true)
      (by decide +kernel) c ascii
    exact wider part

end Stencil.Template

namespace Stencil.Extraction

open Template (EndForm Forms InclusionForm PartialForm PlacedTag Placing StandsAt TagForm elementSpeeches)

theorem nodup_distinctNames (names : List String) : (distinctNames names).Nodup := by
  suffices ∀ known : List String, known.Nodup → (names.foldl addName known).Nodup from
    this [] List.nodup_nil
  induction names with
  | nil => exact fun known nodup => nodup
  | cons name names ih =>
    intro known nodup
    refine ih _ ?_
    unfold addName
    split
    · exact nodup
    · rename_i new
      have fresh : name ∉ known := by simpa using new
      refine List.nodup_append.mpr ⟨nodup, List.pairwise_singleton _ _, fun other member last same => ?_⟩
      rintro rfl
      exact fresh (List.mem_singleton.mp same ▸ member)

/-! ### Tags that are mentioned -/

/-- A tag that includes a partial under a plain name, with its marks right behind its braces. -/
structure PlainInclusion (form : TagForm) (name : String) : Prop where
  target : (form.said.included?.map fun included => included.target) = some (.name name)
  joined : form.Joined
  nonempty : name ≠ ""
  parts : ∀ c ∈ name.toList, isPartialPart c = true

/-- A tag that calls a helper with arguments behind a blank, with its marks right behind its braces. Two
braces that open it do not stand right behind the beginning of another call. -/
structure PlainCall (source : String) (tag : PlacedTag) (name : OptionName) (arguments : Forms) : Prop where
  call : tag.form.said.call? = some (name, arguments)
  joined : tag.form.Joined
  spaced : arguments.Spaced
  named : isHelperName name.name.toList = true
  free : tag.form.said.extra = [] → ¬ BehindCall (source.toList.take tag.start)

section

variable {source : String} {tag : PlacedTag}

/-- The name of a partial ends where what stands behind it begins. -/
theorem stops_behind_name {included : InclusionForm} {name : String} (target : included.target = .name name)
    (parts : ∀ c ∈ name.toList, isPartialPart c = true) (ends : EndForm) (after : List Char) :
    ∀ c ∈ (included.arguments.text ++ (ends.text ++ "\x7d\x7d".toList ++ after)).head?,
      isPartialPart c = false := by
  intro c first
  cases arguments : included.arguments.text with
  | nil =>
    have filled : ends.text ++ "\x7d\x7d".toList ≠ [] := by simp
    obtain ⟨d, others, same⟩ := List.exists_cons_of_ne_nil filled
    rw [arguments, List.nil_append, same] at first
    cases first
    exact Template.not_isPartialPart_of_end ends c (by rw [same]; exact List.mem_cons_self)
  | cons d others =>
    rw [arguments] at first
    cases first
    have apart := included.apart name target
      (fun c member => Template.isPartialChar_of_isPartialPart (parts c member)) c (by rw [arguments]; rfl)
    rw [Bool.eq_false_iff]
    intro part
    rw [Template.isPartialChar_of_isPartialPart part] at apart
    cases apart

theorem mem_partialNames (stands : StandsAt source.toList tag.start ('\x7b' :: '\x7b' :: tag.form.text))
    {name : String} (plain : PlainInclusion tag.form name) : name ∈ partialNames source := by
  obtain ⟨before, after, _, whole⟩ := stands
  obtain ⟨included, found, target⟩ := Option.map_eq_some_iff.mp plain.target
  obtain ⟨angle, extra, text, closer, ending⟩ := Template.Said.text_of_included found
  obtain ⟨marks, gap, blank, split⟩ := TagForm.text_of_joined plain.joined
  have nonempty : name.toList ≠ [] := by simpa using plain.nonempty
  let start : InclusionStart := ⟨marks, gap, name.toList, blank, plain.parts, nonempty⟩
  have parts : source.toList = before ++ (start.text ++ (included.arguments.text ++
      (tag.form.ends.text ++ "\x7d\x7d".toList ++ after))) := by
    rw [whole, split, angle, extra, text, TagForm.tail, closer, ending, InclusionForm.text, target]
    simp [start, InclusionStart.text, InclusionStart.body, PartialForm.text]
  have mention := mem_mentions_inclusion start parts (stops_behind_name target plain.parts _ _)
  rw [String.ofList_toList] at mention
  exact mem_distinctNames.mpr mention

theorem mem_helperNames (stands : StandsAt source.toList tag.start ('\x7b' :: '\x7b' :: tag.form.text))
    {name : OptionName} {arguments : Forms} (plain : PlainCall source tag name arguments)
    (helper : name.name ∉ control) : name.name ∈ helperNames source := by
  obtain ⟨before, after, position, whole⟩ := stands
  obtain ⟨angle, params, text⟩ := Template.Said.text_of_call plain.call
  obtain ⟨marks, gap, blank, split⟩ := TagForm.text_of_joined plain.joined
  obtain ⟨behind, c, rest, first, blankBehind, separated, next⟩ := plain.spaced.exists_argument
  let start : CallStart := ⟨marks, gap, name.name.toList, behind, blank, plain.named, blankBehind, separated⟩
  have parts : source.toList = (before ++ tag.form.said.extra) ++ (start.text ++ c :: (rest ++ (params ++
      (tag.form.tail ++ (tag.form.said.ending.toList ++ after))))) := by
    rw [whole, split, angle, text, first]
    simp [start, CallStart.text, CallStart.body]
  have free : ¬ BehindCall (before ++ tag.form.said.extra) := by
    rcases tag.form.said.extra_cases with empty | ⟨front, braces⟩
    · have prior : source.toList.take tag.start = before := by
        rw [whole, ← position, List.take_left]
      rw [empty, List.append_nil, ← prior]
      exact plain.free empty
    · rw [braces, ← List.append_assoc]
      exact not_behindCall (by decide) _
  have mention := mem_mentions_call start next parts free
  rw [String.ofList_toList] at mention
  refine mem_distinctNames.mpr (List.mem_filter.mpr ⟨mention, ?_⟩)
  simpa using helper

end

/-- What a source that is read includes or calls is mentioned, wherever it stands in the template, but for
tags whose spelling hides it. No list has a name twice. -/
theorem mentions_cover {source : String} {template : Template}
    (done : Template.read source = .ok template) :
    (partialNames source).Nodup ∧ (helperNames source).Nodup ∧ (∃ placed, Placing source placed) ∧
      ∀ placed, Placing source placed →
        elementSpeeches template = (placed.filterMap fun tag => tag.form.said.speech?) ∧
        (∀ tag ∈ placed, ∀ name, PlainInclusion tag.form name → name ∈ partialNames source) ∧
        ∀ tag ∈ placed, ∀ name arguments, PlainCall source tag name arguments → name.name ∉ control →
          name.name ∈ helperNames source := by
  refine ⟨nodup_distinctNames _, nodup_distinctNames _, Template.placed_of_read done, ?_⟩
  intro placed placing
  have stands : ∀ tag ∈ placed,
      StandsAt source.toList tag.start ('\x7b' :: '\x7b' :: tag.form.text) := by
    intro tag member
    obtain ⟨offset, position, stands⟩ := placing.standing.standsAt tag member
    rw [position, Nat.zero_add]
    exact stands
  refine ⟨placing.speeches done, ?_, ?_⟩
  · exact fun tag member name plain => mem_partialNames (stands tag member) plain
  · exact fun tag member name arguments plain helper => mem_helperNames (stands tag member) plain helper

/-! ### An inclusion and a call -/

section

open Template (Content Phrase Said Speech Standing noGap oneSpace)

def includedPart : InclusionForm := ⟨.name "a/b", .nil, nofun⟩

/-- An inclusion with a body. -/
def inclusionTag : PlacedTag :=
  ⟨0, none, noGap, .inclusionOpening noGap includedPart, oneSpace, noGap, none, noGap⟩

def upperName : OptionName := .ofString "upper" (by decide) (by decide)

def argumentX : Forms :=
  .cons oneSpace none (.path ⟨⟨"x", [.named "x"]⟩, "x".toList, [], by decide +kernel⟩) .nil

/-- A call in the body of the inclusion. -/
def callInside : PlacedTag :=
  ⟨10, some noGap, noGap, .value .plain (.plain (.named upperName argumentX)), oneSpace, noGap, none, noGap⟩

def partSource : String := "\x7b\x7b#> a/b\x7d\x7d\x7b\x7b~ upper x\x7d\x7d\x7b\x7b/a/b\x7d\x7d"

def partTemplate : Template :=
  [.inclusionBlock includedPart.expression false [.value (Phrase.named upperName argumentX).expression]]

theorem placing_part : Placing partSource [inclusionTag, callInside] := by
  have tags : (Template.tagsOf partSource).filter (fun content => content.1.isSpoken) =
      [(.inclusionOpening includedPart.expression, none),
        (.value (Phrase.named upperName argumentX).expression, none)] := by cbv
  constructor
  · exact Standing.cons [] inclusionTag.form (Standing.cons [] callInside.form (Standing.nil _ _))
  · rw [tags]
    exact List.Forall₂.cons ⟨Said.Kind.inclusionOpening _ _ _, rfl⟩
      (List.Forall₂.cons ⟨Said.Kind.value _ _ _, rfl⟩ List.Forall₂.nil)

/-- A partial with a body and a call in it are both mentioned. -/
theorem mentions_cover_part : "a/b" ∈ partialNames partSource ∧ "upper" ∈ helperNames partSource := by
  have done : Template.read partSource = .ok partTemplate := by cbv
  obtain ⟨_, inclusions, calls⟩ := (mentions_cover done).2.2.2 _ placing_part
  constructor
  · refine inclusions inclusionTag List.mem_cons_self "a/b" ⟨rfl, ⟨by rintro _ ⟨⟩, rfl, rfl⟩, by decide, ?_⟩
    exact Text.forall_mem_of_all (by decide +kernel)
  · refine calls callInside (by simp) upperName argumentX ⟨rfl, ⟨?_, trivial⟩, ?_, by decide +kernel, ?_⟩
      (by decide)
    · rintro gap same
      cases same
      rfl
    · exact ⟨⟨' ', rfl, by decide⟩, ⟨'x', by decide, by decide⟩⟩
    · intro _
      exact @not_behindCall '\x7d' (by decide) "\x7b\x7b#> a/b\x7d".toList

/-- A space before its sign hides an inclusion. A call is hidden behind `else`, and if no blank stands
behind its name. -/
theorem spelling_hides_mentions :
    (∃ template, Template.read "\x7b\x7b > p\x7d\x7d" = .ok template ∧
      elementSpeeches template = [.inclusion ⟨.word "p", []⟩]) ∧
    "p" ∉ partialNames "\x7b\x7b > p\x7d\x7d" ∧
    (∃ template, Template.read "\x7b\x7b#if a\x7d\x7d\x7b\x7belse f x\x7d\x7d\x7b\x7b/if\x7d\x7d" = .ok template ∧
      .block ⟨.word "f", [(none, .path ⟨"x", [.named "x"]⟩)]⟩ ∈ elementSpeeches template) ∧
    "f" ∉ helperNames "\x7b\x7b#if a\x7d\x7d\x7b\x7belse f x\x7d\x7d\x7b\x7b/if\x7d\x7d" ∧
    (∃ template, Template.read "\x7b\x7bf\"x\"\x7d\x7d" = .ok template ∧
      elementSpeeches template = [.value ⟨.word "f", [(none, .literal (.string "x"))]⟩]) ∧
    "f" ∉ helperNames "\x7b\x7bf\"x\"\x7d\x7d" := by
  refine ⟨⟨_, by cbv, ?_⟩, by decide +kernel, ⟨_, by cbv, ?_⟩, by decide +kernel, ⟨_, by cbv, ?_⟩,
    by decide +kernel⟩
  all_goals simp [Template.Element.speeches, elementSpeeches]

end

end Stencil.Extraction
