import Stencil.Proofs.SpokenTags
import Stencil.Proofs.TagForms

set_option autoImplicit false

/-!
Tags at their positions. In a source that is read, the tags that show a value, open a block, begin an
alternative or include a partial stand one behind the other, each as it is written (`placed_of_read`).
-/

namespace Stencil.Template

/-- A part of a text, behind as many characters as its position says. -/
def StandsAt (text : List Char) (start : Nat) (part : List Char) : Prop :=
  ∃ before after, before.length = start ∧ text = before ++ (part ++ after)

namespace StandsAt

variable {text part inner : List Char} {start offset : Nat}

/-- A part of a part. -/
theorem inside (stands : StandsAt text start part) (within : StandsAt part offset inner) :
    StandsAt text (start + offset) inner := by
  obtain ⟨before, after, rfl, rfl⟩ := stands
  obtain ⟨first, last, rfl, rfl⟩ := within
  exact ⟨before ++ first, last ++ after, by simp, by simp⟩

/-- A part of a text with more before it and behind it. -/
theorem widen (stands : StandsAt part offset inner) (before after : List Char) :
    StandsAt (before ++ (part ++ after)) (before.length + offset) inner :=
  inside ⟨before, after, rfl, rfl⟩ stands

theorem behind (before part : List Char) : StandsAt (before ++ part) before.length part :=
  ⟨before, [], rfl, by simp⟩

theorem whole (part : List Char) : StandsAt part 0 part := ⟨[], [], rfl, by simp⟩

theorem length_le (stands : StandsAt text start part) : start + part.length ≤ text.length := by
  obtain ⟨before, after, rfl, rfl⟩ := stands
  simp only [List.length_append]
  omega

end StandsAt

/-- A tag as it is written, and the position of its first brace. -/
structure PlacedTag where
  start : Nat
  form : TagForm

/-- The position behind what a tag says and how it ends. -/
def PlacedTag.stop (placed : PlacedTag) : Nat := placed.start + 2 + placed.form.text.length

/-- Tags stand one behind the other in a text that begins at some position. -/
inductive Standing : Nat → List Char → List PlacedTag → Prop where
  | nil (start : Nat) (text : List Char) : Standing start text []
  | cons {start : Nat} (lead : List Char) (form : TagForm) {more : List Char} {placed : List PlacedTag}
      (further : Standing (start + lead.length + 2 + form.text.length) more placed) :
      Standing start (lead ++ '\x7b' :: '\x7b' :: (form.text ++ more))
        (⟨start + lead.length, form⟩ :: placed)

/-- A tag is written for what some tag of the source says. -/
structure PlacedTag.Writes (placed : PlacedTag) (content : Content) : Prop where
  kind : placed.form.said.Kind content.1
  speaks : placed.form.said.expression? = content.1.expression?

namespace Standing

variable {start : Nat} {text : List Char} {placed : List PlacedTag}

/-- Other text before the first tag. -/
theorem behind (lead : List Char) (standing : Standing (start + lead.length) text placed) :
    Standing start (lead ++ text) placed := by
  cases standing with
  | nil => exact Standing.nil _ _
  | @cons inner form more placed further =>
    rw [← List.append_assoc, Nat.add_assoc, ← List.length_append]
    apply Standing.cons
    rwa [List.length_append, ← Nat.add_assoc]

/-- Every tag stands at its position. -/
theorem standsAt (standing : Standing start text placed) : ∀ tag ∈ placed, ∃ offset,
    tag.start = start + offset ∧ StandsAt text offset ('\x7b' :: '\x7b' :: tag.form.text) := by
  induction standing with
  | nil => exact List.forall_mem_nil _
  | @cons start lead form more placed further ih =>
    have split : lead ++ '\x7b' :: '\x7b' :: (form.text ++ more) =
        (lead ++ '\x7b' :: '\x7b' :: form.text) ++ (more ++ []) := by simp
    refine List.forall_mem_cons.mpr ⟨⟨lead.length, rfl, lead, more, rfl, by simp⟩, ?_⟩
    intro tag member
    obtain ⟨offset, same, stands⟩ := ih tag member
    refine ⟨lead.length + 2 + form.text.length + offset, by omega, ?_⟩
    have wide := stands.widen (lead ++ '\x7b' :: '\x7b' :: form.text) []
    rw [← split, List.length_append, List.length_cons, List.length_cons] at wide
    have length : lead.length + (form.text.length + 1 + 1) + offset =
        lead.length + 2 + form.text.length + offset := by omega
    rwa [length] at wide

/-- A tag ends before the next one. -/
theorem pairwise (standing : Standing start text placed) :
    placed.Pairwise fun first second => first.stop ≤ second.start := by
  induction standing with
  | nil => exact List.Pairwise.nil
  | @cons start lead form more placed further ih =>
    refine List.pairwise_cons.mpr ⟨fun tag member => ?_, ih⟩
    obtain ⟨offset, same, _⟩ := further.standsAt tag member
    simp only [same, PlacedTag.stop]
    omega

end Standing

/-- Wherever a text stands in the source, the tags that say something stand in it. -/
def HasPlaces (text : List Char) (tags : List Content) : Prop :=
  ∀ start, ∃ placed, Standing start text placed ∧
    List.Forall₂ PlacedTag.Writes placed (tags.filter fun content => content.1.isSpoken)

namespace HasPlaces

variable {text rest : List Char} {tags : List Content}

theorem of_suffix (places : HasPlaces rest tags) (suffix : rest <:+ text) : HasPlaces text tags := by
  obtain ⟨lead, rfl⟩ := suffix
  intro start
  obtain ⟨placed, standing, writes⟩ := places (start + lead.length)
  exact ⟨placed, standing.behind lead, writes⟩

theorem silent (places : HasPlaces text tags) {content : Content}
    (silent : content.1.isSpoken = false) : HasPlaces text (content :: tags) := by
  intro start
  obtain ⟨placed, standing, writes⟩ := places start
  exact ⟨placed, standing, by rwa [List.filter_cons_of_neg (by simp [silent])]⟩

/-- A tag before others. -/
theorem tag {before : List Char} {tag : Tag} (places : HasPlaces rest tags)
    (read : tag? before text = some (tag, rest)) (valid : tag.invalid = none) :
    HasPlaces ('\x7b' :: '\x7b' :: text) (tag.content :: tags) := by
  cases spoken : tag.kind.isSpoken with
  | false =>
    apply silent _ spoken
    exact places.of_suffix ((tag?_suffix read).trans ⟨['\x7b', '\x7b'], rfl⟩)
  | true =>
    obtain ⟨form, rfl, kind, speaks⟩ := tag?_form read spoken
    intro start
    obtain ⟨placed, standing, writes⟩ := places (start + 0 + 2 + form.text.length)
    refine ⟨_, Standing.cons [] form standing, ?_⟩
    rw [List.filter_cons_of_pos (by exact spoken)]
    exact List.Forall₂.cons ⟨kind, speaks valid⟩ writes

end HasPlaces

theorem rawClosing?_silent {text : List Char} {trims : Bool} {inside : Inside}
    (read : rawClosing? text = some (trims, inside)) : inside.kind.isSpoken = false := by
  obtain ⟨rest, _, read⟩ := Option.bind_eq_some_iff.mp read
  obtain ⟨last, _, read⟩ := Option.bind_eq_some_iff.mp read
  obtain ⟨⟨name, trims, final⟩, _, read⟩ := Option.bind_eq_some_iff.mp read
  cases read
  rfl

/-- The tags of a source whose tags were read have places in it. -/
theorem places_of_tagged {text : List Char} {tags : List Content} (tagged : Tagged text tags)
    (valid : ∀ content ∈ tags, content.2 = none) : HasPlaces text tags := by
  induction tagged with
  | done => exact fun start => ⟨[], Standing.nil _ _, List.Forall₂.nil⟩
  | tag read plain further ih =>
    obtain ⟨first, others⟩ := List.forall_mem_cons.mp valid
    exact (ih others).tag read first
  | @raw before text rest tags tag trims inside read opened closed further ih =>
    obtain ⟨first, last⟩ := List.forall_mem_cons.mp valid
    obtain ⟨_, others⟩ := List.forall_mem_cons.mp last
    have suffix : inside.rest <:+ rest := (rawClosing?_suffix closed).trans
      ((behindText_suffix false (skip rest)).trans (skip_suffix rest))
    have closing := ((ih others).of_suffix suffix).silent
      (show (inside.kind, inside.invalid).1.isSpoken = false from rawClosing?_silent closed)
    exact closing.tag read first
  | text plain nonempty further ih => exact (ih valid).of_suffix (behindText_suffix false _)

/-! ### What placed tags say -/

/-- The tags of a source that say something, each at its position. -/
structure Placing (source : String) (placed : List PlacedTag) : Prop where
  standing : Standing 0 source.toList placed
  writes : List.Forall₂ PlacedTag.Writes placed
    ((tagsOf source).filter fun content => content.1.isSpoken)

/-- The tags of a source that is read stand in it. -/
theorem placed_of_read {source : String} {template : Template} (done : read source = .ok template) :
    ∃ placed, Placing source placed := by
  obtain ⟨tokens, found, _⟩ := tokens_of_read done
  have valid := valid_of_read done
  have same : tagsOf source = contents tokens := by rw [tagsOf, found, Option.map_some, Option.getD_some]
  rw [same] at valid
  obtain ⟨placed, standing, writes⟩ := places_of_tagged (tagged_of_tokensFrom _ _ _ _ found) valid 0
  exact ⟨placed, standing, same ▸ writes⟩

/-- What a tag says to a walk through the template. -/
def Said.speech? : Said → Option Speech
  | .value _ saying => some (.value saying.expression)
  | .otherwise _ => none
  | .line _ name arguments _ => some (.block (Phrase.named name arguments).expression)
  | .inclusion included => some (.inclusion included.expression)
  | .inclusionOpening _ included => some (.inclusion included.expression)

theorem Said.speech?_eq {said : Said} {kind : TagKind} (fits : said.Kind kind)
    (speaks : said.expression? = kind.expression?) : said.speech? = kind.speech? := by
  cases fits with
  | otherwise caret => rfl
  | value mark saying expression =>
    cases speaks
    rfl
  | line mark name arguments params expression names =>
    cases mark <;> cases speaks <;> rfl
  | inclusion included expression =>
    cases speaks
    rfl
  | inclusionOpening between included expression =>
    cases speaks
    rfl

theorem TagKind.speech?_of_silent {kind : TagKind} (silent : kind.isSpoken = false) :
    kind.speech? = none := by
  cases kind <;> first | rfl | cases silent

theorem speeches_of_writes {tags : List Content} {placed : List PlacedTag}
    (writes : List.Forall₂ PlacedTag.Writes placed tags) :
    (tags.filterMap fun content => content.1.speech?) = placed.filterMap fun tag => tag.form.said.speech? := by
  induction writes with
  | nil => rfl
  | cons first further ih =>
    rw [List.filterMap_cons, List.filterMap_cons, ih, Said.speech?_eq first.kind first.speaks]

/-- A walk through the template meets what the tags say, in their order. -/
theorem Placing.speeches {source : String} {placed : List PlacedTag} (placing : Placing source placed)
    {template : Template} (done : read source = .ok template) :
    elementSpeeches template = placed.filterMap fun tag => tag.form.said.speech? := by
  have spoken : ∀ tags : List Content, (tags.filterMap fun content => content.1.speech?) =
      (tags.filter fun content => content.1.isSpoken).filterMap fun content => content.1.speech? := by
    intro tags
    rw [List.filterMap_filter]
    refine List.filterMap_congr fun content _ => ?_
    cases spoken : content.1.isSpoken with
    | true => rfl
    | false => exact TagKind.speech?_of_silent spoken
  rw [speeches_of_read done, spoken]
  exact speeches_of_writes placing.writes

end Stencil.Template
