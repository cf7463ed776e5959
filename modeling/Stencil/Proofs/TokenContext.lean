import Stencil.Proofs.TagRemains
import Stencil.Template.Token

set_option autoImplicit false

/-!
Sources one after the other. A source that was read has its tags in the same order where an inert text
and a further source follow it (`Tagged.append`), if its tags are read alike in front of more; then come
the tags of the further source.
-/

namespace Stencil.Template

/-! ### Text before a tag -/

/-- A text at whose beginning no tag opens, nor is one escaped. -/
def Inert (text : List Char) : Prop := ∃ c others, text = c :: others ∧ c ≠ '\x7b' ∧ c ≠ '\\'

/-- What is left of a source behind its text up to a tag. -/
def behindText (stop : List Char) (inRun : Bool) (text : List Char) : List Char :=
  (chunk stop inRun [] [] text).rest

variable {stop : List Char}

/-- True where a character begins no escaped tag. -/
def Unescaped (inRun : Bool) (c : Char) (text : List Char) : Prop :=
  ∀ others, inRun = false → c = '\\' → text = '\x7b' :: '\x7b' :: others → False

theorem chunk_cons {inRun : Bool} {c : Char} {text : List Char} (plain : Unescaped inRun c text)
    (done before : List Char) : chunk stop inRun done before (c :: text) =
      if c = '\\' then
        if !inRun && opens (text.dropWhile (· == '\\')) then chunk stop true done (c :: before) text
        else chunk stop inRun (c :: done) (c :: before) text
      else if stop.isPrefixOf (c :: text) then ⟨done.reverse, before, c :: text⟩
      else chunk stop false (c :: done) (c :: before) text :=
  chunk.eq_4 _ _ _ _ _ _ (fun others => plain ('\x7b' :: '\x7b' :: others)) plain

theorem chunk_rest (inRun : Bool) (done before text : List Char) :
    (chunk stop inRun done before text).rest = behindText stop inRun text := by
  suffices ∀ other earlier, (chunk stop inRun done before text).rest =
      (chunk stop inRun other earlier text).rest from this [] []
  fun_induction chunk stop inRun done before text with
  | case1 inRun done before =>
    intro other earlier
    rw [chunk.eq_1]
  | case2 done before text braces ih =>
    intro other earlier
    rw [chunk.eq_2]
    exact ih _ _
  | case3 done before text four braces ih =>
    intro other earlier
    rw [chunk.eq_3 _ _ _ _ four]
    exact ih _ _
  | case4 inRun done before text begins four two ih =>
    intro other earlier
    rw [chunk_cons two, if_pos rfl, if_pos begins]
    exact ih _ _
  | case5 inRun done before text begins four two ih =>
    intro other earlier
    rw [chunk_cons two, if_pos rfl, if_neg begins]
    exact ih _ _
  | case6 inRun done before c text four two plain stops =>
    intro other earlier
    rw [chunk_cons two, if_neg plain, if_pos stops]
  | case7 inRun done before c text four two plain goes ih =>
    intro other earlier
    rw [chunk_cons two, if_neg plain, if_neg goes]
    exact ih _ _

theorem behindText_suffix (inRun : Bool) (text : List Char) : behindText stop inRun text <:+ text := by
  suffices ∀ done before, (chunk stop inRun done before text).rest <:+ text from this [] []
  intro done before
  fun_induction chunk stop inRun done before text with
  | case1 inRun done before => exact List.suffix_rfl
  | case2 done before text braces ih =>
    exact ih.trans (List.suffix_append ['\\', '\x7b', '\x7b', '\x7b', '\x7b'] text)
  | case3 done before text four braces ih =>
    exact ih.trans (List.suffix_append ['\\', '\x7b', '\x7b'] text)
  | case4 inRun done before text begins four two ih => exact ih.trans (List.suffix_cons _ text)
  | case5 inRun done before text begins four two ih => exact ih.trans (List.suffix_cons _ text)
  | case6 inRun done before c text four two plain stops => exact List.suffix_rfl
  | case7 inRun done before c text four two plain goes ih => exact ih.trans (List.suffix_cons c text)

/-- Text goes on up to a tag, or to the end. -/
theorem behindText_stops (inRun : Bool) (text : List Char) :
    behindText stop inRun text = [] ∨ stop <+: behindText stop inRun text := by
  suffices ∀ done before, (chunk stop inRun done before text).rest = [] ∨
      stop <+: (chunk stop inRun done before text).rest from this [] []
  intro done before
  fun_induction chunk stop inRun done before text with
  | case1 inRun done before => exact Or.inl rfl
  | case6 inRun done before c text four two plain stops =>
    exact Or.inr (List.isPrefixOf_iff_prefix.mp stops)
  | case2 done before text braces ih => exact ih
  | case3 done before text four braces ih => exact ih
  | case4 inRun done before text begins four two ih => exact ih
  | case5 inRun done before text begins four two ih => exact ih
  | case7 inRun done before c text four two plain goes ih => exact ih

/-- A tag opens where two braces stand. -/
theorem opens_iff {text : List Char} :
    opens text = true ↔ ∃ others, text = '\x7b' :: '\x7b' :: others := by
  constructor
  · intro found
    unfold opens at found
    split at found
    · exact ⟨_, rfl⟩
    · cases found
  · rintro ⟨others, rfl⟩
    rfl

theorem opening_braces : ∀ c ∈ ['\x7b', '\x7b'], c = '\x7b' := by simp

section

variable {more : List Char} (inert : Inert more)

include inert

/-- Braces at the beginning stand in the text itself. -/
theorem prefix_of_append {braces : List Char} (all : ∀ c ∈ braces, c = '\x7b') {text : List Char}
    (whole : braces <+: text ++ more) : braces <+: text := by
  obtain ⟨c, others, rfl, brace, _⟩ := inert
  induction braces generalizing text with
  | nil => exact List.nil_prefix
  | cons b braces ih =>
    cases text with
    | nil =>
      have same := (List.cons_prefix_cons.mp whole).1
      rw [all b List.mem_cons_self] at same
      exact absurd same.symm brace
    | cons d text =>
      obtain ⟨same, further⟩ := List.cons_prefix_cons.mp whole
      exact List.cons_prefix_cons.mpr ⟨same, ih (fun e member => all e (List.mem_cons_of_mem _ member))
        further⟩

theorem isPrefixOf_append {braces : List Char} (all : ∀ c ∈ braces, c = '\x7b') (text : List Char) :
    braces.isPrefixOf (text ++ more) = braces.isPrefixOf text := by
  rw [Bool.eq_iff_iff, List.isPrefixOf_iff_prefix, List.isPrefixOf_iff_prefix]
  exact ⟨prefix_of_append inert all, fun first => first.trans (List.prefix_append text more)⟩

theorem not_braces_append {braces : List Char} (all : ∀ c ∈ braces, c = '\x7b') {text : List Char}
    (other : ∀ others, text = braces ++ others → False) (others : List Char) :
    text ++ more = braces ++ others → False := by
  intro whole
  obtain ⟨left, same⟩ := prefix_of_append inert all ⟨others, whole.symm⟩
  exact other left same.symm

theorem Unescaped.append {inRun : Bool} {c : Char} {text : List Char}
    (plain : Unescaped inRun c text) : Unescaped inRun c (text ++ more) :=
  fun others out same => not_braces_append inert opening_braces
    (fun others => plain others out same) others

theorem opens_append (text : List Char) : opens (text ++ more) = opens text := by
  rw [Bool.eq_iff_iff, opens_iff, opens_iff]
  constructor
  · rintro ⟨others, whole⟩
    obtain ⟨left, same⟩ := prefix_of_append inert opening_braces ⟨others, whole.symm⟩
    exact ⟨left, same.symm⟩
  · rintro ⟨others, rfl⟩
    exact ⟨others ++ more, rfl⟩

theorem opens_run_append (text : List Char) :
    opens ((text ++ more).dropWhile (· == '\\')) = opens (text.dropWhile (· == '\\')) := by
  rw [List.dropWhile_append]
  split
  · rename_i empty
    rw [List.isEmpty_iff.mp empty]
    obtain ⟨c, others, rfl, brace, mark⟩ := inert
    simp [opens, mark, brace]
  · exact opens_append inert _

/-- Text does not depend on whether backslashes stand before it. -/
theorem behindText_inert (braces : ∃ tail, stop = '\x7b' :: tail) (inRun : Bool) :
    behindText stop inRun more = behindText stop false more := by
  obtain ⟨tail, rfl⟩ := braces
  obtain ⟨c, others, rfl, brace, mark⟩ := inert
  have goes : ¬ ('\x7b' :: tail).isPrefixOf (c :: others) = true := by simp [brace.symm]
  have plain : ∀ inRun : Bool, Unescaped inRun c others := fun inRun text _ same _ => mark same
  rw [behindText, chunk_cons (plain inRun), if_neg mark, if_neg goes, behindText,
    chunk_cons (plain false), if_neg mark, if_neg goes]

/-- Text ends at the same tag in front of more, or goes on behind it. -/
theorem behindText_append (braces : ∃ tail, stop = '\x7b' :: tail) (all : ∀ c ∈ stop, c = '\x7b')
    (inRun : Bool) (text : List Char) : behindText stop inRun (text ++ more) =
      if behindText stop inRun text = [] then behindText stop false more
      else behindText stop inRun text ++ more := by
  suffices ∀ done before, behindText stop inRun (text ++ more) =
      if (chunk stop inRun done before text).rest = [] then behindText stop false more
      else (chunk stop inRun done before text).rest ++ more from this [] []
  intro done before
  fun_induction chunk stop inRun done before text with
  | case1 inRun done before => simp [behindText_inert inert braces inRun]
  | case2 done before text four ih =>
    rw [← ih, behindText, List.cons_append, List.cons_append, List.cons_append, List.cons_append,
      List.cons_append, chunk.eq_2, chunk_rest]
  | case3 done before text four two ih =>
    have four := not_braces_append inert opening_braces four
    rw [← ih, behindText, List.cons_append, List.cons_append, List.cons_append,
      chunk.eq_3 _ _ _ _ four, chunk_rest]
  | case4 inRun done before text begins four two ih =>
    rw [← opens_run_append inert] at begins
    rw [← ih, behindText, List.cons_append, chunk_cons (Unescaped.append inert two), if_pos rfl,
      if_pos begins, chunk_rest]
  | case5 inRun done before text begins four two ih =>
    rw [← opens_run_append inert] at begins
    rw [← ih, behindText, List.cons_append, chunk_cons (Unescaped.append inert two), if_pos rfl,
      if_neg begins, chunk_rest]
  | case6 inRun done before c text four two plain stops =>
    rw [← isPrefixOf_append inert all, List.cons_append] at stops
    rw [behindText, List.cons_append, chunk_cons (Unescaped.append inert two), if_neg plain,
      if_pos stops]
    rfl
  | case7 inRun done before c text four two plain goes ih =>
    rw [← isPrefixOf_append inert all, List.cons_append] at goes
    rw [← ih, behindText, List.cons_append, chunk_cons (Unescaped.append inert two), if_neg plain,
      if_neg goes, chunk_rest]

end

/-! ### Tags of a source -/

/-- What a tag does, and its first literal that is no data. -/
abbrev Content := TagKind × Option InvalidLiteral

def Tag.content (tag : Tag) : Content := (tag.kind, tag.invalid)

/-- What the tags among tokens do. -/
def contents : List Token → List Content
  | [] => []
  | .tag tag :: tokens => tag.content :: contents tokens
  | .text _ :: tokens => contents tokens
  | .gap _ :: tokens => contents tokens
  | .raw _ :: tokens => contents tokens

/-- True for a tag that opens a raw block. -/
def TagKind.opensRaw : TagKind → Bool
  | rawOpening _ _ => true
  | _ => false

def tagStart : List Char := ['\x7b', '\x7b']

def rawStart : List Char := ['\x7b', '\x7b', '\x7b', '\x7b']

/-- A source with what its tags do, in order. -/
inductive Tagged : List Char → List Content → Prop where
  | done : Tagged [] []
  | tag {before text rest : List Char} {tags : List Content} {tag : Tag}
      (read : tag? before text = some (tag, rest)) (plain : tag.kind.opensRaw = false)
      (further : Tagged rest tags) : Tagged ('\x7b' :: '\x7b' :: text) (tag.content :: tags)
  | raw {before text rest : List Char} {tags : List Content} {tag : Tag} {trims : Bool}
      {inside : Inside} (read : tag? before text = some (tag, rest)) (opened : tag.kind.opensRaw = true)
      (closed : rawClosing? (behindText rawStart false (skip rest)) = some (trims, inside))
      (further : Tagged inside.rest tags) :
      Tagged ('\x7b' :: '\x7b' :: text) (tag.content :: (inside.kind, inside.invalid) :: tags)
  | text {text : List Char} {tags : List Content} (plain : opens text = false) (nonempty : text ≠ [])
      (further : Tagged (behindText tagStart false text) tags) : Tagged text tags

theorem tag?_before {before text rest : List Char} {tag : Tag}
    (read : tag? before text = some (tag, rest)) (other : List Char) :
    tag? other text = some ({ tag with before := other }, rest) := by
  rw [tag?_eq] at read ⊢
  obtain ⟨⟨trims, inside⟩, found, same⟩ := Option.map_eq_some_iff.mp read
  cases same
  rw [found, Option.map_some]

theorem rawBody?_eq_some {before text after rest : List Char} {body : List Token}
    (read : rawBody? before text = some (body, after, rest)) :
    ∃ trims inside, rawClosing? (behindText rawStart false (skip text)) = some (trims, inside) ∧
      inside.rest = rest ∧
      ∀ tokens, contents (body ++ tokens) = (inside.kind, inside.invalid) :: contents tokens := by
  simp only [rawBody?, Option.bind_eq_bind, chunk_rest] at read
  obtain ⟨⟨trims, inside⟩, found, read⟩ := Option.bind_eq_some_iff.mp read
  cases read
  exact ⟨trims, inside, found, rfl, fun tokens => rfl⟩

theorem rawBody?_of_closed {text : List Char} {trims : Bool} {inside : Inside}
    (closed : rawClosing? (behindText rawStart false (skip text)) = some (trims, inside))
    (before : List Char) : ∃ body after, rawBody? before text = some (body, after, inside.rest) ∧
      ∀ tokens, contents (body ++ tokens) = (inside.kind, inside.invalid) :: contents tokens := by
  simp only [rawBody?, Option.bind_eq_bind, chunk_rest]
  rw [show "\x7b\x7b\x7b\x7b".toList = rawStart from rfl, closed]
  exact ⟨_, _, rfl, fun tokens => rfl⟩

theorem contents_textToken (before text : List Char) (tokens : List Token) :
    contents (textToken before text :: tokens) = contents tokens := by
  unfold textToken
  split <;> rfl

/-- The tags of a source whose tokens were read. -/
theorem tagged_of_tokensFrom (fuel : Nat) : ∀ before text tokens,
    tokensFrom fuel before text = some tokens → Tagged text (contents tokens) := by
  induction fuel with
  | zero =>
    intro before text tokens read
    cases text with
    | nil =>
      cases read
      exact Tagged.done
    | cons c text => cases read
  | succ fuel ih =>
    intro before text tokens read
    cases text with
    | nil =>
      cases read
      exact Tagged.done
    | cons c text =>
      simp only [tokensFrom] at read
      split at read
      · rename_i opened
        obtain ⟨others, whole⟩ := opens_iff.mp opened
        rw [whole] at read ⊢
        obtain ⟨⟨tag, rest⟩, found, read⟩ := Option.bind_eq_some_iff.mp read
        dsimp only at read
        split at read
        · rename_i expression params kind
          obtain ⟨⟨body, after, last⟩, raw, read⟩ := Option.bind_eq_some_iff.mp read
          obtain ⟨tokens, tail, read⟩ := Option.bind_eq_some_iff.mp read
          cases read
          obtain ⟨trims, inside, closed, rfl, same⟩ := rawBody?_eq_some raw
          rw [contents, same]
          exact Tagged.raw found (by simp [kind, TagKind.opensRaw]) closed (ih _ _ _ tail)
        · rename_i plain
          obtain ⟨tokens, tail, read⟩ := Option.bind_eq_some_iff.mp read
          cases read
          rw [contents]
          refine Tagged.tag found ?_ (ih _ _ _ tail)
          cases kind : tag.kind with
          | rawOpening expression params => exact absurd kind (plain expression params)
          | _ => rfl
      · rename_i plain
        obtain ⟨others, tail, read⟩ := Option.bind_eq_some_iff.mp read
        cases read
        rw [contents_textToken]
        rw [chunk_rest] at tail
        exact Tagged.text (Bool.eq_false_iff.mpr plain) (List.cons_ne_nil c text) (ih _ _ _ tail)

theorem behindText_shorter {text : List Char} (plain : opens text = false) (nonempty : text ≠ []) :
    (behindText tagStart false text).length < text.length := by
  have suffix : behindText tagStart false text <:+ text := behindText_suffix false text
  refine Nat.lt_of_le_of_ne suffix.length_le fun same => ?_
  have whole := suffix.eq_of_length same
  have stops : behindText tagStart false text = [] ∨ tagStart <+: behindText tagStart false text :=
    behindText_stops false text
  rcases stops with empty | ⟨others, opened⟩
  · exact nonempty (whole.symm.trans empty)
  · rw [opens_iff.mpr ⟨others, whole.symm.trans opened.symm⟩] at plain
    cases plain

/-- A source with tags has tokens, within as many steps as it has characters. -/
theorem tokensFrom_of_tagged {text : List Char} {tags : List Content} (tagged : Tagged text tags) :
    ∀ fuel before, text.length ≤ fuel →
      ∃ tokens, tokensFrom fuel before text = some tokens ∧ contents tokens = tags := by
  induction tagged with
  | done =>
    intro fuel before _
    refine ⟨[], ?_, rfl⟩
    cases fuel <;> rfl
  | @tag _ text rest tags tag read plain further ih =>
    intro fuel before enough
    have shorter := (tag?_suffix read).length_le
    simp only [List.length_cons] at enough
    obtain ⟨fuel, rfl⟩ : ∃ less, fuel = less + 1 := ⟨fuel - 1, by omega⟩
    obtain ⟨tokens, tail, same⟩ := ih fuel (advance before ('\x7b' :: '\x7b' :: text) rest) (by omega)
    refine ⟨.tag { tag with before := before } :: tokens, ?_, by rw [contents, same]; rfl⟩
    simp only [tokensFrom, opens, if_true, List.drop_succ_cons, List.drop_zero,
      tag?_before read before, Option.bind_eq_bind, Option.bind_some]
    split
    · rename_i expression params kind
      have kind : tag.kind = .rawOpening expression params := kind
      rw [kind] at plain
      cases plain
    · rw [tail]
      rfl
  | @raw _ text rest tags tag trims inside read opened closed further ih =>
    intro fuel before enough
    have shorter := (tag?_suffix read).length_le
    have left := ((rawClosing?_suffix closed).trans (behindText_suffix false (skip rest))).length_le
    have skipped := length_skip_le rest
    simp only [List.length_cons] at enough
    obtain ⟨fuel, rfl⟩ : ∃ less, fuel = less + 1 := ⟨fuel - 1, by omega⟩
    obtain ⟨body, after, raw, same⟩ :=
      rawBody?_of_closed closed (advance before ('\x7b' :: '\x7b' :: text) rest)
    obtain ⟨tokens, tail, further⟩ := ih fuel after (by omega)
    refine ⟨.tag { tag with before := before } :: (body ++ tokens), ?_, by
      rw [contents, same, further]; rfl⟩
    simp only [tokensFrom, opens, if_true, List.drop_succ_cons, List.drop_zero,
      tag?_before read before, Option.bind_eq_bind, Option.bind_some]
    split
    · rw [raw, Option.bind_some, tail]
      rfl
    · rename_i other
      cases kind : tag.kind with
      | rawOpening expression params => exact absurd kind (other expression params)
      | _ =>
        rw [kind] at opened
        cases opened
  | @text text tags plain nonempty further ih =>
    intro fuel before enough
    have shorter := behindText_shorter plain nonempty
    obtain ⟨fuel, rfl⟩ : ∃ less, fuel = less + 1 := ⟨fuel - 1, by omega⟩
    obtain ⟨c, others, rfl⟩ := List.exists_cons_of_ne_nil nonempty
    obtain ⟨tokens, tail, same⟩ :=
      ih fuel (chunk tagStart false [] before (c :: others)).before (by omega)
    refine ⟨textToken before (chunk tagStart false [] before (c :: others)).text :: tokens, ?_, by
      rw [contents_textToken, same]⟩
    simp only [tokensFrom, plain, Bool.false_eq_true, if_false, Option.bind_eq_bind]
    rw [show ['\x7b', '\x7b'] = tagStart from rfl, chunk_rest, tail]
    rfl

/-! ### Sources one after the other -/

namespace Tagged

theorem tags_of_nil {tags : List Content} (tagged : Tagged [] tags) : tags = [] := by
  cases tagged with
  | done => rfl
  | text plain nonempty further => exact absurd rfl nonempty

/-- The text before the first tag does not count. -/
theorem behindText {text : List Char} {tags : List Content} (tagged : Tagged text tags) :
    Tagged (behindText tagStart false text) tags := by
  have stops : ∀ others, Template.behindText tagStart false ('\x7b' :: '\x7b' :: others) =
      '\x7b' :: '\x7b' :: others := by
    intro others
    have plain : Unescaped false '\x7b' ('\x7b' :: others) := fun _ _ mark => by cases mark
    rw [Template.behindText, chunk_cons plain, if_neg (by decide),
      if_pos (show tagStart.isPrefixOf _ = true from rfl)]
  cases tagged with
  | done => exact Tagged.done
  | tag read plain further =>
    rw [stops]
    exact Tagged.tag read plain further
  | raw read opened closed further =>
    rw [stops]
    exact Tagged.raw read opened closed further
  | text plain nonempty further => exact further

/-- Inert text in front of a source has no tags. -/
theorem inert_append {separator text : List Char} {tags : List Content}
    (inert : ∀ c ∈ separator, c ≠ '\x7b' ∧ c ≠ '\\') (nonempty : separator ≠ [])
    (tagged : Tagged text tags) : Tagged (separator ++ text) tags := by
  have passes : Template.behindText tagStart false (separator ++ text) =
      Template.behindText tagStart false text := by
    clear nonempty
    induction separator with
    | nil => rfl
    | cons c separator ih =>
      obtain ⟨brace, mark⟩ := inert c List.mem_cons_self
      have plain : Unescaped false c (separator ++ text) := fun _ _ same => absurd same mark
      have goes : ¬ tagStart.isPrefixOf (c :: (separator ++ text)) = true := by
        simp [tagStart, brace.symm]
      rw [List.cons_append, Template.behindText, chunk_cons plain, if_neg mark, if_neg goes, chunk_rest]
      exact ih fun d member => inert d (List.mem_cons_of_mem _ member)
  obtain ⟨c, others, rfl⟩ := List.exists_cons_of_ne_nil nonempty
  have brace := (inert c List.mem_cons_self).1
  refine Tagged.text ?_ (List.cons_ne_nil _ _) ?_
  · cases opened : opens (c :: others ++ text) with
    | false => rfl
    | true =>
      obtain ⟨left, whole⟩ := opens_iff.mp opened
      exact absurd (List.cons.inj whole).1 brace
  · rw [passes]
    exact tagged.behindText

/-- A tag that is read alike in front of more. -/
structure Sound (content : Content) : Prop where
  apart : KindApart content.1 content.2
  plain : content.1.isComment = false

/-- A source has its tags in front of more, and then come those of what follows. -/
theorem append {text more : List Char} {tags others : List Content} (tagged : Tagged text tags)
    (sound : ∀ content ∈ tags, Sound content) (inert : Inert more) (further : Tagged more others) :
    Tagged (text ++ more) (tags ++ others) := by
  induction tagged with
  | done => exact further
  | @tag before text rest tags tag read plain _ ih =>
    obtain ⟨apart, uncommented⟩ := sound tag.content List.mem_cons_self
    have read := tag?_append read uncommented apart before more
    have first := Tagged.tag read plain (ih fun content member =>
      sound content (List.mem_cons_of_mem _ member))
    exact first
  | @raw before text rest tags tag trims inside read opened closed _ ih =>
    obtain ⟨apart, uncommented⟩ := sound tag.content List.mem_cons_self
    have read := tag?_append read uncommented apart before more
    have begins : skip rest ≠ [] := by
      intro empty
      rw [empty] at closed
      cases closed
    have stops : Template.behindText rawStart false (skip rest) ≠ [] := by
      intro empty
      rw [empty] at closed
      cases closed
    have closed := rawClosing?_append closed more
    have passes : Template.behindText rawStart false (skip (rest ++ more)) =
        Template.behindText rawStart false (skip rest) ++ more := by
      rw [skip_append begins]
      exact (behindText_append inert ⟨_, rfl⟩ (by simp) false (skip rest)).trans
        (if_neg stops)
    rw [← passes] at closed
    have first := Tagged.raw read opened closed (ih fun content member =>
      sound content (List.mem_cons_of_mem _ (List.mem_cons_of_mem _ member)))
    exact first
  | @text text tags plain nonempty behind ih =>
    have passes : Template.behindText tagStart false (text ++ more) =
        if Template.behindText tagStart false text = [] then Template.behindText tagStart false more
        else Template.behindText tagStart false text ++ more :=
      behindText_append inert ⟨_, rfl⟩ opening_braces false text
    refine Tagged.text ((opens_append inert text).trans plain) (by simp [nonempty]) ?_
    rw [passes]
    split
    · rename_i empty
      rw [empty] at behind
      rw [behind.tags_of_nil]
      exact further.behindText
    · exact ih sound

end Tagged

end Stencil.Template
