import Mathlib
import Stencil.Proofs.CoveredTemplates
import Stencil.Proofs.ReadingOrder

set_option autoImplicit false

/-!
The order of variables. The variables of a source that is read are listed in the order in which their
first references are met: tags in the order of the source, and in a tag the arguments in the order of
reading. So a variable comes before another one whose first reference stands behind its own, unless both
stand in one tag whose arguments are written in some other order (`variables_in_reading_order`).
-/

namespace Stencil.Template

/-! ### Places in tags -/

/-- The places in a value tag: that of its own path if it has no arguments. -/
def Phrase.valuePlaces (start : Nat) : Phrase → List Place
  | .path written => [⟨start, written.path.raw⟩]
  | .named name .nil => [⟨start, name.name⟩]
  | .named name arguments => (Phrase.named name arguments).places start

namespace Said

/-- The places of the paths that a tag reads. A call in parentheses that is a whole tag is not visited, and
neither are the arguments of an inclusion. -/
def places (start : Nat) : Said → List Place
  | .value _ (.plain phrase) => phrase.valuePlaces start
  | .line _ name arguments _ => (Phrase.named name arguments).places start
  | _ => []

/-- A tag whose arguments are written in the order of reading. -/
def Tidy : Said → Prop
  | .value _ (.plain phrase) => phrase.Tidy
  | .line _ name arguments _ => (Phrase.named name arguments).Tidy
  | _ => True

end Said

theorem Phrase.raws_valuePlaces (start : Nat) (phrase : Phrase) :
    (phrase.valuePlaces start).map Place.raw = phrase.expression.valueRaws := by
  cases phrase with
  | path written => rfl
  | named name arguments =>
    cases arguments with
    | nil => rfl
    | cons gap key form others => exact Phrase.raws_places start _

theorem Said.raws_places (start : Nat) (said : Said) :
    (said.places start).map Place.raw = said.speech?.toList.flatMap Speech.raws := by
  cases said with
  | value mark saying =>
    cases saying with
    | call before phrase after => rfl
    | plain phrase =>
      simpa [Said.places, Said.speech?, Speech.raws, Saying.expression] using phrase.raws_valuePlaces start
  | line mark name arguments params =>
    simpa [Said.places, Said.speech?, Speech.raws] using Phrase.raws_places start (.named name arguments)
  | _ => rfl

theorem Phrase.stands_value (start : Nat) (phrase : Phrase) :
    ∀ place ∈ phrase.valuePlaces start, place.In start phrase.text := by
  intro place member
  cases phrase with
  | path written =>
    rw [List.mem_singleton.mp member]
    exact written.place_in start
  | named name arguments =>
    cases arguments with
    | nil =>
      rw [List.mem_singleton.mp member]
      have whole : (Phrase.named name .nil).text = name.name.toList := by simp [Phrase.text, Forms.text]
      rw [whole]
      exact ⟨⟨0, rfl, StandsAt.whole _⟩, name.nonempty⟩
    | cons gap key form others => exact Phrase.stands start _ place member

theorem Said.stands (start : Nat) (said : Said) :
    ∀ place ∈ said.places start, place.In start said.text := by
  intro place member
  cases said with
  | value mark saying =>
    cases saying with
    | call before phrase after => exact absurd member List.not_mem_nil
    | plain phrase => exact phrase.stands_value start place member
  | line mark name arguments params =>
    have inside := Phrase.stands start (.named name arguments) place member
    exact @Place.In.widen _ _ _ [] inside params
  | _ => exact absurd member List.not_mem_nil

/-- In a tidy tag the places ascend. -/
theorem Said.ascending (start : Nat) (said : Said) (tidy : said.Tidy) : Ascend (said.places start) := by
  cases said with
  | value mark saying =>
    cases saying with
    | call before phrase after => exact List.Pairwise.nil
    | plain phrase =>
      cases phrase with
      | path written => exact List.pairwise_singleton _ _
      | named name arguments =>
        cases arguments with
        | nil => exact List.pairwise_singleton _ _
        | cons gap key form others => exact Phrase.ascending start _ tidy
  | line mark name arguments params => exact Phrase.ascending start _ tidy
  | _ => exact List.Pairwise.nil

namespace PlacedTag

def places (tag : PlacedTag) : List Place :=
  tag.form.said.places (tag.start + 2 + tag.form.lead.length)

/-- The paths that a tag reads stand in it. -/
theorem stands (tag : PlacedTag) : ∀ place ∈ tag.places,
    place.In tag.start ('\x7b' :: '\x7b' :: tag.form.text) := by
  intro place member
  have inside := tag.form.said.stands _ place member
  have position : tag.start + 2 + tag.form.lead.length =
      tag.start + ('\x7b' :: '\x7b' :: tag.form.lead).length := by
    simp only [List.length_cons]
    omega
  rw [position] at inside
  have wide := inside.widen (tag.form.tail ++ tag.form.said.ending.toList)
  simpa [TagForm.text, TagForm.body] using wide

theorem start_lt_stop (tag : PlacedTag) : ∀ place ∈ tag.places,
    tag.start ≤ place.start ∧ place.start < tag.stop := by
  intro place member
  have inside := tag.stands place member
  refine ⟨inside.start_le, ?_⟩
  have ends := inside.lt_stop
  simp only [List.length_cons] at ends
  unfold stop
  omega

end PlacedTag

section

variable {text : List Char} {placed : List PlacedTag}

/-- A path comes before another one if it stands before it, or in the same tag if that is not tidy. -/
def ReadBefore (placed : List PlacedTag) (first second : Place) : Prop :=
  first.start < second.start ∨
    ∃ tag ∈ placed, first ∈ tag.places ∧ second ∈ tag.places ∧ ¬ tag.form.said.Tidy

theorem readBefore_of_standing (standing : Standing 0 text placed) :
    (placed.flatMap PlacedTag.places).Pairwise (ReadBefore placed) := by
  rw [List.pairwise_flatMap]
  constructor
  · intro tag member
    by_cases tidy : tag.form.said.Tidy
    · exact (tag.form.said.ascending _ tidy).imp Or.inl
    · apply List.pairwise_of_forall_mem_list
      exact fun first here second there => Or.inr ⟨tag, member, here, there, tidy⟩
  · refine standing.pairwise.imp fun {first second} apart place here other there => Or.inl ?_
    have ends := (first.start_lt_stop place here).2
    have begins := (second.start_lt_stop other there).1
    omega

/-- One of two tags ends before the other, unless they are one. -/
def Apart (first second : PlacedTag) : Prop :=
  first = second ∨ first.stop ≤ second.start ∨ second.stop ≤ first.start

/-- Tags that share a position are one. -/
theorem eq_of_inside (standing : Standing 0 text placed) {first second : PlacedTag}
    (member : first ∈ placed) (listed : second ∈ placed) {position : Nat}
    (here : first.start ≤ position ∧ position < first.stop)
    (there : second.start ≤ position ∧ position < second.stop) : first = second := by
  have whole : ∀ tag ∈ placed, Apart tag tag := fun tag _ => Or.inl rfl
  have apart : placed.Pairwise Apart := standing.pairwise.imp fun ends => Or.inr (Or.inl ends)
  have flipped : placed.Pairwise (flip Apart) :=
    standing.pairwise.imp fun ends => Or.inr (Or.inr ends)
  rcases List.Pairwise.forall_of_forall_of_flip whole apart flipped member listed with
    same | ends | ends
  · exact same
  · omega
  · omega

end

namespace Placing

variable {source : String} {placed : List PlacedTag}

theorem stands (placing : Placing source placed) : ∀ tag ∈ placed, ∀ place ∈ tag.places,
    StandsAt source.toList place.start place.raw.toList := by
  intro tag member place listed
  obtain ⟨offset, position, stands⟩ := placing.standing.standsAt tag member
  obtain ⟨⟨further, same, inside⟩, _⟩ := tag.stands place listed
  rw [same, position, Nat.zero_add]
  exact stands.inside inside

/-- The tags read the paths that the walk through the template meets. -/
theorem raws_places (placing : Placing source placed) {template : Template}
    (done : read source = .ok template) :
    (placed.flatMap PlacedTag.places).map Place.raw =
      (Extraction.occurrences [] template).map Extraction.Occurrence.raw := by
  have said : ∀ tag ∈ placed, tag.places.map Place.raw =
      tag.form.said.speech?.toList.flatMap Speech.raws := fun tag _ => tag.form.said.raws_places _
  rw [raws_occurrences, placing.speeches done, List.map_flatMap, List.flatMap_congr said]
  simp [List.filterMap_eq_flatMap_toList, List.flatMap_assoc]

end Placing

end Stencil.Template

namespace Stencil.Extraction

open Template (Place PlacedTag Placing ReadBefore)

/-! ### Names in order -/

theorem prefix_foldl_addName (names : List String) : ∀ known : List String,
    known <+: names.foldl addName known := by
  induction names with
  | nil => exact List.prefix_refl
  | cons name names ih =>
    intro known
    have grown : known <+: addName known name := by
      unfold addName
      split
      · exact List.prefix_refl _
      · exact List.prefix_append _ _
    exact grown.trans (ih _)

/-- A name that is met before another one is listed before it. -/
theorem sublist_distinctNames {front back : List String} {first second : String}
    (differs : first ≠ second) (new : second ∉ front) (listed : second ∈ back) :
    [first, second].Sublist (distinctNames (front ++ first :: back)) := by
  have split : distinctNames (front ++ first :: back) =
      back.foldl addName (distinctNames (front ++ [first])) := by
    simp [distinctNames, List.foldl_append]
  obtain ⟨behind, grown⟩ := prefix_foldl_addName back (distinctNames (front ++ [first]))
  have known : first ∈ distinctNames (front ++ [first]) := mem_distinctNames.mpr (by simp)
  have absent : second ∉ distinctNames (front ++ [first]) := by
    rw [mem_distinctNames]
    simp [new, differs.symm]
  have found : second ∈ distinctNames (front ++ first :: back) := mem_distinctNames.mpr (by simp [listed])
  rw [split, ← grown] at found ⊢
  have later : second ∈ behind := (List.mem_append.mp found).resolve_left absent
  exact (List.singleton_sublist.mpr known).append (List.singleton_sublist.mpr later)

/-! ### References at their places -/

/-- The places of the paths that make references; names that blocks have given make none. -/
def reportedPlaces (places : List Place) (met : List Occurrence) : List Place :=
  (places.zip met).filterMap fun (place, occurrence) => if occurrence.Bound then none else some place

theorem raws_reportedPlaces : ∀ {places : List Place} {met : List Occurrence},
    places.map Place.raw = met.map Occurrence.raw →
      (reportedPlaces places met).map Place.raw =
        (met.filterMap Occurrence.reported?).map Reference.raw
  | [], [], _ => rfl
  | place :: places, occurrence :: met, same => by
    obtain ⟨first, further⟩ := List.cons.inj same
    have ih := raws_reportedPlaces further
    unfold reportedPlaces at ih ⊢
    rw [List.zip_cons_cons, List.filterMap_cons, List.filterMap_cons, Occurrence.reported?]
    by_cases bound : occurrence.Bound
    · simpa [bound] using ih
    · simpa [bound, first] using ih

theorem reportedPlaces_sublist : ∀ (places : List Place) (met : List Occurrence),
    (reportedPlaces places met).Sublist places
  | [], _ => List.nil_sublist _
  | place :: places, [] => List.nil_sublist _
  | place :: places, occurrence :: met => by
    have ih := reportedPlaces_sublist places met
    unfold reportedPlaces at ih ⊢
    rw [List.zip_cons_cons, List.filterMap_cons]
    by_cases bound : occurrence.Bound
    · simpa [bound] using ih.cons place
    · simpa [bound] using ih.cons_cons place

/-- The places of all references of a template whose tags stand in a source. -/
def referencePlaces (placed : List PlacedTag) (template : Template) : List Place :=
  reportedPlaces (placed.flatMap PlacedTag.places) (occurrences [] template)

/-- The first place in the text at which a variable is read. -/
structure FirstPlace (places : List Place) (name : String) (place : Place) : Prop where
  member : place ∈ places
  names : baseVariable? place.raw = some name
  least : ∀ other ∈ places, baseVariable? other.raw = some name → place.start ≤ other.start

/-- If nothing that names the second variable is read before all that names the first one, the first one
is listed before the second. -/
theorem sublist_of_readBefore {places : List Place} {first second : Place} {one other : String}
    (here : FirstPlace places one first) (there : FirstPlace places other second)
    (differs : one ≠ other)
    (ordered : ∀ early ∈ places, baseVariable? early.raw = some other → ¬ [early, first].Sublist places) :
    [one, other].Sublist (distinctNames (places.filterMap fun place => baseVariable? place.raw)) := by
  obtain ⟨front, back, split⟩ := List.append_of_mem here.member
  have free : ∀ early ∈ front, baseVariable? early.raw ≠ some other := by
    intro early member named
    refine ordered early (by simp [split, member]) named ?_
    rw [split]
    exact (List.singleton_sublist.mpr member).append (List.singleton_sublist.mpr List.mem_cons_self)
  have behind : second ∈ back := by
    have member := there.member
    rw [split] at member
    rcases List.mem_append.mp member with member | member
    · exact absurd there.names (free second member)
    · rcases List.mem_cons.mp member with rfl | member
      · exact absurd (Option.some.inj (here.names.symm.trans there.names)) differs
      · exact member
  rw [split, List.filterMap_append, List.filterMap_cons, here.names]
  refine sublist_distinctNames differs ?_ (List.mem_filterMap.mpr ⟨second, behind, there.names⟩)
  intro named
  obtain ⟨early, member, named⟩ := List.mem_filterMap.mp named
  exact free early member named

/-- The variables of a source that is read are listed in the order of reading. That is the order of their
first places in the text, but for variables that are first read in one tag with untidy arguments. -/
theorem variables_in_reading_order {source : String} {template : Template}
    (done : Template.read source = .ok template) :
    (∃ placed, Placing source placed) ∧ ∀ placed, Placing source placed →
      (∀ tag ∈ placed, ∀ place ∈ tag.places,
        Template.StandsAt source.toList place.start place.raw.toList) ∧
      (placed.flatMap PlacedTag.places).map Place.raw = (occurrences [] template).map Occurrence.raw ∧
      (extract source).names = distinctNames ((referencePlaces placed template).filterMap fun place =>
        baseVariable? place.raw) ∧
      ∀ first second one other, FirstPlace (referencePlaces placed template) one first →
        FirstPlace (referencePlaces placed template) other second → first.start < second.start →
        (∀ tag ∈ placed, first ∈ tag.places → second ∈ tag.places → tag.form.said.Tidy) →
        [one, other].Sublist (extract source).names := by
  refine ⟨?_, fun placed placing => ?_⟩
  · exact Template.placed_of_read done
  have raws := placing.raws_places done
  have names : (extract source).names = distinctNames ((referencePlaces placed template).filterMap
      fun place => baseVariable? place.raw) := by
    rw [names_extract done, referencesOf_eq done, variablesOf, references_eq_filterMap]
    have same := congrArg (List.filterMap baseVariable?) (raws_reportedPlaces raws)
    rw [List.filterMap_map, List.filterMap_map] at same
    exact congrArg distinctNames same.symm
  refine ⟨placing.stands, raws, names, ?_⟩
  intro first second one other here there before tidy
  rw [names]
  have ordered := Template.readBefore_of_standing placing.standing
  have inside := reportedPlaces_sublist (placed.flatMap PlacedTag.places) (occurrences [] template)
  apply sublist_of_readBefore here there
  · rintro rfl
    have first_least := there.least first here.member here.names
    omega
  intro early member named early_first
  have least := there.least early member named
  rcases List.pairwise_pair.mp (ordered.sublist (early_first.trans inside)) with
    apart | ⟨tag, listed, holds, holds_first, untidy⟩
  · omega
  -- The tag that reads both reaches from before the first place to behind the second one.
  obtain ⟨next, among, holds_second⟩ := List.mem_flatMap.mp (inside.subset there.member)
  have from_first := tag.start_lt_stop first holds_first
  have to_early := tag.start_lt_stop early holds
  have same : tag = next := Template.eq_of_inside placing.standing listed among
    ⟨by omega, by omega⟩ (next.start_lt_stop second holds_second)
  exact untidy (tidy tag listed holds_first (same ▸ holds_second))

/-! ### Calls with options -/

section

open Template (Form Forms Phrase Said Standing PathForm noGap oneSpace)

def namedPath (name : String) : Template.Path := ⟨name, [.named name]⟩

def optionOf (key : OptionName) (value : PathForm) (others : Forms) : Forms :=
  .cons oneSpace (some ⟨key, noGap, noGap⟩) (.path value) others

/-- A value tag at the beginning of a source. -/
def firstTag (phrase : Phrase) : PlacedTag :=
  ⟨0, none, noGap, .value .plain (.plain phrase), noGap, noGap, none, noGap⟩

theorem placing_firstTag {source : String} {phrase : Phrase}
    (text : source.toList = '\x7b' :: '\x7b' :: ((firstTag phrase).form.text ++ []))
    (tags : Template.tagsOf source = [(.value phrase.expression, none)]) :
    Placing source [firstTag phrase] := by
  constructor
  · rw [text]
    exact Standing.cons [] (firstTag phrase).form (Standing.nil _ [])
  · rw [tags]
    exact List.Forall₂.cons ⟨Said.Kind.value _ _ _, rfl⟩ List.Forall₂.nil

def tidyPhrase : Phrase :=
  .named (.ofString "pair" (by decide) (by decide))
    (.cons oneSpace none (.path ⟨namedPath "b", "b".toList, [], by decide +kernel⟩)
      (optionOf (.ofString "by" (by decide) (by decide))
        ⟨namedPath "a", "a".toList, [], by decide +kernel⟩ .nil))

def tidySource : String := "\x7b\x7bpair b by=a\x7d\x7d"

/-- A positional argument is read before an option that stands behind it. -/
theorem variables_in_reading_order_tidy : ["b", "a"].Sublist (extract tidySource).names := by
  have done : Template.read tidySource = .ok [.value tidyPhrase.expression] := by cbv
  have placing : Placing tidySource [firstTag tidyPhrase] := placing_firstTag rfl (by cbv)
  have places : referencePlaces [firstTag tidyPhrase] [.value tidyPhrase.expression] =
      [⟨7, "b"⟩, ⟨12, "a"⟩] := by decide +kernel
  obtain ⟨_, _, _, ordered⟩ := (variables_in_reading_order done).2 _ placing
  rw [places] at ordered
  refine ordered ⟨7, "b"⟩ ⟨12, "a"⟩ "b" "a" ⟨by decide, by decide +kernel, by decide +kernel⟩
    ⟨by decide, by decide +kernel, by decide +kernel⟩ (by decide) ?_
  intro tag member _ _
  rw [List.mem_singleton.mp member]
  exact ⟨by decide, trivial, trivial, trivial⟩

def untidyPhrase : Phrase :=
  .named (.ofString "pair" (by decide) (by decide))
    (optionOf (.ofString "b" (by decide) (by decide)) ⟨namedPath "x", "x".toList, [], by decide +kernel⟩
      (optionOf (.ofString "a" (by decide) (by decide))
        ⟨namedPath "y", "y".toList, [], by decide +kernel⟩ .nil))

def untidySource : String := "\x7b\x7bpair b=x a=y\x7d\x7d"

/-- Options are read in the order of their names: what is read first in the text may be listed last. -/
theorem options_reorder_variables :
    Template.read untidySource = .ok [.value untidyPhrase.expression] ∧
      Placing untidySource [firstTag untidyPhrase] ∧
      FirstPlace (referencePlaces [firstTag untidyPhrase] [.value untidyPhrase.expression]) "x" ⟨9, "x"⟩ ∧
      FirstPlace (referencePlaces [firstTag untidyPhrase] [.value untidyPhrase.expression]) "y" ⟨13, "y"⟩ ∧
      (extract untidySource).names = ["y", "x"] := by
  have places : referencePlaces [firstTag untidyPhrase] [.value untidyPhrase.expression] =
      [⟨13, "y"⟩, ⟨9, "x"⟩] := by decide +kernel
  refine ⟨by cbv, placing_firstTag rfl (by cbv), ?_, ?_, by decide +kernel⟩
  · rw [places]
    exact ⟨by decide, by decide +kernel, by decide +kernel⟩
  · rw [places]
    exact ⟨by decide, by decide +kernel, by decide +kernel⟩

end

end Stencil.Extraction
