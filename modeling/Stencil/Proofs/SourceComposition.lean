import Mathlib.Data.List.Basic
import Stencil.Proofs.NestingContext
import Stencil.Proofs.ObservationTable
import Stencil.Template.Composition

set_option autoImplicit false

/-!
Extraction of composed sources. Sources without comments that have a reading have one together, with
their references in order, so the variables of the composition are those of the sources and what is
known about each is what all of them say (`extract_compose`). No argument of a source but the last may be
a path in brackets that begins an array: what follows could end the array, with tags inside of it
(`extract_compose_swallows`).
-/

namespace Stencil.Template

/-! ### Two sources -/

/-- What the tags of a source do. -/
def tagsOf (source : String) : List Content := ((tokens? source).map contents).getD []

/-- A source without comments. -/
def CommentFree (source : String) : Prop := ∀ content ∈ tagsOf source, content.1.isComment = false

instance (source : String) : Decidable (CommentFree source) :=
  inferInstanceAs (Decidable (∀ content ∈ tagsOf source, content.1.isComment = false))

/-- A source in which no argument is a path in brackets that begins an array. -/
def PathsApart (source : String) : Prop :=
  ∀ content ∈ tagsOf source, ∀ expression, content.1.expression? = some expression →
    AllApart expression.passed

/-- Paths outside of brackets begin no arrays. -/
theorem pathsApart_of_unbracketed {source : String} (plain : ∀ content ∈ tagsOf source,
    ∀ expression ∈ content.1.expression?, ∀ path ∈ expression.passed, path.raw.toList.head? ≠ some '[') :
    PathsApart source := by
  intro content member expression speaks path passed body begins
  have head := plain content member expression speaks path passed
  rw [begins] at head
  exact absurd rfl head

/-- A separator at which no tag opens or closes, and that is not empty. -/
structure Separates (separator : String) : Prop where
  nonempty : separator ≠ ""
  plain : ∀ c ∈ separator.toList, c ≠ '\x7b' ∧ c ≠ '\x7d' ∧ c ≠ '\\'

theorem mem_of_mem_contents {content : Content} {tokens : List Token}
    (member : content ∈ contents tokens) : ∃ tag, .tag tag ∈ tokens ∧ tag.content = content := by
  induction tokens with
  | nil => cases member
  | cons token tokens ih =>
    have further : content ∈ contents tokens →
        ∃ tag, .tag tag ∈ token :: tokens ∧ tag.content = content := by
      intro member
      obtain ⟨tag, inside, same⟩ := ih member
      exact ⟨tag, List.mem_cons_of_mem _ inside, same⟩
    cases token with
    | tag tag =>
      rcases List.mem_cons.mp member with rfl | member
      · exact ⟨tag, List.mem_cons_self, rfl⟩
      · exact further member
    | _ => exact further member

/-- A source that is read has tokens, and they nest to its template. -/
theorem tokens_of_read {source : String} {template : Template} (done : read source = .ok template) :
    ∃ tokens, tokens? source = some tokens ∧ nest (spacedTokens tokens) = .ok template := by
  unfold read at done
  split at done
  · rename_i tokens found
    exact ⟨tokens, found, done⟩
  · cases done

/-- All literals in a source that is read are data. -/
theorem valid_of_read {source : String} {template : Template} (done : read source = .ok template) :
    ∀ content ∈ tagsOf source, content.2 = none := by
  obtain ⟨tokens, found, nested⟩ := tokens_of_read done
  intro content member
  rw [tagsOf, found, Option.map_some, Option.getD_some,
    ← contents_spaced tokens ⟨false, false⟩] at member
  obtain ⟨tag, inside, rfl⟩ := mem_of_mem_contents member
  exact (valid_of_foldlM _ _ _ (nest_eq_ok nested) rfl).2 tag inside

theorem read_append {first separator second : String} {left right : Template}
    (separates : Separates separator) (one : read first = .ok left) (two : read second = .ok right)
    (uncommented : CommentFree first) (apart : PathsApart first) :
    ∃ template, read (first ++ separator ++ second) = .ok template ∧
      bareElements template = bareElements left ++ bareElements right := by
  obtain ⟨tokens, found, nested⟩ := tokens_of_read one
  obtain ⟨others, foundNext, nestedNext⟩ := tokens_of_read two
  have tags : tagsOf first = contents tokens := by rw [tagsOf, found]; rfl
  have sound : ∀ content ∈ contents tokens, Tagged.Sound content := by
    intro content member
    rw [← tags] at member
    exact ⟨⟨valid_of_read one content member, apart content member⟩, uncommented content member⟩
  have characters : separator.toList ≠ [] := by
    intro empty
    exact separates.nonempty (String.toList_eq_nil_iff.mp empty)
  have inert : ∀ c ∈ separator.toList, c ≠ '\x7b' ∧ c ≠ '\\' :=
    fun c member => ⟨(separates.plain c member).1, (separates.plain c member).2.2⟩
  have further := (tagged_of_tokensFrom _ _ _ _ foundNext).inert_append inert characters
  have begins : Inert (separator.toList ++ second.toList) := by
    obtain ⟨c, tail, same⟩ := List.exists_cons_of_ne_nil characters
    rw [same] at inert ⊢
    exact ⟨c, tail ++ second.toList, rfl, inert c List.mem_cons_self⟩
  have whole := (tagged_of_tokensFrom _ _ _ _ found).append sound begins further
  obtain ⟨all, read_all, same⟩ := tokensFrom_of_tagged whole
    ((first ++ separator ++ second).length + 1) [] (by
      simp only [List.length_append, String.length_toList, String.length_append]
      omega)
  have tokens_all : tokens? (first ++ separator ++ second) = some all := by
    rw [tokens?, String.toList_append, String.toList_append, List.append_assoc]
    exact read_all
  have contents_all : contents (spacedTokens all) =
      contents (spacedTokens tokens) ++ contents (spacedTokens others) := by
    simp only [spacedTokens, contents_spaced, same]
  obtain ⟨template, done, bare⟩ := nest_append contents_all nested nestedNext
  refine ⟨template, ?_, bare⟩
  rw [read, tokens_all]
  exact done

end Stencil.Template

namespace Stencil.Extraction

open Template (compose defaultSeparator CommentFree PathsApart Separates pathsApart_of_unbracketed)

/-! ### All sources -/

/-- The references of a source, if it has a reading. -/
def referencesOf (source : String) : List Reference :=
  match Template.read source with
  | .ok template => references template
  | .error _ => []

theorem referencesOf_eq {source : String} {template : Template}
    (done : Template.read source = .ok template) : referencesOf source = references template := by
  rw [referencesOf, done]

/-- A composition is read, and it has the references of its sources in order. -/
theorem read_compose {separator : Option String}
    (separates : Separates (separator.getD defaultSeparator)) (sources : List String)
    (nonempty : sources ≠ [])
    (readable : ∀ source ∈ sources, ∃ template, Template.read source = .ok template)
    (uncommented : ∀ source ∈ sources, CommentFree source)
    (apart : ∀ source ∈ sources.dropLast, PathsApart source) :
    ∃ template, Template.read (compose separator sources) = .ok template ∧
      references template = sources.flatMap referencesOf := by
  induction sources with
  | nil => exact absurd rfl nonempty
  | cons first sources ih =>
    obtain ⟨left, one⟩ := readable first List.mem_cons_self
    cases sources with
    | nil =>
      refine ⟨left, ?_, ?_⟩
      · rw [compose, String.intercalate_singleton]
        exact one
      · rw [List.flatMap_singleton, referencesOf_eq one]
    | cons second sources =>
      obtain ⟨right, two, same⟩ := ih (List.cons_ne_nil _ _)
        (fun source member => readable source (List.mem_cons_of_mem _ member))
        (fun source member => uncommented source (List.mem_cons_of_mem _ member))
        (fun source member => apart source (List.mem_cons_of_mem _ member))
      obtain ⟨template, done, bare⟩ := Template.read_append separates one two
        (uncommented first List.mem_cons_self) (apart first List.mem_cons_self)
      refine ⟨template, ?_, ?_⟩
      · rw [compose, String.intercalate_cons_cons]
        exact done
      · rw [references_append bare, List.flatMap_cons, referencesOf_eq one, same]

theorem names_extract {source : String} {template : Template}
    (done : Template.read source = .ok template) :
    (extract source).names = variablesOf (referencesOf source) := by
  rw [extract, done, referencesOf_eq done]

/-- The variables of a composition are those of its sources in order, each once. -/
theorem variablesOf_flatMap {sources : List String}
    (readable : ∀ source ∈ sources, ∃ template, Template.read source = .ok template) :
    variablesOf (sources.flatMap referencesOf) =
      distinctNames (sources.flatMap fun source => (extract source).names) := by
  have names : (sources.flatMap fun source => (extract source).names) =
      sources.flatMap fun source => distinctNames
        ((referencesOf source).filterMap fun reference => baseVariable? reference.raw) := by
    refine List.flatMap_congr fun source member => ?_
    obtain ⟨template, done⟩ := readable source member
    exact names_extract done
  rw [names, distinctNames_flatMap, variablesOf, List.filterMap_flatMap]

theorem observationsOf_flatMap (name : String) (sources : List String) :
    observationsOf name (sources.flatMap referencesOf) =
      sources.flatMap fun source => observationsOf name (referencesOf source) := by
  simp only [observationsOf, List.filter_flatMap, List.map_flatMap]

/-- Extraction distributes over composition. -/
theorem extract_compose (separator : Option String) (sources : List String)
    (separates : Separates (separator.getD defaultSeparator)) (nonempty : sources ≠ [])
    (readable : ∀ source ∈ sources, ∃ template, Template.read source = .ok template)
    (uncommented : ∀ source ∈ sources, CommentFree source)
    (apart : ∀ source ∈ sources.dropLast, PathsApart source) :
    (∃ template, Template.read (compose separator sources) = .ok template) ∧
      extract (compose separator sources) =
        ⟨distinctNames (sources.flatMap fun source => (extract source).names), .precise⟩ ∧
      inferShapes (compose separator sources) =
        (distinctNames (sources.flatMap fun source => (extract source).names)).map fun name =>
          (name, (Observation.merged (sources.flatMap fun source =>
            observationsOf name (referencesOf source))).inference) := by
  obtain ⟨template, done, same⟩ := read_compose separates sources nonempty readable uncommented apart
  refine ⟨⟨template, done⟩, ?_, ?_⟩
  · rw [extract, done]
    dsimp only
    rw [same, variablesOf_flatMap readable]
  · rw [inferShapes, done]
    dsimp only
    rw [same, observations_eq_map, List.map_map, variablesOf_flatMap readable]
    refine List.map_congr_left fun name _ => ?_
    simp only [Function.comp_apply, observationsOf_flatMap]

/-! ### A loop and a value -/

def helperSource : String := "\x7b\x7b#each items\x7d\x7d\x7b\x7bupper name\x7d\x7d\x7b\x7b/each\x7d\x7d"

def valueSource : String := "\x7b\x7btitle\x7d\x7d: \x7b\x7bitems.0\x7d\x7d"

theorem exists_of_isSome {source : String} (read : (Template.read source).toOption.isSome = true) :
    ∃ template, Template.read source = .ok template := by
  cases done : Template.read source with
  | ok template => exact ⟨template, rfl⟩
  | error error =>
    rw [done] at read
    cases read

/-- Two sources with the default separator. -/
theorem extract_compose_loop :
    (∃ template, Template.read (compose none [helperSource, valueSource]) = .ok template) ∧
      extract (compose none [helperSource, valueSource]) = ⟨["items", "name", "title"], .precise⟩ := by
  have separates : Separates defaultSeparator := ⟨by decide, by simp [defaultSeparator]⟩
  have readable : ∀ source ∈ [helperSource, valueSource],
      ∃ template, Template.read source = .ok template := by
    simp only [List.forall_mem_cons, List.not_mem_nil, false_implies, implies_true, and_true]
    exact ⟨exists_of_isSome (by decide +kernel), exists_of_isSome (by decide +kernel)⟩
  have uncommented : ∀ source ∈ [helperSource, valueSource], CommentFree source := by decide +kernel
  have apart : ∀ source ∈ [helperSource, valueSource].dropLast, PathsApart source := by
    simp only [List.dropLast, List.forall_mem_singleton]
    exact pathsApart_of_unbracketed (by decide +kernel)
  obtain ⟨read, names, _⟩ := extract_compose none [helperSource, valueSource] separates
    (by decide) readable uncommented apart
  refine ⟨read, names.trans ?_⟩
  decide +kernel

/-! ### A path that begins an array -/

def openSource : String := "\x7b\x7bf [\"a]\x7d\x7d"

def closeSource : String := "\x7b\x7bx\x7d\x7d\"]\x7d\x7d"

/-- A path in brackets may begin an array that a further source ends: the tag between them is part of a
text in the array, and its variable is missing. -/
theorem extract_compose_swallows :
    Separates "-" ∧ (∀ source ∈ [openSource, closeSource],
      ∃ template, Template.read source = .ok template) ∧
    (∀ source ∈ [openSource, closeSource], CommentFree source) ∧
    extract (compose (some "-") [openSource, closeSource]) ≠
      ⟨distinctNames ([openSource, closeSource].flatMap fun source => (extract source).names),
        .precise⟩ := by
  refine ⟨⟨by decide, by simp⟩, ?_, by decide +kernel, by decide +kernel⟩
  simp only [List.forall_mem_cons, List.not_mem_nil, false_implies, implies_true, and_true]
  exact ⟨exists_of_isSome (by decide +kernel), exists_of_isSome (by decide +kernel)⟩

end Stencil.Extraction
