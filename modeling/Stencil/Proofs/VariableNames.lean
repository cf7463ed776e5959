import Stencil.Proofs.MentionCoverage
import Stencil.Proofs.TagScan
import Stencil.Proofs.VariableOrder

set_option autoImplicit false

/-!
The names of variables. Whether a source is read or scanned, each variable that is found in it is a single
name, stands in the source as it is reported, and is reported once (`names_well_formed`).
-/

namespace Stencil.Extraction

/-- A name that may be reported for a source. -/
structure WellFormed (source name : String) : Prop where
  nonempty : name ≠ ""
  not_this : name ≠ "this"
  unmarked : name.toList.head? ≠ some '@'
  undivided : '.' ∉ name.toList ∧ '/' ∉ name.toList ∧ '[' ∉ name.toList
  occurs : name.toList <:+: source.toList

theorem WellFormed.of_part {source part name : String} (formed : WellFormed part name)
    (inside : part.toList <:+: source.toList) : WellFormed source name :=
  { formed with occurs := formed.occurs.trans inside }

/-! ### Base variables -/

theorem dropEndWhile_part (test : Char → Bool) (text : List Char) :
    Text.dropEndWhile test text <+: text := by
  rw [Text.dropEndWhile, ← List.reverse_suffix, List.reverse_reverse]
  exact List.dropWhile_suffix test

/-- Trimming takes white space off both ends. -/
theorem trim_split (text : List Char) : ∃ before after, before ++ Text.trim text ++ after = text ∧
    ∀ c ∈ before ++ after, Text.isBlank c = true := by
  refine ⟨text.takeWhile Text.isBlank, ((Text.trimStart text).reverse.takeWhile Text.isBlank).reverse,
    ?_, fun c member => ?_⟩
  · rw [List.append_assoc, Text.trim, Text.trimEnd, Text.dropEndWhile, ← List.reverse_append,
      List.takeWhile_append_dropWhile, List.reverse_reverse, Text.trimStart,
      List.takeWhile_append_dropWhile]
  · rcases List.mem_append.mp member with member | member
    · exact List.mem_takeWhile_imp member
    · exact List.mem_takeWhile_imp (List.mem_reverse.mp member)

theorem trim_part (text : List Char) : Text.trim text <:+: text := by
  obtain ⟨before, after, split, _⟩ := trim_split text
  exact ⟨before, after, split⟩

theorem dropRelative_suffix (fuel : Nat) (text : List Char) : dropRelative fuel text <:+ text := by
  induction fuel generalizing text with
  | zero => exact List.suffix_refl text
  | succ fuel ih =>
    rw [dropRelative]
    split
    · rename_i rest found
      refine (ih rest).trans ?_
      rcases Option.or_eq_some_iff.mp found with found | ⟨_, found⟩
      · exact ⟨_, (Text.after?_eq_some_iff.mp found).symm⟩
      · exact ⟨_, (Text.after?_eq_some_iff.mp found).symm⟩
    · exact List.suffix_refl text

theorem dropThis_suffix (text : List Char) : dropThis text <:+ text := by
  rw [dropThis]
  cases found : Text.after? "this.".toList text with
  | none => exact Template.optional_suffix _ text
  | some rest => exact ⟨_, (Text.after?_eq_some_iff.mp found).symm⟩

/-- A base variable stands in its expression without white space at the ends. -/
theorem part_of_baseVariable? {expression name : String} (base : baseVariable? expression = some name) :
    name.toList <:+: Text.trim expression.toList := by
  rw [baseVariable?] at base
  dsimp only at base
  split at base
  · cases base
  split at base
  · cases base
  cases base
  rw [String.toList_ofList]
  exact (List.takeWhile_prefix _).isInfix.trans
    ((dropThis_suffix _).trans (dropRelative_suffix _ _)).isInfix

theorem wellFormed_baseVariable? {expression name : String}
    (base : baseVariable? expression = some name) : WellFormed expression name := by
  have inside := (part_of_baseVariable? base).trans (trim_part _)
  rw [baseVariable?] at base
  generalize dropThis (dropRelative (Text.trim expression.toList).length
    (Text.trim expression.toList)) = text at base
  dsimp only at base
  split at base
  · cases base
  rename_i unmarked
  split at base
  · cases base
  rename_i kept
  cases base
  simp only [Bool.or_eq_true, List.isEmpty_iff, beq_iff_eq, not_or] at kept
  have plain : ∀ c ∈ text.takeWhile fun c => !isSegmentEnd c, isSegmentEnd c = false :=
    fun c member => by simpa using List.mem_takeWhile_imp member
  refine ⟨?_, ?_, ?_, ?_, inside⟩
  · intro same
    exact kept.1 (by simpa using congrArg String.toList same)
  · intro same
    exact kept.2 (by simpa using congrArg String.toList same)
  · rw [String.toList_ofList]
    intro marked
    cases text with
    | nil => cases marked
    | cons c text =>
      rw [List.takeWhile_cons] at marked
      split at marked
      · exact unmarked marked
      · cases marked
  · rw [String.toList_ofList]
    refine ⟨fun member => ?_, fun member => ?_, fun member => ?_⟩
    all_goals exact absurd (plain _ member) (by decide)

/-! ### Scanned sources -/

theorem part_of_mem_regionsFrom {content : List Char} (fuel : Nat) (text : List Char)
    (member : content ∈ regionsFrom fuel text) : content <:+: text := by
  induction fuel generalizing text with
  | zero => exact absurd member List.not_mem_nil
  | succ fuel ih =>
    rw [regionsFrom] at member
    split at member
    · rename_i inner rest found
      obtain ⟨⟨front, opened⟩, opening, closing⟩ := Option.bind_eq_some_iff.mp found
      have behind : opened <:+: text := by
        rw [beforeEnding?_split opening, ← List.append_assoc]
        exact (List.suffix_append _ _).isInfix
      have split := beforeEnding?_split closing
      rcases List.mem_cons.mp member with rfl | member
      · rw [split] at behind
        exact (List.prefix_append _ _).isInfix.trans behind
      · rw [split, ← List.append_assoc] at behind
        exact (ih rest member).trans ((List.suffix_append _ _).isInfix.trans behind)
    · cases member

theorem cleaned_part (content : List Char) : cleaned content <:+: content :=
  have brace := (List.dropWhile_suffix (· == '\x7b')).isInfix.trans (trim_part content)
  have tilde := (List.dropWhile_suffix (· == '~')).isInfix.trans brace
  have ended := (dropEndWhile_part (· == '~') _).isInfix.trans tilde
  (trim_part _).trans ((List.dropWhile_suffix (· == '&')).isInfix.trans ended)

theorem valuePart?_part {content text : List Char} (found : valuePart? content = some text) :
    text <:+: content := by
  rw [valuePart?] at found
  split at found
  · cases found
  · cases found
    exact (trim_part _).trans ((Template.optional_suffix _ _).isInfix.trans (cleaned_part content))

theorem part_behind (front : List Char) (c : Char) (text : List Char) : text <:+: front ++ c :: text :=
  ((List.suffix_cons c text).trans (List.suffix_append front _)).isInfix

/-- The word being read is kept backwards. -/
theorem part_of_mem_wordsFrom {word : List Char} (front : List Char) (quote : Option Char)
    (text : List Char) (member : word ∈ wordsFrom front quote text) : word <:+: front.reverse ++ text := by
  fun_induction wordsFrom front quote text with
  | case1 => cases member
  | case2 front _ given =>
    rw [List.mem_singleton.mp member, List.append_nil]
  | case3 front quote c text ih => simpa using ih member
  | case4 front c text blank empty ih => exact (ih member).trans (part_behind _ c text)
  | case5 front c text blank given ih =>
    rcases List.mem_cons.mp member with rfl | member
    · exact (List.prefix_append _ _).isInfix
    · exact (ih member).trans (part_behind _ c text)
  | case6 front c text solid ih => simpa using ih member

theorem optionValue_part (word : List Char) : optionValue word <:+: word := by
  rw [optionValue]
  split
  · rename_i c value found
    split
    · exact List.infix_refl word
    · exact ((List.suffix_cons c value).trans (found ▸ List.dropWhile_suffix _)).isInfix
  · exact List.infix_refl word

theorem indexedName?_part {word name : List Char} (found : indexedName? word = some name) :
    name <:+: word := by
  unfold indexedName? at found
  split at found
  · cases found
  · dsimp only at found
    split at found
    · cases found
      exact (List.prefix_cons_inj _ |>.mpr (List.takeWhile_prefix _)).isInfix
    · cases found

theorem wellFormed_wordVariable? {word : List Char} {name : String}
    (found : wordVariable? word = some name) : WellFormed (String.ofList word) name := by
  rw [wordVariable?] at found
  split at found
  · cases found
  dsimp only at found
  split at found
  · cases found
  refine (wellFormed_baseVariable? found).of_part ?_
  rw [String.toList_ofList, String.toList_ofList]
  have value := (optionValue_part _).trans (dropEndWhile_part (· == ')') word).isInfix
  cases indexed : indexedName? (optionValue (Text.dropEndWhile (· == ')') word)) with
  | none => exact value
  | some inner => exact (indexedName?_part indexed).trans value

theorem wellFormed_of_mem_scannedVariables {source name : String}
    (member : name ∈ scannedVariables source) : WellFormed source name := by
  obtain ⟨content, region, member⟩ := List.mem_flatMap.mp (mem_distinctNames.mp member)
  rw [regionVariables] at member
  split at member
  · rename_i text found
    obtain ⟨word, listed, named⟩ := List.mem_filterMap.mp member
    have inText := part_of_mem_wordsFrom [] none text ((candidates_sublist _).subset listed)
    have inRegion := inText.trans (valuePart?_part found)
    refine (wellFormed_wordVariable? named).of_part ?_
    rw [String.toList_ofList]
    exact inRegion.trans (part_of_mem_regionsFrom _ _ region)
  · cases member

/-! ### Sources that are read -/

/-- The paths that a walk meets stand in the source. -/
theorem part_of_mem_occurrences {source : String} {template : Template} {occurrence : Occurrence}
    (done : Template.read source = .ok template) (member : occurrence ∈ occurrences [] template) :
    occurrence.raw.toList <:+: source.toList := by
  obtain ⟨placed, placing⟩ := Template.placed_of_read done
  have raw := List.mem_map_of_mem (f := Occurrence.raw) member
  rw [← placing.raws_places done] at raw
  obtain ⟨place, listed, same⟩ := List.mem_map.mp raw
  obtain ⟨tag, standing, inside⟩ := List.mem_flatMap.mp listed
  obtain ⟨before, after, _, split⟩ := placing.stands tag standing place inside
  rw [← same, split]
  exact ⟨before, after, List.append_assoc _ _ _⟩

theorem wellFormed_of_mem_variablesOf {source name : String} {template : Template}
    (done : Template.read source = .ok template)
    (member : name ∈ variablesOf (references template)) : WellFormed source name := by
  obtain ⟨occurrence, occurs, _, base⟩ := mem_variablesOf_references_iff.mp member
  exact (wellFormed_baseVariable? base).of_part
    (part_of_mem_occurrences done (mem_occurrences_iff.mpr occurs))

/-- The variables of any source are different names without marks and separators, and stand in it. -/
theorem names_well_formed (source : String) :
    (extract source).names.Nodup ∧ ∀ name ∈ (extract source).names, WellFormed source name := by
  rw [extract]
  split
  · rename_i template done
    exact ⟨nodup_distinctNames _, fun name member => wellFormed_of_mem_variablesOf done member⟩
  · exact ⟨nodup_distinctNames _, fun name member => wellFormed_of_mem_scannedVariables member⟩

end Stencil.Extraction
