import Stencil.Proofs.TagReading

set_option autoImplicit false

/-!
What tags leave. Every reader of tags leaves a suffix of its text (`tag?_suffix`, `rawClosing?_suffix`),
so the reading of a source comes to an end.
-/

namespace Stencil.Template

/-! ### Ends and lines -/

theorem tagEnd?_suffix {ending : String} (braces : Braces ending) {text rest : List Char} {trims : Bool}
    (read : tagEnd? ending text = some (trims, rest)) : rest <:+ text := by
  obtain ⟨_, found⟩ := tagEnd?_eq_some read
  exact (remains_token braces.ne_nil found).1.trans (tilde_suffix text)

theorem ended?_suffix {ending : String} (braces : Braces ending) {kind : Expression → TagKind}
    {checked : Checked Expression} {text : List Char} {inside : Inside}
    (read : ended? ending kind (checked, text) = some inside) : inside.rest <:+ text := by
  obtain ⟨trims, rest, ends, rfl⟩ := ended?_eq_some read
  have suffix := tagEnd?_suffix braces ends
  cases checked <;> exact suffix

/-- A reader that leaves a suffix of its text. -/
def LeavesSuffix (reader : List Char → Option Inside) : Prop :=
  ∀ ⦃text inside⦄, reader text = some inside → inside.rest <:+ text

theorem LeavesSuffix.orElse {first second : List Char → Option Inside} (leaves : LeavesSuffix first)
    (further : LeavesSuffix second) : LeavesSuffix fun text => first text <|> second text := by
  intro text inside read
  rcases orElse_eq_some read with read | ⟨_, read⟩
  · exact leaves read
  · exact further read

theorem valueTag?_suffix {ending : String} (braces : Braces ending) :
    LeavesSuffix (valueTag? ending) := by
  intro text inside read
  obtain ⟨⟨checked, rest⟩, value, read⟩ := Option.bind_eq_some_iff.mp read
  exact (ended?_suffix braces read).trans (valueExpression?_remains value).of_skip.1

theorem endedLine?_suffix {ending : String} (braces : Braces ending)
    (kind : Expression → List String → TagKind) :
    LeavesSuffix fun text => (line? text).bind (endedLine? ending kind) := by
  intro text inside read
  dsimp only at read
  obtain ⟨name, left, named⟩ := name_of_endedLine? read
  cases found : arguments (fuelOf left) left with
  | mk args behind =>
    rw [endedLine?_of_name named found] at read
    have suffix := (operandRemains (fuelOf left)).arguments left
    rw [found] at suffix
    have passed := ((givenNames_suffix behind).trans suffix).trans (remains_name named).of_skip.1
    exact (ended?_suffix braces read).trans passed

theorem endedPartialLine?_suffix {ending : String} (braces : Braces ending)
    (kind : Expression → TagKind) :
    LeavesSuffix fun text => (partialLine? text).bind (ended? ending kind) := by
  intro text inside read
  obtain ⟨⟨checked, behind⟩, line, read⟩ := Option.bind_eq_some_iff.mp read
  rw [partialLine?_eq] at line
  obtain ⟨⟨head, left⟩, name, same⟩ := Option.map_eq_some_iff.mp line
  cases same
  have suffix := (operandRemains (fuelOf left)).arguments left
  exact ((ended?_suffix braces read).trans suffix).trans (remains_includedName name).of_skip.1

theorem closingName?_suffix {ending : String} (braces : Braces ending)
    {reader : List Char → Option (String × List Char)}
    (remains : ∀ {text rest name}, reader text = some (name, rest) → Remains rest text)
    {text rest : List Char} {name : String} {trims : Bool}
    (read : closingName? reader ending text = some (name, trims, rest)) : rest <:+ text := by
  refine (tagEnd?_suffix braces (closingName?_eq_some read)).trans ?_
  cases found : reader (skip text) with
  | none => exact List.suffix_rfl
  | some named => exact (remains found).of_skip.1

/-! ### Tags of two braces -/

theorem alternative?_suffix : LeavesSuffix alternative? := by
  intro text inside read
  obtain ⟨rest, word, read⟩ := Option.bind_eq_some_iff.mp read
  have behind : rest <:+ text := by
    rcases Option.or_eq_some_iff.mp word with found | ⟨_, found⟩
    · exact (remains_token (by decide) found).1
    · exact (remains_token (by decide) found).1
  split at read
  · rename_i ends
    cases read
    exact (tagEnd?_suffix braces_two ends).trans behind
  · exact (endedLine?_suffix braces_two _ read).trans behind

theorem plainValue?_suffix : LeavesSuffix plainValue? := by
  intro text inside read
  unfold plainValue? at read
  split at read
  · rename_i rest found
    simp only [Option.bind_eq_bind] at read
    obtain ⟨⟨checked, left⟩, value, read⟩ := Option.bind_eq_some_iff.mp read
    obtain ⟨last, closed, read⟩ := Option.bind_eq_some_iff.mp read
    have behind := (remains_token (by decide) closed).trans (valueExpression?_remains value).of_skip
    exact (ended?_suffix braces_two read).trans (behind.trans (remains_token (by decide) found)).1
  · rename_i rest _ found
    obtain ⟨⟨checked, left⟩, value, read⟩ := Option.bind_eq_some_iff.mp read
    have behind := (nameExpression?_remains value).of_skip.trans (remains_token (by decide) found)
    exact (ended?_suffix braces_two read).trans behind.1
  · cases read

theorem opening?_suffix : LeavesSuffix opening? := by
  intro text inside read
  obtain ⟨rest, found, read⟩ := Option.bind_eq_some_iff.mp read
  have behind := (remains_token (by decide) found).1
  split at read
  · rename_i left star
    have left := (remains_token (by decide) star).1
    exact (endedLine?_suffix braces_two _ read).trans (left.trans behind)
  · rename_i left _ mark
    have left := (remains_token (by decide) mark).1
    exact (endedPartialLine?_suffix braces_two _ read).trans (left.trans behind)
  · exact (endedLine?_suffix braces_two _ read).trans behind

theorem decoration?_suffix : LeavesSuffix decoration? := by
  intro text inside read
  obtain ⟨rest, found, read⟩ := Option.bind_eq_some_iff.mp read
  exact (endedLine?_suffix braces_two _ read).trans (remains_token (by decide) found).1

theorem inclusion?_suffix : LeavesSuffix inclusion? := by
  intro text inside read
  obtain ⟨rest, found, read⟩ := Option.bind_eq_some_iff.mp read
  exact (endedPartialLine?_suffix braces_two _ read).trans (remains_token (by decide) found).1

theorem closing?_suffix : LeavesSuffix closing? := by
  intro text inside read
  obtain ⟨rest, found, read⟩ := Option.bind_eq_some_iff.mp read
  obtain ⟨⟨name, trims, left⟩, names, same⟩ := Option.bind_eq_some_iff.mp read
  cases same
  have behind := (remains_token (by decide) found).1
  rcases Option.or_eq_some_iff.mp names with helper | ⟨_, included⟩
  · exact (closingName?_suffix braces_two remains_name helper).trans behind
  · exact (closingName?_suffix braces_two remains_partialName included).trans behind

theorem doubleInside?_suffix : LeavesSuffix doubleInside? :=
  alternative?_suffix.orElse ((valueTag?_suffix braces_two).orElse (plainValue?_suffix.orElse
    (opening?_suffix.orElse (decoration?_suffix.orElse (inclusion?_suffix.orElse closing?_suffix)))))

/-! ### Other tags -/

theorem upTo?_suffix {ending text body rest : List Char} (read : upTo? ending text = some (body, rest)) :
    rest <:+ text := by
  induction text generalizing body with
  | nil => cases read
  | cons c text ih =>
    rw [upTo?] at read
    split at read
    · rename_i left found
      cases read
      exact ⟨ending, (Text.after?_eq_some_iff.mp found).symm⟩
    · obtain ⟨⟨inner, left⟩, found, same⟩ := Option.map_eq_some_iff.mp read
      cases same
      exact (ih found).trans (List.suffix_cons c text)

theorem comment?_suffix : LeavesSuffix comment? := by
  intro text inside read
  obtain ⟨rest, mark, read⟩ := Option.bind_eq_some_iff.mp read
  obtain ⟨⟨body, left⟩, found, same⟩ := Option.bind_eq_some_iff.mp read
  cases same
  have behind : rest <:+ text := ⟨['!'], (Text.after?_eq_some_iff.mp mark).symm⟩
  refine List.IsSuffix.trans ?_ behind
  rcases Option.or_eq_some_iff.mp found with long | ⟨_, short⟩
  · obtain ⟨start, dashes, long⟩ := Option.bind_eq_some_iff.mp long
    exact (upTo?_suffix long).trans (remains_token (by decide) dashes).1
  · exact upTo?_suffix short

theorem tilded_suffix {reader : List Char → Option Inside} (leaves : LeavesSuffix reader)
    {text : List Char} {trims : Bool} {inside : Inside}
    (read : (reader (tilde text).2).map ((tilde text).1, ·) = some (trims, inside)) :
    inside.rest <:+ text := by
  obtain ⟨found, read, same⟩ := Option.map_eq_some_iff.mp read
  cases same
  exact (leaves read).trans (tilde_suffix text)

/-- A tag leaves a suffix of its text. -/
theorem tag?_suffix {before text rest : List Char} {tag : Tag}
    (read : tag? before text = some (tag, rest)) : rest <:+ text := by
  rw [tag?_eq] at read
  obtain ⟨⟨trims, inside⟩, found, same⟩ := Option.map_eq_some_iff.mp read
  cases same
  rcases orElse_eq_some found with comment | ⟨_, read⟩
  · obtain ⟨found, comment, same⟩ := Option.map_eq_some_iff.mp comment
    cases same
    exact comment?_suffix comment
  rcases orElse_eq_some read with triple | ⟨_, read⟩
  · obtain ⟨behind, brace, _⟩ := Option.bind_eq_some_iff.mp triple
    obtain rfl : text = '\x7b' :: behind := Text.after?_eq_some_iff.mp brace
    rw [tripleTag?_brace] at triple
    exact (tilded_suffix (valueTag?_suffix braces_three) triple).trans (List.suffix_cons _ behind)
  rcases orElse_eq_some read with double | ⟨_, raw⟩
  · exact tilded_suffix doubleInside?_suffix double
  · obtain ⟨behind, braces, _⟩ := Option.bind_eq_some_iff.mp raw
    obtain rfl : text = '\x7b' :: '\x7b' :: behind := Text.after?_eq_some_iff.mp braces
    rw [rawOpening?_braces] at raw
    have suffix := tilded_suffix (endedLine?_suffix braces_four _) raw
    exact suffix.trans ((List.suffix_cons _ behind).trans (List.suffix_cons _ _))

theorem rawClosing?_suffix {text : List Char} {trims : Bool} {inside : Inside}
    (read : rawClosing? text = some (trims, inside)) : inside.rest <:+ text := by
  obtain ⟨behind, braces, _⟩ := Option.bind_eq_some_iff.mp read
  obtain rfl := Text.after?_eq_some_iff.mp braces
  rw [rawClosing?_braces] at read
  have leaves : LeavesSuffix rawEnd? := by
    intro text inside read
    obtain ⟨rest, slash, read⟩ := Option.bind_eq_some_iff.mp read
    obtain ⟨⟨name, trims, left⟩, closed, same⟩ := Option.map_eq_some_iff.mp read
    cases same
    have behind := (remains_token (by decide) slash).1
    exact (closingName?_suffix braces_four remains_name closed).trans behind
  exact (tilded_suffix leaves read).trans (List.suffix_append _ behind)

end Stencil.Template
