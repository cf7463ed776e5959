import Stencil.Proofs.TagContext

set_option autoImplicit false

/-!
Lines of blocks, inclusions and closing tags in front of more. Each of them is read up to the end of the
tag (`line?_append`, `partialLine?_append`, `closingName?_append`), so what stands behind the tag does
not change it.
-/

namespace Stencil.Template

variable {more : List Char}

/-! ### Names that a block gives -/

/-- The names that a block gives, if any, and what is left. -/
def givenNames (text : List Char) : List String × List Char := (blockParams? text).getD ([], text)

theorem blockParams?_eq_none {c : Char} {text others : List Char} (begins : skip text = c :: others)
    (other : c ≠ 'a') : blockParams? text = none := by
  have missing : token? "as" text = none := token?_eq_none begins (by simp [beginsOther, other.symm])
  simp only [blockParams?, missing, Option.bind_none]
  rfl

theorem givenNames_of_tagEnd? {ending : String} (braces : Braces ending) {text rest : List Char}
    {trims : Bool} (read : tagEnd? ending text = some (trims, rest)) : givenNames text = ([], text) := by
  obtain ⟨c, others, begins, cases⟩ := tagEnd?_begins braces read
  have other : c ≠ 'a' := by rcases cases with rfl | rfl <;> decide
  rw [givenNames, blockParams?_eq_none begins other]
  rfl

/-- Between two bars stand one or two names. -/
theorem blockParams?_eq_some {text rest : List Char} {params : List String}
    (read : blockParams? text = some (params, rest)) :
    ∃ behind inner first left, token? "as" text = some behind ∧ token? "|" behind = some inner ∧
      name? (skip inner) = some (first, left) ∧
      ((∃ second last, name? (skip left) = some (second, last) ∧ token? "|" last = some rest ∧
          params = [first, second]) ∨
        (name? (skip left) = none ∧ token? "|" left = some rest ∧ params = [first])) := by
  simp only [blockParams?, bind, pure] at read
  obtain ⟨inner, bar, read⟩ := Option.bind_eq_some_iff.mp read
  obtain ⟨behind, word, bar⟩ := Option.bind_eq_some_iff.mp bar
  obtain ⟨⟨first, left⟩, name, read⟩ := Option.bind_eq_some_iff.mp read
  refine ⟨behind, inner, first, left, word, bar, name, ?_⟩
  dsimp only at read
  split at read
  · rename_i second last found
    obtain ⟨rest, closed, same⟩ := Option.bind_eq_some_iff.mp read
    cases same
    exact Or.inl ⟨second, last, found, closed, rfl⟩
  · rename_i found
    obtain ⟨rest, closed, same⟩ := Option.bind_eq_some_iff.mp read
    cases same
    exact Or.inr ⟨found, closed, rfl⟩

theorem stops_of_blockParams? {text rest : List Char} {params : List String}
    (read : blockParams? text = some (params, rest)) : Stops text := by
  obtain ⟨behind, inner, _, _, word, bar, _⟩ := blockParams?_eq_some read
  exact Stops.params behind inner (skip_begins_of_token? rfl word) (skip_begins_of_token? rfl bar)

theorem blockParams?_append {text rest : List Char} {params : List String}
    (read : blockParams? text = some (params, rest)) (closes : '\x7d' ∈ rest) :
    blockParams? (text ++ more) = some (params, rest ++ more) := by
  obtain ⟨behind, inner, first, left, word, bar, name, cases⟩ := blockParams?_eq_some read
  have word := (token?_append (by decide) word more).2.2
  have bar := (token?_append (by decide) bar more).2.2
  have named := remains_name name
  rcases cases with ⟨second, last, found, closed, rfl⟩ | ⟨missing, closed, rfl⟩
  · obtain ⟨_, suffix, closed⟩ := token?_append (by decide) closed more
    have closesLeft : '\x7d' ∈ skip left := (suffix.trans (remains_name found).1).subset closes
    have closesInner := named.1.subset ((skip_suffix left).subset closesLeft)
    simp only [blockParams?, Option.bind_eq_bind, word, Option.bind_some, bar,
      name?_skip_append closesInner, name, Option.map_some, name?_skip_append closesLeft, found, closed,
      Option.pure_def]
  · obtain ⟨_, suffix, further⟩ := token?_append (by decide) closed more
    have closesLeft := suffix.subset closes
    have closesInner := named.1.subset closesLeft
    simp only [blockParams?, Option.bind_eq_bind, word, Option.bind_some, bar,
      name?_skip_append closesInner, name, Option.map_some,
      name?_skip_append (Text.mem_dropWhile closesLeft (by decide)), missing, Option.map_none, further,
      Option.pure_def]

theorem givenNames_suffix (text : List Char) : (givenNames text).2 <:+ text := by
  unfold givenNames
  cases found : blockParams? text with
  | none => exact List.suffix_rfl
  | some given =>
    obtain ⟨behind, inner, first, left, word, bar, name, cases⟩ := blockParams?_eq_some found
    have inner := ((remains_token (by decide) bar).trans (remains_token (by decide) word)).1
    have left := (remains_name name).of_skip.1.trans inner
    rcases cases with ⟨second, last, found, closed, _⟩ | ⟨_, closed, _⟩
    · exact ((remains_token (by decide) closed).trans (remains_name found).of_skip).1.trans left
    · exact (remains_token (by decide) closed).1.trans left

section

variable {ending : String} {text rest : List Char} {trims : Bool}
  (read : tagEnd? ending (givenNames text).2 = some (trims, rest))

include read

theorem stops_of_givenNames (braces : Braces ending) : Stops text := by
  unfold givenNames at read
  cases found : blockParams? text with
  | none =>
    rw [found] at read
    exact tagEnd?_stops braces read
  | some given => exact stops_of_blockParams? found

theorem givenNames_append (braces : Braces ending) :
    givenNames (text ++ more) = ((givenNames text).1, (givenNames text).2 ++ more) := by
  unfold givenNames at read ⊢
  cases found : blockParams? text with
  | none =>
    rw [found, Option.getD_none] at read
    obtain ⟨c, others, begins, cases⟩ := tagEnd?_begins braces read
    have other : c ≠ 'a' := by rcases cases with rfl | rfl <;> decide
    rw [blockParams?_eq_none (skip_begins_append begins more) other]
    rfl
  | some given =>
    rw [found] at read
    rw [blockParams?_append found (closes_of_tagEnd? braces read)]
    rfl

end

/-! ### Lines -/

section

variable {ending : String} {kind : Expression → List String → TagKind} {text : List Char}
  {inside : Inside}

/-- The line of a block that begins with a name, and the end of its tag. -/
theorem endedLine?_of_name {name : String} {left behind : List Char}
    {args : List (Option String × Checked Operand)} (named : name? (skip text) = some (name, left))
    (passed : arguments (fuelOf left) left = (args, behind)) :
    (line? text).bind (endedLine? ending kind) =
      ended? ending (kind · (givenNames behind).1)
        (callOf (.ok (.word name)) args, (givenNames behind).2) := by
  simp only [line?, named, Option.map_some, Option.bind_some, passed, givenNames]
  cases found : blockParams? behind with
  | none => rfl
  | some given => rfl

theorem endedLine?_eq_none (unnamed : name? (skip text) = none) :
    (line? text).bind (endedLine? ending kind) = none := by
  rw [line?, unnamed, Option.map_none, Option.bind_none]

theorem name_of_endedLine? (read : (line? text).bind (endedLine? ending kind) = some inside) :
    ∃ name left, name? (skip text) = some (name, left) := by
  cases named : name? (skip text) with
  | none =>
    rw [endedLine?_eq_none named] at read
    cases read
  | some found => exact ⟨found.1, found.2, rfl⟩

/-- A block's tag is read alike in front of more. -/
theorem endedLine?_append (braces : Braces ending)
    (speaks : ∀ expression params, (kind expression params).expression? = some expression)
    (read : (line? text).bind (endedLine? ending kind) = some inside) (apart : inside.Apart) :
    (line? (text ++ more)).bind (endedLine? ending kind) = some (inside.inFrontOf more) := by
  obtain ⟨name, left, named⟩ := name_of_endedLine? read
  cases found : arguments (fuelOf left) left with
  | mk args behind =>
    rw [endedLine?_of_name named found] at read
    obtain ⟨trims, rest, ends, _⟩ := ended?_eq_some read
    obtain ⟨expression, call, passed⟩ := expression_of_ended? (fun _ => speaks _ _) read apart
    have stops := stops_of_givenNames ends braces
    have closes := (givenNames_suffix behind).subset (closes_of_tagEnd? braces ends)
    have suffix := (operandRemains (fuelOf left)).arguments left
    rw [found] at suffix
    have remains := remains_name named
    have further : name? (skip (text ++ more)) = some (name, left ++ more) := by
      rw [name?_skip_append (remains.1.subset (suffix.subset closes)), named, Option.map_some]
    have args := (operandReaders (fuelOf left)).arguments found (argumentsApart_of_callOf call passed)
      stops closes more (fuelOf (left ++ more)) (by simp only [fuelOf, List.length_append]; omega)
    rw [endedLine?_of_name further args, givenNames_append ends braces]
    exact ended?_append braces read

end

/-- A block's tag has as many braces as its end. -/
theorem count_of_endedLine? {ending : String} {kind : Expression → List String → TagKind}
    {text : List Char} {inside : Inside}
    (read : (line? text).bind (endedLine? ending kind) = some inside) :
    ending.toList.count '\x7d' ≤ text.count '\x7d' := by
  obtain ⟨name, left, named⟩ := name_of_endedLine? read
  cases found : arguments (fuelOf left) left with
  | mk args behind =>
    rw [endedLine?_of_name named found] at read
    obtain ⟨trims, rest, ends, _⟩ := ended?_eq_some read
    have suffix := (operandRemains (fuelOf left)).arguments left
    rw [found] at suffix
    have inside := ((givenNames_suffix behind).trans suffix).trans (remains_name named).of_skip.1
    exact Nat.le_trans (count_of_tagEnd? ends) (inside.sublist.count_le _)

/-! ### Names of partials -/

theorem upToQuote_append {text body rest : List Char} (found : upToQuote text = (body, '\'' :: rest)) :
    upToQuote (text ++ more) = (body, '\'' :: (rest ++ more)) := by
  fun_induction upToQuote text generalizing body with
  | case1 text body' rest' inner ih =>
    obtain ⟨rfl, rfl⟩ := Prod.mk.inj found
    simp only [List.cons_append, upToQuote, ih inner]
  | case2 text =>
    cases found
    rfl
  | case3 c text escaped other body' rest' inner ih =>
    obtain ⟨rfl, rfl⟩ := Prod.mk.inj found
    have nonempty : text ≠ [] := by
      rintro rfl
      cases inner
    obtain ⟨d, text, rfl⟩ := List.exists_cons_of_ne_nil nonempty
    have same := ih inner
    rw [List.cons_append, upToQuote.eq_3, same]
    · rintro text rfl whole
      cases whole
      exact escaped _ rfl rfl
    · exact other
  | case4 => cases found

theorem upToQuote_suffix (text : List Char) : (upToQuote text).2 <:+ text := by
  fun_induction upToQuote text with
  | case1 text body rest inner ih =>
    rw [inner] at ih
    exact (ih.trans (List.suffix_cons _ text)).trans (List.suffix_cons _ _)
  | case2 text => exact List.suffix_rfl
  | case3 c text escaped other body rest inner ih =>
    rw [inner] at ih
    exact ih.trans (List.suffix_cons c text)
  | case4 => exact List.suffix_rfl

theorem partialChar_fails :
    isPartialChar ')' = false ∧ isPartialChar '\x7d' = false ∧ isPartialChar ' ' = false := by decide

theorem partialName?_unquoted {c : Char} (unquoted : c ≠ '\'') (text : List Char) :
    partialName? (c :: text) =
      if (c :: text).takeWhile isPartialChar = [] then none
      else some (String.ofList ((c :: text).takeWhile isPartialChar),
        (c :: text).dropWhile isPartialChar) := by
  unfold partialName?
  simp only [Bool.not_eq_true', List.isEmpty_eq_false_iff]
  by_cases empty : (c :: text).takeWhile isPartialChar = []
  · simp [empty, unquoted]
  · simp [empty]

theorem partialName?_quoted (text : List Char) : partialName? ('\'' :: text) =
    match upToQuote text with
    | (c :: body, '\'' :: rest) => some (String.ofList ('\'' :: c :: body ++ ['\'']), rest)
    | _ => none := by
  have other : ¬ isPartialChar '\'' = true := by decide
  simp only [partialName?, List.takeWhile_cons_of_neg other]
  rfl

theorem remains_partialName {text rest : List Char} {name : String}
    (read : partialName? text = some (name, rest)) : Remains rest text := by
  cases text with
  | nil => cases read
  | cons c text =>
    by_cases quoted : c = '\''
    · subst quoted
      rw [partialName?_quoted] at read
      split at read
      · rename_i d body left found
        cases read
        have suffix := upToQuote_suffix text
        rw [found] at suffix
        have behind : rest <:+ text := (List.suffix_cons _ rest).trans suffix
        exact ⟨behind.trans (List.suffix_cons _ text), Nat.lt_succ_of_le behind.length_le⟩
      · cases read
    · rw [partialName?_unquoted quoted] at read
      split at read
      · cases read
      · rename_i nonempty
        cases read
        have char : isPartialChar c = true := by
          cases same : isPartialChar c with
          | true => rfl
          | false => simp [same] at nonempty
        rw [List.dropWhile_cons_of_pos char]
        have behind : text.dropWhile isPartialChar <:+ text := List.dropWhile_suffix isPartialChar
        exact ⟨behind.trans (List.suffix_cons c text), Nat.lt_succ_of_le behind.length_le⟩

/-- A name without quotes, or its absence, is the same in front of more. -/
theorem partialName?_append_of_unquoted {c : Char} {text : List Char} (unquoted : c ≠ '\'')
    (closes : '\x7d' ∈ c :: text) : partialName? (c :: (text ++ more)) =
      (partialName? (c :: text)).map fun found => (found.1, found.2 ++ more) := by
  have seam : Seam (c :: text) more := Seam.closed more closes
  rw [partialName?_unquoted unquoted, partialName?_unquoted unquoted, ← List.cons_append,
    seam.takeWhile_append _ partialChar_fails, seam.dropWhile_append _ partialChar_fails]
  split <;> rfl

theorem partialName?_append {text rest : List Char} {name : String}
    (read : partialName? text = some (name, rest)) (closes : '\x7d' ∈ rest) :
    partialName? (text ++ more) = some (name, rest ++ more) := by
  cases text with
  | nil => cases read
  | cons c text =>
    by_cases quoted : c = '\''
    · subst quoted
      rw [partialName?_quoted] at read
      split at read
      · rename_i d body left found
        cases read
        rw [List.cons_append, partialName?_quoted, upToQuote_append found]
        rfl
      · cases read
    · have inside := (remains_partialName read).1.subset closes
      rw [List.cons_append, partialName?_append_of_unquoted quoted inside, read, Option.map_some]

/-! ### Inclusions -/

/-- Reads the name of a partial, or what stands for one. -/
def includedName? (text : List Char) : Option (Checked Operand × List Char) :=
  match partialName? text with
  | some (name, rest) => some (.ok (.word name), rest)
  | none => (nameExpression? text).map fun (name, rest) => (name.map Expression.head, rest)

theorem partialLine?_eq (text : List Char) : partialLine? text =
    (includedName? (skip text)).map fun (head, rest) =>
      (callOf head (arguments (fuelOf rest) rest).1, (arguments (fuelOf rest) rest).2) := rfl

section

variable {text rest : List Char} {head : Operand}

theorem remains_includedName {checked : Checked Operand}
    (read : includedName? text = some (checked, rest)) : Remains rest text := by
  unfold includedName? at read
  split at read
  · rename_i name left found
    cases read
    exact remains_partialName found
  · obtain ⟨⟨name, left⟩, found, same⟩ := Option.map_eq_some_iff.mp read
    cases same
    exact (nameExpression?_remains found).of_skip

theorem includedName?_append (read : includedName? text = some (.ok head, rest))
    (apart : AllApart head.passed) (clear : Path.Clear rest) (closes : '\x7d' ∈ rest)
    (more : List Char) : includedName? (text ++ more) = some (.ok head, rest ++ more) := by
  have inside := (remains_includedName read).1.subset closes
  unfold includedName? at read
  split at read
  · rename_i name left found
    cases read
    rw [includedName?, partialName?_append found closes]
  · rename_i missing
    obtain ⟨⟨name, left⟩, found, same⟩ := Option.map_eq_some_iff.mp read
    obtain ⟨value, rfl⟩ := Prod.mk.inj same
    cases name with
    | error invalid => cases value
    | ok expression =>
      cases value
      have passed : AllApart expression.passed := by
        rw [Expression.passed, arguments_of_nameExpression? found, passedBy, List.append_nil]
        exact apart
      have further : partialName? (text ++ more) = none := by
        cases text with
        | nil => cases inside
        | cons c text =>
          have unquoted : c ≠ '\'' := by
            rintro rfl
            rw [nameExpression?_eq_none (show skip ('\'' :: text) = '\'' :: text from rfl) (by decide)]
              at found
            cases found
          rw [List.cons_append, partialName?_append_of_unquoted unquoted inside, missing,
            Option.map_none]
      simp only [includedName?, further, nameExpression?_append found passed clear closes more,
        Option.map_some]
      rfl

end

/-- An inclusion is read alike in front of more. -/
theorem endedPartialLine?_append {ending : String} (braces : Braces ending) {kind : Expression → TagKind}
    (speaks : ∀ expression, (kind expression).expression? = some expression) {text : List Char}
    {inside : Inside} (read : (partialLine? text).bind (ended? ending kind) = some inside)
    (apart : inside.Apart) :
    (partialLine? (text ++ more)).bind (ended? ending kind) = some (inside.inFrontOf more) := by
  rw [partialLine?_eq] at read
  obtain ⟨⟨checked, behind⟩, line, read⟩ := Option.bind_eq_some_iff.mp read
  obtain ⟨⟨head, left⟩, name, same⟩ := Option.map_eq_some_iff.mp line
  cases found : arguments (fuelOf left) left with
  | mk args last =>
    simp only [found] at same
    obtain ⟨call, rfl⟩ := Prod.mk.inj same
    obtain ⟨trims, rest, ends, _⟩ := ended?_eq_some read
    obtain ⟨expression, rfl, passed⟩ := expression_of_ended? speaks read apart
    obtain rfl := (callOf_eq_ok call).1
    have stops := tagEnd?_stops braces ends
    have closes := closes_of_tagEnd? braces ends
    have suffix := (operandRemains (fuelOf left)).arguments left
    rw [found] at suffix
    have further := includedName?_append name ((allApart_append _ _).mp passed).1
      (clear_of_arguments found stops) (suffix.subset closes) more
    have args := (operandReaders (fuelOf left)).arguments found (argumentsApart_of_callOf call passed)
      stops closes more (fuelOf (left ++ more)) (by simp only [fuelOf, List.length_append]; omega)
    rw [partialLine?_eq, skip_append (remains_includedName name).ne_nil, further, Option.map_some]
    dsimp only
    rw [args, call, Option.bind_some]
    exact ended?_append braces read

/-! ### Closing tags -/

section

variable {ending : String} {text : List Char} {reader : List Char → Option (String × List Char)}

/-- The name in a closing tag, or its absence, is the same in front of more, if the reader of names
passes no brace and as many are left as the end of the tag has. -/
theorem closingName?_append_of_count (braces : Braces ending)
    (count : ending.toList.length ≤ text.count '\x7d')
    (same : reader (skip text ++ more) =
      (reader (skip text)).map fun found => (found.1, found.2 ++ more))
    (kept : ∀ name left, reader (skip text) = some (name, left) →
      left.count '\x7d' = (skip text).count '\x7d') :
    closingName? reader ending (text ++ more) =
      (closingName? reader ending text).map fun found => (found.1, found.2.1, found.2.2 ++ more) := by
  have positive := List.length_pos_iff.mpr braces.ne_nil
  have inside : '\x7d' ∈ text := List.count_pos_iff.mp (by omega)
  have begins : skip text ≠ [] := List.ne_nil_of_mem (Text.mem_dropWhile inside (by decide))
  have skipped : (skip text).count '\x7d' = text.count '\x7d' := count_dropWhile (by decide) text
  simp only [closingName?, skip_append begins, same]
  cases found : reader (skip text) with
  | none =>
    simp only [Option.map_none, Option.getD_none, tagEnd?_append_of_count braces count, Option.map_map]
    rfl
  | some named =>
    have left := kept named.1 named.2 found
    have count : ending.toList.length ≤ named.2.count '\x7d' := by omega
    simp only [Option.map_some, Option.getD_some, tagEnd?_append_of_count braces count, Option.map_map]
    rfl

theorem closingName?_eq_some {name : String} {trims : Bool} {rest : List Char}
    (read : closingName? reader ending text = some (name, trims, rest)) :
    tagEnd? ending ((reader (skip text)).getD ("", text)).2 = some (trims, rest) := by
  simp only [closingName?] at read
  obtain ⟨found, ends, same⟩ := Option.map_eq_some_iff.mp read
  cases same
  exact ends

/-- A closing tag has as many braces as its end. -/
theorem count_of_closingName? {name : String} {trims : Bool} {rest : List Char}
    (remains : ∀ {text rest name}, reader text = some (name, rest) → Remains rest text)
    (read : closingName? reader ending text = some (name, trims, rest)) :
    ending.toList.count '\x7d' ≤ text.count '\x7d' := by
  have ends := count_of_tagEnd? (closingName?_eq_some read)
  have suffix : ((reader (skip text)).getD ("", text)).2 <:+ text := by
    cases found : reader (skip text) with
    | none => exact List.suffix_rfl
    | some named => exact (remains found).of_skip.1
  exact Nat.le_trans ends (suffix.sublist.count_le _)

end

/-- The name of a helper in a closing tag, or its absence, is the same in front of more. -/
theorem closingHelper?_append {ending : String} (braces : Braces ending) {text : List Char}
    (count : ending.toList.length ≤ text.count '\x7d') :
    closingName? name? ending (text ++ more) =
      (closingName? name? ending text).map fun found => (found.1, found.2.1, found.2.2 ++ more) := by
  have positive := List.length_pos_iff.mpr braces.ne_nil
  have inside : '\x7d' ∈ skip text := Text.mem_dropWhile (List.count_pos_iff.mp (by omega)) (by decide)
  refine closingName?_append_of_count braces count (Seam.closed more inside).name?_append ?_
  intro name left found
  rw [← (name?_eq_some found).2]
  exact count_dropWhile (by decide) _

/-- The name of a partial in a closing tag that was read, or its absence where the name of a helper was
read, is the same in front of more. -/
theorem closingPartial?_append {ending : String} (braces : Braces ending) {text : List Char}
    (count : ending.toList.length ≤ text.count '\x7d')
    (read : (closingName? name? ending text).isSome ∨ (closingName? partialName? ending text).isSome) :
    closingName? partialName? ending (text ++ more) =
      (closingName? partialName? ending text).map fun found =>
        (found.1, found.2.1, found.2.2 ++ more) := by
  have positive := List.length_pos_iff.mpr braces.ne_nil
  have inside : '\x7d' ∈ skip text := Text.mem_dropWhile (List.count_pos_iff.mp (by omega)) (by decide)
  cases begins : skip text with
  | nil =>
    rw [begins] at inside
    cases inside
  | cons c others =>
    by_cases quoted : c = '\''
    · have ended := tagEnd?_eq_none braces begins (by subst quoted; decide)
      have helper : closingName? name? ending text = none := by
        rw [closingName?, begins, name?_eq_none (by subst quoted; decide)]
        simp only [Option.getD_none, ended, Option.map_none]
      have partial_read := read.resolve_left (by simp [helper])
      obtain ⟨⟨name, trims, rest⟩, found⟩ := Option.isSome_iff_exists.mp partial_read
      have ends := closingName?_eq_some found
      cases named : partialName? (skip text) with
      | none =>
        rw [named, Option.getD_none, ended] at ends
        cases ends
      | some behind =>
        rw [named, Option.getD_some] at ends
        have closes := closes_of_tagEnd? braces ends
        have further : partialName? (skip text ++ more) = some (behind.1, behind.2 ++ more) :=
          partialName?_append named closes
        simp only [closingName?, skip_append (List.ne_nil_of_mem inside), further, named,
          Option.getD_some, tagEnd?_append braces ends, ends, Option.map_some]
    · rw [begins] at inside
      refine closingName?_append_of_count braces count ?_ ?_
      · rw [begins, List.cons_append, partialName?_append_of_unquoted quoted inside]
      · intro name left found
        rw [begins, partialName?_unquoted quoted] at found
        split at found
        · cases found
        · cases found
          rw [begins]
          exact count_dropWhile (by decide) _

end Stencil.Template
