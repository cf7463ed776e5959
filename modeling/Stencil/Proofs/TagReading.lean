import Stencil.Proofs.LineContext

set_option autoImplicit false

/-!
Tags in front of more. A tag that was read is read alike where more stands behind it (`tag?_append`),
unless it is a comment, holds a literal that is no data, or passes a path in brackets that may begin a
literal there. Of the alternatives that are tried before the one that holds, each fails at a character
that stands before the end of the tag, so it fails in front of more as well.
-/

namespace Stencil.Template

variable {more : List Char}

/-! ### Alternatives -/

/-- A reader that reads alike in front of more. -/
def ReadsAlike (reader : List Char → Option Inside) : Prop :=
  ∀ ⦃text inside⦄, reader text = some inside → inside.Apart → ∀ more,
    reader (text ++ more) = some (inside.inFrontOf more)

/-- A reader that reads nothing unless one of certain characters stands behind the blanks. -/
def Leads {α : Type} (reader : List Char → Option α) (mark : Char → Prop) : Prop :=
  ∀ ⦃text found⦄, reader text = some found → ∃ c others, skip text = c :: others ∧ mark c

theorem orElse_eq_some {α : Type} {first second : Option α} {a : α}
    (read : (first <|> second) = some a) : first = some a ∨ (first = none ∧ second = some a) := by
  cases first with
  | none => exact Or.inr ⟨rfl, read⟩
  | some b => exact Or.inl read

section

variable {α : Type} {first second : List Char → Option α} {mark : Char → Prop} {text others : List Char}
  {c : Char}

theorem Leads.eq_none (leads : Leads first mark) (begins : skip text = c :: others) (other : ¬ mark c) :
    first text = none := by
  cases found : first text with
  | none => rfl
  | some inside =>
    obtain ⟨d, tail, same, marked⟩ := leads found
    rw [begins] at same
    cases same
    exact absurd marked other

theorem Leads.orElse {marks others : List Char} (leads : Leads first (· ∈ marks))
    (further : Leads second (· ∈ others)) :
    Leads (fun text => first text <|> second text) (· ∈ marks ++ others) := by
  intro text found read
  rcases orElse_eq_some read with read | ⟨_, read⟩
  · obtain ⟨c, tail, begins, marked⟩ := leads read
    exact ⟨c, tail, begins, List.mem_append_left _ marked⟩
  · obtain ⟨c, tail, begins, marked⟩ := further read
    exact ⟨c, tail, begins, List.mem_append_right _ marked⟩

end

/-- Of two alternatives the second one holds in front of more where no tag of the first begins. -/
theorem ReadsAlike.orElse {first second : List Char → Option Inside} {mark : Char → Prop}
    {marks : List Char} (alike : ReadsAlike first) (further : ReadsAlike second)
    (leads : Leads first mark) (others : Leads second (· ∈ marks)) (apart : ∀ c ∈ marks, ¬ mark c) :
    ReadsAlike fun text => first text <|> second text := by
  intro text inside read sound more
  rcases orElse_eq_some read with read | ⟨_, read⟩
  · simp only [alike read sound more]
    rfl
  · obtain ⟨c, tail, begins, marked⟩ := others read
    have missing := leads.eq_none (skip_begins_append begins more) (apart c marked)
    simp only [missing, further read sound more]
    rfl

/-! ### The alternatives of a tag of two braces -/

theorem leads_token {word : String} {c : Char} {others : List Char} (letters : word.toList = c :: others)
    {text rest : List Char} (found : token? word text = some rest) :
    ∃ others, skip text = c :: others := ⟨_, skip_begins_of_token? letters found⟩

/-- What a tag of a value says, and its end. -/
def valueTag? (ending : String) (text : List Char) : Option Inside :=
  (valueExpression? text).bind (ended? ending .value)

theorem valueTag?_alike {ending : String} (braces : Braces ending) : ReadsAlike (valueTag? ending) := by
  intro text inside read apart more
  obtain ⟨⟨checked, rest⟩, value, read⟩ := Option.bind_eq_some_iff.mp read
  obtain ⟨trims, left, ends, _⟩ := ended?_eq_some read
  obtain ⟨expression, rfl, passed⟩ := expression_of_ended? (fun _ => rfl) read apart
  have same := valueExpression?_append value passed (tagEnd?_stops braces ends)
    (closes_of_tagEnd? braces ends) more
  rw [valueTag?, same, Option.bind_some]
  exact ended?_append braces read

theorem valueExpression?_leads : Leads valueExpression? fun c => beginsPath c = true ∨ c = '(' := by
  intro text value read
  cases begins : skip text with
  | nil => exact absurd begins (valueExpression?_remains read).ne_nil
  | cons c others =>
    refine ⟨c, others, rfl, ?_⟩
    by_cases mark : beginsPath c = true ∨ c = '('
    · exact mark
    · obtain ⟨path, call⟩ := not_or.mp mark
      rw [valueExpression?_eq_none begins ⟨Bool.eq_false_iff.mpr path, call⟩] at read
      cases read

theorem valueTag?_leads (ending : String) :
    Leads (valueTag? ending) fun c => beginsPath c = true ∨ c = '(' := by
  intro text inside read
  obtain ⟨value, found, _⟩ := Option.bind_eq_some_iff.mp read
  exact valueExpression?_leads found

theorem alternative?_leads : Leads alternative? (· ∈ ['e', '^']) := by
  intro text inside read
  obtain ⟨rest, word, _⟩ := Option.bind_eq_some_iff.mp read
  rcases Option.or_eq_some_iff.mp word with found | ⟨_, found⟩
  · obtain ⟨others, begins⟩ := leads_token (c := 'e') rfl found
    exact ⟨'e', others, begins, by simp⟩
  · obtain ⟨others, begins⟩ := leads_token (c := '^') rfl found
    exact ⟨'^', others, begins, by simp⟩

theorem plainValue?_leads : Leads plainValue? (· ∈ ['\x7b', '&']) := by
  intro text inside read
  unfold plainValue? at read
  split at read
  · rename_i rest found
    obtain ⟨others, begins⟩ := leads_token (c := '\x7b') rfl found
    exact ⟨'\x7b', others, begins, by simp⟩
  · rename_i rest _ found
    obtain ⟨others, begins⟩ := leads_token (c := '&') rfl found
    exact ⟨'&', others, begins, by simp⟩
  · cases read

/-- What begins with a mark reads nothing without it. -/
theorem leads_mark {word : String} {c : Char} (letters : word.toList = [c])
    (inner : List Char → Option Inside) :
    Leads (fun text => (token? word text).bind inner) (· ∈ [c]) := by
  intro text inside read
  obtain ⟨rest, found, _⟩ := Option.bind_eq_some_iff.mp read
  obtain ⟨others, begins⟩ := leads_token letters found
  exact ⟨c, others, begins, List.mem_singleton_self c⟩

theorem opening?_leads : Leads opening? (· ∈ ['#']) := leads_mark rfl _

theorem decoration?_leads : Leads decoration? (· ∈ ['*']) := leads_mark rfl _

theorem inclusion?_leads : Leads inclusion? (· ∈ ['>']) := leads_mark rfl _

theorem closing?_leads : Leads closing? (· ∈ ['/']) := leads_mark rfl _

theorem decoration?_alike : ReadsAlike decoration? := by
  intro text inside read apart more
  obtain ⟨rest, found, read⟩ := Option.bind_eq_some_iff.mp read
  simp only [decoration?, Option.bind_eq_bind, (token?_append (by decide) found more).2.2,
    Option.bind_some]
  exact endedLine?_append braces_two (fun _ _ => rfl) read apart

theorem inclusion?_alike : ReadsAlike inclusion? := by
  intro text inside read apart more
  obtain ⟨rest, found, read⟩ := Option.bind_eq_some_iff.mp read
  simp only [inclusion?, Option.bind_eq_bind, (token?_append (by decide) found more).2.2,
    Option.bind_some]
  exact endedPartialLine?_append braces_two (fun _ => rfl) read apart

theorem plainValue?_alike : ReadsAlike plainValue? := by
  intro text inside read apart more
  unfold plainValue? at read
  split at read
  · rename_i rest found
    simp only [Option.bind_eq_bind] at read
    obtain ⟨⟨checked, left⟩, value, read⟩ := Option.bind_eq_some_iff.mp read
    obtain ⟨last, closed, read⟩ := Option.bind_eq_some_iff.mp read
    obtain ⟨trims, behind, ends, _⟩ := ended?_eq_some read
    obtain ⟨expression, rfl, passed⟩ := expression_of_ended? (fun _ => rfl) read apart
    obtain ⟨others, begins⟩ := leads_token (c := '\x7d') rfl closed
    have closes : '\x7d' ∈ left := by
      have inside : '\x7d' ∈ skip left := begins ▸ List.mem_cons_self
      exact (skip_suffix left).subset inside
    have value := valueExpression?_append value passed
      (Stops.closer '\x7d' others begins rfl) closes more
    simp only [plainValue?, (token?_append (by decide) found more).2.2, value, Option.bind_eq_bind,
      Option.bind_some, (token?_append (by decide) closed more).2.2]
    exact ended?_append braces_two read
  · rename_i rest missing found
    obtain ⟨others, begins⟩ := leads_token (c := '&') rfl found
    have further : token? "\x7b" (text ++ more) = none :=
      token?_eq_none (skip_begins_append begins more) (by decide)
    obtain ⟨⟨checked, left⟩, value, read⟩ := Option.bind_eq_some_iff.mp read
    obtain ⟨trims, behind, ends, _⟩ := ended?_eq_some read
    obtain ⟨expression, rfl, passed⟩ := expression_of_ended? (fun _ => rfl) read apart
    have value := nameExpression?_append value passed
      (tagEnd?_stops braces_two ends).clear (closes_of_tagEnd? braces_two ends) more
    simp only [plainValue?, further, (token?_append (by decide) found more).2.2, value, Option.bind_some]
    exact ended?_append braces_two read
  · cases read

theorem opening?_alike : ReadsAlike opening? := by
  intro text inside read apart more
  obtain ⟨rest, found, read⟩ := Option.bind_eq_some_iff.mp read
  simp only [opening?, Option.bind_eq_bind, (token?_append (by decide) found more).2.2,
    Option.bind_some]
  split at read
  · rename_i behind star
    simp only [(token?_append (by decide) star more).2.2]
    exact endedLine?_append braces_two (fun _ _ => rfl) read apart
  · rename_i behind _ mark
    obtain ⟨others, begins⟩ := leads_token (c := '>') rfl mark
    have star : token? "*" (rest ++ more) = none :=
      token?_eq_none (skip_begins_append begins more) (by decide)
    simp only [star, (token?_append (by decide) mark more).2.2]
    exact endedPartialLine?_append braces_two (fun _ => rfl) read apart
  · obtain ⟨name, left, named⟩ := name_of_endedLine? read
    obtain ⟨⟨c, others, begins, char⟩, _⟩ := name?_eq_some named
    have differs : ∀ mark, isNameChar mark = false → mark ≠ c := by
      rintro mark other rfl
      rw [char] at other
      cases other
    have star : token? "*" (rest ++ more) = none :=
      token?_eq_none (skip_begins_append begins more)
        (by simpa [beginsOther] using differs '*' (by decide))
    have mark : token? ">" (rest ++ more) = none :=
      token?_eq_none (skip_begins_append begins more)
        (by simpa [beginsOther] using differs '>' (by decide))
    simp only [star, mark]
    exact endedLine?_append braces_two (fun _ _ => rfl) read apart

theorem closing?_alike : ReadsAlike closing? := by
  intro text inside read _ more
  obtain ⟨rest, found, read⟩ := Option.bind_eq_some_iff.mp read
  obtain ⟨⟨name, trims, left⟩, names, same⟩ := Option.bind_eq_some_iff.mp read
  cases same
  have count : "\x7d\x7d".toList.length ≤ rest.count '\x7d' := by
    rcases Option.or_eq_some_iff.mp names with helper | ⟨_, included⟩
    · exact count_of_closingName? remains_name helper
    · exact count_of_closingName? remains_partialName included
  have either : (closingName? name? "\x7d\x7d" rest).isSome ∨
      (closingName? partialName? "\x7d\x7d" rest).isSome := by
    rcases Option.or_eq_some_iff.mp names with helper | ⟨_, included⟩
    · exact Or.inl (by rw [helper]; rfl)
    · exact Or.inr (by rw [included]; rfl)
  simp only [closing?, Option.bind_eq_bind, (token?_append (by decide) found more).2.2,
    Option.bind_some, closingHelper?_append braces_two count,
    closingPartial?_append braces_two count either, ← Option.map_or, names, Option.map_some,
    Option.map_map, Option.pure_def]
  rfl

theorem alternative?_alike : ReadsAlike alternative? := by
  intro text inside read apart more
  obtain ⟨rest, word, read⟩ := Option.bind_eq_some_iff.mp read
  have word : (token? "else" (text ++ more)).or (token? "^" (text ++ more)) = some (rest ++ more) := by
    rcases Option.or_eq_some_iff.mp word with found | ⟨missing, found⟩
    · rw [(token?_append (by decide) found more).2.2, Option.some_or]
    · obtain ⟨others, begins⟩ := leads_token (c := '^') rfl found
      have missing : token? "else" (text ++ more) = none :=
        token?_eq_none (skip_begins_append begins more) (by decide)
      rw [missing, (token?_append (by decide) found more).2.2, Option.none_or]
  simp only [alternative?, Option.bind_eq_bind, word, Option.bind_some]
  split at read
  · rename_i trims left ends
    cases read
    rw [tagEnd?_append braces_two ends]
    rfl
  · rename_i open_
    have count : "\x7d\x7d".toList.length ≤ rest.count '\x7d' := count_of_endedLine? read
    rw [tagEnd?_append_of_count braces_two count, open_, Option.map_none]
    exact endedLine?_append braces_two (fun _ _ => rfl) read apart

/-! ### Values that begin with `else` -/

/-- No argument and no end of a tag stands here: an equals sign does, or a separator at which no path
begins. -/
inductive Blocked (text : List Char) : Prop where
  | key (others : List Char) (begins : skip text = '=' :: others)
  | separator (c : Char) (others : List Char) (begins : text = c :: others)
      (separates : Path.isSeparator c = true) (none : ∀ more, Path.read? (text ++ more) = none)

namespace Blocked

variable {text : List Char} (blocked : Blocked text)

include blocked

theorem append (more : List Char) : Blocked (text ++ more) := by
  cases blocked with
  | key others begins => exact key _ (skip_begins_append begins more)
  | separator c others begins separates none =>
    refine separator c (others ++ more) (by rw [begins]; rfl) separates fun further => ?_
    rw [List.append_assoc]
    exact none (more ++ further)

theorem arguments (fuel : Nat) : arguments fuel text = ([], text) := by
  cases blocked with
  | key others begins =>
    exact arguments_eq_nil begins (read?_eq_none (by decide) others) (by decide) (by decide) (by decide)
      fuel
  | separator c others begins separates none =>
    have none := none []
    rw [List.append_nil, begins] at none
    rw [begins]
    exact arguments_eq_nil_of_separator separates none fuel

theorem begins : ∃ c others, skip text = c :: others ∧ c ≠ 'a' ∧ c ≠ '~' ∧ c ≠ '\x7d' := by
  cases blocked with
  | key others begins => exact ⟨'=', others, begins, by decide⟩
  | separator c others begins separates none =>
    rcases Path.separator_cases separates with rfl | rfl
    · exact ⟨'.', others, by rw [begins]; rfl, by decide⟩
    · exact ⟨'/', others, by rw [begins]; rfl, by decide⟩

end Blocked

section

variable {ending : String} {kind : Expression → List String → TagKind} {text left : List Char}
  {name : String}

theorem endedLine?_of_blocked (braces : Braces ending)
    (named : name? (skip text) = some (name, left)) (blocked : Blocked left) :
    (line? text).bind (endedLine? ending kind) = none := by
  obtain ⟨c, others, begins, unparameterized, unended⟩ := blocked.begins
  rw [endedLine?_of_name named (blocked.arguments _), givenNames,
    blockParams?_eq_none begins unparameterized]
  simp only [Option.getD_none, ended?, tagEnd?_eq_none braces begins unended, Option.map_none]

/-- The arguments of a value are the arguments of a block as well. -/
theorem endedLine?_of_arguments (braces : Braces ending)
    (named : name? (skip text) = some (name, left)) {fuel : Nat} {rest last : List Char} {trims : Bool}
    {args : List (Option String × Checked Operand)} (found : arguments fuel left = (args, rest))
    (apart : ∀ argument ∈ args, ArgumentApart argument.2)
    (ends : tagEnd? ending rest = some (trims, last)) :
    (line? text).bind (endedLine? ending kind) ≠ none := by
  have passed := (operandReaders fuel).arguments found apart (tagEnd?_stops braces ends)
    (closes_of_tagEnd? braces ends) [] (fuelOf left) (by simp only [fuelOf]; omega)
  rw [List.append_nil, List.append_nil] at passed
  rw [endedLine?_of_name named passed, givenNames_of_tagEnd? braces ends]
  simp only [ended?, ends, Option.map_some]
  exact Option.some_ne_none _

end

section

variable {text left rest : List Char} {name : String}

/-- A name that begins with the word `else` goes on behind the word, or it ends with it. -/
theorem behind_word_else {behind : List Char} {key : String}
    (word : name? ("else".toList ++ text) = some (key, behind))
    (named : name? (skip text) = some (name, left)) : behind = left ∨ behind = text := by
  have same : text.dropWhile isNameChar = behind := by
    have dropped := (name?_eq_some word).2
    rwa [List.dropWhile_append_of_pos (List.all_eq_true.mp rfl)] at dropped
  cases text with
  | nil => cases named
  | cons c others =>
    cases char : isNameChar c with
    | false => exact Or.inr (by rw [← same, List.dropWhile_cons_of_neg (by simp [char])])
    | true =>
      have solid : ¬ isSpace c = true := by
        intro space
        simp [not_isNameChar_of_isSpace space] at char
      rw [skip, List.dropWhile_cons_of_neg solid] at named
      exact Or.inl (same.symm.trans (name?_eq_some named).2)

/-- Behind the name with which arguments begin stand the others, or nothing can stand there. -/
theorem further_arguments_of_name {fuel : Nat} {args : List (Option String × Checked Operand)}
    (passed : arguments fuel text = (args, rest)) (nonempty : args ≠ [])
    (all : ∀ argument ∈ args, ArgumentApart argument.2)
    (named : name? (skip text) = some (name, left)) :
    Blocked left ∨ ∃ fuel others, arguments fuel left = (others, rest) ∧
      ∀ argument ∈ others, ArgumentApart argument.2 := by
  cases fuel with
  | zero =>
    cases passed
    exact absurd rfl nonempty
  | succ fuel =>
    rw [arguments_succ] at passed
    split at passed
    · cases passed
      exact absurd rfl nonempty
    · rename_i key operand start first
      obtain ⟨rfl, ends⟩ := Prod.mk.inj passed
      rcases Option.or_eq_some_iff.mp first with option | ⟨_, positional⟩
      · obtain ⟨found, again, value⟩ := Option.bind_eq_some_iff.mp option
        rw [named] at again
        cases again
        obtain ⟨_, equals, _⟩ := Option.map_eq_some_iff.mp value
        obtain ⟨_, equals, _⟩ := Option.bind_eq_some_iff.mp equals
        obtain ⟨others, begins⟩ := leads_token (c := '=') rfl equals
        exact Or.inl (Blocked.key others begins)
      · obtain ⟨⟨operand, start⟩, value, same⟩ := Option.map_eq_some_iff.mp positional
        cases same
        obtain ⟨operand, rfl, _⟩ := all _ List.mem_cons_self
        rcases behind_name_of_operand? value named with rfl | ⟨c, others, begins, separates, none⟩
        · exact Or.inr ⟨fuel, _, Prod.ext rfl ends, fun argument member =>
            all argument (List.mem_cons_of_mem _ member)⟩
        · exact Or.inl (Blocked.separator c others begins separates none)

/-- Behind the word `else` at the beginning of a value stands the end of the value, or a name. The name
has what is left of the value as its arguments, or nothing can stand behind it. -/
theorem behind_else {fuel : Nat} {expression : Expression}
    (read : expression? fuel ("else".toList ++ text) = some (.ok expression, rest))
    (apart : AllApart expression.passed) (named : name? (skip text) = some (name, left)) :
    text = rest ∨ Blocked left ∨ ∃ fuel args, arguments fuel left = (args, rest) ∧
      ∀ argument ∈ args, ArgumentApart argument.2 := by
  cases fuel with
  | zero => cases read
  | succ fuel =>
    obtain ⟨key, behind, word⟩ : ∃ key behind,
        name? ("else".toList ++ text) = some (key, behind) := ⟨_, _, rfl⟩
    simp only [expression?, word, Option.bind_some] at read
    split at read
    · rename_i found call
      cases read
      split at call
      · cases call
      · rename_i args last nonempty passed
        obtain ⟨value, rfl⟩ := Prod.mk.inj (Option.some.inj call)
        have all := argumentsApart_of_callOf value apart
        rcases behind_word_else word named with rfl | rfl
        · exact Or.inr (Or.inr ⟨fuel, args, passed, all⟩)
        · exact Or.inr (further_arguments_of_name passed nonempty all named)
    · obtain ⟨⟨path, last⟩, found, same⟩ := Option.map_eq_some_iff.mp read
      cases same
      rcases Path.behind_name word found with rfl | ⟨c, others, begins, separates, none⟩
      · rcases behind_word_else word named with rfl | rfl
        · exact Or.inr (Or.inr ⟨0, [], rfl, by simp⟩)
        · exact Or.inl rfl
      · rcases behind_word_else word named with rfl | rfl
        · exact Or.inr (Or.inl (Blocked.separator c others begins separates none))
        · have solid : skip behind = c :: others := by
            rw [begins]
            rcases Path.separator_cases separates with rfl | rfl <;> rfl
          rw [solid, name?_eq_none (Path.not_isNameChar_of_isSeparator separates)] at named
          cases named

end

/-- A value that begins like an alternative is none in front of more either. -/
theorem alternative?_eq_none_of_value {text : List Char} {inside : Inside}
    (other : alternative? text = none) (read : valueTag? "\x7d\x7d" text = some inside)
    (apart : inside.Apart) :
    alternative? (text ++ more) = none := by
  obtain ⟨c, others, begins, mark⟩ := valueTag?_leads _ read
  obtain ⟨⟨checked, rest⟩, value, read⟩ := Option.bind_eq_some_iff.mp read
  obtain ⟨trims, last, ends, _⟩ := ended?_eq_some read
  obtain ⟨expression, rfl, passed⟩ := expression_of_ended? (fun _ => rfl) read apart
  have suffix := (valueExpression?_remains value).1
  have closes := suffix.subset (closes_of_tagEnd? braces_two ends)
  have caret : token? "^" (text ++ more) = none := by
    refine token?_eq_none (skip_begins_append begins more) ?_
    have differs : '^' ≠ c := by
      rintro rfl
      rcases mark with mark | mark <;> revert mark <;> decide
    simpa [beginsOther] using differs
  have same : token? "else" (text ++ more) = (token? "else" text).map (· ++ more) := by
    have seam : Seam (skip text) more := Seam.closed more closes
    rw [token?, skip_append (List.ne_nil_of_mem closes), seam.after?_append _ (by decide)]
    rfl
  cases found : token? "else" text with
  | none =>
    rw [found] at same
    simp only [alternative?, same, caret, Option.map_none, Option.none_or]
    rfl
  | some behind =>
    rw [found] at same
    have whole : skip text = "else".toList ++ behind := Text.after?_eq_some_iff.mp found
    have count : "\x7d\x7d".toList.length ≤ behind.count '\x7d' := by
      have inside := suffix.sublist.count_le '\x7d'
      rw [whole, List.count_append, show "else".toList.count '\x7d' = 0 from rfl, Nat.zero_add] at inside
      exact Nat.le_trans (count_of_tagEnd? ends) inside
    -- No alternative was read, so neither the end of the tag nor a block stands behind the word.
    simp only [alternative?, found, Option.some_or, Option.bind_eq_bind, Option.bind_some] at other
    split at other
    · cases other
    · rename_i unended
      simp only [alternative?, same, Option.map_some, Option.some_or, Option.bind_eq_bind,
        Option.bind_some, tagEnd?_append_of_count braces_two count, unended, Option.map_none]
      have inside : '\x7d' ∈ skip behind :=
        Text.mem_dropWhile (List.count_pos_iff.mp (Nat.lt_of_lt_of_le (by decide) count)) (by decide)
      cases named : name? (skip behind) with
      | none =>
        refine endedLine?_eq_none ?_
        rw [name?_skip_append inside, named, Option.map_none]
      | some word =>
        obtain ⟨name, left⟩ := word
        have further : name? (skip (behind ++ more)) = some (name, left ++ more) := by
          rw [name?_skip_append inside, named, Option.map_some]
        have uncalled : call? (fuelOf (skip text)) (skip text) = none := by
          rw [whole]
          exact call?_eq_none (by decide) _ _
        simp only [valueExpression?, uncalled] at value
        rw [whole] at value
        rcases behind_else value passed named with rfl | blocked | ⟨fuel, args, found, all⟩
        · rw [ends] at unended
          cases unended
        · exact endedLine?_of_blocked braces_two further (blocked.append more)
        · exact absurd other (endedLine?_of_arguments braces_two named found all ends)

/-! ### Tags of two braces -/

/-- The tags of two braces that begin with a mark of their own. -/
def markedInside? (text : List Char) : Option Inside :=
  plainValue? text <|> opening? text <|> decoration? text <|> inclusion? text <|> closing? text

/-- The alternatives of a tag of two braces. -/
def doubleInside? (text : List Char) : Option Inside :=
  alternative? text <|> valueTag? "\x7d\x7d" text <|> markedInside? text

theorem doubleTag?_eq (text : List Char) :
    doubleTag? text = (doubleInside? (tilde text).2).map ((tilde text).1, ·) := rfl

theorem markedInside?_leads : Leads markedInside? (· ∈ "\x7b&#*>/".toList) :=
  plainValue?_leads.orElse (opening?_leads.orElse (decoration?_leads.orElse
    (inclusion?_leads.orElse closing?_leads)))

theorem markedInside?_alike : ReadsAlike markedInside? := by
  have included := inclusion?_alike.orElse closing?_alike inclusion?_leads closing?_leads (by simp)
  have included_leads := inclusion?_leads.orElse closing?_leads
  have decorated := decoration?_alike.orElse included decoration?_leads included_leads (by simp)
  have decorated_leads := decoration?_leads.orElse included_leads
  have opened := opening?_alike.orElse decorated opening?_leads decorated_leads (by simp)
  have opened_leads := opening?_leads.orElse decorated_leads
  exact plainValue?_alike.orElse opened plainValue?_leads opened_leads (by simp)

/-- A value begins with no mark. -/
theorem unmarked_value : ∀ c ∈ "\x7b&#*>/".toList, ¬ (beginsPath c = true ∨ c = '(') := by
  intro c member
  have others : "\x7b&#*>/".toList.all (fun c => !beginsPath c && c != '(') = true := by decide
  simpa using List.all_eq_true.mp others c member

/-- Nor does an alternative. -/
theorem unmarked_alternative : ∀ c ∈ "\x7b&#*>/".toList, ¬ c ∈ ['e', '^'] := by simp

theorem doubleInside?_alike : ReadsAlike doubleInside? := by
  intro text inside read apart more
  have further := (valueTag?_alike braces_two).orElse markedInside?_alike (valueTag?_leads _)
    markedInside?_leads
    unmarked_value
  rcases orElse_eq_some read with read | ⟨other, read⟩
  · simp only [doubleInside?, alternative?_alike read apart more]
    rfl
  · have missing : alternative? (text ++ more) = none := by
      rcases orElse_eq_some read with read | ⟨_, read⟩
      · exact alternative?_eq_none_of_value other read apart
      · obtain ⟨c, others, begins, mark⟩ := markedInside?_leads read
        exact alternative?_leads.eq_none (skip_begins_append begins more) (unmarked_alternative c mark)
    simp only [doubleInside?, missing, further read apart more]
    rfl

/-- A tag of two braces begins with an alternative, a value or a mark. -/
theorem doubleInside?_leads :
    Leads doubleInside? fun c => c ∈ ['e', '^'] ∨ beginsPath c = true ∨ c = '(' ∨
      c ∈ "\x7b&#*>/".toList := by
  intro text inside read
  rcases orElse_eq_some read with read | ⟨_, read⟩
  · obtain ⟨c, others, begins, mark⟩ := alternative?_leads read
    exact ⟨c, others, begins, Or.inl mark⟩
  · rcases orElse_eq_some read with read | ⟨_, read⟩
    · obtain ⟨c, others, begins, mark⟩ := valueTag?_leads _ read
      exact ⟨c, others, begins, Or.inr (mark.imp_right Or.inl)⟩
    · obtain ⟨c, others, begins, mark⟩ := markedInside?_leads read
      exact ⟨c, others, begins, Or.inr (Or.inr (Or.inr mark))⟩

/-! ### Tags -/

theorem tilde_of_other {c : Char} {text others : List Char} (begins : skip text = c :: others)
    (other : c ≠ '~') : tilde text = (false, text) := by
  have missing : token? "~" text = none := token?_eq_none begins (by simp [beginsOther, other.symm])
  rw [tilde, missing]

/-- What stands between the first two braces of a tag and its end, and whether a tilde comes first. -/
def tagInside? (text : List Char) : Option (Bool × Inside) :=
  (comment? text).map (false, ·) <|> tripleTag? text <|> doubleTag? text <|> rawOpening? text

theorem tag?_eq (before text : List Char) : tag? before text =
    (tagInside? text).map fun (trims, inside) =>
      (⟨inside.kind, inside.invalid, trims, inside.trimsAfter, before, inside.rest⟩, inside.rest) := rfl

section

variable {text : List Char} {trims : Bool} {inside : Inside}

theorem comment?_eq_none {c : Char} (other : c ≠ '!') (text : List Char) :
    comment? (c :: text) = none := by
  simp [comment?, Text.after?, other.symm]

theorem tripleTag?_eq_none {c : Char} (other : c ≠ '\x7b') (text : List Char) :
    tripleTag? (c :: text) = none := by
  simp [tripleTag?, Text.after?, other.symm]

theorem tripleTag?_brace (text : List Char) : tripleTag? ('\x7b' :: text) =
    (valueTag? "\x7d\x7d\x7d" (tilde text).2).map ((tilde text).1, ·) := by
  simp only [tripleTag?, Text.after?, if_true, Option.bind_eq_bind, Option.bind_some, Option.pure_def,
    valueTag?]
  cases valueExpression? (tilde text).2 with
  | none => rfl
  | some value =>
    simp only [Option.bind_some]
    cases ended? "\x7d\x7d\x7d" .value value <;> rfl

/-- The opening of a raw block behind its braces. -/
def rawLine? (text : List Char) : Option Inside :=
  (line? text).bind (endedLine? "\x7d\x7d\x7d\x7d" .rawOpening)

theorem rawOpening?_braces (text : List Char) : rawOpening? ('\x7b' :: '\x7b' :: text) =
    (rawLine? (tilde text).2).map ((tilde text).1, ·) := by
  simp only [rawOpening?, Text.after?, if_true, Option.bind_eq_bind, Option.bind_some, Option.pure_def,
    rawLine?]
  cases (line? (tilde text).2).bind (endedLine? "\x7d\x7d\x7d\x7d" .rawOpening) <;> rfl

theorem rawLine?_alike : ReadsAlike rawLine? :=
  fun _ _ read apart _ => endedLine?_append braces_four (fun _ _ => rfl) read apart

theorem rawLine?_leads : Leads rawLine? (isNameChar · = true) := by
  intro text inside read
  obtain ⟨name, left, named⟩ := name_of_endedLine? read
  obtain ⟨⟨c, others, begins, char⟩, _⟩ := name?_eq_some named
  exact ⟨c, others, begins, char⟩

theorem skip_ne_nil_of_tilde (begins : skip (tilde text).2 ≠ []) : skip text ≠ [] := by
  intro empty
  have missing : token? "~" text = none := by
    rw [token?, empty]
    rfl
  rw [tilde, missing] at begins
  exact begins empty

/-- A tilde and what a reader reads behind it are read alike in front of more. -/
theorem tilded_append {reader : List Char → Option Inside} {mark : Char → Prop}
    (alike : ReadsAlike reader) (leads : Leads reader mark)
    (read : (reader (tilde text).2).map ((tilde text).1, ·) = some (trims, inside))
    (apart : inside.Apart) :
    (reader (tilde (text ++ more)).2).map ((tilde (text ++ more)).1, ·) =
      some (trims, inside.inFrontOf more) := by
  obtain ⟨found, read, same⟩ := Option.map_eq_some_iff.mp read
  cases same
  obtain ⟨c, others, behind, _⟩ := leads read
  have begins : skip text ≠ [] := skip_ne_nil_of_tilde (by simp [behind])
  simp only [tilde_append begins, alike read apart more, Option.map_some]

theorem tripleTag?_append (read : tripleTag? text = some (trims, inside)) (apart : inside.Apart)
    (more : List Char) :
    tripleTag? (text ++ more) = some (trims, inside.inFrontOf more) := by
  obtain ⟨behind, brace, _⟩ := Option.bind_eq_some_iff.mp read
  obtain rfl : text = '\x7b' :: behind := Text.after?_eq_some_iff.mp brace
  rw [tripleTag?_brace] at read
  rw [List.cons_append, tripleTag?_brace]
  exact tilded_append (valueTag?_alike braces_three) (valueTag?_leads _) read apart

theorem doubleTag?_append (read : doubleTag? text = some (trims, inside)) (apart : inside.Apart)
    (more : List Char) :
    doubleTag? (text ++ more) = some (trims, inside.inFrontOf more) :=
  tilded_append doubleInside?_alike doubleInside?_leads read apart

theorem rawOpening?_append (read : rawOpening? text = some (trims, inside)) (apart : inside.Apart)
    (more : List Char) :
    rawOpening? (text ++ more) = some (trims, inside.inFrontOf more) := by
  obtain ⟨behind, braces, _⟩ := Option.bind_eq_some_iff.mp read
  obtain rfl : text = '\x7b' :: '\x7b' :: behind := Text.after?_eq_some_iff.mp braces
  rw [rawOpening?_braces] at read
  rw [List.cons_append, List.cons_append, rawOpening?_braces]
  exact tilded_append rawLine?_alike rawLine?_leads read apart

/-- Behind a third brace only a value in a further pair of braces is a tag of two. -/
theorem doubleTag?_brace (text : List Char) :
    doubleTag? ('\x7b' :: text) = (plainValue? ('\x7b' :: text)).map (false, ·) := by
  have begins : skip ('\x7b' :: text) = '\x7b' :: text := rfl
  have leads := opening?_leads.orElse (decoration?_leads.orElse (inclusion?_leads.orElse closing?_leads))
  have others := leads.eq_none begins (by decide)
  rw [doubleTag?_eq, tilde_of_other begins (by decide)]
  dsimp only at others ⊢
  simp only [doubleInside?, markedInside?, alternative?_leads.eq_none begins (by decide),
    (valueTag?_leads "\x7d\x7d").eq_none begins (by decide), others]
  cases plainValue? ('\x7b' :: text) <;> rfl

theorem plainValue?_brace (text : List Char) : plainValue? ('\x7b' :: text) =
    (valueExpression? text).bind fun value =>
      (token? "\x7d" value.2).bind fun rest => ended? "\x7d\x7d" .value (value.1, rest) := rfl

/-- A value in a third pair of braces whose tag ends with two more, but not with three, is no tag of
three braces in front of more either. -/
theorem tripleTag?_eq_none_of_double (other : tripleTag? ('\x7b' :: text) = none)
    (read : doubleTag? ('\x7b' :: text) = some (trims, inside)) (apart : inside.Apart) :
    tripleTag? ('\x7b' :: (text ++ more)) = none := by
  rw [doubleTag?_brace, plainValue?_brace] at read
  obtain ⟨found, read, same⟩ := Option.map_eq_some_iff.mp read
  cases same
  obtain ⟨⟨checked, left⟩, value, read⟩ := Option.bind_eq_some_iff.mp read
  obtain ⟨last, closed, read⟩ := Option.bind_eq_some_iff.mp read
  obtain ⟨_, _, ends, _⟩ := ended?_eq_some read
  obtain ⟨expression, rfl, passed⟩ := expression_of_ended? (fun _ => rfl) read apart
  have closing : skip left = '\x7d' :: last :=
    skip_begins_of_token? (show "\x7d".toList = '\x7d' :: [] from rfl) closed
  have count : "\x7d\x7d\x7d".toList.length ≤ left.count '\x7d' := by
    have two : 2 ≤ last.count '\x7d' := count_of_tagEnd? ends
    have same : (skip left).count '\x7d' = left.count '\x7d' := count_dropWhile (by decide) left
    rw [closing, List.count_cons_self] at same
    rw [← same]
    exact Nat.succ_le_succ two
  have closes : '\x7d' ∈ left := List.count_pos_iff.mp (Nat.lt_of_lt_of_le (by decide) count)
  have further := valueExpression?_append value passed
    (Stops.closer '\x7d' last closing rfl) closes more
  obtain ⟨c, others, begins, mark⟩ := valueExpression?_leads value
  have plain : c ≠ '~' := by
    rintro rfl
    revert mark
    decide
  rw [tripleTag?_brace, tilde_of_other begins plain] at other
  rw [tripleTag?_brace, tilde_of_other (skip_begins_append begins more) plain]
  have unended : tagEnd? "\x7d\x7d\x7d" left = none := by simpa [valueTag?, value, ended?] using other
  simp only [valueTag?, further, Option.bind_some, ended?, tagEnd?_append_of_count braces_three count,
    unended, Option.map_none]

/-- No value stands behind a further brace. -/
theorem valueExpression?_brace (text : List Char) : valueExpression? ('\x7b' :: text) = none :=
  valueExpression?_eq_none (show skip ('\x7b' :: text) = '\x7b' :: text from rfl) (by decide)

/-- A tag of two braces begins with no exclamation mark. -/
theorem head_of_doubleTag? (read : doubleTag? text = some (trims, inside)) :
    ∃ c others, text = c :: others ∧ c ≠ '!' := by
  rw [doubleTag?_eq] at read
  obtain ⟨found, read, _⟩ := Option.map_eq_some_iff.mp read
  obtain ⟨d, behind, begins, mark⟩ := doubleInside?_leads read
  cases text with
  | nil => cases begins
  | cons c others =>
    refine ⟨c, others, rfl, ?_⟩
    rintro rfl
    have solid : skip ('!' :: others) = '!' :: others := rfl
    rw [tilde_of_other solid (by decide), solid] at begins
    obtain ⟨rfl, _⟩ := List.cons.inj begins
    revert mark
    decide

theorem tagInside?_append (read : tagInside? text = some (trims, inside))
    (plain : inside.kind.isComment = false) (apart : inside.Apart) (more : List Char) :
    tagInside? (text ++ more) = some (trims, inside.inFrontOf more) := by
  rcases orElse_eq_some read with comment | ⟨_, read⟩
  · obtain ⟨found, comment, same⟩ := Option.map_eq_some_iff.mp comment
    cases same
    obtain ⟨rest, _, comment⟩ := Option.bind_eq_some_iff.mp comment
    obtain ⟨body, _, same⟩ := Option.bind_eq_some_iff.mp comment
    cases same
    cases plain
  rcases orElse_eq_some read with triple | ⟨untripled, read⟩
  · have further := tripleTag?_append triple apart more
    obtain ⟨behind, brace, _⟩ := Option.bind_eq_some_iff.mp triple
    obtain rfl : text = '\x7b' :: behind := Text.after?_eq_some_iff.mp brace
    rw [List.cons_append] at further ⊢
    rw [tagInside?, comment?_eq_none (by decide), further]
    rfl
  rcases orElse_eq_some read with double | ⟨_, raw⟩
  · have further := doubleTag?_append double apart more
    obtain ⟨c, others, rfl, plain⟩ := head_of_doubleTag? double
    have missing : tripleTag? (c :: (others ++ more)) = none := by
      by_cases brace : c = '\x7b'
      · subst brace
        exact tripleTag?_eq_none_of_double untripled double apart
      · exact tripleTag?_eq_none brace (others ++ more)
    rw [List.cons_append] at further ⊢
    rw [tagInside?, comment?_eq_none plain, missing, further]
    rfl
  · have further := rawOpening?_append raw apart more
    obtain ⟨behind, braces, _⟩ := Option.bind_eq_some_iff.mp raw
    obtain rfl : text = '\x7b' :: '\x7b' :: behind := Text.after?_eq_some_iff.mp braces
    rw [List.cons_append, List.cons_append] at further ⊢
    have brace : skip ('\x7b' :: (behind ++ more)) = '\x7b' :: (behind ++ more) := rfl
    have untripled : tripleTag? ('\x7b' :: '\x7b' :: (behind ++ more)) = none := by
      rw [tripleTag?_brace, tilde_of_other brace (by decide), valueTag?, valueExpression?_brace]
      rfl
    have undoubled : doubleTag? ('\x7b' :: '\x7b' :: (behind ++ more)) = none := by
      rw [doubleTag?_brace, plainValue?_brace, valueExpression?_brace]
      rfl
    rw [tagInside?, comment?_eq_none (by decide), untripled, undoubled, further]
    rfl

end

/-- The end of a raw block behind its braces. -/
def rawEnd? (text : List Char) : Option Inside :=
  (token? "/" text).bind fun rest =>
    (closingName? name? "\x7d\x7d\x7d\x7d" rest).map fun found =>
      ⟨.rawClosing found.1, none, found.2.1, found.2.2⟩

theorem rawClosing?_braces (text : List Char) :
    rawClosing? ("\x7b\x7b\x7b\x7b".toList ++ text) =
      (rawEnd? (tilde text).2).map ((tilde text).1, ·) := by
  have braces : Text.after? "\x7b\x7b\x7b\x7b".toList ("\x7b\x7b\x7b\x7b".toList ++ text) = some text :=
    Text.after?_eq_some_iff.mpr rfl
  simp only [rawClosing?, braces, Option.bind_eq_bind, Option.bind_some, Option.pure_def, rawEnd?]
  cases token? "/" (tilde text).2 with
  | none => rfl
  | some rest =>
    simp only [Option.bind_some]
    cases closingName? name? "\x7d\x7d\x7d\x7d" rest <;> rfl

theorem rawEnd?_alike : ReadsAlike rawEnd? := by
  intro text inside read _ more
  obtain ⟨rest, slash, read⟩ := Option.bind_eq_some_iff.mp read
  obtain ⟨⟨name, trims, left⟩, closed, same⟩ := Option.map_eq_some_iff.mp read
  cases same
  have count : "\x7d\x7d\x7d\x7d".toList.length ≤ rest.count '\x7d' :=
    count_of_closingName? remains_name closed
  simp only [rawEnd?, (token?_append (by decide) slash more).2.2, Option.bind_some,
    closingHelper?_append braces_four count, closed, Option.map_some]
  rfl

theorem rawEnd?_leads : Leads rawEnd? (· ∈ ['/']) := by
  intro text inside read
  obtain ⟨rest, found, _⟩ := Option.bind_eq_some_iff.mp read
  obtain ⟨others, begins⟩ := leads_token (c := '/') rfl found
  exact ⟨'/', others, begins, by simp⟩

/-- The end of a raw block says nothing. -/
theorem kindApart_of_rawEnd? {text : List Char} {inside : Inside} (read : rawEnd? text = some inside) :
    inside.Apart := by
  obtain ⟨rest, _, read⟩ := Option.bind_eq_some_iff.mp read
  obtain ⟨found, _, same⟩ := Option.map_eq_some_iff.mp read
  cases same
  exact ⟨rfl, nofun⟩

/-- The end of a raw block is read alike in front of more. -/
theorem rawClosing?_append {text : List Char} {trims : Bool} {inside : Inside}
    (read : rawClosing? text = some (trims, inside)) (more : List Char) :
    rawClosing? (text ++ more) = some (trims, inside.inFrontOf more) := by
  obtain ⟨behind, braces, _⟩ := Option.bind_eq_some_iff.mp read
  obtain rfl := Text.after?_eq_some_iff.mp braces
  rw [rawClosing?_braces] at read
  rw [List.append_assoc, rawClosing?_braces]
  obtain ⟨found, inner, same⟩ := Option.map_eq_some_iff.mp read
  cases same
  exact tilded_append rawEnd?_alike rawEnd?_leads read (kindApart_of_rawEnd? inner)

/-- A tag is read alike in front of more, unless it is a comment. -/
theorem tag?_append {before text rest : List Char} {tag : Tag}
    (read : tag? before text = some (tag, rest)) (plain : tag.kind.isComment = false)
    (apart : KindApart tag.kind tag.invalid) (other more : List Char) :
    tag? other (text ++ more) =
      some ({ tag with before := other, after := rest ++ more }, rest ++ more) := by
  rw [tag?_eq] at read
  obtain ⟨⟨trims, inside⟩, found, same⟩ := Option.map_eq_some_iff.mp read
  cases same
  have further := tagInside?_append found plain apart more
  rw [tag?_eq, further]
  rfl

end Stencil.Template
