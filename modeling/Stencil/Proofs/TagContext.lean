import Stencil.Proofs.OperandContext
import Stencil.Template.Spacing

set_option autoImplicit false

/-!
Parts of tags in front of more. The marks of a tag, its end, and a value or a name in it are the same
where more stands behind the tag (`tagEnd?_append`, `valueExpression?_append`, `nameExpression?_append`),
if a value passes no path in brackets that may begin a literal there.
-/

namespace Stencil.Template

variable {more : List Char}

/-! ### Words -/

theorem after?_eq_none_append {word text : List Char} (missing : Text.after? word text = none)
    (long : word.length ≤ text.length) : Text.after? word (text ++ more) = none := by
  induction word generalizing text with
  | nil => cases missing
  | cons c word ih =>
    cases text with
    | nil => simp at long
    | cons d text =>
      simp only [List.length_cons] at long
      by_cases same : c = d
      · simp only [Text.after?, same, if_true, List.cons_append] at missing ⊢
        exact ih missing (by omega)
      · simp [Text.after?, same]

theorem token?_eq_none_append {word : String} {text : List Char} (missing : token? word text = none)
    (nonempty : word.toList ≠ []) (long : word.toList.length ≤ (skip text).length) :
    token? word (text ++ more) = none := by
  have positive := List.length_pos_iff.mpr nonempty
  have begins : skip text ≠ [] := by
    intro empty
    rw [empty, List.length_nil] at long
    omega
  rw [token?, skip_append begins]
  exact after?_eq_none_append missing long

/-- True for a word that begins with another character. -/
def beginsOther (word : String) (c : Char) : Bool := (word.toList.head?.map (· != c)).getD false

theorem token?_eq_none {word : String} {c : Char} {text others : List Char}
    (begins : skip text = c :: others) (other : beginsOther word c = true) :
    token? word text = none := by
  rw [token?, begins]
  unfold beginsOther at other
  cases letters : word.toList with
  | nil =>
    rw [letters] at other
    cases other
  | cons d tail =>
    rw [letters] at other
    have differs : d ≠ c := by simpa using other
    simp [Text.after?, differs]

theorem skip_begins_of_token? {word : String} {d : Char} {tail : List Char}
    (letters : word.toList = d :: tail) {text rest : List Char} (found : token? word text = some rest) :
    skip text = d :: (tail ++ rest) := by
  have same := Text.after?_eq_some_iff.mp found
  rw [same, letters]
  rfl

theorem skip_begins_append {c : Char} {text others : List Char} (begins : skip text = c :: others)
    (more : List Char) :
    skip (text ++ more) = c :: (others ++ more) := by
  rw [skip_append (by simp [begins]), begins]
  rfl

/-! ### Ends of tags -/

/-- A tilde, or its absence, is the same in front of more. -/
theorem tilde_append {text : List Char} (begins : skip text ≠ []) :
    tilde (text ++ more) = ((tilde text).1, (tilde text).2 ++ more) := by
  have positive := List.length_pos_iff.mpr begins
  unfold tilde
  cases found : token? "~" text with
  | some rest => rw [(token?_append (by decide) found more).2.2]
  | none => rw [token?_eq_none_append found (by decide) positive]

theorem tilde_suffix (text : List Char) : (tilde text).2 <:+ text := by
  unfold tilde
  cases found : token? "~" text with
  | some rest => exact (remains_token (by decide) found).1
  | none => exact List.suffix_rfl

/-- An end of a tag consists of closing braces. -/
structure Braces (ending : String) : Prop where
  begins : ∃ tail, ending.toList = '\x7d' :: tail
  all : ∀ c ∈ ending.toList, c = '\x7d'

theorem Braces.ne_nil {ending : String} (braces : Braces ending) : ending.toList ≠ [] := by
  obtain ⟨tail, same⟩ := braces.begins
  simp [same]

theorem braces_two : Braces "\x7d\x7d" := ⟨⟨_, rfl⟩, by simp⟩

theorem braces_three : Braces "\x7d\x7d\x7d" := ⟨⟨_, rfl⟩, by simp⟩

theorem braces_four : Braces "\x7d\x7d\x7d\x7d" := ⟨⟨_, rfl⟩, by simp⟩

section

variable {ending : String} {text rest : List Char} {trims : Bool}

theorem tagEnd?_eq_some (read : tagEnd? ending text = some (trims, rest)) :
    (tilde text).1 = trims ∧ token? ending (tilde text).2 = some rest := by
  obtain ⟨left, found, same⟩ := Option.map_eq_some_iff.mp read
  cases same
  exact ⟨rfl, found⟩

/-- A tag ends at a tilde or a closing brace. -/
theorem tagEnd?_begins (braces : Braces ending) (read : tagEnd? ending text = some (trims, rest)) :
    ∃ c others, skip text = c :: others ∧ (c = '~' ∨ c = '\x7d') := by
  obtain ⟨_, found⟩ := tagEnd?_eq_some read
  unfold tilde at found
  cases mark : token? "~" text with
  | some behind => exact ⟨'~', _, skip_begins_of_token? rfl mark, Or.inl rfl⟩
  | none =>
    rw [mark] at found
    obtain ⟨tail, letters⟩ := braces.begins
    exact ⟨'\x7d', _, skip_begins_of_token? letters found, Or.inr rfl⟩

theorem tagEnd?_stops (braces : Braces ending) (read : tagEnd? ending text = some (trims, rest)) :
    Stops text := by
  obtain ⟨c, others, begins, cases⟩ := tagEnd?_begins braces read
  refine Stops.closer c others begins ?_
  rcases cases with rfl | rfl <;> rfl

theorem tagEnd?_append (braces : Braces ending) (read : tagEnd? ending text = some (trims, rest)) :
    tagEnd? ending (text ++ more) = some (trims, rest ++ more) := by
  obtain ⟨c, others, begins, _⟩ := tagEnd?_begins braces read
  obtain ⟨rfl, found⟩ := tagEnd?_eq_some read
  simp only [tagEnd?, tilde_append (by simp [begins] : skip text ≠ []),
    (token?_append braces.ne_nil found more).2.2, Option.map_some]

/-- No tag ends at another character. -/
theorem tagEnd?_eq_none (braces : Braces ending) {c : Char} {others : List Char}
    (begins : skip text = c :: others) (other : c ≠ '~' ∧ c ≠ '\x7d') : tagEnd? ending text = none := by
  have unmarked : token? "~" text = none := token?_eq_none begins (by simp [beginsOther, other.1.symm])
  obtain ⟨tail, letters⟩ := braces.begins
  have missing : token? ending text = none :=
    token?_eq_none begins (by simp [beginsOther, letters, other.2.symm])
  simp only [tagEnd?, tilde, unmarked, missing, Option.map_none]

theorem count_dropWhile {test : Char → Bool} (fails : test '\x7d' = false) (text : List Char) :
    (text.dropWhile test).count '\x7d' = text.count '\x7d' := by
  induction text with
  | nil => rfl
  | cons c text ih =>
    by_cases passes : test c = true
    · have differs : c ≠ '\x7d' := by
        rintro rfl
        rw [fails] at passes
        cases passes
      rw [List.dropWhile_cons_of_pos passes, ih, List.count_cons_of_ne differs]
    · rw [List.dropWhile_cons_of_neg passes]

theorem count_tilde (text : List Char) : (tilde text).2.count '\x7d' = text.count '\x7d' := by
  unfold tilde
  cases found : token? "~" text with
  | none => rfl
  | some rest =>
    have begins := skip_begins_of_token? rfl found
    have same := count_dropWhile (show isSpace '\x7d' = false by decide) text
    rw [show text.dropWhile isSpace = '~' :: ([] ++ rest) from begins] at same
    rw [← same]
    simp

theorem count_of_token? (found : token? ending text = some rest) :
    ending.toList.count '\x7d' ≤ text.count '\x7d' := by
  have same := count_dropWhile (show isSpace '\x7d' = false by decide) text
  rw [show text.dropWhile isSpace = ending.toList ++ rest from Text.after?_eq_some_iff.mp found,
    List.count_append] at same
  omega

theorem count_of_tagEnd? (read : tagEnd? ending text = some (trims, rest)) :
    ending.toList.count '\x7d' ≤ text.count '\x7d' := by
  have count := count_of_token? (tagEnd?_eq_some read).2
  rwa [count_tilde] at count

theorem closes_of_tagEnd? (braces : Braces ending) (read : tagEnd? ending text = some (trims, rest)) :
    '\x7d' ∈ text := by
  have count := count_of_tagEnd? read
  obtain ⟨tail, letters⟩ := braces.begins
  rw [letters, List.count_cons_self] at count
  exact List.count_pos_iff.mp (by omega)

/-- Where as many closing braces are left as an end of a tag has, it is decided whether one stands
here. -/
theorem tagEnd?_append_of_count (braces : Braces ending)
    (left : ending.toList.length ≤ text.count '\x7d') :
    tagEnd? ending (text ++ more) =
      (tagEnd? ending text).map fun found => (found.1, found.2 ++ more) := by
  have positive := List.length_pos_iff.mpr braces.ne_nil
  have begins : skip text ≠ [] := by
    have inside : '\x7d' ∈ text := List.count_pos_iff.mp (by omega)
    exact List.ne_nil_of_mem (Text.mem_dropWhile inside (by decide))
  cases read : tagEnd? ending text with
  | some found => rw [tagEnd?_append braces read, Option.map_some]
  | none =>
    have missing : token? ending (tilde text).2 = none := by
      rw [tagEnd?] at read
      exact Option.map_eq_none_iff.mp read
    have long : ending.toList.length ≤ (skip (tilde text).2).length := by
      have same := count_dropWhile (show isSpace '\x7d' = false by decide) (tilde text).2
      rw [count_tilde] at same
      have most : (skip (tilde text).2).count '\x7d' ≤ _ := List.count_le_length
      rw [skip, same] at most
      exact Nat.le_trans left most
    simp only [tagEnd?, tilde_append begins, token?_eq_none_append missing braces.ne_nil long,
      Option.map_none]

end

/-! ### What tags say -/

/-- What a tag says, if it says anything. -/
def TagKind.expression? : TagKind → Option Expression
  | value expression => some expression
  | opening expression _ => some expression
  | chain expression _ => some expression
  | otherwise => none
  | inclusion expression => some expression
  | inclusionOpening expression => some expression
  | decoration expression => some expression
  | decorationOpening expression => some expression
  | closing _ _ => none
  | comment _ => none
  | rawOpening expression _ => some expression
  | rawClosing _ => none

/-- A tag whose literals are data and whose arguments begin no further literals. -/
structure KindApart (kind : TagKind) (invalid : Option InvalidLiteral) : Prop where
  valid : invalid = none
  apart : ∀ expression, kind.expression? = some expression → AllApart expression.passed

/-- The inside of a tag in front of more. -/
def Inside.inFrontOf (inside : Inside) (more : List Char) : Inside :=
  { inside with rest := inside.rest ++ more }

def Inside.Apart (inside : Inside) : Prop := KindApart inside.kind inside.invalid

section

variable {ending : String} {kind : Expression → TagKind} {checked : Checked Expression}
  {text : List Char} {inside : Inside}

theorem ended?_eq_some (read : ended? ending kind (checked, text) = some inside) :
    ∃ trims rest, tagEnd? ending text = some (trims, rest) ∧
      Inside.of checked kind trims rest = inside := by
  obtain ⟨⟨trims, rest⟩, found, same⟩ := Option.map_eq_some_iff.mp read
  exact ⟨trims, rest, found, same⟩

theorem ended?_append (braces : Braces ending)
    (read : ended? ending kind (checked, text) = some inside) :
    ended? ending kind (checked, text ++ more) = some (inside.inFrontOf more) := by
  obtain ⟨trims, rest, found, rfl⟩ := ended?_eq_some read
  simp only [ended?, tagEnd?_append braces found, Option.map_some]
  cases checked <;> rfl

/-- What a sound tag says was read without faults. -/
theorem expression_of_ended? (speaks : ∀ expression, (kind expression).expression? = some expression)
    (read : ended? ending kind (checked, text) = some inside) (apart : inside.Apart) :
    ∃ expression, checked = .ok expression ∧ AllApart expression.passed := by
  obtain ⟨trims, rest, _, rfl⟩ := ended?_eq_some read
  cases checked with
  | error invalid =>
    have valid := apart.valid
    cases valid
  | ok expression => exact ⟨expression, rfl, apart.apart expression (speaks expression)⟩

end

section

variable {text rest : List Char} {expression : Expression}

/-- A call in parentheses as the whole of a tag. -/
theorem bareCall_append {fuel : Nat} {call : Checked Operand}
    (read : call? fuel text = some (call, rest))
    (same : (call.map fun call => (⟨call, []⟩ : Expression)) = .ok expression)
    (apart : AllApart expression.passed) (closes : '\x7d' ∈ rest) :
    call? (fuelOf (text ++ more)) (text ++ more) = some (call, rest ++ more) := by
  cases call with
  | error invalid => cases same
  | ok operand =>
    cases same
    rw [Expression.passed, passedBy, List.append_nil] at apart
    refine (operandReaders fuel).call read apart closes more _ ?_
    simp only [fuelOf, List.length_append]
    omega

theorem expression?_eq_none {fuel : Nat} {c : Char} (other : beginsPath c = false) (others : List Char) :
    expression? fuel (c :: others) = none := by
  have name : isNameChar c = false := (Bool.or_eq_false_iff.mp other).1
  cases fuel with
  | zero => rfl
  | succ fuel =>
    simp only [expression?, name?_eq_none name, read?_eq_none other, Option.bind_none, Option.map_none]

/-- There is no value at a character with which neither a call nor a path begins. -/
theorem valueExpression?_eq_none {c : Char} {others : List Char} (begins : skip text = c :: others)
    (other : beginsPath c = false ∧ c ≠ '(') : valueExpression? text = none := by
  simp only [valueExpression?, begins, call?_eq_none other.2, expression?_eq_none other.1]

theorem valueExpression?_remains {checked : Checked Expression}
    (read : valueExpression? text = some (checked, rest)) : Remains rest (skip text) := by
  simp only [valueExpression?] at read
  split at read
  · rename_i call left found
    cases read
    exact (operandRemains _).call found
  · exact (operandRemains _).expression read

theorem valueExpression?_append (read : valueExpression? text = some (.ok expression, rest))
    (apart : AllApart expression.passed) (stops : Stops rest) (closes : '\x7d' ∈ rest)
    (more : List Char) : valueExpression? (text ++ more) = some (.ok expression, rest ++ more) := by
  have begins := (valueExpression?_remains read).ne_nil
  simp only [valueExpression?] at read
  split at read
  · rename_i call left found
    obtain ⟨same, rfl⟩ := Prod.mk.inj (Option.some.inj read)
    have further : call? (fuelOf (skip text ++ more)) (skip text ++ more) = some (call, left ++ more) :=
      bareCall_append found same apart closes
    simp only [valueExpression?, skip_append begins, further, same]
  · rename_i missing
    have further : call? (fuelOf (skip text ++ more)) (skip text ++ more) = none := by
      cases same : skip text with
      | nil => exact absurd same begins
      | cons c others =>
        refine call?_eq_none ?_ _ _
        rintro rfl
        rw [same, expression?_eq_none (by decide)] at read
        cases read
    have same := (operandReaders _).expression read apart stops closes more
      (fuelOf (skip text ++ more)) (by simp only [fuelOf, List.length_append]; omega)
    simp only [valueExpression?, skip_append begins, further, same]

theorem nameExpression?_remains {checked : Checked Expression}
    (read : nameExpression? text = some (checked, rest)) : Remains rest (skip text) := by
  simp only [nameExpression?] at read
  split at read
  · rename_i call left found
    cases read
    exact (operandRemains _).call found
  · obtain ⟨⟨path, left⟩, found, same⟩ := Option.map_eq_some_iff.mp read
    cases same
    exact remains_path found

/-- Nor is there a name. -/
theorem nameExpression?_eq_none {c : Char} {others : List Char} (begins : skip text = c :: others)
    (other : beginsPath c = false ∧ c ≠ '(') : nameExpression? text = none := by
  simp only [nameExpression?, begins, call?_eq_none other.2, read?_eq_none other.1, Option.map_none]

theorem arguments_of_nameExpression? (read : nameExpression? text = some (.ok expression, rest)) :
    expression.arguments = [] := by
  simp only [nameExpression?] at read
  split at read
  · rename_i call left found
    cases call with
    | error invalid => cases read
    | ok call =>
      cases read
      rfl
  · obtain ⟨found, _, same⟩ := Option.map_eq_some_iff.mp read
    cases same
    rfl

theorem nameExpression?_append (read : nameExpression? text = some (.ok expression, rest))
    (apart : AllApart expression.passed) (clear : Path.Clear rest) (closes : '\x7d' ∈ rest)
    (more : List Char) : nameExpression? (text ++ more) = some (.ok expression, rest ++ more) := by
  have begins := (nameExpression?_remains read).ne_nil
  simp only [nameExpression?] at read
  split at read
  · rename_i call left found
    obtain ⟨same, rfl⟩ := Prod.mk.inj (Option.some.inj read)
    have further : call? (fuelOf (skip text ++ more)) (skip text ++ more) = some (call, left ++ more) :=
      bareCall_append found same apart closes
    simp only [nameExpression?, skip_append begins, further, same]
  · rename_i missing
    obtain ⟨⟨path, left⟩, found, same⟩ := Option.map_eq_some_iff.mp read
    cases same
    have further : call? (fuelOf (skip text ++ more)) (skip text ++ more) = none := by
      cases same : skip text with
      | nil => exact absurd same begins
      | cons c others =>
        refine call?_eq_none ?_ _ _
        rintro rfl
        rw [same, read?_eq_none (by decide)] at found
        cases found
    have same := Path.read?_append found clear (Seam.closed more closes)
    simp only [nameExpression?, skip_append begins, further, same, Option.map_some]

end

end Stencil.Template
