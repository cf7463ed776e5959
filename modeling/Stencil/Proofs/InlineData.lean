import Stencil.Proofs.InlinePaths
import Stencil.Proofs.PartedTexts

set_option autoImplicit false

/-!
Data in inline tags. Numbers as the grammar of tags has them and texts without control characters are
read as data (`Number.literalOf_eq`, `Quoted.literalOf_eq`), and all numbers are decimals
(`Number.decimal_isSome`).
-/

namespace Stencil.Inline

variable {more : List Char}

namespace Digits

variable (digits : Digits)

theorem head : ∃ c others, digits.text = c :: others ∧ c.isDigit = true := by
  obtain ⟨c, others, same⟩ := List.exists_cons_of_ne_nil digits.nonempty
  exact ⟨c, others, same, digits.chars c (by simp [same])⟩

theorem dropWhile_append (stop : ∀ c, more.head? = some c → c.isDigit = false) :
    (digits.text ++ more).dropWhile Char.isDigit = more := by
  rw [List.dropWhile_append_of_pos digits.chars]
  cases more with
  | nil => rfl
  | cons c more => exact List.dropWhile_cons_of_neg (by simp [stop c rfl])

end Digits

/-- Data that does not begin with a single quote is read as it stands. -/
theorem literalOf_of_head {text : List Char} {value : Json} (unquoted : text.head? ≠ some '\'')
    (read : Json.read? text = some value) : Template.literalOf text = .ok (.literal value) := by
  unfold Template.literalOf
  split
  · exact absurd rfl unquoted
  · rw [read]

/-- A power as the grammar has it is passed. -/
theorem Power.afterExponent_eq {power : Power} (capital : power.capital = true)
    (unplussed : power.sign ≠ some false) : Template.afterExponent power.text = [] := by
  obtain ⟨_, sign, digits⟩ := power
  subst capital
  obtain ⟨c, others, same, digit⟩ := digits.head
  have plain : '-' ≠ c := by
    rintro rfl
    cases digit
  have passed := digits.dropWhile_append (show ∀ c, ([] : List Char).head? = some c → c.isDigit = false by simp)
  rw [List.append_nil] at passed
  have head : (digits.text.head?.map Char.isDigit).getD false = true := by
    rw [same]
    exact digit
  cases sign with
  | none =>
    have unsigned : Text.after? ['-'] digits.text = none := by simp [same, Text.after?, plain]
    have text : Power.text ⟨true, none, digits⟩ = 'E' :: digits.text := rfl
    simp only [text, Template.afterExponent, unsigned, Option.getD_none, head, if_true, passed]
  | some minus =>
    cases minus with
    | false => exact absurd rfl unplussed
    | true =>
      have signed : Text.after? ['-'] ('-' :: digits.text) = some digits.text := rfl
      have text : Power.text ⟨true, some true, digits⟩ = 'E' :: '-' :: digits.text := rfl
      simp only [text, Template.afterExponent, signed, Option.getD_some, head, if_true, passed]

namespace Number

variable {number : Number}

/-- The digits of the whole part and what stands behind them. -/
def unsigned (number : Number) : List Char := number.whole.text ++ number.behind

theorem dropSign (number : Number) :
    (Text.after? ['-'] number.text).getD number.text = number.unsigned := by
  obtain ⟨c, others, same, digit⟩ := number.whole.head
  have plain : '-' ≠ c := by
    rintro rfl
    cases digit
  unfold text
  split
  · rfl
  · have none : Text.after? ['-'] ([] ++ (number.whole.text ++ number.behind)) = none := by
      simp [same, Text.after?, plain]
    rw [none]
    rfl

theorem head_unsigned (number : Number) :
    ∃ c others, number.unsigned = c :: others ∧ c.isDigit = true := by
  obtain ⟨c, others, same, digit⟩ := number.whole.head
  exact ⟨c, others ++ number.behind, by simp [unsigned, same], digit⟩

theorem head_power (power : Option Power) :
    ∀ c, (power.elim [] Power.text).head? = some c → c.isDigit = false ∧ c ≠ '.' := by
  intro c found
  cases power with
  | none => cases found
  | some power =>
    obtain ⟨capital, sign, digits⟩ := power
    cases found
    cases capital <;> exact ⟨rfl, by simp⟩

theorem head_behind (number : Number) :
    ∀ c, number.behind.head? = some c → c.isDigit = false := by
  obtain ⟨minus, whole, fraction, power⟩ := number
  cases fraction with
  | none => exact fun c found => (head_power power c found).1
  | some digits =>
    intro c found
    cases found
    decide

theorem dropWhile_unsigned (number : Number) :
    number.unsigned.dropWhile Char.isDigit = number.behind :=
  number.whole.dropWhile_append number.head_behind

/-- Behind the whole part and the fraction stands the power. -/
theorem dropWhile_fraction (number : Number) :
    ((Text.after? ['.'] number.behind).getD number.behind).dropWhile Char.isDigit =
      number.power.elim [] Power.text := by
  obtain ⟨minus, whole, fraction, power⟩ := number
  have stop := head_power power
  cases fraction with
  | some digits => exact digits.dropWhile_append fun c found => (stop c found).1
  | none =>
    show ((Text.after? ['.'] (power.elim [] Power.text)).getD (power.elim [] Power.text)).dropWhile
      Char.isDigit = power.elim [] Power.text
    cases same : power.elim [] Power.text with
    | nil => rfl
    | cons c others =>
      rw [same] at stop
      obtain ⟨digit, point⟩ := stop c rfl
      simp [Text.after?, Ne.symm point, digit]

/-- A readable number is passed as a whole. -/
theorem afterNumber?_eq (readable : number.Readable) :
    Template.afterNumber? number.text = some [] := by
  have power : Template.afterExponent (number.power.elim [] Power.text) = [] := by
    cases same : number.power with
    | none => rfl
    | some power =>
      exact Power.afterExponent_eq (readable.capital power same) (readable.sign power same)
  obtain ⟨c, others, same, digit⟩ := number.head_unsigned
  have head : (number.unsigned.head?.map Char.isDigit).getD false = true := by
    rw [same]
    exact digit
  simp only [Template.afterNumber?, number.dropSign, head, number.dropWhile_unsigned,
    number.dropWhile_fraction, power, if_true]
  rfl

/-- A number begins with a digit or a minus sign. -/
theorem begins (number : Number) :
    ∃ c others, number.text = c :: others ∧ (c.isDigit = true ∨ c = '-') := by
  obtain ⟨c, others, same, digit⟩ := number.head_unsigned
  unfold unsigned at same
  unfold text
  split
  · exact ⟨'-', _, rfl, Or.inr rfl⟩
  · exact ⟨c, others, same, Or.inl digit⟩

theorem afterLiteral?_eq (readable : number.Readable) :
    Template.afterLiteral? 1 number.text = some [] := by
  have passed := afterNumber?_eq readable
  obtain ⟨c, others, same, begins⟩ := number.begins
  have plain : "\"'[\x7b".toList.contains c = false :=
    Text.contains_eq_false (fun d => d.isDigit = true ∨ d = '-') begins (Text.forall_mem_of_all (by decide))
  rw [same] at passed ⊢
  rw [Template.afterLiteral?_plain plain, passed]
  rfl

/-- A readable number is data. -/
theorem literalOf_eq (readable : number.Readable) : Template.literalOf number.text =
    .ok (.literal ((Json.read? number.text).getD .null)) := by
  obtain ⟨value, read⟩ := Option.isSome_iff_exists.mp readable.inRange
  obtain ⟨c, others, same, begins⟩ := number.begins
  have unquoted : c ≠ '\'' := by
    rintro rfl
    revert begins
    decide
  have data := literalOf_of_head (show number.text.head? ≠ some '\'' by simpa [same] using unquoted) read
  rw [data, read]
  rfl

end Number

/-! ### Numbers as decimals -/

/-- Digits have no sign before them. -/
theorem Digits.takeSign_eq (digits : Digits) (more : List Char) :
    Number.Decimal.takeSign (digits.text ++ more) = (false, digits.text ++ more) := by
  obtain ⟨c, others, same, digit⟩ := digits.head
  have plain : c ≠ '-' ∧ c ≠ '+' := by
    constructor
    all_goals
      rintro rfl
      cases digit
  rw [same, List.cons_append]
  exact Number.Decimal.takeSign.eq_3 _ (fun rest equal => plain.1 (List.cons.inj equal).1)
    fun rest equal => plain.2 (List.cons.inj equal).1

theorem mem_of_isDigit {c : Char} (digit : c.isDigit = true) : c ∈ "0123456789".toList := by
  have code := Text.digit_bounds digit
  have cases : c.toNat = 48 ∨ c.toNat = 49 ∨ c.toNat = 50 ∨ c.toNat = 51 ∨ c.toNat = 52 ∨
      c.toNat = 53 ∨ c.toNat = 54 ∨ c.toNat = 55 ∨ c.toNat = 56 ∨ c.toNat = 57 := by
    omega
  rw [← Char.ofNat_toNat c]
  rcases cases with h | h | h | h | h | h | h | h | h | h
  all_goals
    rw [h]
    decide

/-- A power is the exponent of a decimal, whatever its letter and sign. -/
theorem readExponent?_isSome (power : Option Power) :
    (Number.Decimal.readExponent? (power.elim [] Power.text)).isSome = true := by
  cases power with
  | none => rfl
  | some power =>
    obtain ⟨capital, sign, digits⟩ := power
    have signed : ∃ minus, Number.Decimal.takeSign
        ((sign.map fun minus => if minus then '-' else '+').toList ++ digits.text) =
          (minus, digits.text) := by
      cases sign with
      | none =>
        have unsigned := digits.takeSign_eq []
        rw [List.append_nil] at unsigned
        exact ⟨false, unsigned⟩
      | some minus => cases minus <;> exact ⟨_, rfl⟩
    obtain ⟨minus, signed⟩ := signed
    have mark : (if capital then 'E' else 'e') = 'e' ∨ (if capital then 'E' else 'e') = 'E' := by
      cases capital <;> simp
    have filled : (digits.text.isEmpty || !digits.text.all Char.isDigit) = false := by
      have nonempty := digits.nonempty
      have chars := List.all_eq_true.mpr digits.chars
      simp [nonempty, chars]
    show (Number.Decimal.readExponent? ((if capital then 'E' else 'e') ::
      ((sign.map fun minus => if minus then '-' else '+').toList ++ digits.text))).isSome = true
    rw [Number.Decimal.readExponent?, if_pos mark, signed]
    simp only [filled, Bool.false_eq_true, if_false, Option.isSome_some]

/-- The digits behind a point, and what stands behind them. -/
def splitFraction : List Char → List Char × List Char
  | '.' :: rest => (rest.takeWhile Char.isDigit, rest.dropWhile Char.isDigit)
  | rest => ([], rest)

section

variable (whole : Digits) {behind fraction : List Char} {power : Option Power}

/-- Digits with more digits behind a point, if there is one, and a power make a magnitude. -/
theorem readMagnitude?_isSome (stop : ∀ c, behind.head? = some c → c.isDigit = false)
    (split : splitFraction behind = (fraction, power.elim [] Power.text)) (minus : Bool) :
    (Number.Decimal.readMagnitude? minus (whole.text ++ behind)).isSome = true := by
  have taken : (whole.text ++ behind).takeWhile Char.isDigit = whole.text :=
    Template.Path.takeWhile_append_stop whole.chars stop
  have dropped : (whole.text ++ behind).dropWhile Char.isDigit = behind := whole.dropWhile_append stop
  have filled : whole.text.isEmpty = false := by simpa using whole.nonempty
  have parts : ∀ text : List Char, Number.Decimal.readMagnitude? minus text =
      if (text.takeWhile Char.isDigit).isEmpty &&
          (splitFraction (text.dropWhile Char.isDigit)).1.isEmpty then none
      else (Number.Decimal.readExponent? (splitFraction (text.dropWhile Char.isDigit)).2).map
        fun exponent => Number.Binary64.ofDecimal minus
          (Number.Decimal.ofDigits (text.takeWhile Char.isDigit ++
            (splitFraction (text.dropWhile Char.isDigit)).1))
          (exponent - (splitFraction (text.dropWhile Char.isDigit)).1.length) := fun _ => rfl
  rw [parts, taken, dropped, split]
  simp only [filled, Bool.false_and, Bool.false_eq_true, if_false, Option.isSome_map]
  exact readExponent?_isSome power

/-- Such a magnitude is a decimal, with a minus sign before it or without. -/
theorem decimal_isSome (minus : Bool) (stop : ∀ c, behind.head? = some c → c.isDigit = false)
    (split : splitFraction behind = (fraction, power.elim [] Power.text)) :
    (Number.Decimal.read? ((if minus then ['-'] else []) ++ (whole.text ++ behind))).isSome = true := by
  have signed : Number.Decimal.takeSign ((if minus then ['-'] else []) ++ (whole.text ++ behind)) =
      (minus, whole.text ++ behind) := by
    cases minus with
    | true => rfl
    | false => exact whole.takeSign_eq _
  obtain ⟨c, others, same, digit⟩ := whole.head
  have other : ∀ (d : Char) (word : List Char), d = 'i' ∨ d = 'n' →
      (whole.text ++ behind).map Char.toLower ≠ d :: word := by
    intro d word letter equal
    have digits : ∀ c ∈ "0123456789".toList, c.toLower ≠ 'i' ∧ c.toLower ≠ 'n' :=
      Text.forall_mem_of_all (by decide)
    obtain ⟨first, second⟩ := digits c (mem_of_isDigit digit)
    rw [same, List.cons_append, List.map_cons] at equal
    rcases letter with rfl | rfl
    · exact first (List.cons.inj equal).1
    · exact second (List.cons.inj equal).1
  have infinite : ¬ ((whole.text ++ behind).map Char.toLower = "inf".toList ∨
      (whole.text ++ behind).map Char.toLower = "infinity".toList) := by
    rintro (equal | equal)
    · exact other 'i' _ (Or.inl rfl) equal
    · exact other 'i' _ (Or.inl rfl) equal
  have nan : (whole.text ++ behind).map Char.toLower ≠ "nan".toList := other 'n' _ (Or.inr rfl)
  simp only [Number.Decimal.read?, signed, if_neg infinite, if_neg nan]
  exact readMagnitude?_isSome whole stop split minus

end

namespace Number

theorem splitFraction_behind (number : Number) :
    ∃ digits, splitFraction number.behind = (digits, number.power.elim [] Power.text) := by
  obtain ⟨minus, whole, fraction, power⟩ := number
  cases fraction with
  | some digits =>
    have rest := digits.dropWhile_append fun c found => (head_power power c found).1
    exact ⟨_, Prod.ext rfl rest⟩
  | none =>
    have stop := head_power power
    refine ⟨[], ?_⟩
    show splitFraction (power.elim [] Power.text) = ([], power.elim [] Power.text)
    unfold splitFraction
    split
    · rename_i rest same
      rw [same] at stop
      exact absurd rfl (stop '.' rfl).2
    · rfl

/-- Every number is a decimal. -/
theorem decimal_isSome (number : Number) : (Number.Decimal.read? number.text).isSome = true := by
  obtain ⟨digits, split⟩ := number.splitFraction_behind
  exact Inline.decimal_isSome number.whole number.minus number.head_behind split

end Number

/-! ### Texts in quotes -/

/-- A text in which another never begins is not changed by replacing it. -/
theorem replace_eq_self {c : Char} (others new : List Char) {text : List Char} (free : c ∉ text) :
    Text.replace (c :: others) new text = text := by
  rw [Text.replace, Text.splitOn_free free, List.intercalate_singleton]

namespace Quoted

variable (quoted : Quoted)

theorem plain_body : ∀ c ∈ quoted.body, c ≠ '"' ∧ c ≠ '\'' ∧ c ≠ '\x7b' ∧ c ≠ '\x7d' ∧ c ≠ '\\' := by
  intro c member
  have plain := quoted.plain c member
  simpa using plain

theorem quote_cases : quoted.quote = '"' ∨ quoted.quote = '\'' := by
  unfold quote
  split <;> simp

theorem afterQuoted?_eq : Template.afterQuoted? quoted.quote (quoted.body ++ [quoted.quote]) = some [] := by
  have plain := quoted.plain_body
  have quote := quoted.quote_cases
  generalize quoted.quote = mark at quote ⊢
  generalize quoted.body = body at plain ⊢
  induction body with
  | nil => rcases quote with rfl | rfl <;> rfl
  | cons c body ih =>
    obtain ⟨double, single, _, _, slash⟩ := plain c List.mem_cons_self
    have other : c ≠ mark := by
      rintro rfl
      rcases quote with rfl | rfl
      · exact double rfl
      · exact single rfl
    have further := ih fun d member => plain d (List.mem_cons_of_mem _ member)
    rw [List.cons_append, Template.afterQuoted?.eq_4 _ _ _ (by simp [slash]) (by simp [slash]), if_neg other,
      if_neg slash]
    exact further

theorem afterLiteral?_eq : Template.afterLiteral? 1 quoted.text = some [] := by
  have passed := quoted.afterQuoted?_eq
  have quote := quoted.quote_cases
  unfold text
  rcases quote with same | same
  · rw [same] at passed ⊢
    exact passed
  · rw [same] at passed ⊢
    exact passed

/-- The reader of data reads a text up to the quote behind it. -/
theorem readQuoted_eq {body : List Char} (plain : ∀ c ∈ body, c ≠ '"' ∧ c ≠ '\\' ∧ 32 ≤ c.toNat) :
    ∀ done, Json.readQuoted done (body ++ ['"']) = some (done.reverse ++ body, []) := by
  induction body with
  | nil =>
    intro done
    simp [Json.readQuoted]
  | cons c body ih =>
    intro done
    obtain ⟨quote, mark, visible⟩ := plain c List.mem_cons_self
    have further := ih fun d member => plain d (List.mem_cons_of_mem _ member)
    rw [List.cons_append, Json.readQuoted.eq_6 _ _ _ quote (by simp [mark]) (by simp [mark])
      (by simp [mark]), if_neg (by omega), further]
    simp

/-- A readable text is the data that it writes. -/
theorem read?_eq {body : List Char} (plain : ∀ c ∈ body, c ≠ '"' ∧ c ≠ '\\' ∧ 32 ≤ c.toNat) :
    Json.read? ('"' :: (body ++ ['"'])) = some (.string (String.ofList body)) := by
  have begins : Json.skipSpace ('"' :: (body ++ ['"'])) = '"' :: (body ++ ['"']) := rfl
  simp only [Json.read?, Json.readValue, begins, readQuoted_eq plain, Option.map_some]
  rfl

theorem literalOf_eq (readable : quoted.Readable) : Template.literalOf quoted.text =
    .ok (.literal (.string (String.ofList quoted.body))) := by
  have plain : ∀ c ∈ quoted.body, c ≠ '"' ∧ c ≠ '\\' ∧ 32 ≤ c.toNat := by
    intro c member
    obtain ⟨double, _, _, _, mark⟩ := quoted.plain_body c member
    exact ⟨double, mark, readable c member⟩
  have read := read?_eq plain
  unfold text quote
  split
  · exact literalOf_of_head (by simp) read
  · have inner : Template.doubleQuoted (quoted.body ++ ['\'']).dropLast =
        '"' :: (quoted.body ++ ['"']) := by
      rw [List.dropLast_concat, Template.doubleQuoted, replace_eq_self ['\''], replace_eq_self []]
      · rfl
      · exact fun member => (quoted.plain_body _ member).1 rfl
      · exact fun member => (quoted.plain_body _ member).2.2.2.2 rfl
    simp only [Template.literalOf, inner, read]

end Quoted

end Stencil.Inline
