import Stencil.Template.Tag

set_option autoImplicit false

/-!
Literals in a call. What the reader of literals passes of a text it passes as well where more stands
behind the text (`literalReaders`), if a call goes on there or the text has the end of a tag in it: each
of its parts ends at a character of its own or at one that cannot follow it.
-/

namespace Stencil.Template

/-! ### What follows an operand -/

/-- A character with which an argument may begin. -/
def beginsArgument (c : Char) : Bool := !isSpace c && c != '=' && c != ',' && c != ']'

/-- What stands after an operand in a call: the end of the call or of the tag, or a space and a further
argument. -/
inductive Follows : List Char → Prop where
  | callEnd (rest : List Char) : Follows (')' :: rest)
  | tagEnd (rest : List Char) : Follows ('\x7d' :: rest)
  | argument {c : Char} (rest : List Char) (begins : beginsArgument c = true) :
      Follows (' ' :: c :: rest)

def isDelimiter (c : Char) : Bool := c == ')' || c == '\x7d' || c == ' '

section

variable {more : List Char}

theorem Follows.exists_delimiter (follows : Follows more) :
    ∃ c rest, more = c :: rest ∧ isDelimiter c = true := by
  cases follows with
  | callEnd rest => exact ⟨')', rest, rfl, rfl⟩
  | tagEnd rest => exact ⟨'\x7d', rest, rfl, rfl⟩
  | argument rest begins => exact ⟨' ', _, rfl, rfl⟩

/-- No delimiter passes a test that fails on each of the three. -/
theorem Follows.exists_not (follows : Follows more) (test : Char → Bool)
    (fails : test ')' = false ∧ test '\x7d' = false ∧ test ' ' = false) :
    ∃ c rest, more = c :: rest ∧ test c = false := by
  cases follows with
  | callEnd rest => exact ⟨')', rest, rfl, fails.1⟩
  | tagEnd rest => exact ⟨'\x7d', rest, rfl, fails.2.1⟩
  | argument rest begins => exact ⟨' ', _, rfl, fails.2.2⟩

end

/-- A text and more behind it, so that no name or number runs from one into the other: a delimiter begins
what follows, or the end of a tag stands in the text. -/
inductive Seam : List Char → List Char → Prop where
  | follows {more : List Char} (text : List Char) (follows : Follows more) : Seam text more
  | closed {text : List Char} (more : List Char) (closes : '\x7d' ∈ text) : Seam text more

namespace Seam

variable {text rest more : List Char}

theorem of_suffix (seam : Seam rest more) (suffix : rest <:+ text) : Seam text more := by
  cases seam with
  | follows rest follows => exact Seam.follows text follows
  | closed more closes => exact Seam.closed more (suffix.subset closes)

/-- A text without characters is followed by a delimiter. -/
theorem follows_of_nil (seam : Seam [] more) : Follows more := by
  cases seam with
  | follows text follows => exact follows
  | closed more closes => cases closes

theorem tail {c : Char} (seam : Seam (c :: text) more) (other : c ≠ '\x7d') : Seam text more := by
  cases seam with
  | follows text follows => exact Seam.follows _ follows
  | closed more closes =>
    rcases List.mem_cons.mp closes with same | closes
    · exact absurd same.symm other
    · exact Seam.closed more closes

/-- Reading up to a delimiter does not lose the seam. -/
theorem dropWhile (seam : Seam text more) (test : Char → Bool) (fails : test '\x7d' = false) :
    Seam (text.dropWhile test) more := by
  cases seam with
  | follows text follows => exact Seam.follows _ follows
  | closed more closes => exact Seam.closed more (Text.mem_dropWhile closes fails)

/-- What is left behind a word without delimiters keeps the seam. -/
theorem behind (seam : Seam text more) (word : List Char) (chars : word.any isDelimiter = false)
    (found : Text.after? word text = some rest) : Seam rest more := by
  cases seam with
  | follows text follows => exact Seam.follows rest follows
  | closed more closes =>
    rw [Text.after?_eq_some_iff.mp found, List.mem_append] at closes
    rcases closes with inside | left
    · have plain := List.any_eq_false.mp chars _ inside
      exact absurd rfl plain
    · exact Seam.closed more left

theorem optional (seam : Seam text more) (word : List Char) (chars : word.any isDelimiter = false) :
    Seam ((Text.after? word text).getD text) more := by
  cases found : Text.after? word text with
  | none => exact seam
  | some rest => exact seam.behind word chars found

/-- No delimiter passes a test that fails on each of the three, so one stops in the text or right behind
it. -/
theorem stops (seam : Seam text more) (test : Char → Bool)
    (fails : test ')' = false ∧ test '\x7d' = false ∧ test ' ' = false) :
    text.dropWhile test ≠ [] ∨ ∃ c others, more = c :: others ∧ test c = false := by
  cases seam with
  | follows text follows => exact Or.inr (follows.exists_not test fails)
  | closed more closes =>
    exact Or.inl (List.ne_nil_of_mem (Text.mem_dropWhile closes fails.2.1))

theorem dropWhile_append (seam : Seam text more) (test : Char → Bool)
    (fails : test ')' = false ∧ test '\x7d' = false ∧ test ' ' = false) :
    (text ++ more).dropWhile test = text.dropWhile test ++ more := by
  rw [List.dropWhile_append]
  by_cases empty : text.dropWhile test = []
  · rcases seam.stops test fails with inside | ⟨c, others, rfl, stop⟩
    · exact absurd empty inside
    · simp [empty, stop]
  · simp [empty]

theorem takeWhile_append (seam : Seam text more) (test : Char → Bool)
    (fails : test ')' = false ∧ test '\x7d' = false ∧ test ' ' = false) :
    (text ++ more).takeWhile test = text.takeWhile test := by
  have whole := List.takeWhile_append_dropWhile (p := test) (l := text ++ more)
  rw [seam.dropWhile_append test fails, ← List.append_assoc] at whole
  have same := List.append_cancel_right whole
  exact List.append_cancel_right (same.trans List.takeWhile_append_dropWhile.symm)

end Seam

theorem Follows.seam {more : List Char} (follows : Follows more) (text : List Char) : Seam text more :=
  Seam.follows text follows

theorem nameChar_fails :
    isNameChar ')' = false ∧ isNameChar '\x7d' = false ∧ isNameChar ' ' = false := by
  decide

theorem digit_fails :
    Char.isDigit ')' = false ∧ Char.isDigit '\x7d' = false ∧ Char.isDigit ' ' = false := by
  decide

theorem not_isNameChar_of_isSpace {c : Char} (space : isSpace c = true) : isNameChar c = false := by
  simp only [isSpace, Bool.or_eq_true, beq_iff_eq] at space
  rcases space with ((rfl | rfl) | rfl) | rfl <;> decide

section

variable {text more : List Char} (seam : Seam text more)

include seam

/-- A word without delimiters is found in a text alone. -/
theorem Seam.after?_append (word : List Char) (chars : word.any isDelimiter = false) :
    Text.after? word (text ++ more) = (Text.after? word text).map (· ++ more) := by
  induction word generalizing text with
  | nil => rfl
  | cons c word ih =>
    obtain ⟨plain, others⟩ : isDelimiter c = false ∧ word.any isDelimiter = false := by
      simpa using chars
    cases text with
    | nil =>
      obtain ⟨d, rest, rfl, delimits⟩ := seam.follows_of_nil.exists_delimiter
      have differs : c ≠ d := by
        rintro rfl
        simp [plain] at delimits
      simp [Text.after?, differs]
    | cons e text =>
      by_cases same : c = e
      · subst same
        have single : [c].any isDelimiter = false := by simp [plain]
        have inner := ih (seam.behind [c] single (by simp [Text.after?] : _ = some text)) others
        simpa [Text.after?] using inner
      · simp [Text.after?, same]

/-- The first of some words that a text begins with is the same where more follows. -/
theorem Seam.findWord?_append {words : List String}
    (chars : (words.any fun word => word.toList.any isDelimiter) = false) :
    (words.findSome? fun word => Text.after? word.toList (text ++ more)) =
      (words.findSome? fun word => Text.after? word.toList text).map (· ++ more) := by
  induction words with
  | nil => rfl
  | cons word words ih =>
    obtain ⟨first, others⟩ := Bool.or_eq_false_iff.mp (List.any_cons.symm.trans chars)
    rw [List.findSome?_cons, List.findSome?_cons, seam.after?_append _ first, ih others]
    cases Text.after? word.toList text <;> rfl

theorem Seam.endsName_append : endsName (text ++ more) = endsName text := by
  cases text with
  | nil =>
    obtain ⟨c, rest, rfl, fails⟩ := seam.follows_of_nil.exists_not isNameChar nameChar_fails
    simp [endsName, fails]
  | cons c text => rfl

/-! ### Literals -/

theorem Seam.digitHead_append : ((text ++ more).head?.map Char.isDigit).getD false =
    (text.head?.map Char.isDigit).getD false := by
  cases text with
  | nil =>
    obtain ⟨c, rest, rfl, fails⟩ := seam.follows_of_nil.exists_not Char.isDigit digit_fails
    simp [fails]
  | cons c text => rfl

theorem Seam.optional_append (word : List Char) (chars : word.any isDelimiter = false) :
    (Text.after? word (text ++ more)).getD (text ++ more) =
      (Text.after? word text).getD text ++ more := by
  rw [seam.after?_append word chars]
  cases Text.after? word text <;> rfl

theorem Seam.digits_append : (text ++ more).dropWhile Char.isDigit =
    text.dropWhile Char.isDigit ++ more :=
  seam.dropWhile_append _ digit_fails

theorem Seam.digits : Seam (text.dropWhile Char.isDigit) more := seam.dropWhile _ digit_fails.2.1

theorem Seam.afterExponent_append : Seam (afterExponent text) more ∧
    afterExponent (text ++ more) = afterExponent text ++ more := by
  have other : ∀ {c rest}, c ≠ 'E' → afterExponent (c :: rest) = c :: rest := by
    intro c rest differs
    unfold afterExponent
    split
    · rename_i same
      cases same
      exact absurd rfl differs
    · rfl
  cases text with
  | nil =>
    obtain ⟨c, rest, rfl, fails⟩ := seam.follows_of_nil.exists_not (· == 'E') (by decide)
    exact ⟨seam, other (by simpa using fails)⟩
  | cons c text =>
    by_cases exponent : c = 'E'
    · subst exponent
      have inner : Seam text more := seam.behind ['E'] (by decide) rfl
      have sign := inner.optional ['-'] (by decide)
      simp only [List.cons_append, afterExponent, inner.optional_append ['-'] (by decide),
        sign.digitHead_append]
      split
      · exact ⟨sign.digits, sign.digits_append⟩
      · exact ⟨seam, rfl⟩
    · rw [List.cons_append, other exponent, other exponent, List.cons_append]
      exact ⟨seam, rfl⟩

theorem Seam.afterNumber?_append :
    afterNumber? (text ++ more) = (afterNumber? text).map (· ++ more) := by
  have sign := seam.optional ['-'] (by decide)
  have point := sign.digits.optional ['.'] (by decide)
  obtain ⟨ends, exponent⟩ := point.digits.afterExponent_append
  simp only [afterNumber?, seam.optional_append ['-'] (by decide), sign.digitHead_append,
    sign.digits_append, sign.digits.optional_append ['.'] (by decide),
    point.digits_append, exponent, ends.endsName_append]
  split
  · split <;> rfl
  · rfl

theorem Seam.afterWord?_append :
    afterWord? (text ++ more) = (afterWord? text).map (· ++ more) := by
  rw [afterWord?, afterWord?, seam.findWord?_append rfl]
  cases found : ["null", "true", "false"].findSome? fun word => Text.after? word.toList text with
  | none => rfl
  | some rest =>
    obtain ⟨word, member, after⟩ := List.exists_of_findSome?_eq_some found
    have chars : word.toList.any isDelimiter = false := by
      simp only [List.mem_cons, List.not_mem_nil, or_false] at member
      rcases member with rfl | rfl | rfl <;> decide
    rw [Option.map_some, Option.filter_some, Option.filter_some,
      (seam.behind _ chars after).endsName_append]
    by_cases ends : endsName rest = true <;> simp [ends]

end

/-- What remains of a text in quotes that ends is what remains of it where more follows. -/
theorem afterQuoted?_append {quote : Char} (mark : quote = '"' ∨ quote = '\'') {text rest : List Char}
    (read : afterQuoted? quote text = some rest) (more : List Char) :
    rest.length < text.length ∧ rest <:+ text ∧
      afterQuoted? quote (text ++ more) = some (rest ++ more) := by
  have apart : quote ≠ 'u' ∧ quote ≠ '\\' := by rcases mark with rfl | rfl <;> decide
  fun_induction afterQuoted? quote text with
  | case1 => cases read
  | case2 a b c d text hex ih =>
    obtain ⟨shorter, suffix, same⟩ := ih read
    refine ⟨by simp only [List.length_cons]; omega, ?_, ?_⟩
    · exact suffix.trans ⟨['\\', 'u', a, b, c, d], rfl⟩
    · simpa [afterQuoted?, hex] using same
  | case3 => cases read
  | case4 c text plain escape ih =>
    obtain ⟨shorter, suffix, same⟩ := ih read
    have short : c ≠ 'u' := by
      rintro rfl
      simp [apart.1.symm] at escape
    refine ⟨by simp only [List.length_cons]; omega, suffix.trans ⟨['\\', c], rfl⟩, ?_⟩
    rw [List.cons_append, List.cons_append,
      afterQuoted?.eq_3 _ _ _ fun _ _ _ _ _ same => absurd same short, if_pos escape]
    exact same
  | case5 => cases read
  | case6 text long escape =>
    cases read
    refine ⟨by simp, List.suffix_cons _ _, ?_⟩
    rw [List.cons_append, afterQuoted?.eq_4 _ _ _ (fun _ _ _ _ _ same => absurd same apart.2)
      (fun _ _ same => absurd same apart.2), if_pos rfl]
  | case7 => cases read
  | case8 c text long escape ends plain ih =>
    obtain ⟨shorter, suffix, same⟩ := ih read
    refine ⟨by simp only [List.length_cons]; omega, suffix.trans (List.suffix_cons _ _), ?_⟩
    rw [List.cons_append, afterQuoted?.eq_4 _ _ _ (fun _ _ _ _ _ same => absurd same plain)
      (fun _ _ same => absurd same plain), if_neg ends, if_neg plain]
    exact same

/-! What remains is always shorter, and where more follows it remains in front of that. -/

theorem skip_suffix (text : List Char) : skip text <:+ text := List.dropWhile_suffix isSpace

theorem length_skip_le (text : List Char) : (skip text).length ≤ text.length :=
  (skip_suffix text).length_le

theorem skip_append {text : List Char} (some : skip text ≠ []) (more : List Char) :
    skip (text ++ more) = skip text ++ more := by
  unfold skip at some ⊢
  rw [List.dropWhile_append]
  simp [some]

theorem token?_append {word : String} (nonempty : word.toList ≠ []) {text rest : List Char}
    (read : token? word text = some rest) (more : List Char) :
    rest.length < text.length ∧ rest <:+ text ∧
      token? word (text ++ more) = some (rest ++ more) := by
  have same : skip text = word.toList ++ rest := Text.after?_eq_some_iff.mp read
  have begins : skip text ≠ [] := by simp [same, nonempty]
  have shorter := length_skip_le text
  have positive := List.length_pos_iff.mpr nonempty
  refine ⟨?_, ?_, ?_⟩
  · rw [same, List.length_append] at shorter
    omega
  · exact (List.suffix_append _ rest).trans (same ▸ skip_suffix text)
  · rw [token?, skip_append begins, same, List.append_assoc]
    exact Text.after?_eq_some_iff.mpr rfl

/-- A character with which a literal may begin. -/
def beginsLiteral (c : Char) : Bool := c.isDigit || "\"'[\x7b-ntf".toList.contains c

theorem begins_of_afterNumber? {text rest : List Char} (read : afterNumber? text = some rest) :
    ∃ c others, text = c :: others ∧ beginsLiteral c = true := by
  cases text with
  | nil => cases read
  | cons c text =>
    refine ⟨c, text, rfl, ?_⟩
    by_cases minus : c = '-'
    · subst minus
      decide
    · have digits : (Text.after? ['-'] (c :: text)).getD (c :: text) = c :: text := by
        simp [Text.after?, Ne.symm minus]
      simp only [afterNumber?, digits] at read
      by_cases digit : c.isDigit = true
      · simp [beginsLiteral, digit]
      · simp [digit] at read

theorem afterWord?_split {text rest : List Char} (read : afterWord? text = some rest) :
    text = "null".toList ++ rest ∨ text = "true".toList ++ rest ∨ text = "false".toList ++ rest := by
  obtain ⟨found, _⟩ := Option.filter_eq_some_iff.mp read
  obtain ⟨word, member, after⟩ := List.exists_of_findSome?_eq_some found
  have same := Text.after?_eq_some_iff.mp after
  simp only [List.mem_cons, List.not_mem_nil, or_false] at member
  rcases member with rfl | rfl | rfl
  · exact Or.inl same
  · exact Or.inr (Or.inl same)
  · exact Or.inr (Or.inr same)

theorem begins_of_afterWord? {text rest : List Char} (read : afterWord? text = some rest) :
    ∃ c others, text = c :: others ∧ beginsLiteral c = true := by
  rcases afterWord?_split read with same | same | same
  · exact ⟨'n', _, same, by decide⟩
  · exact ⟨'t', _, same, by decide⟩
  · exact ⟨'f', _, same, by decide⟩

/-- The marks with which a literal may begin. -/
theorem cases_of_mark {c : Char} (mark : "\"'[\x7b".toList.contains c = true) :
    c = '"' ∨ c = '\'' ∨ c = '[' ∨ c = '\x7b' := by
  simpa [List.contains_iff_mem] using mark

theorem afterLiteral?_plain {c : Char} (plain : "\"'[\x7b".toList.contains c = false) (fuel : Nat)
    (text : List Char) : afterLiteral? (fuel + 1) (c :: text) =
      (afterNumber? (c :: text)).or (afterWord? (c :: text)) := by
  unfold afterLiteral?
  split
  · rename_i same; cases same; cases plain
  · rename_i same; cases same; cases plain
  · rename_i same; cases same; cases plain
  · rename_i same; cases same; cases plain
  · rfl

theorem begins_of_afterLiteral? {fuel : Nat} {text rest : List Char}
    (read : afterLiteral? fuel text = some rest) :
    ∃ c others, text = c :: others ∧ beginsLiteral c = true := by
  cases fuel with
  | zero => cases read
  | succ fuel =>
    unfold afterLiteral? at read
    split at read
    · exact ⟨_, _, rfl, by decide⟩
    · exact ⟨_, _, rfl, by decide⟩
    · exact ⟨_, _, rfl, by decide⟩
    · exact ⟨_, _, rfl, by decide⟩
    · rcases Option.or_eq_some_iff.mp read with number | ⟨_, word⟩
      · exact begins_of_afterNumber? number
      · exact begins_of_afterWord? word

theorem afterLiteral?_eq_none {c : Char} (other : beginsLiteral c = false) (fuel : Nat)
    (text : List Char) : afterLiteral? fuel (c :: text) = none := by
  cases read : afterLiteral? fuel (c :: text) with
  | none => rfl
  | some rest =>
    obtain ⟨d, others, same, begins⟩ := begins_of_afterLiteral? read
    cases same
    simp [other] at begins

/-- A reader leaves an end of the text, and leaves the same where more follows, with as much fuel as it
passes characters. -/
structure Passes (read : Nat → List Char → Option (List Char)) (text rest : List Char) : Prop where
  shorter : rest.length < text.length
  suffix : rest <:+ text
  append : ∀ more, Seam rest more → ∀ fuel, text.length ≤ fuel + rest.length →
    read fuel (text ++ more) = some (rest ++ more)

/-- What passes all that it reads does so after spaces, too. -/
theorem Passes.skip {read : Nat → List Char → Option (List Char)} {text rest : List Char}
    (passes : Passes read (skip text) rest) :
    Passes (fun fuel text => read fuel (Template.skip text)) text rest := by
  have shorter := passes.shorter
  have text_le := length_skip_le text
  have begins : Template.skip text ≠ [] := by
    intro empty
    simp [empty] at shorter
  refine ⟨by omega, passes.suffix.trans (skip_suffix text), fun more seam fuel covers => ?_⟩
  show read fuel (Template.skip (text ++ more)) = _
  rw [skip_append begins]
  exact passes.append more seam fuel (by omega)

/-! ### Parts between brackets -/

/-- Reads further parts, each after a comma, and the bracket that closes them. -/
structure ReadsFurther (part further : Nat → List Char → Option (List Char)) (close : String) :
    Prop where
  zero : ∀ text, further 0 text = none
  succ : ∀ fuel text, further (fuel + 1) text =
    match (token? "," text).bind (part fuel) with
    | some rest => further fuel rest
    | none => token? close text

section

variable {part further : Nat → List Char → Option (List Char)} {close : String}
  (reads : ReadsFurther part further close)

include reads

/-- Further parts begin with a comma or the bracket. -/
theorem ReadsFurther.begins {fuel : Nat} {text rest : List Char}
    (read : further fuel text = some rest) :
    ∃ others, Template.skip text = ',' :: others ∨ Template.skip text = close.toList ++ others := by
  cases fuel with
  | zero =>
    rw [reads.zero] at read
    cases read
  | succ fuel =>
    cases comma : token? "," text with
    | some after => exact ⟨after, Or.inl (Text.after?_eq_some_iff.mp comma)⟩
    | none =>
      rw [reads.succ, comma] at read
      exact ⟨rest, Or.inr (Text.after?_eq_some_iff.mp read)⟩

theorem ReadsFurther.passes {c : Char} (single : close.toList = [c]) (other : c ≠ ',') {fuel : Nat}
    (parts : ∀ text rest, part fuel text = some rest → Passes part text rest)
    (furthers : ∀ text rest, further fuel text = some rest → Passes further text rest)
    {text rest : List Char} (read : further (fuel + 1) text = some rest) :
    Passes further text rest := by
  rw [reads.succ] at read
  cases comma : (token? "," text).bind (part fuel) with
  | some after =>
    obtain ⟨start, found, first⟩ := Option.bind_eq_some_iff.mp comma
    rw [comma] at read
    have head := parts _ _ first
    have tail := furthers _ _ read
    obtain ⟨start_lt, begin, _⟩ := token?_append (by decide) found []
    have after_lt := head.shorter
    have rest_lt := tail.shorter
    have whole : rest <:+ text := tail.suffix.trans (head.suffix.trans begin)
    refine ⟨by omega, whole, fun more seam enough covers => ?_⟩
    cases enough with
    | zero => omega
    | succ enough =>
      have next : (token? "," (text ++ more)).bind (part enough) = some (after ++ more) := by
        rw [(token?_append (by decide) found more).2.2, Option.bind_some]
        exact head.append more (seam.of_suffix tail.suffix) enough (by omega)
      rw [reads.succ, next]
      exact tail.append more seam enough (by omega)
  | none =>
    rw [comma] at read
    have nonempty : close.toList ≠ [] := by simp [single]
    obtain ⟨shorter, suffix, _⟩ := token?_append nonempty read []
    refine ⟨shorter, suffix, fun more seam enough covers => ?_⟩
    cases enough with
    | zero => omega
    | succ enough =>
      have closed := (token?_append nonempty read more).2.2
      have same : Template.skip (text ++ more) = close.toList ++ (rest ++ more) :=
        Text.after?_eq_some_iff.mp closed
      have next : token? "," (text ++ more) = none := by
        rw [token?, same, single]
        simp [Text.after?, Ne.symm other]
      rw [reads.succ, next, Option.bind_none]
      exact closed

/-- A literal between brackets, of which the first part may be missing. -/
theorem ReadsFurther.passes_opened {mark c : Char} (single : close.toList = [c])
    (opened : ∀ fuel text, afterLiteral? (fuel + 1) (mark :: text) =
      further fuel ((part fuel text).getD text))
    (stops : ∀ d, d = ',' ∨ d = c → ∀ fuel text others, Template.skip text = d :: others →
      part fuel text = none) {fuel : Nat}
    (parts : ∀ text rest, part fuel text = some rest → Passes part text rest)
    (furthers : ∀ text rest, further fuel text = some rest → Passes further text rest)
    {text rest : List Char} (read : afterLiteral? (fuel + 1) (mark :: text) = some rest) :
    Passes afterLiteral? (mark :: text) rest := by
  rw [opened] at read
  have tail := furthers _ _ read
  have rest_lt := tail.shorter
  cases first : part fuel text with
  | some after =>
    rw [first, Option.getD_some] at tail rest_lt
    have head := parts _ _ first
    have after_lt := head.shorter
    have whole : rest <:+ mark :: text :=
      (tail.suffix.trans head.suffix).trans (List.suffix_cons _ _)
    refine ⟨by simp only [List.length_cons]; omega, whole, fun more seam enough covers => ?_⟩
    simp only [List.length_cons] at covers
    cases enough with
    | zero => omega
    | succ enough =>
      have item := head.append more (seam.of_suffix tail.suffix) enough (by omega)
      rw [List.cons_append, opened, item, Option.getD_some]
      exact tail.append more seam enough (by omega)
  | none =>
    rw [first, Option.getD_none] at read tail rest_lt
    have missing : ∀ enough more, part enough (text ++ more) = none := by
      intro enough more
      obtain ⟨others, comma | closed⟩ := reads.begins read
      · refine stops ',' (Or.inl rfl) enough _ (others ++ more) ?_
        rw [skip_append (by simp [comma]), comma]
        rfl
      · rw [single] at closed
        refine stops c (Or.inr rfl) enough _ (others ++ more) ?_
        rw [skip_append (by simp [closed]), closed]
        rfl
    have whole : rest <:+ mark :: text := tail.suffix.trans (List.suffix_cons _ _)
    refine ⟨by simp only [List.length_cons]; omega, whole, fun more seam enough covers => ?_⟩
    simp only [List.length_cons] at covers
    cases enough with
    | zero => omega
    | succ enough =>
      rw [List.cons_append, opened, missing, Option.getD_none]
      exact tail.append more seam enough (by omega)

end

/-- Drops an item after spaces. -/
def afterItem? (fuel : Nat) (text : List Char) : Option (List Char) := afterLiteral? fuel (skip text)

theorem readsFurther_items : ReadsFurther afterItem? afterItems? "]" := ⟨fun _ => rfl, fun _ _ => rfl⟩

theorem readsFurther_fields : ReadsFurther afterField? afterFields? "\x7d" :=
  ⟨fun _ => rfl, fun _ _ => rfl⟩

/-! ### Keys -/

/-- Drops the key of a field. -/
def afterKey? : List Char → Option (List Char)
  | '"' :: rest => afterQuoted? '"' rest
  | '\'' :: rest => afterQuoted? '\'' rest
  | _ => none

theorem afterField?_succ (fuel : Nat) (text : List Char) : afterField? (fuel + 1) text =
    (((afterKey? (skip text)).bind (token? ":")).map skip).bind (afterLiteral? fuel) := rfl

theorem afterKey?_eq_none {c : Char} (unquoted : c ≠ '"' ∧ c ≠ '\'') (text : List Char) :
    afterKey? (c :: text) = none := by
  unfold afterKey?
  split
  · rename_i same; cases same; exact absurd rfl unquoted.1
  · rename_i same; cases same; exact absurd rfl unquoted.2
  · rfl

theorem afterKey?_append {text rest : List Char} (read : afterKey? text = some rest)
    (more : List Char) :
    rest.length < text.length ∧ rest <:+ text ∧ afterKey? (text ++ more) = some (rest ++ more) := by
  unfold afterKey? at read
  split at read
  · obtain ⟨shorter, suffix, same⟩ := afterQuoted?_append (Or.inl rfl) read more
    exact ⟨by simp only [List.length_cons]; omega, suffix.trans (List.suffix_cons _ _), same⟩
  · obtain ⟨shorter, suffix, same⟩ := afterQuoted?_append (Or.inr rfl) read more
    exact ⟨by simp only [List.length_cons]; omega, suffix.trans (List.suffix_cons _ _), same⟩
  · cases read

theorem afterField?_eq_none {text others : List Char} {c : Char} (begins : skip text = c :: others)
    (unquoted : c ≠ '"' ∧ c ≠ '\'') (fuel : Nat) : afterField? fuel text = none := by
  cases fuel with
  | zero => rfl
  | succ fuel => rw [afterField?_succ, begins, afterKey?_eq_none unquoted, Option.bind_none,
      Option.map_none, Option.bind_none]

/-! ### The readers of literals -/

/-- The four readers of literals call each other with less fuel, so what they pass is settled
together. -/
structure LiteralReaders (fuel : Nat) : Prop where
  literal : ∀ text rest, afterLiteral? fuel text = some rest → Passes afterLiteral? text rest
  items : ∀ text rest, afterItems? fuel text = some rest → Passes afterItems? text rest
  field : ∀ text rest, afterField? fuel text = some rest → Passes afterField? text rest
  fields : ∀ text rest, afterFields? fuel text = some rest → Passes afterFields? text rest

theorem passes_quoted {quote : Char} (mark : quote = '"' ∨ quote = '\'') {fuel : Nat}
    (reads : ∀ fuel text, afterLiteral? (fuel + 1) (quote :: text) = afterQuoted? quote text)
    {text rest : List Char} (read : afterLiteral? (fuel + 1) (quote :: text) = some rest) :
    Passes afterLiteral? (quote :: text) rest := by
  rw [reads] at read
  obtain ⟨shorter, suffix, _⟩ := afterQuoted?_append mark read []
  have whole : rest <:+ quote :: text := suffix.trans (List.suffix_cons _ _)
  refine ⟨by simp only [List.length_cons]; omega, whole, fun more seam enough covers => ?_⟩
  simp only [List.length_cons] at covers
  cases enough with
  | zero => omega
  | succ enough =>
    rw [List.cons_append, reads]
    exact (afterQuoted?_append mark read more).2.2

theorem optional_suffix (word text : List Char) : (Text.after? word text).getD text <:+ text := by
  cases after : Text.after? word text with
  | none => exact List.suffix_rfl
  | some rest => exact ⟨word, (Text.after?_eq_some_iff.mp after).symm⟩

theorem afterExponent_suffix (text : List Char) : afterExponent text <:+ text := by
  unfold afterExponent
  split
  · rename_i rest
    dsimp only
    split
    · have sign := optional_suffix ['-'] rest
      exact ((List.dropWhile_suffix Char.isDigit).trans sign).trans (List.suffix_cons 'E' rest)
    · exact List.suffix_rfl
  · exact List.suffix_rfl

/-- A number leaves less than all behind its first character. -/
theorem afterNumber?_suffix {text rest : List Char} (read : afterNumber? text = some rest) :
    ∃ c others, text = c :: others ∧ rest <:+ others := by
  have sign := optional_suffix ['-'] text
  unfold afterNumber? at read
  generalize (Text.after? ['-'] text).getD text = digits at read sign
  cases digits with
  | nil => cases read
  | cons d digits =>
    by_cases digit : d.isDigit = true
    · simp only [List.head?_cons, Option.map_some, Option.getD_some, digit, if_true,
        List.dropWhile_cons_of_pos digit] at read
      split at read
      · cases read
        obtain ⟨c, others, rfl⟩ := List.exists_cons_of_ne_nil (List.ne_nil_of_mem (sign.subset
          List.mem_cons_self))
        have behind : digits <:+ others := by
          rcases List.suffix_cons_iff.mp sign with same | shorter
          · cases same
            exact List.suffix_rfl
          · exact (List.suffix_cons d digits).trans shorter
        have whole : digits.dropWhile Char.isDigit <:+ digits := List.dropWhile_suffix Char.isDigit
        have point := (optional_suffix ['.'] (digits.dropWhile Char.isDigit)).trans whole
        have fraction := (List.dropWhile_suffix Char.isDigit).trans point
        exact ⟨c, others, rfl, ((afterExponent_suffix _).trans fraction).trans behind⟩
      · cases read
    · simp [digit] at read

theorem afterWord?_suffix {text rest : List Char} (read : afterWord? text = some rest) :
    ∃ c others, text = c :: others ∧ rest <:+ others := by
  rcases afterWord?_split read with rfl | rfl | rfl
  · exact ⟨'n', _, rfl, List.suffix_append "ull".toList rest⟩
  · exact ⟨'t', _, rfl, List.suffix_append "rue".toList rest⟩
  · exact ⟨'f', _, rfl, List.suffix_append "alse".toList rest⟩

theorem passes_plain {c : Char} (plain : "\"'[\x7b".toList.contains c = false) {fuel : Nat}
    {text rest : List Char} (read : afterLiteral? (fuel + 1) (c :: text) = some rest) :
    Passes afterLiteral? (c :: text) rest := by
  rw [afterLiteral?_plain plain] at read
  have behind : rest <:+ text := by
    rcases Option.or_eq_some_iff.mp read with number | ⟨_, word⟩
    · obtain ⟨d, others, same, suffix⟩ := afterNumber?_suffix number
      cases same
      exact suffix
    · obtain ⟨d, others, same, suffix⟩ := afterWord?_suffix word
      cases same
      exact suffix
  have shorter := behind.length_le
  have whole : rest <:+ c :: text := behind.trans (List.suffix_cons c text)
  refine ⟨by simp only [List.length_cons]; omega, whole, fun more seam enough covers => ?_⟩
  simp only [List.length_cons] at covers
  have seam := seam.of_suffix whole
  cases enough with
  | zero => omega
  | succ enough =>
    rw [List.cons_append, afterLiteral?_plain plain, ← List.cons_append, seam.afterNumber?_append,
      seam.afterWord?_append, ← Option.map_or, read]
    rfl

namespace LiteralReaders

variable {fuel : Nat} (readers : LiteralReaders fuel)

include readers

theorem item (text rest : List Char) (read : afterItem? fuel text = some rest) :
    Passes afterItem? text rest :=
  (readers.literal _ _ read).skip

theorem passes_array {text rest : List Char}
    (read : afterLiteral? (fuel + 1) ('[' :: text) = some rest) :
    Passes afterLiteral? ('[' :: text) rest := by
  refine readsFurther_items.passes_opened rfl (fun _ _ => rfl) ?_ readers.item readers.items read
  intro d closes enough text others begins
  rw [afterItem?, begins]
  exact afterLiteral?_eq_none (by rcases closes with rfl | rfl <;> decide) enough others

theorem passes_object {text rest : List Char}
    (read : afterLiteral? (fuel + 1) ('\x7b' :: text) = some rest) :
    Passes afterLiteral? ('\x7b' :: text) rest := by
  refine readsFurther_fields.passes_opened rfl (fun _ _ => rfl) ?_ readers.field readers.fields read
  intro d closes enough text others begins
  exact afterField?_eq_none begins (by rcases closes with rfl | rfl <;> decide) enough

theorem passes_literal (text rest : List Char) (read : afterLiteral? (fuel + 1) text = some rest) :
    Passes afterLiteral? text rest := by
  cases text with
  | nil =>
    obtain ⟨c, others, same, _⟩ := begins_of_afterLiteral? read
    cases same
  | cons c text =>
    cases plain : "\"'[\x7b".toList.contains c with
    | false => exact passes_plain plain read
    | true =>
      rcases cases_of_mark plain with rfl | rfl | rfl | rfl
      · exact passes_quoted (Or.inl rfl) (fun _ _ => rfl) read
      · exact passes_quoted (Or.inr rfl) (fun _ _ => rfl) read
      · exact readers.passes_array read
      · exact readers.passes_object read

theorem passes_field (text rest : List Char) (read : afterField? (fuel + 1) text = some rest) :
    Passes afterField? text rest := by
  rw [afterField?_succ] at read
  obtain ⟨value, mapped, literal⟩ := Option.bind_eq_some_iff.mp read
  obtain ⟨start, colon, rfl⟩ := Option.map_eq_some_iff.mp mapped
  obtain ⟨after, key, colon⟩ := Option.bind_eq_some_iff.mp colon
  have passes := (readers.literal _ _ literal).skip
  have shorter := passes.shorter
  obtain ⟨start_lt, start_suffix, _⟩ := token?_append (by decide) colon []
  obtain ⟨after_lt, after_suffix, _⟩ := afterKey?_append key []
  have text_le := length_skip_le text
  have whole : rest <:+ text :=
    (passes.suffix.trans start_suffix).trans (after_suffix.trans (skip_suffix text))
  refine ⟨by omega, whole, fun more seam enough covers => ?_⟩
  cases enough with
  | zero => omega
  | succ enough =>
    have begins : skip text ≠ [] := by
      intro empty
      simp [empty] at after_lt
    rw [afterField?_succ, skip_append begins, (afterKey?_append key more).2.2, Option.bind_some,
      (token?_append (by decide) colon more).2.2, Option.map_some, Option.bind_some]
    exact passes.append more seam enough (by omega)

theorem succ : LiteralReaders (fuel + 1) where
  literal := readers.passes_literal
  items _ _ := readsFurther_items.passes rfl (by decide) readers.item readers.items
  field := readers.passes_field
  fields _ _ := readsFurther_fields.passes rfl (by decide) readers.field readers.fields

end LiteralReaders

theorem literalReaders (fuel : Nat) : LiteralReaders fuel := by
  induction fuel with
  | zero =>
    refine ⟨?_, ?_, ?_, ?_⟩
    all_goals
      intro text rest read
      cases read
  | succ fuel ih => exact ih.succ

/-- A literal ends where it ended before. -/
theorem literal?_append {fuel : Nat} {text rest more : List Char} {value : Checked Operand}
    (read : literal? fuel text = some (value, rest)) (seam : Seam rest more) {enough : Nat}
    (covers : text.length ≤ enough + rest.length) :
    literal? enough (text ++ more) = some (value, rest ++ more) := by
  obtain ⟨left, after, same⟩ := Option.map_eq_some_iff.mp read
  obtain ⟨rfl, rfl⟩ := Prod.mk.inj same
  have passes := (literalReaders fuel).literal _ _ after
  obtain ⟨part, rfl⟩ := passes.suffix
  have whole : (part ++ left ++ more).take ((part ++ left ++ more).length - (left ++ more).length) =
      (part ++ left).take ((part ++ left).length - left.length) := by
    simp
  rw [literal?, passes.append more seam enough covers, Option.map_some, whole]

end Stencil.Template
