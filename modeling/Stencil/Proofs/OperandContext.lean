import Stencil.Proofs.NameContext

set_option autoImplicit false

/-!
Operands in a tag. An operand, a call and the arguments of a tag that were read up to the end of the tag
are read alike where more stands behind that end (`operandReaders`), unless a path in brackets among them
may begin a literal there.
-/

namespace Stencil.Template

variable {more : List Char}

/-! ### What readers leave -/

/-- What is left of a text behind at least one of its characters. -/
def Remains (rest text : List Char) : Prop := rest <:+ text ∧ rest.length < text.length

namespace Remains

variable {first second third text : List Char}

theorem trans_suffix (remains : Remains first second) (suffix : second <:+ third) :
    Remains first third :=
  ⟨remains.1.trans suffix, Nat.lt_of_lt_of_le remains.2 suffix.length_le⟩

theorem of_suffix (suffix : first <:+ second) (remains : Remains second third) :
    Remains first third :=
  ⟨suffix.trans remains.1, Nat.lt_of_le_of_lt suffix.length_le remains.2⟩

theorem trans (inner : Remains first second) (outer : Remains second third) : Remains first third :=
  inner.trans_suffix outer.1

theorem of_skip (remains : Remains first (skip text)) : Remains first text :=
  remains.trans_suffix (skip_suffix text)

theorem ne_nil (remains : Remains first second) : second ≠ [] := by
  rintro rfl
  exact absurd remains.2 (Nat.not_lt_zero _)

end Remains

theorem remains_name {text left : List Char} {key : String} (name : name? text = some (key, left)) :
    Remains left text := by
  obtain ⟨⟨c, others, rfl, char⟩, rfl⟩ := name?_eq_some name
  rw [List.dropWhile_cons_of_pos char]
  have suffix : others.dropWhile isNameChar <:+ others := List.dropWhile_suffix isNameChar
  have shorter := suffix.length_le
  exact ⟨suffix.trans (List.suffix_cons c others), by simp only [List.length_cons]; omega⟩

theorem remains_token {word : String} (nonempty : word.toList ≠ []) {text rest : List Char}
    (found : token? word text = some rest) : Remains rest text := by
  obtain ⟨shorter, suffix, _⟩ := token?_append nonempty found []
  exact ⟨suffix, shorter⟩

theorem remains_path {text rest : List Char} {path : Path}
    (read : Path.read? text = some (path, rest)) : Remains rest text := by
  refine ⟨Path.read?_suffix read, ?_⟩
  obtain ⟨c, others, begins, _⟩ := (Path.opening_of_read read).begins
  rw [← Path.raw_append read, begins]
  simp only [List.cons_append, List.length_cons, List.length_append]
  omega

/-- Readers of operands call each other with less fuel, so what they leave is settled together. -/
structure OperandRemains (fuel : Nat) : Prop where
  operand : ∀ {text value rest}, operand? fuel text = some (value, rest) → Remains rest text
  call : ∀ {text value rest}, call? fuel text = some (value, rest) → Remains rest text
  expression : ∀ {text value rest}, expression? fuel text = some (value, rest) → Remains rest text
  arguments : ∀ text, (arguments fuel text).2 <:+ text

theorem remains_argument {fuel : Nat}
    (operand : ∀ {text value rest}, operand? fuel text = some (value, rest) → Remains rest text)
    {text rest : List Char} {key : Option String} {value : Checked Operand}
    (read : argument? fuel text = some (key, value, rest)) : Remains rest text := by
  rcases Option.or_eq_some_iff.mp read with named | ⟨_, positional⟩
  · obtain ⟨⟨key, left⟩, name, found⟩ := Option.bind_eq_some_iff.mp named
    obtain ⟨⟨value, rest⟩, found, same⟩ := Option.map_eq_some_iff.mp found
    obtain ⟨start, equals, read⟩ := Option.bind_eq_some_iff.mp found
    cases same
    have behind := (operand read).of_skip.trans (remains_token (by decide) equals)
    exact (behind.trans (remains_name name)).of_skip
  · obtain ⟨⟨value, rest⟩, read, same⟩ := Option.map_eq_some_iff.mp positional
    cases same
    exact (operand read).of_skip

namespace OperandRemains

variable {fuel : Nat} (remains : OperandRemains fuel) {text rest : List Char}

include remains

theorem operand_succ {value : Checked Operand} (read : operand? (fuel + 1) text = some (value, rest)) :
    Remains rest text := by
  simp only [operand?] at read
  split at read
  · cases read
  · split at read
    · rename_i found literal
      cases read
      obtain ⟨left, after, same⟩ := Option.map_eq_some_iff.mp literal
      cases same
      have passes := (literalReaders (fuel + 1)).literal _ _ after
      exact ⟨passes.suffix, passes.shorter⟩
    · split at read
      · rename_i path left found
        cases read
        exact remains_path found
      · exact remains.call read

theorem call_succ {value : Checked Operand} (read : call? (fuel + 1) text = some (value, rest)) :
    Remains rest text := by
  simp only [call?] at read
  split at read
  · rename_i inner
    split at read
    · rename_i expression left found
      obtain ⟨last, closed, same⟩ := Option.map_eq_some_iff.mp read
      cases same
      have behind := (remains_token (by decide) closed).trans (remains.expression found).of_skip
      exact behind.trans_suffix (List.suffix_cons _ inner)
    · cases read
  · cases read

theorem expression_succ {value : Checked Expression}
    (read : expression? (fuel + 1) text = some (value, rest)) : Remains rest text := by
  simp only [expression?] at read
  split at read
  · rename_i found call
    cases read
    obtain ⟨⟨name, left⟩, named, same⟩ := Option.bind_eq_some_iff.mp call
    dsimp only at same
    split at same
    · cases same
    · rename_i list last _ found
      cases same
      have behind := remains.arguments left
      rw [found] at behind
      exact Remains.of_suffix behind (remains_name named)
  · obtain ⟨⟨path, left⟩, found, same⟩ := Option.map_eq_some_iff.mp read
    cases same
    exact remains_path found

theorem arguments_suffix_succ (text : List Char) :
    (Template.arguments (fuel + 1) text).2 <:+ text := by
  rw [arguments_succ]
  split
  · exact List.suffix_rfl
  · rename_i key value rest found
    exact (remains.arguments rest).trans (remains_argument remains.operand found).1

end OperandRemains

theorem operandRemains (fuel : Nat) : OperandRemains fuel := by
  induction fuel with
  | zero =>
    refine ⟨?_, ?_, ?_, fun text => List.suffix_rfl⟩
    all_goals
      intro text value rest read
      cases read
  | succ fuel ih =>
    exact ⟨ih.operand_succ, ih.call_succ, ih.expression_succ, ih.arguments_suffix_succ⟩

/-! ### Paths as arguments -/

/-- The path that an operand is. -/
def Operand.lone : Operand → List Path
  | path target => [target]
  | _ => []

mutual

/-- The paths among the arguments of the calls in an operand. -/
def Operand.passed : Operand → List Path
  | .literal _ => []
  | .word _ => []
  | .path _ => []
  | .call head arguments => head.passed ++ passedBy arguments

/-- The paths among arguments and among those of the calls in them. -/
def passedBy : List Argument → List Path
  | [] => []
  | (_, operand) :: arguments => operand.lone ++ operand.passed ++ passedBy arguments

end

/-- The paths among the arguments of a tag and of the calls in it. -/
def Expression.passed (expression : Expression) : List Path :=
  expression.head.passed ++ passedBy expression.arguments

/-- True for a path that is no beginning of a literal in brackets: `["a]` is one, of `["a]", 1]`. -/
def Path.Apart (path : Path) : Prop :=
  ∀ body, path.raw.toList = '[' :: body → ∀ fuel more, afterLiteral? fuel ('[' :: body ++ more) = none

def AllApart (paths : List Path) : Prop := ∀ path ∈ paths, path.Apart

@[simp] theorem allApart_append (first second : List Path) :
    AllApart (first ++ second) ↔ AllApart first ∧ AllApart second := by
  simp only [AllApart, List.mem_append, or_imp, forall_and]

/-- An argument that is data, or a path or a call without paths that begin a literal. -/
def ArgumentApart (checked : Checked Operand) : Prop :=
  ∃ operand, checked = .ok operand ∧ AllApart (operand.lone ++ operand.passed)

theorem argumentsApart_of_mapM {arguments : List (Option String × Checked Operand)} :
    ∀ checked : List Argument,
    (arguments.mapM fun argument => do return (argument.1, ← argument.2) :
      Checked (List Argument)) = .ok checked → AllApart (passedBy checked) →
    ∀ argument ∈ arguments, ArgumentApart argument.2 := by
  induction arguments with
  | nil =>
    intro checked _ _ argument member
    cases member
  | cons first arguments ih =>
    intro checked done apart argument member
    obtain ⟨key, operand⟩ := first
    rw [List.mapM_cons] at done
    cases operand with
    | error invalid => cases done
    | ok operand =>
      cases rest : (arguments.mapM fun argument => do return (argument.1, ← argument.2) :
          Checked (List Argument)) with
      | error invalid =>
        rw [rest] at done
        cases done
      | ok others =>
        rw [rest] at done
        cases done
        simp only [passedBy, List.append_assoc, allApart_append] at apart
        rcases List.mem_cons.mp member with rfl | member
        · exact ⟨operand, rfl, (allApart_append _ _).mpr ⟨apart.1, apart.2.1⟩⟩
        · exact ih others rest apart.2.2 argument member

/-- A call without faults has its head and its arguments. -/
theorem callOf_eq_ok {head : Checked Operand} {arguments : List (Option String × Checked Operand)}
    {expression : Expression} (call : callOf head arguments = .ok expression) :
    head = .ok expression.head ∧ (arguments.mapM fun argument => do
      return (argument.1, ← argument.2) : Checked (List Argument)) = .ok expression.arguments := by
  unfold callOf at call
  cases head with
  | error invalid => cases call
  | ok head =>
    cases rest : (arguments.mapM fun argument => do return (argument.1, ← argument.2) :
        Checked (List Argument)) with
    | error invalid =>
      simp only [rest] at call
      cases call
    | ok others =>
      simp only [rest] at call
      cases call
      exact ⟨rfl, rfl⟩

/-- The arguments of a call are apart if all paths that it passes are. -/
theorem argumentsApart_of_callOf {head : Checked Operand}
    {arguments : List (Option String × Checked Operand)} {expression : Expression}
    (call : callOf head arguments = .ok expression) (apart : AllApart expression.passed) :
    ∀ argument ∈ arguments, ArgumentApart argument.2 :=
  argumentsApart_of_mapM _ (callOf_eq_ok call).2 ((allApart_append _ _).mp apart).2

/-! ### Ends of arguments -/

/-- A character at which arguments end. -/
def endsArguments (c : Char) : Bool := c == '\x7d' || c == '~' || c == ')'

theorem cases_of_endsArguments {c : Char} (ends : endsArguments c = true) :
    c = '\x7d' ∨ c = '~' ∨ c = ')' := by
  simpa [endsArguments, or_assoc] using ends

/-- Where arguments end: at the end of a tag or of a call, or at the names that a block gives. -/
inductive Stops (text : List Char) : Prop where
  | closer (c : Char) (others : List Char) (begins : skip text = c :: others)
      (ends : endsArguments c = true)
  | params (behind others : List Char) (begins : skip text = 'a' :: 's' :: behind)
      (bar : skip behind = '|' :: others)

namespace Stops

variable {text : List Char} (stops : Stops text)

include stops

theorem append (more : List Char) : Stops (text ++ more) := by
  cases stops with
  | closer c others begins ends =>
    refine closer c (others ++ more) ?_ ends
    rw [skip_append (by simp [begins]), begins]
    rfl
  | params behind others begins bar =>
    refine params (behind ++ more) (others ++ more) ?_ ?_
    · rw [skip_append (by simp [begins]), begins]
      rfl
    · rw [skip_append (by simp [bar]), bar]
      rfl

theorem arguments (fuel : Nat) : arguments fuel text = ([], text) := by
  cases stops with
  | closer c others begins ends =>
    have plain : beginsPath c = false ∧ isNameChar c = false ∧ beginsLiteral c = false ∧ c ≠ '(' := by
      rcases cases_of_endsArguments ends with rfl | rfl | rfl <;> decide
    exact arguments_eq_nil begins (read?_eq_none plain.1 others) plain.2.1 plain.2.2.1 plain.2.2.2 fuel
  | params behind others begins bar =>
    have stop : ∀ c, behind.head? = some c → isNameChar c = false := by
      intro c found
      cases behind with
      | nil => cases found
      | cons d behind =>
        cases found
        cases space : isSpace c with
        | true => exact not_isNameChar_of_isSpace space
        | false =>
          simp only [skip, List.dropWhile_cons_of_neg (Bool.eq_false_iff.mp space)] at bar
          cases bar
          decide
    have name : name? ('a' :: 's' :: behind) = some ("as", behind) :=
      name?_append (by simp : ['a', 's'] ≠ []) (List.all_eq_true.mp (by decide)) stop
    have key : token? "=" behind = none := by
      rw [token?, bar]
      rfl
    have reserved : isReserved ('a' :: 's' :: behind) = true := by
      simp [isReserved, Text.after?, bar, endsName, show isNameChar '|' = false by decide]
    have operand : ∀ fuel, operand? fuel ('a' :: 's' :: behind) = none := by
      intro fuel
      cases fuel with
      | zero => rfl
      | succ fuel => simp only [operand?, reserved, if_true]
    refine arguments_eq_nil_of_none (fun fuel => ?_) fuel
    simp only [argument?, begins, name, operand, Option.bind_some, key]
    rfl

/-- No arguments end right before a further item of a path. -/
theorem clear : Path.Clear text := by
  rintro c others rfl
  cases separates : Path.isSeparator c with
  | false => rfl
  | true =>
    have solid : skip (c :: '[' :: others) = c :: '[' :: others := by
      rcases Path.separator_cases separates with rfl | rfl <;> rfl
    cases stops with
    | closer d tail begins ends =>
      rw [solid] at begins
      cases begins
      rcases Path.separator_cases separates with rfl | rfl <;> cases ends
    | params behind tail begins bar =>
      rw [solid] at begins
      cases begins

end Stops

/-- Nor do arguments begin there. -/
theorem clear_of_arguments {fuel : Nat} {text rest : List Char}
    {args : List (Option String × Checked Operand)} (read : arguments fuel text = (args, rest))
    (stops : Stops rest) : Path.Clear text := by
  rintro c others rfl
  cases separates : Path.isSeparator c with
  | false => rfl
  | true =>
    have none : Path.read? (c :: '[' :: others) = none :=
      Path.read?_behind Path.Climb.stay separates (by decide) others
    rw [arguments_eq_nil_of_separator separates none] at read
    cases read
    rw [stops.clear c others rfl] at separates
    cases separates

/-- Nor does an equals sign stand there. -/
theorem keyless_of_arguments {fuel : Nat} {text rest : List Char}
    {args : List (Option String × Checked Operand)} (read : arguments fuel text = (args, rest))
    (stops : Stops rest) (closes : '\x7d' ∈ text) : token? "=" (text ++ more) = none := by
  have inside : '\x7d' ∈ skip text := Text.mem_dropWhile closes (by decide)
  rw [token?, skip_append (List.ne_nil_of_mem inside)]
  cases begins : skip text with
  | nil =>
    rw [begins] at inside
    cases inside
  | cons c others =>
    by_cases equals : c = '='
    · subst equals
      rw [arguments_eq_nil begins (read?_eq_none (by decide) others) (by decide) (by decide)
        (by decide)] at read
      cases read
      cases stops with
      | closer d tail same ends =>
        rw [begins] at same
        cases same
        cases ends
      | params behind tail same bar =>
        rw [begins] at same
        cases same
    · simp [Text.after?, Ne.symm equals]

/-! ### The readers of operands -/

/-- A reader reads the same in front of more, with twice as much fuel as it passes characters. -/
def ReadsOn {α : Type} (spare : Nat) (read : Nat → List Char → Option (α × List Char))
    (text : List Char) (value : α) (rest : List Char) : Prop :=
  ∀ more enough, 2 * text.length ≤ enough + spare + 2 * rest.length →
    read enough (text ++ more) = some (value, rest ++ more)

/-- Readers of operands call each other with less fuel, so what they read in front of more is settled
together. What they leave has the end of a tag in it. -/
structure OperandReaders (fuel : Nat) : Prop where
  operand : ∀ {text value rest}, operand? fuel text = some (value, rest) → ArgumentApart value →
    Path.Clear rest → '\x7d' ∈ rest → ReadsOn 0 operand? text value rest
  call : ∀ {text operand rest}, call? fuel text = some (.ok operand, rest) →
    AllApart operand.passed → '\x7d' ∈ rest → ReadsOn 1 call? text (.ok operand) rest
  expression : ∀ {text expression rest}, expression? fuel text = some (.ok expression, rest) →
    AllApart expression.passed → Stops rest → '\x7d' ∈ rest →
      ReadsOn 0 expression? text (.ok expression) rest
  arguments : ∀ {text args rest}, arguments fuel text = (args, rest) →
    (∀ argument ∈ args, ArgumentApart argument.2) → Stops rest → '\x7d' ∈ rest →
      ∀ more enough, 2 * text.length < enough + 2 * rest.length →
        arguments enough (text ++ more) = (args, rest ++ more)

/-- A path is no literal in front of more. -/
theorem literal?_append_eq_none {fuel : Nat} {text rest : List Char} {path : Path}
    (other : literal? (fuel + 1) text = none) (read : Path.read? text = some (path, rest))
    (apart : path.Apart) (seam : Seam text more) (enough : Nat) :
    literal? enough (text ++ more) = none := by
  have missing : afterLiteral? (fuel + 1) text = none := Option.map_eq_none_iff.mp other
  have whole := Path.raw_append read
  obtain ⟨c, others, begins, mark⟩ := (Path.opening_of_read read).begins
  rw [literal?, Option.map_eq_none_iff]
  by_cases bracket : c = '['
  · subst bracket
    have free := apart others begins enough (rest ++ more)
    rwa [← begins, ← List.append_assoc, whole] at free
  · have plain : "\"'[\x7b".toList.contains c = false := by
      cases quoted : "\"'[\x7b".toList.contains c with
      | false => rfl
      | true =>
        rcases cases_of_mark quoted with rfl | rfl | rfl | rfl
        · revert mark
          decide
        · revert mark
          decide
        · exact absurd rfl bracket
        · revert mark
          decide
    obtain ⟨tail, rfl⟩ : ∃ tail, text = c :: tail := ⟨others ++ rest, by rw [← whole, begins]; rfl⟩
    rw [afterLiteral?_plain plain] at missing
    cases enough with
    | zero => rfl
    | succ enough =>
      rw [List.cons_append, afterLiteral?_plain plain, ← List.cons_append, seam.afterNumber?_append,
        seam.afterWord?_append, ← Option.map_or, missing]
      rfl

/-- Behind the name of a path stand no arguments if there were none before. -/
theorem arguments_behind_name {text rest left : List Char} {key : String} {path : Path}
    (name : name? text = some (key, left)) (read : Path.read? text = some (path, rest))
    (stops : Stops rest) (enough : Nat) : (arguments enough (left ++ more)).1 = [] := by
  rcases Path.behind_name name read with rfl | ⟨c, others, rfl, separates, missing⟩
  · rw [(stops.append more).arguments]
  · have none : Path.read? (c :: (others ++ more)) = none := missing more
    rw [List.cons_append, arguments_eq_nil_of_separator separates none]

namespace OperandReaders

variable {fuel : Nat} (readers : OperandReaders fuel)

include readers

theorem operand_succ {text rest : List Char} {value : Checked Operand}
    (read : operand? (fuel + 1) text = some (value, rest)) (apart : ArgumentApart value)
    (clear : Path.Clear rest) (closes : '\x7d' ∈ rest) : ReadsOn 0 operand? text value rest := by
  intro more enough covers
  have remains := (operandRemains (fuel + 1)).operand read
  have shorter := remains.2
  have seam : Seam text more := Seam.closed more (remains.1.subset closes)
  obtain ⟨enough, rfl⟩ : ∃ less, enough = less + 1 := ⟨enough - 1, by omega⟩
  simp only [operand?] at read
  split at read
  · cases read
  · rename_i free
    have free := isReserved_append seam (Bool.eq_false_iff.mpr free)
    split at read
    · rename_i found literal
      cases read
      have same : literal? (enough + 1) (text ++ more) = some (value, rest ++ more) :=
        literal?_append literal (Seam.closed more closes) (by omega)
      simp only [operand?, free, same, Bool.false_eq_true, if_false]
    · rename_i other
      split at read
      · rename_i path left found
        cases read
        obtain ⟨operand, same, apart⟩ := apart
        cases same
        have missing := literal?_append_eq_none other found (apart path (by simp [Operand.lone])) seam
        have path := Path.read?_append found clear (Seam.closed more closes)
        simp only [operand?, free, missing, path, Bool.false_eq_true, if_false]
      · obtain ⟨operand, rfl, apart⟩ := apart
        have call := readers.call read ((allApart_append _ _).mp apart).2 closes more enough (by omega)
        obtain ⟨tail, rfl⟩ := call?_begins read
        rw [List.cons_append] at call ⊢
        rw [operand?_eq_call? (read?_eq_none (by decide) _) (by decide) (by decide)]
        exact call

theorem call_succ {text rest : List Char} {operand : Operand}
    (read : call? (fuel + 1) text = some (.ok operand, rest)) (apart : AllApart operand.passed)
    (closes : '\x7d' ∈ rest) : ReadsOn 1 call? text (.ok operand) rest := by
  intro more enough covers
  simp only [call?] at read
  split at read
  · rename_i inner
    split at read
    · rename_i checked left found
      obtain ⟨last, closed, same⟩ := Option.map_eq_some_iff.mp read
      obtain ⟨value, rfl⟩ := Prod.mk.inj same
      cases checked with
      | error invalid => cases value
      | ok expression =>
        cases value
        have behind := (operandRemains fuel).expression found
        have shorter := behind.2
        have text_le := length_skip_le inner
        obtain ⟨left_lt, suffix, further⟩ := token?_append (by decide) closed more
        have stops : Stops left := Stops.closer ')' last (Text.after?_eq_some_iff.mp closed) rfl
        simp only [List.length_cons] at covers
        obtain ⟨enough, rfl⟩ : ∃ less, enough = less + 1 := ⟨enough - 1, by omega⟩
        have same := readers.expression found apart stops (suffix.subset closes) more enough (by omega)
        simp only [call?, List.cons_append, skip_append behind.ne_nil, same, further, Option.map_some]
        rfl
    · cases read
  · cases read

theorem expression_succ {text rest : List Char} {expression : Expression}
    (read : expression? (fuel + 1) text = some (.ok expression, rest))
    (apart : AllApart expression.passed) (stops : Stops rest) (closes : '\x7d' ∈ rest) :
    ReadsOn 0 expression? text (.ok expression) rest := by
  intro more enough covers
  have remains := (operandRemains (fuel + 1)).expression read
  have shorter := remains.2
  have seam : Seam text more := Seam.closed more (remains.1.subset closes)
  obtain ⟨enough, rfl⟩ : ∃ less, enough = less + 1 := ⟨enough - 1, by omega⟩
  simp only [expression?] at read
  split at read
  · rename_i found call
    cases read
    obtain ⟨⟨key, left⟩, name, same⟩ := Option.bind_eq_some_iff.mp call
    dsimp only at same
    split at same
    · cases same
    · rename_i args last nonempty found
      obtain ⟨value, rfl⟩ := Prod.mk.inj (Option.some.inj same)
      have all := argumentsApart_of_callOf value apart
      have left_lt := (remains_name name).2
      have same := readers.arguments found all stops closes more enough (by omega)
      simp only [expression?, seam.name?_append, name, Option.map_some, Option.bind_some, same, value]
  · rename_i none
    obtain ⟨⟨path, left⟩, found, same⟩ := Option.map_eq_some_iff.mp read
    cases same
    have path := Path.read?_append found stops.clear (Seam.closed more closes)
    cases name : name? text with
    | none =>
      simp only [expression?, seam.name?_append, name, Option.map_none, Option.bind_none, path,
        Option.map_some]
    | some behind =>
      obtain ⟨key, left⟩ := behind
      have empty : (Template.arguments enough (left ++ more)).1 = [] :=
        arguments_behind_name name found stops enough
      cases args : Template.arguments enough (left ++ more) with
      | mk written further =>
        rw [args] at empty
        obtain rfl : written = [] := empty
        simp only [expression?, seam.name?_append, name, Option.map_some, Option.bind_some, args, path]

theorem argument {text rest last : List Char} {key : Option String} {value : Checked Operand}
    {args : List (Option String × Checked Operand)}
    (read : argument? fuel text = some (key, value, rest))
    (apart : ArgumentApart value) (further : Template.arguments fuel rest = (args, last))
    (stops : Stops last) (closes : '\x7d' ∈ last) (more : List Char) (enough : Nat)
    (covers : 2 * text.length ≤ enough + 2 * rest.length) :
    argument? enough (text ++ more) = some (key, value, rest ++ more) := by
  have remains := remains_argument (operandRemains fuel).operand read
  have clear := clear_of_arguments further stops
  have closes : '\x7d' ∈ rest := by
    have suffix := (operandRemains fuel).arguments rest
    rw [further] at suffix
    exact suffix.subset closes
  have text_le := length_skip_le text
  rcases Option.or_eq_some_iff.mp read with named | ⟨unnamed, positional⟩
  · obtain ⟨⟨name, left⟩, name_eq, found⟩ := Option.bind_eq_some_iff.mp named
    obtain ⟨⟨operand, rest⟩, found, same⟩ := Option.map_eq_some_iff.mp found
    obtain ⟨start, equals, found⟩ := Option.bind_eq_some_iff.mp found
    cases same
    have behind := (operandRemains fuel).operand found
    have start_le := length_skip_le start
    obtain ⟨start_lt, suffix, equals⟩ := token?_append (by decide) equals more
    have left_lt := (remains_name name_eq).2
    have seam : Seam (skip text) more := by
      have inner := (behind.1.trans (skip_suffix start)).trans (suffix.trans (remains_name name_eq).1)
      exact Seam.closed more (inner.subset closes)
    have operand := readers.operand found apart clear closes more enough (by omega)
    simp only [argument?, skip_append (remains_name name_eq).ne_nil, seam.name?_append, name_eq,
      Option.map_some, Option.bind_some, equals, skip_append behind.ne_nil, operand, Option.some_or]
  · obtain ⟨⟨operand, rest⟩, found, same⟩ := Option.map_eq_some_iff.mp positional
    cases same
    have behind := (operandRemains fuel).operand found
    have seam : Seam (skip text) more := Seam.closed more (behind.1.subset closes)
    have same := readers.operand found apart clear closes more enough (by omega)
    have keyless : ∀ name left, name? (skip text) = some (name, left) →
        token? "=" (left ++ more) = none := by
      intro name left named
      obtain ⟨operand, rfl, _⟩ := apart
      rcases behind_name_of_operand? found named with rfl | ⟨c, others, rfl, separates, _⟩
      · exact keyless_of_arguments further stops closes
      · rcases Path.separator_cases separates with rfl | rfl <;> rfl
    simp only [argument?, skip_append behind.ne_nil, seam.name?_append, same, Option.map_some]
    cases name : name? (skip text) with
    | none => rfl
    | some found =>
      obtain ⟨name, left⟩ := found
      simp only [Option.map_some, Option.bind_some, keyless _ _ name, Option.bind_none,
        Option.map_none, Option.none_or]

theorem arguments_succ {text rest : List Char} {args : List (Option String × Checked Operand)}
    (read : Template.arguments (fuel + 1) text = (args, rest))
    (apart : ∀ argument ∈ args, ArgumentApart argument.2) (stops : Stops rest) (closes : '\x7d' ∈ rest)
    (more : List Char) (enough : Nat) (covers : 2 * text.length < enough + 2 * rest.length) :
    Template.arguments enough (text ++ more) = (args, rest ++ more) := by
  rw [Template.arguments_succ] at read
  split at read
  · cases read
    exact (stops.append more).arguments enough
  · rename_i key value left found
    obtain ⟨rfl, ends⟩ := Prod.mk.inj read
    have further : Template.arguments fuel left = (_, rest) := Prod.ext rfl ends
    have left_lt := (remains_argument (operandRemains fuel).operand found).2
    have first := apart (key, value) List.mem_cons_self
    have others := fun argument member => apart argument (List.mem_cons_of_mem _ member)
    have suffix := (operandRemains fuel).arguments left
    rw [ends] at suffix
    have rest_le := suffix.length_le
    obtain ⟨enough, rfl⟩ : ∃ less, enough = less + 1 := ⟨enough - 1, by omega⟩
    have head := readers.argument found first further stops closes more enough (by omega)
    have tail := readers.arguments further others stops closes more enough (by omega)
    rw [Template.arguments_succ, head]
    dsimp only
    rw [tail]

end OperandReaders

theorem operandReaders (fuel : Nat) : OperandReaders fuel := by
  induction fuel with
  | zero =>
    refine ⟨?_, ?_, ?_, ?_⟩
    · intro text value rest read
      cases read
    · intro text operand rest read
      cases read
    · intro text expression rest read
      cases read
    · intro text args rest read _ stops _ more enough _
      cases read
      exact (stops.append more).arguments enough
  | succ fuel ih => exact ⟨ih.operand_succ, ih.call_succ, ih.expression_succ, ih.arguments_succ⟩

end Stencil.Template
