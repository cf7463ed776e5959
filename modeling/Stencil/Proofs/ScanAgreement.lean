import Stencil.Proofs.InlineReading
import Stencil.Proofs.InlineScan
import Stencil.Proofs.ReferenceScopes

set_option autoImplicit false

/-!
The scan of inline sources. An inline source is read, and the variables that the scan of its text finds
are those of the walk through its template, and besides only those of options that a later one in the
same call replaces (`scan_agrees`).
-/

namespace Stencil.Inline

open Extraction (Occurs Occurrence Reads baseVariable? references scannedVariables variablesOf)
open Template (Counts Operand)

variable {name : String}

/-! ### The walk -/

/-- An operand reads a variable. -/
def Shows (name : String) (operand : Operand) : Prop :=
  ∃ raw role, Reads raw role .argument operand ∧ baseVariable? raw = some name

theorem Leaf.shows_iff (leaf : Leaf) : Shows name leaf.operand ↔ name ∈ leaf.base?.toList := by
  rw [Option.mem_toList]
  cases leaf with
  | path target =>
    constructor
    · rintro ⟨raw, role, reads, base⟩
      cases reads with
      | path written =>
        rw [← written] at base
        exact base
    · exact fun base => ⟨_, _, Reads.path rfl, base⟩
  | _ =>
    constructor
    · rintro ⟨raw, role, reads, base⟩
      cases reads
    · intro base
      cases base

theorem shows_call {head : Operand} {arguments : List Template.Argument} :
    Shows name (.call head arguments) ↔ ∃ operand, Counts operand arguments ∧ Shows name operand := by
  constructor
  · rintro ⟨raw, role, reads, base⟩
    cases reads with
    | call counts inside => exact ⟨_, counts, raw, role, inside, base⟩
  · rintro ⟨operand, counts, raw, role, inside, base⟩
    exact ⟨raw, role, Reads.call counts inside, base⟩

theorem key?_eq_iff (key : Name) (argument : Argument) : argument.key? = some key.text ↔
    argument.option?.map OptionName.name = some (String.ofList key.text) := by
  cases argument with
  | option other leaf =>
    have same : other.text = key.text ↔ String.ofList other.text = String.ofList key.text :=
      ⟨congrArg String.ofList, fun same => by simpa using congrArg String.toList same⟩
    simpa [Argument.key?, Argument.option?, Name.key] using same
  | _ => simp [Argument.key?, Argument.option?]

/-- A key is among arguments if an option of its name is. -/
theorem mem_keys_iff (key : Name) (arguments : Arguments) : key.text ∈ arguments.keys ↔
    ∃ later ∈ arguments.written, later.1 = some (String.ofList key.text) := by
  induction arguments using Arguments.keys.induct with
  | case1 argument => simp [Arguments.keys, Arguments.written, key?_eq_iff]
  | case2 argument arguments ih => simp [Arguments.keys, Arguments.written, key?_eq_iff, ih]

/-- Arguments show a variable, unless they are options that are replaced. -/
def ShowsAmong (name : String) (arguments : Arguments) : Prop :=
  ∃ operand, Counts operand arguments.written ∧ Shows name operand

theorem showsAmong_last (argument : Argument) :
    ShowsAmong name (.last argument) ↔ Shows name argument.operand := by
  have counts : ∀ operand, Counts operand (Arguments.last argument).written ↔
      operand = argument.operand := by
    intro operand
    rw [Arguments.written]
    cases argument.option? with
    | none => simp [Template.counts_cons_none, Template.counts_nil]
    | some key => simp [Template.counts_cons_some, Template.counts_nil]
  simp [ShowsAmong, counts]

theorem showsAmong_next {argument : Argument} (positional : argument.option? = none)
    (arguments : Arguments) : ShowsAmong name (.next argument arguments) ↔
      Shows name argument.operand ∨ ShowsAmong name arguments := by
  simp [ShowsAmong, Arguments.written, positional, Template.counts_cons_none, or_and_right, exists_or]

theorem showsAmong_option (key : Name) (leaf : Leaf) (arguments : Arguments) :
    ShowsAmong name (.next (.option key leaf) arguments) ↔
      key.text ∉ arguments.keys ∧ name ∈ leaf.base?.toList ∨ ShowsAmong name arguments := by
  have free : (∀ later ∈ arguments.written, later.1 ≠ some (String.ofList key.text)) ↔
      key.text ∉ arguments.keys := by
    rw [mem_keys_iff]
    constructor
    · rintro free ⟨later, member, same⟩
      exact free later member same
    · exact fun none later member same => none ⟨later, member, same⟩
  have written : (Arguments.next (.option key leaf) arguments).written =
      (some (String.ofList key.text), leaf.operand) :: arguments.written := rfl
  simp only [ShowsAmong, written, Template.counts_cons_some, free, or_and_right, exists_or,
    ← leaf.shows_iff]
  refine or_congr_left ⟨?_, ?_⟩
  · rintro ⟨operand, ⟨rfl, free⟩, shows⟩
    exact ⟨free, shows⟩
  · rintro ⟨free, shows⟩
    exact ⟨_, ⟨rfl, free⟩, shows⟩

theorem replaced_next {argument : Argument} (positional : argument.option? = none)
    (arguments : Arguments) :
    (Arguments.next argument arguments).replaced = argument.replaced ++ arguments.replaced := by
  cases argument with
  | option key leaf => cases positional
  | _ => rfl

mutual

theorem Argument.mem_variables_iff : ∀ argument : Argument, name ∈ argument.variables ↔
    Shows name argument.operand ∨ name ∈ argument.replaced
  | .leaf leaf => by
    simp [Argument.variables, Argument.operand, Argument.replaced, leaf.shows_iff]
  | .option key leaf => by
    simp [Argument.variables, Argument.operand, Argument.replaced, leaf.shows_iff]
  | .call helper arguments => by
    rw [Argument.variables, Argument.operand, Argument.replaced, shows_call]
    exact arguments.mem_variables_iff

/-- The variables of all paths among arguments are those that they show and those that are replaced. -/
theorem Arguments.mem_variables_iff : ∀ arguments : Arguments, name ∈ arguments.variables ↔
    ShowsAmong name arguments ∨ name ∈ arguments.replaced
  | .last argument => by
    rw [Arguments.variables, Arguments.replaced, showsAmong_last]
    exact argument.mem_variables_iff
  | .next (.leaf leaf) arguments => by
    rw [Arguments.variables, replaced_next rfl, showsAmong_next rfl, List.mem_append,
      List.mem_append, Argument.mem_variables_iff (.leaf leaf), arguments.mem_variables_iff]
    exact or_or_or_comm
  | .next (.call helper inner) arguments => by
    rw [Arguments.variables, replaced_next rfl, showsAmong_next rfl, List.mem_append,
      List.mem_append, Argument.mem_variables_iff (.call helper inner), arguments.mem_variables_iff]
    exact or_or_or_comm
  | .next (.option key leaf) arguments => by
    rw [Arguments.variables, Arguments.replaced, showsAmong_option, List.mem_append,
      List.mem_append, arguments.mem_variables_iff, Argument.variables]
    by_cases again : key.text ∈ arguments.keys
    · simp [again, or_left_comm]
    · simp [again, or_assoc]

end

theorem Arguments.written_ne_nil (arguments : Arguments) : arguments.written ≠ [] := by
  cases arguments <;> simp [written]

theorem occurs_path {raw : String} {role : Extraction.Role} {target : Template.Path} :
    Occurs raw role (.value ⟨.path target, []⟩) ↔ target.raw = raw ∧ role = .value := by
  constructor
  · intro occurs
    cases occurs with
    | value alone named same => exact ⟨Option.some.inj named, same⟩
    | argument counts inside => exact absurd counts Template.counts_nil
  · rintro ⟨rfl, rfl⟩
    exact Occurs.value rfl rfl rfl

theorem Tag.mem_variables_iff (tag : Tag) : name ∈ tag.variables ↔
    (∃ raw role, Occurs raw role (.value tag.expression) ∧ baseVariable? raw = some name) ∨
      name ∈ tag.replaced := by
  have lone : ∀ path : Path, name ∈ (Leaf.path path).base?.toList ↔
      (∃ raw role, Occurs raw role (.value ⟨.path path.target, []⟩) ∧
        baseVariable? raw = some name) ∨ name ∈ ([] : List String) := by
    intro path
    simp only [occurs_path, Option.mem_toList, List.not_mem_nil, or_false]
    constructor
    · exact fun base => ⟨_, _, ⟨rfl, rfl⟩, base⟩
    · rintro ⟨raw, role, ⟨rfl, rfl⟩, base⟩
      exact base
  cases tag with
  | value path => exact lone path
  | trimmed path => exact lone path
  | plain path => exact lone path
  | call helper arguments =>
    refine arguments.mem_variables_iff.trans (or_congr_left ⟨?_, ?_⟩)
    · rintro ⟨operand, counts, raw, role, inside, base⟩
      exact ⟨raw, role, Occurs.argument counts inside, base⟩
    · rintro ⟨raw, role, occurs, base⟩
      cases occurs with
      | value alone named same => exact absurd alone arguments.written_ne_nil
      | argument counts inside => exact ⟨_, counts, raw, role, inside, base⟩

/-- In values there are only the occurrences of their tags. -/
theorem in_values_iff {written : List Tag} {occurrence : Occurrence} :
    occurrence.In (values written) ↔ occurrence.blocks = [] ∧ ∃ tag ∈ written,
      Occurs occurrence.raw occurrence.role (.value tag.expression) := by
  obtain ⟨raw, role, blocks⟩ := occurrence
  constructor
  · rintro ⟨element, stands, occurs⟩
    cases stands with
    | here member =>
      obtain ⟨tag, listed, rfl⟩ := List.mem_map.mp member
      exact ⟨rfl, tag, listed, occurs⟩
    | inside member part stands =>
      obtain ⟨tag, listed, rfl⟩ := List.mem_map.mp member
      cases part
  · rintro ⟨same, tag, listed, occurs⟩
    obtain rfl : blocks = [] := same
    exact ⟨_, Extraction.Stands.here (List.mem_map_of_mem listed), occurs⟩

/-- The walk through values finds what occurs in them. -/
theorem mem_variablesOf_values {written : List Tag} :
    name ∈ variablesOf (references (values written)) ↔ ∃ tag ∈ written, ∃ raw role,
      Occurs raw role (.value tag.expression) ∧ baseVariable? raw = some name := by
  rw [Extraction.mem_variablesOf_references_iff]
  constructor
  · rintro ⟨occurrence, inside, _, base⟩
    obtain ⟨_, tag, listed, occurs⟩ := in_values_iff.mp inside
    exact ⟨tag, listed, _, _, occurs, base⟩
  · rintro ⟨tag, listed, raw, role, occurs, base⟩
    refine ⟨⟨raw, role, []⟩, in_values_iff.mpr ⟨rfl, tag, listed, occurs⟩, ?_, base⟩
    rintro ⟨enclosure, member, _⟩
    cases member

theorem mem_replaced_iff {pieces : List Piece} :
    name ∈ pieces.flatMap Piece.replaced ↔ ∃ tag ∈ tags pieces, name ∈ tag.replaced := by
  induction pieces with
  | nil => simp [tags]
  | cons piece pieces ih =>
    rw [List.flatMap_cons, List.mem_append, ih]
    cases piece <;> simp [tags, Piece.replaced]

/-- An inline source whose numbers and texts are read as data is read itself. The scan of its text finds
the variables that the walk through its template finds, and those of options whose key is given again
behind them in the same call, which the template does not keep. -/
theorem scan_agrees (pieces : List Piece) (readable : ∀ piece ∈ pieces, piece.Readable) :
    ∃ template, Template.read (source pieces) = .ok template ∧
      ∀ name, name ∈ scannedVariables (source pieces) ↔
        name ∈ variablesOf (references template) ∨ name ∈ pieces.flatMap Piece.replaced := by
  obtain ⟨template, done, same⟩ := read_source pieces readable
  refine ⟨template, done, fun name => ?_⟩
  rw [same, mem_scannedVariables_iff, mem_variablesOf_values, mem_replaced_iff]
  simp only [Tag.mem_variables_iff, and_or_left, exists_or]

/-! ### Sources that the scan reads otherwise -/

/-- A source that is read, and the scan finds the variables of the walk. -/
def Agrees (source : String) : Prop :=
  ∃ template, Template.read source = .ok template ∧
    ∀ name, name ∈ scannedVariables source ↔ name ∈ variablesOf (references template)

theorem not_agrees {source : String} (name : String)
    (differs : (Template.read source).toOption.all (fun template =>
      decide (name ∈ scannedVariables source) != decide (name ∈ variablesOf (references template))) =
        true) : ¬ Agrees source := by
  rintro ⟨template, done, same⟩
  rw [done] at differs
  simp [Except.toOption, same name] at differs

def oneLetter (c : Char) (listed : c ∈ "abcdefghkxy".toList) : Name where
  text := [c]
  chars := by
    have letters : ∀ c ∈ "abcdefghkxy".toList, Template.isNameChar c = true ∧ Text.isAscii c = true :=
      Text.forall_mem_of_all (by decide)
    simpa using letters c listed
  begins := by
    have letters : ∀ c ∈ "abcdefghkxy".toList, (!c.isDigit && c != '-') = true :=
      Text.forall_mem_of_all (by decide)
    exact letters c listed
  free := by
    have letters : ∀ c ∈ "abcdefghkxy".toList, [c] ∉ reserved :=
      Text.forall_mem_of_all (by decide)
    exact letters c listed
  apart := by
    have letters : ∀ c ∈ "abcdefghkxy".toList, Text.after? "else".toList [c] = none :=
      Text.forall_mem_of_all (by decide)
    exact letters c listed

def variablePath (lead : Lead) (c : Char) (listed : c ∈ "abcdefghkxy".toList) : Leaf :=
  .path ⟨lead, oneLetter c listed, []⟩

/-- A tag that calls a helper. -/
def helperTag (arguments : Arguments) : Piece := .tag (.call (oneLetter 'f' (by decide)) arguments)

def five : Digits := ⟨['5'], by decide, Text.forall_mem_of_all (by decide)⟩

def fiveHundred : Digits := ⟨"500".toList, by decide, Text.forall_mem_of_all (by decide)⟩

/-- A tag with the argument `"a b"`, with a tab instead of the space. -/
def tabbed : List Piece :=
  [helperTag (.last (.leaf (.quoted ⟨true, ['a', '\t', 'b'], Text.forall_mem_of_all (by decide)⟩)))]

/-- A tag with the argument `5e5`. -/
def lowered : List Piece :=
  [helperTag (.last (.leaf (.number ⟨false, five, none, some ⟨false, none, five⟩⟩)))]

/-- A tag with the argument `5E+5`. -/
def plussed : List Piece :=
  [helperTag (.last (.leaf (.number ⟨false, five, none, some ⟨true, some false, five⟩⟩)))]

/-- A tag with the argument `5E500`. -/
def distant : List Piece :=
  [helperTag (.last (.leaf (.number ⟨false, five, none, some ⟨true, none, fiveHundred⟩⟩)))]

/-- A tag with the arguments `k=a` and `k=b`. -/
def repeated : List Piece :=
  [helperTag (.next (.option (oneLetter 'k' (by decide)) (variablePath .none 'a' (by decide)))
    (.last (.option (oneLetter 'k' (by decide)) (variablePath .none 'b' (by decide)))))]

/-- A text or a number that is no data in a tag makes the source one that is not read. A number that is
a name in a tag is a variable of the walk only, and a value that is replaced one of the scan only. -/
theorem scan_disagrees : ¬ Agrees (source tabbed) ∧ ¬ Agrees (source lowered) ∧
    ¬ Agrees (source plussed) ∧ ¬ Agrees (source distant) ∧ ¬ Agrees (source repeated) := by
  refine ⟨?_, ?_, ?_, ?_, ?_⟩
  · exact not_agrees "" (by decide +kernel)
  · exact not_agrees "5e5" (by decide +kernel)
  · exact not_agrees "" (by decide +kernel)
  · exact not_agrees "" (by decide +kernel)
  · exact not_agrees "a" (by decide +kernel)

/-- Text and tags of all kinds, with calls in calls and a key that is given twice. -/
def mixed : List Piece :=
  [.text "Dear ".toList (Text.forall_mem_of_all (by decide)),
    .tag (.trimmed ⟨.none, oneLetter 'a' (by decide), [oneLetter 'b' (by decide)]⟩),
    .tag (.plain ⟨.outer, oneLetter 'c' (by decide), []⟩),
    helperTag (.next (.leaf (variablePath .this 'd' (by decide)))
      (.next (.leaf (.number ⟨true, five, some fiveHundred, some ⟨true, some true, five⟩⟩))
        (.next (.option (oneLetter 'k' (by decide)) (variablePath .outer 'e' (by decide)))
          (.next (.call (oneLetter 'g' (by decide))
              (.next (.leaf (.quoted ⟨false, "k=(v) ".toList, Text.forall_mem_of_all (by decide)⟩))
                (.last (.call (oneLetter 'h' (by decide))
                  (.last (.leaf (variablePath .none 'x' (by decide))))))))
            (.last (.option (oneLetter 'k' (by decide)) (variablePath .none 'y' (by decide))))))))]

theorem scan_agrees_mixed : source mixed =
      "Dear \x7b\x7b~a.b~\x7d\x7d\x7b\x7b\x7b../c\x7d\x7d\x7d" ++
        "\x7b\x7bf this.d -5.500E-5 k=../e (g 'k=(v) ' (h x)) k=y\x7d\x7d" ∧
    ∃ template, Template.read (source mixed) = .ok template ∧
      ∀ name, name ∈ scannedVariables (source mixed) ↔
        name ∈ variablesOf (references template) ∨ name ∈ ["e"] := by
  have readable : ∀ piece ∈ mixed, piece.Readable := by
    simp only [mixed, helperTag, List.forall_mem_cons, List.not_mem_nil, false_implies,
      implies_true, and_true]
    refine ⟨trivial, trivial, trivial, trivial, ⟨?_, ?_, ?_⟩, trivial, ⟨?_, trivial⟩, trivial⟩
    · simp
    · simp
    · decide +kernel
    · show ∀ c ∈ "k=(v) ".toList, 32 ≤ c.toNat
      exact Text.forall_mem_of_all (by decide)
  have replaced : mixed.flatMap Piece.replaced = ["e"] := by decide +kernel
  have agrees := scan_agrees mixed readable
  rw [replaced] at agrees
  exact ⟨by decide +kernel, agrees⟩

end Stencil.Inline
