import Stencil.Proofs.ReferenceScopes

set_option autoImplicit false

/-!
Arguments of calls. The variables of a source are the base variables of its occurrences that are
reported, and every path that is an argument of a call occurs, if the call is among the arguments of a
tag, however deep. A call that is the whole of a value tag is no argument, and of it nothing occurs
(`extract_covers_calls`).
-/

namespace Stencil.Extraction

open Template (Operand Argument Expression Element Counts)

/-- What a value tag or the opening of a block says. -/
def tagExpression? : Element → Option Expression
  | .value expression => some expression
  | .block expression _ _ _ _ => some expression
  | _ => none

/-- A call is an operand, or it is in an argument that counts in the operand's own call. -/
inductive HasCall (head : Operand) (arguments : List Argument) : Operand → Prop where
  | self : HasCall head arguments (.call head arguments)
  | argument {outer operand : Operand} {others : List Argument} (counts : Counts operand others)
      (inside : HasCall head arguments operand) : HasCall head arguments (.call outer others)

section

variable {head operand leaf : Operand} {arguments : List Argument} {raw : String}

theorem reads_of_name? {role : Role} (named : operand.name? = some raw) :
    Reads raw role role operand := by
  cases operand with
  | word name =>
    cases named
    exact Reads.word
  | path path => exact Reads.path (Option.some.inj named)
  | literal value => cases named
  | call inner others => cases named

/-- An operand reads the arguments of each call in it. -/
theorem HasCall.reads (call : HasCall head arguments operand) (counts : Counts leaf arguments)
    (named : leaf.name? = some raw) (role : Role) : Reads raw .argument role operand := by
  induction call generalizing role with
  | self => exact Reads.call counts (reads_of_name? named)
  | argument outer _ ih => exact Reads.call outer (ih .argument)

/-- The arguments of the calls among the arguments of a tag occur in it. -/
theorem HasCall.occurs {element : Element} {expression : Expression}
    (speaks : tagExpression? element = some expression) (among : Counts operand expression.arguments)
    (call : HasCall head arguments operand) (counts : Counts leaf arguments)
    (named : leaf.name? = some raw) : Occurs raw .argument element := by
  cases element with
  | value other =>
    cases speaks
    exact Occurs.argument among (call.reads counts named _)
  | block other params indented body inverse =>
    cases speaks
    exact Occurs.blockArgument among (call.reads counts named _)
  | _ => cases speaks

/-- Of a value tag that is a call, only arguments of the tag occur. -/
theorem occurs_call_iff {role : Role} {others : List Argument} :
    Occurs raw role (.value ⟨.call head arguments, others⟩) ↔
      ∃ operand, Counts operand others ∧ Reads raw role .argument operand := by
  constructor
  · intro occurs
    cases occurs with
    | value _ named _ => cases named
    | argument counts inside => exact ⟨_, counts, inside⟩
  · rintro ⟨operand, counts, inside⟩
    exact Occurs.argument counts inside

end

theorem names_of_read {source : String} {template : Template}
    (done : Template.read source = .ok template) :
    (extract source).names = variablesOf (references template) := by
  rw [extract, done]

/-- In a source that is read, the base variable of a path that is an argument of a call is among the
variables if the call is among the arguments of a value tag or a block, at any depth, and no block around
has named the variable. The arguments of a call that is itself the name of a value tag do not occur, so
they add nothing to the variables, which are just those of the occurrences that are reported. -/
theorem extract_covers_calls (source : String) (template : Template)
    (done : Template.read source = .ok template) :
    (extract source).precision = .precise ∧
    (∀ (element : Element) (blocks : List Enclosure) (expression : Expression) (operand : Operand)
      (head : Operand) (arguments : List Argument) (leaf : Operand) (raw name : String),
      Stands element blocks template → tagExpression? element = some expression →
      Counts operand expression.arguments → HasCall head arguments operand →
      Counts leaf arguments → leaf.name? = some raw → baseVariable? raw = some name →
      (∀ enclosure ∈ blocks, name ∉ enclosure.params) → name ∈ (extract source).names) ∧
    (∀ name, name ∈ (extract source).names ↔ ∃ occurrence : Occurrence, occurrence.In template ∧
      ¬ occurrence.Bound ∧ baseVariable? occurrence.raw = some name) ∧
    ∀ (head : Operand) (arguments others : List Argument) (raw : String) (role : Role),
      Occurs raw role (.value ⟨.call head arguments, others⟩) ↔
        ∃ operand, Counts operand others ∧ Reads raw role .argument operand := by
  have names := names_of_read done
  refine ⟨(extract_precise_iff source).mpr ⟨template, done⟩, ?_, ?_,
    fun head arguments others raw role => occurs_call_iff⟩
  · intro element blocks expression operand head arguments leaf raw name stands speaks among call counts
      named base free
    rw [names, mem_variablesOf_references_iff]
    refine ⟨⟨raw, .argument, blocks⟩, ?_, ?_, base⟩
    · exact ⟨element, stands, call.occurs speaks among counts named⟩
    · rintro ⟨enclosure, member, given, listed, same⟩
      obtain rfl : name = given := Option.some.inj (base.symm.trans same)
      exact free enclosure member listed
  · intro name
    rw [names, mem_variablesOf_references_iff]

/-- The path in a call that is the one argument of the one tag of a template. -/
def innerPath? : Template → Option String
  | [.value ⟨.word _, [(none, .call _ [(none, .path path)])]⟩] => some path.raw
  | _ => none

theorem eq_of_innerPath? {template : Template} {raw : String}
    (inner : innerPath? template = some raw) : ∃ word head path, path.raw = raw ∧
      template = [.value ⟨.word word, [(none, .call head [(none, .path path)])]⟩] := by
  unfold innerPath? at inner
  split at inner
  · cases inner
    exact ⟨_, _, _, rfl, rfl⟩
  · cases inner

theorem extract_covers_calls_inner : ∃ template,
    Template.read "\x7b\x7bupper (lower x.y)\x7d\x7d" = .ok template ∧
      "x" ∈ (extract "\x7b\x7bupper (lower x.y)\x7d\x7d").names := by
  have calls : (Template.read "\x7b\x7bupper (lower x.y)\x7d\x7d").toOption.any
      (fun template => innerPath? template == some "x.y") = true := by
    decide +kernel
  obtain ⟨template, done, inner⟩ := Template.exists_of_read calls
  obtain ⟨word, head, path, written, rfl⟩ := eq_of_innerPath? (beq_iff_eq.mp inner)
  refine ⟨_, done, ?_⟩
  have covers := (extract_covers_calls _ _ done).2.1
  refine covers _ [] _ _ head _ (.path path) "x.y" "x" (Stands.here List.mem_cons_self) rfl
    (Or.inl List.mem_cons_self) HasCall.self (Or.inl List.mem_cons_self) (congrArg some written) ?_ ?_
  · decide +kernel
  · exact List.forall_mem_nil _

/-- The argument of a call that is the whole of a tag is not among the variables. -/
example : extract "\x7b\x7b(lower x)\x7d\x7d" = ⟨[], .precise⟩ := by decide +kernel

end Stencil.Extraction
