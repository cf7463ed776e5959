import Stencil.Template.Element
import Stencil.Template.Tag

set_option autoImplicit false

/-!
The paths of operands, tags and templates. `tag?_read` says that every path in a tag was read from
some text.
-/

namespace Stencil.Template

/-! ### Paths -/

mutual

/-- The paths in an operand, the name of a call among them. -/
def Operand.paths : Operand → List Path
  | .literal _ => []
  | .word _ => []
  | .path path => [path]
  | .call head arguments => head.paths ++ argumentPaths arguments

def argumentPaths : List Argument → List Path
  | [] => []
  | (_, operand) :: arguments => operand.paths ++ argumentPaths arguments

end

def Expression.paths (expression : Expression) : List Path :=
  expression.head.paths ++ argumentPaths expression.arguments

mutual

def Element.paths : Element → List Path
  | .text _ => []
  | .value expression => expression.paths
  | .block expression _ _ body inverse =>
    expression.paths ++ (elementPaths body ++ elementPaths inverse)
  | .inclusion expression _ _ => expression.paths
  | .inclusionBlock expression _ body => expression.paths ++ elementPaths body
  | .decoration expression => expression.paths
  | .decorationBlock expression body => expression.paths ++ elementPaths body
  | .comment _ => []

def elementPaths : List Element → List Path
  | [] => []
  | element :: elements => element.paths ++ elementPaths elements

end

/-- True for a path that the reader found in some text. -/
def Path.IsRead (path : Path) : Prop := ∃ text rest, Path.read? text = some (path, rest)

def AllRead (paths : List Path) : Prop := ∀ path ∈ paths, path.IsRead

@[simp] theorem allRead_nil : AllRead [] := by
  intro path member
  cases member

@[simp] theorem allRead_append (first second : List Path) :
    AllRead (first ++ second) ↔ AllRead first ∧ AllRead second := by
  simp only [AllRead, List.mem_append, or_imp, forall_and]

theorem elementPaths_append (first second : List Element) :
    elementPaths (first ++ second) = elementPaths first ++ elementPaths second := by
  induction first with
  | nil => rfl
  | cons element elements ih =>
    simp only [List.cons_append, elementPaths, ih, List.append_assoc]

theorem allRead_elementPaths_reverse (elements : List Element) :
    AllRead (elementPaths elements.reverse) ↔ AllRead (elementPaths elements) := by
  induction elements with
  | nil => rfl
  | cons element elements ih =>
    simp only [List.reverse_cons, elementPaths_append, elementPaths, allRead_append, ih,
      List.append_nil]
    exact and_comm

/-! ### Operands -/

/-- What was read has only paths that were read. -/
def OperandRead (operand : Checked Operand) : Prop :=
  ∀ checked, operand = .ok checked → AllRead checked.paths

def ExpressionRead (expression : Checked Expression) : Prop :=
  ∀ checked, expression = .ok checked → AllRead checked.paths

theorem mapM_arguments_read {arguments : List (Option String × Checked Operand)}
    (all : ∀ argument ∈ arguments, OperandRead argument.2) : ∀ checked : List Argument,
    (arguments.mapM fun argument => do return (argument.1, ← argument.2) :
      Checked (List Argument)) = .ok checked → AllRead (argumentPaths checked) := by
  induction arguments with
  | nil =>
    intro checked done
    cases done
    exact allRead_nil
  | cons argument arguments ih =>
    intro checked done
    obtain ⟨key, operand⟩ := argument
    have head : OperandRead operand := all (key, operand) List.mem_cons_self
    have tail := ih fun argument member => all argument (List.mem_cons_of_mem _ member)
    rw [List.mapM_cons] at done
    cases operand with
    | error invalid => cases done
    | ok operand =>
      cases rest : (arguments.mapM fun argument => do return (argument.1, ← argument.2) :
          Checked (List Argument)) with
      | error invalid =>
        rw [rest] at done
        cases done
      | ok others =>
        rw [rest] at done
        cases done
        simp only [argumentPaths, allRead_append]
        exact ⟨head operand rfl, tail others rest⟩

theorem callOf_read {head : Checked Operand} {arguments : List (Option String × Checked Operand)}
    (named : OperandRead head) (all : ∀ argument ∈ arguments, OperandRead argument.2) :
    ExpressionRead (callOf head arguments) := by
  intro checked done
  unfold callOf at done
  cases head with
  | error invalid => cases done
  | ok head =>
    cases rest : (arguments.mapM fun argument => do return (argument.1, ← argument.2) :
        Checked (List Argument)) with
    | error invalid =>
      simp only [rest] at done
      cases done
    | ok others =>
      simp only [rest] at done
      cases done
      simp only [Expression.paths, allRead_append]
      exact ⟨named head rfl, mapM_arguments_read all others rest⟩

theorem word_read (name : String) : OperandRead (.ok (.word name)) := by
  intro checked done
  cases done
  exact allRead_nil

theorem literalOf_read (text : List Char) : OperandRead (literalOf text) := by
  intro checked done
  unfold literalOf at done
  dsimp only at done
  split at done
  · cases done
    exact allRead_nil
  · cases done

/-- The four readers call each other with less fuel, so what they read is settled together. -/
structure Readers (fuel : Nat) : Prop where
  operand : ∀ text checked rest, operand? fuel text = some (checked, rest) → OperandRead checked
  call : ∀ text checked rest, call? fuel text = some (checked, rest) → OperandRead checked
  expression : ∀ text checked rest, expression? fuel text = some (checked, rest) →
    ExpressionRead checked
  arguments : ∀ text, ∀ argument ∈ (arguments fuel text).1, OperandRead argument.2

theorem path_read {text rest : List Char} {path : Path}
    (read : Path.read? text = some (path, rest)) : OperandRead (.ok (.path path)) := by
  intro checked done
  cases done
  intro other member
  simp only [Operand.paths, List.mem_singleton] at member
  exact member ▸ ⟨text, rest, read⟩

theorem toOperand_read {expression : Checked Expression} (read : ExpressionRead expression) :
    OperandRead (expression.map Expression.toOperand) := by
  intro checked done
  cases expression with
  | error invalid => cases done
  | ok expression =>
    cases done
    exact read expression rfl

theorem pathExpression_read {text rest : List Char} {path : Path}
    (read : Path.read? text = some (path, rest)) : ExpressionRead (.ok ⟨.path path, []⟩) := by
  intro checked done
  cases done
  have head := path_read read _ rfl
  simpa only [Expression.paths, argumentPaths, List.append_nil] using head

theorem readers (fuel : Nat) : Readers fuel := by
  induction fuel with
  | zero =>
    refine ⟨?_, ?_, ?_, ?_⟩
    · intro text checked rest read
      cases read
    · intro text checked rest read
      cases read
    · intro text checked rest read
      cases read
    · intro text argument member
      cases member
  | succ fuel ih =>
    refine ⟨?_, ?_, ?_, ?_⟩
    · intro text checked rest read
      simp only [operand?] at read
      split at read
      · cases read
      · split at read
        · rename_i result literal
          cases read
          obtain ⟨after, _, same⟩ := Option.map_eq_some_iff.mp literal
          cases same
          exact literalOf_read _
        · split at read
          · rename_i path after found
            cases read
            exact path_read found
          · exact ih.call text checked rest read
    · intro text checked rest read
      simp only [call?] at read
      split at read
      · split at read
        · rename_i expression after found
          obtain ⟨last, _, same⟩ := Option.map_eq_some_iff.mp read
          cases same
          exact toOperand_read (ih.expression _ _ _ found)
        · cases read
      · cases read
    · intro text checked rest read
      simp only [expression?] at read
      split at read
      · rename_i result call
        cases read
        obtain ⟨⟨name, after⟩, _, same⟩ := Option.bind_eq_some_iff.mp call
        dsimp only at same
        split at same
        · cases same
        · rename_i list last _ found
          cases same
          refine callOf_read (word_read name) ?_
          have all := ih.arguments after
          rw [found] at all
          exact all
      · obtain ⟨⟨path, after⟩, found, same⟩ := Option.map_eq_some_iff.mp read
        cases same
        exact pathExpression_read found
    · intro text argument member
      simp only [arguments] at member
      split at member
      · cases member
      · rename_i key operand rest found
        have first : OperandRead operand := by
          rcases Option.or_eq_some_iff.mp found with named | ⟨_, positional⟩
          · obtain ⟨⟨key, after⟩, _, same⟩ := Option.bind_eq_some_iff.mp named
            obtain ⟨⟨operand, last⟩, read, same⟩ := Option.map_eq_some_iff.mp same
            obtain ⟨start, _, read⟩ := Option.bind_eq_some_iff.mp read
            cases same
            exact ih.operand _ _ _ read
          · obtain ⟨⟨operand, last⟩, read, same⟩ := Option.map_eq_some_iff.mp positional
            cases same
            exact ih.operand _ _ _ read
        rcases List.mem_cons.mp member with rfl | member
        · exact first
        · exact ih.arguments rest argument member

/-! ### Tags -/

def TagKind.paths : TagKind → List Path
  | value expression => expression.paths
  | opening expression _ => expression.paths
  | chain expression _ => expression.paths
  | otherwise => []
  | inclusion expression => expression.paths
  | inclusionOpening expression => expression.paths
  | decoration expression => expression.paths
  | decorationOpening expression => expression.paths
  | closing _ _ => []
  | comment _ => []
  | rawOpening expression _ => expression.paths
  | rawClosing _ => []

def InsideRead (inside : Inside) : Prop := AllRead inside.kind.paths

theorem bareCall_read {text rest : List Char} {fuel : Nat} {call : Checked Operand}
    (read : call? fuel text = some (call, rest)) :
    ExpressionRead (call.map fun call => ⟨call, []⟩) := by
  intro checked done
  cases call with
  | error invalid => cases done
  | ok call =>
    cases done
    have head := (readers fuel).call text _ rest read call rfl
    simpa only [Expression.paths, argumentPaths, List.append_nil] using head

theorem valueExpression?_read {text rest : List Char} {expression : Checked Expression}
    (read : valueExpression? text = some (expression, rest)) : ExpressionRead expression := by
  simp only [valueExpression?] at read
  split at read
  · rename_i call after found
    cases read
    exact bareCall_read found
  · exact (readers _).expression _ _ _ read

theorem nameExpression?_read {text rest : List Char} {expression : Checked Expression}
    (read : nameExpression? text = some (expression, rest)) : ExpressionRead expression := by
  simp only [nameExpression?] at read
  split at read
  · rename_i call after found
    cases read
    exact bareCall_read found
  · obtain ⟨⟨path, after⟩, found, same⟩ := Option.map_eq_some_iff.mp read
    cases same
    exact pathExpression_read found

theorem line?_read {text rest : List Char} {line : Line} (read : line? text = some (line, rest)) :
    ExpressionRead line.expression := by
  obtain ⟨⟨name, after⟩, _, same⟩ := Option.map_eq_some_iff.mp read
  dsimp only at same
  split at same
  · cases same
    exact callOf_read (word_read name) ((readers _).arguments after)
  · cases same
    exact callOf_read (word_read name) ((readers _).arguments after)

theorem head_read {expression : Checked Expression} (read : ExpressionRead expression) :
    OperandRead (expression.map Expression.head) := by
  intro checked done
  cases expression with
  | error invalid => cases done
  | ok expression =>
    cases done
    have all := read expression rfl
    simp only [Expression.paths, allRead_append] at all
    exact all.1

theorem partialLine?_read {text rest : List Char} {expression : Checked Expression}
    (read : partialLine? text = some (expression, rest)) : ExpressionRead expression := by
  simp only [partialLine?] at read
  obtain ⟨⟨head, after⟩, found, same⟩ := Option.map_eq_some_iff.mp read
  cases same
  refine callOf_read ?_ ((readers _).arguments after)
  split at found
  · cases found
    exact word_read _
  · obtain ⟨⟨named, last⟩, readName, same⟩ := Option.map_eq_some_iff.mp found
    cases same
    exact head_read (nameExpression?_read readName)

theorem ended?_read {ending : String} {kind : Expression → TagKind}
    (paths : ∀ expression, (kind expression).paths = expression.paths)
    {expression : Checked Expression} {rest : List Char} {inside : Inside}
    (read : ExpressionRead expression) (done : ended? ending kind (expression, rest) = some inside) :
    InsideRead inside := by
  obtain ⟨⟨trims, after⟩, _, same⟩ := Option.map_eq_some_iff.mp done
  subst same
  cases expression with
  | error invalid =>
    intro path member
    simp only [Inside.of, paths, Expression.paths, Operand.paths, argumentPaths] at member
    cases member
  | ok expression =>
    intro path member
    simp only [Inside.of, paths] at member
    exact read expression rfl path member

theorem endedLine?_read {ending : String} {kind : Expression → List String → TagKind}
    (paths : ∀ expression params, (kind expression params).paths = expression.paths)
    {line : Line} {rest : List Char} {inside : Inside} (read : ExpressionRead line.expression)
    (done : endedLine? ending kind (line, rest) = some inside) : InsideRead inside :=
  ended?_read (fun expression => paths expression line.params) read done

theorem readLine_read {ending : String} {kind : Expression → List String → TagKind}
    (paths : ∀ expression params, (kind expression params).paths = expression.paths)
    {text : List Char} {inside : Inside}
    (done : (line? text).bind (endedLine? ending kind) = some inside) : InsideRead inside := by
  obtain ⟨⟨line, rest⟩, found, ended⟩ := Option.bind_eq_some_iff.mp done
  exact endedLine?_read paths (line?_read found) ended

theorem alternative?_read {text : List Char} {inside : Inside}
    (read : alternative? text = some inside) : InsideRead inside := by
  obtain ⟨rest, _, read⟩ := Option.bind_eq_some_iff.mp read
  split at read
  · cases read
    exact allRead_nil
  · exact readLine_read (fun _ _ => rfl) read

theorem plainValue?_read {text : List Char} {inside : Inside}
    (read : plainValue? text = some inside) : InsideRead inside := by
  simp only [plainValue?] at read
  split at read
  · obtain ⟨⟨expression, rest⟩, found, read⟩ := Option.bind_eq_some_iff.mp read
    obtain ⟨last, _, ended⟩ := Option.bind_eq_some_iff.mp read
    exact ended?_read (fun _ => rfl) (valueExpression?_read found) ended
  · obtain ⟨⟨expression, rest⟩, found, ended⟩ := Option.bind_eq_some_iff.mp read
    exact ended?_read (fun _ => rfl) (nameExpression?_read found) ended
  · cases read

theorem opening?_read {text : List Char} {inside : Inside} (read : opening? text = some inside) :
    InsideRead inside := by
  obtain ⟨rest, _, read⟩ := Option.bind_eq_some_iff.mp read
  split at read
  · exact readLine_read (fun _ _ => rfl) read
  · obtain ⟨⟨expression, rest⟩, found, ended⟩ := Option.bind_eq_some_iff.mp read
    exact ended?_read (fun _ => rfl) (partialLine?_read found) ended
  · exact readLine_read (fun _ _ => rfl) read

theorem decoration?_read {text : List Char} {inside : Inside}
    (read : decoration? text = some inside) : InsideRead inside := by
  obtain ⟨rest, _, read⟩ := Option.bind_eq_some_iff.mp read
  exact readLine_read (fun _ _ => rfl) read

theorem inclusion?_read {text : List Char} {inside : Inside}
    (read : inclusion? text = some inside) : InsideRead inside := by
  obtain ⟨rest, _, read⟩ := Option.bind_eq_some_iff.mp read
  obtain ⟨⟨expression, last⟩, found, ended⟩ := Option.bind_eq_some_iff.mp read
  exact ended?_read (fun _ => rfl) (partialLine?_read found) ended

theorem closing?_read {text : List Char} {inside : Inside} (read : closing? text = some inside) :
    InsideRead inside := by
  obtain ⟨rest, _, read⟩ := Option.bind_eq_some_iff.mp read
  obtain ⟨⟨name, trims, last⟩, _, read⟩ := Option.bind_eq_some_iff.mp read
  cases read
  exact allRead_nil

theorem comment?_read {text : List Char} {inside : Inside} (read : comment? text = some inside) :
    InsideRead inside := by
  obtain ⟨rest, _, read⟩ := Option.bind_eq_some_iff.mp read
  obtain ⟨⟨body, last⟩, _, read⟩ := Option.bind_eq_some_iff.mp read
  cases read
  exact allRead_nil

theorem tripleTag?_read {text : List Char} {before : Bool} {inside : Inside}
    (read : tripleTag? text = some (before, inside)) : InsideRead inside := by
  obtain ⟨rest, _, read⟩ := Option.bind_eq_some_iff.mp read
  dsimp only at read
  obtain ⟨⟨expression, last⟩, found, read⟩ := Option.bind_eq_some_iff.mp read
  obtain ⟨result, ended, read⟩ := Option.bind_eq_some_iff.mp read
  cases read
  exact ended?_read (fun _ => rfl) (valueExpression?_read found) ended

theorem rawOpening?_read {text : List Char} {before : Bool} {inside : Inside}
    (read : rawOpening? text = some (before, inside)) : InsideRead inside := by
  obtain ⟨rest, _, read⟩ := Option.bind_eq_some_iff.mp read
  dsimp only at read
  obtain ⟨result, ended, read⟩ := Option.bind_eq_some_iff.mp read
  cases read
  exact readLine_read (fun _ _ => rfl) ended

theorem rawClosing?_read {text : List Char} {before : Bool} {inside : Inside}
    (read : rawClosing? text = some (before, inside)) : InsideRead inside := by
  obtain ⟨rest, _, read⟩ := Option.bind_eq_some_iff.mp read
  dsimp only at read
  obtain ⟨last, _, read⟩ := Option.bind_eq_some_iff.mp read
  obtain ⟨⟨name, trims, final⟩, _, read⟩ := Option.bind_eq_some_iff.mp read
  cases read
  exact allRead_nil

theorem doubleTag?_read {text : List Char} {before : Bool} {inside : Inside}
    (read : doubleTag? text = some (before, inside)) : InsideRead inside := by
  simp only [doubleTag?] at read
  obtain ⟨result, found, same⟩ := Option.map_eq_some_iff.mp read
  cases same
  simp only [Option.orElse_eq_orElse, Option.orElse_eq_or, Option.or_eq_some_iff] at found
  rcases found with read | ⟨_, read | ⟨_, read | ⟨_, read | ⟨_, read | ⟨_, read | ⟨_, read⟩⟩⟩⟩⟩⟩
  · exact alternative?_read read
  · obtain ⟨⟨expression, rest⟩, found, ended⟩ := Option.bind_eq_some_iff.mp read
    exact ended?_read (fun _ => rfl) (valueExpression?_read found) ended
  · exact plainValue?_read read
  · exact opening?_read read
  · exact decoration?_read read
  · exact inclusion?_read read
  · exact closing?_read read

def TagRead (tag : Tag) : Prop := AllRead tag.kind.paths

theorem tag?_read {before text rest : List Char} {tag : Tag}
    (read : tag? before text = some (tag, rest)) : TagRead tag := by
  simp only [tag?] at read
  obtain ⟨⟨trims, inside⟩, found, same⟩ := Option.map_eq_some_iff.mp read
  cases same
  simp only [Option.orElse_eq_orElse, Option.orElse_eq_or, Option.or_eq_some_iff,
    Option.map_eq_some_iff] at found
  rcases found with ⟨comment, read, same⟩ | ⟨_, read | ⟨_, read | ⟨_, read⟩⟩⟩
  · cases same
    exact comment?_read read
  · exact tripleTag?_read read
  · exact doubleTag?_read read
  · exact rawOpening?_read read

end Stencil.Template
