import Stencil.Proofs.CountedArguments
import Stencil.Proofs.ObservationTable
import Stencil.Proofs.Walking
import Stencil.Template.Nesting

set_option autoImplicit false

/-!
The scopes of references. Every path that a template reads occurs at a place: it is a value tag, an
argument or an argument inside of a call there, and it stands in the main parts of some blocks. A walk
reports an occurrence unless one of these blocks has given its first name to a value, and as shifted if
one of them changes the context; the arguments of a block and its alternative belong to neither
(`walk_scopes`).
-/

namespace Stencil.Extraction

open Template (Operand Argument Expression Element Counts)

/-! ### Places -/

/-- A block around a place: its name, and the names that it gives to values. -/
structure Enclosure where
  block : String
  params : List String

/-- A path at a place, with the blocks in whose main parts it stands, innermost first. -/
structure Occurrence where
  raw : String
  role : Role
  blocks : List Enclosure

namespace Occurrence

/-- True if a block around has given the first name of the path to a value. -/
def Bound (occurrence : Occurrence) : Prop :=
  ∃ enclosure ∈ occurrence.blocks, ∃ name ∈ enclosure.params,
    baseVariable? occurrence.raw = some name

/-- True inside of a block that changes the context. -/
def Shifted (occurrence : Occurrence) : Prop :=
  ∃ enclosure ∈ occurrence.blocks, enclosure.block = "each" ∨ enclosure.block = "with"

instance (occurrence : Occurrence) : Decidable occurrence.Bound :=
  inferInstanceAs (Decidable (∃ enclosure ∈ occurrence.blocks, ∃ name ∈ enclosure.params,
    baseVariable? occurrence.raw = some name))

instance (occurrence : Occurrence) : Decidable occurrence.Shifted :=
  inferInstanceAs (Decidable (∃ enclosure ∈ occurrence.blocks,
    enclosure.block = "each" ∨ enclosure.block = "with"))

/-- The reference that an occurrence makes. -/
def reported? (occurrence : Occurrence) : Option Reference :=
  if occurrence.Bound then none
  else some ⟨occurrence.raw, occurrence.role, decide occurrence.Shifted⟩

end Occurrence

/-- The name that a tag begins with, if it has one. -/
def blockName (expression : Expression) : String := (expression.head.name?).getD ""

/-- A path is read by an operand: it is the operand, or an argument that counts in a call. The operand
has the role `role`, and the path the role `found`. -/
inductive Reads (raw : String) (found : Role) : Role → Operand → Prop where
  | word : Reads raw found found (.word raw)
  | path {path : Template.Path} (written : path.raw = raw) : Reads raw found found (.path path)
  | call {role : Role} {head operand : Operand} {arguments : List Argument}
      (counts : Counts operand arguments) (inside : Reads raw found .argument operand) :
      Reads raw found role (.call head arguments)

/-- A path occurs in the tag of an element: as the whole of a value, or as an argument. -/
inductive Occurs (raw : String) (found : Role) : Element → Prop where
  | value {expression : Expression} (alone : expression.arguments = [])
      (named : expression.head.name? = some raw) (role : found = .value) :
      Occurs raw found (.value expression)
  | argument {expression : Expression} {operand : Operand}
      (counts : Counts operand expression.arguments) (inside : Reads raw found .argument operand) :
      Occurs raw found (.value expression)
  | blockArgument {expression : Expression} {params : List String} {indented : Bool}
      {body inverse : List Element} {operand : Operand}
      (counts : Counts operand expression.arguments)
      (inside : Reads raw found (.blockArgument (blockName expression)) operand) :
      Occurs raw found (.block expression params indented body inverse)

/-- The elements inside of an element, with what stands around them: the main part of a block is inside
of the block, and its alternative is not. -/
inductive Part : Element → List Enclosure → List Element → Prop where
  | body (expression : Expression) (params : List String) (indented : Bool)
      (body inverse : List Element) :
      Part (.block expression params indented body inverse) [⟨blockName expression, params⟩] body
  | inverse (expression : Expression) (params : List String) (indented : Bool)
      (body inverse : List Element) : Part (.block expression params indented body inverse) [] inverse
  | inclusion (expression : Expression) (indented : Bool) (body : List Element) :
      Part (.inclusionBlock expression indented body) [] body
  | decoration (expression : Expression) (body : List Element) :
      Part (.decorationBlock expression body) [] body

/-- An element stands among elements, in the main parts of some blocks, innermost first. -/
inductive Stands (element : Element) : List Enclosure → List Element → Prop where
  | here {elements : List Element} (member : element ∈ elements) : Stands element [] elements
  | inside {elements body : List Element} {outer : Element} {added blocks : List Enclosure}
      (member : outer ∈ elements) (part : Part outer added body) (stands : Stands element blocks body) :
      Stands element (blocks ++ added) elements

/-- A path occurs in a template. -/
def Occurrence.In (occurrence : Occurrence) (template : Template) : Prop :=
  ∃ element, Stands element occurrence.blocks template ∧ Occurs occurrence.raw occurrence.role element

/-! ### Occurrences in order -/

mutual

/-- The paths that an operand reads. -/
def operandOccurrences (blocks : List Enclosure) (role : Role) : Operand → List Occurrence
  | .literal _ => []
  | .word name => [⟨name, role, blocks⟩]
  | .path path => [⟨path.raw, role, blocks⟩]
  | .call _ arguments => (inOrder (argumentOccurrences blocks .argument arguments)).flatten

def argumentOccurrences (blocks : List Enclosure) (role : Role) :
    List Argument → List (Option String × List Occurrence)
  | [] => []
  | (key, operand) :: arguments =>
    (key, operandOccurrences blocks role operand) :: argumentOccurrences blocks role arguments

end

def expressionOccurrences (blocks : List Enclosure) (role : Role) (expression : Expression) :
    List Occurrence :=
  (inOrder (argumentOccurrences blocks role expression.arguments)).flatten

def valueOccurrences (blocks : List Enclosure) (expression : Expression) : List Occurrence :=
  if expression.arguments.isEmpty then
    (expression.head.name?).toList.map fun raw => ⟨raw, .value, blocks⟩
  else expressionOccurrences blocks .argument expression

mutual

def elementOccurrences (blocks : List Enclosure) : Element → List Occurrence
  | .value expression => valueOccurrences blocks expression
  | .block expression params _ body inverse =>
    expressionOccurrences blocks (.blockArgument (blockName expression)) expression ++
      occurrences (⟨blockName expression, params⟩ :: blocks) body ++ occurrences blocks inverse
  | .inclusionBlock _ _ body => occurrences blocks body
  | .decorationBlock _ body => occurrences blocks body
  | .text _ => []
  | .inclusion _ _ _ => []
  | .decoration _ => []
  | .comment _ => []

/-- The paths that elements read inside of some blocks, in the order of the walk. -/
def occurrences (blocks : List Enclosure) : List Element → List Occurrence
  | [] => []
  | element :: elements => elementOccurrences blocks element ++ occurrences blocks elements

end

/-! ### What is reported -/

/-- The surroundings inside of some blocks. -/
def surroundingsOf (blocks : List Enclosure) : Surroundings :=
  ⟨(blocks.map Enclosure.params).flatten,
    blocks.any fun enclosure => Surroundings.shifting.contains enclosure.block⟩

theorem surroundingsOf_cons (block : String) (params : List String) (blocks : List Enclosure) :
    surroundingsOf (⟨block, params⟩ :: blocks) = (surroundingsOf blocks).inside block params := by
  simp only [surroundingsOf, Surroundings.inside, List.map_cons, List.flatten_cons, List.any_cons,
    Bool.or_comm]

/-- A path is reported in the surroundings of some blocks as its occurrence there is. -/
theorem report_surroundingsOf (blocks : List Enclosure) (raw : String) (role : Role) :
    (surroundingsOf blocks).report raw role =
      [(⟨raw, role, blocks⟩ : Occurrence)].filterMap Occurrence.reported? := by
  have hidden : (surroundingsOf blocks).hides raw = true ↔
      (⟨raw, role, blocks⟩ : Occurrence).Bound := by
    simp only [Surroundings.hides, surroundingsOf, Occurrence.Bound]
    cases base : baseVariable? raw with
    | none => simp
    | some name => simp
  have shifted : (surroundingsOf blocks).shifted =
      decide (⟨raw, role, blocks⟩ : Occurrence).Shifted := by
    rw [Bool.eq_iff_iff, decide_eq_true_iff]
    simp [surroundingsOf, Occurrence.Shifted, Surroundings.shifting]
  by_cases bound : (⟨raw, role, blocks⟩ : Occurrence).Bound
  · simp [Surroundings.report, Occurrence.reported?, bound, hidden.mpr bound]
  · have free : (surroundingsOf blocks).hides raw = false :=
      Bool.eq_false_iff.mpr fun hides => bound (hidden.mp hides)
    simp [Surroundings.report, Occurrence.reported?, bound, free, shifted]

theorem argumentOccurrences_eq_map (blocks : List Enclosure) (role : Role)
    (arguments : List Argument) : argumentOccurrences blocks role arguments =
      arguments.map fun argument => (argument.1, operandOccurrences blocks role argument.2) := by
  induction arguments with
  | nil => rfl
  | cons argument arguments ih => rw [argumentOccurrences, ih, List.map_cons]

/-- Arguments have the references of their occurrences if each of them has. -/
theorem references_of_arguments {blocks : List Enclosure} {role : Role} {arguments : List Argument}
    (each : ∀ argument ∈ arguments, operandReferences (surroundingsOf blocks) role argument.2 =
      (operandOccurrences blocks role argument.2).filterMap Occurrence.reported?) :
    (inOrder (argumentReferences (surroundingsOf blocks) role arguments)).flatten =
      (inOrder (argumentOccurrences blocks role arguments)).flatten.filterMap
        Occurrence.reported? := by
  rw [argumentReferences_eq_map, argumentOccurrences_eq_map, inOrder_map, inOrder_map,
    List.filterMap_flatten, List.map_map]
  congr 1
  refine List.map_congr_left fun operand member => ?_
  obtain ⟨key, member⟩ := exists_of_mem_inOrder member
  exact each (key, operand) member

mutual

theorem operandReferences_eq (blocks : List Enclosure) (role : Role) : ∀ operand : Operand,
    operandReferences (surroundingsOf blocks) role operand =
      (operandOccurrences blocks role operand).filterMap Occurrence.reported?
  | .literal _ => rfl
  | .word name => report_surroundingsOf blocks name role
  | .path path => report_surroundingsOf blocks path.raw role
  | .call _ arguments => references_of_arguments (operandReferences_of_mem blocks .argument arguments)

theorem operandReferences_of_mem (blocks : List Enclosure) (role : Role) :
    ∀ arguments : List Argument, ∀ argument ∈ arguments,
      operandReferences (surroundingsOf blocks) role argument.2 =
        (operandOccurrences blocks role argument.2).filterMap Occurrence.reported?
  | [], _, member => absurd member List.not_mem_nil
  | (_, operand) :: arguments, argument, member => by
    rcases List.mem_cons.mp member with rfl | member
    · exact operandReferences_eq blocks role operand
    · exact operandReferences_of_mem blocks role arguments argument member

end

theorem expressionReferences_eq (blocks : List Enclosure) (role : Role) (expression : Expression) :
    expressionReferences (surroundingsOf blocks) role expression =
      (expressionOccurrences blocks role expression).filterMap Occurrence.reported? :=
  references_of_arguments (operandReferences_of_mem blocks role expression.arguments)

theorem valueReferences_eq (blocks : List Enclosure) (expression : Expression) :
    valueReferences (surroundingsOf blocks) expression =
      (valueOccurrences blocks expression).filterMap Occurrence.reported? := by
  unfold valueReferences valueOccurrences
  split
  · cases expression.head.name? with
    | none => rfl
    | some raw => exact report_surroundingsOf blocks raw .value
  · exact expressionReferences_eq blocks .argument expression

mutual

theorem elementReferences_eq (blocks : List Enclosure) : ∀ element : Element,
    elementReferences (surroundingsOf blocks) element =
      (elementOccurrences blocks element).filterMap Occurrence.reported?
  | .value expression => valueReferences_eq blocks expression
  | .block expression params _ body inverse => by
    rw [elementReferences, elementOccurrences, List.filterMap_append, List.filterMap_append,
      ← expressionReferences_eq, ← templateReferences_eq _ body, ← templateReferences_eq _ inverse,
      surroundingsOf_cons]
    rfl
  | .inclusionBlock _ _ body => templateReferences_eq blocks body
  | .decorationBlock _ body => templateReferences_eq blocks body
  | .text _ => rfl
  | .inclusion _ _ _ => rfl
  | .decoration _ => rfl
  | .comment _ => rfl

theorem templateReferences_eq (blocks : List Enclosure) : ∀ elements : List Element,
    templateReferences (surroundingsOf blocks) elements =
      (occurrences blocks elements).filterMap Occurrence.reported?
  | [] => rfl
  | element :: elements => by
    rw [templateReferences, occurrences, List.filterMap_append, elementReferences_eq blocks element,
      templateReferences_eq blocks elements]

end

/-- The references of a template are its occurrences that are reported, in their order. -/
theorem references_eq_filterMap (template : Template) :
    references template = (occurrences [] template).filterMap Occurrence.reported? := by
  rw [references_eq]
  exact templateReferences_eq [] template

/-! ### Where paths occur -/

variable {occurrence : Occurrence} {blocks : List Enclosure} {role : Role}

theorem mem_of_arguments {arguments : List Argument}
    (each : ∀ argument ∈ arguments, occurrence ∈ operandOccurrences blocks role argument.2 ↔
      occurrence.blocks = blocks ∧ Reads occurrence.raw occurrence.role role argument.2) :
    occurrence ∈ (inOrder (argumentOccurrences blocks role arguments)).flatten ↔
      occurrence.blocks = blocks ∧
        ∃ operand, Counts operand arguments ∧ Reads occurrence.raw occurrence.role role operand := by
  rw [argumentOccurrences_eq_map, inOrder_map, List.mem_flatten]
  constructor
  · rintro ⟨_, listed, member⟩
    obtain ⟨operand, found, rfl⟩ := List.mem_map.mp listed
    obtain ⟨key, inside⟩ := exists_of_mem_inOrder found
    obtain ⟨same, reads⟩ := (each (key, operand) inside).mp member
    exact ⟨same, operand, mem_inOrder_iff.mp found, reads⟩
  · rintro ⟨same, operand, counts, reads⟩
    have found := mem_inOrder_iff.mpr counts
    obtain ⟨key, inside⟩ := exists_of_mem_inOrder found
    exact ⟨_, List.mem_map_of_mem found, (each (key, operand) inside).mpr ⟨same, reads⟩⟩

theorem mem_singleton_occurrence {raw : String} :
    occurrence ∈ [(⟨raw, role, blocks⟩ : Occurrence)] ↔
      occurrence.blocks = blocks ∧ occurrence.raw = raw ∧ occurrence.role = role := by
  obtain ⟨other, otherRole, around⟩ := occurrence
  simp only [List.mem_singleton, Occurrence.mk.injEq]
  exact ⟨fun ⟨a, b, c⟩ => ⟨c, a, b⟩, fun ⟨c, a, b⟩ => ⟨a, b, c⟩⟩

mutual

theorem mem_operandOccurrences (role : Role) : ∀ operand : Operand,
    occurrence ∈ operandOccurrences blocks role operand ↔
      occurrence.blocks = blocks ∧ Reads occurrence.raw occurrence.role role operand
  | .literal _ => by
    refine ⟨fun member => (by cases member), ?_⟩
    rintro ⟨_, reads⟩
    cases reads
  | .word name => by
    rw [operandOccurrences, mem_singleton_occurrence]
    refine and_congr_right fun _ => ⟨?_, ?_⟩
    · rintro ⟨rfl, rfl⟩
      exact Reads.word
    · intro reads
      cases reads
      exact ⟨rfl, rfl⟩
  | .path path => by
    rw [operandOccurrences, mem_singleton_occurrence]
    refine and_congr_right fun _ => ⟨?_, ?_⟩
    · rintro ⟨same, rfl⟩
      exact Reads.path same.symm
    · intro reads
      cases reads with
      | path written => exact ⟨written.symm, rfl⟩
  | .call head arguments => by
    rw [operandOccurrences, mem_of_arguments (mem_operandOccurrences_of_mem .argument arguments)]
    refine and_congr_right fun _ => ⟨?_, ?_⟩
    · rintro ⟨operand, counts, reads⟩
      exact Reads.call counts reads
    · intro reads
      cases reads with
      | call counts inside => exact ⟨_, counts, inside⟩

theorem mem_operandOccurrences_of_mem (role : Role) : ∀ arguments : List Argument,
    ∀ argument ∈ arguments, occurrence ∈ operandOccurrences blocks role argument.2 ↔
      occurrence.blocks = blocks ∧ Reads occurrence.raw occurrence.role role argument.2
  | [], _, member => absurd member List.not_mem_nil
  | (_, operand) :: arguments, argument, member => by
    rcases List.mem_cons.mp member with rfl | member
    · exact mem_operandOccurrences role operand
    · exact mem_operandOccurrences_of_mem role arguments argument member

end

theorem mem_expressionOccurrences {expression : Expression} :
    occurrence ∈ expressionOccurrences blocks role expression ↔
      occurrence.blocks = blocks ∧ ∃ operand, Counts operand expression.arguments ∧
        Reads occurrence.raw occurrence.role role operand :=
  mem_of_arguments (mem_operandOccurrences_of_mem role expression.arguments)

theorem mem_valueOccurrences {expression : Expression} :
    occurrence ∈ valueOccurrences blocks expression ↔
      occurrence.blocks = blocks ∧ Occurs occurrence.raw occurrence.role (.value expression) := by
  unfold valueOccurrences
  split
  · rename_i empty
    have alone : expression.arguments = [] := List.isEmpty_iff.mp empty
    constructor
    · intro member
      obtain ⟨raw, named, rfl⟩ := List.mem_map.mp member
      exact ⟨rfl, Occurs.value alone (by simpa using named) rfl⟩
    · rintro ⟨rfl, occurs⟩
      cases occurs with
      | value _ named role =>
        refine List.mem_map.mpr ⟨occurrence.raw, by simpa using named, ?_⟩
        rw [← role]
      | argument counts inside =>
        rw [alone] at counts
        exact absurd counts Template.counts_nil
  · rename_i nonempty
    rw [mem_expressionOccurrences]
    refine and_congr_right fun _ => ⟨?_, ?_⟩
    · rintro ⟨operand, counts, reads⟩
      exact Occurs.argument counts reads
    · intro occurs
      cases occurs with
      | value alone named role => exact absurd (List.isEmpty_iff.mpr alone) nonempty
      | argument counts inside => exact ⟨_, counts, inside⟩

/-- An element in which no path occurs and which has no parts. -/
theorem mem_silentOccurrences {element : Element} (none : elementOccurrences blocks element = [])
    (silent : ¬ Occurs occurrence.raw occurrence.role element)
    (lone : ∀ added body, ¬ Part element added body) {within : List Enclosure → List Element → Prop} :
    occurrence ∈ elementOccurrences blocks element ↔
      occurrence.blocks = blocks ∧ Occurs occurrence.raw occurrence.role element ∨
        ∃ added body, Part element added body ∧ within added body := by
  rw [none]
  constructor
  · intro member
    cases member
  · rintro (⟨_, occurs⟩ | ⟨added, body, part, _⟩)
    · exact absurd occurs silent
    · exact absurd part (lone added body)

/-- A path occurs in an element among some elements, which stand in some blocks themselves. -/
def OccursWithin (occurrence : Occurrence) (blocks : List Enclosure) (elements : List Element) : Prop :=
  ∃ inner element, occurrence.blocks = inner ++ blocks ∧ Stands element inner elements ∧
    Occurs occurrence.raw occurrence.role element

theorem occursWithin_iff {elements : List Element} : OccursWithin occurrence blocks elements ↔
    ∃ element ∈ elements, occurrence.blocks = blocks ∧ Occurs occurrence.raw occurrence.role element ∨
      ∃ added body, Part element added body ∧ OccursWithin occurrence (added ++ blocks) body := by
  constructor
  · rintro ⟨inner, place, same, stands, occurs⟩
    cases stands with
    | here member => exact ⟨place, member, Or.inl ⟨same, occurs⟩⟩
    | inside member part stands =>
      rw [List.append_assoc] at same
      exact ⟨_, member, Or.inr ⟨_, _, part, _, place, same, stands, occurs⟩⟩
  · rintro ⟨element, member, ⟨same, occurs⟩ | ⟨added, body, part, inner, place, same, stands, occurs⟩⟩
    · exact ⟨[], element, same, Stands.here member, occurs⟩
    · rw [← List.append_assoc] at same
      exact ⟨_, place, same, Stands.inside member part stands, occurs⟩

/-- An element in whose tag no path occurs, and whose only part is a body in the same blocks. -/
theorem mem_wrappedOccurrences {element : Element} {body : List Element}
    (silent : ¬ Occurs occurrence.raw occurrence.role element) (wraps : Part element [] body)
    (only : ∀ added inner, Part element added inner → added = [] ∧ inner = body) :
    OccursWithin occurrence blocks body ↔
      occurrence.blocks = blocks ∧ Occurs occurrence.raw occurrence.role element ∨
        ∃ added body, Part element added body ∧ OccursWithin occurrence (added ++ blocks) body := by
  constructor
  · exact fun within => Or.inr ⟨[], body, wraps, within⟩
  · rintro (⟨_, occurs⟩ | ⟨added, inner, part, within⟩)
    · exact absurd occurs silent
    · obtain ⟨rfl, rfl⟩ := only added inner part
      exact within

mutual

theorem mem_elementOccurrences : ∀ (element : Element) (blocks : List Enclosure),
    occurrence ∈ elementOccurrences blocks element ↔
      occurrence.blocks = blocks ∧ Occurs occurrence.raw occurrence.role element ∨
        ∃ added body, Part element added body ∧ OccursWithin occurrence (added ++ blocks) body
  | .value expression, blocks => by
    rw [elementOccurrences, mem_valueOccurrences]
    refine ⟨Or.inl, ?_⟩
    rintro (found | ⟨_, _, part, _⟩)
    · exact found
    · cases part
  | .block expression params indented body inverse, blocks => by
    rw [elementOccurrences, List.mem_append, List.mem_append, mem_expressionOccurrences,
      mem_occurrences body, mem_occurrences inverse, or_assoc]
    refine or_congr (and_congr_right fun _ => ⟨?_, ?_⟩) ⟨?_, ?_⟩
    · rintro ⟨operand, counts, reads⟩
      exact Occurs.blockArgument counts reads
    · intro occurs
      cases occurs with
      | blockArgument counts inside => exact ⟨_, counts, inside⟩
    · rintro (main | alternative)
      · exact ⟨_, _, Part.body expression params indented body inverse, main⟩
      · exact ⟨_, _, Part.inverse expression params indented body inverse, alternative⟩
    · rintro ⟨added, inner, part, within⟩
      cases part with
      | body => exact Or.inl within
      | inverse => exact Or.inr within
  | .inclusionBlock expression indented body, blocks =>
    (mem_occurrences body blocks).trans (mem_wrappedOccurrences (by rintro ⟨⟩)
      (Part.inclusion expression indented body) (by rintro _ _ ⟨⟩; exact ⟨rfl, rfl⟩))
  | .decorationBlock expression body, blocks =>
    (mem_occurrences body blocks).trans (mem_wrappedOccurrences (by rintro ⟨⟩)
      (Part.decoration expression body) (by rintro _ _ ⟨⟩; exact ⟨rfl, rfl⟩))
  | .text _, _ => mem_silentOccurrences rfl (by rintro ⟨⟩) (by rintro _ _ ⟨⟩)
  | .inclusion _ _ _, _ => mem_silentOccurrences rfl (by rintro ⟨⟩) (by rintro _ _ ⟨⟩)
  | .decoration _, _ => mem_silentOccurrences rfl (by rintro ⟨⟩) (by rintro _ _ ⟨⟩)
  | .comment _, _ => mem_silentOccurrences rfl (by rintro ⟨⟩) (by rintro _ _ ⟨⟩)

/-- The occurrences of elements are the paths that occur in them. -/
theorem mem_occurrences : ∀ (elements : List Element) (blocks : List Enclosure),
    occurrence ∈ occurrences blocks elements ↔ OccursWithin occurrence blocks elements
  | [], blocks => by
    rw [occursWithin_iff]
    simp [occurrences]
  | element :: elements, blocks => by
    rw [occurrences, List.mem_append, mem_elementOccurrences element, mem_occurrences elements,
      occursWithin_iff, occursWithin_iff, List.exists_mem_cons_iff]

end

theorem mem_occurrences_iff {template : Template} :
    occurrence ∈ occurrences [] template ↔ occurrence.In template := by
  rw [mem_occurrences]
  constructor
  · rintro ⟨inner, element, same, stands, occurs⟩
    rw [List.append_nil] at same
    subst same
    exact ⟨element, stands, occurs⟩
  · rintro ⟨element, stands, occurs⟩
    exact ⟨occurrence.blocks, element, (List.append_nil _).symm, stands, occurs⟩

theorem mem_references_iff {template : Template} {reference : Reference} :
    reference ∈ references template ↔ ∃ occurrence : Occurrence, occurrence.In template ∧
      ¬ occurrence.Bound ∧
      reference = ⟨occurrence.raw, occurrence.role, decide occurrence.Shifted⟩ := by
  rw [references_eq_filterMap, List.mem_filterMap]
  refine exists_congr fun occurrence => and_congr mem_occurrences_iff ?_
  unfold Occurrence.reported?
  split
  · rename_i bound
    simp [bound]
  · rename_i free
    simp [free, eq_comm]

/-- The variables of a template are those of its occurrences that are reported. -/
theorem mem_variablesOf_references_iff {template : Template} {name : String} :
    name ∈ variablesOf (references template) ↔ ∃ occurrence : Occurrence, occurrence.In template ∧
      ¬ occurrence.Bound ∧ baseVariable? occurrence.raw = some name := by
  rw [mem_variablesOf]
  constructor
  · rintro ⟨reference, member, base⟩
    obtain ⟨occurrence, occurs, free, rfl⟩ := mem_references_iff.mp member
    exact ⟨occurrence, occurs, free, base⟩
  · rintro ⟨occurrence, occurs, free, base⟩
    exact ⟨_, mem_references_iff.mpr ⟨occurrence, occurs, free, rfl⟩, base⟩

/-- The references of a template are its occurrences in the order of the walk, each but those whose
first name a block around has given to a value, and as shifted inside of blocks that change the context.
The occurrences are the paths of its tags. A walk comes out of each element as it went in. -/
theorem walk_scopes (template : Template) :
    references template = (occurrences [] template).filterMap (fun occurrence =>
      if occurrence.Bound then none
      else some ⟨occurrence.raw, occurrence.role, decide occurrence.Shifted⟩) ∧
    (∀ occurrence, occurrence ∈ occurrences [] template ↔ occurrence.In template) ∧
    ∀ (element : Element) (walker : Walker), (walkElement element walker).scopes = walker.scopes ∧
      (walkElement element walker).shifts = walker.shifts := by
  refine ⟨references_eq_filterMap template, fun occurrence => mem_occurrences_iff, ?_⟩
  intro element walker
  rw [walkElement_eq]
  exact ⟨rfl, rfl⟩

/-- A block parameter hides a variable in the main part of its block, and not in the alternative. -/
example : (Template.read
    ("\x7b\x7b#each us as |u|\x7d\x7d\x7b\x7bu.name\x7d\x7d\x7b\x7bx\x7d\x7d" ++
      "\x7b\x7belse\x7d\x7d\x7b\x7bu\x7d\x7d\x7b\x7b/each\x7d\x7d")).toOption.map references =
    some [⟨"us", .blockArgument "each", false⟩, ⟨"x", .value, true⟩, ⟨"u", .value, false⟩] := by
  decide +kernel

end Stencil.Extraction
