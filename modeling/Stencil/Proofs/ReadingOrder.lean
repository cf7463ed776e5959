import Stencil.Proofs.CountedArguments
import Stencil.Proofs.PlacedTags
import Stencil.Proofs.ReferenceScopes

set_option autoImplicit false

/-!
The order of reading. In a tag, and in every call of it, positional arguments are read in the order in
which they are written, and options behind them in ascending order of their names, the last of those with
one name. Every path that is read has a place in the source (`Form.stands`), the places of a tag whose
arguments are written in the order of reading ascend (`Form.ascending`), and the walk through a template
meets the paths of the tags in their order (`raws_occurrences`).
-/

namespace Stencil.Template

open Extraction (Occurrence Enclosure Role inOrder inOrder_map)

/-! ### Paths in order -/

mutual

/-- The paths that an operand reads, in the order of reading. -/
def Operand.raws : Operand → List String
  | .literal _ => []
  | .word name => [name]
  | .path path => [path.raw]
  | .call _ arguments => (inOrder (argumentRaws arguments)).flatten

def argumentRaws : List Argument → List (Option String × List String)
  | [] => []
  | (key, operand) :: arguments => (key, operand.raws) :: argumentRaws arguments

end

/-- The paths that the arguments of a call read. -/
def Expression.raws (expression : Expression) : List String :=
  (inOrder (argumentRaws expression.arguments)).flatten

/-- The paths that a value tag reads: its own if it has no arguments. -/
def Expression.valueRaws (expression : Expression) : List String :=
  if expression.arguments.isEmpty then expression.head.name?.toList else expression.raws

/-- The paths that a tag reads; those of the arguments of an inclusion are not visited. -/
def Speech.raws : Speech → List String
  | .value expression => expression.valueRaws
  | .block expression => expression.raws
  | .inclusion _ => []

section

variable (blocks : List Enclosure) (role : Role)

mutual

theorem raws_operandOccurrences (role : Role) : ∀ operand : Operand,
    (Extraction.operandOccurrences blocks role operand).map Occurrence.raw = operand.raws
  | .literal _ => rfl
  | .word _ => rfl
  | .path _ => rfl
  | .call _ arguments => by
    rw [Extraction.operandOccurrences, Operand.raws, ← raws_argumentOccurrences .argument arguments,
      inOrder_map, List.map_flatten]

theorem raws_argumentOccurrences (role : Role) : ∀ arguments : List Argument,
    (Extraction.argumentOccurrences blocks role arguments).map (fun argument =>
      (argument.1, argument.2.map Occurrence.raw)) = argumentRaws arguments
  | [] => rfl
  | (key, operand) :: arguments => by
    rw [Extraction.argumentOccurrences, List.map_cons, argumentRaws,
      raws_argumentOccurrences role arguments, raws_operandOccurrences role operand]

end

theorem raws_expressionOccurrences (expression : Expression) :
    (Extraction.expressionOccurrences blocks role expression).map Occurrence.raw = expression.raws := by
  rw [Extraction.expressionOccurrences, Expression.raws,
    ← raws_argumentOccurrences blocks role expression.arguments, inOrder_map, List.map_flatten]

theorem raws_valueOccurrences (expression : Expression) :
    (Extraction.valueOccurrences blocks expression).map Occurrence.raw = expression.valueRaws := by
  unfold Extraction.valueOccurrences Expression.valueRaws
  split
  · simp [Function.comp_def]
  · exact raws_expressionOccurrences blocks _ expression

mutual

theorem raws_elementOccurrences (blocks : List Enclosure) : ∀ element : Element,
    (Extraction.elementOccurrences blocks element).map Occurrence.raw =
      element.speeches.flatMap Speech.raws
  | .value expression => by
    rw [Extraction.elementOccurrences, raws_valueOccurrences]
    simp [Element.speeches, Speech.raws]
  | .block expression params indented body inverse => by
    simp only [Extraction.elementOccurrences, List.map_append, raws_expressionOccurrences,
      raws_occurrences, Element.speeches, List.flatMap_cons, List.flatMap_append, List.append_assoc]
    rfl
  | .inclusionBlock expression indented body => by
    simp [Extraction.elementOccurrences, raws_occurrences, Element.speeches, Speech.raws]
  | .decorationBlock expression body => by
    simp [Extraction.elementOccurrences, raws_occurrences, Element.speeches]
  | .text _ => by simp [Extraction.elementOccurrences, Element.speeches]
  | .inclusion _ _ _ => by simp [Extraction.elementOccurrences, Element.speeches, Speech.raws]
  | .decoration _ => by simp [Extraction.elementOccurrences, Element.speeches]
  | .comment _ => by simp [Extraction.elementOccurrences, Element.speeches]

/-- The walk meets the paths of each tag in the order of reading. -/
theorem raws_occurrences (blocks : List Enclosure) : ∀ elements : List Element,
    (Extraction.occurrences blocks elements).map Occurrence.raw =
      (elementSpeeches elements).flatMap Speech.raws
  | [] => by simp [Extraction.occurrences]
  | element :: elements => by
    rw [Extraction.occurrences, List.map_append, raws_elementOccurrences blocks element,
      raws_occurrences blocks elements, elementSpeeches, List.flatMap_append]

end

end

/-! ### Places -/

/-- A path and the position at which it stands. -/
structure Place where
  start : Nat
  raw : String
  deriving DecidableEq

mutual

/-- The places of the paths that an operand reads, in the order of reading, if it stands at a position. -/
def Form.places (start : Nat) : Form → List Place
  | .literal _ => []
  | .path written => [⟨start, written.path.raw⟩]
  | .call before phrase _ => phrase.places (start + 1 + before.text.length)

/-- Those of the arguments of a call. -/
def Phrase.places (start : Nat) : Phrase → List Place
  | .path _ => []
  | .named name arguments => (inOrder (arguments.entries (start + name.name.toList.length))).flatten

/-- Those of each argument. -/
def Forms.entries (start : Nat) : Forms → List (Option String × List Place)
  | .nil => []
  | .cons gap key form others =>
    let inner := start + gap.text.length + (keyOf key).length
    (key.map fun key => key.key.name, form.places inner) :: others.entries (inner + form.text.length)

end

theorem LiteralForm.raws_operand (literal : LiteralForm) : literal.operand.raws = [] := by
  unfold LiteralForm.operand literalOf
  dsimp only
  split
  · rename_i operand data
    split at data
    · cases data
      rfl
    · cases data
  · rfl

mutual

theorem Form.raws_places (start : Nat) : ∀ form : Form,
    (form.places start).map Place.raw = form.operand.raws
  | .literal literal => literal.raws_operand.symm
  | .path _ => rfl
  | .call before phrase after => by
    rw [Form.places, phrase.raws_places, Form.operand, Expression.toOperand, Operand.raws,
      Expression.raws]

theorem Phrase.raws_places (start : Nat) : ∀ phrase : Phrase,
    (phrase.places start).map Place.raw = phrase.expression.raws
  | .path _ => rfl
  | .named name arguments => by
    rw [Phrase.places, Phrase.expression, Expression.raws, List.map_flatten, ← inOrder_map,
      arguments.raws_entries]

theorem Forms.raws_entries (start : Nat) : ∀ forms : Forms,
    (forms.entries start).map (fun entry => (entry.1, entry.2.map Place.raw)) =
      argumentRaws forms.written
  | .nil => rfl
  | .cons gap key form others => by
    rw [Forms.entries, List.map_cons, Forms.written, argumentRaws, form.raws_places,
      others.raws_entries]

end

/-- A place of a path that stands in a text, which begins at a position of the source. -/
structure Place.In (start : Nat) (text : List Char) (place : Place) : Prop where
  stands : ∃ offset, place.start = start + offset ∧ StandsAt text offset place.raw.toList
  nonempty : place.raw.toList ≠ []

namespace Place.In

variable {start : Nat} {text : List Char} {place : Place}

theorem widen {before : List Char} (inside : place.In (start + before.length) text)
    (after : List Char) : place.In start (before ++ (text ++ after)) := by
  obtain ⟨⟨offset, same, stands⟩, nonempty⟩ := inside
  exact ⟨⟨before.length + offset, by omega, stands.widen before after⟩, nonempty⟩

theorem start_le (inside : place.In start text) : start ≤ place.start := by
  obtain ⟨⟨offset, same, _⟩, _⟩ := inside
  omega

theorem lt_stop (inside : place.In start text) : place.start < start + text.length := by
  obtain ⟨⟨offset, same, stands⟩, nonempty⟩ := inside
  have fits := stands.length_le
  have filled := List.length_pos_iff.mpr nonempty
  omega

end Place.In

theorem PathForm.nonempty (written : PathForm) : written.path.raw.toList ≠ [] := by
  obtain ⟨path, text, rest, read⟩ := written
  intro empty
  have whole := Path.raw_append read
  have shorter := (remains_path read).2
  rw [← whole, empty] at shorter
  exact Nat.lt_irrefl _ shorter

theorem PathForm.place_in (written : PathForm) (start : Nat) :
    (Place.mk start written.path.raw).In start written.path.raw.toList :=
  ⟨⟨0, rfl, StandsAt.whole _⟩, written.nonempty⟩

mutual

/-- The paths that an operand reads stand at their places. -/
theorem Form.stands (start : Nat) : ∀ form : Form, ∀ place ∈ form.places start,
    place.In start form.text
  | .literal _, _, member => absurd member List.not_mem_nil
  | .path written, _, member => by
    rw [List.mem_singleton.mp member]
    exact written.place_in start
  | .call before phrase after, place, member => by
    have inside := phrase.stands _ place member
    have position : start + 1 + before.text.length = start + ('(' :: before.text).length := by
      simp only [List.length_cons]
      omega
    rw [position] at inside
    exact inside.widen (after.text ++ [')'])

theorem Phrase.stands (start : Nat) : ∀ phrase : Phrase, ∀ place ∈ phrase.places start,
    place.In start phrase.text
  | .path _, _, member => absurd member List.not_mem_nil
  | .named name arguments, place, member => by
    obtain ⟨places, among, inside⟩ := List.mem_flatten.mp member
    obtain ⟨key, listed⟩ := Extraction.exists_of_mem_inOrder among
    have stands := (arguments.stands _ _ listed place inside).widen []
    rwa [List.append_nil] at stands

theorem Forms.stands (start : Nat) : ∀ forms : Forms, ∀ entry ∈ forms.entries start,
    ∀ place ∈ entry.2, place.In start forms.text
  | .nil, _, member => absurd member List.not_mem_nil
  | .cons gap key form others, entry, member => by
    have split : (Forms.cons gap key form others).text =
        (gap.text ++ keyOf key) ++ (form.text ++ others.text) := by simp [Forms.text]
    rw [split]
    intro place inside
    rcases List.mem_cons.mp member with rfl | member
    · have stands := form.stands _ place inside
      rw [Nat.add_assoc, ← List.length_append] at stands
      exact stands.widen others.text
    · have stands := others.stands _ entry member place inside
      have position : start + gap.text.length + (keyOf key).length + form.text.length =
          start + ((gap.text ++ keyOf key) ++ form.text).length := by
        simp only [List.length_append]
        omega
      rw [position] at stands
      simpa using stands.widen []

end

/-! ### Ascending places -/

/-- Positional arguments come before options, and options in ascending order of their names. -/
def comesBefore : Option String → Option String → Bool
  | none, _ => true
  | some _, none => false
  | some first, some second => decide (first < second)

/-- The keys of arguments in the order of reading. -/
def InReadingOrder (keys : List (Option String)) : Prop :=
  keys.Pairwise fun first second => comesBefore first second = true

instance (keys : List (Option String)) : Decidable (InReadingOrder keys) :=
  inferInstanceAs (Decidable (keys.Pairwise fun first second => comesBefore first second = true))

section

variable {α : Type}

theorem comesBefore_some {first : String} {second : Option String}
    (ordered : comesBefore (some first) second = true) :
    ∃ later, second = some later ∧ first < later := by
  cases second with
  | none => cases ordered
  | some later => exact ⟨later, rfl, of_decide_eq_true ordered⟩

theorem insertNamed_of_above {key : String} {value : α} {entries : List (String × α)}
    (above : ∀ entry ∈ entries, entry.1 < key) :
    insertNamed key value entries = entries ++ [(key, value)] := by
  induction entries with
  | nil => rfl
  | cons entry entries ih =>
    obtain ⟨less, above⟩ := List.forall_mem_cons.mp above
    have after : ¬ key < entry.1 := fun before => String.lt_irrefl _ (String.lt_trans less before)
    have differs : key ≠ entry.1 := fun same => String.lt_irrefl _ (same ▸ less)
    simp [insertNamed, after, differs, ih above]

/-- Options in ascending order are kept as they are. -/
theorem foldl_putNamed_of_ordered (arguments : List (Option String × α)) :
    ∀ entries : List (String × α), InReadingOrder (arguments.map Prod.fst) →
      (∀ entry ∈ entries, ∀ argument ∈ arguments, comesBefore (some entry.1) argument.1 = true) →
      entries ≠ [] →
      (arguments.foldl putNamed entries).map Prod.snd =
        entries.map Prod.snd ++ arguments.map Prod.snd := by
  induction arguments with
  | nil => simp
  | cons argument arguments ih =>
    intro entries ordered above nonempty
    obtain ⟨key, value⟩ := argument
    obtain ⟨first, further⟩ := List.pairwise_cons.mp ordered
    obtain ⟨entry, others, rfl⟩ := List.exists_cons_of_ne_nil nonempty
    obtain ⟨name, rfl, _⟩ := comesBefore_some (above entry List.mem_cons_self _ List.mem_cons_self)
    have less : ∀ known ∈ entry :: others, known.1 < name := by
      intro known member
      obtain ⟨later, same, less⟩ := comesBefore_some (above known member _ List.mem_cons_self)
      cases same
      exact less
    have put : putNamed (entry :: others) (some name, value) =
        (entry :: others) ++ [(name, value)] := insertNamed_of_above less
    have kept := ih (entry :: others ++ [(name, value)]) further ?_ (by simp)
    · rw [List.foldl_cons, put, kept]
      simp
    · intro known member argument listed
      rcases List.mem_append.mp member with member | member
      · exact above known member argument (List.mem_cons_of_mem _ listed)
      · rw [List.mem_singleton.mp member]
        exact first argument.1 (List.mem_map_of_mem listed)

/-- Arguments that are written in the order of reading are read as they are written. -/
theorem inOrder_of_ordered (arguments : List (Option String × α))
    (ordered : InReadingOrder (arguments.map Prod.fst)) :
    inOrder arguments = arguments.map Prod.snd := by
  induction arguments with
  | nil => rfl
  | cons argument arguments ih =>
    obtain ⟨key, value⟩ := argument
    obtain ⟨first, further⟩ := List.pairwise_cons.mp ordered
    cases key with
    | none => exact congrArg (value :: ·) (ih further)
    | some name =>
      have options : ∀ argument ∈ arguments, argument.1.isNone = false := by
        intro argument member
        obtain ⟨later, same, _⟩ := comesBefore_some (first argument.1 (List.mem_map_of_mem member))
        rw [same]
        rfl
      have positional : (arguments.filterMap fun argument =>
          if argument.1.isNone then some argument.2 else none) = [] := by
        rw [List.filterMap_eq_nil_iff]
        intro argument member
        simp [options argument member]
      have options := foldl_putNamed_of_ordered arguments [(name, value)] further
        (fun entry member argument listed => by
          rw [List.mem_singleton.mp member]
          exact first argument.1 (List.mem_map_of_mem listed)) (by simp)
      have put : named ((some name, value) :: arguments) =
          arguments.foldl putNamed [(name, value)] := by
        rw [named_eq_foldl]
        rfl
      rw [inOrder, put, options]
      simpa using positional

end

mutual

/-- An operand in whose calls the arguments are written in the order of reading. -/
def Form.Tidy : Form → Prop
  | .literal _ => True
  | .path _ => True
  | .call _ phrase _ => phrase.Tidy

def Phrase.Tidy : Phrase → Prop
  | .path _ => True
  | .named _ arguments => InReadingOrder (arguments.written.map Prod.fst) ∧ arguments.Tidy

def Forms.Tidy : Forms → Prop
  | .nil => True
  | .cons _ _ form others => form.Tidy ∧ others.Tidy

end

theorem Forms.keys_entries (start : Nat) : ∀ forms : Forms,
    (forms.entries start).map Prod.fst = forms.written.map Prod.fst
  | .nil => rfl
  | .cons gap key form others => by
    rw [Forms.entries, Forms.written, List.map_cons, List.map_cons, others.keys_entries]

/-- The places of a path before those of another. -/
def Ascend (places : List Place) : Prop :=
  places.Pairwise fun first second => first.start < second.start

mutual

/-- In a tidy operand the places ascend. -/
theorem Form.ascending (start : Nat) : ∀ form : Form, form.Tidy → Ascend (form.places start)
  | .literal _, _ => List.Pairwise.nil
  | .path _, _ => List.pairwise_singleton _ _
  | .call _ phrase _, tidy => phrase.ascending _ tidy

theorem Phrase.ascending (start : Nat) : ∀ phrase : Phrase, phrase.Tidy →
    Ascend (phrase.places start)
  | .path _, _ => List.Pairwise.nil
  | .named name arguments, tidy => by
    rw [Phrase.places, inOrder_of_ordered]
    · exact arguments.ascending _ tidy.2
    · rw [arguments.keys_entries]
      exact tidy.1

theorem Forms.ascending (start : Nat) : ∀ forms : Forms, forms.Tidy →
    Ascend ((forms.entries start).map Prod.snd).flatten
  | .nil, _ => List.Pairwise.nil
  | .cons gap key form others, tidy => by
    rw [Forms.entries, List.map_cons, List.flatten_cons]
    refine List.pairwise_append.mpr ⟨form.ascending _ tidy.1, others.ascending _ tidy.2, ?_⟩
    intro first here second member
    obtain ⟨places, among, there⟩ := List.mem_flatten.mp member
    obtain ⟨entry, listed, rfl⟩ := List.mem_map.mp among
    have ends := (form.stands _ first here).lt_stop
    have begins := (others.stands _ entry listed second there).start_le
    exact Nat.lt_of_lt_of_le ends begins

end

end Stencil.Template
