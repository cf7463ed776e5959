import Mathlib.Data.List.Basic
import Stencil.Proofs.CallArguments

set_option autoImplicit false

/-!
The arguments that count. All positional arguments do, and of several options with one name the last
(`mem_inOrder_iff`).
-/

namespace Stencil.Template

section

variable {α : Type}

/-- An option that no later one of its name replaces. -/
def LastGiven (key : String) (value : α) (arguments : List (Option String × α)) : Prop :=
  ∃ before after, arguments = before ++ (some key, value) :: after ∧
    ∀ other ∈ after, other.1 ≠ some key

/-- An argument that is positional, or an option that is not replaced. -/
def Counts (value : α) (arguments : List (Option String × α)) : Prop :=
  (none, value) ∈ arguments ∨ ∃ key, LastGiven key value arguments

/-- Options in ascending order of different names. -/
def Ascending (entries : List (String × α)) : Prop :=
  entries.Pairwise fun first second => first.1 < second.1

theorem mem_insertNamed_iff {key : String} {value : α} {entries : List (String × α)}
    (ascending : Ascending entries) {entry : String × α} :
    entry ∈ insertNamed key value entries ↔
      entry = (key, value) ∨ entry ∈ entries ∧ entry.1 ≠ key := by
  induction entries with
  | nil => simp [insertNamed]
  | cons other entries ih =>
    obtain ⟨name, old⟩ := other
    obtain ⟨above, ascending⟩ := List.pairwise_cons.mp ascending
    have later : ∀ entry ∈ entries, key < name ∨ key = name → entry.1 ≠ key := by
      intro entry member below same
      have less : name < entry.1 := above entry member
      rw [same] at less
      rcases below with below | rfl
      · exact String.lt_irrefl _ (String.lt_trans below less)
      · exact String.lt_irrefl _ less
    simp only [insertNamed]
    split
    · rename_i below
      have differs : name ≠ key := by
        rintro rfl
        exact String.lt_irrefl _ below
      have free : ∀ entry ∈ (name, old) :: entries, entry.1 ≠ key :=
        List.forall_mem_cons.mpr ⟨differs, fun entry member => later entry member (Or.inl below)⟩
      rw [List.mem_cons, and_iff_left_of_imp (free entry)]
    · split
      · rename_i same
        subst same
        have gone : ¬ (entry = (key, old) ∧ entry.1 ≠ key) := by
          rintro ⟨rfl, other⟩
          exact other rfl
        have free : entry ∈ entries → entry.1 ≠ key := fun member => later entry member (Or.inr rfl)
        rw [List.mem_cons, List.mem_cons, or_and_right, and_iff_left_of_imp free]
        simp only [gone, false_or]
      · rename_i differs
        have kept : entry = (name, old) → entry.1 ≠ key := by
          rintro rfl
          exact Ne.symm differs
        rw [List.mem_cons, ih ascending, List.mem_cons, or_and_right, and_iff_left_of_imp kept]
        exact or_left_comm

theorem ascending_insertNamed {key : String} {value : α} {entries : List (String × α)}
    (ascending : Ascending entries) : Ascending (insertNamed key value entries) := by
  induction entries with
  | nil => exact List.pairwise_singleton _ _
  | cons other entries ih =>
    obtain ⟨name, old⟩ := other
    have whole := ascending
    obtain ⟨above, ascending⟩ := List.pairwise_cons.mp ascending
    simp only [insertNamed]
    split
    · rename_i below
      refine List.pairwise_cons.mpr ⟨fun entry member => ?_, whole⟩
      rcases List.mem_cons.mp member with rfl | member
      · exact below
      · exact String.lt_trans below (above entry member)
    · split
      · rename_i same
        subst same
        exact List.pairwise_cons.mpr (List.pairwise_cons.mp whole)
      · rename_i after differs
        refine List.pairwise_cons.mpr ⟨fun entry member => ?_, ih ascending⟩
        rcases (mem_insertNamed_iff ascending).mp member with rfl | ⟨member, _⟩
        · refine String.not_le.mp fun below => differs ?_
          exact String.le_antisymm (String.not_lt.mp after) below |>.symm
        · exact above entry member

theorem lastGiven_cons_of_ne {key : String} {value : α} {argument : Option String × α}
    (other : argument.1 ≠ some key) (arguments : List (Option String × α)) :
    LastGiven key value (argument :: arguments) ↔ LastGiven key value arguments := by
  constructor
  · rintro ⟨before, after, same, free⟩
    cases before with
    | nil =>
      obtain ⟨rfl, rfl⟩ := List.cons.inj same
      exact absurd rfl other
    | cons first before => exact ⟨before, after, (List.cons.inj same).2, free⟩
  · rintro ⟨before, after, rfl, free⟩
    exact ⟨argument :: before, after, rfl, free⟩

theorem lastGiven_cons_self {key : String} {value other : α} (arguments : List (Option String × α)) :
    LastGiven key value ((some key, other) :: arguments) ↔
      LastGiven key value arguments ∨ value = other ∧ ∀ later ∈ arguments, later.1 ≠ some key := by
  constructor
  · rintro ⟨before, after, same, free⟩
    cases before with
    | nil =>
      obtain ⟨first, rfl⟩ := List.cons.inj same
      exact Or.inr ⟨(Prod.mk.inj first).2.symm, free⟩
    | cons first before => exact Or.inl ⟨before, after, (List.cons.inj same).2, free⟩
  · rintro (⟨before, after, rfl, free⟩ | ⟨rfl, free⟩)
    · exact ⟨(some key, other) :: before, after, rfl, free⟩
    · exact ⟨[], arguments, rfl, free⟩

theorem counts_nil {value : α} : ¬ Counts value ([] : List (Option String × α)) := by
  rintro (member | ⟨key, before, after, same, _⟩)
  · cases member
  · cases before <;> cases same

theorem counts_cons_none {value other : α} (arguments : List (Option String × α)) :
    Counts value ((none, other) :: arguments) ↔ value = other ∨ Counts value arguments := by
  have last : ∀ key, LastGiven key value ((none, other) :: arguments) ↔
      LastGiven key value arguments := fun key => lastGiven_cons_of_ne (by simp) arguments
  simp [Counts, last, or_assoc]

/-- An option counts unless its key is given again behind it. -/
theorem counts_cons_some {key : String} {value other : α} (arguments : List (Option String × α)) :
    Counts value ((some key, other) :: arguments) ↔
      (value = other ∧ ∀ later ∈ arguments, later.1 ≠ some key) ∨ Counts value arguments := by
  have last : ∀ name, LastGiven name value ((some key, other) :: arguments) ↔
      LastGiven name value arguments ∨
        name = key ∧ value = other ∧ ∀ later ∈ arguments, later.1 ≠ some key := by
    intro name
    by_cases same : name = key
    · subst same
      rw [lastGiven_cons_self]
      simp
    · rw [lastGiven_cons_of_ne (by simpa using Ne.symm same)]
      simp [same]
  simp only [Counts, last, List.mem_cons, Prod.mk.injEq, reduceCtorEq, false_and, false_or,
    exists_or, exists_eq_left]
  rw [← or_assoc, or_comm]

/-- What arguments put in turn leave of the entries before them. -/
theorem mem_foldl_putNamed (arguments : List (Option String × α)) {entry : String × α} :
    ∀ entries : List (String × α), Ascending entries →
      (entry ∈ arguments.foldl putNamed entries ↔
        LastGiven entry.1 entry.2 arguments ∨
          entry ∈ entries ∧ ∀ other ∈ arguments, other.1 ≠ some entry.1) := by
  induction arguments with
  | nil => simp [LastGiven]
  | cons argument arguments ih =>
    obtain ⟨key, value⟩ := argument
    intro entries ascending
    cases key with
    | none =>
      have put : putNamed entries (none, value) = entries := rfl
      rw [List.foldl_cons, put, ih entries ascending, lastGiven_cons_of_ne (by simp),
        List.forall_mem_cons]
      simp
    | some key =>
      have put : putNamed entries (some key, value) = insertNamed key value entries := rfl
      rw [List.foldl_cons, put, ih _ (ascending_insertNamed ascending),
        mem_insertNamed_iff ascending]
      by_cases same : entry.1 = key
      · subst same
        rw [lastGiven_cons_self, List.forall_mem_cons]
        have value_eq : entry = (entry.1, value) ↔ entry.2 = value := by simp [Prod.ext_iff]
        rw [value_eq]
        simp
      · rw [lastGiven_cons_of_ne (by simpa using Ne.symm same), List.forall_mem_cons]
        have differs : entry ≠ (key, value) := fun whole => same (congrArg Prod.fst whole)
        simp [differs, same, Ne.symm same]

theorem mem_named_iff {arguments : List (Option String × α)} {entry : String × α} :
    entry ∈ named arguments ↔ LastGiven entry.1 entry.2 arguments := by
  rw [named_eq_foldl, mem_foldl_putNamed arguments [] List.Pairwise.nil]
  simp

end

end Stencil.Template

namespace Stencil.Extraction

open Template (Counts mem_named_iff)

theorem mem_inOrder_iff {α : Type} {arguments : List (Option String × α)} {value : α} :
    value ∈ inOrder arguments ↔ Counts value arguments := by
  rw [inOrder, List.mem_append, List.mem_filterMap, List.mem_map]
  refine or_congr ⟨?_, ?_⟩ ⟨?_, ?_⟩
  · rintro ⟨⟨key, entry⟩, member, same⟩
    cases key with
    | none =>
      cases same
      exact member
    | some key => cases same
  · exact fun member => ⟨(none, value), member, rfl⟩
  · rintro ⟨entry, member, rfl⟩
    exact ⟨entry.1, mem_named_iff.mp member⟩
  · rintro ⟨key, last⟩
    exact ⟨(key, value), mem_named_iff.mpr last, rfl⟩

end Stencil.Extraction
