import Stencil.Extraction.Reference
import Stencil.Proofs.OpenData

set_option autoImplicit false

/-!
The arguments of a call, positional ones first and then the options in order of their names. Of several
options with one name only the last is evaluated, and only the last is a reference, so what is known of
the references decides the evaluated arguments (`gather_fixed`).
-/

namespace Stencil.Template

section

variable {α β : Type}

theorem insertNamed_map (f : α → β) (key : String) (value : α) (entries : List (String × α)) :
    insertNamed key (f value) (entries.map fun entry => (entry.1, f entry.2)) =
      (insertNamed key value entries).map fun entry => (entry.1, f entry.2) := by
  induction entries with
  | nil => rfl
  | cons entry entries ih =>
    simp only [List.map_cons, insertNamed]
    split
    · rfl
    · split
      · rfl
      · rw [ih, List.map_cons]

/-- Puts an argument among those with names, if it has one. -/
def putNamed (entries : List (String × α)) (argument : Option String × α) : List (String × α) :=
  argument.1.elim entries fun key => insertNamed key argument.2 entries

theorem named_eq_foldl (arguments : List (Option String × α)) :
    named arguments = arguments.foldl putNamed [] := by
  unfold named
  congr 1
  funext entries argument
  obtain ⟨key, value⟩ := argument
  cases key with
  | none => rfl
  | some key => rfl

theorem named_map (f : α → β) (arguments : List (Option String × α)) :
    named (arguments.map fun argument => (argument.1, f argument.2)) =
      (named arguments).map fun entry => (entry.1, f entry.2) := by
  have further : ∀ entries : List (String × α),
      (arguments.map fun argument => (argument.1, f argument.2)).foldl putNamed
          (entries.map fun entry => (entry.1, f entry.2)) =
        (arguments.foldl putNamed entries).map fun entry => (entry.1, f entry.2) := by
    induction arguments with
    | nil =>
      intro entries
      rfl
    | cons argument arguments ih =>
      intro entries
      obtain ⟨key, value⟩ := argument
      cases key with
      | none => exact ih entries
      | some key =>
        rw [List.map_cons, List.foldl_cons, List.foldl_cons]
        show (arguments.map _).foldl putNamed (insertNamed key (f value) _) = _
        rw [insertNamed_map]
        exact ih _
  rw [named_eq_foldl, named_eq_foldl]
  exact further []

theorem mem_insertNamed {key : String} {value : α} {entries : List (String × α)}
    {entry : String × α} (member : entry ∈ insertNamed key value entries) :
    entry = (key, value) ∨ entry ∈ entries := by
  induction entries with
  | nil => exact Or.inl (List.mem_singleton.mp member)
  | cons other entries ih =>
    simp only [insertNamed] at member
    split at member
    · exact List.mem_cons.mp member
    · split at member
      · rcases List.mem_cons.mp member with same | member
        · exact Or.inl same
        · exact Or.inr (List.mem_cons_of_mem _ member)
      · rcases List.mem_cons.mp member with same | member
        · exact Or.inr (by rw [same]; exact List.mem_cons_self)
        · exact (ih member).imp id (List.mem_cons_of_mem _)

theorem mem_named {arguments : List (Option String × α)} {entry : String × α}
    (member : entry ∈ named arguments) : (some entry.1, entry.2) ∈ arguments := by
  have further : ∀ entries : List (String × α),
      entry ∈ arguments.foldl putNamed entries →
        entry ∈ entries ∨ (some entry.1, entry.2) ∈ arguments := by
    clear member
    induction arguments with
    | nil => exact fun entries found => Or.inl found
    | cons argument arguments ih =>
      intro entries found
      obtain ⟨key, value⟩ := argument
      cases key with
      | none => exact (ih entries found).imp id (List.mem_cons_of_mem _)
      | some key =>
        rcases ih _ found with found | found
        · rcases mem_insertNamed found with rfl | found
          · exact Or.inr List.mem_cons_self
          · exact Or.inl found
        · exact Or.inr (List.mem_cons_of_mem _ found)
  rw [named_eq_foldl] at member
  rcases further [] member with found | found
  · cases found
  · exact found

end

end Stencil.Template

namespace Stencil.Extraction

open Template (Operand Argument named)

section

variable {α β : Type}

theorem inOrder_map (f : α → β) (arguments : List (Option String × α)) :
    inOrder (arguments.map fun argument => (argument.1, f argument.2)) =
      (inOrder arguments).map f := by
  rw [inOrder, inOrder, Template.named_map, List.map_append, List.filterMap_map, List.map_map,
    List.map_map, List.map_filterMap]
  congr 2
  funext argument
  obtain ⟨key, value⟩ := argument
  cases key with
  | none => rfl
  | some key => rfl

theorem exists_of_mem_inOrder {arguments : List (Option String × α)} {value : α}
    (member : value ∈ inOrder arguments) : ∃ key, (key, value) ∈ arguments := by
  rcases List.mem_append.mp member with found | found
  · obtain ⟨⟨key, other⟩, found, same⟩ := List.mem_filterMap.mp found
    cases key with
    | none =>
      cases same
      exact ⟨none, found⟩
    | some key => cases same
  · obtain ⟨⟨key, other⟩, kept, same⟩ := List.mem_map.mp found
    cases same
    exact ⟨some key, Template.mem_named kept⟩

end

theorem argumentReferences_eq_map (around : Surroundings) (role : Role)
    (arguments : List Argument) : argumentReferences around role arguments =
      arguments.map fun argument => (argument.1, operandReferences around role argument.2) := by
  induction arguments with
  | nil => rfl
  | cons argument arguments ih => rw [argumentReferences, ih, List.map_cons]

/-- The references of arguments are those of each that counts. -/
theorem mem_references_of_mem {around : Surroundings} {role : Role} {arguments : List Argument}
    {operand : Operand} (member : operand ∈ inOrder arguments) {reference : Reference}
    (found : reference ∈ operandReferences around role operand) :
    reference ∈ (inOrder (argumentReferences around role arguments)).flatten := by
  rw [argumentReferences_eq_map, inOrder_map]
  exact List.mem_flatten.mpr ⟨_, List.mem_map_of_mem member, found⟩

end Stencil.Extraction

namespace Stencil.Render

open Extraction (inOrder)
open Template (Operand Argument named)

theorem evaluateArguments_eq_map (environment : Environment) (data : Json) (scopes : List Scope)
    (arguments : List Argument) : evaluateArguments environment data scopes arguments =
      arguments.map fun argument =>
        (argument.1, (evaluate environment data scopes argument.2).map (·.getD .null)) := by
  induction arguments with
  | nil => rfl
  | cons argument arguments ih => rw [evaluateArguments, ih, List.map_cons]

section

variable {ι α β : Type}

theorem mapM_fixed {values : List α} {f : ι → α → Rendered β}
    (each : ∀ value ∈ values, Fixed fun i => f i value) : Fixed fun i => values.mapM (f i) := by
  induction values with
  | nil => exact ⟨.ok [], fun _ => rfl⟩
  | cons value values ih =>
    have rest := ih fun other member => each other (List.mem_cons_of_mem _ member)
    simp only [List.mapM_cons]
    exact (each value List.mem_cons_self).bind fun found =>
      rest.bind fun others => ⟨_, fun _ => rfl⟩

/-- Arguments are the same if each one that counts has the same value. -/
theorem gather_fixed {arguments : List Argument} {value : ι → Operand → Rendered Json}
    (each : ∀ operand ∈ inOrder arguments, Fixed fun i => value i operand) :
    Fixed fun i => Arguments.gather (arguments.map fun argument =>
      (argument.1, value i argument.2)) := by
  have positional : Fixed fun i => ((arguments.map fun argument =>
      (argument.1, value i argument.2)).filterMap fun argument =>
        if argument.1.isNone then some argument.2 else none).mapM id := by
    have kept : ∀ i, ((arguments.map fun argument =>
        (argument.1, value i argument.2)).filterMap fun argument =>
          if argument.1.isNone then some argument.2 else none) =
        (Template.positional arguments).map (value i) := by
      intro i
      rw [Template.positional, List.filterMap_map, List.map_filterMap]
      congr 1
      funext argument
      obtain ⟨key, operand⟩ := argument
      cases key with
      | none => rfl
      | some key => rfl
    simp only [kept, List.mapM_map]
    exact mapM_fixed fun operand member => each operand (List.mem_append_left _ member)
  have options : Fixed fun i => (named (arguments.map fun argument =>
      (argument.1, value i argument.2))).mapM fun entry =>
        (do return (entry.1, ← entry.2) : Rendered (String × Json)) := by
    simp only [Template.named_map, List.mapM_map]
    refine mapM_fixed fun entry member => ?_
    have counts : entry.2 ∈ inOrder arguments :=
      List.mem_append_right _ (List.mem_map_of_mem member)
    exact (each entry.2 counts).bind fun found => ⟨.ok (entry.1, found), fun _ => rfl⟩
  exact positional.bind fun values => options.bind fun entries => ⟨_, fun _ => rfl⟩

end

end Stencil.Render
