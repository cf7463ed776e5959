import Stencil.Proofs.CoveredRendering

set_option autoImplicit false

/-!
The variables of a source are all that rendering reads of the data. Two objects that agree on them are
rendered to the same text or fail alike, whatever the helpers are, if looking up each path begins with
the path's base variable. A path that begins with another name breaks this, even alone.
-/

namespace Stencil.Render

open Extraction
open Template

/-! ### Paths that begin with another name -/

/-- An object in an object, along some names. -/
def nested : List String → Json
  | [] => .string "found"
  | name :: names => .object [(name, nested names)]

theorem walk_nested (names : List String) : walk (nested names) names = .ok (some (.string "found")) := by
  induction names with
  | nil => rfl
  | cons name names ih =>
    rw [nested, walk_object, Json.find?, if_pos rfl]
    exact ih

theorem foldlM_step_none (names : List String) : names.foldlM step none = .ok none := by
  induction names with
  | nil => rfl
  | cons name names ih => exact ih

theorem unpadded_of_builtin {name : String} {builtin : Builtin}
    (found : Builtin.find? name = some builtin) : Text.trim name.toList = name.toList := by
  unfold Builtin.find? at found
  split at found <;> first | decide | cases found

theorem contextAt_data (depth : Nat) (data : Json) : contextAt depth [Scope.ofData data] = data := by
  cases depth with
  | zero => rfl
  | succ depth => rfl

/-- A tag that is one path shows what the path leads to. -/
theorem render_path (environment : Environment) (plain : ∀ name, environment.helper? name = none)
    {path : Path} (free : Builtin.find? path.raw = none) {data : Json} {found : Option Json}
    (leads : resolve data [Scope.ofData data] path = .ok found) :
    render environment [.value ⟨.path path, []⟩] data =
      .ok (((State.start data).write ((found.map Json.shown).getD "")).text) := by
  have written : renderValue environment data ⟨.path path, []⟩ (State.start data) =
      .ok ((State.start data).write ((found.map Json.shown).getD "")) := by
    rw [renderValue_of_path environment rfl rfl (by rw [plain, free]; rfl)]
    show resolve data [Scope.ofData data] path >>= _ = _
    rw [leads]
    cases found with
    | some value => rfl
    | none =>
      show writeFound environment path.raw none (State.start data) = _
      rw [writeFound, plain]
      rfl
  show ((renderValue environment data ⟨.path path, []⟩ (State.start data)) >>= nothing).map
    State.text = _
  rw [written]
  rfl

/-- A path that begins with another name than its base variable reads what is not reported. -/
theorem exists_render_ne {path : Path} (read : path.IsRead) {name : String}
    (base : baseVariable? path.raw = some name) (other : path.firstName? ≠ some name) :
    ∃ first second, AgreeOn [name] first second ∧
      ∀ environment : Environment, (∀ name, environment.helper? name = none) →
        render environment [.value ⟨.path path, []⟩] (.object first) ≠
          render environment [.value ⟨.path path, []⟩] (.object second) := by
  obtain ⟨text, rest, found⟩ := read
  obtain ⟨written⟩ := Path.read?_written found
  have free : Builtin.find? path.raw = none := by
    cases found : Builtin.find? path.raw with
    | none => rfl
    | some builtin =>
      exact absurd (written.firstName?_of_baseVariable? (unpadded_of_builtin found) base) other
  obtain ⟨first, begins⟩ := written.exists_firstName? base
  have differs : name ≠ first := by
    rintro rfl
    exact other begins
  obtain ⟨depth, more, leads⟩ := resolve_of_firstName? begins
  have none? : ∀ data, param? first [Scope.ofData data] = none := fun _ => rfl
  refine ⟨[(first, nested more)], [], ?_, ?_⟩
  · intro other member
    obtain rfl := List.mem_singleton.mp member
    simp [Json.find?, differs]
  · intro environment plain same
    have present : resolve (.object [(first, nested more)])
        [Scope.ofData (.object [(first, nested more)])] path = .ok (some (.string "found")) := by
      rw [leads, none?, contextAt_data]
      exact walk_nested (first :: more)
    have absent : resolve (.object []) [Scope.ofData (.object [])] path = .ok none := by
      rw [leads, none?, contextAt_data]
      exact foldlM_step_none more
    rw [render_path environment plain free present, render_path environment plain free absent] at same
    exact absurd (Except.ok.inj same : "found" = "") (by decide)

theorem names_extract {source : String} {template : Template}
    (done : Template.read source = .ok template) :
    (extract source).names = variablesOf (references template) := by
  rw [extract, done]

/-- Rendering reads of the data the extracted variables only, if each path that is read begins with its
base variable. Paths without white space at their ends do. Where a path does not, it reads a name that
is not extracted, even in a source that is nothing but a tag of the path. -/
theorem render_reads_extracted (source : String) (template : Template)
    (done : Template.read source = .ok template) :
    (∀ (environment : Environment) (first second : List (String × Json)),
      elementsCovered Accepted false template → AgreeOn (extract source).names first second →
      render environment template (.object first) =
        render environment template (.object second)) ∧
    (∀ path ∈ elementPaths template, path.Unpadded → path.Aligned) ∧
    ∀ path : Path, template = [.value ⟨.path path, []⟩] → ¬ path.Aligned →
      ∃ first second, AgreeOn (extract source).names first second ∧
        ∀ environment : Environment, (∀ name, environment.helper? name = none) →
          render environment template (.object first) ≠
            render environment template (.object second) := by
  refine ⟨?_, ?_, ?_⟩
  · intro environment first second covered agree
    rw [names_extract done] at agree
    exact render_eq_of_agreeOn environment covered (isRead_of_read done) agree
  · intro path member unpadded name base
    obtain ⟨text, rest, found⟩ := isRead_of_read done path member
    obtain ⟨written⟩ := Path.read?_written found
    exact written.firstName?_of_baseVariable? unpadded base
  · rintro path rfl misaligned
    have read : path.IsRead := isRead_of_read done path List.mem_cons_self
    obtain ⟨name, base, other⟩ : ∃ name, baseVariable? path.raw = some name ∧
        path.firstName? ≠ some name := by
      simpa only [Path.Aligned, Classical.not_forall, exists_prop] using misaligned
    have alone : references [.value ⟨.path path, []⟩] = [⟨path.raw, .value, false⟩] := by
      simp [references_eq, templateReferences, elementReferences, valueReferences, Operand.name?,
        Surroundings.report, Surroundings.hides, Surroundings.outermost, base]
    have names : (extract source).names = [name] := by
      rw [names_extract done, alone]
      simp [variablesOf, base, distinctNames, addName]
    rw [names]
    exact exists_render_ne read base other

/-- The path of a template that is a tag of it. -/
def lonePath? : Template → Option Path
  | [.value ⟨.path path, []⟩] => some path
  | _ => none

theorem eq_of_lonePath? {template : Template} {path : Path}
    (lone : lonePath? template = some path) : template = [.value ⟨.path path, []⟩] := by
  unfold lonePath? at lone
  split at lone
  · cases lone
    rfl
  · cases lone

/-- A loop over `a` that shows its items. -/
def loopSource : String := "\x7b\x7b#each a\x7d\x7d\x7b\x7bthis\x7d\x7d\x7b\x7b/each\x7d\x7d"

/-- A tag with a no-break space before the name `x`. -/
def spacedSource : String := "\x7b\x7b\u00a0x\x7d\x7d"

/-- A loop reads what it is over, and a no-break space before a name is part of it. -/
theorem render_reads_extracted_loop_and_space :
    (∃ template, Template.read loopSource = .ok template ∧ ∀ environment : Environment,
      render environment template (.object [("a", .strings ["x"]), ("b", .null)]) =
        render environment template (.object [("a", .strings ["x"])])) ∧
    ∃ template, Template.read spacedSource = .ok template ∧
      ∃ first second, AgreeOn (extract spacedSource).names first second ∧
        ∀ environment : Environment, (∀ name, environment.helper? name = none) →
          render environment template (.object first) ≠
            render environment template (.object second) := by
  have loops : (Template.read loopSource).toOption.any
      (fun template => decide (elementsCovered Accepted false template)) = true := by
    decide +kernel
  have spaced : (Template.read spacedSource).toOption.any
      (fun template => (lonePath? template).any fun path => decide (¬ path.Aligned)) = true := by
    decide +kernel
  have names : (extract loopSource).names = ["a"] := by decide +kernel
  obtain ⟨loop, readLoop, covered⟩ := exists_of_read loops
  obtain ⟨tag, readTag, misaligned⟩ := exists_of_read spaced
  refine ⟨⟨loop, readLoop, fun environment => ?_⟩, tag, readTag, ?_⟩
  · refine (render_reads_extracted _ _ readLoop).1 environment _ _ (of_decide_eq_true covered) ?_
    rw [names]
    intro name member
    obtain rfl := List.mem_singleton.mp member
    rfl
  · obtain ⟨path, lone, differs⟩ := (Option.any_eq_true _ _).mp misaligned
    exact (render_reads_extracted _ _ readTag).2.2 path (eq_of_lonePath? lone)
      (of_decide_eq_true differs)

end Stencil.Render
