import Stencil.Proofs.CallCoverage
import Stencil.Proofs.FieldPaths
import Stencil.Proofs.ShapeKinds

set_option autoImplicit false

/-!
Where the leaves of inferred shapes come from. A leaf at some fields of a variable, a value, a list or an
object without fields, comes from a tag that writes, iterates over or enters a path to those fields
(`leaves_have_uses`). Any argument of the block will do, and a path that goes on with an index is taken
for the one to its container; the uses of a variable that agree all show.
-/

namespace Stencil.Extraction

open Template (Operand Argument Expression Element Counts positional)

/-! ### Leaves -/

namespace Shape

/-- The shape that fields lead to, if all of them are there. -/
def at? : List String → Shape → Option Shape
  | [], shape => some shape
  | name :: path, .object fields => (field? name fields).bind (at? path)
  | _ :: _, _ => none

/-- A shape that says something and has no fields. -/
def IsLeaf (shape : Shape) : Prop := shape.kind ≠ .any ∧ ∀ name, at? [name] shape = none

section

variable {name : String} {path : List String} {first second shape leaf : Shape}

@[simp] theorem at?_nil (shape : Shape) : at? [] shape = some shape := by
  unfold at?
  rfl

theorem at?_object (name : String) (path : List String) (fields : List (String × Shape)) :
    at? (name :: path) (.object fields) = (field? name fields).bind (at? path) := rfl

theorem at?_cons_eq_none (other : shape.kind ≠ .object) : at? (name :: path) shape = none := by
  cases shape with
  | object fields => exact absurd rfl other
  | _ => rfl

/-- The outermost form of what fields lead to. -/
theorem kindAt_eq_map (path : List String) (shape : Shape) :
    kindAt path shape = (at? path shape).map kind := by
  induction path generalizing shape with
  | nil => simp
  | cons name path ih =>
    by_cases object : shape.kind = .object
    · obtain ⟨fields, rfl⟩ := exists_object_of_kind object
      rw [kindAt_object, at?_object]
      cases field? name fields with
      | none => rfl
      | some inner => exact ih inner
    · rw [kindAt_cons_eq_none object, at?_cons_eq_none object]
      rfl

/-- What is in a merged shape is in one of the two, or merged from both. -/
theorem at?_merge (found : at? path (merge first second) = some leaf) :
    at? path first = some leaf ∨ at? path second = some leaf ∨
      ∃ inner other, at? path first = some inner ∧ at? path second = some other ∧
        leaf = merge inner other := by
  induction path generalizing first second with
  | nil => exact .inr (.inr ⟨first, second, at?_nil _, at?_nil _, by simpa using found.symm⟩)
  | cons name path ih =>
    by_cases silent : first.kind = .any
    · rw [eq_any_of_kind silent, any_merge] at found
      exact .inr (.inl found)
    by_cases mute : second.kind = .any
    · rw [eq_any_of_kind mute, merge_any] at found
      exact .inl found
    by_cases same : first.kind = second.kind
    · by_cases object : first.kind = .object
      · obtain ⟨left, rfl⟩ := exists_object_of_kind object
        obtain ⟨right, rfl⟩ := exists_object_of_kind same.symm
        rw [merge_object, at?_object, field?_merged] at found
        rw [at?_object, at?_object]
        cases mine : field? name left with
        | none =>
          cases yours : field? name right with
          | none => simp [mine, yours] at found
          | some other => exact .inr (.inl (by simpa [mine, yours] using found))
        | some inner =>
          cases yours : field? name right with
          | none => exact .inl (by simpa [mine, yours] using found)
          | some other => exact ih (by simpa [mine, yours] using found)
      · rw [at?_cons_eq_none (by rwa [kind_merge_of_same same])] at found
        cases found
    · rw [merge_eq_any same silent mute] at found
      cases found

theorem not_isLeaf_any : ¬ IsLeaf .any := fun leaf => leaf.1 rfl

theorem isLeaf_object {fields : List (String × Shape)} : IsLeaf (.object fields) ↔ fields = [] := by
  constructor
  · rintro ⟨_, bare⟩
    cases fields with
    | nil => rfl
    | cons field fields =>
      have none := bare field.1
      simp [at?_object, field?] at none
  · rintro rfl
    exact ⟨by simp [kind], fun name => rfl⟩

/-- A leaf that is merged was one before. -/
theorem isLeaf_of_merge (leaf : IsLeaf (merge first second)) :
    IsLeaf first ∧ first.kind = (merge first second).kind ∨
      IsLeaf second ∧ second.kind = (merge first second).kind := by
  by_cases silent : first.kind = .any
  · rw [eq_any_of_kind silent, any_merge] at leaf ⊢
    exact .inr ⟨leaf, rfl⟩
  by_cases mute : second.kind = .any
  · rw [eq_any_of_kind mute, merge_any] at leaf ⊢
    exact .inl ⟨leaf, rfl⟩
  by_cases same : first.kind = second.kind
  · refine .inl ⟨⟨silent, ?_⟩, (kind_merge_of_same same).symm⟩
    by_cases object : first.kind = .object
    · obtain ⟨left, rfl⟩ := exists_object_of_kind object
      obtain ⟨right, rfl⟩ := exists_object_of_kind same.symm
      rw [merge_object, isLeaf_object, List.append_eq_nil_iff] at leaf
      cases left with
      | nil => exact fun name => rfl
      | cons field left =>
        obtain ⟨name, shape⟩ := field
        rw [mergeFields] at leaf
        exact absurd leaf.1 (List.cons_ne_nil _ _)
    · exact fun name => at?_cons_eq_none object
  · rw [merge_eq_any same silent mute] at leaf
    exact absurd leaf not_isLeaf_any

/-- A leaf of uses that are put together is a leaf of one of them. -/
theorem leaf_of_together {uses : List Shape} (found : at? path (together uses) = some leaf)
    (isLeaf : IsLeaf leaf) : ∃ use ∈ uses, ∃ inner, at? path use = some inner ∧ IsLeaf inner ∧
      inner.kind = leaf.kind := by
  induction uses using List.reverseRecOn generalizing leaf with
  | nil =>
    cases path with
    | nil =>
      cases found
      exact absurd isLeaf not_isLeaf_any
    | cons name path => cases found
  | append_singleton uses last ih =>
    rw [together_append_singleton] at found
    have earlier : ∀ inner, at? path (together uses) = some inner → IsLeaf inner →
        inner.kind = leaf.kind → ∃ use ∈ uses ++ [last], ∃ other, at? path use = some other ∧
          IsLeaf other ∧ other.kind = leaf.kind := by
      intro inner shown isInner same
      obtain ⟨use, member, other, there, isOther, also⟩ := ih shown isInner
      exact ⟨use, List.mem_append_left _ member, other, there, isOther, also.trans same⟩
    rcases at?_merge found with before | now | ⟨inner, other, before, now, rfl⟩
    · exact earlier leaf before isLeaf rfl
    · exact ⟨last, by simp, leaf, now, isLeaf, rfl⟩
    · rcases isLeaf_of_merge isLeaf with ⟨isInner, same⟩ | ⟨isOther, same⟩
      · exact earlier inner before isInner same
      · exact ⟨last, by simp, other, now, isOther, same⟩

/-- Nothing is known of the items of a list. -/
def Unlisted (shape : Shape) : Prop := ∀ path item, at? path shape = some (.list item) → item = .any

theorem Unlisted.merge (left : first.Unlisted) (right : second.Unlisted) :
    (Shape.merge first second).Unlisted := by
  intro path item found
  rcases at?_merge found with found | found | ⟨inner, other, mine, yours, same⟩
  · exact left path item found
  · exact right path item found
  · cases inner with
    | scalar => cases other <;> simp [Shape.merge] at same
    | object fields => cases other <;> simp [Shape.merge] at same
    | any =>
      rw [any_merge] at same
      exact right path item (same ▸ yours)
    | list known =>
      cases other with
      | scalar => simp [Shape.merge] at same
      | object fields => simp [Shape.merge] at same
      | any =>
        rw [merge_any] at same
        exact left path item (same ▸ mine)
      | list further =>
        cases left path known mine
        cases right path further yours
        simpa [Shape.merge] using same

theorem unlisted_together {uses : List Shape} (each : ∀ use ∈ uses, use.Unlisted) :
    (together uses).Unlisted := by
  induction uses using List.reverseRecOn with
  | nil =>
    intro path item found
    cases path <;> cases found
  | append_singleton uses last ih =>
    rw [together_append_singleton]
    exact (ih fun use member => each use (List.mem_append_left _ member)).merge
      (each last (by simp))

theorem at?_eq_none_of_bare (bare : ∀ name, at? [name] shape = none) (name : String)
    (path : List String) : at? (name :: path) shape = none := by
  by_cases object : shape.kind = .object
  · obtain ⟨fields, rfl⟩ := exists_object_of_kind object
    have missing := bare name
    rw [at?_object] at missing ⊢
    cases found : field? name fields with
    | none => rfl
    | some inner => simp [found] at missing
  · exact at?_cons_eq_none object

/-- The only leaf behind fields is the shape that they lead to. -/
theorem eq_of_at?_behind {fields : List String} (bare : ∀ name, at? [name] leaf = none)
    (found : at? path (behind leaf fields) = some shape) (isLeaf : IsLeaf shape) :
    fields = path ∧ leaf = shape := by
  induction fields generalizing path with
  | nil =>
    cases path with
    | nil => exact ⟨rfl, by simpa [behind] using found⟩
    | cons name path =>
      rw [behind, at?_eq_none_of_bare bare] at found
      cases found
  | cons field fields ih =>
    cases path with
    | nil =>
      rw [at?_nil] at found
      cases found
      cases isLeaf_object.mp isLeaf
    | cons name path =>
      rw [behind, at?_object, field?] at found
      by_cases same : name = field
      · rw [if_pos same, Option.bind_some] at found
        obtain ⟨rfl, rfl⟩ := ih found
        exact ⟨by rw [same], rfl⟩
      · rw [if_neg same, field?, Option.bind_none] at found
        cases found

theorem Unlisted.behind (unlisted : shape.Unlisted) (fields : List String) :
    (behind shape fields).Unlisted := by
  induction fields with
  | nil => exact unlisted
  | cons field fields ih =>
    intro path item found
    cases path with
    | nil => cases found
    | cons name path =>
      rw [Shape.behind, at?_object, field?] at found
      by_cases same : name = field
      · rw [if_pos same, Option.bind_some] at found
        exact ih path item found
      · rw [if_neg same, field?, Option.bind_none] at found
        cases found

end

end Shape

/-! ### Uses -/

/-- The tag of an element shows what a path leads to: it writes the path alone, iterates over it or
enters it. Which arguments of a block are meant is a parameter. -/
inductive Shows (taken : Operand → List Argument → Prop) (raw : String) : Kind → Element → Prop where
  | written {expression : Expression} (alone : expression.arguments = [])
      (named : expression.head.name? = some raw) : Shows taken raw .scalar (.value expression)
  | iterated {expression : Expression} {params : List String} {indented : Bool}
      {body inverse : List Element} {operand : Operand} (block : blockName expression = "each")
      (argument : taken operand expression.arguments) (named : operand.name? = some raw) :
      Shows taken raw .list (.block expression params indented body inverse)
  | entered {expression : Expression} {params : List String} {indented : Bool}
      {body inverse : List Element} {operand : Operand} (block : blockName expression = "with")
      (argument : taken operand expression.arguments) (named : operand.name? = some raw) :
      Shows taken raw .object (.block expression params indented body inverse)

/-- The argument that a block iterates over or enters. -/
def IsFirst (operand : Operand) (arguments : List Argument) : Prop :=
  (positional arguments).head? = some operand

/-- The tag of a block has one argument, which is positional. -/
def SingleArgument : Element → Prop
  | .block expression _ _ _ _ => ∃ operand, expression.arguments = [(none, operand)]
  | _ => True

/-- The role in which a path shows what it leads to. -/
def Kind.role : Kind → Role
  | .scalar => .value
  | .list => .blockArgument "each"
  | .object => .blockArgument "with"
  | .any => .argument

section

variable {raw : String} {kind : Kind} {element : Element} {operand : Operand}

theorem shows_isFirst (tells : Shows Counts raw kind element) (single : SingleArgument element) :
    Shows IsFirst raw kind element := by
  have only : ∀ {arguments : List Argument} {operand : Operand}, Counts operand arguments →
      (∃ other, arguments = [(none, other)]) → IsFirst operand arguments := by
    rintro arguments operand counts ⟨other, rfl⟩
    rcases (Template.counts_cons_none []).mp counts with rfl | counts
    · rfl
    · exact absurd counts Template.counts_nil
  cases tells with
  | written alone named => exact .written alone named
  | iterated block argument named => exact .iterated block (only argument single) named
  | entered block argument named => exact .entered block (only argument single) named

/-- A path in the role of a block's argument is one of its arguments, and not inside of a call. -/
theorem name?_of_reads {found role : Role} (reads : Reads raw found role operand) :
    found = .argument ∨ found = role ∧ operand.name? = some raw := by
  induction reads with
  | word => exact .inr ⟨rfl, rfl⟩
  | path written => exact .inr ⟨rfl, congrArg some written⟩
  | call _ _ ih => exact .inl (ih.elim id fun inside => inside.1)

theorem shows_iff_occurs (known : kind ≠ .any) :
    Shows Counts raw kind element ↔ Occurs raw kind.role element := by
  constructor
  · intro tells
    cases tells with
    | written alone named => exact .value alone named rfl
    | iterated block argument named =>
      refine .blockArgument argument ?_
      rw [block]
      exact reads_of_name? named
    | entered block argument named =>
      refine .blockArgument argument ?_
      rw [block]
      exact reads_of_name? named
  · have notArgument : kind.role ≠ .argument := by
      cases kind with
      | any => exact absurd rfl known
      | _ => exact nofun
    intro occurs
    cases occurs with
    | value alone named role =>
      cases kind with
      | scalar => exact .written alone named
      | _ => cases role
    | argument counts inside =>
      rcases name?_of_reads inside with argument | ⟨argument, _⟩
      · exact absurd argument notArgument
      · exact absurd argument notArgument
    | blockArgument counts inside =>
      rcases name?_of_reads inside with argument | ⟨role, named⟩
      · exact absurd argument notArgument
      · cases kind with
        | scalar => cases role
        | any => cases role
        | list => exact .iterated (Role.blockArgument.inj role).symm counts named
        | object => exact .entered (Role.blockArgument.inj role).symm counts named

end

/-- What a reference shows is behind its fields, has none itself, and tells its role. -/
theorem Observation.exists_leaf (reference : Reference) : ∃ leaf : Shape,
    (Observation.of reference).shape = Shape.behind leaf (fieldPath reference.raw) ∧
      (∀ name, Shape.at? [name] leaf = none) ∧ leaf.Unlisted ∧
      (leaf.kind ≠ .any → reference.role = leaf.kind.role) := by
  have unlisted : ∀ leaf : Shape, (∀ name, Shape.at? [name] leaf = none) →
      (∀ item, leaf = .list item → item = .any) → leaf.Unlisted := by
    intro leaf bare items path item found
    cases path with
    | nil => exact items item (by simpa using found)
    | cons name path =>
      rw [Shape.at?_eq_none_of_bare bare] at found
      cases found
  unfold Observation.of
  refine ⟨_, rfl, ?_⟩
  split
  · rename_i role
    exact ⟨fun _ => rfl, unlisted _ (fun _ => rfl) nofun, fun _ => role⟩
  · rename_i role
    exact ⟨fun _ => rfl, unlisted _ (fun _ => rfl) (fun item same => by cases same; rfl), fun _ => role⟩
  · rename_i role
    exact ⟨fun _ => rfl, unlisted _ (fun _ => rfl) nofun, fun _ => role⟩
  · exact ⟨fun _ => rfl, unlisted _ (fun _ => rfl) nofun, fun known => absurd rfl known⟩
  · exact ⟨fun _ => rfl, unlisted _ (fun _ => rfl) nofun, fun known => absurd rfl known⟩

/-- A reference in its role shows a path to be of its kind. -/
theorem kindAt_of_role {taken : Operand → List Argument → Prop} {raw : String} {kind : Kind}
    {element : Element} (tells : Shows taken raw kind element) (shifted : Bool) :
    Shape.kindAt (fieldPath raw) (Observation.of ⟨raw, kind.role, shifted⟩).shape = some kind := by
  rw [Observation.of, Shape.kindAt_behind]
  cases tells <;> rfl

theorem not_bound_iff {name : String} (occurrence : Occurrence)
    (base : baseVariable? occurrence.raw = some name) :
    ¬ occurrence.Bound ↔ ∀ enclosure ∈ occurrence.blocks, name ∉ enclosure.params := by
  simp [Occurrence.Bound, base]

/-- Every leaf in the shape of a variable, a value, a list or an object without fields, comes from a tag
that shows it: it writes a path alone, iterates over it or enters it, and the path begins with the
variable, which no block around names anew, and has the fields that lead to the leaf. Nothing is known of
the items of a list. If the path reads fields only, it is the variable and these fields and nothing else;
if the block has no other argument, it is the one that the block iterates over or enters. The other way
round, if no two uses of the variable conflict, each such tag shows in the shape, whichever of the
arguments that count the path is and however it goes on behind its fields. -/
theorem leaves_have_uses (source : String) (template : Template)
    (done : Template.read source = .ok template) (name : String) (inference : Inference) (shape : Shape)
    (inferred : (name, inference) ∈ inferShapes source) (known : inference.shape? = some shape) :
    (∀ path leaf, Shape.at? path shape = some leaf → leaf.IsLeaf →
      (∀ item, leaf = .list item → item = .any) ∧
      ∃ raw element blocks, Stands element blocks template ∧
        (∀ enclosure ∈ blocks, name ∉ enclosure.params) ∧ Shows Counts raw leaf.kind element ∧
        baseVariable? raw = some name ∧ fieldPath raw = path ∧
        (FieldsOnly raw → Spells name path raw) ∧
        (SingleArgument element → Shows IsFirst raw leaf.kind element)) ∧
    (Shape.Agree (usesOf name (references template)) →
      ∀ raw element blocks kind, Stands element blocks template →
        (∀ enclosure ∈ blocks, name ∉ enclosure.params) → Shows Counts raw kind element →
        baseVariable? raw = some name →
        ∃ node, Shape.at? (fieldPath raw) shape = some node ∧ node.kind = kind) := by
  have built := eq_together_of_inferred done inferred known
  subst built
  constructor
  · intro path leaf found isLeaf
    constructor
    · rintro item rfl
      refine Shape.unlisted_together (fun use member => ?_) path item found
      obtain ⟨reference, _, _, rfl⟩ := mem_usesOf_iff.mp member
      obtain ⟨leaf, same, _, unlisted, _⟩ := Observation.exists_leaf reference
      rw [same]
      exact unlisted.behind _
    · obtain ⟨use, member, inner, shown, isInner, sameKind⟩ := Shape.leaf_of_together found isLeaf
      obtain ⟨reference, listed, base, rfl⟩ := mem_usesOf_iff.mp member
      obtain ⟨last, same, bare, _, role⟩ := Observation.exists_leaf reference
      rw [same] at shown
      obtain ⟨fields, rfl⟩ := Shape.eq_of_at?_behind bare shown isInner
      obtain ⟨occurrence, ⟨element, stands, occurs⟩, free, rfl⟩ := mem_references_iff.mp listed
      have tells : Shows Counts occurrence.raw leaf.kind element := by
        rw [← sameKind, shows_iff_occurs isInner.1, ← role isInner.1]
        exact occurs
      have spelled : FieldsOnly occurrence.raw → Spells name path occurrence.raw := by
        intro only
        rw [← fields]
        exact spells_of_fieldsOnly only base
      exact ⟨occurrence.raw, element, occurrence.blocks, stands, (not_bound_iff occurrence base).mp free, tells,
        base, fields, spelled, shows_isFirst tells⟩
  · intro agree raw element blocks kind stands free tells base
    have spoken : kind ≠ .any := by cases tells <;> exact nofun
    have occurs := (shows_iff_occurs spoken).mp tells
    let occurrence : Occurrence := ⟨raw, kind.role, blocks⟩
    have unbound : ¬ occurrence.Bound := (not_bound_iff occurrence base).mpr free
    have listed := mem_references_iff.mpr ⟨occurrence, ⟨element, stands, occurs⟩, unbound, rfl⟩
    have shown := ((Shape.kindAt_together agree (fieldPath raw)).1 kind spoken).mpr
      ⟨_, mem_usesOf_iff.mpr ⟨_, listed, base, rfl⟩, kindAt_of_role tells _⟩
    rw [Shape.kindAt_eq_map] at shown
    exact Option.map_eq_some_iff.mp shown

namespace Shape

theorem agree_singleton (use : Shape) : Agree [use] := by
  intro first member second other
  obtain rfl := List.mem_singleton.mp member
  obtain rfl := List.mem_singleton.mp other
  rintro ⟨path, kind, again, found, further, _, _, differ⟩
  exact differ (Option.some.inj (found.symm.trans further))

end Shape

theorem exists_inferred {source name : String} {template : Template}
    (done : Template.read source = .ok template) (member : name ∈ variablesOf (references template)) :
    ∃ inference shape, (name, inference) ∈ inferShapes source ∧ inference.shape? = some shape := by
  rw [inferShapes_of_read done]
  exact ⟨_, _, List.mem_map.mpr ⟨name, member, rfl⟩, shape?_inference _⟩

/-- A second argument of an iteration, and an item of an array. -/
def looseUses : List Reference :=
  [⟨"xs", .blockArgument "each", false⟩, ⟨"n", .blockArgument "each", false⟩,
    ⟨"a.[0].b", .value, false⟩]

def looseSource : String :=
  "\x7b\x7b#each xs n\x7d\x7d\x7b\x7b/each\x7d\x7d\x7b\x7ba.[0].b\x7d\x7d"

/-- The second argument shows as a list and the array as a value. -/
theorem leaves_have_uses_loose : ∃ template, Template.read looseSource = .ok template ∧
    (∃ inference shape, ("n", inference) ∈ inferShapes looseSource ∧ inference.shape? = some shape ∧
      shape.kind = .list) ∧
    ∃ inference shape, ("a", inference) ∈ inferShapes looseSource ∧ inference.shape? = some shape ∧
      shape.kind = .scalar := by
  have refers : (Template.read looseSource).toOption.any
      (fun template => references template == looseUses) = true := by
    decide +kernel
  obtain ⟨template, done, refers⟩ := Template.exists_of_read refers
  rw [beq_iff_eq] at refers
  have each : ∀ (name raw : String) (kind : Kind) (use : Shape), usesOf name looseUses = [use] →
      (⟨raw, kind.role, false⟩ : Reference) ∈ looseUses → kind ≠ .any → baseVariable? raw = some name →
      fieldPath raw = [] → ∃ inference shape, (name, inference) ∈ inferShapes looseSource ∧
        inference.shape? = some shape ∧ shape.kind = kind := by
    intro name raw kind use only listed spoken base whole
    rw [← refers] at only listed
    obtain ⟨inference, shape, inferred, known⟩ :=
      exists_inferred done (mem_variablesOf.mpr ⟨_, listed, base⟩)
    obtain ⟨occurrence, ⟨element, stands, occurs⟩, free, same⟩ := mem_references_iff.mp listed
    obtain ⟨rfl, role, _⟩ := Reference.mk.inj same
    rw [← role] at occurs
    obtain ⟨node, found, shown⟩ := (leaves_have_uses _ _ done name inference shape inferred known).2
      (only ▸ Shape.agree_singleton use) _ element occurrence.blocks kind stands
      ((not_bound_iff occurrence base).mp free) ((shows_iff_occurs spoken).mpr occurs) base
    rw [whole, Shape.at?_nil] at found
    cases found
    exact ⟨inference, _, inferred, known, shown⟩
  have bases : baseVariable? "xs" = some "xs" ∧ baseVariable? "n" = some "n" ∧
      baseVariable? "a.[0].b" = some "a" := by decide +kernel
  have paths : fieldPath "n" = [] ∧ fieldPath "a.[0].b" = [] := by decide +kernel
  refine ⟨template, done, each "n" "n" .list (.list .any) ?_ (by decide) nofun bases.2.1 paths.1,
    each "a" "a.[0].b" .scalar .scalar ?_ (by decide) nofun bases.2.2 paths.2⟩
  · simp [usesOf, observationsOf, looseUses, bases, Observation.of, paths, Shape.behind]
  · simp [usesOf, observationsOf, looseUses, bases, Observation.of, paths, Shape.behind]

end Stencil.Extraction
