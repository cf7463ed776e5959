import Stencil.Proofs.ShapeInference

set_option autoImplicit false

/-!
Shapes and the uses they come from. The shape of a variable is put together from its uses in order. If no
two uses conflict, every field that a use reads is in the shape, and the order of the uses does not
matter. A conflict on the way to a field leaves a shape that says nothing there, and it stands until a
further use says something there: that use is kept and what came before it is lost
(`shapes_keep_uses`).
-/

namespace Stencil.Extraction

/-! ### What stands behind fields -/

/-- The outermost form of a shape. -/
inductive Kind where
  | scalar
  | object
  | list
  | any
  deriving DecidableEq

namespace Kind

/-- What two shapes that do not conflict show together. -/
def join : Option Kind → Option Kind → Option Kind
  | none, kind => kind
  | some .any, some kind => some kind
  | some kind, _ => some kind

@[simp] theorem join_none (kind : Option Kind) : join kind none = kind := by
  rcases kind with _ | _ | _ | _ | _ <;> rfl

@[simp] theorem none_join (kind : Option Kind) : join none kind = kind := rfl

@[simp] theorem any_join (kind : Kind) : join (some .any) (some kind) = some kind := rfl

@[simp] theorem join_self (kind : Kind) : join (some kind) (some kind) = some kind := by
  cases kind <;> rfl

theorem join_any (kind : Kind) : join (some kind) (some .any) = some kind := by
  cases kind <;> rfl

theorem isSome_join (first second : Option Kind) :
    (join first second).isSome = (first.isSome || second.isSome) := by
  rcases first with _ | _ | _ | _ | _ <;> rcases second with _ | _ <;> rfl

end Kind

namespace Shape

def kind : Shape → Kind
  | .scalar => .scalar
  | .object _ => .object
  | .list _ => .list
  | .any => .any

/-- What fields lead to from a shape, if all of them are there. -/
def kindAt : List String → Shape → Option Kind
  | [], shape => some shape.kind
  | name :: path, .object fields => (field? name fields).bind (kindAt path)
  | _ :: _, _ => none

/-- Fields lead from a shape to another one, or on the way to one that says nothing. -/
inductive Leads : List String → Shape → Prop where
  | here (shape : Shape) : Leads [] shape
  | any (path : List String) : Leads path .any
  | field {name : String} {path : List String} {fields : List (String × Shape)} {inner : Shape}
      (found : field? name fields = some inner) (leads : Leads path inner) :
      Leads (name :: path) (.object fields)

/-- Two shapes say different things behind some fields. -/
def ConflictAt (path : List String) (first second : Shape) : Prop :=
  ∃ kind other, kindAt path first = some kind ∧ kindAt path second = some other ∧ kind ≠ .any ∧
    other ≠ .any ∧ kind ≠ other

def Conflict (first second : Shape) : Prop := ∃ path, ConflictAt path first second

/-- The beginnings of a path, without the whole of it. -/
def Before (start path : List String) : Prop := ∃ name rest, path = start ++ name :: rest

/-- Two shapes conflict on the way to a field. -/
def ConflictOnWay (path : List String) (first second : Shape) : Prop :=
  ∃ start, Before start path ∧ ConflictAt start first second

section

variable {name : String} {path : List String} {first second shape : Shape}

@[simp] theorem kindAt_nil (shape : Shape) : kindAt [] shape = some shape.kind := by
  unfold kindAt
  rfl

theorem kindAt_object (name : String) (path : List String) (fields : List (String × Shape)) :
    kindAt (name :: path) (.object fields) = (field? name fields).bind (kindAt path) := rfl

theorem kindAt_any (name : String) (path : List String) : kindAt (name :: path) .any = none := rfl

theorem kindAt_cons_eq_none (other : shape.kind ≠ .object) : kindAt (name :: path) shape = none := by
  cases shape with
  | object fields => exact absurd rfl other
  | _ => rfl

theorem eq_any_of_kind (silent : shape.kind = .any) : shape = .any := by
  cases shape with
  | any => rfl
  | _ => cases silent

theorem exists_object_of_kind (object : shape.kind = .object) : ∃ fields, shape = .object fields := by
  cases shape with
  | object fields => exact ⟨fields, rfl⟩
  | _ => cases object

/-- What is behind a field is in an object that has it. -/
theorem object_of_kindAt_cons {kind : Kind} (found : kindAt (name :: path) shape = some kind) :
    ∃ fields inner, shape = .object fields ∧ field? name fields = some inner ∧
      kindAt path inner = some kind := by
  cases shape with
  | object fields =>
    obtain ⟨inner, field, found⟩ := Option.bind_eq_some_iff.mp found
    exact ⟨fields, inner, rfl, field, found⟩
  | _ => cases found

theorem leads_of_kindAt {kind : Kind} (found : kindAt path shape = some kind) : Leads path shape := by
  induction path generalizing shape with
  | nil => exact Leads.here shape
  | cons name path ih =>
    obtain ⟨fields, inner, rfl, field, found⟩ := object_of_kindAt_cons found
    exact Leads.field field (ih found)

/-- Fields lead to nothing more where a shape on the way says nothing. -/
theorem leads_of_kindAt_any {start rest : List String} (found : kindAt start shape = some .any) :
    Leads (start ++ rest) shape := by
  induction start generalizing shape with
  | nil =>
    cases shape with
    | any => exact Leads.any _
    | _ => cases found
  | cons name start ih =>
    obtain ⟨fields, inner, rfl, field, found⟩ := object_of_kindAt_cons found
    exact Leads.field field (ih found)

/-! ### Merging -/

theorem field?_append (name : String) (left right : List (String × Shape)) :
    field? name (left ++ right) = (field? name left).or (field? name right) := by
  induction left with
  | nil => rfl
  | cons entry left ih =>
    obtain ⟨other, shape⟩ := entry
    by_cases same : name = other
    · simp [field?, same]
    · simp [field?, same, ih]

theorem field?_mergeFields (name : String) (left right : List (String × Shape)) :
    field? name (mergeFields left right) = (field? name left).map fun shape =>
      ((field? name right).map (merge shape)).getD shape := by
  induction left with
  | nil => simp [mergeFields, field?]
  | cons entry left ih =>
    obtain ⟨other, shape⟩ := entry
    rw [mergeFields]
    by_cases same : name = other
    · subst same
      cases field? name right <;> simp [field?]
    · cases found : field? other right <;> simp [field?, same, ih]

theorem field?_filter (name : String) (left right : List (String × Shape))
    (none : field? name left = none) :
    field? name (right.filter fun field => (field? field.1 left).isNone) = field? name right := by
  induction right with
  | nil => rfl
  | cons entry right ih =>
    obtain ⟨other, shape⟩ := entry
    by_cases same : name = other
    · subst same
      simp [none, field?]
    · cases found : field? other left with
      | none => simp [found, field?, same, ih]
      | some known => simp [found, field?, same, ih]

/-- A field of a merged object is merged from the fields of its name. -/
theorem field?_merged (name : String) (left right : List (String × Shape)) :
    field? name (mergeFields left right ++
        right.filter fun field => (field? field.1 left).isNone) =
      match field? name left, field? name right with
      | some shape, some other => some (merge shape other)
      | some shape, none => some shape
      | none, other => other := by
  rw [field?_append, field?_mergeFields]
  cases found : field? name left with
  | none => rw [field?_filter name left right found]; rfl
  | some shape => cases field? name right <;> rfl

@[simp] theorem any_merge (shape : Shape) : merge .any shape = shape := by
  unfold merge
  rfl

@[simp] theorem merge_any (shape : Shape) : merge shape .any = shape := by
  cases shape <;> simp [merge]

theorem merge_object (left right : List (String × Shape)) : merge (.object left) (.object right) =
    .object (mergeFields left right ++
      right.filter fun field => (field? field.1 left).isNone) := by
  rw [merge]

/-- Shapes of different kinds that both say something say nothing together. -/
theorem merge_eq_any (differ : first.kind ≠ second.kind) (known : first.kind ≠ .any)
    (other : second.kind ≠ .any) : merge first second = .any := by
  cases first <;> cases second <;> simp_all [kind, merge]

theorem kind_merge_of_same (same : first.kind = second.kind) :
    (merge first second).kind = first.kind := by
  cases first <;> cases second <;> simp_all [kind, merge]

end

section

variable {name : String} {path : List String} {left right : List (String × Shape)}

theorem ConflictAt.field {inner other : Shape} (found : field? name left = some inner)
    (further : field? name right = some other) (conflict : ConflictAt path inner other) :
    ConflictAt (name :: path) (.object left) (.object right) := by
  obtain ⟨kind, another, first, second, differ⟩ := conflict
  refine ⟨kind, another, ?_, ?_, differ⟩
  · rw [kindAt_object, found]
    exact first
  · rw [kindAt_object, further]
    exact second

theorem ConflictOnWay.field {inner other : Shape} (found : field? name left = some inner)
    (further : field? name right = some other) (conflict : ConflictOnWay path inner other) :
    ConflictOnWay (name :: path) (.object left) (.object right) := by
  obtain ⟨start, ⟨next, rest, rfl⟩, conflict⟩ := conflict
  exact ⟨name :: start, ⟨next, rest, rfl⟩, conflict.field found further⟩

theorem kindAt_merge_object (name : String) (path : List String)
    (left right : List (String × Shape)) :
    kindAt (name :: path) (merge (.object left) (.object right)) =
      match field? name left, field? name right with
      | some shape, some other => kindAt path (merge shape other)
      | some shape, none => kindAt path shape
      | none, some other => kindAt path other
      | none, none => none := by
  rw [merge_object, kindAt_object, field?_merged]
  cases field? name left <;> cases field? name right <;> rfl

end

section

variable {path : List String} {first second : Shape}

/-- Two shapes that do not conflict up to a place show there together what each of them shows. -/
theorem kindAt_merge (clear : ¬ ConflictOnWay path first second)
    (agree : ¬ ConflictAt path first second) :
    kindAt path (merge first second) = Kind.join (kindAt path first) (kindAt path second) := by
  induction path generalizing first second with
  | nil =>
    by_cases silent : first.kind = .any
    · simp [eq_any_of_kind silent, kind]
    by_cases mute : second.kind = .any
    · simp [eq_any_of_kind mute, kind, Kind.join_any]
    by_cases same : first.kind = second.kind
    · simp [kind_merge_of_same same, ← same]
    · exact absurd ⟨_, _, rfl, rfl, silent, mute, same⟩ agree
  | cons name path ih =>
    by_cases silent : first.kind = .any
    · simp [eq_any_of_kind silent, kindAt_any]
    by_cases mute : second.kind = .any
    · simp [eq_any_of_kind mute, kindAt_any]
    by_cases same : first.kind = second.kind
    · by_cases object : first.kind = .object
      · obtain ⟨left, rfl⟩ := exists_object_of_kind object
        obtain ⟨right, rfl⟩ := exists_object_of_kind same.symm
        rw [kindAt_merge_object, kindAt_object, kindAt_object]
        cases found : field? name left with
        | none => cases field? name right <;> rfl
        | some inner =>
          cases further : field? name right with
          | none => simp
          | some other =>
            exact ih (fun conflict => clear (conflict.field found further))
              (fun conflict => agree (conflict.field found further))
      · have stops : (merge first second).kind ≠ .object := by
          rw [kind_merge_of_same same]
          exact object
        rw [kindAt_cons_eq_none stops, kindAt_cons_eq_none object,
          kindAt_cons_eq_none (fun object' => object (same.trans object'))]
        rfl
    · exact absurd ⟨[], ⟨name, path, rfl⟩, _, _, rfl, rfl, silent, mute, same⟩ clear

/-- Where two shapes conflict they say nothing together. -/
theorem kindAt_merge_of_conflict (conflict : ConflictAt path first second) :
    kindAt path (merge first second) = some .any := by
  obtain ⟨kind, other, found, further, differ⟩ := conflict
  induction path generalizing first second with
  | nil =>
    cases found
    cases further
    simp [merge_eq_any differ.2.2 differ.1 differ.2.1, Shape.kind]
  | cons name path ih =>
    obtain ⟨left, inner, rfl, leftField, found⟩ := object_of_kindAt_cons found
    obtain ⟨right, another, rfl, rightField, further⟩ := object_of_kindAt_cons further
    rw [kindAt_merge_object, leftField, rightField]
    exact ih found further

/-- What one of two shapes has is in both together if they do not conflict on the way to it. -/
theorem isSome_kindAt_merge (clear : ¬ ConflictOnWay path first second) :
    (kindAt path (merge first second)).isSome =
      ((kindAt path first).isSome || (kindAt path second).isSome) := by
  by_cases conflict : ConflictAt path first second
  · obtain ⟨kind, other, found, _⟩ := id conflict
    simp [kindAt_merge_of_conflict conflict, found]
  · rw [kindAt_merge clear conflict, Kind.isSome_join]

end

/-! ### Uses one after the other -/

/-- What some uses of a value show together. -/
def together (uses : List Shape) : Shape := uses.foldl merge .any

theorem together_append_singleton (uses : List Shape) (last : Shape) :
    together (uses ++ [last]) = merge (together uses) last := by
  simp [together]

/-- No two of some uses conflict. -/
def Agree (uses : List Shape) : Prop := ∀ use ∈ uses, ∀ other ∈ uses, ¬ Conflict use other

/-- A use says something behind some fields. -/
def Says (path : List String) (use : Shape) : Prop :=
  ∃ kind, kindAt path use = some kind ∧ kind ≠ .any

section

variable {uses : List Shape} {path : List String}

theorem eq_some_join_iff {first second : Option Kind} {kind : Kind} (known : kind ≠ .any)
    (agree : ∀ j k, first = some j → second = some k → j ≠ .any → k ≠ .any → j = k) :
    Kind.join first second = some kind ↔ first = some kind ∨ second = some kind := by
  rcases first with _ | first
  · simp
  · rcases second with _ | second
    · simp
    · by_cases silent : first = .any
      · subst silent
        simp [Ne.symm known]
      · by_cases mute : second = .any
        · subst mute
          simp [Kind.join_any, Ne.symm known]
        · obtain rfl := agree first second rfl rfl silent mute
          simp

/-- Uses that agree show together just what each of them shows. -/
theorem kindAt_together (agree : Agree uses) (path : List String) :
    (∀ kind, kind ≠ .any →
      (kindAt path (together uses) = some kind ↔ ∃ use ∈ uses, kindAt path use = some kind)) ∧
    ((kindAt path (together uses)).isSome = true ↔
      path = [] ∨ ∃ use ∈ uses, (kindAt path use).isSome = true) := by
  induction uses using List.reverseRecOn generalizing path with
  | nil =>
    cases path with
    | nil => simp [together, Shape.kind, eq_comm]
    | cons name path => simp [together, kindAt_any]
  | append_singleton uses last ih =>
    have inner : Agree uses := fun use member other further =>
      agree use (List.mem_append_left _ member) other (List.mem_append_left _ further)
    have free : ∀ path, ¬ ConflictAt path (together uses) last := by
      rintro path ⟨kind, other, found, further, known, speaks, differ⟩
      obtain ⟨use, member, shown⟩ := ((ih inner path).1 kind known).mp found
      exact agree use (List.mem_append_left _ member) last (by simp)
        ⟨path, kind, other, shown, further, known, speaks, differ⟩
    have clear : ¬ ConflictOnWay path (together uses) last :=
      fun ⟨start, _, conflict⟩ => free start conflict
    rw [together_append_singleton, kindAt_merge clear (free path)]
    constructor
    · intro kind known
      rw [eq_some_join_iff known, (ih inner path).1 kind known]
      · simp [or_and_right, exists_or]
      · intro j k found further known speaks
        exact Classical.byContradiction fun differ =>
          free path ⟨j, k, found, further, known, speaks, differ⟩
    · rw [Kind.isSome_join, Bool.or_eq_true, (ih inner path).2]
      simp [or_and_right, exists_or, or_assoc]

theorem eq_of_known {first second : Option Kind}
    (known : ∀ kind, kind ≠ .any → (first = some kind ↔ second = some kind))
    (there : first.isSome = true ↔ second.isSome = true) : first = second := by
  rcases first with _ | first <;> rcases second with _ | second
  · rfl
  · simp at there
  · simp at there
  · by_cases silent : first = .any
    · by_cases mute : second = .any
      · rw [silent, mute]
      · exact (known second mute).mpr rfl
    · exact ((known first silent).mp rfl).symm

/-- The order of uses that agree does not matter. -/
theorem kindAt_together_of_perm {others : List Shape} (agree : Agree uses)
    (same : others.Perm uses) (path : List String) :
    kindAt path (together others) = kindAt path (together uses) := by
  have swapped : Agree others := fun use member other further =>
    agree use (same.mem_iff.mp member) other (same.mem_iff.mp further)
  have shown := kindAt_together agree path
  have reordered := kindAt_together swapped path
  refine eq_of_known (fun kind known => ?_) ?_
  · rw [shown.1 kind known, reordered.1 kind known]
    simp [same.mem_iff]
  · rw [shown.2, reordered.2]
    simp [same.mem_iff]

/-- Where uses conflict with those before them, what these said is forgotten. -/
theorem together_of_conflict {earlier later : List Shape} {breaker : Shape}
    (conflict : ConflictAt [] (together earlier) breaker) :
    together (earlier ++ breaker :: later) = together later := by
  obtain ⟨kind, other, found, further, known, speaks, differ⟩ := conflict
  cases found
  cases further
  have silent : merge (together earlier) breaker = .any := merge_eq_any differ known speaks
  rw [together, List.foldl_append, List.foldl_cons]
  rw [show merge (earlier.foldl merge .any) breaker = .any from silent]
  rfl

/-- A place in some uses where one of them conflicts, on the way to a field, with what those before it
show together, of which there are at least as many as given. -/
structure Break (uses : List Shape) (path : List String) (least : Nat) where
  earlier : List Shape
  breaker : Shape
  later : List Shape
  start : List String
  split : uses = earlier ++ breaker :: later
  enough : least ≤ earlier.length
  onWay : Before start path
  conflict : ConflictAt start (together earlier) breaker

/-- A use that reads some fields is kept as long as no use conflicts with those before it on the way to
them; then the way is open until a further use says something where the conflict is. -/
theorem kept_or_broken {before : List Shape} {use : Shape} (there : (kindAt path use).isSome = true)
    (after : List Shape) :
    (kindAt path (together (before ++ use :: after))).isSome = true ∨
      ∃ broken : Break (before ++ use :: after) path before.length,
        kindAt broken.start (together (before ++ use :: after)) = some .any ∨
          ∃ last ∈ broken.later, Says broken.start last := by
  induction after using List.reverseRecOn with
  | nil =>
    rw [together_append_singleton]
    by_cases clear : ConflictOnWay path (together before) use
    · obtain ⟨start, onWay, conflict⟩ := clear
      exact Or.inr ⟨⟨before, use, [], start, rfl, Nat.le_refl _, onWay, conflict⟩,
        Or.inl (kindAt_merge_of_conflict conflict)⟩
    · rw [isSome_kindAt_merge clear, there]
      exact Or.inl (by simp)
  | append_singleton after last ih =>
    have whole : before ++ use :: (after ++ [last]) = (before ++ use :: after) ++ [last] := by simp
    rw [whole, together_append_singleton]
    generalize seen : before ++ use :: after = uses at ih
    have many : before.length ≤ uses.length := by rw [← seen]; simp
    by_cases clear : ConflictOnWay path (together uses) last
    · obtain ⟨start, onWay, conflict⟩ := clear
      exact Or.inr ⟨⟨uses, last, [], start, rfl, many, onWay, conflict⟩,
        Or.inl (kindAt_merge_of_conflict conflict)⟩
    rcases ih with kept | ⟨broken, left⟩
    · rw [isSome_kindAt_merge clear, kept]
      exact Or.inl rfl
    · obtain ⟨earlier, breaker, later, start, rfl, enough, onWay, conflict⟩ := broken
      refine Or.inr ⟨⟨earlier, breaker, later ++ [last], start, by simp, enough, onWay, conflict⟩, ?_⟩
      dsimp only at left ⊢
      rcases left with silent | ⟨further, member, speaks⟩
      · by_cases speaks : Says start last
        · exact Or.inr ⟨last, by simp, speaks⟩
        · refine Or.inl ?_
          obtain ⟨name, rest, rfl⟩ := onWay
          have free : ¬ ConflictOnWay start
              (together (earlier ++ breaker :: later)) last := by
            rintro ⟨inner, ⟨next, others, rfl⟩, opposed⟩
            exact clear ⟨inner, ⟨next, others ++ name :: rest, by simp⟩, opposed⟩
          have quiet : ¬ ConflictAt start (together (earlier ++ breaker :: later)) last := by
            rintro ⟨kind, other, found, _, known, _⟩
            exact known (Option.some.inj (found.symm.trans silent))
          rw [kindAt_merge free quiet, silent]
          cases shown : kindAt start last with
          | none => rfl
          | some kind =>
            have mute : kind = .any := Classical.byContradiction fun known =>
              speaks ⟨kind, shown, known⟩
            rw [mute]
            rfl
      · exact Or.inr ⟨further, by simp [member], speaks⟩

/-- What a use reads is kept, unless uses conflict on the way to it and a further use says something
where they conflict. -/
theorem leads_together {before after : List Shape} {use : Shape}
    (there : (kindAt path use).isSome = true) :
    Leads path (together (before ++ use :: after)) ∨
      ∃ broken : Break (before ++ use :: after) path before.length,
        ∃ last ∈ broken.later, Says broken.start last := by
  rcases kept_or_broken there after with kept | ⟨broken, silent | further⟩
  · obtain ⟨kind, found⟩ := Option.isSome_iff_exists.mp kept
    exact Or.inl (leads_of_kindAt found)
  · obtain ⟨name, rest, same⟩ := broken.onWay
    rw [same]
    exact Or.inl (leads_of_kindAt_any silent)
  · exact Or.inr ⟨broken, further⟩

end

/-- A use reads its fields. -/
theorem kindAt_behind (leaf : Shape) (path : List String) :
    kindAt path (behind leaf path) = some leaf.kind := by
  induction path with
  | nil => rfl
  | cons name path ih => simpa [behind, kindAt_object, field?] using ih

end Shape

/-! ### Shapes of variables -/

/-- The shape that is known of a variable. -/
def Inference.shape? : Inference → Option Shape
  | .precise shape => some shape
  | .approximate shape => some shape
  | .unknown => none

/-- What the references to a variable show of its shape, in order. -/
def usesOf (name : String) (references : List Reference) : List Shape :=
  (observationsOf name references).map Observation.shape

theorem usesOf_append (name : String) (before after : List Reference) :
    usesOf name (before ++ after) = usesOf name before ++ usesOf name after := by
  simp [usesOf, observationsOf]

theorem usesOf_cons {name : String} {reference : Reference}
    (base : baseVariable? reference.raw = some name) (after : List Reference) :
    usesOf name (reference :: after) = (Observation.of reference).shape :: usesOf name after := by
  simp [usesOf, observationsOf, base]

theorem shape?_inference (observation : Observation) :
    observation.inference.shape? = some observation.shape := by
  unfold Observation.inference
  split <;> rfl

theorem kindAt_of (reference : Reference) :
    (Shape.kindAt (fieldPath reference.raw) (Observation.of reference).shape).isSome = true := by
  rw [Observation.of, Shape.kindAt_behind]
  rfl

/-- The shape of a variable is put together from its uses. -/
theorem eq_together_of_inferred {source name : String} {template : Template} {inference : Inference}
    {shape : Shape} (done : Template.read source = .ok template)
    (inferred : (name, inference) ∈ inferShapes source) (known : inference.shape? = some shape) :
    shape = Shape.together (usesOf name (references template)) := by
  rw [inferShapes_of_read done] at inferred
  obtain ⟨_, _, same⟩ := List.mem_map.mp inferred
  cases same
  exact (Option.some.inj ((shape?_inference _).symm.trans known)).symm

theorem mem_usesOf_iff {name : String} {use : Shape} {references : List Reference} :
    use ∈ usesOf name references ↔ ∃ reference ∈ references,
      baseVariable? reference.raw = some name ∧ (Observation.of reference).shape = use := by
  simp only [usesOf, observationsOf, List.mem_map, List.mem_filter, beq_iff_eq]
  constructor
  · rintro ⟨_, ⟨reference, ⟨member, base⟩, rfl⟩, rfl⟩
    exact ⟨reference, member, base, rfl⟩
  · rintro ⟨reference, member, base, rfl⟩
    exact ⟨_, ⟨reference, ⟨member, base⟩, rfl⟩, rfl⟩

/-- In a source that is read, every variable that is referred to has a shape, put together from its uses
in order. If no two uses conflict, every field that a use reads is there, and in any other order the uses
show the same. In general, the fields that a use reads lead to the end or to a shape that says nothing,
unless a use at that place or later conflicts on the way with those before it and a still later one says
something there. What uses said before a conflict in the variable itself is forgotten. -/
theorem shapes_keep_uses (source : String) (template : Template)
    (done : Template.read source = .ok template) :
    (∀ reference ∈ references template, ∀ name, baseVariable? reference.raw = some name →
      ∃ inference, (name, inference) ∈ inferShapes source) ∧
    ∀ name inference, (name, inference) ∈ inferShapes source → ∃ shape,
      inference.shape? = some shape ∧ shape = Shape.together (usesOf name (references template)) ∧
      (Shape.Agree (usesOf name (references template)) →
        (∀ reference ∈ references template, baseVariable? reference.raw = some name →
          (Shape.kindAt (fieldPath reference.raw) shape).isSome = true) ∧
        ∀ others : List Shape, others.Perm (usesOf name (references template)) →
          ∀ path, Shape.kindAt path (Shape.together others) = Shape.kindAt path shape) ∧
      (∀ before reference after, references template = before ++ reference :: after →
        baseVariable? reference.raw = some name →
        Shape.Leads (fieldPath reference.raw) shape ∨
          ∃ broken : Shape.Break (usesOf name (references template)) (fieldPath reference.raw)
              (usesOf name before).length,
            ∃ use ∈ broken.later, Shape.Says broken.start use) ∧
      ∀ earlier breaker later, usesOf name (references template) = earlier ++ breaker :: later →
        Shape.ConflictAt [] (Shape.together earlier) breaker → shape = Shape.together later := by
  rw [inferShapes_of_read done]
  constructor
  · intro reference member name base
    exact ⟨_, List.mem_map.mpr ⟨name, mem_variablesOf.mpr ⟨reference, member, base⟩, rfl⟩⟩
  intro name inference listed
  obtain ⟨_, _, same⟩ := List.mem_map.mp listed
  cases same
  refine ⟨_, shape?_inference _, rfl, ?_, ?_, ?_⟩
  · intro agree
    constructor
    · intro reference member base
      refine (Shape.kindAt_together agree _).2.mpr (Or.inr ⟨_, ?_, kindAt_of reference⟩)
      obtain ⟨before, after, split⟩ := List.append_of_mem member
      rw [split, usesOf_append, usesOf_cons base]
      simp
    · exact fun others same path => Shape.kindAt_together_of_perm agree same path
  · intro before reference after split base
    have uses : usesOf name (references template) =
        usesOf name before ++ (Observation.of reference).shape :: usesOf name after := by
      rw [split, usesOf_append, usesOf_cons base]
    show Shape.Leads _ (Shape.together (usesOf name (references template))) ∨ _
    rw [uses]
    exact Shape.leads_together (kindAt_of reference)
  · intro earlier breaker later split conflict
    show Shape.together (usesOf name (references template)) = _
    rw [split]
    exact Shape.together_of_conflict conflict

/-- References to a variable that is iterated over, read through a field and written. -/
def conflicting : List Reference :=
  [⟨"x", .blockArgument "each", false⟩, ⟨"x.y", .value, false⟩, ⟨"x", .value, false⟩]

theorem usesOf_conflicting : usesOf "x" conflicting =
    [.list .any, .object [("y", .scalar)], .scalar] := by
  have bases : baseVariable? "x" = some "x" ∧ baseVariable? "x.y" = some "x" := by decide +kernel
  have paths : fieldPath "x" = [] ∧ fieldPath "x.y" = ["y"] := by decide +kernel
  simp [usesOf, observationsOf, conflicting, bases, Observation.of, paths, Shape.behind]

def conflictingSource : String :=
  "\x7b\x7b#each x\x7d\x7d\x7b\x7b/each\x7d\x7d\x7b\x7bx.y\x7d\x7d\x7b\x7bx\x7d\x7d"

theorem shapes_keep_uses_conflicting : ∃ template,
    Template.read conflictingSource = .ok template ∧
    ∀ inference, ("x", inference) ∈ inferShapes conflictingSource →
      inference.shape? = some .scalar := by
  have refers : (Template.read conflictingSource).toOption.any
      (fun template => references template == conflicting) = true := by
    decide +kernel
  obtain ⟨template, done, refers⟩ := Template.exists_of_read refers
  refine ⟨template, done, fun inference listed => ?_⟩
  obtain ⟨shape, known, _, _, _, forgets⟩ := (shapes_keep_uses _ _ done).2 _ _ listed
  rw [beq_iff_eq.mp refers, usesOf_conflicting] at forgets
  rw [known, forgets [.list .any] (.object [("y", .scalar)]) [.scalar] rfl]
  · rfl
  · exact ⟨.list, .object, rfl, rfl, by decide⟩

end Stencil.Extraction
