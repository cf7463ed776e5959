import Stencil.Proofs.ShapeKinds

set_option autoImplicit false

/-!
Laws of merging. A shape is proper if no object in it has two fields of one name, as all shapes are that
a source gives (`proper_of_inferred`). Proper shapes give the same in either order, up to the order of
fields; a shape stays as it is when merged with itself or with one that says nothing; and a merged object
has the fields of the first one and behind them those of the second that are new (`merge_unites`).
-/

namespace Stencil.Extraction

namespace Shape

/-- The names of fields, in order. -/
def fieldNames (fields : List (String × Shape)) : List String := fields.map Prod.fst

/-- No object in the shape has two fields of one name. -/
inductive Proper : Shape → Prop where
  | scalar : Proper .scalar
  | object {fields : List (String × Shape)} (distinct : (fieldNames fields).Nodup)
      (inside : ∀ field ∈ fields, Proper field.2) : Proper (.object fields)
  | list {item : Shape} (inside : Proper item) : Proper (.list item)
  | any : Proper .any

/-- Two shapes are the same up to the order of fields. -/
inductive Alike : Shape → Shape → Prop where
  | scalar : Alike .scalar .scalar
  | object {left right : List (String × Shape)} (names : (fieldNames left).Perm (fieldNames right))
      (inside : ∀ name inner other, field? name left = some inner → field? name right = some other →
        Alike inner other) : Alike (.object left) (.object right)
  | list {item other : Shape} (inside : Alike item other) : Alike (.list item) (.list other)
  | any : Alike .any .any

/-! ### Fields and their names -/

section

variable {name : String} {shape : Shape} {fields left right : List (String × Shape)}

theorem field?_eq_none_iff : field? name fields = none ↔ name ∉ fieldNames fields := by
  induction fields with
  | nil => simp [field?, fieldNames]
  | cons field fields ih =>
    obtain ⟨other, inner⟩ := field
    by_cases same : name = other
    · simp [field?, fieldNames, same]
    · simpa [field?, fieldNames, same] using ih

theorem mem_of_field? (found : field? name fields = some shape) : (name, shape) ∈ fields := by
  induction fields with
  | nil => cases found
  | cons field fields ih =>
    obtain ⟨other, inner⟩ := field
    by_cases same : name = other
    · have first : inner = shape := by simpa [field?, same] using found
      rw [same, first]
      exact List.mem_cons_self
    · exact List.mem_cons_of_mem _ (ih (by simpa [field?, same] using found))

theorem mem_fieldNames_of_mem (member : (name, shape) ∈ fields) : name ∈ fieldNames fields :=
  List.mem_map.mpr ⟨_, member, rfl⟩

/-- A field is found by its name if it is the only one of that name. -/
theorem field?_of_mem (distinct : (fieldNames fields).Nodup) (member : (name, shape) ∈ fields) :
    field? name fields = some shape := by
  induction fields with
  | nil => cases member
  | cons field fields ih =>
    obtain ⟨other, inner⟩ := field
    obtain ⟨new, distinct⟩ := List.nodup_cons.mp distinct
    rcases List.mem_cons.mp member with same | member
    · cases same
      simp [field?]
    · have differs : name ≠ other := fun same => new (same ▸ mem_fieldNames_of_mem member)
      simpa [field?, differs] using ih distinct member

theorem fieldNames_mergeFields (left right : List (String × Shape)) :
    fieldNames (mergeFields left right) = fieldNames left := by
  induction left with
  | nil => simp [mergeFields, fieldNames]
  | cons field left ih =>
    obtain ⟨name, shape⟩ := field
    rw [mergeFields]
    cases field? name right with
    | none => simpa [fieldNames] using ih
    | some other => simpa [fieldNames] using ih

/-- The names of a merged object are those of the first one and the new ones of the second. -/
theorem fieldNames_merged (left right : List (String × Shape)) :
    fieldNames (mergeFields left right ++
        right.filter fun field => (field? field.1 left).isNone) =
      fieldNames left ++ (fieldNames right).filter fun name => name ∉ fieldNames left := by
  have new : (fun field : String × Shape => (field? field.1 left).isNone) =
      (fun name => decide (name ∉ fieldNames left)) ∘ Prod.fst := by
    funext field
    rw [Function.comp_apply, Bool.eq_iff_iff, decide_eq_true_iff, ← field?_eq_none_iff,
      Option.isNone_iff_eq_none]
  calc fieldNames (mergeFields left right ++
          right.filter fun field => (field? field.1 left).isNone)
      = fieldNames (mergeFields left right) ++
          fieldNames (right.filter fun field => (field? field.1 left).isNone) := List.map_append
    _ = fieldNames left ++ (fieldNames right).filter fun name => name ∉ fieldNames left := by
        rw [fieldNames_mergeFields, new]
        exact congrArg _ List.filter_map.symm

theorem nodup_merged (distinct : (fieldNames left).Nodup) (further : (fieldNames right).Nodup) :
    (fieldNames left ++ (fieldNames right).filter fun name => name ∉ fieldNames left).Nodup := by
  refine List.nodup_append.mpr ⟨distinct, further.filter _, ?_⟩
  rintro name member other new rfl
  exact (of_decide_eq_true (List.mem_filter.mp new).2) member

/-- Fields that merging leaves as they are. -/
theorem mergeFields_eq_left (kept : ∀ field ∈ left, ∀ other, field? field.1 right = some other →
    merge field.2 other = field.2) : mergeFields left right = left := by
  induction left with
  | nil => simp [mergeFields]
  | cons field left ih =>
    obtain ⟨name, shape⟩ := field
    obtain ⟨first, kept⟩ := List.forall_mem_cons.mp kept
    rw [mergeFields, ih kept]
    cases found : field? name right with
    | none => rfl
    | some other =>
      have same : merge shape other = shape := first other found
      dsimp only
      rw [same]

end

/-! ### Laws -/

section

variable {first second : Shape}

theorem Proper.alike_self (proper : first.Proper) : Alike first first := by
  induction proper with
  | scalar => exact .scalar
  | @object fields distinct _ ih =>
    refine .object (List.Perm.refl _) fun name inner other found further => ?_
    cases found.symm.trans further
    exact ih _ (mem_of_field? found)
  | list _ ih => exact .list ih
  | any => exact .any

theorem Proper.merge (proper : first.Proper) (further : second.Proper) :
    (merge first second).Proper := by
  induction proper generalizing second with
  | scalar =>
    cases further with
    | scalar => simpa [Shape.merge] using Proper.scalar
    | object _ _ => simpa [Shape.merge] using Proper.any
    | list _ => simpa [Shape.merge] using Proper.any
    | any => simpa [Shape.merge] using Proper.scalar
  | @object left distinct inside ih =>
    cases further with
    | scalar => simpa [Shape.merge] using Proper.any
    | @object right others beside =>
      have names := nodup_merged distinct others
      rw [← fieldNames_merged] at names
      rw [merge_object]
      refine .object names fun field member => ?_
      have found := field?_of_mem names member
      rw [field?_merged] at found
      cases known : field? field.1 left with
      | none =>
        simp only [known] at found
        exact beside _ (mem_of_field? found)
      | some inner =>
        have mine := mem_of_field? known
        cases again : field? field.1 right with
        | none =>
          simp only [known, again, Option.some.injEq] at found
          exact found ▸ inside _ mine
        | some other =>
          simp only [known, again, Option.some.injEq] at found
          exact found ▸ ih _ mine (beside _ (mem_of_field? again))
    | list _ => simpa [Shape.merge] using Proper.any
    | any => exact (merge_any (.object left)).symm ▸ .object distinct inside
  | @list item inside ih =>
    cases further with
    | scalar => simpa [Shape.merge] using Proper.any
    | object _ _ => simpa [Shape.merge] using Proper.any
    | list other => simpa [Shape.merge] using Proper.list (ih other)
    | any => exact (merge_any (.list item)).symm ▸ .list inside
  | any => exact (any_merge second).symm ▸ further

/-- Merging in the other order gives the same up to the order of fields. -/
theorem Proper.alike_merge (proper : first.Proper) (further : second.Proper) :
    Alike (Shape.merge first second) (Shape.merge second first) := by
  induction proper generalizing second with
  | scalar =>
    cases further with
    | scalar => simpa [Shape.merge] using Alike.scalar
    | object _ _ => simpa [Shape.merge] using Alike.any
    | list _ => simpa [Shape.merge] using Alike.any
    | any => simpa [Shape.merge] using Alike.scalar
  | @object left distinct inside ih =>
    cases further with
    | scalar => simpa [Shape.merge] using Alike.any
    | @object right others beside =>
      rw [merge_object, merge_object]
      have names := nodup_merged distinct others
      have swapped := nodup_merged others distinct
      refine .object ?_ fun name inner other found again => ?_
      · rw [fieldNames_merged, fieldNames_merged, List.perm_ext_iff_of_nodup names swapped]
        intro name
        simp only [List.mem_append, List.mem_filter, decide_eq_true_eq]
        tauto
      · rw [field?_merged] at found again
        cases mine : field? name left with
        | none =>
          cases yours : field? name right with
          | none => simp [mine, yours] at found
          | some known =>
            simp only [mine, yours, Option.some.injEq] at found again
            subst found again
            exact (beside _ (mem_of_field? yours)).alike_self
        | some known =>
          cases yours : field? name right with
          | none =>
            simp only [mine, yours, Option.some.injEq] at found again
            subst found again
            exact (inside _ (mem_of_field? mine)).alike_self
          | some yet =>
            simp only [mine, yours, Option.some.injEq] at found again
            subst found again
            exact ih _ (mem_of_field? mine) (beside _ (mem_of_field? yours))
    | list _ => simpa [Shape.merge] using Alike.any
    | any =>
      rw [merge_any, any_merge]
      exact (Proper.object distinct inside).alike_self
  | @list item inside ih =>
    cases further with
    | scalar => simpa [Shape.merge] using Alike.any
    | object _ _ => simpa [Shape.merge] using Alike.any
    | list other => simpa [Shape.merge] using Alike.list (ih other)
    | any =>
      rw [merge_any, any_merge]
      exact (Proper.list inside).alike_self
  | any =>
    rw [merge_any, any_merge]
    exact further.alike_self

/-- A shape says nothing new about itself. -/
theorem Proper.merge_self (proper : first.Proper) : Shape.merge first first = first := by
  induction proper with
  | scalar => simp [Shape.merge]
  | @object fields distinct _ ih =>
    have kept : mergeFields fields fields = fields := by
      refine mergeFields_eq_left fun field member other found => ?_
      cases (field?_of_mem distinct member).symm.trans found
      exact ih field member
    have known : ∀ field ∈ fields, ¬ (field? field.1 fields).isNone = true := by
      intro field member
      simp [field?_of_mem distinct member]
    rw [merge_object, kept, List.filter_eq_nil_iff.mpr known, List.append_nil]
  | list _ ih => rw [Shape.merge, ih]
  | any => exact any_merge .any

end

/-- Merging proper shapes gives a proper shape, the same in either order up to the order of fields. A
shape merged with itself, or with one that says nothing, stays as it is. The fields of a merged object are
those of the first one, in its order, and behind them those of the second that are new; fields of one name
are merged. -/
theorem merge_unites (first second : Shape) (proper : first.Proper) (further : second.Proper) :
    (merge first second).Proper ∧ Alike (merge first second) (merge second first) ∧
      merge first first = first ∧ merge .any first = first ∧ merge first .any = first ∧
      ∀ left right, first = .object left → second = .object right → ∃ fields,
        merge first second = .object fields ∧
        fieldNames fields =
          fieldNames left ++ (fieldNames right).filter (fun name => name ∉ fieldNames left) ∧
        (fieldNames fields).Nodup ∧
        ∀ name, field? name fields =
          match field? name left, field? name right with
          | some inner, some other => some (merge inner other)
          | some inner, none => some inner
          | none, other => other := by
  refine ⟨proper.merge further, proper.alike_merge further, proper.merge_self, any_merge first,
    merge_any first, ?_⟩
  rintro left right rfl rfl
  refine ⟨_, merge_object left right, fieldNames_merged left right, ?_,
    fun name => field?_merged name left right⟩
  cases proper with
  | object distinct _ =>
    cases further with
    | object others _ =>
      rw [fieldNames_merged]
      exact nodup_merged distinct others

/-- A shape with a list of objects and a field that nothing is known of. -/
def order : Shape :=
  .object [("lines", .list (.object [("price", .scalar)])), ("buyer", .any), ("total", .scalar)]

/-- A shape that names some of the same fields in another order, and conflicts in one. -/
def invoice : Shape :=
  .object [("total", .list .any), ("buyer", .object [("name", .scalar)]),
    ("lines", .list (.object [("count", .scalar)])), ("due", .scalar)]

theorem proper_leaf (name : String) (shape : Shape) (proper : shape.Proper) :
    Proper (.object [(name, shape)]) :=
  .object (by simp [fieldNames]) (by simpa using proper)

theorem proper_order : order.Proper :=
  .object (by decide) (by simp [Proper.scalar, Proper.any, Proper.list, proper_leaf])

theorem proper_invoice : invoice.Proper :=
  .object (by decide) (by simp [Proper.scalar, Proper.any, Proper.list, proper_leaf])

theorem merge_unites_orders : order.Proper ∧ invoice.Proper ∧
    Alike (merge order invoice) (merge invoice order) ∧
    ∃ fields, merge order invoice = .object fields ∧
      fieldNames fields = ["lines", "buyer", "total", "due"] ∧
      field? "total" fields = some .any := by
  obtain ⟨_, alike, _, _, _, united⟩ := merge_unites order invoice proper_order proper_invoice
  obtain ⟨fields, merged, names, _, inner⟩ := united _ _ rfl rfl
  refine ⟨proper_order, proper_invoice, alike, fields, merged, names.trans (by decide), ?_⟩
  rw [inner]
  simp [field?, merge]

/-! ### Shapes of sources -/

theorem proper_behind {leaf : Shape} (proper : leaf.Proper) (path : List String) :
    (behind leaf path).Proper := by
  induction path with
  | nil => exact proper
  | cons name path ih => exact proper_leaf name _ ih

theorem proper_together {uses : List Shape} (proper : ∀ use ∈ uses, use.Proper) :
    (together uses).Proper := by
  induction uses using List.reverseRecOn with
  | nil => exact .any
  | append_singleton uses last ih =>
    rw [together_append_singleton]
    exact (ih fun use member => proper use (List.mem_append_left _ member)).merge
      (proper last (by simp))

end Shape

theorem Observation.proper_of (reference : Reference) : (Observation.of reference).shape.Proper := by
  unfold Observation.of
  refine Shape.proper_behind ?_ _
  split
  · exact .scalar
  · exact .list .any
  · exact .object List.nodup_nil (by simp)
  · exact .any
  · exact .any

/-- Every shape that is inferred is proper. -/
theorem proper_of_inferred {source name : String} {inference : Inference} {shape : Shape}
    (inferred : (name, inference) ∈ inferShapes source) (known : inference.shape? = some shape) :
    shape.Proper := by
  cases read : Template.read source with
  | error error =>
    rw [inferShapes_of_error read] at inferred
    obtain ⟨_, _, same⟩ := List.mem_map.mp inferred
    cases same
    cases known
  | ok template =>
    rw [eq_together_of_inferred read inferred known]
    refine Shape.proper_together fun use member => ?_
    obtain ⟨reference, _, _, rfl⟩ := mem_usesOf_iff.mp member
    exact Observation.proper_of reference

end Stencil.Extraction
