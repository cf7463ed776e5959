import Stencil.Helper.Collections
import Stencil.Proofs.ValueOrder

set_option autoImplicit false

/-!
Sorting of data. The order of data values is a preorder of all values, so the list that is sorted is
the same list in order, and values that are compared as equal are left as they stand to each other
(`filter_mergeSort`). So a list that is sorted stays as it is if it is sorted again.
-/

namespace Stencil

section

variable {α : Type} {le : α → α → Bool}

/-- Sorting keeps a selection of values none of which must come before another one as it stands. -/
theorem filter_mergeSort (trans : ∀ a b c, le a b = true → le b c = true → le a c = true)
    (total : ∀ a b, (le a b || le b a) = true) {test : α → Bool}
    (tied : ∀ a b, test a = true → test b = true → le a b = true) (items : List α) :
    (items.mergeSort le).filter test = items.filter test := by
  have ordered : (items.filter test).Pairwise fun a b => le a b = true :=
    List.pairwise_of_forall_mem_list fun a inFirst b inSecond =>
      tied a b (List.mem_filter.mp inFirst).2 (List.mem_filter.mp inSecond).2
  have kept := (List.sublist_mergeSort trans total ordered List.filter_sublist).filter test
  rw [List.filter_filter] at kept
  simp only [Bool.and_self] at kept
  exact (kept.eq_of_length ((List.mergeSort_perm items le).filter test).length_eq.symm).symm

end

namespace Json

theorem atMost_iff (left right : Json) : atMost left right = true ↔ compareValues left right ≠ .gt :=
  bne_iff_ne

/-- Values that both compare as equal to a third one need no order. -/
theorem atMost_of_tied {value left right : Json} (first : compareValues value left = .eq)
    (second : compareValues value right = .eq) : atMost left right = true := by
  have turned : compareValues left value = (compareValues value left).swap := Std.OrientedCmp.eq_swap
  refine atMost_trans left value right ?_ ?_
  · rw [atMost, turned, first]
    rfl
  · rw [atMost, second]
    rfl

end Json

namespace Collections

/-- What a value is sorted by: a field, which counts as null where it is missing, or the value itself. -/
def sortKey (call : Call) (value : Json) : Json :=
  match call.argument? 1 with
  | some (.string key) => (value.field? key).getD .null
  | _ => value

/-- The order of `sort`. -/
def sortOrder (call : Call) (left right : Json) : Bool :=
  Json.atMost (sortKey call left) (sortKey call right)

theorem sort_eq (call : Call) :
    sort call = (call.arrayOrEmpty 0).map fun items => .array (items.mergeSort (sortOrder call)) := by
  unfold sort sortOrder sortKey
  cases call.arrayOrEmpty 0 with
  | error halt => rfl
  | ok items =>
    show (match call.argument? 1 with | some (.string key) => _ | _ => _) = _
    split <;> rfl

theorem sortOrder_trans (call : Call) (first second third : Json)
    (lower : sortOrder call first second = true) (upper : sortOrder call second third = true) :
    sortOrder call first third = true :=
  Json.atMost_trans _ _ _ lower upper

theorem sortOrder_total (call : Call) (left right : Json) :
    (sortOrder call left right || sortOrder call right left) = true :=
  Json.atMost_total _ _

/-- The same call with an array as its first argument. -/
def onArray (call : Call) (items : List Json) : Call :=
  { call with arguments := .array items :: call.arguments.drop 1 }

theorem sortKey_onArray (call : Call) (items : List Json) : sortKey (onArray call items) = sortKey call := by
  have same : (onArray call items).argument? 1 = call.argument? 1 := by
    simp [onArray, Call.argument?, List.getElem?_cons_succ]
  unfold sortKey
  rw [same]

theorem sort_onArray (call : Call) (items : List Json) :
    sort (onArray call items) = .ok (.array (items.mergeSort (sortOrder call))) := by
  rw [sort_eq]
  show Except.ok (Json.array (items.mergeSort (sortOrder (onArray call items)))) = _
  unfold sortOrder
  rw [sortKey_onArray]

/-- The order of data is a preorder of all values, and `sort` gives the items of an array in this order, by
the values or by a field of theirs: none is lost or added, those that compare as equal to any value stay in
the order in which they were given, and sorting again changes nothing. -/
theorem sort_stable :
    (∀ value, Json.compareValues value value = .eq) ∧
    (∀ left right, Json.compareValues right left = (Json.compareValues left right).swap) ∧
    (∀ first second third, Json.compareValues first second ≠ .gt →
      Json.compareValues second third ≠ .gt → Json.compareValues first third ≠ .gt) ∧
    ∀ (call : Call) (items : List Json), ∃ sorted,
      sort (onArray call items) = .ok (.array sorted) ∧
      sorted.Perm items ∧
      sorted.Pairwise (fun left right =>
        Json.compareValues (sortKey call left) (sortKey call right) ≠ .gt) ∧
      (∀ value, sorted.filter (fun item => Json.compareValues value (sortKey call item) == .eq) =
        items.filter (fun item => Json.compareValues value (sortKey call item) == .eq)) ∧
      sort (onArray call sorted) = .ok (.array sorted) := by
  refine ⟨fun _ => Std.ReflCmp.compare_self, fun _ _ => Std.OrientedCmp.eq_swap, ?_, ?_⟩
  · intro first second third lower upper
    rw [← Json.atMost_iff] at lower upper ⊢
    exact Json.atMost_trans _ _ _ lower upper
  · intro call items
    have ordered := List.pairwise_mergeSort (sortOrder_trans call) (sortOrder_total call) items
    refine ⟨items.mergeSort (sortOrder call), sort_onArray call items, List.mergeSort_perm items _,
      ?_, ?_, ?_⟩
    · exact ordered.imp fun inOrder => (Json.atMost_iff _ _).mp inOrder
    · intro value
      refine filter_mergeSort (sortOrder_trans call) (sortOrder_total call)
        (fun left right first second => ?_) items
      exact Json.atMost_of_tied (eq_of_beq first) (eq_of_beq second)
    · rw [sort_onArray, List.mergeSort_of_pairwise ordered]

end Collections

end Stencil
