import Stencil.Helper.Catalog

set_option autoImplicit false

/-!
How calls of single helpers end. Every position and every bound that a helper uses is in order, so a call
ends with a value or with an error of the helper, whatever its arguments and options are: one lemma for
each helper. An accessor that has given a value also tells that the argument is there, which is what the
helpers that go on behind it rely on.
-/

namespace Stencil

open Number (Binary64)

/-- True for an answer that is a value or an error of the helper. -/
def Settled {α : Type} (answer : Answer α) : Prop :=
  answer ≠ .error .unbounded ∧ answer ≠ .error .endless

section

variable {α β : Type}

theorem settled_ok (value : α) : Settled (.ok value : Answer α) := ⟨nofun, nofun⟩

theorem settled_refused (error : HelperError) : Settled (.error (.refused error) : Answer α) :=
  ⟨nofun, nofun⟩

/-- What comes after an answer only matters for the values that it can have. -/
theorem Settled.bind {answer : Answer α} {next : α → Answer β} (first : Settled answer)
    (rest : ∀ value, answer = .ok value → Settled (next value)) : Settled (answer >>= next) := by
  cases answer with
  | ok value => exact rest value rfl
  | error halt =>
    obtain ⟨inside, ends⟩ := first
    exact ⟨fun failed => inside (by cases failed; rfl), fun failed => ends (by cases failed; rfl)⟩

theorem Settled.map {answer : Answer α} (first : Settled answer) (f : α → β) :
    Settled (answer.map f) := by
  cases answer with
  | ok value => exact settled_ok (f value)
  | error halt =>
    obtain ⟨inside, ends⟩ := first
    exact ⟨fun failed => inside (by cases failed; rfl), fun failed => ends (by cases failed; rfl)⟩

theorem settled_ite {condition : Prop} [Decidable condition] {left right : Answer α}
    (yes : condition → Settled left) (no : ¬ condition → Settled right) :
    Settled (if condition then left else right) := by
  by_cases holds : condition
  · rw [if_pos holds]
    exact yes holds
  · rw [if_neg holds]
    exact no holds

theorem settled_mapM {values : List α} {f : α → Answer β} (each : ∀ value, Settled (f value)) :
    Settled (values.mapM f) := by
  induction values with
  | nil => exact settled_ok []
  | cons value values ih =>
    rw [List.mapM_cons]
    exact (each value).bind fun _ _ => ih.bind fun _ _ => settled_ok _

theorem settled_foldlM {f : β → α → Answer β} (each : ∀ state value, Settled (f state value))
    (values : List α) : ∀ state, Settled (values.foldlM f state) := by
  induction values with
  | nil => exact fun state => settled_ok state
  | cons value values ih =>
    intro state
    rw [List.foldlM_cons]
    exact (each state value).bind fun next _ => ih next

/-! ### Positions and bounds -/

theorem settled_itemAt {items : List α} {index : Nat} (inside : index < items.length) :
    Settled (itemAt items index) := by
  rw [itemAt, List.getElem?_eq_getElem inside]
  exact settled_ok _

theorem settled_itemsBetween {items : List α} {start finish : Int} (low : 0 ≤ start)
    (order : start ≤ finish) (high : finish ≤ items.length) :
    Settled (itemsBetween items start finish) := by
  rw [itemsBetween, if_pos ⟨low, order, high⟩]
  exact settled_ok _

theorem settled_held {low high : Int} (order : low ≤ high) (value : Int) :
    Settled (held low high value) := by
  rw [held, if_pos order]
  exact settled_ok _

end

/-! ### Reading arguments -/

namespace Call

variable (call : Call) (index : Nat)

theorem settled_refuse {α : Type} (reason : String) : Settled (call.refuse reason : Answer α) :=
  settled_refused _

theorem settled_argument : Settled (call.argument index) := by
  unfold argument
  split
  · exact settled_ok _
  · exact settled_refused _

/-- An argument that is given is inside the list. -/
theorem lt_of_argument {value : Json} (given : call.argument index = .ok value) :
    index < call.arguments.length := by
  unfold argument argument? at given
  split at given
  · rename_i found
    exact (List.getElem?_eq_some_iff.mp found).1
  · cases given

theorem settled_text : Settled (call.text index) := (call.settled_argument index).map _

theorem settled_chars : Settled (call.chars index) := (call.settled_text index).map _

theorem settled_number : Settled (call.number index) := by
  refine (call.settled_argument index).bind fun value _ => ?_
  split
  · exact settled_ok _
  · exact call.settled_refuse _

theorem settled_integer : Settled (call.integer index) :=
  (call.settled_number index).bind fun _ _ =>
    settled_ite (fun _ => settled_ok _) fun _ => call.settled_refuse _

theorem settled_integer? : Settled (call.integer? index) := by
  unfold integer?
  split
  · exact settled_ok _
  · exact settled_ok _
  · exact (call.settled_integer index).map _

theorem settled_natural (what : String) : Settled (call.natural index what) :=
  (call.settled_integer index).bind fun _ _ =>
    settled_ite (fun _ => call.settled_refuse _) fun _ => settled_ok _

theorem settled_array : Settled (call.array index) := by
  refine (call.settled_argument index).bind fun value _ => ?_
  split
  · exact settled_ok _
  · exact call.settled_refuse _

theorem settled_arrayOrEmpty : Settled (call.arrayOrEmpty index) := by
  refine (call.settled_argument index).bind fun value _ => ?_
  split
  · exact settled_ok _
  · exact call.settled_array index

theorem settled_object : Settled (call.object index) := by
  refine (call.settled_argument index).bind fun value _ => ?_
  split
  · exact settled_ok _
  · exact call.settled_refuse _

theorem settled_objectOrEmpty : Settled (call.objectOrEmpty index) := by
  refine (call.settled_argument index).bind fun value _ => ?_
  split
  · exact settled_ok _
  · exact call.settled_object index

/-- An object that is read is an argument inside the list. -/
theorem lt_of_object {fields : List (String × Json)} (given : call.object index = .ok fields) :
    index < call.arguments.length := by
  cases found : call.argument index with
  | ok value => exact call.lt_of_argument index found
  | error halt =>
    rw [object, found] at given
    cases given

end Call

/-! ### Helpers on texts -/

namespace Texts

variable (call : Call)

theorem settled_onText (change : List Char → List Char) : Settled (onText change call) :=
  (call.settled_chars 0).bind fun _ _ => settled_ok _

theorem settled_truncate : Settled (truncate call) :=
  (call.settled_chars 0).bind fun _ _ => (call.settled_natural 1 _).bind fun _ _ =>
    settled_ite (fun _ => settled_ok _) fun _ => settled_ok _

theorem settled_repeatText : Settled (repeatText call) :=
  (call.settled_text 0).bind fun _ _ => (call.settled_natural 1 _).bind fun _ _ =>
    settled_ite (fun _ => settled_ok _) fun _ => call.settled_refuse _

theorem settled_replace : Settled (replace call) :=
  (call.settled_chars 0).bind fun _ _ => (call.settled_chars 1).bind fun _ _ =>
    (call.settled_chars 2).bind fun _ _ => settled_ok _

theorem settled_split : Settled (split call) :=
  (call.settled_chars 0).bind fun _ _ => settled_ok _

theorem settled_substring : Settled (substring call) :=
  (call.settled_chars 0).bind fun _ _ => (call.settled_integer? 1).bind fun _ _ =>
    (settled_held (Int.natCast_nonneg _) _).bind fun _ _ => (call.settled_integer? 2).bind fun _ _ =>
      (settled_held (Int.natCast_nonneg _) _).bind fun _ _ => settled_ok _

theorem settled_startsWith : Settled (startsWith call) :=
  (call.settled_chars 0).bind fun _ _ => (call.settled_chars 1).bind fun _ _ => settled_ok _

theorem settled_endsWith : Settled (endsWith call) :=
  (call.settled_chars 0).bind fun _ _ => (call.settled_chars 1).bind fun _ _ => settled_ok _

end Texts

/-! ### Helpers on dates -/

namespace Dates

variable (call : Call)

theorem settled_instant (index : Nat) : Settled (instant call index) := by
  refine (call.settled_argument index).bind fun value _ => ?_
  split
  · exact settled_ok _
  · exact call.settled_refuse _

theorem settled_formatted (date : Calendar.Instant) (pattern : String) :
    Settled (formatted call date pattern) := by
  unfold formatted
  split
  · exact call.settled_refuse _
  · split
    · exact settled_ok _
    · exact call.settled_refuse _

theorem settled_now : Settled (now call) := by
  unfold now
  split
  · exact settled_formatted call _ _
  · exact settled_ok _

theorem settled_formatDate : Settled (formatDate call) := by
  refine (settled_instant call 0).bind fun date _ => ?_
  split
  · exact settled_formatted call _ _
  · exact settled_formatted call _ _

theorem settled_shift (seconds : Nat) : Settled (shift seconds call) := by
  refine (settled_instant call 0).bind fun date _ => (call.settled_integer 1).bind fun amount _ => ?_
  split
  · exact settled_ok _
  · exact call.settled_refuse _

theorem settled_diffDays : Settled (diffDays call) :=
  (settled_instant call 0).bind fun _ _ => (settled_instant call 1).bind fun _ _ => settled_ok _

theorem settled_isBefore : Settled (isBefore call) :=
  (settled_instant call 0).bind fun _ _ => (settled_instant call 1).bind fun _ _ => settled_ok _

theorem settled_isAfter : Settled (isAfter call) :=
  (settled_instant call 0).bind fun _ _ => (settled_instant call 1).bind fun _ _ => settled_ok _

end Dates

/-! ### Helpers on numbers -/

namespace Arithmetic

variable (call : Call)

theorem settled_unary (change : Binary64 → Binary64) : Settled (unary change call) :=
  (call.settled_number 0).bind fun _ _ => settled_ok _

theorem settled_binary (combine : Binary64 → Binary64 → Binary64) : Settled (binary combine call) :=
  (call.settled_number 0).bind fun _ _ => (call.settled_number 1).bind fun _ _ => settled_ok _

theorem settled_division (combine : Binary64 → Binary64 → Binary64) :
    Settled (division combine call) :=
  (call.settled_number 1).bind fun _ _ => settled_ite (fun _ => call.settled_refuse _) fun _ =>
    (call.settled_number 0).bind fun _ _ => settled_ok _

theorem settled_places (index : Nat) : Settled (places call index) :=
  (call.settled_integer? index).bind fun _ _ => (settled_held (by decide) _).bind fun _ _ =>
    settled_ok _

theorem settled_round : Settled (round call) :=
  (call.settled_number 0).bind fun _ _ => (settled_places call 1).bind fun _ _ => settled_ok _

theorem settled_numbers : Settled (numbers call) := by
  refine settled_mapM fun value => ?_
  split
  · exact settled_ok _
  · exact call.settled_refuse _

theorem settled_extreme (pick : Binary64 → Binary64 → Binary64) : Settled (extreme pick call) := by
  refine (settled_numbers call).bind fun values _ => ?_
  split
  · exact call.settled_refuse _
  · exact settled_ok _

theorem settled_sum : Settled (sum call) := (settled_numbers call).bind fun _ _ => settled_ok _

theorem settled_avg : Settled (avg call) :=
  (settled_numbers call).bind fun _ _ => settled_ite (fun _ => settled_ok _) fun _ => settled_ok _

theorem settled_formatNumber : Settled (formatNumber call) :=
  (call.settled_number 0).bind fun _ _ => (settled_places call 1).bind fun _ _ => settled_ok _

theorem settled_ratio : Settled (ratio call) := by
  refine (call.settled_number 0).bind fun value _ => ?_
  split
  · exact settled_ok _
  · exact settled_ok _
  · exact (call.settled_number 1).bind fun _ _ =>
      settled_ite (fun _ => call.settled_refuse _) fun _ => settled_ok _

theorem settled_percent : Settled (percent call) :=
  (settled_ratio call).bind fun _ _ => (settled_places call 2).bind fun _ _ => settled_ok _

end Arithmetic

/-! ### Helpers on collections -/

namespace Collections

variable (call : Call)

theorem settled_join : Settled (join call) :=
  (call.settled_arrayOrEmpty 0).bind fun _ _ => settled_ok _

theorem settled_count? : Settled (count? call) := by
  refine (call.settled_integer? 1).bind fun count _ => ?_
  split
  · exact settled_ok _
  · exact settled_ite (fun _ => call.settled_refuse _) fun _ => settled_ok _

theorem settled_first : Settled (first call) := by
  refine (call.settled_arrayOrEmpty 0).bind fun items _ => (settled_count? call).bind fun count _ => ?_
  split
  · exact settled_ok _
  · exact settled_ok _

theorem settled_last : Settled (last call) := by
  refine (call.settled_arrayOrEmpty 0).bind fun items _ => (settled_count? call).bind fun count _ => ?_
  split
  · exact settled_ok _
  · exact settled_ok _

theorem settled_length : Settled (length call) := by
  refine (call.settled_argument 0).bind fun value _ => ?_
  cases value with
  | bool value => exact call.settled_refuse _
  | number value => exact call.settled_refuse _
  | null => exact settled_ok _
  | string text => exact settled_ok _
  | array items => exact settled_ok _
  | object fields => exact settled_ok _

theorem settled_reverse : Settled (reverse call) := by
  refine (call.settled_argument 0).bind fun value _ => ?_
  split
  · exact settled_ok _
  · exact (call.settled_arrayOrEmpty 0).bind fun _ _ => settled_ok _

theorem settled_sort : Settled (sort call) := by
  refine (call.settled_arrayOrEmpty 0).bind fun items _ => ?_
  split
  · exact settled_ok _
  · exact settled_ok _

theorem settled_unique : Settled (unique call) :=
  (call.settled_arrayOrEmpty 0).bind fun _ _ => settled_ok _

/-- A resolved position is one of the list, or its end. -/
theorem resolve_bounds (length : Nat) (index : Int) :
    0 ≤ resolve length index ∧ resolve length index ≤ length := by
  unfold resolve
  split
  · omega
  · omega

theorem settled_slice : Settled (slice call) := by
  refine (call.settled_arrayOrEmpty 0).bind fun items _ => (call.settled_integer? 1).bind fun start _ =>
    (call.settled_integer? 2).bind fun finish _ => settled_ite (fun _ => settled_ok _) fun order => ?_
  have low := (resolve_bounds items.length (start.getD 0)).1
  have high := (resolve_bounds items.length (finish.getD items.length)).2
  exact (settled_itemsBetween low (by omega) high).bind fun _ _ => settled_ok _

theorem settled_includes : Settled (includes call) := by
  refine (call.settled_argument 1).bind fun needle _ => (call.settled_argument 0).bind fun value _ => ?_
  split
  · exact settled_ok _
  · exact settled_ok _
  · exact settled_ok _
  · exact call.settled_refuse _

theorem settled_pluck : Settled (pluck call) :=
  (call.settled_arrayOrEmpty 0).bind fun _ _ => (call.settled_text 1).bind fun _ _ => settled_ok _

theorem settled_filterBy : Settled (filterBy call) :=
  (call.settled_arrayOrEmpty 0).bind fun _ _ => (call.settled_text 1).bind fun _ _ =>
    (call.settled_argument 2).bind fun _ _ => settled_ok _

theorem settled_chunk : Settled (chunk call) := by
  refine (call.settled_arrayOrEmpty 0).bind fun items _ => (call.settled_integer 1).bind fun size _ =>
    settled_ite (fun _ => call.settled_refuse _) fun positive => ?_
  have nonzero : size.toNat ≠ 0 := by omega
  rw [piecesOf, if_neg nonzero]
  exact settled_ok _

theorem settled_flatten : Settled (flatten call) :=
  (call.settled_arrayOrEmpty 0).bind fun _ _ => settled_ok _

theorem settled_range : Settled (range call) := by
  refine Settled.bind ?_ fun bounds _ => (call.settled_integer? 2).bind fun step _ => ?_
  · refine (call.settled_integer? 1).bind fun finish _ => ?_
    split
    · exact (call.settled_integer 0).bind fun _ _ => settled_ok _
    · exact (call.settled_integer 0).bind fun _ _ => settled_ok _
  · refine settled_ite (fun _ => call.settled_refuse _) fun nonzero => ?_
    rw [quotient, if_neg nonzero]
    exact settled_ite (fun _ => call.settled_refuse _) fun _ => settled_ok _

theorem settled_compact : Settled (compact call) :=
  (call.settled_arrayOrEmpty 0).bind fun _ _ => settled_ok _

theorem settled_isEmpty : Settled (isEmpty call) := by
  refine (call.settled_argument 0).bind fun value _ => ?_
  cases value with
  | bool value => exact settled_ok _
  | number value => exact settled_ok _
  | null => exact settled_ok _
  | string text => exact settled_ok _
  | array items => exact settled_ok _
  | object fields => exact settled_ok _

end Collections

/-! ### Helpers on objects -/

namespace Objects

variable (call : Call)

theorem settled_get : Settled (get call) :=
  (call.settled_argument 0).bind fun _ _ => (call.settled_text 1).bind fun _ _ => settled_ok _

theorem settled_keys : Settled (keys call) :=
  (call.settled_objectOrEmpty 0).bind fun _ _ => settled_ok _

theorem settled_values : Settled (values call) :=
  (call.settled_objectOrEmpty 0).bind fun _ _ => settled_ok _

theorem settled_pairs : Settled (pairs call) :=
  (call.settled_objectOrEmpty 0).bind fun _ _ => settled_ok _

theorem settled_has : Settled (has call) :=
  (call.settled_text 1).bind fun _ _ => (call.settled_argument 0).bind fun _ _ => settled_ok _

/-- The object that is read is the first argument, so the others can be taken from behind it. -/
theorem settled_keeping (keep : Bool → Bool) : Settled (keeping keep call) := by
  refine (call.settled_object 0).bind fun fields given => ?_
  have first := call.lt_of_object 0 given
  exact (settled_itemsBetween (by omega) (by omega) (Int.le_refl _)).bind fun _ _ => settled_ok _

theorem settled_merge : Settled (merge call) := by
  refine Settled.bind (settled_foldlM (fun fields argument => ?_) _ _) fun _ _ => settled_ok _
  unfold mergeInto
  split
  · exact settled_ok _
  · exact settled_ok _
  · exact call.settled_refuse _

theorem settled_json : Settled (json call) :=
  (call.settled_argument 0).bind fun _ _ => settled_ok _

theorem settled_yaml : Settled (yaml call) :=
  (call.settled_argument 0).bind fun _ _ => settled_ok _

/-- The fallback is the second argument, so there is a first one. -/
theorem settled_default : Settled (default call) := by
  refine (call.settled_argument 1).bind fun fallback given => ?_
  have second := call.lt_of_argument 1 given
  exact (settled_itemAt (by omega)).bind fun _ _ => settled_ok _

end Objects

/-! ### Helpers that compare and choose -/

namespace Choices

variable (call : Call)

theorem settled_equality (wanted : Bool) : Settled (equality wanted call) :=
  (call.settled_argument 0).bind fun _ _ => (call.settled_argument 1).bind fun _ _ => settled_ok _

theorem settled_comparison (test : Ordering → Bool) : Settled (comparison test call) :=
  (call.settled_argument 0).bind fun _ _ => (call.settled_argument 1).bind fun _ _ => settled_ok _

theorem settled_not : Settled (not call) :=
  (call.settled_argument 0).bind fun _ _ => settled_ok _

theorem settled_typeOf : Settled (typeOf call) :=
  (call.settled_argument 0).bind fun _ _ => settled_ok _

theorem settled_ifThen : Settled (ifThen call) :=
  (call.settled_argument 0).bind fun _ _ => (call.settled_argument 1).bind fun _ _ => settled_ok _

/-- The value that is matched is the first argument, so the cases can be taken from behind it. -/
theorem settled_switch : Settled (switch call) := by
  refine (call.settled_argument 0).bind fun value given => ?_
  have first := call.lt_of_argument 0 given
  refine (settled_itemsBetween (by omega) (by omega) (Int.le_refl _)).bind fun cases _ => ?_
  split
  · exact settled_ok _
  · exact settled_ok _

end Choices

end Stencil
