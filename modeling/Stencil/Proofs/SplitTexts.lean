import Stencil.Proofs.CatalogInstallation
import Stencil.Proofs.PartedTexts

set_option autoImplicit false

/-!
Answers of helpers to texts. The helpers `split` and `join` are inverse (`split_join_inverse`): an empty
separator stands between all characters, every other one as it is found in the text.
-/

namespace Stencil

namespace Texts

open Catalog (answer)

/-- The parts that `split` gives: an empty separator stands between all characters. -/
def partsOf (separator text : List Char) : List (List Char) :=
  if separator.isEmpty then text.map ([·]) else Text.splitOn separator text

theorem intercalate_partsOf (separator text : List Char) :
    separator.intercalate (partsOf separator text) = text := by
  cases separator with
  | nil =>
    induction text with
    | nil => rfl
    | cons c text ih =>
      cases text with
      | nil => rfl
      | cons d text => exact List.intercalate_cons_cons.trans (congrArg (c :: ·) ih)
  | cons c others => exact Text.intercalate_splitOn text

/-- Texts that share no character with a separator that is not empty are the parts of their joined text. -/
theorem partsOf_intercalate {items : List String} {separator : String} (some : items ≠ [])
    (filled : separator ≠ "") (free : ∀ item ∈ items, ∀ c ∈ item.toList, c ∉ separator.toList) :
    (partsOf separator.toList (separator.intercalate items).toList).map String.ofList = items := by
  rw [String.toList_intercalate]
  cases chars : separator.toList with
  | nil => exact absurd (String.toList_eq_nil_iff.mp chars) filled
  | cons c others =>
    have apart : ∀ item ∈ items.map String.toList, c ∉ item := by
      intro item member inside
      obtain ⟨text, listed, rfl⟩ := List.mem_map.mp member
      exact free text listed c inside (chars ▸ List.mem_cons_self)
    have back : String.ofList ∘ String.toList = id := funext fun _ => String.ofList_toList
    show (Text.splitOn (c :: others) _).map String.ofList = items
    rw [Text.splitOn_intercalate (by simpa using some) apart, List.map_map, back, List.map_id]

section

variable (options : List (String × Json)) (now : Calendar.Instant)

/-- What `replace` leaves of a text if nothing comes in the place of another text. -/
theorem answer_without (text other : String) :
    answer options now "replace" [.string text, .string other, .string ""] =
      .ok (.string (String.ofList (Text.without other.toList text.toList))) := by
  have serves : Catalog.helper? "replace" = some replace := rfl
  rw [Catalog.answer_eq serves]
  rfl

theorem answer_onText {name : String} {change : List Char → List Char}
    (serves : Catalog.helper? name = some (onText change)) (text : String) :
    answer options now name [.string text] = .ok (.string (String.ofList (change text.toList))) := by
  rw [Catalog.answer_eq serves]
  rfl

theorem answer_split (text separator : Json) : answer options now "split" [text, separator] =
    .ok (.strings ((partsOf separator.toText.toList text.toText.toList).map String.ofList)) := by
  have serves : Catalog.helper? "split" = some split := rfl
  rw [Catalog.answer_eq serves]
  rfl

theorem answer_join (items : List String) (separator : Json) :
    answer options now "join" [.strings items, separator] =
      .ok (.string (separator.toText.intercalate items)) := by
  have serves : Catalog.helper? "join" = some Collections.join := rfl
  have texts : (items.map Json.string).map Json.toText = items := by
    rw [List.map_map]
    exact List.map_id items
  rw [Catalog.answer_eq serves]
  show Except.ok (Json.string (separator.toText.intercalate ((items.map Json.string).map Json.toText))) = _
  rw [texts]

/-- For every text and every separator, the empty one included, joining the parts of the text gives the text
again. For every separator that is not empty, splitting joined texts gives these texts again, if there is at
least one and none shares a character with the separator. -/
theorem split_join_inverse :
    (∀ text separator : Json,
      (do answer options now "join" [← answer options now "split" [text, separator], separator]) =
        .ok (.string text.toText)) ∧
    (∀ (items : List String) (separator : String), items ≠ [] → separator ≠ "" →
      (∀ item ∈ items, ∀ c ∈ item.toList, c ∉ separator.toList) →
      (do answer options now "split"
            [← answer options now "join" [.strings items, .string separator], .string separator]) =
        .ok (.strings items)) := by
  constructor
  · intro text separator
    rw [answer_split, Answer.ok_bind, answer_join]
    congr 2
    apply String.toList_injective
    rw [String.toList_intercalate, List.map_map]
    have same : String.toList ∘ String.ofList = id := funext fun _ => String.toList_ofList
    rw [same, List.map_id, intercalate_partsOf]
  · intro items separator some filled free
    rw [answer_join, Answer.ok_bind, answer_split]
    exact congrArg (Except.ok ∘ Json.strings) (partsOf_intercalate some filled free)

end

/-- Empty texts come back from both ends and from the middle, between occurrences of a separator that
overlaps itself, and a text in which the separator overlaps itself comes back too. -/
theorem split_join_inverse_overlapping :
    ["", "b", "", ""] ≠ [] ∧ "aa" ≠ "" ∧
    (∀ item ∈ ["", "b", "", ""], ∀ c ∈ item.toList, c ∉ "aa".toList) ∧
    (do answer [] ⟨0, 0, 0⟩ "split"
          [← answer [] ⟨0, 0, 0⟩ "join" [.strings ["", "b", "", ""], .string "aa"], .string "aa"]) =
      .ok (.strings ["", "b", "", ""]) ∧
    (do answer [] ⟨0, 0, 0⟩ "join"
          [← answer [] ⟨0, 0, 0⟩ "split" [.string "baaaaab", .string "aa"], .string "aa"]) =
      .ok (.string "baaaaab") := by
  have some : ["", "b", "", ""] ≠ [] := List.cons_ne_nil _ _
  have filled : "aa" ≠ "" := by decide
  have free : ∀ item ∈ ["", "b", "", ""], ∀ c ∈ item.toList, c ∉ "aa".toList := by simp
  obtain ⟨joined, parted⟩ := split_join_inverse [] ⟨0, 0, 0⟩
  exact ⟨some, filled, free, parted _ _ some filled free, joined (.string "baaaaab") (.string "aa")⟩

end Texts

end Stencil
