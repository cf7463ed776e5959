import Stencil.Proofs.CallComposition

set_option autoImplicit false

/-!
Values as texts. A helper takes a value as it is written as data, a tag shows it. Both texts are the same for
null, a text, a truth value and a number, and for an array of at most one item, that is a truth value, a
number or such an array again (`texts_agree_iff`). Nothing else is shown as it is written: as data, null in an
array has a name, a text there has quotes, and no space follows a comma; and of an object a tag shows only
that it is one.
-/

namespace Stencil

/-- A text that begins, and not with a space. -/
def Solid (text : List Char) : Prop := ∃ c rest, text = c :: rest ∧ c ≠ ' '

theorem Solid.append {text : List Char} (solid : Solid text) (more : List Char) : Solid (text ++ more) := by
  obtain ⟨c, rest, rfl, visible⟩ := solid
  exact ⟨c, rest ++ more, rfl, visible⟩

theorem Solid.ne_space {text : List Char} (solid : Solid text) (other : List Char) : text ≠ ' ' :: other := by
  obtain ⟨c, rest, rfl, visible⟩ := solid
  intro same
  exact visible (List.cons.inj same).1

theorem solid_toDigits (number : Nat) : Solid (Nat.toDigits 10 number) := by
  cases digits : Nat.toDigits 10 number with
  | nil => exact absurd digits Nat.toDigits_ne_nil
  | cons c rest =>
    have member : c ∈ Nat.toDigits 10 number := by
      rw [digits]
      exact List.mem_cons_self
    have digit : c.isDigit = true := Nat.isDigit_of_mem_toDigits (by decide) (by decide) member
    refine ⟨c, rest, rfl, ?_⟩
    rintro rfl
    cases digit

theorem solid_repr (number : Nat) : Solid number.repr.toList := by
  rw [Nat.repr_eq_ofList_toDigits, String.toList_ofList]
  exact solid_toDigits number

/-- A number without its sign begins with a digit. -/
theorem Number.Layout.solid_write (layout : Layout) (decimal : Decimal) :
    Solid (layout.write decimal).toList := by
  obtain ⟨c, rest, digits, visible⟩ := solid_toDigits decimal.digits
  unfold write
  simp only [digits]
  split
  · split
    · simp only [String.toList_append, String.toList_ofList, List.cons_append]
      exact ⟨c, _, rfl, visible⟩
    · split
      · rename_i positive
        obtain ⟨count, point⟩ := Nat.exists_eq_succ_of_ne_zero
          (show ((c :: rest).length + decimal.exponent).toNat ≠ 0 by omega)
        simp only [point, String.toList_append, String.toList_ofList, List.take_succ_cons, List.cons_append]
        exact ⟨c, _, rfl, visible⟩
      · simp only [String.toList_append]
        exact ⟨'0', _, rfl, by decide⟩
  · simp only [String.toList_append, String.toList_ofList, List.take_succ_cons, List.cons_append]
    exact ⟨c, _, rfl, visible⟩

theorem Numeral.solid_text (number : Numeral) : Solid number.text.toList := by
  cases number with
  | int value =>
    show Solid (toString value).toList
    rw [Int.toString_eq_repr, Int.repr_eq_if]
    split
    · exact solid_repr _
    · rw [String.toList_append]
      exact ⟨'-', _, rfl, by decide⟩
  | real negative units =>
    show Solid (Number.Layout.data.writeFinite negative units).toList
    unfold Number.Layout.writeFinite
    rw [String.toList_append]
    cases negative with
    | true => exact ⟨'-', _, rfl, by decide⟩
    | false =>
      by_cases zero : units = 0
      · rw [if_pos zero]
        exact ⟨'0', _, rfl, by decide⟩
      · rw [if_neg zero]
        exact Number.Layout.solid_write _ _

namespace Json

/-! ### What is written after a text -/

/-- A character as it is written inside quotes. -/
def escaped (c : Char) : List Char := (escapeChar "" c).toList

theorem toList_escapeChar (written : String) (c : Char) :
    (escapeChar written c).toList = written.toList ++ escaped c := by
  unfold escaped escapeChar
  split_ifs <;> simp

theorem toList_foldl_escapeChar (written : String) (chars : List Char) :
    (chars.foldl escapeChar written).toList = written.toList ++ chars.flatMap escaped := by
  induction chars generalizing written with
  | nil => simp
  | cons c chars ih =>
    rw [List.foldl_cons, ih, toList_escapeChar, List.flatMap_cons, List.append_assoc]

theorem toList_writeString (written text : String) :
    (writeString written text).toList = written.toList ++ '"' :: (text.toList.flatMap escaped ++ ['"']) := by
  rw [writeString, String.toList_push, toList_foldl_escapeChar, String.toList_push]
  simp

mutual

theorem write_eq (written : String) : ∀ value, write written value = written ++ compact value
  | null => by simp [compact, write]
  | bool value => by simp [compact, write]
  | number value => by simp [compact, write]
  | string value => by
    apply String.toList_injective
    simp [compact, write, toList_writeString]
  | array items => by
    rw [compact, write, write, writeItems_eq (written.push '['), writeItems_eq ("".push '[')]
    apply String.toList_injective
    simp
  | object fields => by
    rw [compact, write, write, writeFields_eq (written.push '\x7b'), writeFields_eq ("".push '\x7b')]
    apply String.toList_injective
    simp

theorem writeItems_eq (written : String) (first : Bool) :
    ∀ items, writeItems written first items = written ++ writeItems "" first items
  | [] => by simp [writeItems]
  | item :: items => by
    rw [writeItems, writeItems, write_eq (if first then written else _), write_eq (if first then "" else _),
      writeItems_eq (_ ++ _), writeItems_eq ((if first then "" else _) ++ _)]
    apply String.toList_injective
    cases first <;> simp

theorem writeFields_eq (written : String) (first : Bool) :
    ∀ fields, writeFields written first fields = written ++ writeFields "" first fields
  | [] => by simp [writeFields]
  | (key, value) :: fields => by
    simp only [writeFields]
    rw [write_eq ((writeString (if first then written else _) key).push ':'),
      write_eq ((writeString (if first then "" else _) key).push ':'), writeFields_eq (_ ++ _),
      writeFields_eq ((writeString (if first then "" else _) key).push ':' ++ _)]
    apply String.toList_injective
    cases first <;> simp [toList_writeString]

end

theorem toList_compact_array (items : List Json) :
    (compact (array items)).toList = '[' :: ((writeItems "" true items).toList ++ [']']) := by
  rw [compact, write, writeItems_eq]
  simp

theorem toList_shown_array (items : List Json) :
    (shown (array items)).toList = '[' :: ((shownItems true items).toList ++ [']']) := by
  rw [shown]
  simp

theorem toList_writeItems_cons (item : Json) (items : List Json) :
    (writeItems "" true (item :: items)).toList =
      item.compact.toList ++ (writeItems "" false items).toList := by
  rw [writeItems, writeItems_eq, String.toList_append]
  rfl

theorem toList_writeItems_next (item : Json) (items : List Json) :
    (writeItems "" false (item :: items)).toList =
      ',' :: (item.compact.toList ++ (writeItems "" false items).toList) := by
  rw [writeItems, writeItems_eq, write_eq]
  simp

/-- Whatever a value is, its text as data begins, and not with a space. -/
theorem solid_compact (value : Json) : Solid value.compact.toList := by
  cases value with
  | null => exact ⟨'n', _, rfl, by decide⟩
  | bool value => cases value with
    | true => exact ⟨'t', _, rfl, by decide⟩
    | false => exact ⟨'f', _, rfl, by decide⟩
  | number value =>
    have text : (number value).compact = value.text := by rw [compact, write, String.empty_append]
    rw [text]
    exact value.solid_text
  | string value =>
    rw [compact, write, toList_writeString]
    exact ⟨'"', _, rfl, by decide⟩
  | array items =>
    rw [toList_compact_array]
    exact ⟨'[', _, rfl, by decide⟩
  | object fields =>
    rw [compact, write, writeFields_eq, String.toList_push, String.toList_append, String.toList_push]
    exact ⟨'\x7b', _, rfl, by decide⟩

/-! ### Values that are shown as they are written -/

mutual

/-- True for an item that is shown as it is written: a truth value, a number, or an array of at most one
item that is one too. -/
def isPlain : Json → Bool
  | bool _ => true
  | number _ => true
  | array items => arePlain items
  | _ => false

def arePlain : List Json → Bool
  | [] => true
  | item :: items => items.isEmpty && isPlain item

end

/-- True for a value that is shown as a helper takes it. Null and texts are so only outside arrays. -/
def isShownPlainly : Json → Bool
  | null => true
  | string _ => true
  | value => value.isPlain

/-- What follows an item in an array, as data or shown. -/
def EndsItem (text : List Char) : Prop := ∃ rest, text = ',' :: rest ∨ text = ']' :: rest

/-- A quoted text is never the text itself. It is ahead by its first quote, so the text would have to begin
with a quote, which is written as two marks: the lead never ends, and what follows the text is no mark. -/
theorem quoted_ne (text lead after : List Char) {other : List Char} (ends : EndsItem other) (some : lead ≠ [])
    (marks : ∀ c ∈ lead, c = '"' ∨ c = '\\') :
    lead ++ (text.flatMap escaped ++ after) ≠ text ++ other := by
  intro same
  induction text generalizing lead with
  | nil =>
    obtain ⟨mark, lead, rfl⟩ := List.exists_cons_of_ne_nil some
    obtain ⟨rest, rfl | rfl⟩ := ends
    · obtain ⟨rfl, -⟩ := List.cons.inj same
      exact absurd (marks ',' List.mem_cons_self) (by decide)
    · obtain ⟨rfl, -⟩ := List.cons.inj same
      exact absurd (marks ']' List.mem_cons_self) (by decide)
  | cons c text ih =>
    obtain ⟨mark, lead, rfl⟩ := List.exists_cons_of_ne_nil some
    rw [List.cons_append, List.cons_append, List.cons.injEq] at same
    obtain ⟨rfl, same⟩ := same
    have doubled : escaped mark = ['\\', mark] := by
      rcases marks mark List.mem_cons_self with rfl | rfl
      · rfl
      · rfl
    rw [List.flatMap_cons, doubled, List.append_assoc, ← List.append_assoc lead] at same
    apply ih (lead ++ ['\\', mark]) (by simp) _ same
    intro c member
    rcases List.mem_append.mp member with member | member
    · exact marks c (List.mem_cons_of_mem _ member)
    · rcases List.mem_cons.mp member with rfl | member
      · exact .inr rfl
      · rw [List.mem_singleton.mp member]
        exact marks mark List.mem_cons_self

mutual

/-- An item and what follows it are the same text as data and shown if and only if the item is plain and what
follows is the same. -/
theorem item_texts (after : List Char) {other : List Char} (ends : EndsItem other) :
    ∀ value : Json, value.compact.toList ++ after = value.shown.toList ++ other ↔
      value.isPlain = true ∧ after = other
  | null => by
    obtain ⟨rest, rfl | rfl⟩ := ends
    · simp [compact, write, shown, isPlain]
    · simp [compact, write, shown, isPlain]
  | bool value => by simp [compact, write, shown, isPlain]
  | number value => by simp [compact, write, shown, isPlain]
  | string value => by
    have differ := quoted_ne value.toList ['"'] ('"' :: after) ends (by simp) (by simp)
    simpa [compact, write, toList_writeString, shown, isPlain] using differ
  | array items => by
    rw [toList_compact_array, toList_shown_array, isPlain, ← items_texts after other items]
    simp
  | object fields => by
    rw [compact, write, writeFields_eq]
    simp [shown, isPlain]

/-- Nor can an array of more than one item be: the second one comes after a space only where it is shown. -/
theorem items_texts (after other : List Char) :
    ∀ items : List Json, (writeItems "" true items).toList ++ ']' :: after =
        (shownItems true items).toList ++ ']' :: other ↔
      arePlain items = true ∧ after = other
  | [] => by simp [writeItems, shownItems, arePlain]
  | [item] => by
    have one := item_texts (']' :: after) ⟨other, .inr rfl⟩ item
    rw [toList_writeItems_cons]
    simpa [writeItems, shownItems, arePlain] using one
  | item :: next :: items => by
    rw [toList_writeItems_cons, toList_writeItems_next]
    generalize (writeItems "" false items).toList = written
    have shownRest : (shownItems true (item :: next :: items)).toList = item.shown.toList ++
        ',' :: ' ' :: (next.shown.toList ++ (shownItems false items).toList) := by
      simp [shownItems]
    rw [shownRest]
    generalize next.shown.toList ++ (shownItems false items).toList = displayed
    have first := item_texts (',' :: (next.compact.toList ++ (written ++ ']' :: after)))
      ⟨' ' :: (displayed ++ ']' :: other), .inl rfl⟩ item
    have visible := ((solid_compact next).append (written ++ ']' :: after)).ne_space
      (displayed ++ ']' :: other)
    have shorter : arePlain (item :: next :: items) = false := by simp [arePlain]
    rw [shorter]
    simpa [visible] using first

end

/-- A value is shown as a helper takes it if and only if it is null, a text, or plain. -/
theorem toText_eq_shown_iff (value : Json) : value.toText = value.shown ↔ value.isShownPlainly = true := by
  cases value with
  | null => simp [toText, shown, isShownPlainly]
  | bool value => simp [toText, compact, write, shown, isShownPlainly, isPlain]
  | number value => simp [toText, compact, write, shown, isShownPlainly, isPlain]
  | string value => simp [toText, shown, isShownPlainly]
  | array items =>
    show (array items).compact = (array items).shown ↔ arePlain items = true
    have texts := items_texts [] [] items
    rw [← String.toList_inj, toList_compact_array, toList_shown_array]
    simpa using texts
  | object fields =>
    show (object fields).compact = "[object]" ↔ false = true
    rw [compact, write, writeFields_eq, ← String.toList_inj]
    simp

end Json

namespace Render

open Template (WrittenPath apart_of_unbracketed)

theorem knows_concat : (Catalog.find? "concat").isSome = true := by decide +kernel

/-- The call of `concat` on what a path leads to. -/
def concatOf (word : WrittenPath) : CallTree :=
  .call (.ofName "concat" knows_concat) (.last none (.leaf (.path word)))

theorem value_concatOf (now : Calendar.Instant) {data value : Json} {word : WrittenPath}
    (found : lookedUp data word.path = .ok value) :
    (concatOf word).value now (lookedUp data) = .ok (.string value.toText) := by
  have arguments : (CallArguments.last none (.leaf (.path word))).values now (lookedUp data) =
      .ok [value] := by
    rw [CallArguments.values, CallTree.value, Template.Leaf.value, found]
    rfl
  have run : Catalog.run ⟨"concat", [value], [], now⟩ = .ok (.string ("" ++ value.toText)) := rfl
  rw [concatOf, CallTree.value, arguments]
  show (Catalog.run ⟨"concat", [value], [], now⟩).mapError RenderError.helper = _
  rw [run, String.empty_append]
  rfl

theorem read_x : Template.Path.read? "x".toList = some (⟨"x", [.named "x"]⟩, []) := by decide +kernel

theorem free_x : Template.isReserved "x".toList = false := by decide +kernel

theorem unbracketed_x : Template.beginsNone "x".toList = true := by decide +kernel

def pathX : WrittenPath :=
  ⟨"x".toList, ⟨"x", [.named "x"]⟩, read_x, free_x, apart_of_unbracketed unbracketed_x⟩

/-- Values with the text that a tag shows and the text that a helper takes. -/
def shownAndWritten : List (Json × String × String) :=
  [(.array [.array [.bool true]], "[[true]]", "[[true]]"), (.array [.nat 1, .nat 2], "[1, 2]", "[1,2]"),
    (.object [("a", .array [.null])], "[object]", "\x7b\"a\":[null]\x7d")]

end Render

end Stencil
