import Stencil.Template.Path

set_option autoImplicit false

/-!
What the reader of paths accepts: `read?_written` splits the text of a path that was read into its
parts, each with the segments that it stands for.
-/

namespace Stencil.Template.Path

/-- The text of a name or of brackets, and the segments that it stands for. -/
inductive Item : List Char → List Segment → Prop where
  | name {text : List Char} (nonempty : text ≠ []) (chars : ∀ c ∈ text, isNameChar c = true) :
      Item text (segmentOf text)
  | bracketed (body : List Char) : Item ('[' :: body ++ [']']) (segmentOf body)

/-- The text of further segments, each after a separator. -/
inductive Items : List Char → List Segment → Prop where
  | nil : Items [] []
  | cons {c : Char} {item more : List Char} {first rest : List Segment}
      (separates : isSeparator c = true) (head : Item item first) (tail : Items more rest) :
      Items (c :: (item ++ more)) (first ++ rest)

/-- The text of steps outward, and their number. -/
inductive Climb : List Char → Nat → Prop where
  | stay : Climb [] 0
  | up {c : Char} {more : List Char} {count : Nat} (separates : isSeparator c = true)
      (tail : Climb more count) : Climb ('.' :: '.' :: c :: more) (count + 1)

/-- The parts of a path's text. -/
structure Written (path : Path) where
  current : List Char
  root : List Char
  mark : List Char
  climb : List Char
  height : Nat
  item : List Char
  first : List Segment
  more : List Char
  rest : List Segment
  rootSegments : List Segment
  markSegments : List Segment
  raw_eq : path.raw = String.ofList (current ++ (root ++ (mark ++ (climb ++ (item ++ more)))))
  segments_eq : path.segments =
    rootSegments ++ (markSegments ++ (List.replicate height .up ++ (first ++ rest)))
  current_cases : current = [] ∨ current = "this.".toList ∨ current = "this/".toList ∨
    current = "./".toList
  root_cases : root = [] ∧ rootSegments = [] ∨
    ∃ tail, root = '@' :: tail ∧ tail.head? = some 'r' ∧ rootSegments = [.root]
  mark_cases : mark = [] ∧ markSegments = [] ∨ mark = ['@'] ∧ markSegments = [.localMark]
  climbs : Climb climb height
  head : Item item first
  tail : Items more rest

/-! ### The reader -/

theorem wordAndSeparator?_some {word text rest : List Char}
    (found : wordAndSeparator? word text = some rest) :
    ∃ c, isSeparator c = true ∧ text = word ++ c :: rest := by
  unfold wordAndSeparator? at found
  split at found
  · rename_i c tail after
    split at found
    · rename_i separates
      cases found
      exact ⟨c, separates, Text.after?_eq_some_iff.mp after⟩
    · cases found
  · cases found

theorem separator_cases {c : Char} (separates : isSeparator c = true) : c = '.' ∨ c = '/' := by
  simpa [isSeparator] using separates

theorem dropCurrent_split (text : List Char) : ∃ current, text = current ++ dropCurrent text ∧
    (current = [] ∨ current = "this.".toList ∨ current = "this/".toList ∨
      current = "./".toList) := by
  unfold dropCurrent
  split
  · rename_i rest found
    obtain ⟨c, separates, same⟩ := wordAndSeparator?_some found
    rcases separator_cases separates with rfl | rfl
    · exact ⟨"this.".toList, by simpa using same, by simp⟩
    · exact ⟨"this/".toList, by simpa using same, by simp⟩
  · cases after : Text.after? "./".toList text with
    | none => exact ⟨[], by simp, Or.inl rfl⟩
    | some rest =>
      refine ⟨"./".toList, ?_, by simp⟩
      simpa using Text.after?_eq_some_iff.mp after

theorem readRoot_split (text : List Char) : ∃ root, text = root ++ (readRoot text).2 ∧
    (root = [] ∧ (readRoot text).1 = [] ∨
      ∃ tail, root = '@' :: tail ∧ tail.head? = some 'r' ∧ (readRoot text).1 = [.root]) := by
  unfold readRoot
  split
  · rename_i rest found
    obtain ⟨c, _, same⟩ := wordAndSeparator?_some found
    refine ⟨"@root".toList ++ [c], by simpa using same, Or.inr ⟨"root".toList ++ [c], ?_⟩⟩
    simp
  · exact ⟨[], rfl, Or.inl ⟨rfl, rfl⟩⟩

theorem readMark_split (text : List Char) : ∃ mark, text = mark ++ (readMark text).2 ∧
    (mark = [] ∧ (readMark text).1 = [] ∨ mark = ['@'] ∧ (readMark text).1 = [.localMark]) := by
  unfold readMark
  split
  · exact ⟨['@'], rfl, Or.inr ⟨rfl, rfl⟩⟩
  · exact ⟨[], rfl, Or.inl ⟨rfl, rfl⟩⟩

theorem readUps_split (text : List Char) : ∃ climb height, text = climb ++ (readUps text).2 ∧
    (readUps text).1 = List.replicate height .up ∧ Climb climb height := by
  fun_induction readUps text with
  | case1 c text separates segments rest read ih =>
    obtain ⟨climb, height, same, ups, climbs⟩ := ih
    rw [read] at same ups
    have ups : segments = List.replicate height .up := ups
    refine ⟨'.' :: '.' :: c :: climb, height + 1, ?_, ?_, Climb.up separates climbs⟩
    · simp only [List.cons_append, ← same]
    · simp only [ups, List.replicate_succ]
  | case2 c text _ => exact ⟨[], 0, rfl, rfl, Climb.stay⟩
  | case3 text _ => exact ⟨[], 0, rfl, rfl, Climb.stay⟩

theorem readItem?_split {text rest : List Char} {segments : List Segment}
    (read : readItem? text = some (segments, rest)) :
    ∃ item, text = item ++ rest ∧ Item item segments := by
  unfold readItem? at read
  split at read
  · rename_i tail
    split at read
    · rename_i c others dropped
      cases read
      have stopped : c = ']' := by
        have head := List.head?_dropWhile_not (· != ']') tail
        simpa [dropped] using head
      refine ⟨'[' :: tail.takeWhile (· != ']') ++ [']'], ?_, Item.bracketed _⟩
      have parts := List.takeWhile_append_dropWhile (p := (· != ']')) (l := tail)
      rw [dropped, stopped] at parts
      simp only [List.cons_append, List.append_assoc, List.nil_append, parts]
    · cases read
  · dsimp only at read
    split at read
    · cases read
    · rename_i nonempty
      cases read
      refine ⟨text.takeWhile isNameChar, ?_, Item.name ?_ ?_⟩
      · exact List.takeWhile_append_dropWhile.symm
      · simpa using nonempty
      · intro c member
        exact List.all_eq_true.mp List.all_takeWhile c member

theorem readItems_split (fuel : Nat) (text : List Char) :
    ∃ more, text = more ++ (readItems fuel text).2 ∧ Items more (readItems fuel text).1 := by
  fun_induction readItems fuel text with
  | case1 text => exact ⟨[], rfl, Items.nil⟩
  | case2 fuel => exact ⟨[], rfl, Items.nil⟩
  | case3 fuel c text separates segments rest read more others final ih =>
    obtain ⟨item, same, head⟩ := readItem?_split read
    obtain ⟨tail, split, items⟩ := ih
    rw [final] at split items
    refine ⟨c :: (item ++ tail), ?_, Items.cons separates head items⟩
    rw [same, split]
    simp only [List.cons_append, List.append_assoc]
  | case4 fuel c text separates read => exact ⟨[], rfl, Items.nil⟩
  | case5 fuel c text plain => exact ⟨[], rfl, Items.nil⟩

/-- Every path that is read has these parts. -/
theorem read?_written {text rest : List Char} {path : Path}
    (read : read? text = some (path, rest)) : Nonempty (Written path) := by
  obtain ⟨current, currentSplit, currentCases⟩ := dropCurrent_split text
  obtain ⟨root, rootSplit, rootCases⟩ := readRoot_split (dropCurrent text)
  obtain ⟨mark, markSplit, markCases⟩ := readMark_split (readRoot (dropCurrent text)).2
  obtain ⟨climb, height, climbSplit, ups, climbs⟩ :=
    readUps_split (readMark (readRoot (dropCurrent text)).2).2
  simp only [read?] at read
  split at read
  · cases read
  · rename_i first tail readFirst
    obtain ⟨item, itemSplit, head⟩ := readItem?_split readFirst
    obtain ⟨more, moreSplit, items⟩ := readItems_split tail.length tail
    simp only [Option.some.injEq, Prod.mk.injEq] at read
    obtain ⟨same, left⟩ := read
    rw [left] at moreSplit same
    have whole : text = (current ++ (root ++ (mark ++ (climb ++ (item ++ more))))) ++ rest := by
      rw [currentSplit, rootSplit, markSplit, climbSplit, itemSplit, moreSplit]
      simp only [List.append_assoc]
    refine ⟨⟨current, root, mark, climb, height, item, first, more, (readItems tail.length tail).1,
      (readRoot (dropCurrent text)).1, (readMark (readRoot (dropCurrent text)).2).1, ?_, ?_,
      currentCases, rootCases, markCases, climbs, head, items⟩⟩
    · rw [← same, whole, List.length_append, Nat.add_sub_cancel, List.take_left]
    · rw [← same]
      simp only [ups, List.append_assoc]

end Stencil.Template.Path
