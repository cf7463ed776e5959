import Stencil.Proofs.BaseVariable
import Stencil.Proofs.LiteralContext

set_option autoImplicit false

/-!
Paths in a call. A path that is read from a text is read as well where more stands behind the text
(`read?_append`). It begins with a mark, or with a name behind which nothing more can be read as a path
(`opening_of_read`).
-/

namespace Stencil.Template

variable {more : List Char}

namespace Path

theorem separator_fails :
    isSeparator ')' = false ∧ isSeparator '\x7d' = false ∧ isSeparator ' ' = false := by
  decide

section

variable {text : List Char} (seam : Seam text more)

include seam

theorem wordAndSeparator?_append (word : List Char) (chars : word.any isDelimiter = false) :
    wordAndSeparator? word (text ++ more) = (wordAndSeparator? word text).map (· ++ more) := by
  unfold wordAndSeparator?
  rw [seam.after?_append word chars]
  cases found : Text.after? word text with
  | none => rfl
  | some rest =>
    cases rest with
    | nil =>
      have ends := seam.behind word chars found
      obtain ⟨c, rest, rfl, fails⟩ := ends.follows_of_nil.exists_not isSeparator separator_fails
      simp [fails]
    | cons c rest => by_cases separates : isSeparator c = true <;> simp [separates]

theorem dropCurrent_append : dropCurrent (text ++ more) = dropCurrent text ++ more := by
  unfold dropCurrent
  rw [wordAndSeparator?_append seam _ (by decide)]
  cases wordAndSeparator? "this".toList text with
  | some rest => rfl
  | none => exact seam.optional_append _ (by decide)

theorem readRoot_append :
    readRoot (text ++ more) = ((readRoot text).1, (readRoot text).2 ++ more) := by
  unfold readRoot
  rw [wordAndSeparator?_append seam _ (by decide)]
  cases wordAndSeparator? "@root".toList text with
  | some rest => rfl
  | none => rfl

theorem readMark_append :
    readMark (text ++ more) = ((readMark text).1, (readMark text).2 ++ more) := by
  cases text with
  | nil =>
    obtain ⟨c, rest, rfl, fails⟩ := seam.follows_of_nil.exists_not (· == '@') (by decide)
    have other : c ≠ '@' := by simpa using fails
    simp [readMark, other]
  | cons c text =>
    by_cases mark : c = '@'
    · subst mark
      rfl
    · simp [readMark, mark]

theorem readUps_append : readUps (text ++ more) = ((readUps text).1, (readUps text).2 ++ more) := by
  fun_induction readUps text with
  | case1 c text separates segments others read ih =>
    have other : c ≠ '\x7d' := by rcases separator_cases separates with rfl | rfl <;> decide
    have inner := ((seam.tail (by decide)).tail (by decide)).tail other
    have rest := ih inner
    rw [read] at rest
    simp only [List.cons_append, readUps, separates, if_true, rest]
  | case2 c text other => simp [readUps, other]
  | case3 text short =>
    have stop : Seam [] more → ∃ d rest, more = d :: rest ∧ isSeparator d = false ∧ d ≠ '.' := by
      intro seam
      obtain ⟨d, rest, rfl, fails⟩ :=
        seam.follows_of_nil.exists_not (fun c => isSeparator c || c == '.') (by decide)
      exact ⟨d, rest, rfl, by simpa using fails⟩
    obtain _ | ⟨a, _ | ⟨b, _ | ⟨c, others⟩⟩⟩ := text
    · obtain ⟨d, rest, rfl, _, plain⟩ := stop seam
      exact readUps.eq_2 _ fun c tail same => plain (List.cons.inj same).1
    · refine readUps.eq_2 _ fun c tail same => ?_
      obtain ⟨rfl, same⟩ := List.cons.inj same
      obtain ⟨d, rest, rfl, _, plain⟩ := stop (seam.tail (by decide))
      cases same
      exact plain rfl
    · by_cases pair : a = '.' ∧ b = '.'
      · obtain ⟨rfl, rfl⟩ := pair
        obtain ⟨d, rest, rfl, other, _⟩ := stop ((seam.tail (by decide)).tail (by decide))
        simp [readUps, other]
      · refine readUps.eq_2 _ fun c tail same => pair ?_
        simp only [List.cons_append, List.cons.injEq] at same
        exact ⟨same.1, same.2.1⟩
    · refine readUps.eq_2 _ fun d tail same => short c others ?_
      simp only [List.cons_append, List.cons.injEq] at same
      rw [same.1, same.2.1]

end

/-- A name or brackets that end are the same where more follows. -/
theorem readItem?_append {text rest : List Char} {segments : List Segment}
    (read : readItem? text = some (segments, rest)) (seam : Seam rest more) :
    readItem? (text ++ more) = some (segments, rest ++ more) := by
  obtain ⟨part, split, _⟩ := readItem?_split read
  have seam : Seam text more := seam.of_suffix ⟨part, split.symm⟩
  cases text with
  | nil => cases read
  | cons c text =>
    by_cases bracket : c = '['
    · subst bracket
      simp only [readItem?] at read
      split at read
      · rename_i d others dropped
        cases read
        have ends : text.dropWhile (· != ']') ≠ [] := by simp [dropped]
        have inside : (text ++ more).takeWhile (· != ']') = text.takeWhile (· != ']') := by
          have parts := congrArg List.length
            (show text.takeWhile (· != ']') ++ text.dropWhile (· != ']') = text from
              List.takeWhile_append_dropWhile)
          rw [dropped, List.length_append, List.length_cons] at parts
          rw [List.takeWhile_append, if_neg (by omega)]
        simp [readItem?, List.dropWhile_append, dropped, inside]
      · cases read
    · have other : ∀ tail, c :: text = '[' :: tail → False :=
        fun tail same => bracket (List.cons.inj same).1
      rw [readItem?.eq_2 _ other] at read
      rw [List.cons_append, readItem?.eq_2 _ fun tail same => bracket (List.cons.inj same).1,
        ← List.cons_append, seam.takeWhile_append _ nameChar_fails,
        seam.dropWhile_append _ nameChar_fails]
      split at read
      · cases read
      · rename_i nonempty
        cases read
        rw [if_neg nonempty]

/-- What no item begins with, nor brackets that are not closed, begins with none where more follows. -/
theorem readItem?_eq_none_append {text : List Char} (read : readItem? text = none)
    (open? : text.head? ≠ some '[') (seam : Seam text more) : readItem? (text ++ more) = none := by
  have stop : ∀ c others, isNameChar c = false → c ≠ '[' → readItem? (c :: others) = none := by
    intro c others name bracket
    rw [readItem?.eq_2 _ fun tail same => bracket (List.cons.inj same).1]
    simp [name]
  cases text with
  | nil =>
    obtain ⟨c, others, rfl, fails⟩ :=
      seam.follows_of_nil.exists_not (fun c => isNameChar c || c == '[') (by decide)
    obtain ⟨name, bracket⟩ : isNameChar c = false ∧ c ≠ '[' := by simpa using fails
    exact stop c others name bracket
  | cons c text =>
    have bracket : c ≠ '[' := by simpa using open?
    refine stop c _ ?_ bracket
    rw [readItem?.eq_2 _ fun tail same => bracket (List.cons.inj same).1] at read
    cases name : isNameChar c with
    | false => rfl
    | true => simp [name] at read

/-- True for what does not go on with a further item in brackets. -/
def Clear (text : List Char) : Prop :=
  ∀ c others, text = c :: '[' :: others → isSeparator c = false

theorem clear_nil : Clear [] := by
  intro c others same
  cases same

/-- In front of more there are no segments where no further item stands. -/
theorem readItems_append_nil {left : List Char} (seam : Seam left more)
    (none : ∀ c others, left = c :: others → isSeparator c = true →
      readItem? (others ++ more) = none) (fuel : Nat) :
    readItems fuel (left ++ more) = ([], left ++ more) := by
  cases fuel with
  | zero => rfl
  | succ fuel =>
    cases left with
    | nil =>
      obtain ⟨d, others, rfl, fails⟩ := seam.follows_of_nil.exists_not isSeparator separator_fails
      simp [readItems, fails]
    | cons c others =>
      cases separates : isSeparator c with
      | false => simp [readItems, separates]
      | true => simp [readItems, separates, none c others rfl separates]

/-- Segments end where they ended before. -/
theorem readItems_append {fuel : Nat} {text rest : List Char} {segments : List Segment}
    (read : readItems fuel text = (segments, rest)) (all : text.length ≤ fuel) (clear : Clear rest)
    (seam : Seam rest more) (enough : Nat) (covers : text.length ≤ enough) :
    readItems enough (text ++ more) = (segments, rest ++ more) := by
  fun_induction readItems fuel text generalizing enough segments with
  | case1 text =>
    cases read
    obtain rfl := List.length_eq_zero_iff.mp (Nat.le_zero.mp all)
    exact readItems_append_nil seam (fun c others same => by cases same) enough
  | case2 fuel =>
    cases read
    exact readItems_append_nil seam (fun c others same => by cases same) enough
  | case3 fuel c text separates first left item others final inner ih =>
    cases read
    obtain ⟨part, split, _⟩ := readItem?_split item
    obtain ⟨further, rest_split, _⟩ := readItems_split fuel left
    rw [inner] at rest_split
    have shorter := congrArg List.length split
    simp only [List.length_append, List.length_cons] at shorter all covers
    cases enough with
    | zero => omega
    | succ enough =>
      have seam : Seam left more := seam.of_suffix ⟨further, rest_split.symm⟩
      have further := ih inner (by omega) enough (by omega)
      simp [readItems, separates, readItem?_append item seam, further]
  | case4 fuel c text separates item =>
    cases read
    refine readItems_append_nil seam (fun d others same separates => ?_) enough
    cases same
    have other : c ≠ '\x7d' := by rcases separator_cases separates with rfl | rfl <;> decide
    refine readItem?_eq_none_append item ?_ (seam.tail other)
    intro bracket
    cases text with
    | nil => cases bracket
    | cons d text =>
      cases bracket
      rw [clear c text rfl] at separates
      cases separates
  | case5 fuel c text plain =>
    cases read
    refine readItems_append_nil seam (fun d others same separates => ?_) enough
    cases same
    rw [separates] at plain
    exact absurd rfl plain

/-- What is left of a text behind the mark of a path and its steps outward. -/
def behindUps (text : List Char) : List Char :=
  (readUps (readMark (readRoot (dropCurrent text)).2).2).2

theorem dropCurrent_suffix (text : List Char) : dropCurrent text <:+ text := by
  obtain ⟨current, split, _⟩ := dropCurrent_split text
  exact ⟨current, split.symm⟩

theorem behindUps_suffix (text : List Char) : behindUps text <:+ dropCurrent text := by
  obtain ⟨root, rootSplit, _⟩ := readRoot_split (dropCurrent text)
  obtain ⟨mark, markSplit, _⟩ := readMark_split (readRoot (dropCurrent text)).2
  obtain ⟨climb, _, climbSplit, _⟩ := readUps_split (readMark (readRoot (dropCurrent text)).2).2
  have ups : behindUps text <:+ _ := ⟨climb, climbSplit.symm⟩
  exact (ups.trans ⟨mark, markSplit.symm⟩).trans ⟨root, rootSplit.symm⟩

/-- What stands before the first item of a path is read alike where more follows. -/
theorem readUps_behind_append {text : List Char} (seam : Seam (behindUps text) more) :
    readRoot (dropCurrent (text ++ more)) =
        ((readRoot (dropCurrent text)).1, (readRoot (dropCurrent text)).2 ++ more) ∧
      readMark ((readRoot (dropCurrent text)).2 ++ more) =
        ((readMark (readRoot (dropCurrent text)).2).1,
          (readMark (readRoot (dropCurrent text)).2).2 ++ more) ∧
      readUps ((readMark (readRoot (dropCurrent text)).2).2 ++ more) =
        ((readUps (readMark (readRoot (dropCurrent text)).2).2).1, behindUps text ++ more) := by
  obtain ⟨root, rootSplit, _⟩ := readRoot_split (dropCurrent text)
  obtain ⟨mark, markSplit, _⟩ := readMark_split (readRoot (dropCurrent text)).2
  obtain ⟨climb, _, climbSplit, _⟩ := readUps_split (readMark (readRoot (dropCurrent text)).2).2
  have marked := seam.of_suffix ⟨climb, climbSplit.symm⟩
  have rooted := marked.of_suffix ⟨mark, markSplit.symm⟩
  have started := rooted.of_suffix ⟨root, rootSplit.symm⟩
  have whole := started.of_suffix (dropCurrent_suffix text)
  refine ⟨?_, readMark_append rooted, readUps_append marked⟩
  rw [dropCurrent_append whole, readRoot_append started]

/-- A path that is read has an item behind its steps outward, and then further segments. -/
theorem read?_eq_some {text rest : List Char} {path : Path} (read : read? text = some (path, rest)) :
    ∃ first left, readItem? (behindUps text) = some (first, left) ∧
      (readItems left.length left).2 = rest ∧ rest <:+ left := by
  simp only [read?] at read
  split at read
  · cases read
  · rename_i first left item
    have ends := (Prod.mk.inj (Option.some.inj read)).2
    obtain ⟨further, split, _⟩ := readItems_split left.length left
    exact ⟨first, left, item, ends, further, by rw [split, ends]⟩

theorem suffix_dropCurrent {text rest : List Char} {path : Path}
    (read : read? text = some (path, rest)) : rest <:+ dropCurrent text := by
  obtain ⟨first, left, item, _, behind⟩ := read?_eq_some read
  obtain ⟨part, split, _⟩ := readItem?_split item
  exact (behind.trans ⟨part, split.symm⟩).trans (behindUps_suffix text)

theorem read?_suffix {text rest : List Char} {path : Path} (read : read? text = some (path, rest)) :
    rest <:+ text := (suffix_dropCurrent read).trans (dropCurrent_suffix text)

/-- A path that is read is written where it was read. -/
theorem raw_append {text rest : List Char} {path : Path} (read : read? text = some (path, rest)) :
    path.raw.toList ++ rest = text := by
  obtain ⟨part, same⟩ := read?_suffix read
  simp only [read?] at read
  split at read
  · cases read
  · obtain ⟨path_eq, ends⟩ := Prod.mk.inj (Option.some.inj read)
    rw [← path_eq, ends, String.toList_ofList, ← same, List.length_append, Nat.add_sub_cancel,
      List.take_left]

/-- A path ends where it ended before. -/
theorem read?_append {text rest : List Char} {path : Path} (read : read? text = some (path, rest))
    (clear : Clear rest) (seam : Seam rest more) : read? (text ++ more) = some (path, rest ++ more) := by
  have whole := raw_append read
  obtain ⟨first, left, item, ends, behind⟩ := read?_eq_some read
  obtain ⟨part, split, _⟩ := readItem?_split item
  have seamLeft : Seam left more := seam.of_suffix behind
  obtain ⟨root, mark, ups⟩ := readUps_behind_append (seamLeft.of_suffix ⟨part, split.symm⟩)
  have items := readItems_append (Prod.ext rfl ends : readItems left.length left = (_, rest))
    (Nat.le_refl _) clear seam (left ++ more).length (by simp)
  have raw : (text ++ more).take ((text ++ more).length - (rest ++ more).length) =
      text.take (text.length - rest.length) := by
    rw [← whole]
    simp
  simp only [read?] at read ⊢
  rw [show readUps (readMark (readRoot (dropCurrent text)).2).2 = (_, behindUps text) from
    Prod.ext rfl rfl] at read
  simp only [item, ends] at read
  rw [root]
  dsimp only
  rw [mark]
  dsimp only
  rw [ups]
  dsimp only
  rw [readItem?_append item seamLeft]
  dsimp only
  rw [items, raw]
  exact congrArg some (Prod.ext (Prod.mk.inj (Option.some.inj read)).1 rfl)

/-- Steps outward behind a separator are no steps of their own. -/
theorem readUps_behind {climb : List Char} {height : Nat} (climbs : Climb climb height) {d : Char}
    (plain : isSeparator d = false) (others : List Char) : ∀ c, isSeparator c = true →
      ∃ ups stop tail, readUps (c :: (climb ++ d :: others)) = (ups, stop :: tail) ∧
        isSeparator stop = true := by
  have other : d ≠ '.' := by
    rintro rfl
    cases plain
  induction climbs with
  | stay =>
    intro c separates
    refine ⟨[], c, d :: others, readUps.eq_2 _ fun e tail same => ?_, separates⟩
    exact other (List.cons.inj (List.cons.inj same).2).1
  | @up s climb height further climbs ih =>
    intro c separates
    rcases separator_cases separates with rfl | rfl
    · obtain ⟨ups, stop, tail, same, stops⟩ := ih s further
      refine ⟨.up :: ups, stop, tail, ?_, stops⟩
      simp [readUps, show isSeparator '.' = true by decide, same]
    · exact ⟨[], '/', _, readUps.eq_2 _ fun e tail same => by simp at same, rfl⟩

/-- There is no path where no item stands behind the steps outward. -/
theorem read?_eq_none_of_ups {c stop : Char} {text tail : List Char} {ups : List Segment}
    (current : dropCurrent (c :: text) = c :: text) (unmarked : c ≠ '@')
    (climbed : readUps (c :: text) = (ups, stop :: tail))
    (stops : isNameChar stop = false ∧ stop ≠ '[') : read? (c :: text) = none := by
  have root : readRoot (c :: text) = ([], c :: text) := by
    simp [readRoot, wordAndSeparator?, Text.after?, Ne.symm unmarked]
  have mark : readMark (c :: text) = ([], c :: text) := by simp [readMark, unmarked]
  have item : readItem? (stop :: tail) = none := by
    rw [readItem?.eq_2 _ fun others same => stops.2 (List.cons.inj same).1]
    simp [stops.1]
  simp only [read?, current, root, mark, climbed, item]

/-- No path begins with the separator behind a name. -/
theorem read?_behind {climb : List Char} {height : Nat} (climbs : Climb climb height) {c d : Char}
    (separates : isSeparator c = true) (plain : isSeparator d = false) (others : List Char) :
    read? (c :: (climb ++ d :: others)) = none := by
  obtain ⟨ups, stop, tail, climbed, stops⟩ := readUps_behind climbs plain others c separates
  have current : dropCurrent (c :: (climb ++ d :: others)) = c :: (climb ++ d :: others) := by
    have slash : '/' ≠ d := by
      rintro rfl
      cases plain
    rcases separator_cases separates with rfl | rfl
    · cases climbs with
      | stay => simp [dropCurrent, wordAndSeparator?, Text.after?, slash]
      | up further climbs => simp [dropCurrent, wordAndSeparator?, Text.after?]
    · simp [dropCurrent, wordAndSeparator?, Text.after?]
  have unmarked : c ≠ '@' := by rcases separator_cases separates with rfl | rfl <;> decide
  have other : stop ≠ '[' := by rcases separator_cases stops with rfl | rfl <;> decide
  exact read?_eq_none_of_ups current unmarked climbed ⟨not_isNameChar_of_isSeparator stops, other⟩

/-- How the text of a path begins. -/
inductive Opening : List Char → Prop where
  | marked {c : Char} (others : List Char) (mark : c = '.' ∨ c = '@' ∨ c = '[') :
      Opening (c :: others)
  | word {name behind : List Char} (nonempty : name ≠ []) (chars : ∀ c ∈ name, isNameChar c = true)
      (stops : behind = [] ∨ ∃ c others, behind = c :: others ∧ isSeparator c = true ∧
        ∀ more, read? (behind ++ more) = none) : Opening (name ++ behind)

theorem Item.begins {item : List Char} {first : List Segment} (head : Item item first) :
    ∃ c others, item = c :: others ∧ isSeparator c = false := by
  cases head with
  | name nonempty chars =>
    obtain ⟨c, others, rfl⟩ := List.exists_cons_of_ne_nil nonempty
    refine ⟨c, others, rfl, ?_⟩
    cases separates : isSeparator c with
    | false => rfl
    | true =>
      have char := chars c List.mem_cons_self
      rw [not_isNameChar_of_isSeparator separates] at char
      cases char
  | bracketed body => exact ⟨'[', body ++ [']'], rfl, by decide⟩

/-- Behind a name and a separator stands a further item. -/
theorem Items.stops {more : List Char} {rest : List Segment} (items : Items more rest) :
    more = [] ∨ ∃ c others, more = c :: others ∧ isSeparator c = true ∧
      ∀ ext, read? (more ++ ext) = none := by
  cases items with
  | nil => exact Or.inl rfl
  | @cons c item more first rest separates head tail =>
    obtain ⟨d, others, rfl, plain⟩ := head.begins
    refine Or.inr ⟨c, _, rfl, separates, fun ext => ?_⟩
    have none := read?_behind Climb.stay separates plain (others ++ more ++ ext)
    simpa using none

theorem opening_of_read {text rest : List Char} {path : Path}
    (read : read? text = some (path, rest)) : Opening path.raw.toList := by
  obtain ⟨written⟩ := read?_written read
  have parts : path.raw.toList = written.current ++ (written.root ++ (written.mark ++
      (written.climb ++ (written.item ++ written.more)))) := by
    rw [written.raw_eq, String.toList_ofList]
  obtain ⟨current, root, mark, climb, height, item, first, more, rest, _, _, _, _, currentCases,
    rootCases, markCases, climbs, head, tail⟩ := written
  rw [parts]
  clear parts
  -- Behind the word `this` stands a separator, and what follows that begins with no separator.
  have behind : ∀ c, isSeparator c = true →
      Opening ("this".toList ++ c :: (root ++ (mark ++ (climb ++ (item ++ more))))) := by
    intro c separates
    have chars : ∀ c ∈ "this".toList, isNameChar c = true := List.all_eq_true.mp rfl
    refine Opening.word (by decide) chars (Or.inr ⟨c, _, rfl, separates, fun ext => ?_⟩)
    rcases rootCases with ⟨rfl, _⟩ | ⟨others, rfl, _⟩
    · rcases markCases with ⟨rfl, _⟩ | ⟨rfl, _⟩
      · obtain ⟨d, others, rfl, plain⟩ := head.begins
        have none := read?_behind climbs separates plain (others ++ more ++ ext)
        simpa using none
      · have none := read?_behind Climb.stay separates (show isSeparator '@' = false by decide)
          (climb ++ (item ++ more) ++ ext)
        simpa using none
    · have none := read?_behind Climb.stay separates (show isSeparator '@' = false by decide)
        (others ++ (mark ++ (climb ++ (item ++ more))) ++ ext)
      simpa using none
  rcases currentCases with rfl | rfl | rfl | rfl
  · rcases rootCases with ⟨rfl, _⟩ | ⟨others, rfl, _⟩
    · rcases markCases with ⟨rfl, _⟩ | ⟨rfl, _⟩
      · rcases climbs.eq_nil_or_dot with ⟨rfl, _⟩ | ⟨others, rfl⟩
        · cases head with
          | name nonempty chars => simpa using Opening.word nonempty chars tail.stops
          | bracketed body => exact Opening.marked _ (Or.inr (Or.inr rfl))
        · exact Opening.marked _ (Or.inl rfl)
      · exact Opening.marked _ (Or.inr (Or.inl rfl))
    · exact Opening.marked _ (Or.inr (Or.inl rfl))
  · exact behind '.' rfl
  · exact behind '/' rfl
  · exact Opening.marked _ (Or.inl rfl)

theorem opening_of_whole {text : List Char} {path : Path} (read : read? text = some (path, [])) :
    Opening text := by
  have opening := opening_of_read read
  rwa [← List.append_nil path.raw.toList, raw_append read] at opening

/-- A path begins with a character of a name or a mark. -/
theorem Opening.begins {text : List Char} (opening : Opening text) :
    ∃ c others, text = c :: others ∧ (isNameChar c = true ∨ c = '.' ∨ c = '@' ∨ c = '[') := by
  cases opening with
  | @marked c others mark => exact ⟨c, others, rfl, Or.inr mark⟩
  | @word name behind nonempty chars stops =>
    obtain ⟨c, others, rfl⟩ := List.exists_cons_of_ne_nil nonempty
    exact ⟨c, others ++ behind, rfl, Or.inl (chars c List.mem_cons_self)⟩

end Path

end Stencil.Template
