import Stencil.Extraction.Variable
import Stencil.Proofs.PathReading
import Stencil.Render.Scope

set_option autoImplicit false

/-!
The base variable of a path against the name with which looking the path up begins. They agree on
every path that is not bordered by white space (`firstName?_of_baseVariable?`), and where one is
bordered so it still has a first name if it has a base variable (`exists_firstName?`).

Characters beyond ASCII are characters of names, white space among them; but the base variable is
taken of the trimmed text. So a name that is bordered by such a character is looked up with it and
reported without it.
-/

namespace Stencil.Template.Path

/-- The name with which looking up a path begins, after its steps outward. -/
def firstName? (path : Path) : Option String :=
  match (Render.outward path.segments).2 with
  | .named name :: _ => some name
  | _ => none

/-- No white space stands at either end of the path. -/
def Unpadded (path : Path) : Prop := Text.trim path.raw.toList = path.raw.toList

theorem outward_climb (height : Nat) (name : String) (rest : List Segment) :
    Render.outward (List.replicate height .up ++ .named name :: rest) =
      (height, .named name :: rest) := by
  induction height with
  | zero => rfl
  | succ height ih => simp only [List.replicate_succ, List.cons_append, Render.outward, ih]

theorem outward_of_firstName? {path : Path} {name : String} (first : path.firstName? = some name) :
    ∃ height rest, Render.outward path.segments = (height, .named name :: rest) := by
  unfold firstName? at first
  split at first
  · rename_i found rest same
    cases first
    exact ⟨_, rest, Prod.ext rfl same⟩
  · cases first

/-- A path with a first name is no variable with a mark. -/
theorem scopeVariable?_of_firstName? {path : Path} {name : String}
    (first : path.firstName? = some name) : path.scopeVariable? = none := by
  unfold scopeVariable?
  split
  · rename_i rest marked
    simp [firstName?, marked, Render.outward] at first
  · rfl

/-! ### Characters of names -/

theorem ne_of_isNameChar {c d : Char} (char : isNameChar c = true) (other : isNameChar d = false) :
    c ≠ d := by
  rintro rfl
  rw [char] at other
  cases other

theorem not_isSegmentEnd_of_isNameChar {c : Char} (char : isNameChar c = true) :
    Extraction.isSegmentEnd c = false := by
  have dot := ne_of_isNameChar char (show isNameChar '.' = false by decide)
  have slash := ne_of_isNameChar char (show isNameChar '/' = false by decide)
  have bracket := ne_of_isNameChar char (show isNameChar '[' = false by decide)
  simp [Extraction.isSegmentEnd, dot, slash, bracket]

theorem not_isNameChar_of_isSeparator {c : Char} (separates : isSeparator c = true) :
    isNameChar c = false := by
  rcases separator_cases separates with rfl | rfl <;> decide

theorem takeWhile_append_stop {test : Char → Bool} {text more : List Char}
    (passes : ∀ c ∈ text, test c = true) (stops : ∀ c, more.head? = some c → test c = false) :
    (text ++ more).takeWhile test = text := by
  rw [List.takeWhile_append_of_pos passes]
  cases more with
  | nil => simp
  | cons c more => simp [stops c rfl]

theorem Climb.eq_nil_or_dot {climb : List Char} {height : Nat} (climbs : Climb climb height) :
    climb = [] ∧ height = 0 ∨ ∃ text, climb = '.' :: text := by
  cases climbs with
  | stay => exact Or.inl ⟨rfl, rfl⟩
  | up _ _ => exact Or.inr ⟨_, rfl⟩

theorem Items.eq_nil_or_separator {more : List Char} {rest : List Segment}
    (items : Items more rest) :
    more = [] ∧ rest = [] ∨ ∃ c text, more = c :: text ∧ isSeparator c = true := by
  cases items with
  | nil => exact Or.inl ⟨rfl, rfl⟩
  | cons separates _ _ => exact Or.inr ⟨_, _, rfl, separates⟩

theorem Items.head_isSeparator {more : List Char} {rest : List Segment} (items : Items more rest) :
    ∀ c, more.head? = some c → isSeparator c = true := by
  intro c found
  rcases items.eq_nil_or_separator with ⟨rfl, _⟩ | ⟨d, text, rfl, separates⟩
  · cases found
  · cases found
    exact separates

theorem Item.eq_segmentOf_or_bracket {item : List Char} {first : List Segment}
    (head : Item item first) : first = segmentOf item ∨ ∃ text, item = '[' :: text := by
  cases head with
  | name _ _ => exact Or.inl rfl
  | bracketed body => exact Or.inr ⟨_, rfl⟩

theorem Item.head_ne_dot {item : List Char} {first : List Segment} (head : Item item first) :
    ∃ c tail, item = c :: tail ∧ c ≠ '.' ∧ c ≠ '@' := by
  cases head with
  | name nonempty chars =>
    obtain ⟨c, tail, rfl⟩ := List.exists_cons_of_ne_nil nonempty
    have char := chars c List.mem_cons_self
    exact ⟨c, tail, rfl, ne_of_isNameChar char (by decide), ne_of_isNameChar char (by decide)⟩
  | bracketed body => exact ⟨'[', body ++ [']'], rfl, by decide, by decide⟩

end Stencil.Template.Path

namespace Stencil.Extraction

open Template.Path

/-- The base variable of a text without relative steps. -/
def plainBase? (text : List Char) : Option String :=
  if text.head? = some '@' then none
  else
    let base := text.takeWhile fun c => !isSegmentEnd c
    if base.isEmpty || base == "this".toList then none else some (String.ofList base)

theorem baseVariable?_of_unpadded {raw : String} (unpadded : Text.trim raw.toList = raw.toList) :
    baseVariable? raw =
      plainBase? (dropThis (dropRelative raw.toList.length raw.toList)) := by
  simp only [baseVariable?, plainBase?, unpadded]

theorem plainBase?_mark (text : List Char) : plainBase? ('@' :: text) = none := by
  simp [plainBase?]

theorem plainBase?_dot (text : List Char) : plainBase? ('.' :: text) = none := by
  have stops : isSegmentEnd '.' = true := by decide
  simp [plainBase?, stops]

theorem dropThis_of_head {c : Char} {text : List Char} (other : c ≠ 't') :
    dropThis (c :: text) = c :: text := by
  have differs : ¬ 't' = c := fun same => other same.symm
  simp [dropThis, Text.after?, differs]

theorem dropRelative_of_head {c : Char} {text : List Char} (other : c ≠ '.') (fuel : Nat) :
    dropRelative fuel (c :: text) = c :: text := by
  have differs : ¬ '.' = c := fun same => other same.symm
  cases fuel with
  | zero => rfl
  | succ fuel => simp [dropRelative, Text.after?, differs]

theorem dropRelative_current (fuel : Nat) (text : List Char) :
    dropRelative (fuel + 1) ("./".toList ++ text) = dropRelative fuel text := by
  cases text <;> simp [dropRelative, Text.after?]

theorem base_behind_this {c : Char} (separates : isSeparator c = true) {text : List Char}
    {fuel : Nat} : dropThis (dropRelative fuel ("this".toList ++ c :: text)) = text := by
  rw [show "this".toList ++ c :: text = 't' :: ("his".toList ++ c :: text) from rfl,
    dropRelative_of_head (by decide)]
  rcases separator_cases separates with rfl | rfl <;> simp [dropThis, Text.after?]

/-- The base of a name, or of brackets, is the name that it stands for. -/
theorem plainBase?_item {item more : List Char} {first rest : List Template.Segment} {name : String}
    (head : Item item first) (tail : Items more rest)
    (base : plainBase? (item ++ more) = some name) :
    ∃ others, first ++ rest = .named name :: others := by
  cases head with
  | name nonempty chars =>
    have whole : (item ++ more).takeWhile (fun c => !isSegmentEnd c) = item := by
      apply takeWhile_append_stop
      · intro c member
        simp [not_isSegmentEnd_of_isNameChar (chars c member)]
      · intro c found
        rcases separator_cases (tail.head_isSeparator c found) with rfl | rfl <;> decide
    simp only [plainBase?, whole] at base
    split at base
    · cases base
    · split at base
      · cases base
      · rename_i kept
        simp only [Bool.or_eq_true, List.isEmpty_iff, beq_iff_eq, not_or] at kept
        cases base
        exact ⟨rest, by rw [segmentOf, if_neg kept.2, List.singleton_append]⟩
  | bracketed body =>
    have stops : isSegmentEnd '[' = true := by decide
    simp [plainBase?, stops] at base

/-- A leading `this` is dropped where it is no segment. -/
theorem plainBase?_dropThis_item {item more : List Char} {first rest : List Template.Segment}
    {name : String} (head : Item item first) (tail : Items more rest)
    (base : plainBase? (dropThis (item ++ more)) = some name) :
    ∃ others, first ++ rest = .named name :: others := by
  by_cases itself : item = "this".toList
  · subst itself
    have silent : first = [] := by
      cases head
      rfl
    cases tail with
    | nil => simp [dropThis, Text.after?, plainBase?, isSegmentEnd] at base
    | @cons c next further following others separates nextHead furtherTail =>
      have dropped : dropThis ("this".toList ++ c :: (next ++ further)) = next ++ further := by
        rcases separator_cases separates with rfl | rfl <;> simp [dropThis, Text.after?]
      rw [dropped] at base
      obtain ⟨last, same⟩ := plainBase?_item nextHead furtherTail base
      exact ⟨last, by rw [silent, List.nil_append, same]⟩
  · have kept : dropThis (item ++ more) = item ++ more := by
      have whole : ∀ c : Char, isSeparator c = true → ∀ text : List Char,
          item ++ more ≠ "this".toList ++ c :: text := by
        intro c separates text same
        cases head with
        | name nonempty chars =>
          apply itself
          have plain : ∀ d ∈ "this".toList, Template.isNameChar d = true :=
            List.all_eq_true.mp (by decide)
          have stops : ∀ d, (c :: text).head? = some d → Template.isNameChar d = false := by
            intro d found
            cases found
            exact not_isNameChar_of_isSeparator separates
          rw [← takeWhile_append_stop plain stops, ← same]
          refine (takeWhile_append_stop chars ?_).symm
          intro d found
          exact not_isNameChar_of_isSeparator (tail.head_isSeparator d found)
        | bracketed body => simp at same
      have dot : Text.after? "this.".toList (item ++ more) = none := by
        rw [Option.eq_none_iff_forall_ne_some]
        intro text found
        exact whole '.' rfl text (by simpa using Text.after?_eq_some_iff.mp found)
      have slash : Text.after? "this/".toList (item ++ more) = none := by
        rw [Option.eq_none_iff_forall_ne_some]
        intro text found
        exact whole '/' rfl text (by simpa using Text.after?_eq_some_iff.mp found)
      rw [dropThis, dot, slash]
      rfl
    rw [kept] at base
    exact plainBase?_item head tail base

/-- Steps outward do not count. -/
theorem plainBase?_climb {climb text : List Char} {height : Nat} {name : String}
    (climbs : Climb climb height) (stays : ∃ c tail, text = c :: tail ∧ c ≠ '.') :
    ∀ fuel, (climb ++ text).length ≤ fuel →
      plainBase? (dropThis (dropRelative fuel (climb ++ text))) = some name →
      plainBase? (dropThis text) = some name := by
  induction climbs with
  | stay =>
    intro fuel _ base
    obtain ⟨c, tail, rfl, other⟩ := stays
    rwa [List.nil_append, dropRelative_of_head other] at base
  | @up c more count separates _ ih =>
    intro fuel bound base
    obtain ⟨fuel, rfl⟩ : ∃ less, fuel = less + 1 :=
      ⟨fuel - 1, by simp only [List.cons_append, List.length_cons] at bound; omega⟩
    rcases separator_cases separates with rfl | rfl
    · have kept : dropRelative (fuel + 1) ('.' :: '.' :: '.' :: (more ++ text)) =
          '.' :: '.' :: '.' :: (more ++ text) := by
        simp [dropRelative, Text.after?]
      simp only [List.cons_append] at base
      rw [kept, dropThis_of_head (by decide), plainBase?_dot] at base
      cases base
    · have dropped : dropRelative (fuel + 1) ('.' :: '.' :: '/' :: (more ++ text)) =
          dropRelative fuel (more ++ text) := by
        simp [dropRelative, Text.after?]
      simp only [List.cons_append] at base
      rw [dropped] at base
      refine ih fuel ?_ base
      simp only [List.cons_append, List.length_cons] at bound
      omega

end Stencil.Extraction

namespace Stencil.Template.Path.Written

open Extraction

variable {path : Path}

/-- What follows an optional `this.` or `./`. -/
def remainder (written : Written path) : List Char :=
  written.root ++ (written.mark ++ (written.climb ++ (written.item ++ written.more)))

theorem raw_toList (written : Written path) :
    path.raw.toList = written.current ++ written.remainder := by
  rw [written.raw_eq, String.toList_ofList]
  rfl

/-- The segments of a path whose base variable was found behind its steps outward. -/
theorem segments_of_base (written : Written path) {name : String}
    (root : written.rootSegments = []) (mark : written.markSegments = [])
    (found : ∃ others, written.first ++ written.rest = .named name :: others) :
    path.firstName? = some name := by
  obtain ⟨others, same⟩ := found
  have segments : path.segments =
      List.replicate written.height .up ++ .named name :: others := by
    rw [written.segments_eq, root, mark, same, List.nil_append, List.nil_append]
  simp only [firstName?, segments, outward_climb]

theorem remainder_mark (written : Written path)
    (marked : written.rootSegments ≠ [] ∨ written.markSegments ≠ []) :
    ∃ text, written.remainder = '@' :: text := by
  rcases written.root_cases with ⟨root, rootSegments⟩ | ⟨tail, root, _, _⟩
  · rcases written.mark_cases with ⟨mark, markSegments⟩ | ⟨mark, _⟩
    · rcases marked with differs | differs
      · exact absurd rootSegments differs
      · exact absurd markSegments differs
    · refine ⟨written.climb ++ (written.item ++ written.more), ?_⟩
      rw [remainder, root, mark, List.nil_append, List.singleton_append]
  · refine ⟨tail ++ (written.mark ++ (written.climb ++ (written.item ++ written.more))), ?_⟩
    rw [remainder, root, List.cons_append]

theorem remainder_plain (written : Written path) (root : written.rootSegments = [])
    (mark : written.markSegments = []) :
    written.remainder = written.climb ++ (written.item ++ written.more) := by
  have noRoot : written.root = [] := by
    rcases written.root_cases with ⟨same, _⟩ | ⟨_, _, _, other⟩
    · exact same
    · rw [root] at other
      cases other
  have noMark : written.mark = [] := by
    rcases written.mark_cases with ⟨same, _⟩ | ⟨_, other⟩
    · exact same
    · rw [mark] at other
      cases other
  rw [remainder, noRoot, noMark, List.nil_append, List.nil_append]

/-- The base variable behind steps outward. -/
theorem firstName?_of_relative (written : Written path) {name : String} {fuel : Nat}
    (bound : written.remainder.length ≤ fuel)
    (base : plainBase? (dropThis (dropRelative fuel written.remainder)) = some name) :
    path.firstName? = some name := by
  by_cases plain : written.rootSegments = [] ∧ written.markSegments = []
  · rw [written.remainder_plain plain.1 plain.2] at base bound
    obtain ⟨c, tail, same, other, _⟩ := written.head.head_ne_dot
    have stays : ∃ c tail, written.item ++ written.more = c :: tail ∧ c ≠ '.' :=
      ⟨c, tail ++ written.more, by rw [same, List.cons_append], other⟩
    have plainBase := plainBase?_climb written.climbs stays fuel bound base
    exact written.segments_of_base plain.1 plain.2
      (plainBase?_dropThis_item written.head written.tail plainBase)
  · have marked : written.rootSegments ≠ [] ∨ written.markSegments ≠ [] := by
      rwa [Classical.not_and_iff_not_or_not] at plain
    obtain ⟨text, same⟩ := written.remainder_mark marked
    rw [same, dropRelative_of_head (by decide), dropThis_of_head (by decide),
      plainBase?_mark] at base
    cases base

/-- The base variable behind `this`, where no steps outward may follow. -/
theorem firstName?_of_plain (written : Written path) {name : String}
    (base : plainBase? written.remainder = some name) : path.firstName? = some name := by
  by_cases plain : written.rootSegments = [] ∧ written.markSegments = []
  · rw [written.remainder_plain plain.1 plain.2] at base
    rcases written.climbs.eq_nil_or_dot with ⟨level, _⟩ | ⟨text, level⟩
    · rw [level, List.nil_append] at base
      exact written.segments_of_base plain.1 plain.2
        (plainBase?_item written.head written.tail base)
    · rw [level, List.cons_append, plainBase?_dot] at base
      cases base
  · have marked : written.rootSegments ≠ [] ∨ written.markSegments ≠ [] := by
      rwa [Classical.not_and_iff_not_or_not] at plain
    obtain ⟨text, same⟩ := written.remainder_mark marked
    rw [same, plainBase?_mark] at base
    cases base

/-- On a path without white space at its ends the base variable is the name that is looked up. -/
theorem firstName?_of_baseVariable? (written : Written path) {name : String}
    (unpadded : path.Unpadded) (base : baseVariable? path.raw = some name) :
    path.firstName? = some name := by
  rw [baseVariable?_of_unpadded unpadded] at base
  rw [written.raw_toList] at base
  rcases written.current_cases with current | current | current | current <;> rw [current] at base
  · exact written.firstName?_of_relative (Nat.le_refl _) base
  · rw [show "this.".toList ++ written.remainder = "this".toList ++ '.' :: written.remainder from rfl,
      base_behind_this rfl] at base
    exact written.firstName?_of_plain base
  · rw [show "this/".toList ++ written.remainder = "this".toList ++ '/' :: written.remainder from rfl,
      base_behind_this rfl] at base
    exact written.firstName?_of_plain base
  · rw [show ("./".toList ++ written.remainder).length = (written.remainder.length + 1) + 1
      from by simp, dropRelative_current] at base
    exact written.firstName?_of_relative (Nat.le_succ _) base

/-! ### Words -/

/-- What is written with characters of names alone is one segment, or none for `this`. -/
theorem segments_of_chars (written : Written path) {word : List Char}
    (same : written.climb ++ (written.item ++ written.more) = word)
    (chars : ∀ c ∈ word, isNameChar c = true) :
    List.replicate written.height .up ++ (written.first ++ written.rest) = segmentOf word := by
  have absent : ∀ c : Char, isNameChar c = false → c ∉ word := by
    intro c other member
    exact ne_of_isNameChar (chars c member) other rfl
  subst same
  rcases written.climbs.eq_nil_or_dot with ⟨climb, height⟩ | ⟨text, climb⟩
  · rcases written.tail.eq_nil_or_separator with ⟨more, rest⟩ | ⟨c, text, more, separates⟩
    · rcases written.head.eq_segmentOf_or_bracket with first | ⟨text, item⟩
      · rw [climb, height, more, rest, first]
        simp
      · exact absurd (by simp [item]) (absent '[' (by decide))
    · exact absurd (by simp [more]) (absent c (not_isNameChar_of_isSeparator separates))
  · exact absurd (by simp [climb]) (absent '.' (by decide))

/-- A path that is one word. -/
theorem segments_of_word (written : Written path)
    (chars : ∀ c ∈ path.raw.toList, isNameChar c = true) :
    path.segments = segmentOf path.raw.toList := by
  have absent : ∀ c : Char, isNameChar c = false → c ∉ path.raw.toList := by
    intro c other member
    exact ne_of_isNameChar (chars c member) other rfl
  have text := written.raw_toList
  have current : written.current = [] := by
    rcases written.current_cases with current | current | current | current
    · exact current
    · exact absurd (by simp [text, current]) (absent '.' (by decide))
    · exact absurd (by simp [text, current]) (absent '/' (by decide))
    · exact absurd (by simp [text, current]) (absent '.' (by decide))
  have plain : written.rootSegments = [] ∧ written.markSegments = [] := by
    apply Classical.byContradiction
    intro marked
    rw [Classical.not_and_iff_not_or_not] at marked
    obtain ⟨tail, remainder⟩ := written.remainder_mark marked
    exact absent '@' (by decide) (by simp [text, remainder])
  rw [current, List.nil_append, written.remainder_plain plain.1 plain.2] at text
  rw [written.segments_eq, plain.1, plain.2, List.nil_append, List.nil_append]
  exact written.segments_of_chars text.symm chars

/-- A variable with a mark that is one word; `@root` might begin a path. -/
theorem segments_of_marked (written : Written path) {word : List Char}
    (marked : path.raw.toList = '@' :: word) (chars : ∀ c ∈ word, isNameChar c = true)
    (other : word.head? ≠ some 'r') : path.segments = .localMark :: segmentOf word := by
  have text := written.raw_toList
  rw [marked] at text
  have current : written.current = [] := by
    rcases written.current_cases with current | current | current | current
    · exact current
    all_goals
      rw [current] at text
      simp at text
  rw [current, List.nil_append] at text
  rcases written.root_cases with ⟨root, rootSegments⟩ | ⟨tail, root, head, _⟩
  · rcases written.mark_cases with ⟨mark, _⟩ | ⟨mark, markSegments⟩
    · rw [remainder, root, mark, List.nil_append, List.nil_append] at text
      obtain ⟨c, tail, item, notDot, notMark⟩ := written.head.head_ne_dot
      rcases written.climbs.eq_nil_or_dot with ⟨climb, _⟩ | ⟨others, climb⟩
      · rw [climb, item] at text
        exact absurd (List.cons.inj text).1.symm notMark
      · rw [climb] at text
        exact absurd (List.cons.inj text).1 (by decide)
    · rw [remainder, root, mark, List.nil_append, List.singleton_append] at text
      rw [written.segments_eq, rootSegments, markSegments, List.nil_append, List.singleton_append,
        written.segments_of_chars (List.cons.inj text).2.symm chars]
  · rw [remainder, root, List.cons_append] at text
    obtain ⟨_, same⟩ := List.cons.inj text
    obtain ⟨others, rfl⟩ : ∃ others, tail = 'r' :: others := by
      cases tail with
      | nil => cases head
      | cons c others =>
        cases head
        exact ⟨others, rfl⟩
    exact absurd (by rw [same]; rfl) other

end Stencil.Template.Path.Written

namespace Stencil.Template.Path

/-! ### Paths with white space at their ends -/

/-- What is no segment is the word `this`, perhaps in brackets. -/
theorem Item.ends_of_silent {item : List Char} {first : List Segment} (head : Item item first)
    (silent : first = []) :
    (∃ front c, item = front ++ [c] ∧ Text.isBlank c = false) ∧
      ∃ c tail, item = c :: tail ∧ Text.isBlank c = false := by
  cases head with
  | name nonempty chars =>
    have itself : item = "this".toList := by
      unfold segmentOf at silent
      split at silent
      · assumption
      · cases silent
    subst itself
    exact ⟨⟨"thi".toList, 's', rfl, by decide⟩, ⟨'t', "his".toList, rfl, by decide⟩⟩
  | bracketed body =>
    exact ⟨⟨'[' :: body, ']', rfl, by decide⟩, ⟨'[', body ++ [']'], rfl, by decide⟩⟩

theorem Items.end_of_silent {more : List Char} {rest : List Segment} (items : Items more rest) :
    rest = [] → more = [] ∨ ∃ front c, more = front ++ [c] ∧ Text.isBlank c = false := by
  induction items with
  | nil => exact fun _ => Or.inl rfl
  | @cons c item more first rest separates head tail ih =>
    intro silent
    obtain ⟨noFirst, noRest⟩ := List.append_eq_nil_iff.mp silent
    rcases ih noRest with rfl | ⟨front, last, rfl, solid⟩
    · obtain ⟨⟨front, last, rfl, solid⟩, _⟩ := head.ends_of_silent noFirst
      exact Or.inr ⟨c :: front, last, by simp, solid⟩
    · exact Or.inr ⟨c :: (item ++ front), last, by simp, solid⟩

theorem segmentOf_named {text : List Char} :
    ∀ segment ∈ segmentOf text, ∃ name, segment = .named name := by
  intro segment member
  unfold segmentOf at member
  split at member
  · cases member
  · exact ⟨_, List.mem_singleton.mp member⟩

theorem Item.named {item : List Char} {first : List Segment} (head : Item item first) :
    ∀ segment ∈ first, ∃ name, segment = .named name := by
  cases head with
  | name _ _ => exact segmentOf_named
  | bracketed _ => exact segmentOf_named

theorem Items.named {more : List Char} {rest : List Segment} (items : Items more rest) :
    ∀ segment ∈ rest, ∃ name, segment = .named name := by
  induction items with
  | nil =>
    intro segment member
    cases member
  | cons _ head _ ih =>
    intro segment member
    rcases List.mem_append.mp member with member | member
    · exact head.named segment member
    · exact ih segment member

theorem Climb.head_solid {climb : List Char} {height : Nat} (climbs : Climb climb height)
    {text : List Char} (front : ∃ c tail, text = c :: tail ∧ Text.isBlank c = false) :
    ∃ c tail, climb ++ text = c :: tail ∧ Text.isBlank c = false := by
  cases climbs with
  | stay => exact front
  | up _ _ => exact ⟨'.', _, rfl, by decide⟩

namespace Written

open Extraction

variable {path : Path}

/-- No white space begins what follows an optional `this.` or `./`, nor the whole. -/
theorem head_solid (written : Written path) {text : List Char}
    (front : ∃ c tail, text = c :: tail ∧ Text.isBlank c = false) :
    ∃ c tail, written.current ++ text = c :: tail ∧ Text.isBlank c = false := by
  rcases written.current_cases with current | current | current | current <;> rw [current]
  · exact front
  · exact ⟨'t', _, rfl, by decide⟩
  · exact ⟨'t', _, rfl, by decide⟩
  · exact ⟨'.', _, rfl, by decide⟩

/-- A path without names is not bordered by white space. -/
theorem unpadded_of_silent (written : Written path) (root : written.rootSegments = [])
    (mark : written.markSegments = []) (silent : written.first ++ written.rest = []) :
    path.Unpadded := by
  obtain ⟨noFirst, noRest⟩ := List.append_eq_nil_iff.mp silent
  obtain ⟨ending, beginning⟩ := written.head.ends_of_silent noFirst
  obtain ⟨front, c, text, solid⟩ : ∃ front c,
      path.raw.toList = front ++ [c] ∧ Text.isBlank c = false := by
    rw [written.raw_toList, written.remainder_plain root mark]
    rcases written.tail.end_of_silent noRest with more | ⟨front, c, more, solid⟩
    · obtain ⟨front, c, item, solid⟩ := ending
      exact ⟨written.current ++ (written.climb ++ front), c, by simp [more, item], solid⟩
    · exact ⟨written.current ++ (written.climb ++ (written.item ++ front)), c, by simp [more], solid⟩
  have head : ∃ c tail, path.raw.toList = c :: tail ∧ Text.isBlank c = false := by
    rw [written.raw_toList, written.remainder_plain root mark]
    apply written.head_solid
    apply written.climbs.head_solid
    obtain ⟨c, tail, item, solid⟩ := beginning
    exact ⟨c, tail ++ written.more, by rw [item, List.cons_append], solid⟩
  rw [Unpadded, text]
  refine Text.trim_of_solid solid ?_
  intro d found
  obtain ⟨c, tail, same, solid⟩ := head
  rw [← text, same] at found
  cases found
  exact solid

/-- A path with a mark has no base variable, with white space behind it or without. -/
theorem baseVariable?_of_marked (written : Written path)
    (marked : written.rootSegments ≠ [] ∨ written.markSegments ≠ []) :
    baseVariable? path.raw = none := by
  obtain ⟨text, remainder⟩ := written.remainder_mark marked
  have trimmed : Text.trim path.raw.toList = written.current ++ '@' :: Text.trimEnd text := by
    rw [written.raw_toList, remainder]
    refine Text.trim_of_solid (by decide) ?_
    intro d found
    obtain ⟨c, tail, same, solid⟩ := written.head_solid ⟨'@', [], rfl, by decide⟩
    rw [same] at found
    cases found
    exact solid
  show plainBase? (dropThis (dropRelative (Text.trim path.raw.toList).length
    (Text.trim path.raw.toList))) = none
  rw [trimmed]
  rcases written.current_cases with current | current | current | current <;> rw [current]
  · rw [List.nil_append, dropRelative_of_head (by decide), dropThis_of_head (by decide),
      plainBase?_mark]
  · rw [show "this.".toList ++ '@' :: Text.trimEnd text =
      "this".toList ++ '.' :: '@' :: Text.trimEnd text from rfl, base_behind_this rfl, plainBase?_mark]
  · rw [show "this/".toList ++ '@' :: Text.trimEnd text =
      "this".toList ++ '/' :: '@' :: Text.trimEnd text from rfl, base_behind_this rfl, plainBase?_mark]
  · rw [show ("./".toList ++ '@' :: Text.trimEnd text).length = (Text.trimEnd text).length + 2 + 1
      from by simp, dropRelative_current, dropRelative_of_head (by decide),
      dropThis_of_head (by decide), plainBase?_mark]

theorem names_named (written : Written path) :
    ∀ segment ∈ written.first ++ written.rest, ∃ name, segment = .named name := by
  intro segment member
  rcases List.mem_append.mp member with member | member
  · exact written.head.named segment member
  · exact written.tail.named segment member

/-- Looking up a path that has a base variable begins with some name. -/
theorem exists_firstName? (written : Written path) {name : String}
    (base : baseVariable? path.raw = some name) : ∃ first, path.firstName? = some first := by
  by_cases plain : written.rootSegments = [] ∧ written.markSegments = []
  · cases names : written.first ++ written.rest with
    | nil =>
      have unpadded := written.unpadded_of_silent plain.1 plain.2 names
      exact ⟨name, written.firstName?_of_baseVariable? unpadded base⟩
    | cons segment others =>
      obtain ⟨first, rfl⟩ := written.names_named segment (by rw [names]; exact List.mem_cons_self)
      exact ⟨first, written.segments_of_base plain.1 plain.2 ⟨others, names⟩⟩
  · rw [Classical.not_and_iff_not_or_not] at plain
    rw [written.baseVariable?_of_marked plain] at base
    cases base

end Written

end Stencil.Template.Path
