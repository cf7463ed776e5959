import Mathlib.Data.List.Basic
import Mathlib.Data.List.Nodup
import Stencil.Diagnostic.Basic

set_option autoImplicit false

/-!
The lines that a diagnostic shows. Its context is the lines of the source around the line of the error, and
its text shows each of them behind its number, the numbers flush right, with a mark at the line of the error
alone (`diagnostics_show_lines`).
-/

namespace Stencil

/-! ### Lines of a text -/

namespace Text

/-- A text and its lines. A line ends with a line feed, perhaps behind a carriage return that does not count;
the last one may end with the text. -/
inductive Lined : List Char → List (List Char) → Prop where
  | done : Lined [] []
  | last {line : List Char} (nonempty : line ≠ []) (whole : '\n' ∉ line) : Lined line [line]
  | feed {line rest : List Char} {lines : List (List Char)} (whole : '\n' ∉ line)
      (bare : line.getLast? ≠ some '\r') (further : Lined rest lines) :
      Lined (line ++ '\n' :: rest) (line :: lines)
  | carriage {line rest : List Char} {lines : List (List Char)} (whole : '\n' ∉ line)
      (further : Lined rest lines) : Lined (line ++ '\r' :: '\n' :: rest) (line :: lines)

/-- The characters of the line being read are kept backwards. -/
theorem lined_linesFrom (line text : List Char) (whole : '\n' ∉ line) :
    Lined (line.reverse ++ text) (linesFrom line text) := by
  fun_induction linesFrom line text with
  | case1 => exact Lined.done
  | case2 line given =>
    rw [List.append_nil]
    exact Lined.last (by simpa using given) (by simpa using whole)
  | case3 line text ih =>
    rw [List.reverse_cons, List.append_assoc]
    exact Lined.carriage (by simpa using whole) (ih List.not_mem_nil)
  | case4 line text bare ih =>
    refine Lined.feed (by simpa using whole) ?_ (ih List.not_mem_nil)
    rw [List.getLast?_reverse]
    cases line with
    | nil => simp
    | cons c line =>
      rintro same
      cases same
      exact bare line rfl
  | case5 line c text _ other ih =>
    have inner : c ≠ '\n' := fun same => other same
    have kept : '\n' ∉ c :: line := List.not_mem_cons_of_ne_of_not_mem inner.symm whole
    simpa using ih kept

theorem lined_lines (text : String) : Lined text.toList ((lines text).map String.toList) := by
  have lined := lined_linesFrom [] text.toList List.not_mem_nil
  rw [lines, List.map_map]
  simpa using lined

end Text

/-- A number that is not smaller has no fewer digits. -/
theorem length_toString_le {first second : Nat} (le : first ≤ second) :
    (toString first).length ≤ (toString second).length := by
  rw [Nat.toString_eq_ofList_toDigits, Nat.toString_eq_ofList_toDigits, String.length_ofList,
    String.length_ofList, Nat.length_toDigits_le_iff (by decide) Nat.length_toDigits_pos]
  have fits : second < 10 ^ (Nat.toDigits 10 second).length :=
    (Nat.length_toDigits_le_iff (by decide) Nat.length_toDigits_pos).mp (Nat.le_refl _)
  exact Nat.lt_of_le_of_lt le fits

namespace SyntaxError

/-! ### Context -/

/-- The context of an error at a line: the lines of the source from the second one before it to the second
one behind it, as far as they exist, each with its number. -/
structure Surrounds (lines : List String) (line : Nat) (context : List (Nat × String)) : Prop where
  mem_iff : ∀ number text, (number, text) ∈ context ↔
    max 1 (line - 2) ≤ number ∧ number ≤ line + 2 ∧ lines[number - 1]? = some text
  consecutive : context.map Prod.fst = List.range' (max 1 (line - 2)) context.length
  few : context.length ≤ 5

/-- The numbered items of a list between two numbers are those of a part of the list. -/
theorem filterMap_zipIdx (first last : Nat) (texts : List String) (start : Nat) :
    ((texts.zipIdx start).filterMap fun (text, number) =>
        if first ≤ number ∧ number ≤ last then some (number, text) else none) =
      (((texts.drop (first - start)).take (last + 1 - max first start)).zipIdx (max first start)).map
        Prod.swap := by
  induction texts generalizing start with
  | nil => simp
  | cons text texts ih =>
    rw [List.zipIdx_cons, List.filterMap_cons, ih]
    dsimp only
    by_cases before : start < first
    · have outside : ¬ (first ≤ start ∧ start ≤ last) := by omega
      obtain ⟨less, same⟩ : ∃ less, first - start = less + 1 := ⟨first - start - 1, by omega⟩
      have shift : first - (start + 1) = less := by omega
      have later : max first (start + 1) = max first start := by omega
      rw [if_neg outside, same, List.drop_succ_cons, shift, later]
    · have none_before : first - start = 0 := by omega
      have here : max first start = start := by omega
      have next : max first (start + 1) = start + 1 := by omega
      have none_later : first - (start + 1) = 0 := by omega
      rw [none_before, none_later, here, next]
      by_cases within : start ≤ last
      · have more : last + 1 - start = (last + 1 - (start + 1)) + 1 := by omega
        rw [if_pos ⟨by omega, within⟩, more]
        rfl
      · have beyond : last + 1 - start = 0 := by omega
        have beyond_next : last + 1 - (start + 1) = 0 := by omega
        rw [if_neg (by omega), beyond, beyond_next]
        rfl

theorem excerpt_of_fits (source : String) {line : Nat} (fits : line + 2 < Nat.pow 2 64) :
    excerpt source line = ((Text.lines source).zipIdx 1).filterMap fun (text, number) =>
      if max (line - 2) 1 ≤ number ∧ number ≤ line + 2 then some (number, text) else none := by
  have known : lastShown? line = some (line + 2) := if_pos fits
  rw [excerpt, known]
  rfl

theorem surrounds_excerpt (source : String) {line : Nat} (fits : line + 2 < Nat.pow 2 64) :
    Surrounds (Text.lines source) line (excerpt source line) := by
  have part := filterMap_zipIdx (max (line - 2) 1) (line + 2) (Text.lines source) 1
  rw [← excerpt_of_fits source fits] at part
  refine ⟨fun number text => ?_, ?_, ?_⟩
  · rw [excerpt_of_fits source fits, List.mem_filterMap]
    constructor
    · rintro ⟨⟨other, index⟩, member, kept⟩
      dsimp only at kept
      split at kept
      · rename_i within
        cases kept
        obtain ⟨_, found⟩ := List.mk_mem_zipIdx_iff_le_and_getElem?_sub.mp member
        exact ⟨by omega, within.2, found⟩
      · cases kept
    · rintro ⟨lower, upper, found⟩
      refine ⟨(text, number), List.mk_mem_zipIdx_iff_le_and_getElem?_sub.mpr ⟨by omega, found⟩, ?_⟩
      exact if_pos ⟨by omega, upper⟩
  · have start : max (max (line - 2) 1) 1 = max 1 (line - 2) := by omega
    rw [part, start, List.map_map, List.length_map, List.length_zipIdx]
    exact List.zipIdx_map_snd _ _
  · rw [part, List.length_map, List.length_zipIdx, List.length_take]
    omega

/-! ### The text of a diagnostic -/

/-- A line of a context as it is shown. -/
structure ShownLine where
  marked : Bool
  /-- The blanks before the number. -/
  indent : Nat
  number : Nat
  text : String

def ShownLine.written (line : ShownLine) : String :=
  "\n" ++ (if line.marked then ">" else " ") ++ " " ++ String.ofList (List.replicate line.indent ' ') ++
    toString line.number ++ " | " ++ line.text

/-- What stands before the context. -/
def opening (error : SyntaxError) : String :=
  let name := (error.template.map fun name => " in '" ++ name ++ "'").getD ""
  let place := match error.line, error.column with
    | some line, some column => " at line " ++ toString line ++ ", column " ++ toString column
    | some line, none => " at line " ++ toString line
    | none, _ => ""
  "template syntax error" ++ name ++ place ++ ": " ++ error.message

/-- What stands behind the context. -/
def closing (error : SyntaxError) : String :=
  let hints := error.suggestions.map ("\n  - " ++ ·)
  if hints.isEmpty then "" else "\n\nSuggestions:" ++ String.join hints

/-- The lines that a diagnostic shows, and how. -/
structure Shows (error : SyntaxError) (rows : List ShownLine) : Prop where
  text_eq : error.text = error.opening ++
    (if rows.isEmpty then "" else "\n" ++ String.join (rows.map ShownLine.written)) ++ error.closing
  entries : (rows.map fun row => (row.number, row.text)) = error.context
  flush : ∃ width, ∀ row ∈ rows, row.indent + (toString row.number).length = width

/-- The columns of the last number. -/
def width (error : SyntaxError) : Nat :=
  ((error.context.getLast?).map fun (number, _) => (toString number).length).getD 1

def rows (error : SyntaxError) : List ShownLine :=
  error.context.map fun (number, text) =>
    ⟨decide (error.line = some number), error.width - (toString number).length, number, text⟩

theorem written_rows (error : SyntaxError) : error.rows.map ShownLine.written =
    error.context.map fun (number, text) =>
      "\n" ++ (if error.line = some number then ">" else " ") ++ " " ++
        String.ofList (List.replicate (error.width - (toString number).length) ' ') ++ toString number ++
          " | " ++ text := by
  rw [rows, List.map_map]
  refine List.map_congr_left fun entry _ => ?_
  simp only [Function.comp_apply, ShownLine.written, decide_eq_true_eq]

theorem text_eq (error : SyntaxError) : error.text = error.opening ++
    (if error.rows.isEmpty then "" else "\n" ++ String.join (error.rows.map ShownLine.written)) ++
      error.closing := by
  have same : error.rows.isEmpty = (error.rows.map ShownLine.written).isEmpty := List.isEmpty_map.symm
  rw [same, written_rows]
  rfl

/-- In a context with ascending numbers no number has more digits than the last one. -/
theorem length_le_width {error : SyntaxError} (ascending : (error.context.map Prod.fst).Pairwise (· < ·))
    {entry : Nat × String} (member : entry ∈ error.context) :
    (toString entry.1).length ≤ error.width := by
  rw [width]
  rcases List.eq_nil_or_concat error.context with empty | ⟨before, last, split⟩
  · rw [empty] at member
    cases member
  · rw [split, List.concat_eq_append, List.getLast?_concat, Option.map_some, Option.getD_some]
    rw [split, List.concat_eq_append, List.map_append, List.pairwise_append] at ascending
    rw [split, List.concat_eq_append, List.mem_append, List.mem_singleton] at member
    rcases member with member | rfl
    · apply length_toString_le
      exact Nat.le_of_lt (ascending.2.2 _ (List.mem_map_of_mem member) _ (List.mem_singleton_self _))
    · exact Nat.le_refl _

theorem shows_rows {error : SyntaxError} (ascending : (error.context.map Prod.fst).Pairwise (· < ·)) :
    error.Shows error.rows := by
  refine ⟨error.text_eq, ?_, error.width, ?_⟩
  · rw [rows, List.map_map]
    exact List.map_id' _
  · intro row member
    obtain ⟨entry, listed, rfl⟩ := List.mem_map.mp member
    exact Nat.sub_add_cancel (length_le_width ascending listed)

/-- The mark stands at the line of the error, if the source has that line. -/
theorem marked_rows {error : SyntaxError} {lines : List String} {line : Nat}
    (surrounds : Surrounds lines line error.context) (known : error.line = some line) :
    (error.rows.filter ShownLine.marked).map ShownLine.number =
      if 1 ≤ line ∧ line ≤ lines.length then [line] else [] := by
  have numbers : (error.rows.filter ShownLine.marked).map ShownLine.number =
      (error.context.map Prod.fst).filter (· = line) := by
    rw [rows, List.filter_map, List.map_map, List.filter_map]
    refine congrArg _ (List.filter_congr fun entry _ => ?_)
    simp [known, eq_comm]
  have nodup : (error.context.map Prod.fst).Nodup := by
    rw [surrounds.consecutive]
    exact List.nodup_range'
  have listed : line ∈ error.context.map Prod.fst ↔ 1 ≤ line ∧ line ≤ lines.length := by
    constructor
    · intro member
      obtain ⟨⟨number, text⟩, within, rfl⟩ := List.mem_map.mp member
      obtain ⟨lower, _, found⟩ := (surrounds.mem_iff number text).mp within
      obtain ⟨inside, _⟩ := List.getElem?_eq_some_iff.mp found
      exact ⟨by omega, by omega⟩
    · rintro ⟨positive, inside⟩
      have found : lines[line - 1]? = some lines[line - 1] := List.getElem?_eq_getElem (by omega)
      exact List.mem_map_of_mem ((surrounds.mem_iff line _).mpr ⟨by omega, by omega, found⟩)
  rw [numbers, List.filter_eq, nodup.count]
  simp only [listed]
  split <;> rfl

/-! ### Diagnoses -/

/-- An error of an engine: its text, the reason alone, and the place if it has one. -/
structure Report where
  text : String
  reason : String
  place : Option (Nat × Nat)

/-- The diagnostic of an engine's error. Its place comes before one that its text names. -/
def ofReport (report : Report) (source : String) (template : Option String) : SyntaxError :=
  let diagnosed := { diagnose report.text source template with message := report.reason }
  match report.place with
  | none => diagnosed
  | some (line, column) =>
    { diagnosed with line := some line, column := some column, context := excerpt source line }

/-- The diagnostics of a source: those of error texts, of engines' errors and of faults. -/
inductive Diagnosed (source : String) (template : Option String) : SyntaxError → Prop where
  | text (message : String) : Diagnosed source template (diagnose message source template)
  | report (report : Report) : Diagnosed source template (ofReport report source template)
  | fault (fault : Template.Fault) : Diagnosed source template (fault.diagnostic source template)

end SyntaxError

/-- What the reader of templates reports. -/
def Template.Fault.report (fault : Fault) (source : String) : SyntaxError.Report :=
  match fault.place? with
  | none => ⟨fault.reason, fault.reason, none⟩
  | some (line, column) =>
    ⟨SyntaxError.placedText fault.reason source line column, fault.reason, some (line, column)⟩

theorem Template.Fault.diagnostic_eq (fault : Fault) (source : String) (template : Option String) :
    fault.diagnostic source template = SyntaxError.ofReport (fault.report source) source template := by
  rw [diagnostic, report]
  cases fault.place? with
  | none => rfl
  | some place => simp only [SyntaxError.ofReport, SyntaxError.diagnose]

namespace SyntaxError

variable {source : String} {template : Option String} {error : SyntaxError}

theorem context_diagnose (message source : String) (template : Option String) :
    (diagnose message source template).context =
      (((diagnose message source template).line).map (excerpt source)).getD [] := rfl

theorem context_ofReport (report : Report) (source : String) (template : Option String) :
    (ofReport report source template).context =
      (((ofReport report source template).line).map (excerpt source)).getD [] := by
  obtain ⟨text, reason, place⟩ := report
  cases place <;> rfl

/-- The context is the one around the line, and empty if there is no line. -/
theorem Diagnosed.context_eq (diagnosed : Diagnosed source template error) :
    error.context = (error.line.map (excerpt source)).getD [] := by
  cases diagnosed with
  | text message => exact context_diagnose message source template
  | report report => exact context_ofReport report source template
  | fault fault =>
    rw [fault.diagnostic_eq]
    exact context_ofReport _ source template

/-- A diagnostic with a line has the lines around it as its context, and shows them with flush numbers and a
mark at that line alone; one without a line has no context. -/
theorem diagnostics_show_lines (diagnosed : Diagnosed source template error) :
    Text.Lined source.toList ((Text.lines source).map String.toList) ∧
      (error.line = none → error.context = []) ∧
      ∀ line, error.line = some line → line + 2 < Nat.pow 2 64 →
        Surrounds (Text.lines source) line error.context ∧
        ∃ rows, error.Shows rows ∧ (rows.filter ShownLine.marked).map ShownLine.number =
          if 1 ≤ line ∧ line ≤ (Text.lines source).length then [line] else [] := by
  have context := diagnosed.context_eq
  refine ⟨Text.lined_lines source, fun unknown => ?_, fun line known fits => ?_⟩
  · rw [context, unknown]
    rfl
  · have surrounds : Surrounds (Text.lines source) line error.context := by
      rw [context, known]
      exact surrounds_excerpt source fits
    have ascending : (error.context.map Prod.fst).Pairwise (· < ·) := by
      rw [surrounds.consecutive]
      exact List.pairwise_lt_range'
    exact ⟨surrounds, error.rows, shows_rows ascending, marked_rows surrounds known⟩

/-- Eleven lines, the eighth of them with a carriage return. -/
def crossingSource : String := "a\nb\nc\nd\ne\nf\ng\nh\r\n\x7b\x7b/each\x7d\x7d\nj\nk"

def crossingFault : Template.Fault := .mismatchedBlock "if" "each" 9 1

/-- Around the ninth line the numbers get a second digit. -/
theorem diagnostics_show_lines_crossing :
    (crossingFault.diagnostic crossingSource none).line = some 9 ∧ 9 + 2 < Nat.pow 2 64 ∧
      (crossingFault.diagnostic crossingSource none).context =
        [(7, "g"), (8, "h"), (9, "\x7b\x7b/each\x7d\x7d"), (10, "j"), (11, "k")] ∧
      Surrounds (Text.lines crossingSource) 9 (crossingFault.diagnostic crossingSource none).context ∧
      ∃ rows, (crossingFault.diagnostic crossingSource none).Shows rows ∧
        (rows.filter ShownLine.marked).map ShownLine.number = [9] := by
  have diagnosed : Diagnosed crossingSource none (crossingFault.diagnostic crossingSource none) :=
    .fault crossingFault
  obtain ⟨_, _, around⟩ := diagnostics_show_lines diagnosed
  obtain ⟨surrounds, rows, shows, marks⟩ := around 9 rfl (by decide)
  exact ⟨rfl, by decide, by decide, surrounds, rows, shows, marks.trans (if_pos (by decide))⟩

end SyntaxError

end Stencil
