import Stencil.Proofs.SourceComposition

set_option autoImplicit false

/-!
What the tags of a source say, in order. Every tag that shows a value, opens a block or includes a partial
becomes an element of the template, and a walk through the template from its beginning meets them in the
order of the tags in the source: the main part of a block before its alternative, and chained blocks one
after the other (`speeches_of_read`).
-/

namespace Stencil.Template

/-! ### Speeches -/

/-- What a tag says, up to whether it opens a block of its own. -/
inductive Speech where
  | value (expression : Expression)
  | block (expression : Expression)
  | inclusion (expression : Expression)

namespace TagKind

def speech? : TagKind → Option Speech
  | value expression => some (.value expression)
  | opening expression _ => some (.block expression)
  | chain expression _ => some (.block expression)
  | rawOpening expression _ => some (.block expression)
  | inclusion expression => some (.inclusion expression)
  | inclusionOpening expression => some (.inclusion expression)
  | _ => none

end TagKind

mutual

/-- What the tags of an element say, those inside of it behind its own. -/
def Element.speeches : Element → List Speech
  | .value expression => [.value expression]
  | .block expression _ _ body inverse =>
    .block expression :: (elementSpeeches body ++ elementSpeeches inverse)
  | .inclusion expression _ _ => [.inclusion expression]
  | .inclusionBlock expression _ body => .inclusion expression :: elementSpeeches body
  | .decorationBlock _ body => elementSpeeches body
  | .text _ => []
  | .decoration _ => []
  | .comment _ => []

def elementSpeeches : List Element → List Speech
  | [] => []
  | element :: elements => element.speeches ++ elementSpeeches elements

end

@[simp] theorem elementSpeeches_nil : elementSpeeches [] = [] := by
  rw [elementSpeeches]

@[simp] theorem elementSpeeches_append (first second : List Element) :
    elementSpeeches (first ++ second) = elementSpeeches first ++ elementSpeeches second := by
  induction first with
  | nil => simp
  | cons element first ih => simp [elementSpeeches, ih]

@[simp] theorem elementSpeeches_singleton (element : Element) :
    elementSpeeches [element] = element.speeches := by
  simp [elementSpeeches]

/-! ### Nesting -/

def Opener.speeches : Opener → List Speech
  | .block expression _ _ => [.block expression]
  | .chained expression _ _ => [.block expression]
  | .raw expression _ _ => [.block expression]
  | .inclusion expression _ => [.inclusion expression]
  | .decoration _ => []

/-- What has been said in an open block. Only the blocks of helpers have a main part that ends before
them. -/
def Frame.speeches (frame : Frame) : List Speech :=
  frame.opener.speeches ++
    (match frame.opener with
      | .block _ _ _ => elementSpeeches (frame.main.getD [])
      | .chained _ _ _ => elementSpeeches (frame.main.getD [])
      | _ => []) ++ elementSpeeches frame.elements.reverse

/-- What has been said in open blocks, from the outermost on. -/
def framesSpeeches (frames : List Frame) : List Speech := frames.reverse.flatMap Frame.speeches

def Nesting.speeches (nesting : Nesting) : List Speech :=
  elementSpeeches nesting.elements.reverse ++ framesSpeeches nesting.frames

theorem framesSpeeches_cons (frame : Frame) (frames : List Frame) :
    framesSpeeches (frame :: frames) = framesSpeeches frames ++ frame.speeches := by
  simp [framesSpeeches]

theorem speeches_push (nesting : Nesting) (element : Element) :
    (nesting.push element).speeches = nesting.speeches ++ element.speeches := by
  obtain ⟨frames, elements, fault⟩ := nesting
  cases frames with
  | nil => simp [Nesting.push, Nesting.speeches, framesSpeeches]
  | cons frame frames =>
    simp [Nesting.push, Nesting.speeches, framesSpeeches_cons, Frame.speeches]

theorem speeches_enter (nesting : Nesting) (opener : Opener) :
    (nesting.enter opener).speeches = nesting.speeches ++ opener.speeches := by
  have opened : Frame.speeches ⟨opener, none, []⟩ = opener.speeches := by
    cases opener <;> simp [Frame.speeches]
  simp [Nesting.enter, Nesting.speeches, framesSpeeches_cons, opened]

/-- Ending the main part of a block says nothing. -/
theorem speeches_turn {frame : Frame} (main : frame.isOpenMain = true) :
    frame.turn.speeches = frame.speeches := by
  obtain ⟨opener, main?, elements⟩ := frame
  simp only [Frame.isOpenMain, Bool.and_eq_true, Option.isNone_iff_eq_none] at main
  obtain ⟨rfl, block⟩ := main
  cases opener with
  | block expression params indented => simp [Frame.turn, Frame.speeches]
  | chained expression params indented => simp [Frame.turn, Frame.speeches]
  | _ => cases block

/-- An element inside of a block behind all others. -/
theorem speeches_filled (frame : Frame) (inner : Option Element) :
    (frame.filled inner).speeches = frame.speeches ++ elementSpeeches inner.toList := by
  obtain ⟨opener, main, elements⟩ := frame
  cases inner <;> simp [Frame.filled, Frame.speeches]

/-- A block whose main part has ended or not says what its parts say. -/
theorem speeches_parts {frame : Frame} {expression : Expression} {params : List String}
    {indented : Bool} (opener : frame.opener = .block expression params indented ∨
      frame.opener = .chained expression params indented) :
    (Element.block expression params indented frame.parts.1 frame.parts.2).speeches =
      frame.speeches := by
  obtain ⟨opened, main, elements⟩ := frame
  rcases opener with rfl | rfl <;> cases main <;>
    simp [Frame.parts, Frame.speeches, Opener.speeches, Element.speeches]

/-- Closing a block with those chained to it says nothing. -/
theorem speeches_closeChain (frames : List Frame) : ∀ (inner : Option Element) expression element rest,
    closeChain inner frames = some (expression, element, rest) →
    framesSpeeches rest ++ element.speeches = framesSpeeches frames ++ elementSpeeches inner.toList := by
  induction frames with
  | nil =>
    intro inner expression element rest closed
    cases closed
  | cons frame frames ih =>
    intro inner expression element rest closed
    rw [closeChain_cons] at closed
    rw [framesSpeeches_cons, List.append_assoc, ← speeches_filled]
    split at closed
    · rename_i found params indented opened
      have chained := ih _ _ _ _ closed
      rw [Option.toList_some, elementSpeeches_singleton,
        @speeches_parts (frame.filled inner) _ _ _ (Or.inr opened)] at chained
      exact chained
    · rename_i found params indented opened
      cases closed
      rw [@speeches_parts (frame.filled inner) _ _ _ (Or.inl opened)]
    · cases closed

theorem speeches_note (nesting : Nesting) (fault : Option Fault) :
    (nesting.note fault).speeches = nesting.speeches := rfl

/-- A closed block is an element behind all others. -/
theorem speeches_close {nesting : Nesting} {frames : List Frame} {element : Element}
    {fault : Option Fault}
    (same : framesSpeeches frames ++ element.speeches = framesSpeeches nesting.frames) :
    (({ nesting with frames }.note fault).push element).speeches = nesting.speeches := by
  rw [speeches_push, speeches_note, Nesting.speeches, Nesting.speeches, List.append_assoc, same]

theorem speeches_closeHelper {nesting next : Nesting} {tag : Tag} {helper : Option String}
    (closed : (helper.bind fun name =>
      (closeChain none nesting.frames).map fun (expression, element, rest) =>
        nesting.closeBlock tag name expression element rest) = some next) :
    next.speeches = nesting.speeches := by
  obtain ⟨name, _, closed⟩ := Option.bind_eq_some_iff.mp closed
  obtain ⟨⟨expression, element, rest⟩, found, rfl⟩ := Option.map_eq_some_iff.mp closed
  apply speeches_close
  simpa using speeches_closeChain _ none _ _ _ found

theorem speeches_close? {nesting next : Nesting} {tag : Tag} {helper included : Option String}
    (closed : nesting.close? tag helper included = some next) : next.speeches = nesting.speeches := by
  obtain ⟨frames, elements, fault⟩ := nesting
  cases frames with
  | nil => cases closed
  | cons frame frames =>
    obtain ⟨opener, main, inner⟩ := frame
    cases opener with
    | inclusion expression indented =>
      obtain ⟨name, _, rfl⟩ := Option.map_eq_some_iff.mp closed
      apply speeches_close
      simp [framesSpeeches_cons, Frame.speeches, Opener.speeches, Element.speeches]
    | decoration expression =>
      obtain ⟨name, _, rfl⟩ := Option.map_eq_some_iff.mp closed
      apply speeches_close
      simp [framesSpeeches_cons, Frame.speeches, Opener.speeches, Element.speeches]
    | raw expression params indented => cases closed
    | block expression params indented => exact speeches_closeHelper closed
    | chained expression params indented => exact speeches_closeHelper closed

theorem speeches_turned {nesting : Nesting} {frame : Frame} {frames : List Frame}
    (same : nesting.frames = frame :: frames) (main : frame.isOpenMain = true) :
    ({ nesting with frames := frame.turn :: frames } : Nesting).speeches = nesting.speeches := by
  rw [Nesting.speeches, Nesting.speeches, same, framesSpeeches_cons, framesSpeeches_cons,
    speeches_turn main]

theorem speeches_tag? {nesting next : Nesting} {tag : Tag} (added : nesting.tag? tag = some next) :
    next.speeches = nesting.speeches ++ tag.kind.speech?.toList := by
  have noted := speeches_note nesting (tag.invalid.map fun invalid => .invalidLiteral invalid.text)
  rw [← noted]
  unfold Nesting.tag? at added
  dsimp only at added
  generalize nesting.note (tag.invalid.map fun invalid => .invalidLiteral invalid.text) = nesting at *
  -- A tag adds an element, opens a block, or ends a block or its main part, which says nothing.
  cases kind : tag.kind <;> rw [kind] at added <;> dsimp only at added
  case value | inclusion | decoration | comment =>
    cases added
    exact speeches_push nesting _
  case opening | rawOpening | inclusionOpening | decorationOpening =>
    cases added
    exact speeches_enter nesting _
  case otherwise =>
    split at added
    · rename_i frame frames same
      split at added
      · rename_i main
        cases added
        simpa [TagKind.speech?] using speeches_turned same main
      · cases added
    · cases added
  case chain expression params =>
    split at added
    · rename_i frame frames same
      split at added
      · rename_i main
        cases added
        rw [speeches_enter, speeches_turned same main]
        rfl
      · cases added
    · cases added
  case closing helper included => simpa [TagKind.speech?] using speeches_close? added
  case rawClosing name =>
    split at added
    · rename_i expression params indented main elements frames same
      cases added
      have silent : (TagKind.rawClosing name).speech?.toList = [] := rfl
      rw [silent, List.append_nil]
      apply speeches_close
      rw [same]
      simp [framesSpeeches_cons, Frame.speeches, Opener.speeches, Element.speeches]
    · cases added

theorem speeches_token? {nesting next : Nesting} {token : Token}
    (added : nesting.token? token = some next) :
    next.speeches = nesting.speeches ++ (contents [token]).filterMap fun content =>
      content.1.speech? := by
  cases token with
  | tag tag =>
    rw [speeches_tag? added]
    cases spoken : tag.kind.speech? <;> simp [contents, Tag.content, spoken]
  | text text =>
    cases added
    exact speeches_push nesting _
  | gap text =>
    cases added
    exact speeches_push nesting _
  | raw text =>
    cases added
    exact speeches_push nesting _

theorem speeches_foldlM (tokens : List Token) : ∀ nesting next : Nesting,
    tokens.foldlM Nesting.token? nesting = some next →
    next.speeches = nesting.speeches ++ (contents tokens).filterMap fun content =>
      content.1.speech? := by
  induction tokens with
  | nil =>
    intro nesting next added
    cases added
    simp [contents]
  | cons token tokens ih =>
    intro nesting next added
    rw [List.foldlM_cons] at added
    obtain ⟨middle, first, further⟩ := Option.bind_eq_some_iff.mp added
    have split : contents (token :: tokens) = contents [token] ++ contents tokens :=
      contents_append [token] tokens
    rw [ih middle next further, speeches_token? first, split, List.filterMap_append,
      List.append_assoc]

/-- A walk through a template that a source is read to meets what the tags of the source say, in their
order. -/
theorem speeches_of_read {source : String} {template : Template} (done : read source = .ok template) :
    elementSpeeches template = (tagsOf source).filterMap fun content => content.1.speech? := by
  obtain ⟨tokens, found, nested⟩ := tokens_of_read done
  have same : contents (spacedTokens tokens) = contents tokens := contents_spaced tokens _
  rw [tagsOf, found, Option.map_some, Option.getD_some, ← same]
  have speeches := speeches_foldlM _ _ _ (nest_eq_ok nested)
  simpa [Nesting.speeches, Nesting.start, framesSpeeches] using speeches

end Stencil.Template
