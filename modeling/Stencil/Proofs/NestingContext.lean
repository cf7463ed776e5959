import Stencil.Extraction.Summary
import Stencil.Proofs.TokenContext
import Stencil.Proofs.Walking

set_option autoImplicit false

/-!
Templates up to text. What a template is apart from its text and its blanks depends on the tags of its
source alone (`foldlM_token?_bare`), and tags that were nested from an empty state nest alike behind a
template. So tokens with the tags of two templates nest to a template with their elements in order
(`nest_append`), and it has the references of both.
-/

namespace Stencil.Template

/-! ### Elements without text -/

mutual

/-- An element without text and comments, and without what its surroundings decide. -/
def Element.bare : Element → List Element
  | .text _ => []
  | .comment _ => []
  | .value expression => [.value expression]
  | .block expression params _ body inverse =>
    [.block expression params false (bareElements body) (bareElements inverse)]
  | .inclusion expression _ _ => [.inclusion expression false none]
  | .inclusionBlock expression _ body => [.inclusionBlock expression false (bareElements body)]
  | .decoration expression => [.decoration expression]
  | .decorationBlock expression body => [.decorationBlock expression (bareElements body)]

def bareElements : List Element → List Element
  | [] => []
  | element :: elements => element.bare ++ bareElements elements

end

@[simp] theorem bareElements_nil : bareElements [] = [] := rfl

@[simp] theorem bareElements_cons (element : Element) (elements : List Element) :
    bareElements (element :: elements) = element.bare ++ bareElements elements := rfl

@[simp] theorem bareElements_append (first second : List Element) :
    bareElements (first ++ second) = bareElements first ++ bareElements second := by
  induction first with
  | nil => rfl
  | cons element first ih => simp [ih]

@[simp] theorem Element.bare_reverse (element : Element) : element.bare.reverse = element.bare := by
  cases element <;> rfl

@[simp] theorem bareElements_reverse (elements : List Element) :
    bareElements elements.reverse = (bareElements elements).reverse := by
  induction elements with
  | nil => rfl
  | cons element elements ih => simp [ih]

mutual

@[simp] theorem Element.bare_bare : ∀ element : Element, bareElements element.bare = element.bare
  | .text _ => rfl
  | .comment _ => rfl
  | .value _ => rfl
  | .block _ _ _ body inverse => by
    simp [Element.bare, bareElements_bareElements body, bareElements_bareElements inverse]
  | .inclusion _ _ _ => rfl
  | .inclusionBlock _ _ body => by simp [Element.bare, bareElements_bareElements body]
  | .decoration _ => rfl
  | .decorationBlock _ body => by simp [Element.bare, bareElements_bareElements body]

@[simp] theorem bareElements_bareElements : ∀ elements : List Element,
    bareElements (bareElements elements) = bareElements elements
  | [] => rfl
  | element :: elements => by simp [Element.bare_bare element, bareElements_bareElements elements]

end

/-! ### States without text -/

/-- A fault at no place. -/
def Fault.bare (_ : Fault) : Fault := .invalidLiteral ""

def Opener.bare : Opener → Opener
  | block expression params _ => block expression params false
  | chained expression params _ => chained expression params false
  | raw expression params _ => raw expression params false
  | inclusion expression _ => inclusion expression false
  | decoration expression => decoration expression

def Frame.bare (frame : Frame) : Frame :=
  ⟨frame.opener.bare, frame.main.map bareElements, bareElements frame.elements⟩

/-- A state of nesting without text, and with faults at no place. -/
def Nesting.bare (nesting : Nesting) : Nesting :=
  ⟨nesting.frames.map Frame.bare, bareElements nesting.elements, nesting.fault.map Fault.bare⟩

@[simp] theorem Fault.bare_bare (fault : Fault) : fault.bare.bare = fault.bare := rfl

@[simp] theorem Opener.bare_bare (opener : Opener) : opener.bare.bare = opener.bare := by
  cases opener <;> rfl

@[simp] theorem Frame.bare_bare (frame : Frame) : frame.bare.bare = frame.bare := by
  cases frame with
  | mk opener main elements => cases main <;> simp [Frame.bare]

@[simp] theorem Nesting.bare_bare (nesting : Nesting) : nesting.bare.bare = nesting.bare := by
  cases nesting with
  | mk frames elements fault =>
    cases fault <;> simp [Nesting.bare, Function.comp_def]

/-- A state in which the open blocks are without text, of another state. -/
structure Bares (n m : Nesting) : Prop where
  frames : m.frames = n.frames.map Frame.bare
  elements : bareElements m.elements = bareElements n.elements
  fault : m.fault.map Fault.bare = n.fault.map Fault.bare

theorem Nesting.bares (n : Nesting) : Bares n n.bare := by
  refine ⟨rfl, by simp [Nesting.bare], ?_⟩
  cases fault : n.fault <;> simp [Nesting.bare, fault]

namespace Bares

variable {n m : Nesting} (bares : Bares n m)

include bares

theorem bare : m.bare = n.bare := by
  simp [Nesting.bare, bares.frames, bares.elements, bares.fault, Function.comp_def]

theorem note {f g : Option Fault} (same : g.map Fault.bare = f.map Fault.bare) :
    Bares (n.note f) (m.note g) := by
  refine ⟨bares.frames, bares.elements, ?_⟩
  simp only [Nesting.note, Option.map_or, bares.fault, same]

theorem withFrames (frames : List Frame) :
    Bares { n with frames } { m with frames := frames.map Frame.bare } :=
  ⟨rfl, bares.elements, bares.fault⟩

theorem push {e d : Element} (same : d.bare = e.bare) : (m.push d).bare = (n.push e).bare := by
  unfold Nesting.push
  rw [bares.frames]
  cases n.frames with
  | nil => simp [Nesting.bare, bares.elements, bares.fault, same]
  | cons frame frames =>
    simp [Nesting.bare, bares.elements, bares.fault, same, Frame.bare, Function.comp_def]

theorem enter {e d : Opener} (same : d.bare = e.bare) : (m.enter d).bare = (n.enter e).bare := by
  simp [Nesting.enter, Nesting.bare, bares.frames, bares.elements, bares.fault, same, Frame.bare,
    Function.comp_def]

end Bares

@[simp] theorem Frame.isOpenMain_bare (frame : Frame) : frame.bare.isOpenMain = frame.isOpenMain := by
  cases frame with
  | mk opener main elements => cases opener <;> cases main <;> rfl

@[simp] theorem Frame.turn_bare (frame : Frame) : frame.bare.turn = frame.turn.bare := by
  simp [Frame.turn, Frame.bare]

/-! ### Closing blocks -/

/-- A frame with an element that was chained to it. -/
def Frame.filled (frame : Frame) (inner : Option Element) : Frame :=
  { frame with elements := inner.toList ++ frame.elements }

/-- The main part and the alternative of a block are those of its frame. -/
theorem Frame.parts_bare (frame : Frame) {inner other : Option Element}
    (same : bareElements other.toList = bareElements inner.toList) :
    bareElements (frame.bare.filled other).parts.1 = bareElements (frame.filled inner).parts.1 ∧
      bareElements (frame.bare.filled other).parts.2 = bareElements (frame.filled inner).parts.2 := by
  cases frame with
  | mk opener main elements =>
    cases main <;> simp [Frame.parts, Frame.filled, Frame.bare, same]

theorem closeChain_cons (inner : Option Element) (frame : Frame) (frames : List Frame) :
    closeChain inner (frame :: frames) =
      match frame.opener with
      | .chained expression params indented =>
        closeChain (some (.block expression params indented (frame.filled inner).parts.1
          (frame.filled inner).parts.2)) frames
      | .block expression params indented =>
        some (expression, .block expression params indented (frame.filled inner).parts.1
          (frame.filled inner).parts.2, frames)
      | _ => none := rfl

theorem closeChain_bare (frames : List Frame) : ∀ inner other : Option Element,
    bareElements other.toList = bareElements inner.toList →
    ((closeChain other (frames.map Frame.bare)).map fun closed =>
        (closed.1, closed.2.1.bare, closed.2.2)) =
      (closeChain inner frames).map fun closed =>
        (closed.1, closed.2.1.bare, closed.2.2.map Frame.bare) := by
  induction frames with
  | nil => exact fun _ _ _ => rfl
  | cons frame frames ih =>
    intro inner other same
    obtain ⟨main, inverse⟩ := frame.parts_bare same
    rw [List.map_cons, closeChain_cons, closeChain_cons]
    have opener : frame.bare.opener = frame.opener.bare := rfl
    rw [opener]
    cases frame.opener with
    | chained expression params indented =>
      refine ih _ _ ?_
      simp [Element.bare, main, inverse]
    | block expression params indented =>
      simp [Opener.bare, Element.bare, main, inverse]
    | _ => rfl

section

variable {n m : Nesting} {tag : Tag} (bares : Bares n m) (name : String) (expression : Expression)
  {e d : Element} (same : d.bare = e.bare) (frames : List Frame)

include bares same

theorem closeBlock_bare (other : Tag) :
    (m.closeBlock other name expression d (frames.map Frame.bare)).bare =
      (n.closeBlock tag name expression e frames).bare := by
  refine ((bares.withFrames frames).note ?_).push same
  by_cases agrees : (expression.head.name? == some name) = true
  · rw [if_pos agrees, if_pos agrees]
  · rw [if_neg agrees, if_neg agrees]
    rfl

theorem closeDecoration_bare (other : Tag) :
    (m.closeDecoration other name expression d (frames.map Frame.bare)).bare =
      (n.closeDecoration tag name expression e frames).bare := by
  refine ((bares.withFrames frames).note ?_).push same
  by_cases agrees : (name.isEmpty || expression.head.name? == some name) = true
  · rw [if_pos agrees, if_pos agrees]
  · rw [if_neg agrees, if_neg agrees]
    rfl

end

/-- Chains of blocks close alike in states without text. -/
theorem closeChain_closeBlock_bare {n m : Nesting} (bares : Bares n m) (tag other : Tag)
    (frames : List Frame) (name : String) :
    ((closeChain none (frames.map Frame.bare)).map fun (expression, element, rest) =>
        m.closeBlock other name expression element rest).map Nesting.bare =
      ((closeChain none frames).map fun (expression, element, rest) =>
        n.closeBlock tag name expression element rest).map Nesting.bare := by
  have same := closeChain_bare frames none none rfl
  cases closed : closeChain none frames with
  | none =>
    rw [closed, Option.map_none, Option.map_eq_none_iff] at same
    rw [same]
    rfl
  | some found =>
    rw [closed, Option.map_some] at same
    obtain ⟨⟨expression, element, rest⟩, bare, same⟩ := Option.map_eq_some_iff.mp same
    obtain ⟨rfl, same⟩ := Prod.mk.inj same
    obtain ⟨same, rfl⟩ := Prod.mk.inj same
    rw [bare]
    exact congrArg some (closeBlock_bare bares name _ same _ other)

/-- Blocks close alike in states without text. -/
theorem close?_bare {n m : Nesting} (bares : Bares n m) (tag other : Tag)
    (helper included : Option String) :
    (m.close? other helper included).map Nesting.bare =
      (n.close? tag helper included).map Nesting.bare := by
  unfold Nesting.close?
  rw [bares.frames]
  cases frames_eq : n.frames with
  | nil => rfl
  | cons frame frames =>
    have opener : frame.bare.opener = frame.opener.bare := rfl
    have elements : frame.bare.elements = bareElements frame.elements := rfl
    have chain := closeChain_closeBlock_bare bares tag other (frame :: frames)
    rw [List.map_cons] at chain ⊢
    dsimp only
    rw [opener, elements]
    cases frame.opener with
    | inclusion expression indented =>
      cases included with
      | none => rfl
      | some name =>
        refine congrArg some (closeDecoration_bare bares name expression ?_ frames other)
        simp [Element.bare]
    | decoration expression =>
      cases helper with
      | none => rfl
      | some name =>
        refine congrArg some (closeDecoration_bare bares name expression ?_ frames other)
        simp [Element.bare]
    | raw expression params indented => rfl
    | block expression params indented =>
      cases helper with
      | none => rfl
      | some name => exact chain name
    | chained expression params indented =>
      cases helper with
      | none => rfl
      | some name => exact chain name

/-! ### Tokens -/

/-- A tag at no place. -/
def Tag.of (content : Content) : Tag := ⟨content.1, content.2, false, false, [], []⟩

/-- What a tag adds to a state depends, without text, on what it does alone. -/
theorem tag?_bare {n m : Nesting} (bares : Bares n m) (tag : Tag) :
    (m.tag? (Tag.of tag.content)).map Nesting.bare = (n.tag? tag).map Nesting.bare := by
  have noted : Bares (n.note (tag.invalid.map fun invalid => .invalidLiteral invalid.text))
      (m.note (tag.invalid.map fun invalid => .invalidLiteral invalid.text)) := bares.note rfl
  obtain ⟨kind, invalid, trimsBefore, trimsAfter, before, after⟩ := tag
  unfold Nesting.tag? Tag.of Tag.content
  dsimp only at noted ⊢
  generalize n.note (invalid.map fun invalid => .invalidLiteral invalid.text) = n at noted ⊢
  generalize m.note (invalid.map fun invalid => .invalidLiteral invalid.text) = m at noted ⊢
  cases kind with
  | value expression => exact congrArg some (noted.push rfl)
  | inclusion expression => exact congrArg some (noted.push rfl)
  | decoration expression => exact congrArg some (noted.push rfl)
  | comment text => exact congrArg some (noted.push rfl)
  | opening expression params => exact congrArg some (noted.enter rfl)
  | rawOpening expression params => exact congrArg some (noted.enter rfl)
  | inclusionOpening expression => exact congrArg some (noted.enter rfl)
  | decorationOpening expression => exact congrArg some (noted.enter rfl)
  | closing helper included => exact close?_bare noted _ _ helper included
  | otherwise =>
    rw [noted.frames]
    cases n.frames with
    | nil => rfl
    | cons frame frames =>
      have turned := noted.withFrames (frame.turn :: frames)
      simp only [List.map_cons, Frame.isOpenMain_bare, Frame.turn_bare] at turned ⊢
      split
      · exact congrArg some turned.bare
      · rfl
  | chain expression params =>
    rw [noted.frames]
    cases n.frames with
    | nil => rfl
    | cons frame frames =>
      have turned := noted.withFrames (frame.turn :: frames)
      simp only [List.map_cons, Frame.isOpenMain_bare, Frame.turn_bare] at turned ⊢
      split
      · exact congrArg some (turned.enter rfl)
      · rfl
  | rawClosing name =>
    rw [noted.frames]
    cases n.frames with
    | nil => rfl
    | cons frame frames =>
      obtain ⟨opener, main, elements⟩ := frame
      cases opener with
      | raw expression params indented =>
        refine congrArg some (closeBlock_bare noted name expression ?_ frames _)
        simp [Element.bare]
      | _ => rfl

/-- What tags add to a state without text. -/
def Nesting.outline? (nesting : Nesting) (content : Content) : Option Nesting :=
  (nesting.tag? (Tag.of content)).map Nesting.bare

/-- What tokens add to a state depends, without text, on their tags alone. -/
theorem foldlM_token?_bare (tokens : List Token) : ∀ nesting : Nesting,
    (tokens.foldlM Nesting.token? nesting).map Nesting.bare =
      (contents tokens).foldlM Nesting.outline? nesting.bare := by
  induction tokens with
  | nil => exact fun _ => rfl
  | cons token tokens ih =>
    have silent : ∀ (nesting : Nesting) (text : String),
        (nesting.push (.text text)).bare = nesting.bare := by
      intro nesting text
      obtain ⟨frames, elements, fault⟩ := nesting
      cases frames with
      | nil => simp [Nesting.push, Nesting.bare, Element.bare]
      | cons frame frames => simp [Nesting.push, Nesting.bare, Frame.bare, Element.bare]
    intro nesting
    rw [List.foldlM_cons]
    cases token with
    | tag tag =>
      have step := tag?_bare nesting.bares tag
      rw [contents, List.foldlM_cons, Nesting.outline?, step]
      cases added : nesting.tag? tag with
      | none => simp [Nesting.token?, added]
      | some next => simp [Nesting.token?, added, ih]
    | text text => simp [Nesting.token?, contents, ih, silent]
    | gap text => simp [Nesting.token?, contents, ih, silent]
    | raw text => simp [Nesting.token?, contents, ih, silent]

/-! ### Behind other elements -/

/-- A state behind elements that were read before. -/
def Nesting.behind (nesting : Nesting) (done : List Element) : Nesting :=
  { nesting with elements := nesting.elements ++ done }

section

variable (nesting : Nesting) (done : List Element)

theorem push_behind (element : Element) :
    (nesting.behind done).push element = (nesting.push element).behind done := by
  unfold Nesting.push Nesting.behind
  cases nesting.frames <;> rfl

theorem closeBlock_behind (tag : Tag) (name : String) (expression : Expression) (element : Element)
    (frames : List Frame) : (nesting.behind done).closeBlock tag name expression element frames =
      (nesting.closeBlock tag name expression element frames).behind done := by
  unfold Nesting.closeBlock
  exact push_behind ({ nesting with frames }.note _) done element

theorem closeDecoration_behind (tag : Tag) (name : String) (expression : Expression)
    (element : Element) (frames : List Frame) :
    (nesting.behind done).closeDecoration tag name expression element frames =
      (nesting.closeDecoration tag name expression element frames).behind done := by
  unfold Nesting.closeDecoration
  exact push_behind ({ nesting with frames }.note _) done element

theorem close?_behind (tag : Tag) (helper included : Option String) :
    (nesting.behind done).close? tag helper included =
      (nesting.close? tag helper included).map (·.behind done) := by
  unfold Nesting.close?
  have frames : (nesting.behind done).frames = nesting.frames := rfl
  rw [frames]
  split
  · rfl
  · split
    · simp [closeDecoration_behind, Function.comp_def]
    · simp [closeDecoration_behind, Function.comp_def]
    · rfl
    · cases helper with
      | none => rfl
      | some name => simp [closeBlock_behind, Function.comp_def]

theorem tag?_behind (tag : Tag) :
    (nesting.behind done).tag? tag = (nesting.tag? tag).map (·.behind done) := by
  obtain ⟨kind, invalid, trimsBefore, trimsAfter, before, after⟩ := tag
  have noted : (nesting.behind done).note (invalid.map fun invalid => .invalidLiteral invalid.text) =
      (nesting.note (invalid.map fun invalid => .invalidLiteral invalid.text)).behind done := rfl
  unfold Nesting.tag?
  dsimp only
  rw [noted]
  generalize nesting.note (invalid.map fun invalid => .invalidLiteral invalid.text) = nesting
  have frames : (nesting.behind done).frames = nesting.frames := rfl
  cases kind with
  | value expression => exact congrArg some (push_behind nesting done _)
  | inclusion expression => exact congrArg some (push_behind nesting done _)
  | decoration expression => exact congrArg some (push_behind nesting done _)
  | comment text => exact congrArg some (push_behind nesting done _)
  | closing helper included => exact close?_behind nesting done _ helper included
  | otherwise =>
    dsimp only
    rw [frames]
    cases nesting.frames with
    | nil => rfl
    | cons frame frames =>
      dsimp only
      split <;> rfl
  | chain expression params =>
    dsimp only
    rw [frames]
    cases nesting.frames with
    | nil => rfl
    | cons frame frames =>
      dsimp only
      split <;> rfl
  | rawClosing name =>
    dsimp only
    rw [frames]
    cases nesting.frames with
    | nil => rfl
    | cons frame frames =>
      obtain ⟨opener, main, elements⟩ := frame
      cases opener with
      | raw expression params indented =>
        exact congrArg some (closeBlock_behind nesting done _ name expression _ frames)
      | _ => rfl
  | _ => rfl

theorem token?_behind (token : Token) :
    (nesting.behind done).token? token = (nesting.token? token).map (·.behind done) := by
  cases token with
  | tag tag => exact tag?_behind nesting done tag
  | text text => exact congrArg some (push_behind nesting done _)
  | gap text => exact congrArg some (push_behind nesting done _)
  | raw text => exact congrArg some (push_behind nesting done _)

end

/-- Tokens nest alike behind elements. -/
theorem foldlM_token?_behind (done : List Element) (tokens : List Token) : ∀ nesting : Nesting,
    tokens.foldlM Nesting.token? (nesting.behind done) =
      (tokens.foldlM Nesting.token? nesting).map (·.behind done) := by
  induction tokens with
  | nil => exact fun _ => rfl
  | cons token tokens ih =>
    intro nesting
    rw [List.foldlM_cons, List.foldlM_cons, token?_behind]
    cases nesting.token? token with
    | none => rfl
    | some next => exact ih next

/-! ### Faults -/

section

variable {nesting next : Nesting} {tag : Tag}

theorem fault_push (nesting : Nesting) (element : Element) :
    (nesting.push element).fault = nesting.fault := by
  unfold Nesting.push
  cases nesting.frames <;> rfl

theorem fault_note {fault : Option Fault} (sound : (nesting.note fault).fault = none) :
    nesting.fault = none ∧ fault = none := Option.or_eq_none_iff.mp sound

theorem fault_closeBlock {name : String} {expression : Expression} {element : Element}
    {frames : List Frame}
    (sound : (nesting.closeBlock tag name expression element frames).fault = none) :
    nesting.fault = none := by
  simp only [Nesting.closeBlock, fault_push] at sound
  exact (fault_note sound).1

theorem fault_closeDecoration {name : String} {expression : Expression} {element : Element}
    {frames : List Frame}
    (sound : (nesting.closeDecoration tag name expression element frames).fault = none) :
    nesting.fault = none := by
  simp only [Nesting.closeDecoration, fault_push] at sound
  exact (fault_note sound).1

theorem fault_close? {helper included : Option String}
    (closed : nesting.close? tag helper included = some next) (sound : next.fault = none) :
    nesting.fault = none := by
  unfold Nesting.close? at closed
  split at closed
  · cases closed
  · split at closed
    · obtain ⟨name, _, rfl⟩ := Option.map_eq_some_iff.mp closed
      exact fault_closeDecoration sound
    · obtain ⟨name, _, rfl⟩ := Option.map_eq_some_iff.mp closed
      exact fault_closeDecoration sound
    · cases closed
    · obtain ⟨name, _, closed⟩ := Option.bind_eq_some_iff.mp closed
      obtain ⟨⟨expression, element, rest⟩, _, rfl⟩ := Option.map_eq_some_iff.mp closed
      exact fault_closeBlock sound

/-- A tag keeps faults, and adds one if a literal in it is no data. -/
theorem fault_tag? (added : nesting.tag? tag = some next) (sound : next.fault = none) :
    nesting.fault = none ∧ tag.invalid = none := by
  obtain ⟨kind, invalid, trimsBefore, trimsAfter, before, after⟩ := tag
  suffices (nesting.note (invalid.map fun invalid => .invalidLiteral invalid.text)).fault = none by
    obtain ⟨first, valid⟩ := fault_note this
    exact ⟨first, Option.map_eq_none_iff.mp valid⟩
  unfold Nesting.tag? at added
  dsimp only at added
  generalize nesting.note (invalid.map fun invalid => .invalidLiteral invalid.text) = nesting at added ⊢
  cases kind with
  | closing helper included => exact fault_close? added sound
  | otherwise =>
    dsimp only at added
    split at added
    · split at added
      · cases added
        exact sound
      · cases added
    · cases added
  | chain expression params =>
    dsimp only at added
    split at added
    · split at added
      · cases added
        exact sound
      · cases added
    · cases added
  | rawClosing name =>
    dsimp only at added
    split at added
    · cases added
      exact fault_closeBlock sound
    · cases added
  | _ =>
    cases added
    first
      | exact sound
      | rwa [fault_push] at sound

theorem fault_token? {token : Token} (added : nesting.token? token = some next)
    (sound : next.fault = none) :
    nesting.fault = none ∧ ∀ tag, token = .tag tag → tag.invalid = none := by
  cases token with
  | tag tag =>
    obtain ⟨first, valid⟩ := fault_tag? added sound
    refine ⟨first, fun other same => ?_⟩
    cases same
    exact valid
  | _ =>
    cases added
    rw [fault_push] at sound
    exact ⟨sound, fun other same => by cases same⟩

/-- Without faults all literals are data. -/
theorem valid_of_foldlM (tokens : List Token) : ∀ nesting next : Nesting,
    tokens.foldlM Nesting.token? nesting = some next → next.fault = none →
    nesting.fault = none ∧ ∀ tag, .tag tag ∈ tokens → tag.invalid = none := by
  induction tokens with
  | nil =>
    intro nesting next added sound
    cases added
    exact ⟨sound, fun tag member => absurd member List.not_mem_nil⟩
  | cons token tokens ih =>
    intro nesting next added sound
    rw [List.foldlM_cons] at added
    obtain ⟨middle, first, rest⟩ := Option.bind_eq_some_iff.mp added
    obtain ⟨middle_sound, valid⟩ := ih middle next rest sound
    obtain ⟨start_sound, head⟩ := fault_token? first middle_sound
    refine ⟨start_sound, fun tag member => ?_⟩
    rcases List.mem_cons.mp member with same | member
    · exact head tag same.symm
    · exact valid tag member

end

/-! ### Templates one after the other -/

theorem contents_append (first second : List Token) :
    contents (first ++ second) = contents first ++ contents second := by
  induction first with
  | nil => rfl
  | cons token first ih => cases token <;> simp [contents, ih]

/-- Removing blanks keeps what the tags do. -/
theorem contents_spaced (tokens : List Token) :
    ∀ spacing, contents (spaced spacing tokens) = contents tokens := by
  induction tokens with
  | nil => exact fun _ => rfl
  | cons token tokens ih =>
    intro spacing
    cases token with
    | tag tag => simp [spaced, contents, ih]
    | raw text => simp [spaced, contents, ih]
    | text text => simp [spaced, contents, ih]
    | gap text =>
      rw [spaced]
      split <;> simp [contents, ih]

/-- Nothing was read. -/
def Nesting.start : Nesting := ⟨[], [], none⟩

theorem nest_eq_ok {tokens : List Token} {template : Template} (nested : nest tokens = .ok template) :
    tokens.foldlM Nesting.token? Nesting.start = some ⟨[], template.reverse, none⟩ := by
  unfold nest at nested
  split at nested
  · rename_i elements found
    cases nested
    rw [List.reverse_reverse]
    exact found
  · cases nested
  · cases nested

/-- Tokens with the tags of two templates nest to a template with the elements of both, up to text. -/
theorem nest_append {tokens first second : List Token} {left right : Template}
    (same : contents tokens = contents first ++ contents second) (one : nest first = .ok left)
    (two : nest second = .ok right) : ∃ template, nest tokens = .ok template ∧
      bareElements template = bareElements left ++ bareElements right := by
  have whole : (first ++ second).foldlM Nesting.token? Nesting.start =
      some ⟨[], right.reverse ++ left.reverse, none⟩ := by
    have further := foldlM_token?_behind left.reverse second Nesting.start
    rw [nest_eq_ok two] at further
    rw [List.foldlM_append, nest_eq_ok one]
    exact further
  have bare := foldlM_token?_bare tokens Nesting.start
  rw [same, ← contents_append, ← foldlM_token?_bare, whole] at bare
  obtain ⟨⟨frames, elements, fault⟩, nested, alike⟩ := Option.map_eq_some_iff.mp bare
  simp only [Nesting.bare, Nesting.mk.injEq, List.map_eq_nil_iff, List.map_nil, Option.map_none,
    Option.map_eq_none_iff] at alike
  obtain ⟨rfl, elements_eq, rfl⟩ := alike
  refine ⟨elements.reverse, ?_, ?_⟩
  · rw [nest, show (⟨[], [], none⟩ : Nesting) = Nesting.start from rfl, nested]
  · simp [elements_eq]

end Stencil.Template

namespace Stencil.Extraction

open Template (Element bareElements)

/-! ### References -/

theorem templateReferences_append (around : Surroundings) (first second : List Element) :
    templateReferences around (first ++ second) =
      templateReferences around first ++ templateReferences around second := by
  induction first with
  | nil => rfl
  | cons element first ih => simp [templateReferences, ih]

mutual

theorem references_bare : ∀ (around : Surroundings) (element : Element),
    templateReferences around element.bare = elementReferences around element
  | _, .text _ => rfl
  | _, .comment _ => rfl
  | _, .value _ => by simp [Element.bare, templateReferences]
  | around, .block expression params _ body inverse => by
    simp [Element.bare, templateReferences, elementReferences, templateReferences_bare _ body,
      templateReferences_bare _ inverse]
  | _, .inclusion _ _ _ => rfl
  | around, .inclusionBlock _ _ body => by
    simp [Element.bare, templateReferences, elementReferences, templateReferences_bare _ body]
  | _, .decoration _ => rfl
  | around, .decorationBlock _ body => by
    simp [Element.bare, templateReferences, elementReferences, templateReferences_bare _ body]

/-- Text has no references. -/
theorem templateReferences_bare : ∀ (around : Surroundings) (elements : List Element),
    templateReferences around (bareElements elements) = templateReferences around elements
  | _, [] => rfl
  | around, element :: elements => by
    simp [templateReferences_append, templateReferences, references_bare around element,
      templateReferences_bare around elements]

end

/-- Templates that are alike up to text have the same references. -/
theorem references_append {template left right : Template}
    (same : bareElements template = bareElements left ++ bareElements right) :
    references template = references left ++ references right := by
  simp only [references_eq]
  rw [← templateReferences_bare, same, templateReferences_append, templateReferences_bare,
    templateReferences_bare]

end Stencil.Extraction
