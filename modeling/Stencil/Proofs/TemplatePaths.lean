import Stencil.Proofs.TagPaths
import Stencil.Template.Nesting

set_option autoImplicit false

/-!
Every path of a template was read from some text (`isRead_of_read`): what holds of all paths that can
be read holds of all paths that a source brings into a template.
-/

namespace Stencil.Template

/-! ### Tokens -/

/-- Every tag of some tokens was read. -/
def TokensRead (tokens : List Token) : Prop := ∀ tag, Token.tag tag ∈ tokens → TagRead tag

theorem tokensRead_cons {tag : Tag} {tokens : List Token} (head : TagRead tag)
    (tail : TokensRead tokens) : TokensRead (.tag tag :: tokens) := by
  intro other member
  rcases List.mem_cons.mp member with same | member
  · cases same
    exact head
  · exact tail other member

theorem rawBody?_read {before text after rest : List Char} {tokens : List Token}
    (read : rawBody? before text = some (tokens, after, rest)) : TokensRead tokens := by
  simp only [rawBody?] at read
  obtain ⟨⟨trims, inside⟩, found, read⟩ := Option.bind_eq_some_iff.mp read
  cases read
  intro tag member
  simp only [List.mem_cons, reduceCtorEq, Token.tag.injEq, List.not_mem_nil, or_false,
    false_or] at member
  subst member
  exact rawClosing?_read found

theorem tokensFrom_read (fuel : Nat) : ∀ before text tokens,
    tokensFrom fuel before text = some tokens → TokensRead tokens := by
  induction fuel with
  | zero =>
    intro before text tokens read
    cases text with
    | nil =>
      cases read
      intro tag member
      cases member
    | cons c text => cases read
  | succ fuel ih =>
    intro before text tokens read
    cases text with
    | nil =>
      cases read
      intro tag member
      cases member
    | cons c text =>
      simp only [tokensFrom] at read
      split at read
      · obtain ⟨⟨tag, rest⟩, found, read⟩ := Option.bind_eq_some_iff.mp read
        have head := tag?_read found
        dsimp only at read
        split at read
        · obtain ⟨⟨body, after, last⟩, raw, read⟩ := Option.bind_eq_some_iff.mp read
          obtain ⟨others, tail, read⟩ := Option.bind_eq_some_iff.mp read
          cases read
          refine tokensRead_cons head ?_
          intro other member
          rcases List.mem_append.mp member with member | member
          · exact rawBody?_read raw other member
          · exact ih _ _ _ tail other member
        · obtain ⟨others, tail, read⟩ := Option.bind_eq_some_iff.mp read
          cases read
          exact tokensRead_cons head (ih _ _ _ tail)
      · obtain ⟨others, tail, read⟩ := Option.bind_eq_some_iff.mp read
        cases read
        intro other member
        rcases List.mem_cons.mp member with same | member
        · simp only [textToken] at same
          split at same <;> cases same
        · exact ih _ _ _ tail other member

/-- Removing blanks keeps the tags. -/
theorem mem_of_mem_spaced (tokens : List Token) : ∀ spacing tag,
    Token.tag tag ∈ spaced spacing tokens → Token.tag tag ∈ tokens := by
  induction tokens with
  | nil =>
    intro spacing tag member
    cases member
  | cons token tokens ih =>
    intro spacing tag member
    cases token with
    | tag first =>
      rcases List.mem_cons.mp member with same | member
      · exact List.mem_cons.mpr (Or.inl same)
      · exact List.mem_cons_of_mem _ (ih _ tag member)
    | text text =>
      rcases List.mem_cons.mp member with same | member
      · cases same
      · exact List.mem_cons_of_mem _ (ih _ tag member)
    | raw text =>
      rcases List.mem_cons.mp member with same | member
      · cases same
      · exact List.mem_cons_of_mem _ (ih _ tag member)
    | gap text =>
      simp only [spaced] at member
      split at member
      · exact List.mem_cons_of_mem _ (ih _ tag member)
      · rcases List.mem_cons.mp member with same | member
        · cases same
        · exact List.mem_cons_of_mem _ (ih _ tag member)

/-! ### Nesting -/

def Opener.expression : Opener → Expression
  | block expression _ _ => expression
  | chained expression _ _ => expression
  | raw expression _ _ => expression
  | inclusion expression _ => expression
  | decoration expression => expression

structure Frame.Read (frame : Frame) : Prop where
  opener : AllRead frame.opener.expression.paths
  main : ∀ main, frame.main = some main → AllRead (elementPaths main)
  elements : AllRead (elementPaths frame.elements)

structure Nesting.Read (nesting : Nesting) : Prop where
  frames : ∀ frame ∈ nesting.frames, frame.Read
  elements : AllRead (elementPaths nesting.elements)

theorem Nesting.Read.note {nesting : Nesting} (read : nesting.Read) (fault : Option Fault) :
    (nesting.note fault).Read := ⟨read.frames, read.elements⟩

theorem Nesting.Read.push {nesting : Nesting} (read : nesting.Read) {element : Element}
    (inside : AllRead element.paths) : (nesting.push element).Read := by
  unfold Nesting.push
  split
  · refine ⟨read.frames, ?_⟩
    simp only [elementPaths, allRead_append]
    exact ⟨inside, read.elements⟩
  · rename_i frame frames same
    have first := read.frames frame (by simp [same])
    refine ⟨?_, read.elements⟩
    intro other member
    rcases List.mem_cons.mp member with rfl | member
    · refine ⟨first.opener, first.main, ?_⟩
      simp only [elementPaths, allRead_append]
      exact ⟨inside, first.elements⟩
    · exact read.frames other (by simp [same, member])

theorem Nesting.Read.enter {nesting : Nesting} (read : nesting.Read) {opener : Opener}
    (opened : AllRead opener.expression.paths) : (nesting.enter opener).Read := by
  refine ⟨?_, read.elements⟩
  intro frame member
  rcases List.mem_cons.mp member with rfl | member
  · refine ⟨opened, ?_, allRead_nil⟩
    intro main same
    cases same
  · exact read.frames frame member

theorem Frame.Read.turn {frame : Frame} (read : frame.Read) : frame.turn.Read := by
  refine ⟨read.opener, ?_, allRead_nil⟩
  intro main same
  cases same
  exact (allRead_elementPaths_reverse _).mpr read.elements

theorem Frame.Read.parts {frame : Frame} (read : frame.Read) :
    AllRead (elementPaths frame.parts.1) ∧ AllRead (elementPaths frame.parts.2) := by
  unfold Frame.parts
  split
  · rename_i main same
    exact ⟨read.main main same, (allRead_elementPaths_reverse _).mpr read.elements⟩
  · exact ⟨(allRead_elementPaths_reverse _).mpr read.elements, allRead_nil⟩

theorem closeChain_read (frames : List Frame) : ∀ (inner : Option Element) expression element rest,
    (∀ frame ∈ frames, frame.Read) → (∀ inside, inner = some inside → AllRead inside.paths) →
    closeChain inner frames = some (expression, element, rest) →
    AllRead element.paths ∧ ∀ frame ∈ rest, frame.Read := by
  induction frames with
  | nil =>
    intro inner expression element rest _ _ closed
    cases closed
  | cons frame frames ih =>
    intro inner expression element rest read inside closed
    have first := read frame List.mem_cons_self
    have others : ∀ other ∈ frames, other.Read :=
      fun other member => read other (List.mem_cons_of_mem _ member)
    have filled : ({ frame with elements := inner.toList ++ frame.elements } : Frame).Read := by
      refine ⟨first.opener, first.main, ?_⟩
      cases inner with
      | none => exact first.elements
      | some element =>
        simp only [Option.toList_some, List.singleton_append, elementPaths, allRead_append]
        exact ⟨inside element rfl, first.elements⟩
    have parts := filled.parts
    have opener := first.opener
    simp only [closeChain] at closed
    split at closed
    · rename_i found params indented opened
      rw [opened] at opener
      refine ih _ expression element rest others ?_ closed
      intro chained same
      cases same
      simp only [Element.paths, allRead_append]
      exact ⟨opener, parts⟩
    · rename_i found params indented opened
      rw [opened] at opener
      cases closed
      simp only [Element.paths, allRead_append]
      exact ⟨⟨opener, parts⟩, others⟩
    · cases closed

theorem Nesting.Read.closeBlock {nesting : Nesting} (read : nesting.Read) (tag : Tag)
    (name : String) (expression : Expression) {element : Element} {frames : List Frame}
    (inside : AllRead element.paths) (outside : ∀ frame ∈ frames, frame.Read) :
    (nesting.closeBlock tag name expression element frames).Read := by
  have left : ({ nesting with frames } : Nesting).Read := ⟨outside, read.elements⟩
  exact (left.note _).push inside

theorem Nesting.Read.closeDecoration {nesting : Nesting} (read : nesting.Read) (tag : Tag)
    (name : String) (expression : Expression) {element : Element} {frames : List Frame}
    (inside : AllRead element.paths) (outside : ∀ frame ∈ frames, frame.Read) :
    (nesting.closeDecoration tag name expression element frames).Read := by
  have left : ({ nesting with frames } : Nesting).Read := ⟨outside, read.elements⟩
  exact (left.note _).push inside

theorem Nesting.Read.close? {nesting next : Nesting} (read : nesting.Read) {tag : Tag}
    {helper included : Option String} (closed : nesting.close? tag helper included = some next) :
    next.Read := by
  unfold Nesting.close? at closed
  split at closed
  · cases closed
  · rename_i frame frames same
    have first := read.frames frame (by simp [same])
    have others : ∀ other ∈ frames, other.Read :=
      fun other member => read.frames other (by simp [same, member])
    have opener := first.opener
    have body := (allRead_elementPaths_reverse _).mpr first.elements
    split at closed
    · rename_i expression indented opened
      rw [opened] at opener
      obtain ⟨name, _, rfl⟩ := Option.map_eq_some_iff.mp closed
      refine read.closeDecoration tag name expression ?_ others
      simp only [Element.paths, allRead_append]
      exact ⟨opener, body⟩
    · rename_i expression opened
      rw [opened] at opener
      obtain ⟨name, _, rfl⟩ := Option.map_eq_some_iff.mp closed
      refine read.closeDecoration tag name expression ?_ others
      simp only [Element.paths, allRead_append]
      exact ⟨opener, body⟩
    · cases closed
    · obtain ⟨name, _, closed⟩ := Option.bind_eq_some_iff.mp closed
      obtain ⟨⟨expression, element, rest⟩, chain, rfl⟩ := Option.map_eq_some_iff.mp closed
      have inner : ∀ inside : Element, none = some inside → AllRead inside.paths := by
        intro inside same
        cases same
      obtain ⟨inside, outside⟩ := closeChain_read _ _ _ _ _ read.frames inner chain
      exact read.closeBlock tag name expression inside outside

theorem Nesting.Read.turn {nesting : Nesting} (read : nesting.Read) {frame : Frame}
    {frames : List Frame} (same : nesting.frames = frame :: frames) :
    ({ nesting with frames := frame.turn :: frames } : Nesting).Read := by
  refine ⟨?_, read.elements⟩
  intro other member
  rcases List.mem_cons.mp member with rfl | member
  · exact (read.frames frame (by simp [same])).turn
  · exact read.frames other (by simp [same, member])

theorem Nesting.Read.tag? {nesting next : Nesting} (before : nesting.Read) {tag : Tag}
    (inside : TagRead tag) (added : nesting.tag? tag = some next) : next.Read := by
  have read := before.note (tag.invalid.map fun invalid => .invalidLiteral invalid.text)
  unfold TagRead at inside
  unfold Nesting.tag? at added
  dsimp only at added
  split at added <;> rename_i kind <;> rw [kind] at inside
  · cases added
    exact read.push inside
  · cases added
    exact read.push inside
  · cases added
    exact read.push inside
  · cases added
    exact read.push inside
  · cases added
    exact read.enter inside
  · cases added
    exact read.enter inside
  · cases added
    exact read.enter inside
  · cases added
    exact read.enter inside
  · split at added
    · rename_i frame frames same
      split at added
      · cases added
        exact read.turn same
      · cases added
    · cases added
  · split at added
    · rename_i frame frames same
      split at added
      · cases added
        exact (read.turn same).enter inside
      · cases added
    · cases added
  · exact read.close? added
  · split at added
    · rename_i expression params indented main elements frames same
      cases added
      have first := read.frames _ (by rw [same]; exact List.mem_cons_self)
      refine read.closeBlock tag _ expression ?_ ?_
      · simp only [Element.paths, allRead_append]
        exact ⟨first.opener, (allRead_elementPaths_reverse _).mpr first.elements, allRead_nil⟩
      · intro frame member
        exact read.frames frame (by rw [same]; exact List.mem_cons_of_mem _ member)
    · cases added

theorem Nesting.Read.token? {nesting next : Nesting} (read : nesting.Read) {token : Token}
    (inside : ∀ tag, token = .tag tag → TagRead tag) (added : nesting.token? token = some next) :
    next.Read := by
  cases token with
  | tag tag => exact read.tag? (inside tag rfl) added
  | text text =>
    cases added
    exact read.push allRead_nil
  | gap text =>
    cases added
    exact read.push allRead_nil
  | raw text =>
    cases added
    exact read.push allRead_nil

theorem foldlM_token?_read (tokens : List Token) : ∀ nesting next : Nesting, nesting.Read →
    TokensRead tokens → tokens.foldlM Nesting.token? nesting = some next → next.Read := by
  induction tokens with
  | nil =>
    intro nesting next read _ added
    cases added
    exact read
  | cons token tokens ih =>
    intro nesting next read inside added
    rw [List.foldlM_cons] at added
    obtain ⟨middle, first, rest⟩ := Option.bind_eq_some_iff.mp added
    refine ih middle next (read.token? ?_ first) ?_ rest
    · intro tag same
      exact inside tag (by simp [same])
    · intro tag member
      exact inside tag (List.mem_cons_of_mem _ member)

/-- Every path in a template that a source is read to was read itself. -/
theorem isRead_of_read {source : String} {template : Template}
    (done : read source = .ok template) : AllRead (elementPaths template) := by
  unfold read at done
  split at done
  · rename_i tokens found
    unfold nest at done
    have inside : TokensRead (spacedTokens tokens) := by
      intro tag member
      exact tokensFrom_read _ _ _ _ found tag (mem_of_mem_spaced tokens _ tag member)
    have start : (⟨[], [], none⟩ : Nesting).Read :=
      ⟨fun _ member => absurd member List.not_mem_nil, allRead_nil⟩
    split at done
    · rename_i elements nested
      cases done
      exact (allRead_elementPaths_reverse _).mpr
        (foldlM_token?_read _ _ _ start inside nested).elements
    · cases done
    · cases done
  · cases done

end Stencil.Template
