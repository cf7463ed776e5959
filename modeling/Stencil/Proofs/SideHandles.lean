import Stencil.Proofs.SideView

set_option autoImplicit false

/-!
The handles of a side in two runs. Documents stand for each other if they are held by the same handle or
made by the same request, and a template goes with its last handle in both runs or in none.
-/

namespace Stencil.Workspace

variable {owner : Resource → Side} {side : Side} {full solo : Workspace}

/-! ### Handles -/

/-- Each handle holds one document, on an engine of its own side and with a key. -/
structure Tidy (owner : Resource → Side) (workspace : Workspace) : Prop where
  housed : Housed owner workspace
  handles : workspace.documents.keys.Nodup
  keys : ∀ document, workspace.Held document → IsRegistrationKey document.key

theorem Orderly.tidy {workspace : Workspace} (orderly : workspace.Orderly)
    (housed : Housed owner workspace) : Tidy owner workspace :=
  ⟨housed, orderly.handles, fun _ held => orderly.registered.key held⟩

theorem Tidy.of_documents {workspace next : Workspace} (tidy : Tidy owner workspace)
    (same : next.documents = workspace.documents) : Tidy owner next := by
  refine ⟨tidy.housed.of_documents fun handle => by rw [same], ?_, ?_⟩
  · rw [same]
    exact tidy.handles
  · rintro document ⟨handle, found⟩
    rw [same] at found
    exact tidy.keys document ⟨handle, found⟩

/-- Documents that stand for each other: they differ in their keys at most, and a document of the
side has the key of the one if and only if its counterpart has the key of the other. -/
structure Matched (owner : Resource → Side) (side : Side) (full solo : Workspace)
    (left right : Document) : Prop where
  alike : left.Alike right
  home : owner (.engine left.engine) = side
  leftKey : IsRegistrationKey left.key
  rightKey : IsRegistrationKey right.key
  keys : ∀ other another, Paired owner side full solo other another →
    (left.key = other.key ↔ right.key = another.key)

theorem Matched.symm {left right : Document} (matched : Matched owner side full solo left right) :
    Matched owner side solo full right left := by
  refine ⟨matched.alike.symm, ?_, matched.rightKey, matched.leftKey, ?_⟩
  · rw [← matched.alike.engine]
    exact matched.home
  · intro other another paired
    exact (matched.keys another other paired.symm).symm

theorem View.matched (view : View owner side full solo) (fullTidy : Tidy owner full)
    (soloTidy : Tidy owner solo) {left right : Document}
    (paired : Paired owner side full solo left right) :
    Matched owner side full solo left right := by
  obtain ⟨handle, owned, there, also⟩ := paired
  have again : Paired owner side full solo left right := ⟨handle, owned, there, also⟩
  have home : owner (.engine left.engine) = side := by
    rw [fullTidy.housed handle left there]
    exact owned
  have leftKey := fullTidy.keys left ⟨handle, there⟩
  have rightKey := soloTidy.keys right ⟨handle, also⟩
  exact ⟨view.alike again, home, leftKey, rightKey, fun other another =>
    view.keys left right other another again⟩

theorem Tidy.rebind {workspace : Workspace} (tidy : Tidy owner workspace) {handle : String}
    {document : Option Document} (home : ∀ found, document = some found →
      owner (.engine found.engine) = owner (.document handle) ∧ IsRegistrationKey found.key) :
    Tidy owner (workspace.rebind handle document) := by
  refine ⟨?_, nodup_rebind tidy.handles handle document, ?_⟩
  · intro place found there
    rw [find?_rebind] at there
    split at there
    · rename_i here
      rw [here]
      exact (home found there).1
    · exact tidy.housed place found there
  · rintro found ⟨place, there⟩
    rw [find?_rebind] at there
    split at there
    · exact (home found there).2
    · exact tidy.keys found ⟨place, there⟩

section

variable {handle : String} {left right : Option Document}

theorem paired_rebind {first second : Document} (paired : Paired owner side
      (full.rebind handle left) (solo.rebind handle right) first second) :
    Paired owner side full solo first second ∨ left = some first ∧ right = some second := by
  obtain ⟨place, owned, there, also⟩ := paired
  rw [find?_rebind] at there also
  by_cases here : place = handle
  · rw [if_pos here] at there also
    exact Or.inr ⟨there, also⟩
  · rw [if_neg here] at there also
    exact Or.inl ⟨place, owned, there, also⟩

/-- The keys of a document and of those of the side after a handle was given that document. -/
theorem keys_rebind {former latter : Document}
    (before : ∀ other another, Paired owner side full solo other another →
      (former.key = other.key ↔ latter.key = another.key))
    (given : ∀ other another, left = some other → right = some another →
      (former.key = other.key ↔ latter.key = another.key))
    (other another : Document) (paired : Paired owner side (full.rebind handle left)
      (solo.rebind handle right) other another) :
    former.key = other.key ↔ latter.key = another.key := by
  rcases paired_rebind paired with old | ⟨there, also⟩
  · exact before other another old
  · exact given other another there also

theorem View.rebind (view : View owner side full solo)
    (matched : Option.Rel (Matched owner side full solo) left right) :
    View owner side (full.rebind handle left) (solo.rebind handle right) := by
  refine ⟨view.registries, view.engines, ?_, ?_⟩
  · intro place owned
    rw [find?_rebind, find?_rebind]
    by_cases here : place = handle
    · rw [if_pos here, if_pos here]
      cases matched with
      | some matched => exact Or.inr ⟨_, _, rfl, rfl, matched.alike⟩
      | none => exact Or.inl ⟨rfl, rfl⟩
    · rw [if_neg here, if_neg here]
      exact view.documents place owned
  · intro first second other another paired
    rcases paired_rebind paired with old | ⟨rfl, rfl⟩
    · refine keys_rebind (fun other another => view.keys first second other another old) ?_ other
        another
      rintro other another rfl rfl
      cases matched with
      | some matched => rw [eq_comm, matched.keys first second old, eq_comm]
    · cases matched with
      | some matched =>
        refine keys_rebind matched.keys ?_ other another
        rintro other another ⟨⟩ ⟨⟩
        exact ⟨fun _ => rfl, fun _ => rfl⟩

end

/-- A document is registered for some handle in both runs or in none. -/
theorem View.holds (view : View owner side full solo) (fullTidy : Tidy owner full)
    (soloTidy : Tidy owner solo) {left right : Document}
    (matched : Matched owner side full solo left right) (held : full.holds left = true) :
    solo.holds right = true := by
  obtain ⟨other, ⟨handle, there⟩, engine, key⟩ := (holds_iff fullTidy.handles left).mp held
  have owned : owner (.document handle) = side := by
    rw [← fullTidy.housed handle other there, engine]
    exact matched.home
  rcases view.documents handle owned with ⟨none, _⟩ | ⟨_, another, found, also, alike⟩
  · rw [there] at none
    cases none
  · rw [there] at found
    cases found
    refine (holds_iff soloTidy.handles right).mpr ⟨another, ⟨handle, also⟩, ?_, ?_⟩
    · rw [← alike.engine, engine, matched.alike.engine]
    · exact ((matched.keys other another ⟨handle, owned, there, also⟩).mp key.symm).symm

theorem View.release (view : View owner side full solo) (fullTidy : Tidy owner full)
    (soloTidy : Tidy owner solo) {left right : Document}
    (matched : Matched owner side full solo left right) :
    View owner side (full.release left) (solo.release right) := by
  have same : full.holds left = solo.holds right := by
    rw [Bool.eq_iff_iff]
    exact ⟨view.holds fullTidy soloTidy matched, view.symm.holds soloTidy fullTidy matched.symm⟩
  unfold Workspace.release
  rw [← same, ← matched.alike.engine]
  split
  · exact view
  · exact view.setEngine left.engine
      ((view.engines left.engine matched.home).unregisterKeys matched.leftKey matched.rightKey)

/-- A handle gets documents that stand for each other, or none, in both runs. -/
theorem View.replace (view : View owner side full solo) (fullTidy : Tidy owner full)
    (soloTidy : Tidy owner solo) {handle : String} (owned : owner (.document handle) = side)
    {left right : Option Document}
    (matched : Option.Rel (Matched owner side full solo) left right) :
    View owner side (full.replace handle left) (solo.replace handle right) := by
  have rebound : View owner side (full.rebind handle left) (solo.rebind handle right) :=
    view.rebind matched
  unfold Workspace.replace
  rcases view.documents handle owned with ⟨none, also⟩ | ⟨former, latter, there, also, _⟩
  · rw [none, also]
    exact rebound
  · have paired : Paired owner side full solo former latter := ⟨handle, owned, there, also⟩
    have old := view.matched fullTidy soloTidy paired
    rw [there, also]
    refine rebound.release (fullTidy.rebind ?_) (soloTidy.rebind ?_)
      ⟨old.alike, old.home, old.leftKey, old.rightKey, keys_rebind old.keys ?_⟩
    · rintro found rfl
      cases matched with
      | some matched => exact ⟨matched.home.trans owned.symm, matched.leftKey⟩
    · rintro found rfl
      cases matched with
      | some matched => exact ⟨matched.symm.home.trans owned.symm, matched.rightKey⟩
    · rintro other another rfl rfl
      cases matched with
      | some matched => rw [eq_comm, matched.keys former latter paired, eq_comm]

/-! ### New documents -/

theorem Makes.documents {workspace next : Workspace} {source : String}
    {result : Except TemplateError Document} (makes : Makes workspace source result next) :
    next.documents = workspace.documents := by
  cases makes with
  | document keeps sound read same key => exact keeps.documents
  | error keeps sound error => exact keeps.documents

/-- Documents that are made in both runs stand for each other, since their keys are new in both. -/
theorem matched_made (fullOrderly : full.Orderly) (soloOrderly : solo.Orderly)
    {next last : Workspace} {source : String} {left right : Document}
    (fullMakes : Makes full source (.ok left) next)
    (soloMakes : Makes solo source (.ok right) last) (alike : left.Alike right)
    (home : owner (.engine left.engine) = side) : Matched owner side next last left right := by
  obtain ⟨_, leftKey⟩ := fullMakes.ok rfl
  obtain ⟨_, rightKey⟩ := soloMakes.ok rfl
  refine ⟨alike, home, ⟨source, _, leftKey⟩, ⟨source, _, rightKey⟩, ?_⟩
  rintro other another ⟨handle, _, there, also⟩
  rw [fullMakes.documents] at there
  rw [soloMakes.documents] at also
  have first := fullOrderly.registered.fresh source ⟨handle, there⟩
  have second := soloOrderly.registered.fresh source ⟨handle, also⟩
  rw [leftKey, rightKey]
  exact ⟨fun same => absurd same.symm first, fun same => absurd same.symm second⟩

theorem View.create (view : View owner side full solo) (fullOrderly : full.Orderly)
    (soloOrderly : solo.Orderly) (fullHoused : Housed owner full) (soloHoused : Housed owner solo)
    {handle : String} {options : Options}
    (owns : ∀ resource ∈ full.reachOfMaking handle options, owner resource = side)
    (plain : PlainNames options.partials.entries) (source : String) :
    (full.create handle source options).1.map Document.description =
        (solo.create handle source options).1.map Document.description ∧
      View owner side (full.create handle source options).2
        (solo.create handle source options).2 := by
  have mine := owns (.registry (options.registry.getD .global)) (by simp [reachOfMaking])
  have works := owns (.engine (full.registry (options.registry.getD .global)).engine)
    (by simp [reachOfMaking])
  have place := owns (.document handle) (by simp [reachOfMaking, reach])
  have made := view.make fullOrderly.sound soloOrderly.sound mine works plain source
  have fullMakes := makes_make fullOrderly.sound source options plain
  have soloMakes := makes_make soloOrderly.sound source options plain
  unfold Workspace.create
  rcases left : full.make source options with ⟨result, next⟩
  rcases right : solo.make source options with ⟨other, last⟩
  rw [left, right] at made
  rw [left] at fullMakes
  rw [right] at soloMakes
  obtain ⟨alike, seen⟩ := made
  cases alike with
  | error error => exact ⟨rfl, seen⟩
  | @document first second alike =>
    refine ⟨congrArg Except.ok alike.description, ?_⟩
    have home : owner (.engine first.engine) = side := by
      rw [engine_of_make (congrArg Prod.fst left)]
      exact works
    have matched := matched_made fullOrderly soloOrderly fullMakes soloMakes alike home
    have fullTidy := (fullOrderly.tidy fullHoused).of_documents fullMakes.documents
    have soloTidy := (soloOrderly.tidy soloHoused).of_documents soloMakes.documents
    exact seen.replace fullTidy soloTidy place (.some matched)

end Stencil.Workspace
