import Stencil.Proofs.SideHandles

set_option autoImplicit false

/-!
One side of a workspace does not see the other. The replies that a side gets are those that it gets
alone, although both sides share the cache and the numbers of documents (`replies_of_side`).
-/

namespace Stencil.Workspace

variable {owner : Resource → Side} {side : Side} {full solo : Workspace}

/-! ### Rendering -/

/-- True for requests whose reply does not depend on what stands under keys, but for the template of
the document that is rendered. -/
def Discreet (workspace : Workspace) : Request → Prop
  | .describeEngine _ templates => ∀ name ∈ templates, ¬ IsRegistrationKey name
  | .renderTemplate engine name now data => ¬ IsRegistrationKey name ∧
    ∀ template, workspace.template? engine name = some template →
      Render.BlindToKeys ((workspace.engine engine).environment now) template data
  | .render handle _ timing now data => ∀ document,
    workspace.documents.find? handle = some document →
    ∀ value, document.accept timing data = .ok value →
      ∀ template, workspace.template? document.engine document.key = some template →
        Render.BlindToKeys ((workspace.engine document.engine).environment now) template value
  | _ => True

/-- True if each request of a run is discreet. -/
def DiscreetRun : Workspace → List Request → Prop
  | _, [] => True
  | workspace, request :: requests =>
    workspace.Discreet request ∧ DiscreetRun (workspace.answer request).2 requests

/-- A document that is rendered as the counterpart of another. -/
theorem renderAs_congr {left right : Document} (schema : left.schema = right.schema)
    {timing : Timing} {now : Calendar.Instant} {data : Json}
    (same : ∀ value, right.accept timing data = .ok value →
      full.renderRegistered now left.engine left.key value =
        solo.renderRegistered now right.engine right.key value) (mode : RenderMode) :
    full.renderAs mode now left timing data = solo.renderAs mode now right timing data := by
  have accepts : left.accept timing data = right.accept timing data := by
    unfold Document.accept
    rw [schema]
  have requires : left.requireSchema = right.requireSchema := by
    unfold Document.requireSchema
    rw [schema]
  have rendered : full.render now left timing data = solo.render now right timing data := by
    unfold Workspace.render
    rw [accepts]
    cases accepted : right.accept timing data with
    | ok value => exact same value accepted
    | error error => rfl
  have guarded : full.renderGuarded now left timing data =
      solo.renderGuarded now right timing data := by
    unfold renderGuarded
    rw [requires, rendered]
  cases mode with
  | plain => exact congrArg (Except.map some) rendered
  | guarded => exact congrArg (Except.map some) guarded
  | lenient =>
    show full.renderGuarded? now left timing data = solo.renderGuarded? now right timing data
    unfold renderGuarded?
    rw [guarded]

/-! ### Requests -/

/-- Replies that differ in what they tell of the cache, and the workspaces that they leave. -/
structure Agrees (owner : Resource → Side) (side : Side) (left right : Reply × Workspace) : Prop where
  reply : left.1.withoutCache = right.1.withoutCache
  view : View owner side left.2 right.2

theorem View.onDocument (view : View owner side full solo) {handle : String}
    (owned : owner (.document handle) = side) {left right : Document → Reply × Workspace}
    (each : ∀ first second, full.documents.find? handle = some first →
      solo.documents.find? handle = some second → first.Alike second →
      Agrees owner side (left first) (right second)) :
    Agrees owner side (full.onDocument handle left) (solo.onDocument handle right) := by
  unfold Workspace.onDocument
  rcases view.documents handle owned with ⟨none, also⟩ | ⟨first, second, there, also, alike⟩
  · rw [none, also]
    exact ⟨rfl, view⟩
  · rw [there, also]
    exact each first second there also alike

theorem View.registerGlobally (view : View owner side full solo)
    (mine : owner (.registry .global) = side)
    (owned : owner (.engine (full.registry .global).engine) = side) (name : String)
    (helper : Helper) :
    View owner side (full.registerGlobally name helper) (solo.registerGlobally name helper) := by
  have registered : View owner side (full.register .global name helper none)
      (solo.register .global name helper none) :=
    view.changeRegistry mine fun registry => registry.register name helper none
  have same : ((full.register .global name helper none).registry .global).engine =
      (full.registry .global).engine := by
    unfold register
    rw [registry_setRegistry, if_pos rfl]
    rfl
  rw [← same] at owned
  unfold Workspace.registerGlobally Workspace.bind
  rw [← registered.registries .global mine]
  exact (registered.bindTo mine owned).2

theorem View.renderTemplate (view : View owner side full solo) {id : EngineId}
    (owned : owner (.engine id) = side) {name : String} {now : Calendar.Instant} {data : Json}
    (discreet : solo.Discreet (.renderTemplate id name now data)) :
    full.renderRegistered now id name data = solo.renderRegistered now id name data := by
  obtain ⟨plain, blind⟩ := discreet
  have alike := view.engines id owned
  have same := alike.templates name plain
  unfold renderRegistered
  cases found : (solo.engine id).templates.find? name with
  | some template =>
    rw [found] at same
    rw [alike.render same found (blind template found)]
  | none =>
    rw [found] at same
    unfold Engine.render
    rw [same, found]

/-- Documents that stand for each other are rendered alike: both stand for the template of one
source. -/
theorem View.renderDocument (view : View owner side full solo) (fullOrderly : full.Orderly)
    (soloOrderly : solo.Orderly) {left right : Document} (alike : left.Alike right)
    (leftHeld : full.Held left) (rightHeld : solo.Held right)
    (owned : owner (.engine left.engine) = side) {now : Calendar.Instant} {value : Json}
    (blind : ∀ template, solo.template? right.engine right.key = some template →
      Render.BlindToKeys ((solo.engine right.engine).environment now) template value) :
    full.renderRegistered now left.engine left.key value =
      solo.renderRegistered now right.engine right.key value := by
  obtain ⟨template, read, there⟩ := fullOrderly.registered.compiled left leftHeld
  obtain ⟨other, again, also⟩ := soloOrderly.registered.compiled right rightHeld
  rw [alike.source, again] at read
  cases read
  unfold renderRegistered
  have engines := view.engines left.engine owned
  rw [alike.engine] at engines there ⊢
  rw [engines.render there also (blind _ also)]

theorem View.answerCopy (view : View owner side full solo) (fullTidy : Tidy owner full)
    (soloTidy : Tidy owner solo) {handle other : String}
    (owns : Owns owner side full (.copy handle other)) :
    Agrees owner side (full.answer (.copy handle other)) (solo.answer (.copy handle other)) := by
  have mine := owns _ List.mem_cons_self
  have place := owns _ (List.mem_append_right _ (mem_reach full other))
  refine view.onDocument mine fun first second there also alike => ?_
  have matched := view.matched fullTidy soloTidy ⟨handle, mine, there, also⟩
  refine ⟨?_, view.replace fullTidy soloTidy place (.some matched)⟩
  show Reply.described _ = Reply.described _
  rw [alike.description]

theorem View.answerDrop (view : View owner side full solo) (fullTidy : Tidy owner full)
    (soloTidy : Tidy owner solo) {handle : String} (owned : owner (.document handle) = side) :
    Agrees owner side (full.answer (.drop handle)) (solo.answer (.drop handle)) := by
  refine ⟨?_, view.replace fullTidy soloTidy owned .none⟩
  show Reply.dropped (full.documents.find? handle).isSome =
    Reply.dropped (solo.documents.find? handle).isSome
  rcases view.documents handle owned with ⟨none, also⟩ | ⟨first, second, there, also, _⟩
  · rw [none, also]
  · rw [there, also]
    rfl

theorem View.answerAddPartial (view : View owner side full solo) (fullOrderly : full.Orderly)
    (soloOrderly : solo.Orderly) {handle name source : String}
    (owns : Owns owner side full (.addPartial handle name source)) :
    Agrees owner side (full.answer (.addPartial handle name source))
      (solo.answer (.addPartial handle name source)) := by
  refine view.onDocument (owns _ List.mem_cons_self) fun first second there also alike => ?_
  have owned := owns _ (engine_mem_reach there)
  have added := view.addPartial fullOrderly.sound soloOrderly.sound owned first.cached name source
  rw [← alike.engine, ← alike.cached]
  exact ⟨congrArg (fun result => Reply.withoutCache (.added result)) added.1, added.2⟩

theorem View.answerRender (view : View owner side full solo) (fullOrderly : full.Orderly)
    (soloOrderly : solo.Orderly) {handle : String} {mode : RenderMode} {timing : Timing}
    {now : Calendar.Instant} {data : Json}
    (owns : Owns owner side full (.render handle mode timing now data))
    (discreet : solo.Discreet (.render handle mode timing now data)) :
    Agrees owner side (full.answer (.render handle mode timing now data))
      (solo.answer (.render handle mode timing now data)) := by
  refine view.onDocument (owns _ List.mem_cons_self) fun first second there also alike => ?_
  have owned := owns _ (engine_mem_reach there)
  have rendered : ∀ value, second.accept timing data = .ok value →
      full.renderRegistered now first.engine first.key value =
        solo.renderRegistered now second.engine second.key value := by
    intro value accepted
    have blind := discreet second also value accepted
    exact view.renderDocument fullOrderly soloOrderly alike ⟨handle, there⟩ ⟨handle, also⟩ owned
      blind
  exact ⟨congrArg Reply.rendered (renderAs_congr alike.schema rendered mode), view⟩

theorem View.answerBind (view : View owner side full solo) {registry : RegistryId}
    {engine : Option EngineId} (owns : Owns owner side full (.bind registry engine)) :
    Agrees owner side (full.answer (.bind registry engine))
      (solo.answer (.bind registry engine)) := by
  have mine := owns _ List.mem_cons_self
  have next := view.bindTo mine (owns _ (List.mem_cons_of_mem _ List.mem_cons_self))
  show Agrees owner side (.bound (full.bindTo registry _).1, (full.bindTo registry _).2)
    (.bound (solo.bindTo registry _).1, (solo.bindTo registry _).2)
  rw [← view.registries registry mine]
  exact ⟨congrArg Reply.bound next.1, next.2⟩

/-- A request of a side has the reply, up to the cache, that it has if the side is alone. -/
theorem View.answer (view : View owner side full solo) (fullOrderly : full.Orderly)
    (soloOrderly : solo.Orderly) (fullHoused : Housed owner full) (soloHoused : Housed owner solo)
    {request : Request} (owns : Owns owner side full request) (plain : request.Plain)
    (discreet : solo.Discreet request) :
    Agrees owner side (full.answer request) (solo.answer request) := by
  have fullTidy := fullOrderly.tidy fullHoused
  have soloTidy := soloOrderly.tidy soloHoused
  cases request with
  | openRegistry number engine => exact ⟨rfl, view.setRegistry _ _⟩
  | register registry name helper note =>
    have mine := owns _ List.mem_cons_self
    have next := view.changeRegistry mine fun registry => registry.register name helper note
    exact ⟨next.names mine, next⟩
  | registerAll registry helpers =>
    have mine := owns _ List.mem_cons_self
    have next := view.changeRegistry mine fun registry => registry.registerAll helpers
    exact ⟨next.names mine, next⟩
  | registerGlobally name helper =>
    have mine := owns _ List.mem_cons_self
    have next := view.registerGlobally mine (owns _ (by simp [touches])) name helper
    exact ⟨next.names mine, next⟩
  | clearRegistry registry =>
    exact ⟨rfl, view.changeRegistry (owns _ List.mem_cons_self) Registry.clear⟩
  | describeRegistry registry =>
    exact ⟨view.names (owns _ List.mem_cons_self), view⟩
  | describeHelper registry name =>
    have same := view.registries registry (owns _ List.mem_cons_self)
    refine ⟨?_, view⟩
    show Reply.helper _ _ = Reply.helper _ _
    rw [same]
  | callHelper registry call =>
    have same := view.registries registry (owns _ List.mem_cons_self)
    refine ⟨?_, view⟩
    show Reply.answered _ = Reply.answered _
    rw [same]
  | bind registry engine => exact view.answerBind owns
  | registerHelper engine name helper =>
    have owned := owns _ List.mem_cons_self
    exact ⟨rfl, view.setEngine engine ((view.engines engine owned).registerHelper name helper)⟩
  | installCatalog engine =>
    have owned := owns _ List.mem_cons_self
    refine ⟨?_, view.installCatalog owned⟩
    show Reply.installed _ = Reply.installed _
    rw [(view.engines engine owned).catalog]
  | describeEngine engine templates =>
    have alike := view.engines engine (owns _ List.mem_cons_self)
    refine ⟨?_, view⟩
    show Reply.engine _ _ = Reply.engine _ _
    rw [alike.helperNames, alike.hasTemplates discreet]
  | renderTemplate engine name now data =>
    refine ⟨?_, view⟩
    show Reply.rendered _ = Reply.rendered _
    rw [view.renderTemplate (owns _ List.mem_cons_self) discreet]
  | create handle source options =>
    have created := view.create fullOrderly soloOrderly fullHoused soloHoused owns plain source
    exact ⟨congrArg Reply.made created.1, created.2⟩
  | createFrom handle file options =>
    show Agrees owner side (.made ((full.createFrom handle file options).1.map _), _)
      (.made ((solo.createFrom handle file options).1.map _), _)
    unfold createFrom
    cases sourceOf file with
    | ok source =>
      have created := view.create fullOrderly soloOrderly fullHoused soloHoused owns plain source
      exact ⟨congrArg Reply.made created.1, created.2⟩
    | error error => exact ⟨rfl, view⟩
  | addPartial handle name source => exact view.answerAddPartial fullOrderly soloOrderly owns
  | copy handle other => exact view.answerCopy fullTidy soloTidy owns
  | drop handle => exact view.answerDrop fullTidy soloTidy (owns _ List.mem_cons_self)
  | describe handle =>
    refine view.onDocument (owns _ List.mem_cons_self) fun first second there also alike => ?_
    refine ⟨?_, view⟩
    show Reply.described _ = Reply.described _
    rw [alike.description]
  | render handle mode timing now data =>
    exact view.answerRender fullOrderly soloOrderly owns discreet
  | validate handle timing data =>
    refine view.onDocument (owns _ List.mem_cons_self) fun first second there also alike => ?_
    refine ⟨?_, view⟩
    show Reply.validated _ = Reply.validated _
    unfold Document.validate Document.requireSchema
    rw [alike.schema]
  | clearCache => exact ⟨rfl, view.of_both _ _ full.made solo.made⟩
  | describeCache sources => exact ⟨rfl, view⟩

/-! ### Runs -/

theorem View.reach (view : View owner side full solo) {handle : String}
    (owned : owner (.document handle) = side) : solo.reach handle = full.reach handle := by
  unfold Workspace.reach
  rcases view.documents handle owned with ⟨none, also⟩ | ⟨first, second, there, also, alike⟩
  · rw [none, also]
  · rw [there, also, Option.map_some, Option.map_some, alike.engine]

theorem View.reachOfMaking (view : View owner side full solo) {handle : String} {options : Options}
    (owns : ∀ resource ∈ full.reachOfMaking handle options, owner resource = side) :
    solo.reachOfMaking handle options = full.reachOfMaking handle options := by
  have mine := owns (.registry (options.registry.getD .global))
    (by simp [Workspace.reachOfMaking])
  have place := owns (.document handle) (by simp [Workspace.reachOfMaking, Workspace.reach])
  simp only [Workspace.reachOfMaking]
  rw [view.reach place, view.registries _ mine]

/-- A request works on the same in both runs. -/
theorem View.owns (view : View owner side full solo) {request : Request}
    (owns : Owns owner side full request) : Owns owner side solo request := by
  have same : solo.touches request = full.touches request := by
    cases request with
    | registerGlobally name helper =>
      simp only [touches]
      rw [view.registries .global (owns _ List.mem_cons_self)]
    | bind registry engine =>
      simp only [touches]
      rw [view.registries registry (owns _ List.mem_cons_self)]
    | create handle source options => exact view.reachOfMaking owns
    | createFrom handle file options => exact view.reachOfMaking owns
    | copy handle other =>
      have place := owns _ (List.mem_append_right _ (mem_reach full other))
      simp only [touches]
      rw [view.reach (owns _ List.mem_cons_self), view.reach place]
    | addPartial handle name source => exact view.reach (owns _ List.mem_cons_self)
    | drop handle => exact view.reach (owns _ List.mem_cons_self)
    | describe handle => exact view.reach (owns _ List.mem_cons_self)
    | render handle mode timing now data => exact view.reach (owns _ List.mem_cons_self)
    | validate handle timing data => exact view.reach (owns _ List.mem_cons_self)
    | _ => rfl
  unfold Owns
  rw [same]
  exact owns

/-- From a view on, a side gets the replies that it gets alone. -/
theorem View.replies (steps : List (Side × Request)) : ∀ full solo : Workspace,
    View owner side full solo → full.Orderly → solo.Orderly → Housed owner full →
    Housed owner solo → Separated owner full steps → (∀ step ∈ steps, step.2.Plain) →
    DiscreetRun solo (requestsOf side steps) →
    (sideReplies side full steps).map Reply.withoutCache =
      (solo.replies (requestsOf side steps)).map Reply.withoutCache := by
  induction steps with
  | nil => exact fun _ _ _ _ _ _ _ _ _ _ => rfl
  | cons step steps ih =>
    intro full solo view fullOrderly soloOrderly fullHoused soloHoused separated plain discreet
    obtain ⟨other, request⟩ := step
    obtain ⟨owns, separated⟩ := separated
    have here : request.Plain := plain _ List.mem_cons_self
    have rest : ∀ step ∈ steps, step.2.Plain :=
      fun step member => plain step (List.mem_cons_of_mem _ member)
    by_cases same : other = side
    · subst same
      have requests : requestsOf other ((other, request) :: steps) =
          request :: requestsOf other steps := by simp [requestsOf]
      rw [requests] at discreet ⊢
      obtain ⟨first, discreet⟩ := discreet
      have agrees := view.answer fullOrderly soloOrderly fullHoused soloHoused owns here first
      have further := ih _ _ agrees.view (fullOrderly.answer here) (soloOrderly.answer here)
        (fullHoused.answer owns) (soloHoused.answer (view.owns owns)) separated rest discreet
      simp only [sideReplies, if_pos, Workspace.replies, List.map_cons, agrees.reply, further]
    · have requests : requestsOf side ((other, request) :: steps) = requestsOf side steps := by
        simp [requestsOf, same]
      rw [requests] at discreet ⊢
      have unseen := view.of_within (within_answer full request) fun resource member owned =>
        same ((owns resource member).symm.trans owned)
      simp only [sideReplies, if_neg same]
      exact ih _ _ unseen (fullOrderly.answer here) soloOrderly (fullHoused.answer owns) soloHoused
        separated rest discreet

/-- In any order of steps, a side of a workspace gets the replies that it gets alone, except on the
cache, if no partial has the name of a key and no render of the side depends on what stands under
keys. -/
theorem replies_of_side (owner : Resource → Side) (side : Side) (steps : List (Side × Request))
    (separated : Separated owner empty steps) (plain : ∀ step ∈ steps, step.2.Plain)
    (discreet : DiscreetRun empty (requestsOf side steps)) :
    (sideReplies side empty steps).map Reply.withoutCache =
      (empty.replies (requestsOf side steps)).map Reply.withoutCache :=
  View.replies steps empty empty (view_refl empty) orderly_empty orderly_empty housed_empty
    housed_empty separated plain discreet

/-- What is made on a registry, with a partial `p`. -/
def withPartial (registry : RegistryId) (text : String) : Options :=
  ⟨some registry, ⟨[("p", text)]⟩, none, true, none⟩

/-- The far side has the first scoped registry, and the near side all else. -/
def ownerOfScoped (resource : Resource) : Side :=
  if resource ∈ [.registry (.scoped 1), .engine (.other 1), .document "a"] then .far else .near

/-- Both sides make the same source, with a partial of their own. -/
def samePartials : List (Side × Request) :=
  [(.far, .openRegistry 1 (.other 1)),
    (.far, .create "a" "\x7b\x7b> p\x7d\x7d" (withPartial (.scoped 1) "far")),
    (.near, .create "b" "\x7b\x7b> p\x7d\x7d" (withPartial .global "near")),
    (.far, .drop "a"), (.near, .render "b" .plain .immediate ⟨0, 0, 0⟩ .null)]

theorem not_isRegistrationKey_p : ¬ IsRegistrationKey "p" :=
  fun key => absurd key.head (by decide)

theorem plainNames_withPartial (registry : RegistryId) (text : String) :
    PlainNames (withPartial registry text).partials.entries := by
  intro entry member
  obtain rfl := List.mem_singleton.mp member
  exact not_isRegistrationKey_p

theorem replies_of_side_same_partials : Separated ownerOfScoped empty samePartials ∧
    (sideReplies .near empty samePartials).map Reply.withoutCache =
      (empty.replies (requestsOf .near samePartials)).map Reply.withoutCache := by
  have separated : Separated ownerOfScoped empty samePartials := by decide +kernel
  have plain : ∀ step ∈ samePartials, step.2.Plain := by
    have named := plainNames_withPartial
    simp only [samePartials, List.forall_mem_cons]
    exact ⟨trivial, named _ _, named _ _, trivial, trivial, by simp⟩
  have facts : (∀ document ∈ (empty.after [.create "b" "\x7b\x7b> p\x7d\x7d"
        (withPartial .global "near")]).documents.find? "b", document.engine = .common ∧
      ∀ template ∈ (empty.after [.create "b" "\x7b\x7b> p\x7d\x7d"
        (withPartial .global "near")]).template? .common document.key,
        Render.IncludesAll (fun name => name = "p") template) ∧
      ∀ template ∈ (empty.after [.create "b" "\x7b\x7b> p\x7d\x7d"
        (withPartial .global "near")]).template? .common "p",
        Render.IncludesAll (fun name => name = "p") template := by
    decide +kernel
  refine ⟨separated, replies_of_side ownerOfScoped .near samePartials separated plain ?_⟩
  refine ⟨trivial, ?_, trivial⟩
  intro document found value accepted template there
  obtain ⟨home, includes⟩ := facts.1 document found
  rw [home] at there ⊢
  have names : ∀ name : String, name = "p" → ¬ IsRegistrationKey name := by
    rintro name rfl
    exact not_isRegistrationKey_p
  refine Render.blindToKeys_of_includes names ?_ (includes template there) value
  rintro name rfl other present
  exact facts.2 other present

/-- The near side includes the partial that its data names, and the data has the key of the first
document. That is a document of the near side only if the side is alone. -/
def guessedKey : List (Side × Request) :=
  [(.far, .openRegistry 1 (.other 1)), (.far, .create "a" "y" (withPartial (.scoped 1) "")),
    (.near, .create "b" "x" (withPartial .global "")),
    (.near, .create "c" "\x7b\x7b> (lookup this \"k\")\x7d\x7d" (withPartial .global "")),
    (.near, .render "c" .plain .immediate ⟨0, 0, 0⟩
      (.object [("k", .string (registrationKey "x" 1))]))]

/-- True for the reply to a render that gave a text. -/
def givesText : Reply → Bool
  | .rendered (.ok (some _)) => true
  | _ => false

theorem replies_of_side_guessed_key : ¬ ∀ (owner : Resource → Side) (side : Side)
    (steps : List (Side × Request)), Separated owner empty steps →
    (∀ step ∈ steps, step.2.Plain) →
      (sideReplies side empty steps).map Reply.withoutCache =
        (empty.replies (requestsOf side steps)).map Reply.withoutCache := by
  intro claimed
  have plain : ∀ step ∈ guessedKey, step.2.Plain := by
    have named := plainNames_withPartial
    simp only [guessedKey, List.forall_mem_cons]
    exact ⟨trivial, named _ _, named _ _, named _ _, trivial, by simp⟩
  have same := congrArg (List.map givesText)
    (claimed ownerOfScoped .near guessedKey (by decide +kernel) plain)
  exact absurd same (by decide +kernel)

end Stencil.Workspace
