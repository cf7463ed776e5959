import Stencil.Proofs.CallTrees
import Stencil.Proofs.CatalogInstallation
import Stencil.Proofs.CoveredRendering

set_option autoImplicit false

/-!
Composed calls. The value of a tree of calls is what the functions of the catalog make of the values of
its parts, from the bottom up, and the first call that fails decides the error. A source that is one tag
of the tree shows this value, or fails with this error (`render_composes`).
-/

namespace Stencil

open Template (Path Leaf named)

/-! ### Values of trees -/

/-- The value of a leaf, where `look` looks paths up. -/
def Template.Leaf.value (look : Path → Rendered Json) : Leaf → Rendered Json
  | .literal word => .ok word.value
  | .path word => look word.path

mutual

/-- The value of a tree: the positional arguments from left to right, then the options in the order of
their names, and then the function of the catalog on these. -/
def CallTree.value (now : Calendar.Instant) (look : Path → Rendered Json) :
    CallTree → Rendered Json
  | .leaf word => word.value look
  | .call helper args => do
    let arguments ← args.values now look
    let options ← (named (args.options now look)).mapM fun (key, value) => return (key, ← value)
    (Catalog.run ⟨helper.name, arguments, options, now⟩).mapError .helper

/-- The values of the positional arguments. -/
def CallArguments.values (now : Calendar.Instant) (look : Path → Rendered Json) :
    CallArguments → Rendered (List Json)
  | .last none tree => return [← tree.value now look]
  | .last (some _) _ => return []
  | .next none tree args => return (← tree.value now look) :: (← args.values now look)
  | .next (some _) _ args => args.values now look

/-- The options as they are written. -/
def CallArguments.options (now : Calendar.Instant) (look : Path → Rendered Json) :
    CallArguments → List (Option String × Rendered Json)
  | .last none _ => []
  | .last (some key) tree => [(some key.name, tree.value now look)]
  | .next none _ args => args.options now look
  | .next (some key) tree args => (some key.name, tree.value now look) :: args.options now look

end

/-- What a path leads to from the data; what is missing is null. -/
def lookedUp (data : Json) (path : Path) : Rendered Json :=
  (Render.resolve data [Render.Scope.ofData data] path).map (·.getD .null)

namespace Template

theorem named_filter {α : Type} (arguments : List (Option String × α)) :
    named (arguments.filter (·.1.isSome)) = named arguments := by
  rw [named_eq_foldl, named_eq_foldl, List.foldl_filter]
  congr 1
  funext entries argument
  obtain ⟨key, value⟩ := argument
  cases key with
  | none => rfl
  | some key => rfl

end Template

namespace Render

open Template (Operand Argument)

/-- A helper of the catalog is called with its function. -/
theorem callValue_catalog {engine : Engine} (serves : engine.ServesCatalog) (helper : CatalogHelper)
    (now : Calendar.Instant) (arguments : Arguments) :
    callValue (engine.environment now) helper.name arguments =
      (Catalog.run ⟨helper.name, arguments.positional, arguments.options, now⟩).mapError .helper := by
  have served : (engine.environment now).helper? helper.name = some helper.entry.run :=
    serves helper.entry helper.listed
  have found : Catalog.find? helper.name = some helper.entry := Catalog.find?_of_mem helper.listed
  have present : (engine.environment now).now = now := rfl
  simp only [callValue, served, Catalog.run, found, runRegistered, present]
  cases helper.entry.run ⟨helper.name, arguments.positional, arguments.options, now⟩ <;> rfl

/-- The positional values of evaluated arguments. -/
def positionalOf (evaluated : List (Option String × Rendered Json)) : List (Rendered Json) :=
  evaluated.filterMap fun (key, value) => if key.isNone then some value else none

@[simp] theorem positionalOf_nil : positionalOf [] = [] := rfl

@[simp] theorem positionalOf_none (value : Rendered Json)
    (evaluated : List (Option String × Rendered Json)) :
    positionalOf ((none, value) :: evaluated) = value :: positionalOf evaluated := rfl

@[simp] theorem positionalOf_some (key : String) (value : Rendered Json)
    (evaluated : List (Option String × Rendered Json)) :
    positionalOf ((some key, value) :: evaluated) = positionalOf evaluated := rfl

/-- The options in the order of their names. -/
def inOrderOfNames (options : List (Option String × Rendered Json)) :
    Rendered (List (String × Json)) :=
  (named options).mapM fun (key, value) => return (key, ← value)

theorem gather_eq (evaluated : List (Option String × Rendered Json)) :
    Arguments.gather evaluated = (positionalOf evaluated).mapM id >>= fun positional =>
      inOrderOfNames (evaluated.filter (·.1.isSome)) >>= fun options => .ok ⟨positional, options⟩ := by
  rw [inOrderOfNames, Template.named_filter]
  rfl

mutual

/-- Evaluating what a tree is read as gives the tree's value. -/
theorem evaluate_operand {engine : Engine} (serves : engine.ServesCatalog) (now : Calendar.Instant)
    (data : Json) (tree : CallTree) :
    (evaluate (engine.environment now) data [Scope.ofData data] tree.operand).map (·.getD .null) =
      tree.value now (lookedUp data) := by
  match tree with
  | .leaf (.literal word) => rfl
  | .leaf (.path word) => rfl
  | .call helper args =>
    obtain ⟨values, options⟩ := evaluateArguments_written serves now data args
    have call : ∀ arguments : Arguments,
        ((callValue (engine.environment now) helper.name arguments).map some).map (·.getD .null) =
          (Catalog.run ⟨helper.name, arguments.positional, arguments.options, now⟩).mapError
            .helper := by
      intro arguments
      rw [callValue_catalog serves]
      cases Catalog.run ⟨helper.name, arguments.positional, arguments.options, now⟩ <;> rfl
    rw [CallTree.operand, evaluate_call _ rfl, gather_eq, values, options, CallTree.value]
    cases args.values now (lookedUp data) with
    | error error => rfl
    | ok values =>
      show _ = (inOrderOfNames (args.options now (lookedUp data)) >>= fun options =>
        (Catalog.run ⟨helper.name, values, options, now⟩).mapError .helper)
      cases inOrderOfNames (args.options now (lookedUp data)) with
      | error error => rfl
      | ok options => exact call ⟨values, options⟩

/-- The values of the positional arguments, and the options as they are written. -/
theorem evaluateArguments_written {engine : Engine} (serves : engine.ServesCatalog)
    (now : Calendar.Instant) (data : Json) (args : CallArguments) :
    (positionalOf (evaluateArguments (engine.environment now) data [Scope.ofData data]
        args.written)).mapM id = args.values now (lookedUp data) ∧
    (evaluateArguments (engine.environment now) data [Scope.ofData data] args.written).filter
        (·.1.isSome) = args.options now (lookedUp data) := by
  match args with
  | .last none tree =>
    have value := evaluate_operand serves now data tree
    simp [CallArguments.written, evaluateArguments, value, CallArguments.values,
      CallArguments.options]
  | .last (some key) tree =>
    have value := evaluate_operand serves now data tree
    simp [CallArguments.written, evaluateArguments, value, CallArguments.values,
      CallArguments.options]
  | .next none tree args =>
    have value := evaluate_operand serves now data tree
    obtain ⟨values, options⟩ := evaluateArguments_written serves now data args
    simp [CallArguments.written, evaluateArguments, value, CallArguments.values,
      CallArguments.options, values, options]
  | .next (some key) tree args =>
    have value := evaluate_operand serves now data tree
    obtain ⟨values, options⟩ := evaluateArguments_written serves now data args
    simp [CallArguments.written, evaluateArguments, value, CallArguments.values,
      CallArguments.options, values, options]

end

/-! ### Rendering -/

theorem text_write {state : State} (plain : state.indent = "") (text : String) :
    (state.write text).text = state.text ++ text := by
  unfold State.write
  cases chars : text.toList with
  | nil =>
    obtain rfl : text = "" := String.toList_eq_nil_iff.mp chars
    simp
  | cons c rest => simp [plain]

theorem text_settle (before after : State) : (before.settle after).text = after.text := by
  unfold State.settle
  split <;> rfl

/-- A registered helper writes its value. -/
theorem text_of_registered {environment : Environment} {name : String} {helper : Helper}
    (served : environment.helper? name = some helper) (arguments : Arguments) (data : Json) :
    (renderCall environment "helperMissing" name arguments [] false nothing nothing
        (State.start data)).map State.text =
      (callValue environment name arguments).map Json.shown := by
  simp only [renderCall, callValue, served, State.runHelper]
  cases runRegistered environment helper name arguments with
  | error error => rfl
  | ok value => exact congrArg Except.ok (by simp [text_settle, text_write, State.start])

/-- A tag writes the value of a call. -/
theorem text_of_call {engine : Engine} (serves : engine.ServesCatalog) (now : Calendar.Instant)
    (data : Json) (helper : CatalogHelper) (args : CallArguments) :
    (renderValue (engine.environment now) data (CallTree.call helper args).expression
        (State.start data)).map State.text =
      ((CallTree.call helper args).value now (lookedUp data)).map Json.shown := by
  have served : (engine.environment now).helper? helper.name = some helper.entry.run :=
    serves helper.entry helper.listed
  have named : (CallTree.call helper args).expression.head.name? = some helper.name := rfl
  have filled : (CallTree.call helper args).expression.arguments.isEmpty = false := by
    simpa [CallTree.expression] using args.written_ne_nil
  have tag : renderValue (engine.environment now) data (CallTree.call helper args).expression
      (State.start data) =
        Arguments.gather (evaluateArguments (engine.environment now) data [Scope.ofData data]
          args.written) >>= fun arguments => renderCall (engine.environment now) "helperMissing"
            helper.name arguments [] false nothing nothing (State.start data) := by
    simp only [renderValue, filled, evaluateExpression_of_name? (engine.environment now) named,
      bind_assoc]
    rfl
  rw [tag, ← evaluate_operand serves, CallTree.operand, evaluate_call _ rfl]
  cases Arguments.gather (evaluateArguments (engine.environment now) data [Scope.ofData data]
      args.written) with
  | error error => rfl
  | ok arguments =>
    have written := text_of_registered served arguments data
    have called : (((callValue (engine.environment now) helper.name arguments).map some).map
        (·.getD .null)).map Json.shown =
          (callValue (engine.environment now) helper.name arguments).map Json.shown := by
      cases callValue (engine.environment now) helper.name arguments <;> rfl
    exact written.trans called.symm

/-- A path that no helper is named by shows what it leads to. -/
theorem text_of_path {engine : Engine} (now : Calendar.Instant) (data : Json)
    (path : Template.WrittenPath)
    (free : engine.helpers.find? path.path.raw = none ∧ Builtin.find? path.path.raw = none ∧
      engine.helpers.find? "helperMissing" = none) :
    (renderValue (engine.environment now) data ⟨.path path.path, []⟩ (State.start data)).map
        State.text = (lookedUp data path.path).map Json.shown := by
  have plain : ((((engine.environment now).helper? path.path.raw).isSome ||
      (Builtin.find? path.path.raw).isSome)) = false := by
    have helper : (engine.environment now).helper? path.path.raw = none := free.1
    rw [helper, free.2.1]
    rfl
  rw [renderValue_of_path _ rfl rfl plain]
  show (resolve data [Scope.ofData data] path.path >>= fun found =>
    writeFound (engine.environment now) path.path.raw found (State.start data)).map State.text = _
  unfold lookedUp
  cases resolve data [Scope.ofData data] path.path with
  | error error => rfl
  | ok found =>
    cases found with
    | some value => exact congrArg Except.ok (by simp [text_write, State.start])
    | none =>
      have missing : (engine.environment now).helper? "helperMissing" = none := free.2.2
      show (writeFound (engine.environment now) path.path.raw none (State.start data)).map
        State.text = _
      rw [writeFound, missing]
      rfl

/-- A path that is the name of a helper runs the helper, without arguments. -/
theorem text_of_helperName {engine : Engine} (serves : engine.ServesCatalog) (now : Calendar.Instant)
    (data : Json) (helper : CatalogHelper) {path : Path} (same : path.raw = helper.name) :
    (renderValue (engine.environment now) data ⟨.path path, []⟩ (State.start data)).map State.text =
      ((Catalog.run ⟨helper.name, [], [], now⟩).mapError RenderError.helper).map Json.shown := by
  have served : (engine.environment now).helper? path.raw = some helper.entry.run := by
    rw [same]
    exact serves helper.entry helper.listed
  have tag : renderValue (engine.environment now) data ⟨.path path, []⟩ (State.start data) =
      renderCall (engine.environment now) "helperMissing" path.raw ⟨[], []⟩ [] false nothing nothing
        (State.start data) := by
    have some : (((engine.environment now).helper? path.raw).isSome ||
        (Builtin.find? path.raw).isSome) = true := by
      rw [served]
      rfl
    simp only [renderValue, List.isEmpty_nil, if_true, headName]
    show (if _ then _ else _) = _
    rw [if_pos some]
  rw [tag, text_of_registered served, same, callValue_catalog serves]

/-- A template that is one value tag has the text that the tag writes. -/
theorem render_tag (environment : Environment) (expression : Template.Expression) (data : Json) :
    render environment [.value expression] data =
      (renderValue environment data expression (State.start data)).map State.text := by
  show (renderValue environment data expression (State.start data) >>= nothing).map State.text = _
  cases renderValue environment data expression (State.start data) <;> rfl

end Render

/-- True for a tree that is shown by its value as a tag: a call, or a path that neither begins with
`else` nor is the name of a helper. -/
def CallTree.Shows (engine : Engine) : CallTree → Prop
  | .leaf (.literal _) => False
  | .leaf (.path word) => Text.after? "else".toList word.text = none ∧
      engine.helpers.find? word.path.raw = none ∧ Render.Builtin.find? word.path.raw = none ∧
      engine.helpers.find? "helperMissing" = none
  | .call _ _ => True

namespace Render

variable {engine : Engine} {tree : CallTree}

theorem canBeTag_of_shows (shows : tree.Shows engine) : tree.CanBeTag := by
  cases tree with
  | leaf word =>
    cases word with
    | literal word => cases shows
    | path word => exact shows.1
  | call helper args => exact trivial

/-- A tag of a tree shows the tree's value, or fails with the tree's error. -/
theorem render_expression (serves : engine.ServesCatalog) (shows : tree.Shows engine)
    (now : Calendar.Instant) (data : Json) :
    render (engine.environment now) [.value tree.expression] data =
      (tree.value now (lookedUp data)).map Json.shown := by
  rw [render_tag]
  cases tree with
  | leaf word =>
    cases word with
    | literal word => cases shows
    | path word => exact text_of_path now data word shows.2
  | call helper args => exact text_of_call serves now data helper args

/-- A template that is registered is the one that is rendered. -/
theorem render_registered (engine : Engine) (name : String) (template : Template)
    (now : Calendar.Instant) (data : Json) :
    (engine.registerTemplate name template).render now name data =
      render ((engine.registerTemplate name template).environment now) template data := by
  have held : (engine.registerTemplate name template).templates.find? name = some template :=
    Table.find?_put_self _ _ _
  rw [Engine.render, held]

theorem servesCatalog_registerTemplate (serves : engine.ServesCatalog) (name : String)
    (template : Template) : (engine.registerTemplate name template).ServesCatalog := serves

theorem shows_registerTemplate (shows : tree.Shows engine) (name : String) (template : Template) :
    tree.Shows (engine.registerTemplate name template) := by
  cases tree with
  | leaf word =>
    cases word with
    | literal word => cases shows
    | path word => exact shows
  | call helper args => exact trivial

/-- A tag of a tree shows the tree's value wherever it is registered. -/
theorem render_registered_expression (serves : engine.ServesCatalog) (shows : tree.Shows engine)
    (name : String) (now : Calendar.Instant) (data : Json) :
    (engine.registerTemplate name [.value tree.expression]).render now name data =
      (tree.value now (lookedUp data)).map Json.shown := by
  rw [render_registered]
  exact render_expression (servesCatalog_registerTemplate serves name _)
    (shows_registerTemplate shows name _) now data

open Template (WrittenLiteral WrittenPath apart_of_bracketed apart_of_unbracketed)

/-- An engine with the catalog and nothing else. -/
def catalogEngine : Engine := Engine.empty.installCatalog

theorem servesCatalog_catalogEngine : catalogEngine.ServesCatalog :=
  Engine.servesCatalog_installCatalog rfl

def bracketedName : WrittenPath :=
  ⟨"[first name]".toList, ⟨"[first name]", [.named "first name"]⟩, by decide +kernel,
    by decide +kernel,
    apart_of_bracketed "first name]".toList (by decide +kernel) (by decide +kernel)⟩

def firstItem : WrittenPath :=
  ⟨"items.[0]".toList, ⟨"items.[0]", [.named "items", .named "0"]⟩, by decide +kernel,
    by decide +kernel, apart_of_unbracketed (by decide +kernel)⟩

def writtenAnn : WrittenLiteral := ⟨"\"ann\"".toList, .string "ann", 6, rfl⟩

def writtenNone : WrittenLiteral := ⟨"\"none\"".toList, .string "none", 7, rfl⟩

def defaultOption : OptionName := ⟨"default", by decide, List.all_eq_true.mp rfl⟩

/-- The tree of `switch (default [first name] "ann") "ann" default="none" (concat items.[0] "ann")`. -/
def switchTree : CallTree :=
  .call (.ofName "switch" (by decide +kernel))
    (.next none (.call (.ofName "default" (by decide +kernel))
      (.next none (.leaf (.path bracketedName)) (.last none (.leaf (.literal writtenAnn)))))
    (.next none (.leaf (.literal writtenAnn))
    (.next (some defaultOption) (.leaf (.literal writtenNone))
    (.last none (.call (.ofName "concat" (by decide +kernel))
      (.next none (.leaf (.path firstItem)) (.last none (.leaf (.literal writtenAnn)))))))))

def itemsByName : WrittenPath :=
  ⟨"items.foo".toList, ⟨"items.foo", [.named "items", .named "foo"]⟩, by decide +kernel,
    by decide +kernel, apart_of_unbracketed (by decide +kernel)⟩

/-- The tree of `default items.foo "ann"`. -/
def fallbackTree : CallTree :=
  .call (.ofName "default" (by decide +kernel))
    (.next none (.leaf (.path itemsByName)) (.last none (.leaf (.literal writtenAnn))))

/-- A path that is the name of a helper. -/
def helperNamed : WrittenPath :=
  ⟨"first".toList, ⟨"first", [.named "first"]⟩, by decide +kernel, by decide +kernel,
    apart_of_unbracketed (by decide +kernel)⟩

/-- What a path leads to, and null if it leads to nothing for any reason. -/
def lookedUpOrNull (data : Json) (path : Path) : Rendered Json :=
  .ok ((lookedUp data path).toOption.getD .null)

end Render

end Stencil
