import FluentSql.Proofs.Directory
import FluentSql.Proofs.Session.Look
import FluentSql.Proofs.Session.Reaching
import FluentSql.Proofs.Session.Writing

set_option autoImplicit false

/-!
# The statement with which a write opens

Outside a simulation a write first looks for its executor, then checks and compiles, and only then
does anything that others could notice. So the first statement of a write, or the reason why there
is none, can be told from the session beforehand; and a write that fails before its first statement
leaves the session as it was, the predicates of an update-or-insert included.

## Main definitions

* `FluentSql.Session.opening` — the statement with which a write opens.

## Main results

* `FluentSql.Act.reaches_make` — a write hands its opening statement over first, or does nothing.
* `FluentSql.Session.opening_congr` — what the opening statement depends on.
-/

namespace FluentSql

/-! ## Opening statements -/

namespace Session

/-- The statement with which the write of a builder opens, by the kind of the write. An insertion is
prepared to the end, and an update-or-insert compares its attributes in the place of the builder's
own predicates. -/
def openingOf (s : Session) (id : Nat) (b : Builder) : WriteKind → Value → Except Error Statement
  | .insert, rows => do
    let statement ← insertStatement b.table (s.current rows)
    let _ ← insertedData (s.current rows)
    return statement.toStatement
  | .update, values => do
    let statement ← (s.currentQuery b.descriptor).updateStatement values
    return statement.toStatement
  | .delete, _ => do
    let statement ← (s.currentQuery b.descriptor).deleteStatement
    return statement.toStatement
  | .increment, data => stepOpening false data
  | .decrement, data => stepOpening true data
  | .updateOrInsert, data => do
    let attributes ← data.subscript "attributes"
    let values ← data.subscript "values"
    let wanted ← attributes.fields "items"
    let wheres ← Act.attributePredicates wanted
    let query := (s.withWheres id wheres).currentQuery { b.descriptor with wheres }
    let statement ← query.updateStatement (values.orElse attributes)
    return statement.toStatement
where
  /-- The statement with which an increment or a decrement opens. -/
  stepOpening (decrement : Bool) (data : Value) : Except Error Statement := do
    let column ← data.subscript "column"
    let amount ← data.getOr "amount" (.int 1)
    let statement ← (s.currentQuery b.descriptor).incrementStatement column amount decrement
    let _ ← data.toFields
    return statement.toStatement

/-- The statement with which the write of a builder opens: an executor has to serve the builder, and
the write has to pass its check. -/
def opening (s : Session) (id : Nat) : Except Error Statement :=
  match s.builders.get? id with
  | none => .error .missingKey
  | some b => do
    let _ ← s.servant b
    let (kind, data) ← b.descriptor.checkedAction
    s.openingOf id b kind (s.current data)

/-! ## What they depend on -/

variable {s t : Session}

/-- Which executor serves a builder depends on the configurations alone. -/
theorem servant_congr (h : s.configs = t.configs) (b : Builder) : s.servant b = t.servant b := by
  have hconfig : s.config = t.config := by
    funext id
    rw [config, config, h]
  rw [servant, servant, executorFor, executorFor, hconfig]

/-- The opening statement depends on the builders and the configurations alone.

**Proof sketch.** It is compiled from what the values of the query have come to, which depends on
what can be looked at, and in the dialect of the executor that serves it. -/
theorem opening_congr (hbuilders : s.builders = t.builders) (hlinked : s.linked = t.linked)
    (hconfigs : s.configs = t.configs) (id : Nat) : s.opening id = t.opening id := by
  have hcurrent : s.current = t.current :=
    funext (current_congr (visible_congr hbuilders) hlinked)
  have hquery : s.currentQuery = t.currentQuery :=
    funext (currentQuery_congr (visible_congr hbuilders) hlinked)
  have hservant : s.servant = t.servant := funext (servant_congr hconfigs)
  have hwheres : ∀ wheres, (s.withWheres id wheres).currentQuery =
      (t.withWheres id wheres).currentQuery := by
    intro wheres
    have hsame : (s.withWheres id wheres).builders = (t.withWheres id wheres).builders := by
      rw [withWheres, changed, withWheres, changed, hbuilders]
    exact funext (currentQuery_congr (visible_congr hsame) hlinked)
  have hof : ∀ b kind data, s.openingOf id b kind data = t.openingOf id b kind data := by
    intro b kind data
    cases kind <;>
      simp only [openingOf, openingOf.stepOpening, hcurrent, hquery, hwheres]
  simp only [opening, hbuilders, hservant, hcurrent, hof]

end Session

/-! ## Reaching the executor -/

namespace Act

variable {reactor : Reactor} {s : Session} {id : Nat} {b : Builder} {executor : Nat}

/-- An announced statement is handed over if its executor is there. -/
theorem handsOver_dispatch (hreactor : reactor.KeepsExecutors)
    (hb : s.builders.get? id = some b) (he : (s.executors.get? executor).isSome = true)
    (action : TriggerAction) (statement : WriteStatement) (data : Value) :
    s.HandsOver statement.toStatement
      ((dispatch id executor action statement data).run reactor.muted s).2 := by
  rw [dispatch, run_bind, run_builder _ s hb]
  refine handsOver_trigger_bind hreactor rfl he fun u hu => ?_
  have hexecuted : ∀ method, u.HandsOver statement.toStatement
      ((execute executor method statement.toStatement >>= fun report =>
        of (WriteResult.ofReport report) >>= fun result =>
        trigger b.options.events (.of .after action b.table)
          (Fields.set [("data", data), ("where", statement.predicate)] "result" result.toValue) >>=
        fun _ => pure result).run reactor.muted u).2 := by
    intro method
    refine handsOver_bind (handsOver_execute hu method) fun report => ?_
    exact keeps_bind (keeps_of _) fun result =>
      keeps_bind (keeps_trigger Frame.hands_heard _ _ _) fun _ => keeps_pure _
  rw [run_bind, run_offers]
  dsimp only
  cases ((u.executors.get? executor).map fun e => e.offers .runBlocking).getD false with
  | true => exact hexecuted .runBlocking
  | false => exact hexecuted .query

/-- Inserting rows reaches the executor with the opening statement of an insertion. -/
theorem reaches_runInsert (hreactor : reactor.KeepsExecutors) (hb : s.builders.get? id = some b)
    (he : (s.executors.get? executor).isSome = true) (rows : Value) :
    Reaches reactor s (runInsert id executor rows) (s.openingOf id b .insert rows) := by
  refine reaches_bind_of_run_eq_ok (run_current _ s rows) ?_
  refine reaches_bind_of_run_eq_ok (run_builder _ s hb) ?_
  refine reaches_bind_of_run (run_of _ s _) fun statement _ => ?_
  refine reaches_bind_of_run (run_of _ s _) fun data _ => reaches_of_handsOver ?_
  exact handsOver_dispatch hreactor hb he .insert statement data

/-- A statement that is compiled from the query of a builder is the first one. -/
theorem reaches_compiled {α : Type} {d : Descriptor}
    {compile : Descriptor → Except Error WriteStatement} {rest : WriteStatement → Act α}
    {reached : WriteStatement → Except Error Statement}
    (hd : (currentQuery id).run reactor.muted s = (.ok d, s))
    (h : ∀ statement, Reaches reactor s (rest statement) (reached statement)) :
    Reaches reactor s (currentQuery id >>= fun d => of (compile d) >>= rest)
      (compile d >>= reached) :=
  reaches_bind_of_run_eq_ok hd (reaches_bind_of_run (run_of _ s _) fun statement _ => h statement)

/-- An increment or a decrement reaches the executor with its opening statement. -/
theorem reaches_runIncrement (hreactor : reactor.KeepsExecutors)
    (hb : s.builders.get? id = some b) (he : (s.executors.get? executor).isSome = true)
    (decrement : Bool) (data : Value) :
    Reaches reactor s (runIncrement id executor decrement data)
      (Session.openingOf.stepOpening s b decrement data) := by
  refine reaches_bind_of_run (run_of _ s _) fun column _ => ?_
  refine reaches_bind_of_run (run_of _ s _) fun amount _ => ?_
  refine reaches_compiled (run_currentQuery _ s hb) fun statement => ?_
  refine reaches_bind_of_run (run_of _ s _) fun fields _ => reaches_of_handsOver ?_
  exact handsOver_dispatch hreactor hb he .update statement (.map fields)

/-- Other predicates in the place of a builder's own do not get in the way: what fails with them
before it reaches an executor leaves the builder with its own. -/
theorem reaches_withWheres {α : Type} {wheres : List Predicate} {body : Act α}
    {reached : Except Error Statement} (hb : s.builders.get? id = some b)
    (h : Reaches reactor (s.withWheres id wheres) body reached) :
    Reaches reactor s (withWheres id wheres body) reached := by
  obtain ⟨hfails, hhands⟩ := h
  rw [Reaches, run_withWheres hb]
  refine ⟨fun e he => ?_, fun statement hs => ?_⟩
  · rw [hfails e he]
    dsimp only
    rw [Session.withWheres_withWheres hb]
  · -- What is handed over with them is not taken back with them.
    exact (hhands statement hs).after (Frame.hands_of_eq rfl)

/-- Every write reaches the executor with its opening statement. -/
theorem reaches_runWrite (hreactor : reactor.KeepsExecutors) (hb : s.builders.get? id = some b)
    (he : (s.executors.get? executor).isSome = true) (kind : WriteKind) (data : Value) :
    Reaches reactor s (runWrite id executor kind data) (s.openingOf id b kind data) := by
  cases kind with
  | insert => exact reaches_runInsert hreactor hb he data
  | update =>
    refine reaches_compiled (run_currentQuery _ s hb) fun statement => reaches_of_handsOver ?_
    exact handsOver_dispatch hreactor hb he .update statement data
  | delete =>
    refine reaches_compiled (run_currentQuery _ s hb) fun statement => reaches_of_handsOver ?_
    exact handsOver_dispatch hreactor hb he .delete statement .null
  | increment => exact reaches_runIncrement hreactor hb he false data
  | decrement => exact reaches_runIncrement hreactor hb he true data
  | updateOrInsert =>
    refine reaches_bind_of_run (run_of _ s _) fun attributes _ => ?_
    refine reaches_bind_of_run (run_of _ s _) fun values _ => ?_
    refine reaches_bind_of_run (run_of _ s _) fun wanted _ => ?_
    refine reaches_bind_of_run (run_of _ s _) fun wheres _ => reaches_withWheres hb ?_
    have ht := Session.get?_withWheres hb wheres
    refine reaches_compiled (run_currentQuery _ _ ht) fun statement => reaches_of_handsOver ?_
    -- The INSERT that may follow the UPDATE comes after it.
    refine handsOver_bind (handsOver_dispatch hreactor ht he .update statement values)
      fun result => ?_
    have hruns : ∀ statement, Executes (Frame.hands fun _ => True) reactor.muted statement :=
      fun _ => executes_hands (fun _ _ => trivial) fun _ _ => trivial
    split
    · exact keeps_pure _
    · refine keeps_bind (keeps_of _) fun row => ?_
      exact keeps_runInsert Frame.hands_heard (fun _ _ _ _ => keeps_execute (hruns _) _) _ _

/-- A write reaches the executor with its opening statement: it does nothing if it has none, else
the statement is the first thing that it hands over.

**Proof sketch.** Everything before the first statement only looks at the session, except that an
update-or-insert compiles with other predicates in the place of the builder's own, and these are
taken back if it does not compile. -/
theorem reaches_make (hreactor : reactor.KeepsExecutors) (hb : s.builders.get? id = some b)
    (hreal : s.simulating b.options.simulation = false)
    (he : ∀ executor, s.servant b = .ok executor → (s.executors.get? executor).isSome = true) :
    Reaches reactor s (make id) (s.opening id) := by
  rw [Reaches, run_make_eq_makeReal hb hreal, Session.opening, hb]
  refine reaches_bind_of_run_eq_ok (run_builder _ s hb) ?_
  refine reaches_bind_of_run (run_executorOf s b) fun executor hexecutor => ?_
  refine reaches_bind_of_run (run_of _ s _) fun checked _ => ?_
  refine reaches_bind_of_run_eq_ok (run_current _ s _) ?_
  refine (reaches_runWrite hreactor hb (he executor hexecutor) checked.1 _).bind fun result => ?_
  have hclear : Keeps (Frame.hands fun _ => True) reactor.muted (clearPending id) :=
    fun _ => Frame.hands_of_eq rfl
  exact keeps_bind hclear fun _ => keeps_pure _

end Act

end FluentSql
