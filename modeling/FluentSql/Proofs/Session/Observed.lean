import FluentSql.Proofs.Session.Hearing
import FluentSql.Proofs.Session.Hushed
import FluentSql.Proofs.Session.Retry

set_option autoImplicit false

/-!
# What can be observed of a write

Outside a simulation a write is seen from outside as a sequence of events and of statements that
executors run. Every statement comes with an event before it, and one after it if the executor's
answer can be read as the outcome of a write. All writes have one statement but an update-or-insert,
which has an INSERT after its UPDATE if that changed no row.

What is observed does not count what listeners do meanwhile, as long as they leave the builder
alone. Whether they fail makes no difference.

## Main definitions

* `FluentSql.Observation`, `FluentSql.Observed` — what is observed between two sessions; an event is
  one that the listeners waiting for it hear, and then the bus (`FluentSql.Session.Announced`).
* `FluentSql.Dispatch` — a statement to be run, with what is announced of it;
  `FluentSql.Session.firstDispatch` and `FluentSql.Session.secondDispatch` are those of a write.
* `FluentSql.Dispatched`, `FluentSql.WriteRun` — what is observed of a statement and of a write.

## Main results

* `FluentSql.Act.runsOnce_execute` — running a statement runs it once.
* `FluentSql.Act.dispatched_dispatch` — what is observed of one statement.
* `FluentSql.Act.make_observed` — what is observed of a write.
-/

namespace FluentSql

/-! ## Observations -/

/-- What can be observed of a write. -/
inductive Observation where
  /-- An event was announced, with what it carries. -/
  | event (topic : String) (payload : Value)
  /-- An executor ran a statement by one of its methods, and answered or failed. -/
  | call (executor : Nat) (method : ExecutorMethod) (statement : Statement)
    (answer : Except Error Value)
  deriving Inhabited

namespace Session

/-- The method by which an executor is handed a write: the blocking one if it has it. -/
def writeMethod (s : Session) (executor : Nat) : ExecutorMethod :=
  if ((s.executors.get? executor).map fun e => e.offers .runBlocking).getD false then .runBlocking
  else .query

/-- Between two sessions one statement was run, and no other, and nobody heard an event. -/
def RunsOnce (statement : Statement) (s t : Session) : Prop :=
  (∃ h rest, t.trace.calls = s.trace.calls ++ h :: rest ∧ h.Carries statement ∧
    ∀ other ∈ rest, other.runs = false) ∧
  t.trace.events = s.trace.events

end Session

/-- What is observed between two sessions, step by step: events, each heard by the listeners that
wait for it and then by the bus, with what these do meanwhile; and statements that are run. Changes
of the builder itself are not observed. -/
inductive Observed (reactor : Reactor) (id : Nat) (manager : Option Nat) :
    Session → List Observation → Session → Prop
  | refl (s : Session) : Observed reactor id manager s [] s
  | event {s t u : Session} {seen : List Observation} {topic : String} {payload : Value}
    (hheard : s.Announced reactor manager topic payload t)
    (rest : Observed reactor id manager t seen u) :
    Observed reactor id manager s (.event topic payload :: seen) u
  | call {s t u : Session} {seen : List Observation} {executor : Nat} {statement : Statement}
    {answer : Except Error Value}
    (hrun : (Act.execute executor (s.writeMethod executor) statement).run reactor s = (answer, t))
    (honce : s.RunsOnce statement t) (rest : Observed reactor id manager t seen u) :
    Observed reactor id manager s
      (.call executor (s.writeMethod executor) statement answer :: seen) u
  | silent {s t : Session} {seen : List Observation} (change : Builder → Builder)
    (rest : Observed reactor id manager (s.changed id change) seen t) :
    Observed reactor id manager s seen t

section Observed

variable {reactor : Reactor} {id : Nat} {manager : Option Nat} {s t u : Session}
  {seen seen' : List Observation}

/-- What is observed first and what is observed then. -/
theorem Observed.trans (h : Observed reactor id manager s seen t)
    (h' : Observed reactor id manager t seen' u) :
    Observed reactor id manager s (seen ++ seen') u := by
  induction h with
  | refl => exact h'
  | event hheard _ ih => exact .event hheard (ih h')
  | call hrun honce _ ih => exact .call hrun honce (ih h')
  | silent change _ ih => exact .silent change (ih h')

/-- A change of the builder afterwards is not observed. -/
theorem Observed.changed (h : Observed reactor id manager s seen t) (change : Builder → Builder) :
    Observed reactor id manager s seen (t.changed id change) := by
  simpa using h.trans (.silent change (.refl _))

end Observed

/-! ## Statements to be run -/

/-- A statement that is to be run, with what it does and what is told of its data. -/
structure Dispatch where
  action : TriggerAction
  statement : WriteStatement
  data : Value
  deriving Inhabited

namespace Dispatch

/-- What is told of a statement before it runs. -/
def told (p : Dispatch) : Fields := [("data", p.data), ("where", p.statement.predicate)]

/-- What is told of a statement once it has a result. -/
def toldAfter (p : Dispatch) (result : WriteResult) : Fields :=
  [("data", p.data), ("where", p.statement.predicate), ("result", result.toValue)]

/-- The event about a statement: it is named after the time, the action and the table, and carries
these three and what else is told. -/
def event (p : Dispatch) (timing table : String) (told : Fields) : Observation :=
  .event ("querykit:trigger:" ++ timing ++ ":" ++ p.action.keyword ++ ":" ++ table)
    (.map (([("table", .text table), ("action", .text p.action.keyword),
      ("timing", .text timing)] : Fields) ++ told))

/-- The event before a statement. -/
def before (p : Dispatch) (table : String) : Observation := p.event "BEFORE" table p.told

/-- The event after a statement, which tells its result as well. -/
def after (p : Dispatch) (table : String) (result : WriteResult) : Observation :=
  p.event "AFTER" table (p.toldAfter result)

/-- What is observed once the outcome of a statement is there: the event after it, unless it failed
or its answer could not be read. -/
def afterwards (p : Dispatch) (table : String) : Except Error WriteResult → List Observation
  | .ok result => [p.after table result]
  | .error _ => []

/-- What is observed of a statement, given the executor's answer: the event before it, the statement
itself, and the event after it exactly if the answer can be read as the outcome of a write. -/
def observations (p : Dispatch) (table : String) (executor : Nat) (method : ExecutorMethod)
    (answer : Except Error Value) : List Observation :=
  p.before table :: .call executor method p.statement.toStatement answer ::
    p.afterwards table (answer >>= WriteResult.ofReport)

/-- What is told of a statement goes under names of its own. -/
theorem payload_told (p : Dispatch) (timing : Timing) (table : String) :
    (Trigger.of timing p.action table).payload p.told =
      .ok (.map ((Trigger.of timing p.action table).base ++ p.told)) := rfl

theorem payload_toldAfter (p : Dispatch) (timing : Timing) (table : String)
    (result : WriteResult) :
    (Trigger.of timing p.action table).payload (p.told.set "result" result.toValue) =
      .ok (.map ((Trigger.of timing p.action table).base ++ p.toldAfter result)) := rfl

end Dispatch

namespace Session

/-- The INSERT of rows. -/
def insertDispatch (s : Session) (b : Builder) (rows : Value) : Except Error Dispatch := do
  let statement ← insertStatement b.table (s.current rows)
  let data ← insertedData (s.current rows)
  return { action := .insert, statement, data }

/-- The first statement of a write. That of an update-or-insert is the UPDATE of the rows that have
the attributes; with nothing to set it writes the attributes. -/
def firstDispatch (s : Session) (id : Nat) (b : Builder) : WriteKind → Value →
    Except Error Dispatch
  | .insert, rows => s.insertDispatch b rows
  | .update, values => do
    let statement ← (s.currentQuery b.descriptor).updateStatement values
    return { action := .update, statement, data := values }
  | .delete, _ => do
    let statement ← (s.currentQuery b.descriptor).deleteStatement
    return { action := .delete, statement, data := .null }
  | .increment, data => stepDispatch false data
  | .decrement, data => stepDispatch true data
  | .updateOrInsert, data => do
    let attributes ← data.subscript "attributes"
    let values ← data.subscript "values"
    let wanted ← attributes.fields "items"
    let wheres ← Act.attributePredicates wanted
    let query := (s.withWheres id wheres).currentQuery { b.descriptor with wheres }
    let statement ← query.updateStatement (values.orElse attributes)
    return { action := .update, statement, data := values }
where
  /-- The statement of an increment or a decrement. -/
  stepDispatch (decrement : Bool) (data : Value) : Except Error Dispatch := do
    let column ← data.subscript "column"
    let amount ← data.getOr "amount" (.int 1)
    let statement ← (s.currentQuery b.descriptor).incrementStatement column amount decrement
    let fields ← data.toFields
    return { action := .update, statement, data := .map fields }

/-- The second statement of an update-or-insert: the INSERT of its attributes and values. -/
def secondDispatch (s : Session) (b : Builder) (data : Value) : Except Error Dispatch := do
  let attributes ← data.subscript "attributes"
  let values ← data.subscript "values"
  let row ← mergedFields attributes values
  s.insertDispatch b (.list [.map row])

/-- The statement with which a write opens is that of its first dispatch. -/
theorem openingOf_eq_map_firstDispatch (s : Session) (id : Nat) (b : Builder) (kind : WriteKind)
    (data : Value) :
    s.openingOf id b kind data =
      (s.firstDispatch id b kind data).map fun p => p.statement.toStatement := by
  cases kind <;>
    simp only [openingOf, openingOf.stepOpening, firstDispatch, firstDispatch.stepDispatch,
      insertDispatch, map_bind_eq] <;>
    rfl

end Session

/-! ## What is observed of statements and writes -/

/-- What is observed of one statement, and its outcome: the executor's answer, read as the outcome
of a write. -/
def Dispatched (reactor : Reactor) (id : Nat) (b : Builder) (executor : Nat) (p : Dispatch)
    (s : Session) (seen : List Observation) (outcome : Except Error WriteResult) (t : Session) :
    Prop :=
  ∃ method answer, seen = p.observations b.table executor method answer ∧
    outcome = answer >>= WriteResult.ofReport ∧ Observed reactor id b.options.events s seen t

/-- What is observed of a write of a builder, and its outcome: that of its last statement. -/
inductive WriteRun (reactor : Reactor) (id : Nat) (b : Builder) (executor : Nat) (kind : WriteKind)
    (data : Value) (s : Session) :
    List Observation → Except Error WriteResult → Session → Prop
  /-- There is one statement. An update-or-insert stops if its UPDATE fails or changes rows. -/
  | one {p : Dispatch} {seen : List Observation} {outcome : Except Error WriteResult} {t : Session}
    (hp : s.firstDispatch id b kind data = .ok p)
    (hseen : Dispatched reactor id b executor p s seen outcome t)
    (hlast : kind = .updateOrInsert → ∀ result, outcome = .ok result →
      result.changes.truthy = true) :
    WriteRun reactor id b executor kind data s seen outcome t
  /-- The UPDATE of an update-or-insert changed no row, and the INSERT comes next. -/
  | two {p q : Dispatch} {seen seen' : List Observation} {result : WriteResult}
    {outcome : Except Error WriteResult} {t u : Session} (hkind : kind = .updateOrInsert)
    (hp : s.firstDispatch id b kind data = .ok p)
    (hseen : Dispatched reactor id b executor p s seen (.ok result) t)
    (hnone : result.changes.truthy = false) (hq : t.secondDispatch b data = .ok q)
    (hseen' : Dispatched reactor id b executor q t seen' outcome u) :
    WriteRun reactor id b executor kind data s (seen ++ seen') outcome u
  /-- The UPDATE of an update-or-insert changed no row, and there is no INSERT to be made of its
  attributes and values, such as when they are no mappings. -/
  | unprepared {p : Dispatch} {seen : List Observation} {result : WriteResult} {e : Error}
    {t u : Session} (hkind : kind = .updateOrInsert) (hp : s.firstDispatch id b kind data = .ok p)
    (hseen : Dispatched reactor id b executor p s seen (.ok result) t)
    (hnone : result.changes.truthy = false) (hq : t.secondDispatch b data = .error e)
    (hnothing : Observed reactor id b.options.events t [] u) :
    WriteRun reactor id b executor kind data s seen (.error e) u

/-- A report that is not an outcome itself is read with an integer for the rows that changed. -/
theorem WriteResult.exists_changes_of_ofReport {report : Value} {result : WriteResult}
    (h : ofReport report = .ok result)
    (hreport : ∀ changes lastId, report.bare ≠ .writeResult changes lastId) :
    ∃ n : Int, result.changes = .int n ∧ (result.changes.truthy = false ↔ n = 0) := by
  have hinfo : ∀ info, ofInfo info = .ok result →
      ∃ n : Int, result.changes = .int n ∧ (result.changes.truthy = false ↔ n = 0) := by
    intro info hinfo
    simp only [ofInfo, bind_eq_ok, pure_eq_ok, Except.ok.injEq] at hinfo
    obtain ⟨n, -, rfl⟩ := hinfo
    exact ⟨n, rfl, by simp [Value.truthy]⟩
  rw [ofReport] at h
  split at h
  · next changes lastId hbare => exact absurd hbare (hreport changes lastId)
  · split at h
    · split at h
      · exact hinfo _ h
      · exact hinfo _ h
    · exact hinfo _ h
  · split at h
    · split at h
      · exact hinfo _ h
      · exact hinfo _ h
    · exact hinfo _ h
  · rw [← Except.ok.inj h]
    exact ⟨0, rfl, by simp [Value.truthy]⟩
  · exact hinfo _ h

section WriteRun

variable {reactor : Reactor} {id executor : Nat} {b : Builder} {s t : Session}
  {seen : List Observation} {outcome : Except Error WriteResult}

/-- A change of the builder afterwards is not observed of a statement. -/
theorem Dispatched.changed {p : Dispatch}
    (h : Dispatched reactor id b executor p s seen outcome t) (change : Builder → Builder) :
    Dispatched reactor id b executor p s seen outcome (t.changed id change) := by
  obtain ⟨method, answer, hseen, houtcome, hobserved⟩ := h
  exact ⟨method, answer, hseen, houtcome, hobserved.changed change⟩

/-- Nor is it observed of a write. -/
theorem WriteRun.changed {kind : WriteKind} {data : Value}
    (h : WriteRun reactor id b executor kind data s seen outcome t) (change : Builder → Builder) :
    WriteRun reactor id b executor kind data s seen outcome (t.changed id change) := by
  cases h with
  | one hp hseen hlast => exact .one hp (hseen.changed change) hlast
  | two hkind hp hseen hnone hq hseen' => exact .two hkind hp hseen hnone hq (hseen'.changed change)
  | unprepared hkind hp hseen hnone hq hnothing =>
    exact .unprepared hkind hp hseen hnone hq (hnothing.changed change)

end WriteRun

namespace Act

variable {reactor : Reactor} {s : Session} {id executor : Nat} {b : Builder}

/-- Running a statement runs it once, and nobody hears of it.

**Proof sketch.** One thing happens that carries the statement. What follows it only finishes it,
and finishing announces nothing. -/
theorem runsOnce_execute (reactor : Reactor) (he : (s.executors.get? executor).isSome = true)
    (method : ExecutorMethod) (statement : Statement) :
    s.RunsOnce statement ((execute executor method statement).run reactor s).2 := by
  obtain ⟨e, he⟩ := Option.isSome_iff_exists.mp he
  obtain ⟨h, rest, hcarries, -, hrun, hrest⟩ := run_execute reactor he method statement
  let t : Session := { s with trace := { s.trace with calls := s.trace.calls ++ [h] } }
  have hstart : (happened h >>= rest).run reactor s = (rest ()).run reactor t := rfl
  rw [hrun, hstart]
  refine ⟨?_, ?_⟩
  · obtain ⟨ends, hcalls, hends⟩ := hrest _ (finishes_hands fun h hh => hh) t
    exact ⟨h, ends, by rw [hcalls, List.append_assoc, List.singleton_append], hcarries, hends⟩
  · have hevents : Finishes (.same fun s => s.trace.events) reactor statement :=
      ⟨fun _ _ _ => rfl, fun _ _ _ => rfl, fun _ => keeps_copy fun _ _ => rfl⟩
    exact hrest _ hevents t

/-- A statement is run by a method of its executor, and announced if its answer can be read. -/
def conclude (b : Builder) (executor : Nat) (p : Dispatch) (method : ExecutorMethod) :
    Act WriteResult := do
  let report ← execute executor method p.statement.toStatement
  let result ← of (WriteResult.ofReport report)
  trigger b.options.events (.of .after p.action b.table) (p.told.set "result" result.toValue)
  return result

/-- A statement is announced first, and then run by the method that its executor has. -/
theorem run_dispatch (hb : s.builders.get? id = some b) (p : Dispatch) :
    (dispatch id executor p.action p.statement p.data).run reactor s =
      (trigger b.options.events (.of .before p.action b.table) p.told >>= fun _ =>
        get >>= fun t => conclude b executor p (t.writeMethod executor)).run reactor s := by
  rw [dispatch, run_bind, run_builder reactor s hb]
  refine run_bind_congr reactor s fun _ u => ?_
  rw [run_bind, run_offers, run_bind, run_get]
  dsimp only
  rw [Session.writeMethod]
  cases ((u.executors.get? executor).map fun e => e.offers .runBlocking).getD false <;> rfl

/-- What is observed of one statement: it is announced, run by the method that the executor has, and
announced again if its answer can be read.

**Proof sketch.** Going through the dispatch, `Session.announced_announce` says what an announcement
is, and `runsOnce_execute` what running is. Where the executor fails, or its answer cannot be read,
nothing is observed after that. -/
theorem dispatched_dispatch (hkeeps : reactor.KeepsExecutors) (hb : s.builders.get? id = some b)
    (he : (s.executors.get? executor).isSome = true) (p : Dispatch) :
    ∃ seen outcome t, Dispatched reactor id b executor p s seen outcome t ∧
      (dispatch id executor p.action p.statement p.data).run reactor s = (outcome, t) := by
  let u := s.announce reactor b.options.events (Trigger.of .before p.action b.table).topic
    [.map ((Trigger.of .before p.action b.table).base ++ p.told)]
  have hu : (u.executors.get? executor).isSome = true :=
    Session.rel_announce (Frame.executors_heard hkeeps) _ _ _ s executor he
  rw [run_dispatch hb, run_bind, run_trigger (p.payload_told .before b.table)]
  dsimp only
  rw [run_bind, run_get]
  dsimp only
  let method := u.writeMethod executor
  rcases hrun : (execute executor method p.statement.toStatement).run reactor u with ⟨answer, v⟩
  have honce : u.RunsOnce p.statement.toStatement v := by
    have h := runsOnce_execute reactor hu method p.statement.toStatement
    rwa [hrun] at h
  have hseen : ∀ {outcome w}, answer >>= WriteResult.ofReport = outcome →
      Observed reactor id b.options.events v (p.afterwards b.table outcome) w →
      ∃ seen, Dispatched reactor id b executor p s seen outcome w := by
    rintro outcome w rfl hrest
    refine ⟨_, method, answer, rfl, rfl, .event ?_ (.call hrun honce hrest)⟩
    exact Session.announced_announce reactor _ _ _ s
  rw [conclude, run_bind, hrun]
  cases answer with
  | error e =>
    obtain ⟨seen, hseen⟩ := hseen rfl (.refl v)
    exact ⟨seen, .error e, v, hseen, rfl⟩
  | ok report =>
    dsimp only
    cases hread : WriteResult.ofReport report with
    | error e =>
      obtain ⟨seen, hseen⟩ := hseen hread (.refl v)
      exact ⟨seen, .error e, v, hseen, rfl⟩
    | ok result =>
      obtain ⟨seen, hseen⟩ :=
        hseen hread (.event (Session.announced_announce reactor _ _ _ v) (.refl _))
      refine ⟨seen, .ok result, _, hseen, ?_⟩
      rw [run_of_ok_bind, run_bind, run_trigger (p.payload_toldAfter .after b.table result)]
      rfl

/-! ## Writes -/

/-- Inserting rows runs their INSERT, if there is one. -/
theorem run_runInsert (hb : s.builders.get? id = some b) (rows : Value) :
    (runInsert id executor rows).run reactor s =
      (of (s.insertDispatch b rows) >>= fun q =>
        dispatch id executor q.action q.statement q.data).run reactor s := by
  rw [runInsert, run_bind, run_current]
  dsimp only
  rw [run_bind, run_builder reactor s hb, Session.insertDispatch]
  dsimp only
  cases insertStatement b.table (s.current rows) with
  | error e => rfl
  | ok statement => cases insertedData (s.current rows) <;> rfl

/-- A write that is no update-or-insert runs its one statement, if there is one. -/
theorem run_runWrite (hb : s.builders.get? id = some b) {kind : WriteKind}
    (hkind : kind ≠ .updateOrInsert) (data : Value) :
    (runWrite id executor kind data).run reactor s =
      (of (s.firstDispatch id b kind data) >>= fun p =>
        dispatch id executor p.action p.statement p.data).run reactor s := by
  have hquery : ∀ {α : Type} (f : Descriptor → Act α),
      (currentQuery id >>= f).run reactor s = (f (s.currentQuery b.descriptor)).run reactor s := by
    intro α f
    rw [run_bind, run_currentQuery reactor s hb]
  have hstep : ∀ decrement, (runIncrement id executor decrement data).run reactor s =
      (of (Session.firstDispatch.stepDispatch s b decrement data) >>= fun p =>
        dispatch id executor p.action p.statement p.data).run reactor s := by
    intro decrement
    rw [runIncrement, Session.firstDispatch.stepDispatch]
    cases data.subscript "column" with
    | error e => rfl
    | ok column =>
      cases data.getOr "amount" (.int 1) with
      | error e => rfl
      | ok amount =>
        refine (hquery _).trans ?_
        rw [ok_bind, ok_bind]
        cases (s.currentQuery b.descriptor).incrementStatement column amount decrement with
        | error e => rfl
        | ok statement =>
          rw [ok_bind]
          cases data.toFields <;> rfl
  cases kind with
  | insert => exact run_runInsert hb data
  | update =>
    refine (hquery _).trans ?_
    rw [Session.firstDispatch]
    cases (s.currentQuery b.descriptor).updateStatement data <;> rfl
  | delete =>
    refine (hquery _).trans ?_
    rw [Session.firstDispatch]
    cases (s.currentQuery b.descriptor).deleteStatement <;> rfl
  | increment => exact hstep false
  | decrement => exact hstep true
  | updateOrInsert => exact absurd rfl hkind

/-- What comes after an UPDATE that changed no row: the INSERT, or why there is none. -/
theorem writeRun_second {t : Session} {data : Value} {p : Dispatch} {seen : List Observation}
    {result : WriteResult} {wheres : List Predicate} (hkeeps : reactor.KeepsExecutors)
    (hp : s.firstDispatch id b .updateOrInsert data = .ok p)
    (hseen : Dispatched reactor id b executor p s seen (.ok result) t)
    (hnone : result.changes.truthy = false)
    (hb : t.builders.get? id = some (b.edit fun d => { d with wheres }))
    (he : (t.executors.get? executor).isSome = true) :
    ∃ seen outcome u, WriteRun reactor id b executor .updateOrInsert data s seen outcome u ∧
      (of (t.secondDispatch b data) >>= fun q =>
        dispatch id executor q.action q.statement q.data).run reactor t = (outcome, u) := by
  cases hq : t.secondDispatch b data with
  | error e => exact ⟨seen, .error e, t, .unprepared rfl hp hseen hnone hq (.refl t), rfl⟩
  | ok q =>
    obtain ⟨seen', outcome, u, hseen', hrun⟩ := dispatched_dispatch hkeeps hb he q
    exact ⟨seen ++ seen', outcome, u, .two rfl hp hseen hnone hq hseen', hrun⟩

/-- A statement that selects nothing leaves the builder alone, as the listeners that hear of it do,
and executors in their places. -/
theorem undisturbed_dispatch {t u : Session} {action : TriggerAction} {statement : WriteStatement}
    {data : Value} {outcome : Except Error WriteResult} (hkeeps : reactor.KeepsExecutors)
    (hwithin : reactor.Within (.entry id) s) (hlisteners : u.listeners = s.listeners)
    (hreads : statement.toStatement.reads = false)
    (hrun : (dispatch id executor action statement data).run reactor u = (outcome, t)) :
    t.builders.get? id = u.builders.get? id ∧
      ((u.executors.get? executor).isSome = true → (t.executors.get? executor).isSome = true) := by
  have hexecutes : ∀ {F : Frame}, F.Bears id → ∀ method,
      Keeps F reactor (execute executor method statement.toStatement) :=
    fun h => keeps_execute (h.executes hreads) executor
  have hbuilder := keeps_dispatch (Frame.among_heard (fun _ _ => rfl) hwithin)
    (hexecutes (Frame.bears_entry.among s.listeners)) id action data u
  have hexecutor := keeps_dispatch (Frame.executors_heard hkeeps)
    (hexecutes Frame.bears_executors) id action data u
  rw [hrun] at hbuilder hexecutor
  exact ⟨(hbuilder hlisteners).2, hexecutor executor⟩

/-- What is observed of an update-or-insert: its UPDATE, made with the attributes in the place of
the builder's own predicates, and then perhaps its INSERT. -/
theorem writeRun_runUpdateOrInsert (hkeeps : reactor.KeepsExecutors)
    (hwithin : reactor.Within (.entry id) s) (hb : s.builders.get? id = some b)
    (he : (s.executors.get? executor).isSome = true) {data : Value} {p : Dispatch}
    (hp : s.firstDispatch id b .updateOrInsert data = .ok p) :
    ∃ seen outcome t, WriteRun reactor id b executor .updateOrInsert data s seen outcome t ∧
      (runUpdateOrInsert id executor data).run reactor s = (outcome, t) := by
  have hprepared := hp
  simp only [Session.firstDispatch, bind_eq_ok, pure_eq_ok, Except.ok.injEq] at hprepared
  obtain ⟨attributes, hattributes, values, hvalues, wanted, hwanted, wheres, hwheres, statement,
    hstatement, rfl⟩ := hprepared
  let s' := s.withWheres id wheres
  let b' := b.edit fun d => { d with wheres }
  have hb' : s'.builders.get? id = some b' := Session.get?_withWheres hb wheres
  obtain ⟨seen, outcome, t, hseen, hrun⟩ := dispatched_dispatch hkeeps hb' he
    { action := .update, statement, data := values }
  have hlisteners : s'.listeners = s.listeners := rfl
  obtain ⟨hbt, hstaffed⟩ := undisturbed_dispatch hkeeps hwithin hlisteners
    (Descriptor.changesRows_updateStatement hstatement).reads_eq_false hrun
  have hseen : Dispatched reactor id b executor { action := .update, statement, data := values } s
      seen outcome t := by
    obtain ⟨method, answer, hobservations, houtcome, hobserved⟩ := hseen
    exact ⟨method, answer, hobservations, houtcome, .silent _ hobserved⟩
  have hcompiled : (s'.currentQuery b'.descriptor).updateStatement (values.orElse attributes) =
      .ok statement := hstatement
  rw [runUpdateOrInsert, hattributes, run_of_ok_bind, hvalues, run_of_ok_bind, hwanted,
    run_of_ok_bind, hwheres, run_of_ok_bind, run_withWheres hb, run_bind,
    run_currentQuery reactor s' hb']
  dsimp only
  rw [hcompiled, run_of_ok_bind, run_bind, hrun]
  cases outcome with
  | error e =>
    refine ⟨seen, .error e, _, .one hp (hseen.changed _) fun _ result h => ?_, rfl⟩
    cases h
  | ok result =>
    dsimp only
    cases hnone : result.changes.truthy with
    | true =>
      refine ⟨seen, .ok result, _, .one hp (hseen.changed _) fun _ other h => ?_, rfl⟩
      rwa [← Except.ok.inj h]
    | false =>
      obtain ⟨seen, outcome, u, hwrite, hrun'⟩ :=
        writeRun_second hkeeps hp hseen hnone (hbt.trans hb') (hstaffed he)
      have hinsert : (of (mergedFields attributes values) >>= fun row =>
          runInsert id executor (.list [.map row])).run reactor t = (outcome, u) := by
        rw [← hrun', Session.secondDispatch, hattributes, ok_bind, hvalues, ok_bind]
        cases mergedFields attributes values with
        | error e => rfl
        | ok row => rw [run_of_ok_bind, run_runInsert (hbt.trans hb')]; rfl
      rw [if_neg (by simp), hinsert]
      exact ⟨seen, outcome, _, hwrite.changed _, rfl⟩

/-- What is observed of the statements of a write. -/
theorem writeRun_runWrite (hkeeps : reactor.KeepsExecutors) (hwithin : reactor.Within (.entry id) s)
    (hb : s.builders.get? id = some b) (he : (s.executors.get? executor).isSome = true)
    {kind : WriteKind} {data : Value} {p : Dispatch}
    (hp : s.firstDispatch id b kind data = .ok p) :
    ∃ seen outcome t, WriteRun reactor id b executor kind data s seen outcome t ∧
      (runWrite id executor kind data).run reactor s = (outcome, t) := by
  by_cases hkind : kind = .updateOrInsert
  · subst hkind
    exact writeRun_runUpdateOrInsert hkeeps hwithin hb he hp
  · obtain ⟨seen, outcome, t, hseen, hrun⟩ := dispatched_dispatch hkeeps hb he p
    refine ⟨seen, outcome, t, .one hp hseen fun h => absurd h hkind, ?_⟩
    rw [run_runWrite hb hkind, hp, run_of_ok_bind, hrun]

/-- Outside a simulation, a write that passes its checks and compiles, as its opening statement
says, is observed so: for each of its statements the event before it, one call of an executor by the
method that it has, and the event after it exactly if the answer can be read as the outcome of a
write. Each event is heard by the listeners that wait for it, in the order of their subscriptions,
and then by the bus. An update-or-insert goes on to its INSERT exactly if its UPDATE changed no row;
the outcome is that of the last statement. A report is read with an integer for the rows changed,
unless it says so itself.

Listeners may do what they like but leave the builder alone and executors in their places. Where
they do the same, the write has the same outcome and leaves the same session, what executors ran
and what was heard included, whichever of them fail; only warnings differ.

**Proof sketch.** A dispatched statement is observed as said, and leaves the builder as it is, so
that the INSERT finds it with the attributes in the place of its predicates. That failures make no
difference goes through sequences, from announcements, which only write them down. -/
theorem make_observed {statement : Statement} (hb : s.builders.get? id = some b)
    (hreal : s.simulating b.options.simulation = false) (hopening : s.opening id = .ok statement)
    (hstaffed : s.staffed id = true) (hkeeps : reactor.KeepsExecutors)
    (hwithin : reactor.Within (.entry id) s) :
    (∃ executor kind data seen outcome t, s.servant b = .ok executor ∧
      b.descriptor.checkedAction = .ok (kind, data) ∧
      WriteRun reactor id b executor kind (s.current data) s seen outcome t ∧
      (make id).run reactor s = (outcome, t)) ∧
    (∀ (report : Value) (result : WriteResult), WriteResult.ofReport report = .ok result →
      (∀ changes lastId, report.bare ≠ .writeResult changes lastId) →
      ∃ n : Int, result.changes = .int n ∧ (result.changes.truthy = false ↔ n = 0)) ∧
    ∀ (reactor' : Reactor) (s' : Session), reactor.Alike reactor' → s.hushed = s'.hushed →
      ((make id).run reactor s).1 = ((make id).run reactor' s').1 ∧
        ((make id).run reactor s).2.hushed = ((make id).run reactor' s').2.hushed := by
  refine ⟨?_, fun _ _ => WriteResult.exists_changes_of_ofReport, fun reactor' s' hr h => ?_⟩
  · simp only [Session.opening, hb, bind_eq_ok] at hopening
    obtain ⟨executor, hservant, ⟨kind, data⟩, hchecked, hopening⟩ := hopening
    rw [Session.openingOf_eq_map_firstDispatch, map_eq_ok] at hopening
    obtain ⟨p, hp, -⟩ := hopening
    have he := Session.isSome_of_staffed hstaffed hb hservant
    obtain ⟨seen, outcome, t, hwrite, hrun⟩ := writeRun_runWrite hkeeps hwithin hb he hp
    rw [run_make_real hb hreal, hservant, hchecked]
    dsimp only
    rw [hrun]
    cases outcome with
    | error e => exact ⟨executor, kind, data, seen, .error e, t, rfl, rfl, hwrite, rfl⟩
    | ok result =>
      exact ⟨executor, kind, data, seen, .ok result, _, rfl, rfl, hwrite.changed _, rfl⟩
  · have hb' : s'.builders.get? id = some b := by rw [← Session.builders_of_hushed_eq h, hb]
    have hreal' : s'.simulating b.options.simulation = false := by
      rw [← hreal]
      exact (Session.eq_of_hushed_eq (fun t => t.simulating b.options.simulation)
        (fun _ => rfl) h).symm
    rw [run_make_eq_makeReal hb hreal, run_make_eq_makeReal hb' hreal']
    exact unheeding_makeReal hr id s s' h

/-- A session with an update-or-insert, an executor whose next answer is that no row changed, and a
listener and a bus that fail or do not. -/
def upserting (fails : Bool) : Session :=
  { Session.serving { Builder.new "t" {} with
      descriptor := { Descriptor.new "t" with
        pending := some { kind := "updateOrInsert", data := .map [
          ("attributes", .map [("k", .int 1)]), ("values", .map [("v", .int 2)])] } } } with
    configs := .single "main" { executor := some 0, bus := some 0 }
    executors := .single "db" {
      name := "db", dialect := none, awaited := false
      source := .plain [.runBlocking] (.list []) []
        [.answer (.map [("changes", .int 0)]), .answer (.map [("changes", .int 1)])] }
    buses := .single "bus" { name := "bus", fails }
    managers := .single "main" {
      subscriptions := [
        { event := "querykit:trigger:BEFORE:UPDATE:t", listener := "audit" },
        { event := "querykit:trigger:AFTER:INSERT:t", listener := "audit" },
        { event := "querykit:trigger:BEFORE:UPDATE:t", listener := "ledger" }] }
    listeners := [("audit", { fails, reaction := [] })] }

/-- The UPDATE of an update-or-insert is followed by its INSERT, and those who wait for the events
hear them before the bus does, whether they fail or not. -/
theorem make_observed_upserting :
    let events := ((make 0).run .still (upserting true)).2.trace.events
    (upserting true).hushed = (upserting false).hushed ∧
    (∃ executor kind data seen outcome t,
      WriteRun .still 0 ((upserting true).builders.items.headD default) executor kind data
        (upserting true) seen outcome t ∧
      (make 0).run .still (upserting true) = (outcome, t)) ∧
    ((make 0).run .still (upserting true)).1 = ((make 0).run .still (upserting false)).1 ∧
    ((make 0).run .still (upserting true)).2.trace.calls.map Happening.sql? =
      [some "UPDATE t SET v = ? WHERE k = ?", some "INSERT INTO t (k, v) VALUES (?, ?)"] ∧
    events.map Heard.hearer = ["audit", "ledger", "bus", "bus", "bus", "audit", "bus"] ∧
    events.filterMap Heard.topic? =
      ["querykit:trigger:BEFORE:UPDATE:t", "querykit:trigger:AFTER:UPDATE:t",
        "querykit:trigger:BEFORE:INSERT:t", "querykit:trigger:AFTER:INSERT:t"] := by
  have hhushed : (upserting true).hushed = (upserting false).hushed := rfl
  obtain ⟨⟨executor, kind, data, seen, outcome, t, -, -, hwrite, hrun⟩, -, hsame⟩ :=
    @make_observed .still (upserting true) 0 _
      { sql := "UPDATE t SET v = ? WHERE k = ?", bindings := [.int 2, .int 1] } rfl rfl rfl rfl
      (fun _ _ _ h => h) (Reactor.still_within _ _)
  refine ⟨hhushed, ⟨executor, kind, _, seen, outcome, t, hwrite, hrun⟩, ?_, by decide +kernel,
    by decide +kernel, by decide +kernel⟩
  exact (hsame .still (upserting false) (fun _ _ _ h => h) hhushed).1

end Act

end FluentSql
