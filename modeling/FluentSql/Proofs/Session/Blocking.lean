import FluentSql.Proofs.Session.Isolation
import FluentSql.Proofs.Session.Reaching

set_option autoImplicit false

/-!
# Requests in a running simulation

The requests that look at the simulation of their builder keep to it while it runs. The blocking
requests never look: once an executor offers their method and their query compiles, the executor is
handed the statement, simulation or no.

## Main definitions

* `FluentSql.Request.simulates`, `FluentSql.Request.blocks` — the two kinds of request.
* `FluentSql.Session.reached` — the statement with which a blocking request reaches an executor.

## Main results

* `FluentSql.Act.reaches_request` — a blocking request hands its statement over, or does nothing.
* `FluentSql.Act.request_keeps_to_simulation_iff` — which requests keep to a running simulation.
-/

namespace FluentSql

/-! ## Two kinds of request -/

namespace Request

/-- Whether a request looks at the simulation of its builder. -/
def simulates : Request → Bool
  | .all | .get | .first | .find | .exist | .pluck | .make => true
  | _ => false

/-- Whether a request is one of the blocking ones. -/
def blocks : Request → Bool
  | .allBlocking | .getBlocking | .firstBlocking | .pluckBlocking | .scalarBlocking
  | .runBlocking => true
  | _ => false

/-- The method of an executor that a blocking request needs. -/
def blockingMethod : Request → ExecutorMethod
  | .runBlocking => .runBlocking
  | _ => .queryBlocking

/-- The query that a blocking request runs. -/
def blockingQuery (asked : Request) (args : Arguments) (d : Descriptor) :
    Except Error Descriptor :=
  match asked with
  | .getBlocking | .firstBlocking | .scalarBlocking => .ok d.firstOnly
  | .pluckBlocking => (args.value "column").map d.columnOnly
  | _ => .ok d

end Request

namespace Session

/-- The executor that serves a builder and has a method; without one there is an error. -/
def offering (s : Session) (b : Builder) (method : ExecutorMethod) : Except Error Nat := do
  let lacking := Error.noExecutor b.table (b.descriptor.banks.getD []) (some method.name)
  match ← s.executorFor b.options.config b.descriptor.banks with
  | some id =>
    if ((s.executors.get? id).map fun e => e.offers method).getD false then return id
    else throw lacking
  | none => throw lacking

/-- The statement with which a blocking request reaches an executor. -/
def reached (s : Session) (b : Builder) (asked : Request) (args : Arguments) :
    Except Error Statement := do
  let query ← asked.blockingQuery args b.descriptor
  let _ ← s.offering b asked.blockingMethod
  (s.currentQuery query).select

end Session

/-! ## Reaching an executor -/

namespace Act

variable {reactor : Reactor} {s : Session} {id : Nat} {b : Builder}

/-- Finding the executor that serves a builder and has a method changes nothing. -/
theorem run_executorOffering (method : ExecutorMethod) :
    (executorOffering b method).run reactor s = (s.offering b method, s) := by
  rw [executorOffering, run_bind, run_get, Session.offering]
  dsimp only
  cases s.executorFor b.options.config b.descriptor.banks with
  | error e => rfl
  | ok executor =>
    cases executor with
    | none => rfl
    | some executor =>
      rw [run_of_ok_bind]
      dsimp only
      rw [run_bind, run_offers]
      simp only [bind, Except.bind]
      split <;> rfl

/-- An executor that has a method is one that there is. -/
theorem isSome_of_offering {method : ExecutorMethod} {executor : Nat}
    (h : s.offering b method = .ok executor) : (s.executors.get? executor).isSome = true := by
  simp only [Session.offering, bind_eq_ok] at h
  obtain ⟨served, -, h⟩ := h
  split at h
  · split at h
    · next hoffers =>
      cases h
      cases he : s.executors.get? executor with
      | none => simp [he] at hoffers
      | some e => rfl
    · cases h
  · cases h

/-- Running the SELECT of a builder hands it over, if it compiles. -/
theorem reaches_fetchBy (hreactor : reactor.KeepsExecutors) {executor : Nat}
    (he : (s.executors.get? executor).isSome = true) (method : ExecutorMethod) :
    Reaches reactor s (fetchBy b executor method) (s.currentQuery b.descriptor).select := by
  rw [← bind_pure (s.currentQuery b.descriptor).select]
  refine reaches_bind_of_run_eq_ok (run_get _ s) ?_
  refine reaches_bind_of_run (run_of _ s _) fun statement _ => reaches_of_handsOver ?_
  refine handsOver_trigger_bind hreactor rfl he fun u hu => ?_
  refine handsOver_bind (handsOver_execute hu method) fun report => ?_
  exact keeps_bind (keeps_of _) fun rows => keeps_bind (keeps_trigger Frame.hands_heard _ _ _)
    fun _ => keeps_pure _

/-- A blocking read reaches an executor that offers the method if its query compiles. -/
theorem reaches_rowsBlocking (hreactor : reactor.KeepsExecutors) :
    Reaches reactor s (rowsBlocking b) (do
      let _ ← s.offering b .queryBlocking
      (s.currentQuery b.descriptor).select) :=
  reaches_bind_of_run (run_executorOffering _) fun _ ho =>
    reaches_fetchBy hreactor (isSome_of_offering ho) _

/-- A blocking read of the first row reaches an executor if the query cut to it does. -/
theorem reaches_firstBlocking (hreactor : reactor.KeepsExecutors)
    (hb : s.builders.get? id = some b) :
    Reaches reactor s (firstBlocking id) (do
      let _ ← s.offering b .queryBlocking
      (s.currentQuery b.descriptor.firstOnly).select) :=
  reaches_bind_of_run_eq_ok (run_builder _ s hb)
    ((reaches_rowsBlocking hreactor).bind fun _ => keeps_pure _)

/-- The raw answer to a SELECT reaches an executor that offers the method if the query compiles. -/
theorem reaches_runBlocking (hb : s.builders.get? id = some b) :
    Reaches reactor s (runBlocking id) (do
      let _ ← s.offering b .runBlocking
      (s.currentQuery b.descriptor).select) := by
  refine reaches_bind_of_run_eq_ok (run_builder _ s hb) ?_
  refine reaches_bind_of_run (run_executorOffering _) fun executor ho => ?_
  rw [← bind_pure (s.currentQuery b.descriptor).select]
  refine reaches_bind_of_run_eq_ok (run_currentQuery _ s hb) ?_
  refine reaches_bind_of_run (run_of _ s _) fun statement _ => reaches_of_handsOver ?_
  exact handsOver_execute (isSome_of_offering ho) _

/-- Every blocking request reaches an executor with the statement that it is reached with, or does
nothing.

**Proof sketch.** Each of them goes by way of all rows, of the first row or of a write. What a
request makes of the rows that it has got keeps to the session. -/
theorem reaches_request (hreactor : reactor.KeepsExecutors) (hb : s.builders.get? id = some b)
    {asked : Request} (hasked : asked.blocks = true) (args : Arguments) :
    Reaches reactor s (request id asked args) (s.reached b asked args) := by
  cases asked with
  | allBlocking =>
    have h : Reaches reactor s (allBlocking id) _ :=
      reaches_bind_of_run_eq_ok (run_builder _ s hb) (reaches_rowsBlocking hreactor)
    exact h.bind fun _ => keeps_pure _
  | getBlocking => exact (reaches_firstBlocking hreactor hb).bind fun _ => keeps_pure _
  | firstBlocking => exact (reaches_firstBlocking hreactor hb).bind fun _ => keeps_pure _
  | pluckBlocking =>
    rw [request, Session.reached, Request.blockingQuery]
    cases args.value "column" with
    | error e => exact ⟨fun e' he => by cases he; rfl, fun statement hs => by cases hs⟩
    | ok column =>
      refine reaches_bind_of_run_eq_ok (run_of _ s _) ?_
      have h : Reaches reactor s (pluckBlocking id column) _ :=
        reaches_bind_of_run_eq_ok (run_builder _ s hb)
          ((reaches_rowsBlocking hreactor).bind fun _ => keeps_of _)
      exact h.bind fun _ => keeps_pure _
  | scalarBlocking =>
    exact .bind ((reaches_firstBlocking hreactor hb).bind fun _ => keeps_of _)
      fun _ => keeps_pure _
  | runBlocking => exact (reaches_runBlocking hb).bind fun _ => keeps_pure _
  | _ => cases hasked

/-- Every request that looks at the simulation keeps to it while it runs. -/
theorem isolated_request (hb : s.builders.get? id = some b)
    (hsimulating : s.simulating b.options.simulation = true) {asked : Request}
    (hasked : asked.simulates = true) (args : Arguments) :
    Isolated reactor s (request id asked args) := by
  have hargument : ∀ name, NoConfigurationError (args.value name) := by
    intro name
    rw [Arguments.value]
    split
    · exact onlyErrors_ok _
    · exact (onlyErrors_error _).mpr rfl
  cases asked with
  | all => exact isolated_bind (isolated_all hb hsimulating) fun _ _ _ => isolated_pure _
  | get => exact isolated_bind (isolated_firstRow hb hsimulating) fun _ _ _ => isolated_pure _
  | first => exact isolated_bind (isolated_firstRow hb hsimulating) fun _ _ _ => isolated_pure _
  | find =>
    refine isolated_of_bind (hargument "id") fun key => ?_
    exact isolated_bind (isolated_find key hb hsimulating) fun _ _ _ => isolated_pure _
  | exist => exact isolated_bind (isolated_exist hb hsimulating) fun _ _ _ => isolated_pure _
  | pluck =>
    refine isolated_of_bind (hargument "column") fun column => ?_
    exact isolated_bind (isolated_pluck column hb hsimulating) fun _ _ _ => isolated_pure _
  | make => exact isolated_bind (isolated_make hb hsimulating) fun _ _ _ => isolated_pure _
  | _ => cases hasked

/-! ## Keeping to a running simulation -/

/-- While the simulation of a builder runs, the requests that look at it hand nothing to an
executor, fail with no error of the configuration, whatever the query, its banks and the
configuration are, leave executors and configurations alone, and come out the same, in the same
session, where there are no executors at all.

A blocking request does so exactly if it fails before it reaches an executor, with an error that is
none of the configuration: as its query does not compile, or as a bank cannot be looked up. As soon
as it is reached with a statement, it is handed that statement; and listeners that leave the
executors in their places do not change that.

**Proof sketch.** The first kind asks the session only for what a session without executors has
too, and operations on rows fail with faults alone. The second kind finds its executor, compiles its
query and runs it, and nothing before that looks at the simulation. -/
theorem request_keeps_to_simulation_iff (reactor : Reactor) (s : Session) (id : Nat) (b : Builder)
    (asked : Request) (args : Arguments) (hb : s.builders.get? id = some b)
    (hsimulating : s.simulating b.options.simulation = true) :
    (asked.simulates = true →
      ((request id asked args).run reactor s).2.trace = s.trace ∧
      NoConfigurationError ((request id asked args).run reactor s).1 ∧
      ((request id asked args).run reactor s).2.executors = s.executors ∧
      ((request id asked args).run reactor s).2.configs = s.configs ∧
      (request id asked args).run reactor s.deprived =
        (((request id asked args).run reactor s).1,
          ((request id asked args).run reactor s).2.deprived)) ∧
    (asked.blocks = true → reactor.KeepsExecutors →
      (((request id asked args).run reactor.muted s).2.trace.calls = s.trace.calls ∧
          NoConfigurationError ((request id asked args).run reactor.muted s).1 ↔
        ∃ e, s.reached b asked args = .error e ∧ e.isConfiguration = false) ∧
      ∀ statement, s.reached b asked args = .ok statement →
        s.HandsOver statement ((request id asked args).run reactor.muted s).2) := by
  refine ⟨fun hasked => ?_, fun hasked hreactor => ?_⟩
  · have h : Isolated reactor s (request id asked args) :=
      isolated_request hb hsimulating hasked args
    obtain ⟨hsame, houtside, herrors⟩ := h
    simp only [Session.outside, Prod.mk.injEq] at houtside
    exact ⟨houtside.1, herrors, houtside.2.1, houtside.2.2, hsame⟩
  · obtain ⟨hfails, hhands⟩ := reaches_request hreactor hb hasked args
    refine ⟨⟨?_, ?_⟩, hhands⟩
    · rintro ⟨hcalls, herrors⟩
      cases hr : s.reached b asked args with
      | error e =>
        rw [hfails e hr] at herrors
        exact ⟨e, rfl, by simpa using herrors⟩
      | ok statement =>
        exact absurd hcalls (hhands statement hr).calls_ne
    · rintro ⟨e, hr, he⟩
      rw [hfails e hr]
      exact ⟨rfl, by simpa using he⟩

/-- A session in which the shared simulation runs on a table with one row, and in which an executor
offers a blocking method. -/
def rehearsal : Session :=
  { Session.serving (.new "t" {}) with
    executors := .single "db" {
      name := "db", dialect := none, awaited := false
      source := .plain [.queryBlocking] (.list []) [] [] }
    simulations := .single "main" {
      active := true, state := [("t", .ofValue 0 (.list [.map [(.text "a", .int 1)]]))] } }

/-- In `rehearsal` reading rows hands nothing over, and reading them blocking hands the SELECT
over. -/
theorem request_keeps_to_simulation_iff_rehearsal :
    rehearsal.simulating none = true ∧
    ((request 0 .all []).run Reactor.still rehearsal).2.trace = {} ∧
    ∃ statement : Statement, statement.sql = "SELECT * FROM t" ∧
      rehearsal.HandsOver statement
        ((request 0 .allBlocking []).run Reactor.still.muted rehearsal).2 := by
  have hread := (request_keeps_to_simulation_iff .still rehearsal 0 (.new "t" {}) .all [] rfl rfl).1
    rfl
  have hblocking := (request_keeps_to_simulation_iff .still rehearsal 0 (.new "t" {})
    .allBlocking [] rfl rfl).2 rfl fun _ _ _ h => h
  exact ⟨rfl, hread.1, _, by decide +kernel, hblocking.2 _ rfl⟩

/-- While a simulation runs, a blocking read hands its SELECT to an executor that offers the method,
and fails with an error of the configuration where there is no executor. -/
theorem request_leaves_simulation :
    rehearsal.simulating none = true ∧
    ((request 0 .allBlocking []).run .still rehearsal).2.trace.calls.filterMap Happening.sql? =
      ["SELECT * FROM t"] ∧
    ∃ e, ((request 0 .allBlocking []).run .still rehearsal.deprived).1 = .error e ∧
      e.isConfiguration = true :=
  ⟨rfl, by decide +kernel, _, rfl, rfl⟩

end Act

end FluentSql
