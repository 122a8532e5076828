import FluentSql.Proofs.Directory
import FluentSql.Proofs.Session.Execution
import FluentSql.Session.Writing

set_option autoImplicit false

/-!
# What writing leaves as it is

An announced statement does what announcing it and running it do, and nothing else; and the
statements of a write are announced one after the other.

## Main definitions

* `FluentSql.Session.withWheres` — a session with other predicates in the place of a builder's own.

## Main results

* `FluentSql.Session.withWheres_withWheres` — taking a builder's own predicates back.
* `FluentSql.Act.keeps_dispatch` — an announced statement stays within the frames of its parts.
* `FluentSql.Act.keeps_runInsert` — and so does an INSERT.
* `FluentSql.Act.run_withWheres` — other predicates in the place of a builder's own.
* `FluentSql.Act.run_make_real` — how a write is made outside a simulation.
-/

namespace FluentSql

/-! ## Other predicates -/

namespace Session

/-- The session with other predicates in the place of a builder's own. -/
def withWheres (s : Session) (id : Nat) (wheres : List Predicate) : Session :=
  s.changed id fun b => b.edit fun d => { d with wheres }

variable {s : Session} {id : Nat} {b : Builder}

/-- The builder has the other predicates. -/
theorem get?_withWheres (hb : s.builders.get? id = some b) (wheres : List Predicate) :
    (s.withWheres id wheres).builders.get? id = some (b.edit fun d => { d with wheres }) := by
  simp [withWheres, changed, hb]

/-- A builder that has its own predicates again is the same. -/
theorem edit_edit_wheres (b : Builder) (wheres : List Predicate) :
    ((b.edit fun d => { d with wheres }).edit fun d => { d with wheres := b.descriptor.wheres }) =
      b := by
  obtain ⟨d, _, _, _, _, _, _⟩ := b
  cases d
  rfl

/-- Once the predicates of a builder are taken back, the session is the same. -/
theorem withWheres_withWheres (hb : s.builders.get? id = some b) (wheres : List Predicate) :
    (s.withWheres id wheres).withWheres id b.descriptor.wheres = s := by
  have hbuilders : ((s.withWheres id wheres).withWheres id b.descriptor.wheres).builders =
      s.builders := Directory.modify_modify_eq_self hb (edit_edit_wheres b wheres)
  simp only [withWheres, changed] at hbuilders ⊢
  rw [hbuilders]

end Session

namespace Act

variable {F : Frame} {reactor : Reactor}

/-- Asking whether an executor has a method changes nothing. -/
theorem keeps_offers (id : Nat) (method : ExecutorMethod) : Keeps F reactor (offers id method) := by
  refine keeps_bind keeps_get fun s => ?_
  cases s.executors.get? id with
  | none => exact keeps_pure _
  | some e => exact keeps_pure _

/-- An announced statement stays within the frames of announcing it and of running it.

**Proof sketch.** The statement is announced, run by one of the two methods, its answer is read, and
that is announced; reading answers and asking what an executor offers change nothing. -/
theorem keeps_dispatch (hF : F.Heard reactor) {statement : WriteStatement} {executor : Nat}
    (h : ∀ method, Keeps F reactor (execute executor method statement.toStatement)) (id : Nat)
    (action : TriggerAction) (data : Value) :
    Keeps F reactor (dispatch id executor action statement data) := by
  refine keeps_bind (keeps_builder id) fun b => ?_
  refine keeps_bind (keeps_trigger hF _ _ _) fun _ => ?_
  have hrest : ∀ method, Keeps F reactor (execute executor method statement.toStatement >>=
      fun report => of (WriteResult.ofReport report) >>= fun result =>
        trigger b.options.events (.of .after action b.table)
          (Fields.set [("data", data), ("where", statement.predicate)] "result" result.toValue) >>=
          fun _ => pure result) := fun method =>
    keeps_bind (h method) fun _ => keeps_bind (keeps_of _) fun _ =>
      keeps_bind (keeps_trigger hF _ _ _) fun _ => keeps_pure _
  refine keeps_bind (keeps_offers _ _) fun offered => ?_
  cases offered with
  | true => exact hrest .runBlocking
  | false => exact hrest .query

/-- Inserting rows stays within the frames of its one statement. -/
theorem keeps_runInsert (hF : F.Heard reactor) {executor : Nat}
    (h : ∀ table rows w, insertStatement table rows = .ok w →
      ∀ method, Keeps F reactor (execute executor method w.toStatement))
    (id : Nat) (rows : Value) : Keeps F reactor (runInsert id executor rows) := by
  refine keeps_bind (keeps_current rows) fun rows => ?_
  refine keeps_bind (keeps_builder id) fun b => ?_
  refine keeps_of_bind fun w hw => ?_
  refine keeps_bind (keeps_of _) fun data => ?_
  exact keeps_dispatch hF (h _ _ w hw) id .insert data

/-- Other predicates in the place of a builder's own are there while something is done, and are
taken back whatever comes of it. -/
theorem run_withWheres {α : Type} {s : Session} {id : Nat} {b : Builder} {wheres : List Predicate}
    {body : Act α} (hb : s.builders.get? id = some b) :
    (withWheres id wheres body).run reactor s =
      match body.run reactor (s.withWheres id wheres) with
      | (outcome, t) => (outcome, t.withWheres id b.descriptor.wheres) := by
  rw [withWheres, run_bind, run_builder reactor s hb]
  dsimp only
  rw [run_bind, run_changeBuilder]
  dsimp only
  rw [run_tryFinally]
  rfl

/-! ## Making a write -/

/-- Outside a simulation a write is made on the executor that serves the builder. -/
theorem run_make_eq_makeReal {s : Session} {id : Nat} {b : Builder}
    (hb : s.builders.get? id = some b)
    (hreal : s.simulating b.options.simulation = false) :
    (make id).run reactor s = (makeReal id).run reactor s := by
  rw [make, run_bind, run_builder reactor s hb]
  dsimp only
  rw [run_bind, run_get]
  simp [hreal]

/-- Making a write outside a simulation: the executor is found, the write is checked, its statements
are run, and it is forgotten. If one of these fails, the write stays queued. -/
theorem run_make_real {s : Session} {id : Nat} {b : Builder}
    (hb : s.builders.get? id = some b)
    (hreal : s.simulating b.options.simulation = false) :
    (make id).run reactor s =
      match s.servant b, b.descriptor.checkedAction with
      | .error e, _ => (.error e, s)
      | .ok _, .error e => (.error e, s)
      | .ok executor, .ok (kind, data) =>
        match (runWrite id executor kind (s.current data)).run reactor s with
        | (.ok result, t) => (.ok result, t.changed id fun b => b.edit fun d =>
            { d with pending := none })
        | (.error e, t) => (.error e, t) := by
  rw [run_make_eq_makeReal hb hreal, makeReal, run_bind, run_builder reactor s hb]
  dsimp only
  rw [run_bind, run_executorOf]
  cases s.servant b with
  | error e => rfl
  | ok executor =>
    dsimp only
    cases b.descriptor.checkedAction with
    | error e => rfl
    | ok checked =>
      obtain ⟨kind, data⟩ := checked
      rw [run_of_ok_bind]
      dsimp only
      rw [run_bind, run_current]
      dsimp only
      rw [run_bind]
      rcases (runWrite id executor kind (s.current data)).run reactor s with ⟨_ | result, t⟩ <;> rfl

end Act

end FluentSql
