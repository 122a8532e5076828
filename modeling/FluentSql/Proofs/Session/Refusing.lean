import FluentSql.Proofs.Session.Reaching
import FluentSql.Proofs.Session.Writing
import FluentSql.Proofs.Statement.Refusing

set_option autoImplicit false

/-!
# Acts that refuse nothing

Once a statement is there, no write is refused any more. Announcing it, showing its values, running
it and reading the executor's report fail with a fault or with what the executor says, and so does
copying values.

## Main definitions

* `FluentSql.Act.NeverRefuses` — an act fails with no refusal.

## Main results

* `FluentSql.Act.neverRefuses_execute` — running a statement.
* `FluentSql.Act.neverRefuses_dispatch` — an announced statement.
-/

namespace FluentSql

/-! ## Showing values and reading reports -/

mutual

/-- Resolving a value fails with nothing but faults if finding does. -/
theorem Value.onlyFaults_resolve {find : Source → Except Error Value}
    (h : ∀ source, OnlyFaults (find source)) : (v : Value) → OnlyFaults (v.resolve find)
  | .list xs | .tuple xs | .statement _ xs =>
    (onlyFaults_resolveItems h xs).bind fun _ => onlyErrors_pure _
  | .map fs | .object fs | .record _ fs =>
    (onlyFaults_resolveFields h fs).bind fun _ => onlyErrors_pure _
  | .writeResult changes lastId => (changes.onlyFaults_resolve h).bind fun _ =>
    (lastId.onlyFaults_resolve h).bind fun _ => onlyErrors_pure _
  | .queryResult data affected lastId => (data.onlyFaults_resolve h).bind fun _ =>
    (affected.onlyFaults_resolve h).bind fun _ => (lastId.onlyFaults_resolve h).bind fun _ =>
      onlyErrors_pure _
  | .view source _ => h source
  | .null | .bool _ | .int _ | .float _ | .nan _ | .text _ | .bytes _ | .moment _ | .raw _
  | .builder .. | .again | .function .. => onlyErrors_ok _

/-- Resolving items fails with nothing but faults if finding does. -/
theorem onlyFaults_resolveItems {find : Source → Except Error Value}
    (h : ∀ source, OnlyFaults (find source)) :
    (xs : List Value) → OnlyFaults (resolveItems find xs)
  | [] => onlyErrors_ok _
  | x :: xs => (x.onlyFaults_resolve h).bind fun _ =>
    (onlyFaults_resolveItems h xs).bind fun _ => onlyErrors_pure _

/-- Resolving entries fails with nothing but faults if finding does. -/
theorem onlyFaults_resolveFields {find : Source → Except Error Value}
    (h : ∀ source, OnlyFaults (find source)) :
    (fs : List (Value × Value)) → OnlyFaults (resolveFields find fs)
  | [] => onlyErrors_ok _
  | (_, x) :: rest => (x.onlyFaults_resolve h).bind fun _ =>
    (onlyFaults_resolveFields h rest).bind fun _ => onlyErrors_pure _

end

namespace Session

/-- Writing a source plainly fails with nothing but faults. -/
theorem onlyFaults_plainSource (s : Session) :
    ∀ (depth : Nat) (source : Source), OnlyFaults (s.plainSource depth source)
  | 0, _ => (onlyErrors_error _).mpr rfl
  | depth + 1, source => by
    refine OnlyErrors.bind (Value.onlyFaults_resolve (s.onlyFaults_plainSource depth) _) fun v => ?_
    split <;> simp [Error.isFault]

/-- Showing a source fails with nothing but faults. -/
theorem onlyFaults_shownSource (s : Session) :
    ∀ (depth : Nat) (source : Source), OnlyFaults (s.shownSource depth source)
  | 0, _ => (onlyErrors_error _).mpr rfl
  | depth + 1, .query id => by
    refine OnlyErrors.bind (s.onlyFaults_plainSource _ _) fun v => ?_
    split <;> exact onlyErrors_pure _
  | depth + 1, .part .. => Value.onlyFaults_resolve (s.onlyFaults_shownSource depth) _

/-- Showing values fails with nothing but faults. -/
theorem onlyFaults_sight (s : Session) (values : List Value) : OnlyFaults (s.sight values) :=
  OnlyErrors.mapM (Value.onlyFaults_resolve (s.onlyFaults_shownSource _)) values

end Session

theorem Value.onlyFaults_toInteger (v : Value) : OnlyFaults v.toInteger := by
  rw [toInteger.eq_def]
  split
  · exact onlyErrors_ok _
  · exact onlyErrors_ok _
  · split
    · exact (onlyErrors_error _).mpr rfl
    · exact (onlyErrors_error _).mpr rfl
    · exact onlyErrors_ok _
  · exact (onlyErrors_error _).mpr rfl
  · next s => cases Integer.ofText? s <;> simp [Error.isFault]
  · next octets => cases Integer.ofOctets? octets <;> simp [Error.isFault]
  · exact (onlyErrors_error _).mpr rfl

/-- Reading the outcome of a write fails with nothing but faults. -/
theorem WriteResult.onlyFaults_ofReport (report : Value) : OnlyFaults (ofReport report) := by
  have hinfo : ∀ info, OnlyFaults (ofInfo info) := fun info =>
    (Value.onlyFaults_toInteger _).bind fun _ => onlyErrors_pure _
  rw [ofReport]
  split
  · exact onlyErrors_ok _
  · split
    · split <;> exact hinfo _
    · exact hinfo _
  · split
    · split <;> exact hinfo _
    · exact hinfo _
  · exact onlyErrors_ok _
  · exact hinfo _

/-- What a driver's report comes to is no refusal. -/
theorem Engine.noRefusal_outcome (report : DriverReport Value) :
    NoRefusal (Engine.outcome report) := by
  cases report with
  | rows v =>
    refine OnlyFaults.noRefusal (v.onlyFaults_items.bind fun xs => ?_)
    exact (OnlyErrors.mapM Value.onlyFaults_toFields xs).bind fun _ => onlyErrors_pure _
  | count rowcount lastId =>
    cases rowcount with
    | none => exact (onlyErrors_error _).mpr rfl
    | some rowcount =>
      refine OnlyFaults.noRefusal (OnlyErrors.bind ?_ fun changes => onlyErrors_pure _)
      rw [Engine.changes]
      split
      · exact onlyErrors_pure _
      · exact rowcount.onlyFaults_number.bind fun _ => onlyErrors_pure _
  | failure text => exact (onlyErrors_error _).mpr rfl

/-! ## Acts that refuse nothing -/

namespace Act

/-- An act fails with no refusal, in whatever session it is run. -/
def NeverRefuses {α : Type} (reactor : Reactor) (a : Act α) : Prop :=
  ∀ s, NoRefusal (a.run reactor s).1

section NeverRefuses

variable {α β : Type} {reactor : Reactor} {s : Session}

theorem neverRefuses_pure (x : α) : NeverRefuses reactor (pure x : Act α) :=
  fun _ => onlyErrors_ok x

theorem neverRefuses_of {e : Except Error α} (h : NoRefusal e) : NeverRefuses reactor (of e) :=
  fun _ => h

theorem neverRefuses_fail {e : Error} (h : e.isRefusal = false) :
    NeverRefuses reactor (fail e : Act α) :=
  fun _ => (onlyErrors_error e).mpr (by simp [h])

theorem neverRefuses_get : NeverRefuses reactor (get : Act Session) := fun s => onlyErrors_ok s

theorem neverRefuses_modify (f : Session → Session) :
    NeverRefuses reactor (modify f : Act Unit) := fun _ => onlyErrors_ok ()

/-- A sequence refuses nothing in a session if its parts refuse nothing. -/
theorem noRefusal_bind {a : Act α} {f : α → Act β} (ha : NoRefusal (a.run reactor s).1)
    (hf : ∀ x t, a.run reactor s = (.ok x, t) → NoRefusal ((f x).run reactor t).1) :
    NoRefusal ((a >>= f).run reactor s).1 := by
  rw [run_bind]
  rcases hr : a.run reactor s with ⟨e | x, t⟩ <;> rw [hr] at ha
  · exact (onlyErrors_error e).mpr ((onlyErrors_error e).mp ha)
  · exact hf x t hr

/-- A sequence refuses nothing if its parts refuse nothing. -/
theorem neverRefuses_bind {a : Act α} {f : α → Act β} (ha : NeverRefuses reactor a)
    (hf : ∀ x, NeverRefuses reactor (f x)) : NeverRefuses reactor (a >>= f) :=
  fun s => noRefusal_bind (ha s) fun x t _ => hf x t

/-- What follows a check refuses nothing if it does so with the value of the check. -/
theorem neverRefuses_of_bind {x : Except Error α} {f : α → Act β} (hx : NoRefusal x)
    (hf : ∀ a, x = .ok a → NeverRefuses reactor (f a)) : NeverRefuses reactor (of x >>= f) := by
  cases x with
  | error e => exact fun _ => (onlyErrors_error e).mpr ((onlyErrors_error e).mp hx)
  | ok a => exact hf a rfl

theorem neverRefuses_builder (id : Nat) : NeverRefuses reactor (builder id) := by
  refine neverRefuses_bind neverRefuses_get fun s => ?_
  cases s.builders.get? id with
  | none => exact neverRefuses_fail rfl
  | some b => exact neverRefuses_pure b

theorem neverRefuses_current (v : Value) : NeverRefuses reactor (current v) :=
  neverRefuses_bind neverRefuses_get fun _ => neverRefuses_pure _

theorem neverRefuses_currentQuery (id : Nat) : NeverRefuses reactor (currentQuery id) :=
  neverRefuses_bind neverRefuses_get fun _ =>
    neverRefuses_bind (neverRefuses_builder id) fun _ => neverRefuses_pure _

theorem neverRefuses_copy (v : Value) : NeverRefuses reactor (copy v) := by
  intro s
  rw [copy, run_get_bind]
  split <;> exact onlyErrors_ok _

theorem neverRefuses_offers (id : Nat) (method : ExecutorMethod) :
    NeverRefuses reactor (offers id method) := by
  intro s
  rw [run_offers]
  exact onlyErrors_ok _

/-! ## Statements -/

theorem neverRefuses_evaluate (report : DriverReport Value) :
    NeverRefuses reactor (report.evaluate current) := by
  have hoptional : ∀ v : Option Value, NeverRefuses reactor (v.mapM current) := by
    intro v
    cases v with
    | none => exact neverRefuses_pure _
    | some v => exact neverRefuses_bind (neverRefuses_current v) fun _ => neverRefuses_pure _
  cases report with
  | rows v => exact neverRefuses_bind (neverRefuses_current v) fun _ => neverRefuses_pure _
  | count rowcount lastId =>
    exact neverRefuses_bind (hoptional rowcount) fun _ =>
      neverRefuses_bind (hoptional lastId) fun _ => neverRefuses_pure _
  | failure text => exact neverRefuses_pure _

/-- A reply of an executor is no refusal. -/
theorem neverRefuses_reply (reply : Reply Value) :
    NeverRefuses reactor (match reply with
      | .answer v => current v
      | .failure text => fail (.raised text)) := by
  cases reply with
  | answer v => exact neverRefuses_current v
  | failure text => exact neverRefuses_fail rfl

/-- The next outcome of an engine is no refusal, nor is what follows it then. -/
theorem neverRefuses_nextOutcome_bind (id : Nat) (engine : Engine)
    (reports : List (DriverReport Value))
    {f : Except Error (List Value × WriteResult) → Act α}
    (hf : ∀ outcome, NoRefusal outcome → NeverRefuses reactor (f outcome)) :
    NeverRefuses reactor (nextOutcome id engine reports >>= f) := by
  simp only [nextOutcome, bind_assoc, pure_bind]
  refine neverRefuses_bind (neverRefuses_modify _) fun _ => ?_
  exact neverRefuses_bind (neverRefuses_evaluate _) fun report =>
    hf _ (Engine.noRefusal_outcome report)

/-- Running a statement fails with no refusal. -/
theorem neverRefuses_execute (id : Nat) (method : ExecutorMethod) (statement : Statement) :
    NeverRefuses reactor (execute id method statement) := by
  rw [execute]
  refine neverRefuses_bind neverRefuses_get fun s => ?_
  cases s.executors.get? id with
  | none => exact neverRefuses_fail rfl
  | some e =>
    dsimp only
    refine neverRefuses_bind neverRefuses_get fun s => ?_
    have hsight := (s.onlyFaults_sight statement.bindings).noRefusal
    cases e.source with
    | plain optional rows reads writes =>
      refine neverRefuses_bind (neverRefuses_modify _) fun _ => ?_
      refine neverRefuses_bind (neverRefuses_of hsight) fun _ => ?_
      split
      · exact neverRefuses_bind (neverRefuses_copy _) fun _ =>
          neverRefuses_bind (neverRefuses_modify _) fun _ =>
            neverRefuses_bind (neverRefuses_pure _) neverRefuses_reply
      · exact neverRefuses_bind (neverRefuses_modify _) fun _ =>
          neverRefuses_bind (neverRefuses_pure _) neverRefuses_reply
    | engine engine reports =>
      -- What rolls a transaction back is no refusal, be it the outcome or a value to bind.
      have hrollback : ∀ failure : Error, failure.isRefusal = false →
          NeverRefuses reactor (happened (.rolledBack e.name) >>= fun _ =>
            (fail failure : Act Value)) := fun failure h =>
        neverRefuses_bind (neverRefuses_modify _) fun _ => neverRefuses_fail h
      refine neverRefuses_bind (neverRefuses_modify _) fun _ => ?_
      cases hs : s.sight statement.bindings with
      | ok _ =>
        refine neverRefuses_nextOutcome_bind id engine reports fun outcome houtcome => ?_
        cases outcome with
        | ok p => exact neverRefuses_bind (neverRefuses_modify _) fun _ => neverRefuses_pure _
        | error failure => exact hrollback failure (by simpa using houtcome)
      | error failure =>
        rw [hs] at hsight
        simp only [pure_bind]
        exact hrollback failure (by simpa using hsight)

/-- An announced statement fails with no refusal. -/
theorem neverRefuses_dispatch (id executor : Nat) (action : TriggerAction)
    (statement : WriteStatement) (data : Value) :
    NeverRefuses reactor (dispatch id executor action statement data) := by
  have htrigger : ∀ manager t extra, NeverRefuses reactor (trigger manager t extra) := by
    intro manager t extra
    refine neverRefuses_bind (neverRefuses_of (OnlyFaults.noRefusal ?_)) fun payload s =>
      onlyErrors_ok ()
    rw [Trigger.payload]
    split <;> simp [Error.isFault]
  refine neverRefuses_bind (neverRefuses_builder id) fun b => ?_
  refine neverRefuses_bind (htrigger _ _ _) fun _ => ?_
  refine neverRefuses_bind (neverRefuses_offers _ _) fun offered => ?_
  have hrest : ∀ method, NeverRefuses reactor (execute executor method statement.toStatement >>=
      fun report => of (WriteResult.ofReport report) >>= fun result =>
        trigger b.options.events (.of .after action b.table)
          (Fields.set [("data", data), ("where", statement.predicate)] "result" result.toValue) >>=
          fun _ => pure result) := fun method =>
    neverRefuses_bind (neverRefuses_execute executor method _) fun report =>
      neverRefuses_bind (neverRefuses_of (WriteResult.onlyFaults_ofReport report).noRefusal)
        fun result => neverRefuses_bind (htrigger _ _ _) fun _ => neverRefuses_pure _
  cases offered with
  | true => exact hrest .runBlocking
  | false => exact hrest .query

end NeverRefuses

end Act

end FluentSql
