import FluentSql.Proofs.Failure
import FluentSql.Proofs.Session.Execution
import FluentSql.Proofs.Session.Paging

set_option autoImplicit false

/-!
# Writes on an engine

An engine can be asked for the outcome of a write in two ways: a method that runs statements gives
the outcome itself, and one that queries gives rows, a number of affected rows and an identifier,
which are read back as an outcome. Both hand the same statement to the same driver. What is read
back is the outcome itself but for one identifier: -1 is taken for the mark of what is not known,
which it is as a count, and an identifier of -1 is read back as none.

Drivers are expected to keep to their interface: a count is an integer or null, and an identifier
is an integer, a text, null, or not there at all.

## Main definitions

* `FluentSql.DriverReport.Plain` — what a driver reports by its interface.
* `FluentSql.WriteResult.readBack` — an outcome without an identifier of -1.
* `FluentSql.Act.writeBy` — the outcome of a write by a method of an executor.

## Main results

* `FluentSql.Engine.ofReport_answer_queryBlocking` — what is read back from a query result.
* `FluentSql.Act.writeBy_agree` — the two ways agree, but for an identifier of -1.
-/

namespace FluentSql

/-! ## What drivers report -/

/-- A report by the interface of drivers: a count that is an integer or null, and an identifier
that is an integer, a text or null; either may be absent. Rows and failures are not restricted. -/
def DriverReport.Plain : DriverReport Value → Prop
  | .rows _ | .failure _ => True
  | .count rowcount lastId =>
    (∀ v ∈ rowcount, v = .null ∨ ∃ n, v = .int n) ∧
      ∀ v ∈ lastId, v = .null ∨ (∃ n, v = .int n) ∨ ∃ s, v = .text s

/-- An outcome of a number of rows, and of an identifier that is an integer or a text. -/
structure WriteResult.Plain (result : WriteResult) : Prop where
  changes : ∃ n : Nat, result.changes = .int n
  lastId : (∃ n, result.lastId = .int n) ∨ ∃ s, result.lastId = .text s ∧ s ≠ ""

/-- An outcome in which an identifier of -1 is taken for none. -/
def WriteResult.readBack (result : WriteResult) : WriteResult :=
  { result with lastId := if result.lastId.equal (.int (-1)) then .int 0 else result.lastId }

/-- Integers are equal as values just if they are the same. -/
theorem Value.equal_int (m n : Int) : (Value.int m).equal (.int n) = decide (m = n) := by
  have hone : (Scaled.one : Int) ≠ 0 := by decide +kernel
  have hequal : (Value.int m).equal (.int n) = decide (m * Scaled.one = n * Scaled.one) := rfl
  rw [hequal]
  exact decide_eq_decide.mpr (Int.mul_eq_mul_right_iff hone)

/-- No text is equal to an integer. -/
theorem Value.equal_text_int (s : String) (n : Int) : (Value.text s).equal (.int n) = false := rfl

/-- Only an identifier of -1 is not read back. -/
theorem WriteResult.readBack_eq_self_iff {result : WriteResult} (h : result.Plain) :
    result.readBack = result ↔ result.lastId ≠ .int (-1) := by
  obtain ⟨changes, lastId⟩ := result
  obtain ⟨n, rfl⟩ | ⟨s, rfl, -⟩ := h.lastId
  · by_cases hn : n = -1 <;> simp [readBack, Value.equal_int, hn]
  · simp [readBack, Value.equal_text_int]

namespace Engine

/-- The count of changed rows is never negative: an unknown one counts as none. -/
theorem changes_int (n : Int) : changes (.int n) = .ok (.int (max n 0)) := by
  have hchanges : changes (.int n) = if !(n != 0) then .ok (.int 0) else
      .ok (if (Scaled.ofInt 0).less (.ofInt n) then .int n else .int 0) := rfl
  rw [hchanges, Scaled.less_ofInt]
  by_cases h : 0 < n
  · simp [h, Int.ne_of_gt h, Int.max_eq_left (Int.le_of_lt h)]
  · simp [h, Int.max_eq_right (Int.not_lt.mp h)]

/-- An identifier that counts is kept; without one it is 0. -/
theorem plain_lastId {lastId : Option Value}
    (h : ∀ v ∈ lastId, v = .null ∨ (∃ n, v = .int n) ∨ ∃ s, v = .text s) :
    (∃ n, (lastId.getD .null).orElse (.int 0) = .int n) ∨
      ∃ s, (lastId.getD .null).orElse (.int 0) = .text s ∧ s ≠ "" := by
  cases lastId with
  | none => exact .inl ⟨0, rfl⟩
  | some v =>
    obtain rfl | ⟨n, rfl⟩ | ⟨s, rfl⟩ := h v rfl
    · exact .inl ⟨0, rfl⟩
    · refine .inl ⟨n, ?_⟩
      rw [Option.getD_some, Value.int_orElse]
      split <;> simp_all
    · by_cases hs : s = ""
      · exact .inl ⟨0, by simp [Value.orElse, Value.truthy, hs]⟩
      · exact .inr ⟨s, by simp [Value.orElse, Value.truthy, hs], hs⟩

/-- An identifier of -1 is kept, and nothing else becomes one. -/
theorem orElse_zero_eq_iff (lastId : Option Value) :
    (lastId.getD .null).orElse (.int 0) = .int (-1) ↔ lastId = some (.int (-1)) := by
  cases lastId with
  | none => simp [Value.orElse, Value.truthy]
  | some v =>
    rw [Option.getD_some, Option.some.injEq, Value.orElse]
    split
    · exact Iff.rfl
    · next htruthy => exact ⟨by simp, fun hv => absurd (by rw [hv]; rfl) htruthy⟩

/-- What a plain report comes to: an outcome of a number of rows, and of an identifier that is -1
just if that was reported. -/
theorem plain_outcome {report : DriverReport Value} (hreport : report.Plain)
    {rows : List Value} {result : WriteResult} (h : outcome report = .ok (rows, result)) :
    result.Plain ∧
      (result.lastId = .int (-1) ↔ ∃ rowcount, report = .count rowcount (some (.int (-1)))) := by
  cases report with
  | rows v =>
    simp only [outcome, bind_eq_ok, pure_eq_ok, Except.ok.injEq, Prod.mk.injEq] at h
    obtain ⟨items, -, fields, -, -, rfl⟩ := h
    exact ⟨⟨⟨_, rfl⟩, .inl ⟨0, rfl⟩⟩, by simp⟩
  | failure text => cases h
  | count rowcount lastId =>
    cases rowcount with
    | none => cases h
    | some v =>
      obtain ⟨hcount, hid⟩ := hreport
      have hchanges : ∃ n : Nat, changes v = .ok (.int n) := by
        obtain rfl | ⟨n, rfl⟩ := hcount v rfl
        · exact ⟨0, rfl⟩
        · exact ⟨n.toNat, (changes_int n).trans (by rw [Int.toNat_eq_max])⟩
      obtain ⟨n, hn⟩ := hchanges
      simp only [outcome, hn, ok_bind, pure_eq_ok, Except.ok.injEq, Prod.mk.injEq] at h
      obtain ⟨-, rfl⟩ := h
      refine ⟨⟨⟨n, rfl⟩, plain_lastId hid⟩, (orElse_zero_eq_iff lastId).trans ?_⟩
      simp

/-- An outcome is told by the next of some reports: it is plain, and its identifier is -1 just if
that was reported. -/
def Told (reports : List (DriverReport Value)) (outcome : Except Error (List Value × WriteResult)) :
    Prop :=
  ∀ rows result, outcome = .ok (rows, result) → result.Plain ∧
    (result.lastId = .int (-1) ↔
      ∃ rowcount, (nextReport reports).1 = .count rowcount (some (.int (-1))))

/-- What is read back from a query result, where each name is the first that is looked up. -/
theorem ofReport_queryResult (data : Value) (n : Nat) (lastId : Value) :
    WriteResult.ofReport (.queryResult data (.int n) lastId) =
      .ok ⟨.int n, (if lastId.known then lastId else .null).orElse (.int 0)⟩ := by
  have hchanges : (Value.queryResult data (.int n) lastId).firstKnown changesNames = .int n := by
    have hknown : (Value.int n).known = true := by
      simp [Value.known, Value.isNull, Value.equal_int]
    have hnames : changesNames.map (Value.queryResult data (.int n) lastId).reported =
        [.int n, .null, .null, .null] := rfl
    rw [Value.firstKnown, hnames, List.find?_cons_of_pos hknown]
    rfl
  have hlastId : (Value.queryResult data (.int n) lastId).firstKnown lastIdNames =
      if lastId.known then lastId else .null := by
    have hnames : lastIdNames.map (Value.queryResult data (.int n) lastId).reported =
        [lastId, .null, .null, .null, .null, .null, .null] := rfl
    rw [Value.firstKnown, hnames, List.find?_cons]
    split <;> simp_all [Value.known, Value.isNull]
  have hinfo : WriteResult.ofReport (.queryResult data (.int n) lastId) =
      WriteResult.ofInfo (.queryResult data (.int n) lastId) := rfl
  have hinteger : ((Value.int n).orElse (.int 0)).toInteger = .ok (n : Int) := by
    rw [Value.int_orElse]
    split <;> simp_all [Value.toInteger]
  rw [hinfo, WriteResult.ofInfo, hchanges, hlastId, hinteger]
  rfl

/-- What a method that queries gives is read back as the outcome, without an identifier of -1. -/
theorem ofReport_answer_queryBlocking (rows : List Value) {result : WriteResult}
    (h : result.Plain) :
    WriteResult.ofReport (answer .queryBlocking rows result) = .ok result.readBack := by
  obtain ⟨changes, lastId⟩ := result
  obtain ⟨n, rfl⟩ := h.changes
  have hlastId : (if (lastId.orElse .null).known then lastId.orElse .null else .null).orElse
      (.int 0) = if lastId.equal (.int (-1)) then .int 0 else lastId := by
    obtain ⟨k, rfl⟩ | ⟨s, rfl, hs⟩ := h.lastId
    · by_cases hk : k = 0
      · simp [hk, Value.orElse, Value.truthy, Value.known, Value.isNull, Value.equal_int]
      · rw [Value.int_orElse, if_neg hk, Value.known, Value.equal_int]
        by_cases hunknown : k = -1 <;>
          simp [Value.isNull, hunknown, hk, Value.orElse, Value.truthy]
    · simp [Value.orElse, Value.truthy, hs, Value.known, Value.isNull, Value.equal_text_int]
  rw [answer, ofReport_queryResult, hlastId]
  rfl

end Engine

/-! ## Running a write on an engine -/

namespace Act

variable {reactor : Reactor} {s : Session} {id : Nat} {e : Executor Value} {engine : Engine}
  {reports : List (DriverReport Value)}

/-- What is a count or an identifier has no views to be looked at again. -/
theorem run_current_of_plain {v : Value}
    (h : v = .null ∨ (∃ n, v = .int n) ∨ ∃ text, v = .text text) (s : Session) :
    (current v).run reactor s = (.ok v, s) := by
  have hcurrent : s.current v = v := by
    rw [Session.current]
    split
    · obtain rfl | ⟨n, rfl⟩ | ⟨text, rfl⟩ := h <;> rfl
    · rfl
  rw [run_current, hcurrent]

/-- Evaluating a plain report gives one that reports the same counts and identifiers. -/
theorem run_evaluate_of_plain {report : DriverReport Value} (h : report.Plain) (s : Session) :
    ∃ seen : DriverReport Value, (report.evaluate current).run reactor s = (.ok seen, s) ∧
      seen.Plain ∧ ∀ rowcount lastId, seen = .count rowcount lastId ↔
        report = .count rowcount lastId := by
  cases report with
  | rows v => exact ⟨.rows (s.current v), rfl, trivial, by simp⟩
  | failure text => exact ⟨.failure text, rfl, trivial, by simp⟩
  | count rowcount lastId =>
    refine ⟨.count rowcount lastId, ?_, h, fun _ _ => Iff.rfl⟩
    have hcount : (rowcount.mapM current).run reactor s = (.ok rowcount, s) := by
      cases rowcount with
      | none => rfl
      | some v =>
        exact run_bind_of_ok _ _ (run_current_of_plain ((h.1 v rfl).imp_right .inl) s) _
    have hlastId : (lastId.mapM current).run reactor s = (.ok lastId, s) := by
      cases lastId with
      | none => rfl
      | some v => exact run_bind_of_ok _ _ (run_current_of_plain (h.2 v rfl) s) _
    exact (run_bind_of_ok _ _ hcount _).trans (run_bind_of_ok _ _ hlastId _)

/-- The next outcome of an engine is told by its next report. -/
theorem run_nextOutcome (reactor : Reactor) (id : Nat) (engine : Engine)
    (hplain : (Engine.nextReport reports).1.Plain) (s : Session) :
    ∃ outcome t, (nextOutcome id engine reports).run reactor s = (.ok outcome, t) ∧
      Engine.Told reports outcome := by
  obtain ⟨seen, hseen, hplain, hcount⟩ := run_evaluate_of_plain hplain
    ((setSource id (.engine engine (Engine.nextReport reports).2)).run reactor s).2
  refine ⟨Engine.outcome seen, _,
    (run_bind_of_ok _ _ rfl _).trans (run_bind_of_ok _ _ hseen _), fun rows result h => ?_⟩
  obtain ⟨hresult, hid⟩ := Engine.plain_outcome hplain h
  exact ⟨hresult, hid.trans (exists_congr fun rowcount => hcount rowcount _)⟩

/-- How a statement of an engine ends, once it is known what the driver reports of it. -/
def endStatement (name : String) (method : ExecutorMethod) :
    Except Error (List Value × WriteResult) → Act Value
  | .ok (rows, result) => do
    happened (.committed name)
    return Engine.answer method rows result
  | .error failure => do
    happened (.rolledBack name)
    fail failure

/-- It ends in the same way by whatever method; the methods only differ in what they give of the
outcome. -/
theorem run_endStatement (reactor : Reactor) (name : String)
    (outcome : Except Error (List Value × WriteResult)) (s : Session) :
    ∃ t, ∀ method, (endStatement name method outcome).run reactor s =
      (outcome.map fun p => Engine.answer method p.1 p.2, t) := by
  cases outcome with
  | error failure => exact ⟨((happened (.rolledBack name)).run reactor s).2, fun _ => rfl⟩
  | ok p => exact ⟨((happened (.committed name)).run reactor s).2, fun _ => rfl⟩

/-- An engine does the same by whatever method it is asked. -/
theorem run_execute_of_engine (reactor : Reactor) (he : s.executors.get? id = some e)
    (hsource : e.source = .engine engine reports)
    (hplain : (Engine.nextReport reports).1.Plain) (statement : Statement) :
    ∃ outcome t, Engine.Told reports outcome ∧
      ∀ method, (execute id method statement).run reactor s =
        (outcome.map fun p => Engine.answer method p.1 p.2, t) := by
  let style := PlaceholderStyle.ofName engine.style
  let driven (sight : Sight) : Session := ((happened (.drove e.name
    { statement with sql := style.translate statement.sql } sight)).run reactor s).2
  cases hsight : s.sight statement.bindings with
  | error failure =>
    -- the driver is not asked
    obtain ⟨t, ht⟩ := run_endStatement reactor e.name (.error failure) (driven (.error failure))
    refine ⟨.error failure, t, nofun, fun method => ?_⟩
    rw [execute, run_get_bind]
    simp only [he]
    rw [run_get_bind, hsource, hsight]
    exact ht method
  | ok seen =>
    obtain ⟨outcome, u, hrun, htold⟩ := run_nextOutcome reactor id engine hplain (driven (.ok seen))
    obtain ⟨t, ht⟩ := run_endStatement reactor e.name outcome u
    refine ⟨outcome, t, htold, fun method => ?_⟩
    rw [execute, run_get_bind]
    simp only [he]
    rw [run_get_bind, hsource, hsight, ← ht method]
    exact (run_bind_of_ok _ _ rfl _).trans (run_bind_of_ok _ _ hrun _)

/-- So it does where the values to bind are given as a value, which may not be a list of them. -/
theorem run_executeGiven_of_engine (reactor : Reactor) (he : s.executors.get? id = some e)
    (hsource : e.source = .engine engine reports)
    (hplain : (Engine.nextReport reports).1.Plain) (sql : String) (given : Value) :
    ∃ outcome t, Engine.Told reports outcome ∧
      ∀ method, (executeGiven id method sql given).run reactor s =
        (outcome.map fun p => Engine.answer method p.1 p.2, t) := by
  have hexecute := fun bindings =>
    run_execute_of_engine reactor he hsource hplain { sql, bindings }
  obtain ⟨name, dialect, awaited, source⟩ := e
  obtain rfl : source = .engine engine reports := hsource
  simp only [executeGiven, run_get_bind, he]
  cases given.length with
  | error failure => exact ⟨.error failure, s, nofun, fun _ => rfl⟩
  | ok n =>
    cases given.items with
    | error failure => exact ⟨.error failure, s, nofun, fun _ => rfl⟩
    | ok bindings => exact hexecute bindings

/-- The outcome of a write, by a method that an executor is asked for directly. -/
def writeBy (id : Nat) (method : ExecutorMethod) (sql : String) (given : Value) :
    Act WriteResult := do
  of (WriteResult.ofReport (← executeGiven id method sql given))

/-- By either method the outcome of a write on an engine is told by its next report. A method that
runs statements gives it as it is, one that queries as it is read back; in the session there is no
difference. -/
theorem run_writeBy (reactor : Reactor) (he : s.executors.get? id = some e)
    (hsource : e.source = .engine engine reports)
    (hplain : (Engine.nextReport reports).1.Plain) (sql : String) (given : Value) :
    ∃ outcome t, Engine.Told reports outcome ∧
      (writeBy id .runBlocking sql given).run reactor s = (outcome.map (·.2), t) ∧
      (writeBy id .queryBlocking sql given).run reactor s = (outcome.map (·.2.readBack), t) := by
  obtain ⟨outcome, t, htold, hrun⟩ :=
    run_executeGiven_of_engine reactor he hsource hplain sql given
  refine ⟨outcome, t, htold, ?_⟩
  cases outcome with
  | error failure =>
    exact ⟨run_bind_of_error _ _ (hrun .runBlocking) _,
      run_bind_of_error _ _ (hrun .queryBlocking) _⟩
  | ok p =>
    refine ⟨run_bind_of_ok _ _ (hrun .runBlocking) _,
      (run_bind_of_ok _ _ (hrun .queryBlocking) _).trans ?_⟩
    rw [run_of, Engine.ofReport_answer_queryBlocking p.1 (htold p.1 p.2 rfl).1]
    rfl

/-- Whatever the driver of an engine reports of a write, short of an identifier of -1, the outcome
is the same by a method that runs statements and by one that queries: the two leave the same
session, fail alike, or come to the same outcome, and neither gives less than no changed rows. An
identifier of -1 is kept by the one and lost by the other.

**Proof sketch.** Both methods run one statement and read one report, so they share all but how the
report is read. A method that queries wraps it, and what is read back of it is the same but for the
mark of an unknown count, which is taken off the identifier too. -/
theorem writeBy_agree (reactor : Reactor) {s : Session} {id : Nat} {e : Executor Value}
    {engine : Engine} {reports : List (DriverReport Value)} (he : s.executors.get? id = some e)
    (hsource : e.source = .engine engine reports)
    (hplain : (Engine.nextReport reports).1.Plain) (sql : String) (given : Value) :
    let written := (writeBy id .runBlocking sql given).run reactor s
    let queried := (writeBy id .queryBlocking sql given).run reactor s
    (queried = written ↔ ∀ result, written.1 = .ok result →
      ∀ rowcount, (Engine.nextReport reports).1 ≠ .count rowcount (some (.int (-1)))) ∧
    queried = (written.1.map WriteResult.readBack, written.2) ∧
    ∀ result, written.1 = .ok result ∨ queried.1 = .ok result →
      ∃ n : Nat, result.changes = .int n := by
  intro written queried
  obtain ⟨outcome, t, htold, hwritten, hqueried⟩ :=
    run_writeBy reactor he hsource hplain sql given
  have hw : written = (outcome.map (·.2), t) := hwritten
  have hq : queried = (outcome.map (·.2.readBack), t) := hqueried
  rw [hw, hq]
  cases outcome with
  | error failure => exact ⟨by simp [Except.map], rfl, by simp [Except.map]⟩
  | ok p =>
    obtain ⟨hresult, hid⟩ := htold p.1 p.2 rfl
    refine ⟨?_, rfl, ?_⟩
    · have hagree : p.2.readBack = p.2 ↔
          ∀ rowcount, (Engine.nextReport reports).1 ≠ .count rowcount (some (.int (-1))) := by
        rw [WriteResult.readBack_eq_self_iff hresult, Ne, hid, not_exists]
      simpa [Except.map] using hagree
    · rintro result (h | h)
      · obtain rfl := Except.ok.inj h
        exact hresult.changes
      · obtain rfl := Except.ok.inj h
        exact hresult.changes

end Act

/-- A session with an engine whose driver still has something to report. -/
def Session.driven (reports : List (DriverReport Value)) : Session where
  clock := default
  executors := .single "db" (.ofEngine "db" {
    dialect := "sqlite", style := "qmark", url := "sqlite://", database := none } reports)

namespace Act

/-- The two agree on a row with the identifier 7. -/
theorem writeBy_agree_seven :
    let s := Session.driven [.count (some (.int 1)) (some (.int 7))]
    (writeBy 0 .queryBlocking "INSERT INTO notes (a) VALUES (?)" (.list [.null])).run .still s =
      (writeBy 0 .runBlocking "INSERT INTO notes (a) VALUES (?)" (.list [.null])).run .still s := by
  intro s
  have hplain : (DriverReport.count (some (.int 1)) (some (.int 7))).Plain :=
    ⟨fun v hv => .inr ⟨1, (Option.some.inj hv).symm⟩,
      fun v hv => .inr (.inl ⟨7, (Option.some.inj hv).symm⟩)⟩
  have hagree := @writeBy_agree .still s 0 _ _ _ rfl rfl hplain
    "INSERT INTO notes (a) VALUES (?)" (.list [.null])
  exact hagree.1.mpr fun _ _ _ hreport => by simp [Engine.nextReport] at hreport

/-- A row with the identifier -1 has it by a method that runs statements, and none by one that
queries. -/
theorem writeBy_negative_differ :
    let s := Session.driven [.count (some (.int 1)) (some (.int (-1)))]
    let written := (writeBy 0 .runBlocking "INSERT INTO notes (a) VALUES (?)" (.list [.null])).run
      .still s
    let queried := (writeBy 0 .queryBlocking "INSERT INTO notes (a) VALUES (?)" (.list [.null])).run
      .still s
    (written.1.toOption.map fun result => result.lastId.equal (.int (-1))) = some true ∧
      (queried.1.toOption.map fun result => result.lastId.equal (.int 0)) = some true ∧
      queried.1 ≠ written.1 := by
  intro s written queried
  have hwritten : (written.1.toOption.map fun result => result.lastId.truthy) = some true := by
    decide +kernel
  have hqueried : (queried.1.toOption.map fun result => result.lastId.truthy) = some false := by
    decide +kernel
  refine ⟨by decide +kernel, by decide +kernel, fun h => ?_⟩
  rw [h, hwritten] at hqueried
  cases hqueried

end Act

end FluentSql
