import FluentSql.Proofs.Session.Blocking
import FluentSql.Proofs.Session.Keeping

set_option autoImplicit false

/-!
# Work in a simulation

While a simulation of its own runs, a builder reads and writes its tables. What reads leave behind
are copies, and a write is carried out on copies until it has succeeded: then its table is published
and the queued write taken away, all at once, and a write that fails has only copied.

## Main definitions

* `FluentSql.Act.applyQueued` — the queued write of a builder, carried out on a copy of a table.
* `FluentSql.Session.written` — the session once a write has been made in a simulation.
* `FluentSql.Frame.copying` — copies of builders are added, and nothing else changes.

## Main results

* `FluentSql.Act.make_simulated_cases` — a write is made as a whole or not at all.
* `FluentSql.Act.rel_reading_request` — what the requests that read leave as it is.
* `FluentSql.Act.run_applyQueued` — without references, what is made of a table is a function of
  the query and the table.
-/

namespace FluentSql

/-! ## Writes on copies -/

/-- What the queued write of a query, if it may run, makes of a table, an empty one if there is
none: the table that it leaves, and what it reports. -/
def Descriptor.make (d : Descriptor) (table : Value) : Except Error (Value × WriteResult) := do
  let _ ← d.checkedAction
  let given := table.orElse (.list [])
  (d.applyTo Act.primaryKey given).result given

namespace Act

/-- Carries out the queued write of a builder, if it may run, on a copy of a table, an empty one if
there is none: the table that it leaves, and what it reports. -/
def applyQueued (id : Nat) (table : Value) : Act (Value × WriteResult) := do
  let _ ← of (← builder id).descriptor.checkedAction
  let given ← copy (table.orElse (.list []))
  let attempt ← copiedAttempt ((← copiedValues id).applyTo primaryKey given)
  of (attempt.result given)

/-- Publishes the table that a write of a builder has left, and takes the queued write away. -/
def settle (id : Nat) (b : Builder) (left : Value) : Act Unit := do
  let t ← freshTable left
  publish b.options.simulation b.table t
  changeBuilder id fun b => { b with replay := t }
  clearPending id

end Act

namespace Session

/-- The session with as many stamps used up. -/
def stamped (s : Session) (count : Nat) : Session := { s with nextStamp := s.nextStamp + count }

/-- The session with a table put into a simulation. -/
def published (s : Session) (simulation : Option Nat) (name : String) (t : Table) : Session :=
  { s with simulations := s.simulations.modify (simulation.getD 0) fun m =>
      { m with state := m.state.put name t } }

/-- The session once a write of a builder has been made in a simulation and has left a table. -/
def written (s : Session) (id : Nat) (b : Builder) (left : Value) : Session :=
  let t := Table.ofValue s.nextStamp left
  (((s.stamped (Table.ofValue 0 left).rows.length).published b.options.simulation b.table t).changed
    id fun b => { b with replay := t }).changed id Builder.settled

@[simp] theorem configs_written (s : Session) (id : Nat) (b : Builder) (left : Value) :
    (s.written id b left).configs = s.configs := by
  simp only [written, changed, published, stamped]

@[simp] theorem controller_written (s : Session) (id : Nat) (b : Builder) (left : Value) :
    (s.written id b left).controller = s.controller := by
  simp only [written, changed, published, stamped]

@[simp] theorem linked_written (s : Session) (id : Nat) (b : Builder) (left : Value) :
    (s.written id b left).linked = s.linked := by
  simp only [written, changed, published, stamped]

/-- The builder whose write has been made replays on the table that is left, and has nothing queued.
-/
theorem get?_written {s : Session} {id : Nat} {c : Builder} (hc : s.builders.get? id = some c)
    (b : Builder) (left : Value) :
    (s.written id b left).builders.get? id =
      some { c.settled with replay := .ofValue s.nextStamp left } := by
  have hget : (s.written id b left).builders.get? id = ((s.builders.get? id).map
      fun c => { c with replay := .ofValue s.nextStamp left }).map Builder.settled := by
    rw [← Directory.get?_modify, ← Directory.get?_modify]
    rfl
  rw [hget, hc]
  rfl

/-- No other builder is touched when a write has been made. -/
theorem get?_written_of_ne (s : Session) {id other : Nat} (h : id ≠ other) (b : Builder)
    (left : Value) :
    (s.written id b left).builders.get? other = s.builders.get? other := by
  have hget : (s.written id b left).builders.get? other =
      (s.builders.modify id fun c => { c with replay := .ofValue s.nextStamp left }).get? other :=
    Directory.get?_modify_of_ne _ h _
  rw [hget, Directory.get?_modify_of_ne _ h]

end Session

/-- The frame within which copies of builders are added and nothing else changes. -/
def Frame.copying : Frame where
  rel s t := t = { s with builders := t.builders } ∧
    ∀ id b, s.builders.get? id = some b → t.builders.get? id = some b
  refl s := ⟨rfl, fun id b hb => hb⟩
  trans := by
    rintro s t u ⟨hst, hbuilders⟩ ⟨htu, hbuilders'⟩
    exact ⟨htu.trans (congrArg (fun v : Session => { v with builders := u.builders }) hst),
      fun id b hb => hbuilders' id b (hbuilders id b hb)⟩

/-- Adding copies stays within the frame of reading. -/
theorem Frame.reading_of_copying {s t : Session} (h : copying.rel s t) : reading.rel s t := by
  refine ⟨?_, fun id b hb => ⟨b, h.2 id b hb, rfl, rfl⟩⟩
  rw [h.1]

namespace Act

variable {reactor : Reactor} {s : Session} {id : Nat} {b : Builder}

theorem keeps_copy_copying (v : Value) : Keeps Frame.copying reactor (copy v) := by
  refine keeps_copy (fun s ids => ?_) v
  exact ⟨rfl, fun id b hb => s.get?_copyBuilders ids hb⟩

theorem keeps_copiedValues (id : Nat) : Keeps Frame.copying reactor (copiedValues id) := by
  refine keeps_bind (keeps_currentQuery id) fun d => ?_
  cases d.pending with
  | none => exact keeps_pure d
  | some action =>
    dsimp only
    split
    · exact keeps_bind (keeps_copy_copying _) fun data => keeps_pure _
    · split
      · exact keeps_bind (keeps_copy_copying _) fun values =>
          keeps_bind (keeps_pure _) fun data => keeps_pure _
      · exact keeps_bind (keeps_pure _) fun data => keeps_pure _
    · exact keeps_bind (keeps_pure _) fun data => keeps_pure _

theorem keeps_copiedAttempt (a : Attempt) : Keeps Frame.copying reactor (copiedAttempt a) := by
  rw [copiedAttempt]
  split
  · exact keeps_pure a
  · next written _ =>
    refine keeps_bind ?_ fun remainder => keeps_pure _
    cases written.remainder with
    | whole => exact keeps_pure _
    | extended added => exact keeps_bind (keeps_copy_copying added) fun added => keeps_pure _
    | selection kept => exact keeps_pure _

/-- Carrying out a write on a copy of a table only copies. -/
theorem keeps_applyQueued (id : Nat) (table : Value) :
    Keeps Frame.copying reactor (applyQueued id table) := by
  refine keeps_bind (keeps_builder id) fun b => keeps_bind (keeps_of _) fun checked => ?_
  refine keeps_bind (keeps_copy_copying _) fun given => ?_
  refine keeps_bind (keeps_copiedValues id) fun d => ?_
  exact keeps_bind (keeps_copiedAttempt _) fun attempt => keeps_of _

/-! ## Making a write -/

/-- A table that is published in a running simulation of its own becomes one of its tables. -/
theorem run_publish {simulation : Option Nat} (hown : s.controllerOf simulation = none)
    (hrunning : s.simulating simulation = true) (name : String) (t : Table) :
    (publish simulation name t).run reactor s = (.ok (), s.published simulation name t) := by
  rw [publish, run_get_bind, if_pos hrunning, putTable, run_get_bind, hown]
  rfl

/-- What a write has left is published and settled. -/
theorem run_settle (hown : s.controllerOf b.options.simulation = none)
    (hrunning : s.simulating b.options.simulation = true) (left : Value) :
    (settle id b left).run reactor s = (.ok (), s.written id b left) := by
  have hfresh : (freshTable left).run reactor s =
      (.ok (.ofValue s.nextStamp left), s.stamped (Table.ofValue 0 left).rows.length) := rfl
  rw [settle, run_bind_of_ok _ _ hfresh]
  refine run_bind_of_ok _ _ (run_publish ?_ ?_ _ _) _
  · exact hown
  · exact hrunning

/-- A write that is made in a simulation is carried out on a copy of the table, and then settled. -/
theorem run_make_simulated (hb : s.builders.get? id = some b)
    (hrunning : s.simulating b.options.simulation = true) :
    (make id).run reactor s =
      (applyQueued id ((s.snapshot b.options.simulation).value b.table) >>= fun p => do
        settle id b p.1
        return p.2).run reactor s := by
  rw [make, run_builder_bind reactor s hb, run_get_bind, if_pos hrunning, makeSimulated,
    run_builder_bind reactor s hb, applyQueued]
  simp only [settle, bind_assoc]
  rw [run_builder_bind reactor s hb]
  cases b.descriptor.checkedAction with
  | error e => rw [run_of_error_bind, run_of_error_bind]
  | ok checked => rw [run_of_ok_bind, run_of_ok_bind, run_get_bind]

/-- A write that is made in a simulation of its own fails, and then only copies have been made, or
the table that it leaves is published and the queued write taken away. -/
theorem make_simulated_cases (reactor : Reactor) (hb : s.builders.get? id = some b)
    (hown : s.controllerOf b.options.simulation = none)
    (hrunning : s.simulating b.options.simulation = true) :
    ∃ u, Frame.copying.rel s u ∧
      ((∃ e, (make id).run reactor s = (.error e, u) ∧
          ((applyQueued id ((s.snapshot b.options.simulation).value b.table)).run reactor s).1 =
            .error e) ∨
        ∃ left result, (make id).run reactor s = (.ok result, u.written id b left) ∧
          ((applyQueued id ((s.snapshot b.options.simulation).value b.table)).run reactor s).1 =
            .ok (left, result)) := by
  rw [run_make_simulated hb hrunning, run_bind]
  rcases hr : (applyQueued id ((s.snapshot b.options.simulation).value b.table)).run reactor s with
    ⟨e | ⟨left, result⟩, u⟩
  · exact ⟨u, (keeps_applyQueued id _).rel hr, .inl ⟨e, rfl, rfl⟩⟩
  · have hcopying : Frame.copying.rel s u := (keeps_applyQueued id _).rel hr
    have hown' : u.controllerOf b.options.simulation = none := by
      rw [hcopying.1]
      exact hown
    have hrunning' : u.simulating b.options.simulation = true := by
      rw [hcopying.1]
      exact hrunning
    refine ⟨u, hcopying, .inr ⟨left, result, ?_, rfl⟩⟩
    exact run_bind_of_ok _ _ (run_settle hown' hrunning' left) _

/-! ## Reading -/

theorem keeps_simulatedRows (b : Builder) : Keeps Frame.reading reactor (simulatedRows b) := by
  refine keeps_bind keeps_get fun s => ?_
  split
  · exact keeps_pure []
  · exact keeps_bind (keeps_copy_reading _) fun table => keeps_of _

/-- Reading rows from a running simulation only copies. -/
theorem rel_reading_rows (hrunning : s.simulating b.options.simulation = true) :
    Frame.reading.rel s ((rows b).run reactor s).2 := by
  rw [rows, run_get_bind, if_pos hrunning]
  exact keeps_simulatedRows b s

/-- Reading all rows leaves copies, an entry of the log and a table to replay on. -/
theorem rel_reading_all (hb : s.builders.get? id = some b)
    (hrunning : s.simulating b.options.simulation = true) :
    Frame.reading.rel s ((all id).run reactor s).2 := by
  refine rel_bind (keeps_note_reading _ _ s) fun _ t ht => ?_
  refine rel_bind (keeps_remember_reading t) fun _ u hu => ?_
  have hreading : Frame.reading.rel s u :=
    Frame.reading.trans (Keeps.rel (keeps_note_reading _ _) ht) (keeps_remember_reading.rel hu)
  obtain ⟨c, hc, hrunning'⟩ := Frame.simulating_of_reading hreading hb hrunning
  rw [run_builder_bind reactor u hc]
  exact rel_reading_rows hrunning'

/-- The requests that read from a running simulation leave everything but logs, tables to replay on
and stamps as it is, and add copies. -/
theorem rel_reading_request (hb : s.builders.get? id = some b)
    (hrunning : s.simulating b.options.simulation = true) {asked : Request}
    (hasked : asked.simulates = true) (hread : asked ≠ .make) (args : Arguments) :
    Frame.reading.rel s ((request id asked args).run reactor s).2 := by
  have hcut : ∀ (change : Descriptor → Descriptor) {α : Type} (f : List Value → Act α),
      (∀ found, Keeps Frame.reading reactor (f found)) → Frame.reading.rel s
        ((builder id >>= fun b => rows (b.clone.edit change) >>= f).run reactor s).2 := by
    intro change α f hf
    rw [run_builder_bind reactor s hb]
    exact rel_bind (rel_reading_rows hrunning) fun found t _ => hf found t
  cases asked with
  | all => exact rel_bind (rel_reading_all hb hrunning) fun found t _ => keeps_pure _ t
  | get =>
    exact rel_bind (hcut _ _ fun found => keeps_pure _) fun row t _ => keeps_pure _ t
  | first =>
    exact rel_bind (hcut _ _ fun found => keeps_pure _) fun row t _ => keeps_pure _ t
  | find =>
    refine rel_of_bind fun key _ => ?_
    exact rel_bind (hcut _ _ fun found => keeps_pure _) fun row t _ => keeps_pure _ t
  | exist =>
    exact rel_bind (hcut _ _ fun found => keeps_pure _) fun found t _ => keeps_pure _ t
  | pluck =>
    refine rel_of_bind fun column _ => ?_
    exact rel_bind (hcut _ _ fun found => keeps_of _) fun cells t _ => keeps_pure _ t
  | make => exact absurd rfl hread
  | _ => cases hasked

end Act

/-! ## Without references -/

/-- Putting in the value that is there changes nothing. -/
theorem Fields.set_of_get?_eq_some {fs : Fields} {key v : Value} (h : fs.get? key = some v) :
    fs.set key v = fs := by
  induction fs with
  | nil => cases h
  | cons entry rest ih =>
    obtain ⟨other, w⟩ := entry
    rw [Fields.set]
    cases hother : other.agrees key with
    | true =>
      obtain rfl : w = v := by simpa [Fields.get?, hother] using h
      rfl
    | false =>
      have hrest : Fields.get? rest key = some v := by simpa [Fields.get?, hother] using h
      simp [ih hrest]

namespace Act

variable {reactor : Reactor} {s : Session} {id : Nat} {b : Builder}

/-- Where no value refers to a builder, a copy of a value is the value. -/
theorem run_copy (hlinked : s.linked = false) (v : Value) :
    (copy v).run reactor s = (.ok v, s) := by
  rw [copy, run_get_bind, hlinked]
  rfl

/-- Where no value refers to a builder, copying the queued values of a query leaves the query. -/
theorem run_copiedValues (hlinked : s.linked = false) (hb : s.builders.get? id = some b) :
    (copiedValues id).run reactor s = (.ok b.descriptor, s) := by
  have hquery : (currentQuery id).run reactor s = (.ok b.descriptor, s) := by
    rw [run_currentQuery reactor s hb, Session.currentQuery, hlinked]
    rfl
  rw [copiedValues, run_bind_of_ok _ _ hquery]
  rcases hpending : b.descriptor.pending with _ | ⟨kind, data⟩
  · rfl
  · have hsame : ∀ {d : Descriptor}, d = { b.descriptor with pending := some { kind, data } } →
        (Except.ok d, s) = ((Except.ok b.descriptor, s) : Except Error Descriptor × Session) := by
      rintro d rfl
      rw [← hpending]
      cases b.descriptor
      rfl
    dsimp only
    split
    · exact (run_bind_of_ok _ _ (run_copy hlinked _) _).trans (hsame rfl)
    · split
      · next fields values hget =>
        refine (run_bind_of_ok _ _ (run_copy hlinked values) _).trans (hsame ?_)
        rw [Fields.set_of_get?_eq_some hget]
      · exact hsame rfl
    · exact hsame rfl

/-- Where no value refers to a builder, copying the rows that an attempt adds leaves the attempt. -/
theorem run_copiedAttempt (hlinked : s.linked = false) (a : Attempt) :
    (copiedAttempt a).run reactor s = (.ok a, s) := by
  obtain ⟨touched, told, _ | ⟨remainder, result⟩⟩ := a
  · rfl
  · have hremainder : (copiedRemainder remainder).run reactor s = (.ok remainder, s) := by
      cases remainder with
      | whole => rfl
      | extended added => exact run_bind_of_ok _ _ (run_copy hlinked added) _
      | selection kept => rfl
    exact run_bind_of_ok _ _ hremainder _

/-- Where no value refers to a builder, carrying out a write on a copy of a table gives what the
query makes of the table.

**Proof sketch.** Without references every copy is what is copied, so the copies of the table, of
the values and of the changed rows leave the session alone. -/
theorem run_applyQueued (hlinked : s.linked = false) (hb : s.builders.get? id = some b)
    (table : Value) :
    (applyQueued id table).run reactor s = (b.descriptor.make table, s) := by
  rw [applyQueued, run_builder_bind _ _ hb, Descriptor.make]
  cases b.descriptor.checkedAction with
  | error e => rfl
  | ok checked =>
    rw [run_of_ok_bind, run_bind_of_ok _ _ (run_copy hlinked _),
      run_bind_of_ok _ _ (run_copiedValues hlinked hb),
      run_bind_of_ok _ _ (run_copiedAttempt hlinked _)]
    rfl

end Act

end FluentSql
