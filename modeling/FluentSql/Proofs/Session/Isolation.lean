import FluentSql.Proofs.Directory
import FluentSql.Proofs.Rows.Faults
import FluentSql.Proofs.Session.Execution
import FluentSql.Proofs.Session.Look
import FluentSql.Session.Calling

set_option autoImplicit false

/-!
# Reading and writing in a simulation

While the simulation of a builder runs, the requests that look at it read and write the tables of
the simulation and nothing else: they come out the same in a session that has no executors at all,
nothing is handed to an executor, nobody hears an event, and no error of the configuration arises.

## Main definitions

* `FluentSql.Session.deprived` — a session without executors and registries of databases.
* `FluentSql.Act.Isolated` — an act does the same in a session that is deprived of its executors.

## Main results

* `FluentSql.Act.isolated_make` and its kin — the requests that look at the simulation.
-/

namespace FluentSql

/-! ## Sessions without executors -/

/-- A configuration without executors. -/
def Config.deprived (c : Config) : Config := { c with executor := none, databases := none }

namespace Session

/-- A session without executors and registries of databases. -/
def deprived (s : Session) : Session :=
  { s with executors := {}, configs := s.configs.map Config.deprived }

/-- What a simulation has no business with: what has happened, executors and configurations. -/
def outside (s : Session) : Trace × Directory (Executor Value) × Directory Config :=
  (s.trace, s.executors, s.configs)

variable (s : Session)

@[simp] theorem controllerOf_deprived (id : Option Nat) :
    s.deprived.controllerOf id = s.controllerOf id := by
  have hconfig : ∀ id, (s.deprived.config id).controlled = (s.config id).controlled := by
    intro id
    simp only [config, deprived, Directory.get?, Directory.map, List.getElem?_map]
    cases s.configs.items[id.getD 0]? <;> rfl
  rw [controllerOf, controllerOf, hconfig]
  rfl

@[simp] theorem simulating_deprived (id : Option Nat) :
    s.deprived.simulating id = s.simulating id := by
  rw [simulating, simulating, controllerOf_deprived]
  rfl

@[simp] theorem snapshot_deprived (id : Option Nat) :
    s.deprived.snapshot id = s.snapshot id := by
  rw [snapshot, snapshot, controllerOf_deprived]
  rfl

@[simp] theorem recording_deprived (b : Builder) : s.deprived.recording b = s.recording b := by
  simp [recording]

/-- A deprived session has the same builders. -/
theorem builders_deprived : s.deprived.builders = s.builders := rfl

@[simp] theorem current_deprived (v : Value) : s.deprived.current v = s.current v :=
  current_congr (visible_congr s.builders_deprived) rfl v

@[simp] theorem currentQuery_deprived (d : Descriptor) :
    s.deprived.currentQuery d = s.currentQuery d :=
  currentQuery_congr (visible_congr s.builders_deprived) rfl d

/-- Copying builders comes out the same. -/
theorem copyBuilders_deprived (ids : List Nat) :
    s.deprived.copyBuilders ids = ((s.copyBuilders ids).1, (s.copyBuilders ids).2.deprived) := by
  simp only [copyBuilders, s.builders_deprived, reachable_congr (visible_congr s.builders_deprived)]
  rfl

end Session

/-! ## Acts that keep to the simulation -/

namespace Act

/-- An act does the same in a session that is deprived of its executors, leaves what is outside of
the simulation alone, and fails with no error of the configuration. -/
structure Isolated {α : Type} (reactor : Reactor) (s : Session) (a : Act α) : Prop where
  same : a.run reactor s.deprived = ((a.run reactor s).1, (a.run reactor s).2.deprived)
  outside : (a.run reactor s).2.outside = s.outside
  errors : NoConfigurationError (a.run reactor s).1

section Isolated

variable {α β : Type} {reactor : Reactor} {s : Session}

theorem isolated_pure (x : α) : Isolated reactor s (pure x : Act α) :=
  ⟨rfl, rfl, onlyErrors_ok x⟩

theorem isolated_of {e : Except Error α} (h : NoConfigurationError e) :
    Isolated reactor s (of e) := ⟨rfl, rfl, h⟩

/-- A sequence keeps to the simulation if its parts do. -/
theorem isolated_bind {a : Act α} {f : α → Act β} (ha : Isolated reactor s a)
    (hf : ∀ x t, a.run reactor s = (.ok x, t) → Isolated reactor t (f x)) :
    Isolated reactor s (a >>= f) := by
  obtain ⟨hsame, houtside, herrors⟩ := ha
  rcases hr : a.run reactor s with ⟨_ | x, t⟩ <;> rw [hr] at hsame houtside herrors
  · refine ⟨?_, ?_, ?_⟩
    · rw [run_bind, run_bind, hsame, hr]
    · rw [run_bind, hr]
      exact houtside
    · rw [run_bind, hr]
      exact (onlyErrors_error _).mpr ((onlyErrors_error _).mp herrors)
  · obtain ⟨hsame', houtside', herrors'⟩ := hf x t hr
    refine ⟨?_, ?_, ?_⟩
    · rw [run_bind, run_bind, hsame, hr]
      exact hsame'
    · rw [run_bind, hr]
      exact houtside'.trans houtside
    · rw [run_bind, hr]
      exact herrors'

/-- What follows a check keeps to the simulation if it does so with every value of the check. -/
theorem isolated_of_bind {e : Except Error α} {f : α → Act β} (h : NoConfigurationError e)
    (hf : ∀ x, Isolated reactor s (f x)) : Isolated reactor s (of e >>= f) := by
  refine isolated_bind (isolated_of h) fun x t ht => ?_
  rw [run_of] at ht
  obtain ⟨-, rfl⟩ := Prod.mk.inj ht
  exact hf x

/-- What only asks the session for things that it does not lose keeps to the simulation. -/
theorem isolated_get_bind {f : Session → Act α} (hf : f s.deprived = f s)
    (h : Isolated reactor s (f s)) : Isolated reactor s (get >>= f) := by
  obtain ⟨hsame, houtside, herrors⟩ := h
  refine ⟨?_, houtside, herrors⟩
  rw [run_bind, run_bind, run_get, run_get]
  dsimp only
  rw [hf, hsame]

/-- A change of what is not outside keeps to the simulation. -/
theorem isolated_modify {f : Session → Session} (hf : f s.deprived = (f s).deprived)
    (h : (f s).outside = s.outside) : Isolated reactor s (modify f : Act Unit) :=
  ⟨by rw [run_modify, run_modify, hf], h, onlyErrors_ok ()⟩

theorem isolated_builder (id : Nat) : Isolated reactor s (builder id) := by
  refine isolated_get_bind rfl ?_
  cases s.builders.get? id with
  | none => exact isolated_of ((onlyErrors_error _).mpr rfl)
  | some b => exact isolated_pure b

theorem isolated_changeBuilder (id : Nat) (change : Builder → Builder) :
    Isolated reactor s (changeBuilder id change) := isolated_modify rfl rfl

theorem isolated_currentQuery (id : Nat) : Isolated reactor s (currentQuery id) := by
  refine isolated_get_bind (by simp) ?_
  exact isolated_bind (isolated_builder id) fun b t _ => isolated_pure _

/-- Copying keeps to the simulation. -/
theorem isolated_copy (v : Value) : Isolated reactor s (copy v) := by
  have hrun : ∀ s : Session, (copy v).run reactor s =
      if s.linked then
        (.ok ((s.copyBuilders v.references).2.current
          (v.rename (s.copyBuilders v.references).1)), (s.copyBuilders v.references).2)
      else (.ok v, s) := by
    intro s
    rw [copy, run_bind, run_get]
    dsimp only
    cases s.linked <;> rfl
  refine ⟨?_, ?_, ?_⟩
  · rw [hrun, hrun, show s.deprived.linked = s.linked from rfl]
    split
    · simp only [Session.copyBuilders_deprived, Session.current_deprived]
    · rfl
  · rw [hrun]
    split <;> rfl
  · rw [hrun]
    split <;> exact onlyErrors_ok _

theorem isolated_freshTable (v : Value) : Isolated reactor s (freshTable v) := by
  refine isolated_bind ?_ fun stamp t _ => isolated_pure _
  exact isolated_get_bind rfl (isolated_bind (isolated_modify rfl rfl) fun _ t _ => isolated_pure _)

theorem isolated_note (id : Nat) (step : String) (details : Value) :
    Isolated reactor s (note id step details) := by
  refine isolated_bind (isolated_builder id) fun b t _ => isolated_get_bind (by simp) ?_
  split
  · exact isolated_changeBuilder id _
  · exact isolated_pure ()

theorem isolated_remember (id : Nat) : Isolated reactor s (remember id) := by
  refine isolated_bind (isolated_builder id) fun b t _ => isolated_get_bind (by simp) ?_
  split
  · split
    · exact isolated_pure ()
    · exact isolated_bind (isolated_copy _) fun table t _ =>
        isolated_bind (isolated_freshTable table) fun replay t _ => isolated_changeBuilder id _
  · exact isolated_pure ()

/-- The rows of a running simulation are read from its tables. -/
theorem isolated_rows {b : Builder} (h : s.simulating b.options.simulation = true) :
    Isolated reactor s (rows b) := by
  refine isolated_get_bind (by simp) ?_
  rw [if_pos h]
  refine isolated_get_bind (by simp) ?_
  split
  · exact isolated_pure []
  · exact isolated_bind (isolated_copy _) fun table t _ =>
      isolated_of (Descriptor.onlyFaults_selectRows _ table).noConfigurationError

end Isolated

end Act

/-! ## What reading leaves of a builder -/

/-- Copying builders leaves the builders that there are. -/
theorem Session.get?_copyBuilders {s : Session} {id : Nat} {b : Builder} (ids : List Nat)
    (h : s.builders.get? id = some b) : (s.copyBuilders ids).2.builders.get? id = some b :=
  Directory.get?_foldl_add_of_eq_some _ _ h

/-- The frame of reading in a simulation: copies of builders are added, and stamps are used up.
Every builder keeps its query and where it belongs, though its log and the table that it replays on
may become others. -/
def Frame.reading : Frame where
  rel s t := t = { s with builders := t.builders, nextStamp := t.nextStamp } ∧
    ∀ id b, s.builders.get? id = some b →
      ∃ c, t.builders.get? id = some c ∧ c.descriptor = b.descriptor ∧ c.options = b.options
  refl s := ⟨rfl, fun id b hb => ⟨b, hb, rfl, rfl⟩⟩
  trans := by
    rintro s t u ⟨hst, hbuilders⟩ ⟨htu, hbuilders'⟩
    refine ⟨htu.trans (congrArg (fun v : Session =>
      { v with builders := u.builders, nextStamp := u.nextStamp }) hst), fun id b hb => ?_⟩
    obtain ⟨c, hc, hdescriptor, hoptions⟩ := hbuilders id b hb
    obtain ⟨c', hc', hdescriptor', hoptions'⟩ := hbuilders' id c hc
    exact ⟨c', hc', hdescriptor'.trans hdescriptor, hoptions'.trans hoptions⟩

/-- The simulation of a builder runs on while something is read from it. -/
theorem Frame.simulating_of_reading {s t : Session} {id : Nat} {b : Builder}
    (h : Frame.reading.rel s t) (hb : s.builders.get? id = some b)
    (hrunning : s.simulating b.options.simulation = true) :
    ∃ c, t.builders.get? id = some c ∧ t.simulating c.options.simulation = true := by
  obtain ⟨c, hc, -, hoptions⟩ := h.2 id b hb
  refine ⟨c, hc, ?_⟩
  rw [h.1, hoptions]
  exact hrunning

namespace Act

section Reading

variable {reactor : Reactor} {s : Session} {id : Nat} {b : Builder}

/-- A change of a builder that leaves its query and its options alone. -/
theorem keeps_changeBuilder_reading {change : Builder → Builder}
    (h : ∀ b, (change b).descriptor = b.descriptor ∧ (change b).options = b.options) :
    Keeps Frame.reading reactor (changeBuilder id change) := by
  refine fun s => ⟨rfl, fun other b hb => ?_⟩
  by_cases hother : id = other
  · subst hother
    exact ⟨change b, by simp [Session.changed, hb], h b⟩
  · exact ⟨b, (Directory.get?_modify_of_ne _ hother _).trans hb, rfl, rfl⟩

theorem keeps_note_reading (step : String) (details : Value) :
    Keeps Frame.reading reactor (note id step details) := by
  refine keeps_bind (keeps_builder id) fun b => keeps_bind keeps_get fun s => ?_
  split
  · exact keeps_changeBuilder_reading fun b => ⟨rfl, rfl⟩
  · exact keeps_pure ()

theorem keeps_copy_reading (v : Value) : Keeps Frame.reading reactor (copy v) := by
  refine keeps_copy (fun s ids => ?_) v
  exact ⟨rfl, fun id b hb => ⟨b, s.get?_copyBuilders ids hb, rfl, rfl⟩⟩

theorem keeps_freshTable_reading (v : Value) : Keeps Frame.reading reactor (freshTable v) := by
  refine keeps_bind ?_ fun stamp => keeps_pure _
  refine keeps_bind keeps_get fun s => keeps_bind (keeps_modify fun s => ?_) fun _ => keeps_pure _
  exact ⟨rfl, fun id b hb => ⟨b, hb, rfl, rfl⟩⟩

theorem keeps_remember_reading : Keeps Frame.reading reactor (remember id) := by
  refine keeps_bind (keeps_builder id) fun b => keeps_bind keeps_get fun s => ?_
  split
  · split
    · exact keeps_pure ()
    · exact keeps_bind (keeps_copy_reading _) fun table =>
        keeps_bind (keeps_freshTable_reading table) fun replay =>
          keeps_changeBuilder_reading fun b => ⟨rfl, rfl⟩
  · exact keeps_pure ()

/-- What a builder is asked for keeps to the simulation if it does so with the builder that there
is. -/
theorem isolated_builder_bind {α : Type} {f : Builder → Act α} (hb : s.builders.get? id = some b)
    (h : Isolated reactor s (f b)) : Isolated reactor s (builder id >>= f) := by
  refine isolated_bind (isolated_builder id) fun c t hc => ?_
  rw [run_builder reactor s hb] at hc
  cases hc
  exact h

/-- Reading all rows keeps to the simulation. -/
theorem isolated_all (hb : s.builders.get? id = some b)
    (h : s.simulating b.options.simulation = true) : Isolated reactor s (all id) := by
  refine isolated_bind (isolated_note id _ _) fun _ t ht => ?_
  refine isolated_bind (isolated_remember id) fun _ u hu => ?_
  have hreading := Frame.reading.trans (Keeps.rel (keeps_note_reading _ _) ht)
    (Keeps.rel keeps_remember_reading hu)
  obtain ⟨c, hc, hrunning⟩ := Frame.simulating_of_reading hreading hb h
  exact isolated_builder_bind hc (isolated_rows hrunning)

/-- Reading the first row keeps to the simulation. -/
theorem isolated_firstRow (hb : s.builders.get? id = some b)
    (h : s.simulating b.options.simulation = true) : Isolated reactor s (firstRow id) :=
  isolated_builder_bind hb
    (isolated_bind (isolated_rows h) fun _ _ _ => isolated_pure _)

/-- Reading the row of an identifier keeps to the simulation. -/
theorem isolated_find (key : Value) (hb : s.builders.get? id = some b)
    (h : s.simulating b.options.simulation = true) : Isolated reactor s (find id key) :=
  isolated_builder_bind hb
    (isolated_bind (isolated_rows h) fun _ _ _ => isolated_pure _)

/-- Testing for rows keeps to the simulation. -/
theorem isolated_exist (hb : s.builders.get? id = some b)
    (h : s.simulating b.options.simulation = true) : Isolated reactor s (exist id) :=
  isolated_builder_bind hb
    (isolated_bind (isolated_rows h) fun _ _ _ => isolated_pure _)

/-- Plucking a column keeps to the simulation. -/
theorem isolated_pluck (column : Value) (hb : s.builders.get? id = some b)
    (h : s.simulating b.options.simulation = true) : Isolated reactor s (pluck id column) :=
  isolated_builder_bind hb
    (isolated_bind (isolated_rows h) fun found _ _ => isolated_of (OnlyFaults.noConfigurationError
      (OnlyErrors.mapM (fun row => row.onlyFaults_cell column) found)))

end Reading

/-! ## Writing -/

section Writing

variable {reactor : Reactor} {s : Session} {id : Nat} {b : Builder}

theorem isolated_publish (simulation : Option Nat) (name : String) (t : Table) :
    Isolated reactor s (publish simulation name t) := by
  refine isolated_get_bind (by simp) ?_
  split
  · refine isolated_get_bind (by simp) ?_
    split
    · exact isolated_modify rfl rfl
    · exact isolated_modify rfl rfl
  · exact isolated_pure ()

theorem isolated_copiedValues (id : Nat) : Isolated reactor s (copiedValues id) := by
  refine isolated_bind (isolated_currentQuery id) fun d t _ => ?_
  cases d.pending with
  | none => exact isolated_pure d
  | some action =>
    dsimp only
    split
    · exact isolated_bind (isolated_copy _) fun _ t _ => isolated_pure _
    · split
      · exact isolated_bind (isolated_copy _) fun _ t _ =>
          isolated_bind (isolated_pure _) fun _ t _ => isolated_pure _
      · exact isolated_bind (isolated_pure _) fun _ t _ => isolated_pure _
    · exact isolated_bind (isolated_pure _) fun _ t _ => isolated_pure _

/-- Copying the rows that an attempt adds keeps to the simulation. -/
theorem isolated_copiedAttempt (a : Attempt) : Isolated reactor s (copiedAttempt a) := by
  rw [copiedAttempt]
  split
  · exact isolated_pure a
  · next written _ =>
    refine isolated_bind ?_ fun remainder t _ => isolated_pure _
    cases written.remainder with
    | extended added => exact isolated_bind (isolated_copy added) fun _ t _ => isolated_pure _
    | _ => exact isolated_pure _

/-- Copying the rows that an attempt adds does not make it fail. -/
theorem onlyErrors_copiedAttempt {family : Error → Bool} {a c : Attempt} {t : Session}
    (h : (copiedAttempt a).run reactor s = (.ok c, t)) (ha : OnlyErrors family a.outcome) :
    OnlyErrors family c.outcome := by
  rw [copiedAttempt] at h
  split at h
  · cases h
    exact ha
  · rw [run_bind] at h
    split at h
    · cases h
      exact onlyErrors_ok _
    · cases h

/-- Which write is queued, and whether it may run, is no matter of the configuration. -/
theorem noConfigurationError_checkedAction (d : Descriptor) :
    NoConfigurationError d.checkedAction := by
  rw [Descriptor.checkedAction]
  split
  · exact (onlyErrors_error _).mpr rfl
  · split
    · exact (onlyErrors_error _).mpr rfl
    · split
      · exact (onlyErrors_error _).mpr rfl
      · exact onlyErrors_ok _

/-- Making a write keeps to the simulation: it comes out the same without executors, leaves what is
outside alone, and fails with no error of the configuration.

**Proof sketch.** Step by step through the write, each of which is isolated; which way it takes is
asked of the simulation alone, and that is the same in a session that is deprived. -/
theorem isolated_make (hb : s.builders.get? id = some b)
    (h : s.simulating b.options.simulation = true) : Isolated reactor s (make id) := by
  refine isolated_builder_bind hb (isolated_get_bind (by simp) ?_)
  rw [if_pos h]
  refine isolated_builder_bind hb ?_
  refine isolated_of_bind (noConfigurationError_checkedAction _) fun _ => ?_
  refine isolated_get_bind (by simp) ?_
  refine isolated_bind (isolated_copy _) fun given t _ => ?_
  refine isolated_bind (isolated_copiedValues id) fun d t _ => ?_
  refine isolated_bind (isolated_copiedAttempt _) fun attempt t hattempt => ?_
  have hattempt := onlyErrors_copiedAttempt hattempt
    (d.noConfigurationError_applyTo primaryKey given)
  have hresult := Attempt.onlyErrors_result
    (fun _ he => by simp [Error.isConfiguration_of_isFault he]) hattempt given
  refine isolated_of_bind hresult fun result => ?_
  obtain ⟨left, result⟩ := result
  refine isolated_bind (isolated_freshTable left) fun table t _ => ?_
  refine isolated_bind (isolated_publish _ _ table) fun _ t _ => ?_
  refine isolated_bind (isolated_changeBuilder id _) fun _ t _ => ?_
  exact isolated_bind (isolated_changeBuilder id _) fun _ t _ => isolated_pure result

end Writing

end Act

end FluentSql
