import FluentSql.Proofs.Session.Observed
import FluentSql.Proofs.Session.Upkeep

set_option autoImplicit false

/-!
# The identifier of a record

A new record has no identifier. Saving it inserts a row, and the first identifier that an insertion
is told to have generated is written down in the record; from then on saving updates the row of that
identifier. What executors answer is not restricted, and a save may fail anywhere.

## Main definitions

* `FluentSql.Dispatch.Inserts`, `FluentSql.Dispatch.Updates` — statements that save a record.
* `FluentSql.Saved` — what is observed of a save.
* `FluentSql.Care`, `FluentSql.tending` — filling and saving a record, and what came of it.
* `FluentSql.keyOf?` — the first identifier that was generated.

## Main results

* `FluentSql.Act.dispatched_make` — a write of one statement fails before it or is observed so.
* `FluentSql.Act.saved_save` — what a save does, with and without an identifier.
* `FluentSql.tends_tended`, `FluentSql.tends_tending` — what a record is like after a step, and in a
  run.
* `FluentSql.save_inserts_until_identified` — a record that is filled and saved again and again.
-/

namespace FluentSql

/-- The executors that a configuration names: the default one, and those of its registry. -/
def Config.named (c : Config) : List Nat := c.executor.toList ++ (c.databases.getD []).map (·.2)

/-- The executor that is found in a configuration is one that it names. -/
theorem Config.mem_named {c : Config} {banks : Option (List Value)} {executor : Nat}
    (h : c.executorFor banks = .ok (some executor)) : executor ∈ c.named := by
  unfold Config.executorFor at h
  split at h
  · next bank _ adapters hadapters =>
    cases bank with
    | text name =>
      cases hfind : adapters.find? (·.1 == name) with
      | none => simp [hfind] at h
      | some entry =>
        simp only [hfind, Except.ok.injEq, Option.some.injEq] at h
        subst h
        rw [named, hadapters]
        exact List.mem_append_right _ (List.mem_map_of_mem (List.mem_of_find?_eq_some hfind))
    | _ => cases h
  · rw [Except.ok.injEq] at h
    simp [named, h]

namespace Session

/-- Every executor that a configuration names is there. -/
def Staffed (s : Session) : Prop :=
  ∀ c ∈ s.configs.items, ∀ executor ∈ c.named, (s.executors.get? executor).isSome = true

instance (s : Session) : Decidable s.Staffed :=
  inferInstanceAs (Decidable (∀ c ∈ s.configs.items, ∀ executor ∈ c.named, _))

/-- Where executors are there, the one that serves a builder is. -/
theorem Staffed.servant {s : Session} (h : s.Staffed) {b : Builder} {executor : Nat}
    (hservant : s.servant b = .ok executor) : (s.executors.get? executor).isSome = true := by
  rw [Session.servant, bind_eq_ok] at hservant
  obtain ⟨found, hfound, hservant⟩ := hservant
  cases found with
  | none => cases hservant
  | some found =>
    cases hservant
    rw [executorFor, config] at hfound
    cases hconfig : s.configs.get? (b.options.config.getD 0) with
    | none =>
      rw [hconfig] at hfound
      exact absurd (Config.mem_named hfound) (by simp [Config.named])
    | some c =>
      rw [hconfig] at hfound
      exact h c (List.mem_of_getElem? hconfig) executor (Config.mem_named hfound)

end Session

/-! ## Writes of one statement -/

namespace Act

variable {reactor : Reactor} {s : Session} {id : Nat} {b : Builder}

/-- Outside a simulation a write of one statement fails before anything happens, or the statement is
observed, and then nothing but builders change.

**Proof sketch.** The executor is found, the write is checked and its statement compiled, all of
which happens in the session as it is. Then the statement is dispatched, as `dispatched_dispatch`
has it. -/
theorem dispatched_make (hkeeps : reactor.KeepsExecutors) (hb : s.builders.get? id = some b)
    (hreal : s.simulating b.options.simulation = false) (hstaffed : s.Staffed) {kind : WriteKind}
    {data : Value} (hchecked : b.descriptor.checkedAction = .ok (kind, data))
    (hkind : kind ≠ .updateOrInsert) :
    (∃ e, (make id).run reactor s = (.error e, s)) ∨
      ∃ executor p seen outcome t u, s.firstDispatch id b kind (s.current data) = .ok p ∧
        Dispatched reactor id b executor p s seen outcome t ∧
        (make id).run reactor s = (outcome, u) ∧ u = { t with builders := u.builders } := by
  rw [run_make_real hb hreal, hchecked]
  cases hservant : s.servant b with
  | error e => exact .inl ⟨e, rfl⟩
  | ok executor =>
    dsimp only
    rw [run_runWrite hb hkind]
    cases hp : s.firstDispatch id b kind (s.current data) with
    | error e => exact .inl ⟨e, rfl⟩
    | ok p =>
      obtain ⟨seen, outcome, t, hseen, hrun⟩ :=
        dispatched_dispatch hkeeps hb (hstaffed.servant hservant) p
      rw [run_of_ok_bind, hrun]
      cases outcome with
      | error e => exact .inr ⟨executor, p, seen, .error e, t, t, rfl, hseen, rfl, rfl⟩
      | ok result => exact .inr ⟨executor, p, seen, .ok result, t, _, rfl, hseen, rfl, rfl⟩

/-- Outside a simulation a write leaves a record alone if listeners do. -/
theorem models_make (hb : s.builders.get? id = some b)
    (hreal : s.simulating b.options.simulation = false) {record : Nat}
    (hwithin : reactor.Within (.same fun s => s.models.get? record) s) :
    ((make id).run reactor s).2.models.get? record = s.models.get? record := by
  have hbears : (Frame.same fun s => s.models.get? record).Bears id :=
    ⟨⟨fun _ _ h => h⟩, fun _ _ => rfl, fun _ _ _ => rfl⟩
  have hreal' : s.real id = true := by simp [Session.real, hb, hreal]
  have hheard := Frame.among_heard (fun _ _ => rfl) hwithin
  rcases make_cases (hbears.among s.listeners) hheard hreal' with
    ⟨e, t, hrun, ht⟩ | ⟨result, -, t, hrun, -, -, ht⟩
  · rw [hrun]
    exact (ht rfl).2
  · rw [hrun]
    exact (ht rfl).2

end Act

/-! ## Saving a record -/

namespace Dispatch

/-- A statement inserts a row into the table of a class, with no columns but attributes that may be
written. -/
def Inserts (p : Dispatch) (c : ModelClass) : Prop :=
  p.action = .insert ∧ ∃ names, (∀ name ∈ names, c.writes name = true) ∧
    p.statement.sql = insertText c.table names 1

/-- A statement updates the row of an identifier in the table of a class, and no columns of it but
attributes that may be written. -/
def Updates (p : Dispatch) (c : ModelClass) (key : Value) : Prop :=
  p.action = .update ∧ ∃ names values, (∀ name ∈ names, c.writes name = true) ∧
    p.statement = { sql := updateText c.table names, bindings := values ++ [key]
                    whereSql := "id = ?", whereBindings := [key] }

/-- A statement saves a record of a class that has an identifier or none. -/
def SavesAs (p : Dispatch) (c : ModelClass) : Option Value → Prop
  | none => p.Inserts c
  | some key => p.Updates c key

end Dispatch

/-- A save of a record of a class, which has an identifier or none, is refused before anything
happens, or it is observed as one statement: the INSERT of a row if there is no identifier, and the
UPDATE of its row if there is one. The outcome is what the executor answers, read as the outcome of
a write, and nothing is changed but builders and records. -/
inductive Saved (reactor : Reactor) (c : ModelClass) (key : Option Value) (s : Session) :
    Except Error WriteResult → Session → Prop
  | refused {e : Error} {t : Session} (hsame : t = { s with builders := t.builders }) :
    Saved reactor c key s (.error e) t
  | wrote {id executor : Nat} {b : Builder} {p : Dispatch} {seen : List Observation}
    {outcome : Except Error WriteResult} {t u v : Session}
    (hprepared : t = { s with builders := t.builders }) (hb : t.builders.get? id = some b)
    (hsaves : p.SavesAs c (key.map t.current))
    (hseen : Dispatched reactor id b executor p t seen outcome u)
    (hleft : v = { u with builders := v.builders, models := v.models }) :
    Saved reactor c key s outcome v

namespace Act

variable {reactor : Reactor} {s t : Session} {id record : Nat} {b : Builder} {c : ModelClass}
  {values : Fields}

/-- The UPDATE of the row of an identifier. -/
theorem updates_of_firstDispatch (hwrites : values.NamedBy fun name => c.writes name = true)
    {key : Value} (htable : b.descriptor.table = c.table)
    (hwheres : b.descriptor.wheres = [.basic "id" .eq key .and]) {p : Dispatch}
    (hp : s.firstDispatch id b .update (s.current (.map values)) = .ok p) :
    p.Updates c (s.current key) := by
  obtain ⟨names, hkeys, hnames⟩ := hwrites.exists_names
  obtain ⟨values', hcurrent, hkeys'⟩ := s.current_named hkeys
  rw [hcurrent] at hp
  simp only [Session.firstDispatch, bind_eq_ok, pure_eq_ok, Except.ok.injEq] at hp
  obtain ⟨w, hw, rfl⟩ := hp
  have heq := updateStatement_eq hkeys' (s.wheres_currentQuery_basic hwheres) hw
  rw [Session.table_currentQuery, htable] at heq
  exact ⟨rfl, names, _, hnames, heq⟩

/-- The INSERT of a row. -/
theorem inserts_of_firstDispatch (hwrites : values.NamedBy fun name => c.writes name = true)
    (htable : b.descriptor.table = c.table) {p : Dispatch}
    (hp : s.firstDispatch id b .insert (s.current (.list [.map values])) = .ok p) :
    p.Inserts c := by
  obtain ⟨names, hkeys, hnames⟩ := hwrites.exists_names
  -- An insertion looks at its row once more before it is compiled.
  obtain ⟨values', hcurrent, hkeys'⟩ := s.current_named_row hkeys
  obtain ⟨values'', hcurrent', hkeys''⟩ := s.current_named_row hkeys'
  rw [hcurrent] at hp
  simp only [Session.firstDispatch, Session.insertDispatch, hcurrent', bind_eq_ok, pure_eq_ok,
    Except.ok.injEq] at hp
  obtain ⟨w, hw, data, -, rfl⟩ := hp
  rw [Builder.table, htable] at hw
  exact ⟨rfl, names, hnames, sql_insertStatement hkeys'' hw⟩

/-- Making the write that a save has prepared. -/
theorem saved_make (hkeeps : reactor.KeepsExecutors) {d : Descriptor}
    (hprepares : s.PreparesWith t id d {}) (hreal : s.simulating none = false)
    (hstaffed : s.Staffed) (hwithin : reactor.Within (.same fun s => s.models.get? record) s)
    {kind : WriteKind} {data : Value} (hchecked : d.checkedAction = .ok (kind, data))
    (hkind : kind ≠ .updateOrInsert) {key : Option Value}
    (hsaves : ∀ b p, b.descriptor = d → t.firstDispatch id b kind (t.current data) = .ok p →
      p.SavesAs c (key.map t.current)) :
    ∃ outcome u, (make id).run reactor t = (outcome, u) ∧ Saved reactor c key s outcome u ∧
      u.models.get? record = s.models.get? record := by
  obtain ⟨hst, b, hb, hinquiry⟩ := hprepares
  obtain ⟨rfl, hoptions⟩ := Prod.mk.inj hinquiry
  have hreal' : t.simulating b.options.simulation = false := by
    rw [hoptions, hst]
    exact hreal
  have hstaffed' : t.Staffed := by
    rw [hst]
    exact hstaffed
  have hwithin' : reactor.Within (.same fun s => s.models.get? record) t := by
    rw [hst]
    exact hwithin
  have hmodels := models_make hb hreal' hwithin'
  have hsame : t.models.get? record = s.models.get? record := by rw [hst]
  obtain ⟨e, hrun⟩ | ⟨executor, p, seen, outcome, u, v, hp, hseen, hrun, hleft⟩ :=
    dispatched_make hkeeps hb hreal' hstaffed' hchecked hkind
  · exact ⟨.error e, t, hrun, .refused hst, hsame⟩
  · rw [hrun] at hmodels
    refine ⟨outcome, v, hrun, .wrote hst hb (hsaves b p rfl hp) hseen ?_, hmodels.trans hsame⟩
    rw [hleft]

/-- A save that has an outcome has been observed, whatever becomes of records afterwards. -/
theorem saved_of_ok {key : Option Value} {result : WriteResult}
    (h : Saved reactor c key s (.ok result) t) (models : Directory Model) :
    Saved reactor c key s (.ok result) { t with models } := by
  cases h with
  | wrote hprepared hb hsaves hseen hleft =>
    refine .wrote hprepared hb hsaves hseen ?_
    rw [hleft]

end Act

/-- The identifier that a write has generated, if it has. -/
def WriteResult.generated? (result : WriteResult) : Option Value :=
  if result.lastId.truthy then some result.lastId else none

/-- An identifier that was generated counts. -/
theorem WriteResult.truthy_of_generated? {result : WriteResult} {key : Value}
    (h : result.generated? = some key) : key.truthy = true := by
  rw [generated?] at h
  split at h
  · next htruthy => exact Option.some.inj h ▸ htruthy
  · cases h

namespace Model

/-- The identifier of a record, if it has one that counts. -/
def key? (m : Model) : Option Value := if m.id.truthy then some m.id else none

/-- A record with an identifier written down in it. -/
def withKey (m : Model) (key : Value) : Model :=
  { m with attributes := m.attributes.set (.text "id") key }

/-- A record after a save: if it had no identifier, it has the one that the save has generated. -/
def afterSave (m : Model) : Except Error WriteResult → Model
  | .ok result => if m.key?.isNone then result.generated?.elim m m.withKey else m
  | .error _ => m

variable {m : Model}

/-- A save leaves a record as it was if it has an identifier. -/
theorem afterSave_of_key {key : Value} (h : m.key? = some key)
    (outcome : Except Error WriteResult) : m.afterSave outcome = m := by
  cases outcome with
  | error e => rfl
  | ok result => simp [afterSave, h]

/-- A save writes down what it has generated if the record has no identifier. -/
theorem afterSave_of_no_key (h : m.key? = none) (result : WriteResult) :
    m.afterSave (.ok result) = result.generated?.elim m m.withKey := by
  simp [afterSave, h]

/-- A save leaves every attribute but the identifier. -/
theorem get?_afterSave (m : Model) (outcome : Except Error WriteResult) {name : String}
    (hname : name ≠ "id") :
    (m.afterSave outcome).attributes.get? (.text name) = m.attributes.get? (.text name) := by
  cases hkey : m.key? with
  | some key => rw [afterSave_of_key hkey]
  | none =>
    cases outcome with
    | error e => rfl
    | ok result =>
      rw [afterSave_of_no_key hkey]
      cases result.generated? with
      | none => rfl
      | some key => exact Fields.get?_set_text_of_ne hname.symm key

end Model

namespace Act

variable {reactor : Reactor} {s : Session} {record : Nat} {m : Model}

/-- Saving a record does what is said of a save, and leaves the record as is said of it.

**Proof sketch.** With an identifier the record is updated under it, without one it is inserted. In
both cases a builder is prepared for the one statement that the save makes, whose columns are among
those that may be written, and `saved_make` says what comes of that. After an insertion the
identifier is set, if one is reported. -/
theorem saved_save (hkeeps : reactor.KeepsExecutors) (hm : s.models.get? record = some m)
    (hkeyed : m.Keyed) (hreal : s.simulating none = false) (hstaffed : s.Staffed)
    (hwithin : reactor.Within (.same fun s => s.models.get? record) s) :
    ∃ outcome t, (save record).run reactor s = (outcome, t) ∧
      Saved reactor m.kind m.key? s outcome t ∧
      t.models.get? record = some (m.afterSave outcome) := by
  obtain ⟨values, hvalues⟩ := m.kind.exists_writable hkeyed
  have hwrites := m.kind.namedBy_of_writable hkeyed hvalues
  cases hid : m.id.truthy with
  | true =>
    have hkey : m.key? = some m.id := if_pos hid
    obtain ⟨b, t, d, hprepares, htable, hwheres, hpending, hrun⟩ :=
      run_save_of_id reactor hm hvalues hid
    have hchecked : d.checkedAction = .ok (.update, .map values) := by
      rw [Descriptor.checkedAction, hpending, hwheres]
      rfl
    have hsaves : ∀ b' p, b'.descriptor = d →
        t.firstDispatch b b' .update (t.current (.map values)) = .ok p →
        p.SavesAs m.kind ((some m.id).map t.current) := by
      rintro b' p rfl hp
      exact updates_of_firstDispatch hwrites htable hwheres hp
    obtain ⟨outcome, u, hmake, hsaved, hmodels⟩ :=
      saved_make hkeeps hprepares hreal hstaffed hwithin hchecked (by decide) hsaves
    rw [hkey]
    refine ⟨outcome, u, hrun.trans hmake, hsaved, ?_⟩
    rw [Model.afterSave_of_key hkey]
    exact hmodels.trans hm
  | false =>
    have hkey : m.key? = none := if_neg (by simp [hid])
    obtain ⟨b, t, d, hprepares, htable, hpending, hrun⟩ :=
      run_save_of_no_id reactor hm hvalues hid
    have hchecked : d.checkedAction = .ok (.insert, .list [.map values]) := by
      rw [Descriptor.checkedAction, hpending]
      rfl
    have hsaves : ∀ b' p, b'.descriptor = d →
        t.firstDispatch b b' .insert (t.current (.list [.map values])) = .ok p →
        p.SavesAs m.kind (none.map t.current) := by
      rintro b' p rfl hp
      exact inserts_of_firstDispatch hwrites htable hp
    obtain ⟨outcome, u, hmake, hsaved, hmodels⟩ :=
      saved_make hkeeps hprepares hreal hstaffed hwithin hchecked (by decide) hsaves
    rw [run_bind, hmake] at hrun
    rw [hkey]
    cases outcome with
    | error e =>
      exact ⟨.error e, u, hrun, hsaved, hmodels.trans hm⟩
    | ok result =>
      dsimp only at hrun
      rw [run_identify] at hrun
      refine ⟨.ok result, _, hrun, ?_, ?_⟩
      · split
        · exact saved_of_ok hsaved _
        · exact hsaved
      · rw [Model.afterSave_of_no_key hkey, WriteResult.generated?]
        split
        · rw [Session.identified, Directory.get?_modify, hmodels, hm]
          rfl
        · exact hmodels.trans hm

end Act

/-! ## Filling and saving a record -/

/-- What is done to a record: it is filled or saved. -/
inductive Care where
  | fill (entries : List (String × Value))
  | save
  deriving Inhabited

/-- Fills or saves the record of a number. -/
def Care.act (record : Nat) : Care → Act (Option WriteResult)
  | .fill entries => do
    Act.fill record (.map (Fields.named entries))
    return none
  | .save => do return some (← Act.save record)

/-- What was done to a record, what came of it, and the session before and afterwards. -/
structure Tended where
  care : Care
  before : Session
  outcome : Except Error (Option WriteResult)
  after : Session
  deriving Inhabited

/-- Fills or saves a record and looks at what comes of it. -/
def Care.tended (reactor : Reactor) (record : Nat) (s : Session) (care : Care) : Tended where
  care
  before := s
  outcome := ((care.act record).run reactor s).1
  after := ((care.act record).run reactor s).2

/-- Fills and saves a record, one after the other, whatever comes of each. -/
def tending (reactor : Reactor) (record : Nat) : List Care → Session → List Tended
  | [], _ => []
  | care :: cares, s =>
    let r := care.tended reactor record s
    r :: tending reactor record cares r.after

/-- The identifier that was generated when a record was saved, if one was. -/
def Tended.generated? (r : Tended) : Option Value :=
  match r.care, r.outcome with
  | .save, .ok (some result) => result.generated?
  | _, _ => none

/-- The first identifier that was generated. -/
def keyOf? (rs : List Tended) : Option Value := rs.findSome? Tended.generated?

theorem keyOf?_cons (r : Tended) (rs : List Tended) :
    keyOf? (r :: rs) = r.generated?.or (keyOf? rs) := by
  cases h : r.generated? <;> simp [keyOf?, h]

theorem keyOf?_concat (rs : List Tended) (r : Tended) :
    keyOf? (rs ++ [r]) = (keyOf? rs).or r.generated? := by
  rw [keyOf?, List.findSome?_append, ← keyOf?, ← keyOf?, keyOf?_cons]
  exact congrArg _ Option.or_none

/-- A record as it is while it is filled and saved, once the first identifier that was generated is
known, or that none was. -/
structure Model.Tends (first : Model) (key : Option Value) (m : Model) : Prop where
  kind : m.kind = first.kind
  keyed : m.Keyed
  counts : ∀ k ∈ key, k.truthy = true
  id : m.attributes.get? (.text "id") = key.or (first.attributes.get? (.text "id"))

namespace Model.Tends

variable {first m : Model} {key : Option Value}

/-- The identifier of a record that had none is the one that was generated. -/
theorem key?_eq (h : Tends first key m) (hnew : first.id.truthy = false) : m.key? = key := by
  cases key with
  | some k =>
    have hid : m.id = k := by
      rw [Model.id, Fields.value, show m.attributes.get? "id" = some k from h.id]
      rfl
    rw [Model.key?, hid, if_pos (h.counts k rfl)]
  | none =>
    have hid : m.id = first.id := by
      rw [Model.id, Fields.value,
        show m.attributes.get? "id" = first.attributes.get? "id" from h.id]
      rfl
    rw [Model.key?, hid, if_neg (by simp [hnew])]

/-- Filling a record. -/
theorem merge (h : Tends first key m) (hid : first.kind.writes "id" = false) {written : Fields}
    (hwritten : written.NamedBy fun name => m.kind.writes name = true) :
    Tends first key { m with attributes := m.attributes.merge written } where
  kind := h.kind
  keyed := h.keyed.merge (hwritten.imp fun _ _ => trivial)
  counts := h.counts
  id := (Fields.get?_merge_of_namedBy hwritten (by simp [h.kind, hid]) m.attributes).trans h.id

/-- Saving a record that had no identifier. -/
theorem afterSave (h : Tends first key m) (hnew : first.id.truthy = false)
    (result : WriteResult) :
    Tends first (key.or result.generated?) (m.afterSave (.ok result)) := by
  have hkey : m.key? = key := h.key?_eq hnew
  cases key with
  | some k =>
    rw [afterSave_of_key hkey]
    exact h
  | none =>
    rw [afterSave_of_no_key hkey]
    cases hgenerated : result.generated? with
    | none => exact h
    | some k =>
      refine ⟨h.kind, h.keyed.set trivial k, ?_, Fields.get?_set_text _ _ _⟩
      rintro _ ⟨⟩
      exact WriteResult.truthy_of_generated? hgenerated

end Model.Tends

section Tending

variable {reactor : Reactor} {record : Nat} {s : Session} {first m : Model} {key : Option Value}

/-- What is asked of every session in which a record is saved: no simulation runs, executors are
there, and listeners leave the record alone. -/
structure Session.Saves (reactor : Reactor) (record : Nat) (s : Session) : Prop where
  real : s.simulating none = false
  staffed : s.Staffed
  within : reactor.Within (.same fun s => s.models.get? record) s

/-- Filling or saving a record leaves one that tends to the identifier that it had, or else to the
one that the save generated.

**Proof sketch.** Filling puts in nothing under `id`, which may not be written. A save is as
`Act.saved_save` has it. -/
theorem tends_tended (hkeeps : reactor.KeepsExecutors) (hid : first.kind.writes "id" = false)
    (hnew : first.id.truthy = false) (hm : s.models.get? record = some m)
    (h : first.Tends key m) (care : Care) (hsaves : care = .save → s.Saves reactor record) :
    ∃ n, (care.tended reactor record s).after.models.get? record = some n ∧
      first.Tends (key.or (care.tended reactor record s).generated?) n ∧
      (care = .save → ∃ outcome,
        (care.tended reactor record s).outcome = outcome.map some ∧
        Saved reactor first.kind key s outcome (care.tended reactor record s).after ∧
        n = m.afterSave outcome) := by
  cases care with
  | fill entries =>
    obtain ⟨written, hwritten, hrun⟩ := Act.run_fill reactor hm entries
    have hrun' : (Care.fill entries).tended reactor record s = ⟨.fill entries, s, .ok none,
        { s with models := s.models.modify record fun m =>
          { m with attributes := m.attributes.merge written } }⟩ := by
      rw [Care.tended, Care.act, Act.run_bind_of_ok _ _ hrun]
      rfl
    rw [hrun']
    refine ⟨{ m with attributes := m.attributes.merge written }, ?_, ?_, nofun⟩
    · exact (Directory.get?_modify _ _ _).trans (congrArg (Option.map _) hm)
    · rw [show (Tended.generated? _) = none from rfl, Option.or_none]
      exact h.merge hid hwritten
  | save =>
    obtain ⟨hreal, hstaffed, hwithin⟩ := hsaves rfl
    obtain ⟨outcome, t, hrun, hsaved, hmodels⟩ :=
      Act.saved_save hkeeps hm h.keyed hreal hstaffed hwithin
    have hrun' : Care.save.tended reactor record s = ⟨.save, s, outcome.map some, t⟩ := by
      rw [Care.tended, Care.act, Act.run_bind, hrun]
      cases outcome <;> rfl
    rw [hrun']
    rw [h.key?_eq hnew, h.kind] at hsaved
    refine ⟨_, hmodels, ?_, fun _ => ⟨outcome, rfl, hsaved, rfl⟩⟩
    cases outcome with
    | error e =>
      rw [show (Tended.generated? _) = none from rfl, Option.or_none]
      exact h
    | ok result => exact h.afterSave hnew result

/-- What comes of a record up to some point in a run. -/
theorem tends_tending (hkeeps : reactor.KeepsExecutors) (hid : first.kind.writes "id" = false)
    (hnew : first.id.truthy = false) {cares : List Care} {earlier later : List Tended} {r : Tended}
    (hm : s.models.get? record = some m) (h : first.Tends key m)
    (hsaves : ∀ r ∈ tending reactor record cares s, r.care = .save → r.before.Saves reactor record)
    (hrun : tending reactor record cares s = earlier ++ r :: later) :
    ∃ n, r.before.models.get? record = some n ∧ first.Tends (key.or (keyOf? earlier)) n ∧
      r = r.care.tended reactor record r.before := by
  -- The induction is on what was done before.
  induction earlier generalizing cares s m key with
  | nil =>
    cases cares with
    | nil => cases hrun
    | cons care cares =>
      obtain ⟨rfl, -⟩ := List.cons.inj hrun
      refine ⟨m, hm, ?_, rfl⟩
      rw [show keyOf? [] = none from rfl, Option.or_none]
      exact h
  | cons done earlier ih =>
    cases cares with
    | nil => cases hrun
    | cons care cares =>
      obtain ⟨rfl, hrest⟩ := List.cons.inj hrun
      obtain ⟨n, hn, htends, -⟩ := tends_tended hkeeps hid hnew hm h care
        (hsaves _ (List.mem_cons_self ..))
      obtain ⟨n', hn', htends', hr⟩ := ih hn htends
        (fun r hr => hsaves r (List.mem_cons_of_mem _ hr)) hrest
      refine ⟨n', hn', ?_, hr⟩
      rw [keyOf?_cons, ← Option.or_assoc]
      exact htends'

/-- Let a record be filled and saved in any order, outside simulations, whatever executors answer
and whether or not a save fails; let its class not let the identifier be written, and let it have
none that counts to begin with. Then at every point its identifier is the first one that a save has
generated, and nothing has been put in its place until there is one. A save is refused before
anything happens, or observed as one statement, which is the INSERT of a row until an identifier has
been generated, and the UPDATE of the row of that identifier from then on. A save that fails leaves
the record as it was, and any save leaves every attribute but the identifier.

**Proof sketch.** What a record is like while it is filled and saved is kept by filling, which
writes nothing but what may be written, and by saving: whether it inserts or updates depends on the
identifier alone (`tends_tended`). A run keeps it by induction (`tends_tending`). -/
theorem save_inserts_until_identified (hkeeps : reactor.KeepsExecutors)
    (hfirst : s.models.get? record = some first) (hkeyed : first.Keyed)
    (hid : first.kind.writes "id" = false) (hnew : first.id.truthy = false) (cares : List Care)
    (hsaves : ∀ r ∈ tending reactor record cares s, r.care = .save → r.before.Saves reactor record)
    (earlier later : List Tended) (r : Tended)
    (hrun : tending reactor record cares s = earlier ++ r :: later) :
    ∃ m n, r.before.models.get? record = some m ∧ r.after.models.get? record = some n ∧
      m.kind = first.kind ∧ n.kind = first.kind ∧
      m.attributes.get? (.text "id") =
        (keyOf? earlier).or (first.attributes.get? (.text "id")) ∧
      n.attributes.get? (.text "id") =
        (keyOf? (earlier ++ [r])).or (first.attributes.get? (.text "id")) ∧
      (r.care = .save → ∃ outcome, r.outcome = outcome.map some ∧
        Saved reactor first.kind (keyOf? earlier) r.before outcome r.after ∧
        (∀ e, outcome = .error e → n = m) ∧
        ∀ name : String, name ≠ "id" →
          n.attributes.get? (.text name) = m.attributes.get? (.text name)) := by
  have hbegins : first.Tends none first := ⟨rfl, hkeyed, nofun, rfl⟩
  obtain ⟨m, hm, htends, hr⟩ := tends_tending hkeeps hid hnew hfirst hbegins hsaves hrun
  rw [Option.none_or] at htends
  have hmem : r ∈ tending reactor record cares s := by simp [hrun]
  obtain ⟨n, hn, htends', hsaved⟩ := tends_tended hkeeps hid hnew hm htends r.care (hsaves r hmem)
  rw [← hr] at hn htends' hsaved
  rw [← keyOf?_concat] at htends'
  refine ⟨m, n, hm, hn, htends.kind, htends'.kind, htends.id, htends'.id, fun hcare => ?_⟩
  obtain ⟨outcome, houtcome, hseen, rfl⟩ := hsaved hcare
  refine ⟨outcome, houtcome, hseen, ?_, fun name hname => m.get?_afterSave outcome hname⟩
  rintro e rfl
  rfl

/-- A session with a new clerk, and an executor that reports no identifier first, fails then, and
reports one in the end. -/
def hiring : Session :=
  { Session.serving (.new "t" {}) with
    models := .single "first" { kind := Act.clerk, attributes := [(.text "name", "Ada")] }
    executors := .single "db" {
      name := "db", dialect := none, awaited := false
      source := .plain [.runBlocking] (.list []) []
        [.answer (.map [("changes", .int 1)]), .failure "down",
          .answer (.map [("changes", .int 1), ("last_insert_rowid", .int 42)])] } }

/-- The clerk is saved, filled, and saved three times more. -/
def onboarding : List Care := [.save, .fill [("id", .int 7), ("name", "Eve")], .save, .save, .save]

/-- Three saves insert a row, the second of them in vain, and the last one generates the identifier
whose row the fourth save updates. -/
theorem save_inserts_until_identified_onboarding :
    ∃ earlier r, tending .still 0 onboarding hiring = earlier ++ [r] ∧
      r.after.trace.calls.map Happening.sql? =
        List.replicate 3 (some "INSERT INTO clerks (name) VALUES (?)") ++
          [some "UPDATE clerks SET name = ? WHERE id = ?"] ∧
      (keyOf? earlier).map Value.quoted = some "42" ∧
      (∃ m, r.before.models.get? 0 = some m ∧ m.kind = Act.clerk ∧
        m.attributes.get? (.text "id") = keyOf? earlier) ∧
      ∃ outcome, r.outcome = outcome.map some ∧
        Saved .still Act.clerk (keyOf? earlier) r.before outcome r.after := by
  have hsaves : ∀ r ∈ tending .still 0 onboarding hiring, r.care = .save →
      r.before.Saves .still 0 := by
    have hreal : ∀ r ∈ tending .still 0 onboarding hiring, r.before.simulating none = false := by
      decide +kernel
    have hstaffed : ∀ r ∈ tending .still 0 onboarding hiring, r.before.Staffed := by
      decide +kernel
    exact fun r hr _ => ⟨hreal r hr, hstaffed r hr, Reactor.still_within _ _⟩
  have hkeyed : Model.Keyed { kind := Act.clerk, attributes := Fields.named [("name", "Ada")] } :=
    Fields.namedBy_named _
  refine ⟨[_, _, _, _], _, rfl, by decide +kernel, by decide +kernel, ?_⟩
  obtain ⟨m, n, hm, -, hkind, -, hid, -, hsaved⟩ := save_inserts_until_identified
    (fun _ _ _ h => h) rfl hkeyed rfl rfl onboarding hsaves [_, _, _, _] [] _ rfl
  obtain ⟨outcome, houtcome, hseen, -⟩ := hsaved rfl
  exact ⟨⟨m, hm, hkind, hid.trans (Option.or_none)⟩, outcome, houtcome, hseen⟩

end Tending

end FluentSql
