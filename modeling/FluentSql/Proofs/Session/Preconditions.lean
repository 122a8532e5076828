import FluentSql.Proofs.Session.Observed
import FluentSql.Proofs.Session.Refusing
import FluentSql.Proofs.Session.Rehearsal

set_option autoImplicit false

/-!
# The preconditions of a write

A write is refused before anything is done with it, and then the session stays as it was. In a
simulation it is refused just if it does not pass its check. Outside of one it has to be compiled as
well, so that data is refused there which a simulation takes: no rows, a first row without columns,
nothing to set. The two modes agree on a write exactly if nothing of the kind keeps it from being
compiled.

## Main definitions

* `FluentSql.Session.Unfit` — what keeps a write from being compiled that passes its check.
* `FluentSql.Session.Refuses` — a write is refused outside of a simulation.

## Main results

* `FluentSql.Session.firstDispatch_refuses_iff` — when the first statement of a write is refused.
* `FluentSql.Act.make_simulated_refuses_iff`, `FluentSql.Act.make_real_refuses_iff` — when a write
  is refused.
* `FluentSql.Act.make_refuses_alike_iff` — when both modes refuse the same.
-/

namespace FluentSql

/-! ## Writes that are not fit to be compiled -/

namespace Session

/-- What keeps a write from being compiled that passes its check: there is no first row to insert,
or it has no columns; there is nothing to set; or, where the statement would be compiled otherwise,
a predicate of the builder cannot be. -/
def Unfit (s : Session) (b : Builder) (kind : WriteKind) (data : Value) (e : Error) : Prop :=
  match kind with
  | .insert => (s.current data).LacksFirstRow ∧ e = .emptyInsert
  | .update => data.truthy = false ∧ e = .emptyUpdate ∨
    data.truthy = true ∧ (∃ fields, data.fields "items" = .ok fields) ∧ unclear
  | .delete => unclear
  | .increment | .decrement => (∃ column, data.subscript "column" = .ok column) ∧
    (∃ amount, data.getOr "amount" (.int 1) = .ok amount) ∧ unclear
  | .updateOrInsert => data.subscript "attributes" = .ok (.map []) ∧
    (∃ values, data.subscript "values" = .ok values ∧ values.truthy = false) ∧ e = .emptyUpdate
where
  /-- The predicates of the builder cannot be compiled. -/
  unclear : Prop := whereStatement (s.currentQuery b.descriptor).wheres = .error e

/-- A write is refused outside of a simulation: it does not pass its check, or something keeps it
from being compiled. -/
def Refuses (s : Session) (b : Builder) (e : Error) : Prop :=
  b.descriptor.checkedAction = .error e ∨
    ∃ kind data, b.descriptor.checkedAction = .ok (kind, data) ∧ s.Unfit b kind (s.current data) e

variable {s : Session} {id : Nat} {b : Builder} {e : Error}

/-- What keeps a write from being compiled is a refusal. -/
theorem Unfit.isRefusal {kind : WriteKind} {data : Value} (h : s.Unfit b kind data e) :
    e.isRefusal = true := by
  have hunclear : Unfit.unclear s b e → e.isRefusal = true := onlyErrors_whereStatement _ e
  cases kind with
  | insert => exact h.2 ▸ rfl
  | update =>
    rcases h with ⟨-, rfl⟩ | ⟨-, -, h⟩
    · rfl
    · exact hunclear h
  | delete => exact hunclear h
  | increment | decrement => exact hunclear h.2.2
  | updateOrInsert => exact h.2.2 ▸ rfl

/-- An INSERT is refused exactly if there is no first row with columns. -/
theorem insertDispatch_refuses_iff (he : e.isRefusal = true) {rows : Value} :
    s.insertDispatch b rows = .error e ↔ (s.current rows).LacksFirstRow ∧ e = .emptyInsert := by
  rw [← @insertStatement_refuses_iff b.table _ _ he, insertDispatch]
  refine bind_eq_error_iff_of_noRefusal (fun statement => OnlyFaults.noRefusal ?_) he
  exact (onlyFaults_insertedData _).bind fun _ => onlyErrors_pure _

/-- The first statement of an increment or a decrement is refused exactly if it would be compiled
but for the predicates. -/
theorem stepDispatch_refuses_iff (he : e.isRefusal = true) {decrement : Bool} {data : Value} :
    firstDispatch.stepDispatch s b decrement data = .error e ↔
      (∃ column, data.subscript "column" = .ok column) ∧
        (∃ amount, data.getOr "amount" (.int 1) = .ok amount) ∧ Unfit.unclear s b e := by
  have hfields : ∀ statement : WriteStatement, NoRefusal (data.toFields >>= fun fields =>
      pure ({ action := .update, statement, data := .map fields } : Dispatch)) := fun _ =>
    OnlyFaults.noRefusal (data.onlyFaults_toFields.bind fun _ => onlyErrors_pure _)
  simp only [firstDispatch.stepDispatch,
    (data.onlyFaults_subscript _).noRefusal.bind_eq_error_iff he,
    (data.onlyFaults_getOr _ _).noRefusal.bind_eq_error_iff he,
    bind_eq_error_iff_of_noRefusal hfields he, Descriptor.incrementStatement_refuses_iff]
  constructor
  · rintro ⟨column, hcolumn, amount, hamount, h⟩
    exact ⟨⟨column, hcolumn⟩, ⟨amount, hamount⟩, h⟩
  · rintro ⟨⟨column, hcolumn⟩, ⟨amount, hamount⟩, h⟩
    exact ⟨column, hcolumn, amount, hamount, h⟩

/-- The UPDATE of an update-or-insert is refused exactly if there are neither attributes nor values.
-/
theorem upsertDispatch_refuses_iff (he : e.isRefusal = true) {data : Value} :
    s.firstDispatch id b .updateOrInsert data = .error e ↔ s.Unfit b .updateOrInsert data e := by
  simp only [firstDispatch, (data.onlyFaults_subscript _).noRefusal.bind_eq_error_iff he,
    (Value.onlyFaults_fields _ _).noRefusal.bind_eq_error_iff he,
    (Act.noRefusal_attributePredicates _).bind_eq_error_iff he,
    bind_eq_error_iff_of_noRefusal (fun _ => onlyErrors_pure _) he,
    Descriptor.updateStatement_refuses_iff he]
  constructor
  · rintro ⟨attributes, hattributes, values, hvalues, wanted, hwanted, wheres, hwheres,
      ⟨hempty, rfl⟩ | ⟨-, -, h⟩⟩
    · obtain ⟨hnone, hneither⟩ : values.truthy = false ∧ attributes.truthy = false := by
        rw [Value.orElse] at hempty
        split at hempty
        · simp_all
        · next hnone => exact ⟨by simpa using hnone, hempty⟩
      obtain rfl : attributes = .map [] := by
        cases attributes with
        | map fs => simpa [Value.truthy] using hneither
        | _ => cases hwanted
      exact ⟨hattributes, ⟨values, hvalues, hnone⟩, rfl⟩
    · -- The predicates of attributes are compiled.
      have hcompares := Session.compares_currentQuery (s.withWheres id wheres)
        (d := { b.descriptor with wheres }) (Act.compares_attributePredicates hwheres)
      exact absurd h (whereStatement_ne_error_of_compares hcompares e)
  · rintro ⟨hattributes, ⟨values, hvalues, hempty⟩, rfl⟩
    refine ⟨_, hattributes, values, hvalues, [], rfl, [], rfl, .inl ⟨?_, rfl⟩⟩
    simp [Value.orElse, hempty, Value.truthy]

/-- The first statement of a write is refused exactly if something keeps it from being compiled.

**Proof sketch.** By the kind of the write. Every other way in which compiling it can fail is a
fault, and no refusal. -/
theorem firstDispatch_refuses_iff (he : e.isRefusal = true) {kind : WriteKind} {data : Value} :
    s.firstDispatch id b kind data = .error e ↔ s.Unfit b kind data e := by
  cases kind with
  | insert => exact insertDispatch_refuses_iff he
  | update =>
    rw [firstDispatch, bind_eq_error, Descriptor.updateStatement_refuses_iff he]
    simp [pure_eq_ok, Unfit, Unfit.unclear]
  | delete =>
    rw [firstDispatch, bind_eq_error, Descriptor.deleteStatement_refuses_iff]
    simp [pure_eq_ok, Unfit, Unfit.unclear]
  | increment => exact stepDispatch_refuses_iff he
  | decrement => exact stepDispatch_refuses_iff he
  | updateOrInsert => exact upsertDispatch_refuses_iff he

end Session

/-! ## Outside of a simulation -/

/-- A mapping into which others are put is empty just if both are. -/
theorem Fields.merge_eq_nil_iff {fs others : Fields} :
    fs.merge others = [] ↔ fs = [] ∧ others = [] := by
  induction others generalizing fs with
  | nil => simp [merge]
  | cons p others ih =>
    have hset : fs.set p.1 p.2 ≠ [] := by
      cases fs with
      | nil => simp [set]
      | cons q rest => rw [set]; split <;> simp
    have hmerge : fs.merge (p :: others) = (fs.set p.1 p.2).merge others := rfl
    simp [hmerge, ih, hset]

/-- A row that is looked at again has columns just if it has some. -/
theorem Session.current_row (s : Session) (row : Fields) :
    ∃ row', s.current (.list [.map row]) = .list [.map row'] ∧ (row' = [] ↔ row = []) := by
  rw [current]
  split
  · cases row with
    | nil => exact ⟨[], rfl, by simp⟩
    | cons p rest => exact ⟨_, rfl, by simp [mapFields]⟩
  · exact ⟨row, rfl, Iff.rfl⟩

namespace Act

variable {reactor : Reactor} {s : Session} {id executor : Nat} {b : Builder} {e : Error}

/-- Inserting a row with columns refuses nothing. -/
theorem neverRefuses_runInsert_row {row : Fields} (hrow : row ≠ []) (id executor : Nat) :
    NeverRefuses reactor (runInsert id executor (.list [.map row])) := by
  intro s
  obtain ⟨row', hcurrent, hrow'⟩ := s.current_row row
  have hcolumns : ¬ (Value.list [.map row']).LacksFirstRow := by
    rintro (h | ⟨first, hfirst, h⟩)
    · cases h
    · cases hfirst
      exact hrow (hrow'.mp (by simpa [Value.truthy] using h))
  have hstatement : ∀ table, NoRefusal (insertStatement table (.list [.map row'])) := by
    intro table e he
    cases hrefusal : e.isRefusal with
    | false => simp [hrefusal]
    | true => exact absurd ((insertStatement_refuses_iff hrefusal).mp he).1 hcolumns
  rw [runInsert, run_bind, run_current, hcurrent]
  refine neverRefuses_bind (neverRefuses_builder id) (fun b => ?_) s
  refine neverRefuses_bind (neverRefuses_of (hstatement b.table)) fun statement => ?_
  refine neverRefuses_bind (neverRefuses_of (onlyFaults_insertedData _).noRefusal) fun data => ?_
  exact neverRefuses_dispatch _ _ _ _ _

/-- What fails before it is prepared to the end has done nothing. -/
theorem run_of_bind_of_error {α β γ : Type} {x : Except Error α} {f : α → Act β}
    {g : α → Except Error γ} (h : x >>= g = .error e)
    (hf : ∀ a, g a = .error e → (f a).run reactor s = (.error e, s)) :
    (of x >>= f).run reactor s = (.error e, s) := by
  cases x with
  | error e' =>
    cases h
    rfl
  | ok a => exact hf a h

/-- An update-or-insert whose UPDATE cannot be prepared fails and has done nothing. -/
theorem run_runUpdateOrInsert_of_error (hb : s.builders.get? id = some b) {data : Value}
    (h : s.firstDispatch id b .updateOrInsert data = .error e) :
    (runUpdateOrInsert id executor data).run reactor s = (.error e, s) := by
  refine run_of_bind_of_error h fun attributes h => ?_
  refine run_of_bind_of_error h fun values h => ?_
  refine run_of_bind_of_error h fun wanted h => ?_
  refine run_of_bind_of_error h fun wheres h => ?_
  rw [run_withWheres hb, run_bind, run_currentQuery reactor _ (Session.get?_withWheres hb wheres)]
  dsimp only
  have hcompiled : ((s.withWheres id wheres).currentQuery
      (b.edit fun d => { d with wheres }).descriptor).updateStatement (values.orElse attributes) =
        .error e := by
    rcases bind_eq_error.mp h with h | ⟨statement, -, h⟩
    · exact h
    · cases h
  rw [hcompiled, run_of_error_bind]
  dsimp only
  rw [Session.withWheres_withWheres hb]

/-- An update-or-insert whose UPDATE is prepared refuses nothing: if a row is inserted afterwards,
it has the columns that were set. -/
theorem noRefusal_runUpdateOrInsert (hb : s.builders.get? id = some b) {data : Value} {p : Dispatch}
    (hp : s.firstDispatch id b .updateOrInsert data = .ok p) :
    NoRefusal ((runUpdateOrInsert id executor data).run reactor s).1 := by
  simp only [Session.firstDispatch, bind_eq_ok, pure_eq_ok, Except.ok.injEq] at hp
  obtain ⟨attributes, hattributes, values, hvalues, wanted, hwanted, wheres, hwheres, statement,
    hstatement, rfl⟩ := hp
  have hcompiled : ((s.withWheres id wheres).currentQuery
      (b.edit fun d => { d with wheres }).descriptor).updateStatement (values.orElse attributes) =
        .ok statement := hstatement
  have hset := Descriptor.truthy_of_updateStatement hcompiled
  have hrow : ∀ row, mergedFields attributes values = .ok row → row ≠ [] := by
    rintro row hmerged rfl
    cases attributes <;> cases values <;> try cases hmerged
    rename_i attributes values
    obtain ⟨rfl, rfl⟩ := Fields.merge_eq_nil_iff.mp (Except.ok.inj hmerged)
    cases hset
  rw [runUpdateOrInsert, hattributes, run_of_ok_bind, hvalues, run_of_ok_bind, hwanted,
    run_of_ok_bind, hwheres, run_of_ok_bind, run_withWheres hb]
  change NoRefusal (Act.run _ reactor _).1
  rw [run_bind, run_currentQuery reactor _ (Session.get?_withWheres hb wheres)]
  dsimp only
  rw [hcompiled, run_of_ok_bind]
  refine neverRefuses_bind (neverRefuses_dispatch _ _ _ _ _) (fun result => ?_) _
  split
  · exact neverRefuses_pure _
  · have hmerged := (onlyFaults_mergedFields attributes values).noRefusal
    exact neverRefuses_of_bind hmerged fun row h => neverRefuses_runInsert_row (hrow row h) id _

/-- A write whose first statement cannot be prepared fails and has done nothing. -/
theorem run_runWrite_of_error (hb : s.builders.get? id = some b) {kind : WriteKind} {data : Value}
    (h : s.firstDispatch id b kind data = .error e) :
    (runWrite id executor kind data).run reactor s = (.error e, s) := by
  by_cases hkind : kind = .updateOrInsert
  · subst hkind
    exact run_runUpdateOrInsert_of_error hb h
  · rw [run_runWrite hb hkind, h, run_of_error_bind]

/-- A write whose first statement is prepared refuses nothing. -/
theorem noRefusal_runWrite (hb : s.builders.get? id = some b) {kind : WriteKind} {data : Value}
    {p : Dispatch} (hp : s.firstDispatch id b kind data = .ok p) :
    NoRefusal ((runWrite id executor kind data).run reactor s).1 := by
  by_cases hkind : kind = .updateOrInsert
  · subst hkind
    exact noRefusal_runUpdateOrInsert hb hp
  · rw [run_runWrite hb hkind, hp, run_of_ok_bind]
    exact neverRefuses_dispatch _ _ _ _ _ s

/-- Outside of a simulation a write that is refused has done nothing. -/
theorem run_make_real_of_refuses (hb : s.builders.get? id = some b)
    (hreal : s.simulating b.options.simulation = false) (hservant : s.servant b = .ok executor)
    (h : s.Refuses b e) : (make id).run reactor s = (.error e, s) := by
  rw [run_make_real hb hreal, hservant]
  rcases h with hchecked | ⟨kind, data, hchecked, hunfit⟩
  · rw [hchecked]
  · have hp : s.firstDispatch id b kind (s.current data) = .error e :=
      (Session.firstDispatch_refuses_iff hunfit.isRefusal).mpr hunfit
    rw [hchecked]
    dsimp only
    rw [run_runWrite_of_error hb hp]

/-- Outside of a simulation a write is refused exactly if it does not pass its check, or something
keeps it from being compiled.

**Proof sketch.** The check is the same as in a simulation. After it the first statement is
compiled, and once that is done no refusal comes from announcing it, from its executor or from
reading the answer. -/
theorem make_real_refuses_iff (hb : s.builders.get? id = some b)
    (hreal : s.simulating b.options.simulation = false) (hservant : s.servant b = .ok executor)
    (he : e.isRefusal = true) : ((make id).run reactor s).1 = .error e ↔ s.Refuses b e := by
  refine ⟨fun h => ?_, fun h => by rw [run_make_real_of_refuses hb hreal hservant h]⟩
  rw [run_make_real hb hreal, hservant] at h
  cases hchecked : b.descriptor.checkedAction with
  | error e' =>
    rw [hchecked] at h
    cases h
    exact .inl hchecked
  | ok checked =>
    obtain ⟨kind, data⟩ := checked
    rw [hchecked] at h
    dsimp only at h
    refine .inr ⟨kind, data, hchecked, ?_⟩
    suffices hfirst : s.firstDispatch id b kind (s.current data) = .error e from
      (Session.firstDispatch_refuses_iff he).mp hfirst
    cases hp : s.firstDispatch id b kind (s.current data) with
    | error e' =>
      rw [run_runWrite_of_error hb hp] at h
      cases h
      rfl
    | ok p =>
      have hrun := @noRefusal_runWrite reactor s id executor b hb kind _ p hp
      rcases hr : (runWrite id executor kind (s.current data)).run reactor s with ⟨e' | result, t⟩
      · rw [hr] at h hrun
        cases h
        exact absurd rfl (hrun.ne he)
      · rw [hr] at h
        cases h

/-! ## In a simulation -/

end Act

namespace Descriptor

variable {d : Descriptor}

/-- A write that passes its check is of a known kind. -/
theorem isSome_kind_of_checkedAction {checked : WriteKind × Value}
    (h : d.checkedAction = .ok checked) :
    ∀ kind, d.pending.map (·.kind) = some kind → (WriteKind.ofKeyword? kind).isSome = true := by
  intro kind hkind
  obtain ⟨action, haction, rfl⟩ := Option.map_eq_some_iff.mp hkind
  rw [checkedAction, haction] at h
  dsimp only at h
  cases hknown : WriteKind.ofKeyword? action.kind with
  | none =>
    rw [hknown] at h
    cases h
  | some kind => rfl

/-- Carrying out a write of a known kind refuses nothing. -/
theorem noRefusal_applyTo
    (h : ∀ kind, d.pending.map (·.kind) = some kind → (WriteKind.ofKeyword? kind).isSome = true)
    (key table : Value) : NoRefusal (d.applyTo key table).outcome := by
  rw [applyTo, applyOn]
  split
  · exact onlyErrors_ok _
  · next action haction =>
    have hknown := h action.kind (Option.map_eq_some_iff.mpr ⟨action, haction, rfl⟩)
    split
    · exact (d.onlyFaults_applyKind _ key _ table _).noRefusal
    · next hnone =>
      rw [hnone] at hknown
      cases hknown

end Descriptor

namespace Act

variable {reactor : Reactor} {s : Session} {id : Nat} {b : Builder} {e : Error}

/-- Copying the queued values of a query leaves the kind of the queued write as it is. -/
theorem kind_of_copiedValues {d : Descriptor} {t : Session} (hb : s.builders.get? id = some b)
    (h : (copiedValues id).run reactor s = (.ok d, t)) :
    d.pending.map (·.kind) = b.descriptor.pending.map (·.kind) := by
  have hquery : (s.currentQuery b.descriptor).pending.map (·.kind) =
      b.descriptor.pending.map (·.kind) := by
    rw [Session.currentQuery]
    split
    · cases b.descriptor with
      | mk _ _ _ _ _ _ _ _ _ _ _ _ _ pending _ => cases pending <;> rfl
    · rfl
  rw [copiedValues, run_bind_of_ok _ _ (run_currentQuery reactor s hb)] at h
  rw [← hquery]
  cases hpending : (s.currentQuery b.descriptor).pending with
  | none =>
    rw [hpending] at h
    cases h
    rw [hpending]
  | some action =>
    rw [hpending] at h
    dsimp only at h
    split at h
    · obtain ⟨data, u, -, h⟩ := run_bind_eq_ok.mp h
      cases h
      rfl
    · split at h
      · obtain ⟨values, u, -, h⟩ := run_bind_eq_ok.mp h
        cases h
        rfl
      · cases h
        rfl
    · cases h
      rfl

/-- Copying the queued values of a query refuses nothing. -/
theorem neverRefuses_copiedValues (id : Nat) : NeverRefuses reactor (copiedValues id) := by
  refine neverRefuses_bind (neverRefuses_currentQuery id) fun d => ?_
  cases d.pending with
  | none => exact neverRefuses_pure d
  | some action =>
    dsimp only
    split
    · exact neverRefuses_bind (neverRefuses_copy _) fun _ => neverRefuses_pure _
    · split
      · exact neverRefuses_bind (neverRefuses_copy _) fun _ =>
          neverRefuses_bind (neverRefuses_pure _) fun _ => neverRefuses_pure _
      · exact neverRefuses_bind (neverRefuses_pure _) fun _ => neverRefuses_pure _
    · exact neverRefuses_bind (neverRefuses_pure _) fun _ => neverRefuses_pure _

/-- Copying the rows that an attempt adds refuses nothing. -/
theorem neverRefuses_copiedAttempt (a : Attempt) : NeverRefuses reactor (copiedAttempt a) := by
  rw [copiedAttempt]
  split
  · exact neverRefuses_pure a
  · next written _ =>
    refine neverRefuses_bind ?_ fun remainder => neverRefuses_pure _
    cases written.remainder with
    | extended added => exact neverRefuses_bind (neverRefuses_copy _) fun _ => neverRefuses_pure _
    | _ => exact neverRefuses_pure _

/-- Publishing the table that a write has left refuses nothing. -/
theorem neverRefuses_settle (id : Nat) (b : Builder) (left : Value) :
    NeverRefuses reactor (settle id b left) := by
  refine neverRefuses_bind (fun s => onlyErrors_ok _) fun t => ?_
  refine neverRefuses_bind ?_ fun _ => neverRefuses_bind (neverRefuses_modify _) fun _ =>
    neverRefuses_modify _
  refine neverRefuses_bind neverRefuses_get fun s => ?_
  split
  · refine neverRefuses_bind neverRefuses_get fun s => ?_
    split <;> exact neverRefuses_modify _
  · exact neverRefuses_pure _

/-- A write that passes its check refuses nothing in a simulation. -/
theorem noRefusal_applyQueued (hb : s.builders.get? id = some b) {checked : WriteKind × Value}
    (hchecked : b.descriptor.checkedAction = .ok checked) (table : Value) :
    NoRefusal ((applyQueued id table).run reactor s).1 := by
  rw [applyQueued, run_builder_bind _ _ hb, hchecked, run_of_ok_bind]
  refine noRefusal_bind (neverRefuses_copy _ s) fun given t hgiven => ?_
  have ht : t.builders.get? id = some b := ((keeps_copy_copying _).rel hgiven).2 id b hb
  refine noRefusal_bind (neverRefuses_copiedValues id t) fun d u hd => ?_
  refine noRefusal_bind (neverRefuses_copiedAttempt _ u) fun attempt v hattempt => ?_
  have hknown := Descriptor.isSome_kind_of_checkedAction hchecked
  rw [← kind_of_copiedValues ht hd] at hknown
  exact Attempt.onlyErrors_result (fun _ he => by simp [Error.isRefusal_of_isFault he])
    (onlyErrors_copiedAttempt hattempt (Descriptor.noRefusal_applyTo hknown primaryKey given)) given

/-- In a simulation a write that does not pass its check has done nothing. -/
theorem run_make_simulated_of_error (hb : s.builders.get? id = some b)
    (hrunning : s.simulating b.options.simulation = true)
    (h : b.descriptor.checkedAction = .error e) : (make id).run reactor s = (.error e, s) := by
  rw [run_make_simulated hb hrunning, applyQueued, run_bind, run_builder_bind _ _ hb, h,
    run_of_error_bind]

/-- In a simulation a write is refused exactly if it does not pass its check.

**Proof sketch.** Once the check is passed the write is applied to a copy of the table and settled,
and these fail with nothing but faults. -/
theorem make_simulated_refuses_iff (hb : s.builders.get? id = some b)
    (hrunning : s.simulating b.options.simulation = true) (he : e.isRefusal = true) :
    ((make id).run reactor s).1 = .error e ↔ b.descriptor.checkedAction = .error e := by
  refine ⟨fun h => ?_, fun h => by rw [run_make_simulated_of_error hb hrunning h]⟩
  cases hchecked : b.descriptor.checkedAction with
  | error e' =>
    rw [run_make_simulated_of_error hb hrunning hchecked] at h
    exact congrArg Except.error (Except.error.inj h)
  | ok checked =>
    have hrun : NoRefusal ((make id).run reactor s).1 := by
      rw [run_make_simulated hb hrunning]
      refine noRefusal_bind (noRefusal_applyQueued hb hchecked _) fun p t _ => ?_
      exact neverRefuses_bind (neverRefuses_settle id b p.1) (fun _ => neverRefuses_pure _) t
    exact absurd h (hrun.ne he)

/-! ## Both modes -/

/-- In a simulation a write is refused exactly if it does not pass its check; outside of one,
exactly if it does not pass its check or something keeps it from being compiled. Nothing has been
done then, and the write stays queued. So the two modes refuse the same, whatever the tables and
whatever the executor answers, exactly if nothing keeps a write from being compiled that passes its
check.

**Proof sketch.** In a simulation everything after the check is taking values and rows apart, which
fails with nothing but faults. Outside of one the first statement is prepared before anything is
announced, and refused just if its data or its predicates are; running it fails with a fault or as
the executor says, and the INSERT of an update-or-insert has the columns that its UPDATE set. -/
theorem make_refuses_alike_iff {reactor reactor' : Reactor} {s t : Session} {id executor : Nat}
    {b : Builder} (hb : s.builders.get? id = some b)
    (hreal : s.simulating b.options.simulation = false) (hservant : s.servant b = .ok executor)
    (ht : t.builders.get? id = some b) (hrunning : t.simulating b.options.simulation = true) :
    (∀ e, e.isRefusal = true →
      (((make id).run reactor s).1 = .error e ↔ s.Refuses b e) ∧
      (((make id).run reactor' t).1 = .error e ↔ b.descriptor.checkedAction = .error e) ∧
      (((make id).run reactor s).1 = .error e → (make id).run reactor s = (.error e, s)) ∧
      (((make id).run reactor' t).1 = .error e → (make id).run reactor' t = (.error e, t))) ∧
    ((∀ e, e.isRefusal = true →
        (((make id).run reactor s).1 = .error e ↔ ((make id).run reactor' t).1 = .error e)) ↔
      ∀ kind data, b.descriptor.checkedAction = .ok (kind, data) →
        ∀ e, ¬ s.Unfit b kind (s.current data) e) := by
  have hs : ∀ e, e.isRefusal = true →
      (((make id).run reactor s).1 = .error e ↔ s.Refuses b e) := fun e he =>
    make_real_refuses_iff hb hreal hservant he
  have ht' : ∀ e, e.isRefusal = true →
      (((make id).run reactor' t).1 = .error e ↔ b.descriptor.checkedAction = .error e) :=
    fun e he => make_simulated_refuses_iff ht hrunning he
  refine ⟨fun e he => ⟨hs e he, ht' e he, fun h => ?_, fun h => ?_⟩, fun h => ?_, fun h e he => ?_⟩
  · exact run_make_real_of_refuses hb hreal hservant ((hs e he).mp h)
  · exact run_make_simulated_of_error ht hrunning ((ht' e he).mp h)
  · intro kind data hchecked e hunfit
    have he := hunfit.isRefusal
    have hrefused := (hs e he).mpr (.inr ⟨kind, data, hchecked, hunfit⟩)
    have hfailed := (ht' e he).mp ((h e he).mp hrefused)
    rw [hchecked] at hfailed
    cases hfailed
  · rw [hs e he, ht' e he]
    refine ⟨?_, .inl⟩
    rintro (hchecked | ⟨kind, data, hchecked, hunfit⟩)
    · exact hchecked
    · exact absurd hunfit (h kind data hchecked e)

/-- A session in which a write is queued, with a simulation that runs or does not. -/
def queued (action : PendingAction) (running : Bool) : Session :=
  { Session.serving (Builder.new "t" {} |>.edit fun d => { d with pending := some action }) with
    simulations := .single "main" { active := running, state := [("t", .ofValue 1 (.list []))] } }

/-- A DELETE without a predicate is refused in both modes, and stays queued. -/
theorem make_refuses_alike_iff_delete :
    let action : PendingAction := { kind := "delete", data := .null }
    (∀ e, e.isRefusal = true →
      (((make 0).run .still (queued action false)).1 = .error e ↔
        ((make 0).run .still (queued action true)).1 = .error e)) ∧
    (make 0).run .still (queued action false) =
      (.error (.missingWhere "delete"), queued action false) ∧
    (make 0).run .still (queued action true) =
      (.error (.missingWhere "delete"), queued action true) := by
  intro action
  obtain ⟨hrefuses, halike⟩ := @make_refuses_alike_iff .still .still (queued action false)
    (queued action true) 0 0 _ rfl rfl rfl rfl rfl
  obtain ⟨hreal, hsimulated, hkept, hkept'⟩ := hrefuses (.missingWhere "delete") rfl
  refine ⟨halike.mpr fun kind data hchecked => ?_, hkept (hreal.mpr (.inl rfl)),
    hkept' (hsimulated.mpr rfl)⟩
  cases hchecked

/-- An INSERT of no rows is refused outside of a simulation, and made in one. -/
theorem make_refuses_empty_insert :
    let action : PendingAction := { kind := "insert", data := .list [] }
    ((make 0).run .still (queued action false)).1 = .error .emptyInsert ∧
      ∃ result t, (make 0).run .still (queued action true) = (.ok result, t) ∧
        t.pending 0 = none :=
  ⟨rfl, _, _, rfl, rfl⟩

end Act

end FluentSql
