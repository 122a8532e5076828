import FluentSql.Proofs.Session.Rehearsal
import FluentSql.Proofs.Snapshot

set_option autoImplicit false

/-!
# Errands to a simulation

Requests are made of builders that belong to a simulation of its own, one at a time or of several
builders together. Whatever fails among them, they come to one visit of a builder after the other,
and its tables in the end are those at the beginning with every write put in that succeeded, in the
order of the visits: each write made of the rows that its own table had by then.

## Main definitions

* `FluentSql.Errand`, `FluentSql.Visit` — what is asked, and one request among it.
* `FluentSql.visits` — the visits that errands come to.
* `FluentSql.Visit.write` — the tables with the write of a visit put in.
* `FluentSql.Session.Rehearses` — builders belong to a running simulation of its own.

## Main results

* `FluentSql.run_parallel` — several builders are visited in order, whatever fails.
* `FluentSql.Visit.step` — what one visit leaves.
* `FluentSql.visits_lead_and_fold_writes` — runs of any length.
-/

namespace FluentSql

/-! ## Visits -/

/-- What is asked of builders: a request of one, or that several are executed together. -/
inductive Errand where
  | ask (id : Nat) (asked : Request) (args : Arguments)
  | parallel (ids : List Nat)
  deriving Inhabited

/-- A request of a builder, and the session in which it is made. -/
structure Visit where
  id : Nat
  asked : Request
  args : Arguments
  before : Session
  deriving Inhabited

namespace Visit

/-- What comes of a visit. -/
def outcome (reactor : Reactor) (v : Visit) : Except Error Answer :=
  ((Act.request v.id v.asked v.args).run reactor v.before).1

/-- The session after a visit. -/
def after (reactor : Reactor) (v : Visit) : Session :=
  ((Act.request v.id v.asked v.args).run reactor v.before).2

/-- Whether a write was made, and succeeded. -/
def wrote (reactor : Reactor) (v : Visit) : Bool := v.asked = .make && (v.outcome reactor).isOk

/-- What the queued write of the visited builder makes of a table. -/
def makes (reactor : Reactor) (v : Visit) (table : Value) : Except Error (Value × WriteResult) :=
  ((Act.applyQueued v.id table).run reactor v.before).1

/-- Tables with the write of a visit put in: the table of the builder is replaced by what the write
makes of it, with stamps of its own. -/
def write (reactor : Reactor) (tables : Snapshot) (v : Visit) : Snapshot :=
  match v.before.builders.get? v.id with
  | none => tables
  | some b =>
    match v.makes reactor (tables.value b.table) with
    | .error _ => tables
    | .ok (left, _) => tables.put b.table (.ofValue v.before.nextStamp left)

end Visit

/-- What is asked of a builder among several: that it makes its queued write, or all its rows if
there is none. -/
def Session.due (s : Session) (id : Nat) : Request :=
  match s.builders.get? id with
  | none => .all
  | some b => if b.descriptor.hasPendingWrite then .make else .all

/-- The visit of a builder among several. -/
def Session.visit (s : Session) (id : Nat) : Visit where
  id
  asked := s.due id
  args := []
  before := s

/-- The visits of several builders, one after the other, whatever comes of each. -/
def visitsEach (reactor : Reactor) : List Nat → Session → List Visit
  | [], _ => []
  | id :: ids, s => s.visit id :: visitsEach reactor ids ((s.visit id).after reactor)

namespace Errand

/-- The builders that an errand goes to, in the order of its arguments. -/
def ids : Errand → List Nat
  | .ask id _ _ => [id]
  | .parallel ids => ids

/-- Whether an errand asks for nothing that looks past a running simulation. -/
def simulates : Errand → Bool
  | .ask _ asked _ => asked.simulates
  | .parallel _ => true

/-- The session after an errand, whatever came of it. -/
def after (reactor : Reactor) (s : Session) : Errand → Session
  | .ask id asked args => ((Act.request id asked args).run reactor s).2
  | .parallel ids => ((Act.parallel ids).run reactor s).2

/-- The visits that an errand comes to. -/
def visits (reactor : Reactor) (s : Session) : Errand → List Visit
  | .ask id asked args => [{ id, asked, args, before := s }]
  | .parallel ids => visitsEach reactor ids s

end Errand

/-- The visits that errands come to, one errand after the other. -/
def visits (reactor : Reactor) : List Errand → Session → List Visit
  | [], _ => []
  | errand :: errands, s =>
    errand.visits reactor s ++ visits reactor errands (errand.after reactor s)

/-- Visits lead from one session to another: each is made in the session that the one before it has
left. -/
def Leads (reactor : Reactor) (t : Session) : List Visit → Session → Prop
  | [], s => s = t
  | v :: vs, s => v.before = s ∧ Leads reactor t vs (v.after reactor)

/-- What becomes of a visit in a simulation; `b` is the visited builder before it, and `c`
afterwards. -/
structure Visit.Lawful (reactor : Reactor) (m : Nat) (v : Visit) (b c : Builder) : Prop where
  visited : v.before.builders.get? v.id = some b
  left : (v.after reactor).builders.get? v.id = some c
  /-- The table of the builder becomes what the write makes of it. -/
  replaced : ∀ (tables : Snapshot) (rows : Value) (result : WriteResult),
    v.makes reactor (tables.value b.table) = .ok (rows, result) →
      (v.write reactor tables).value b.table = rows
  /-- No table under another name is touched. -/
  untouched : ∀ (tables : Snapshot) (name : String), b.table ≠ name →
    (v.write reactor tables).value name = tables.value name
  /-- A write reports what it makes of the table as it is by then. -/
  reported : v.asked = .make → v.outcome reactor =
    (v.makes reactor ((v.before.snapshot (some m)).value b.table)).map
      fun made => .value made.2.toValue
  /-- A write that has been made is queued no more. -/
  settled : v.wrote reactor = true → c.descriptor = b.settled.descriptor
  /-- A write that fails leaves its builder, queued write included, and everything else as it is;
  copies of builders may have been added. -/
  failed : v.asked = .make → v.wrote reactor = false →
    c = b ∧ Frame.copying.rel v.before (v.after reactor)
  /-- Reading leaves all tables and queries as they are. -/
  read : v.asked ≠ .make → Frame.reading.rel v.before (v.after reactor)

section Visits

variable {reactor : Reactor}

/-- Visits that lead on from where others lead to. -/
theorem Leads.append {t u : Session} {vs ws : List Visit} {s : Session}
    (hvs : Leads reactor t vs s) (hws : Leads reactor u ws t) : Leads reactor u (vs ++ ws) s := by
  induction vs generalizing s with
  | nil =>
    cases hvs
    exact hws
  | cons v vs ih => exact ⟨hvs.1, ih hvs.2⟩

/-- A builder among several makes its queued write or reads its rows, as its visit does. -/
theorem run_makeOrAll (id : Nat) (s : Session) :
    (Act.request id (s.due id) []).run reactor s =
      (((Act.makeOrAll id).run reactor s).1.map Answer.value,
        ((Act.makeOrAll id).run reactor s).2) := by
  cases hb : s.builders.get? id with
  | none =>
    have hfound := Act.run_builder_of_none reactor s hb
    have hmake : (Act.makeOrAll id).run reactor s = (.error .missingKey, s) :=
      Act.run_bind_of_error _ _ hfound _
    have hall : (Act.all id).run reactor s = (.error .missingKey, s) :=
      Act.run_bind_of_error _ _ (Act.run_bind_of_error _ _ hfound _) _
    rw [hmake, Session.due, hb]
    exact Act.run_bind_of_error _ _ hall _
  | some b =>
    rw [Act.makeOrAll, Act.run_builder_bind _ _ hb, Session.due, hb]
    dsimp only
    split
    · rw [Act.request, Act.run_bind, Act.run_bind]
      rcases (Act.make id).run reactor s with ⟨_ | result, t⟩ <;> rfl
    · rw [Act.request, Act.run_bind, Act.run_bind]
      rcases (Act.all id).run reactor s with ⟨_ | found, t⟩ <;> rfl

/-- Several builders are visited one after the other, all of them, and each comes to an outcome of
its own. -/
theorem run_eachBuilder (ids : List Nat) (s : Session) :
    ∃ outcomes t, (Act.eachBuilder ids).run reactor s = (.ok outcomes, t) ∧
      outcomes.map (Except.map Answer.value) =
        (visitsEach reactor ids s).map (Visit.outcome reactor) ∧
      Leads reactor t (visitsEach reactor ids s) s := by
  induction ids generalizing s with
  | nil => exact ⟨[], s, rfl, rfl, rfl⟩
  | cons id ids ih =>
    have hvisit : (Act.request id (s.due id) []).run reactor s = _ := run_makeOrAll id s
    rcases hmade : (Act.makeOrAll id).run reactor s with ⟨outcome, t⟩
    rw [hmade] at hvisit
    have htried : (tryCatch (Except.ok <$> Act.makeOrAll id) fun e => return .error e).run reactor s
        = (.ok outcome, t) := by
      rw [Act.run_tryCatch, ← bind_pure_comp, Act.run_bind, hmade]
      cases outcome <;> rfl
    obtain ⟨outcomes, u, hrun, houtcomes, hleads⟩ := ih t
    have hafter : (s.visit id).after reactor = t := congrArg Prod.snd hvisit
    refine ⟨outcome :: outcomes, u, ?_, ?_, rfl, ?_⟩
    · rw [Act.eachBuilder, Act.run_bind_of_ok _ _ htried, Act.run_bind_of_ok _ _ hrun]
      rfl
    · have houtcome : (s.visit id).outcome reactor = outcome.map Answer.value :=
        congrArg Prod.fst hvisit
      rw [visitsEach, List.map_cons, List.map_cons, hafter, houtcome, houtcomes]
    · rw [hafter]
      exact hleads

/-- Several builders that are executed together are visited one after the other, in the order of the
arguments, all of them; the first failure is the failure of all.

**Proof sketch.** Each of them is visited where the one before it has left the session, whether that
one failed or not. The outcomes are gone through once all are there. -/
theorem run_parallel (ids : List Nat) (s : Session) :
    Leads reactor ((Act.parallel ids).run reactor s).2 (visitsEach reactor ids s) s ∧
      ((Act.parallel ids).run reactor s).1.map (List.map Answer.value) =
        ((visitsEach reactor ids s).map (Visit.outcome reactor)).mapM id := by
  obtain ⟨outcomes, t, hrun, houtcomes, hleads⟩ := @run_eachBuilder reactor ids s
  rw [Act.parallel, Act.run_bind_of_ok _ _ hrun, Act.run_of]
  refine ⟨hleads, ?_⟩
  rw [← houtcomes]
  exact map_mapM_id Answer.value outcomes

end Visits

/-! ## Builders of one simulation -/

/-- The number of the simulation to which a builder belongs. -/
def Builder.store (b : Builder) : Nat := b.options.simulation.getD 0

namespace Session

/-- Builders belong to a running simulation of its own, which no controller looks after. -/
structure Rehearses (s : Session) (m : Nat) (ids : List Nat) : Prop where
  own : s.controllerOf (some m) = none
  running : s.simulating (some m) = true
  belongs : ∀ id ∈ ids, ∃ b, s.builders.get? id = some b ∧ b.store = m

variable {s t : Session} {m : Nat} {ids : List Nat}

/-- Reading leaves the builders of a simulation what they are. -/
theorem Rehearses.of_reading (h : s.Rehearses m ids) (hst : Frame.reading.rel s t) :
    t.Rehearses m ids where
  own := by
    rw [hst.1]
    exact h.own
  running := by
    rw [hst.1]
    exact h.running
  belongs := by
    intro id hid
    obtain ⟨b, hb, hm⟩ := h.belongs id hid
    obtain ⟨c, hc, -, hoptions⟩ := hst.2 id b hb
    exact ⟨c, hc, by rw [← hm, Builder.store, Builder.store, hoptions]⟩

/-- A running simulation of its own is there. -/
theorem Rehearses.exists_simulation (h : s.Rehearses m ids) :
    ∃ x, s.simulations.get? m = some x ∧ x.active = true := by
  have hrunning := h.running
  rw [simulating, h.own] at hrunning
  cases hx : s.simulations.get? m with
  | none => simp [simulation, hx] at hrunning
  | some x => exact ⟨x, rfl, by simpa [simulation, hx] using hrunning⟩

/-- A write that is made leaves the builders of a simulation what they are, and puts its table into
the simulation. -/
theorem Rehearses.written {id : Nat} {b : Builder} (h : s.Rehearses b.store ids) (left : Value) :
    (s.written id b left).Rehearses b.store ids ∧
      (s.written id b left).snapshot (some b.store) =
        (s.snapshot (some b.store)).put b.table (.ofValue s.nextStamp left) := by
  obtain ⟨x, hx, hactive⟩ := h.exists_simulation
  have hbefore : s.simulation (some b.store) = x := by
    rw [simulation, Option.getD_some, hx, Option.getD_some]
  have hafter : (s.written id b left).simulation (some b.store) =
      { x with state := x.state.put b.table (.ofValue s.nextStamp left) } := by
    have hget : (s.written id b left).simulations.get? b.store =
        (s.simulations.get? b.store).map fun m =>
          { m with state := m.state.put b.table (.ofValue s.nextStamp left) } :=
      Directory.get?_modify _ _ _
    rw [simulation, Option.getD_some, hget, hx, Option.map_some, Option.getD_some]
  have hown : (s.written id b left).controllerOf (some b.store) = none := by
    have hsame := h.own
    rw [controllerOf, hbefore, config] at hsame
    rw [controllerOf, hafter, config, configs_written, controller_written, hsame]
  refine ⟨⟨hown, ?_, ?_⟩, ?_⟩
  · rw [simulating, hown, hafter]
    exact hactive
  · intro other hother
    obtain ⟨c, hc, hm⟩ := h.belongs other hother
    by_cases hid : id = other
    · subst hid
      exact ⟨_, get?_written hc b left, hm⟩
    · exact ⟨c, (s.get?_written_of_ne hid b left).trans hc, hm⟩
  · rw [snapshot, hown, hafter, snapshot, h.own, hbefore]

end Session

/-! ## One visit -/

namespace Visit

variable (reactor : Reactor) {v : Visit} {b : Builder} {m : Nat} {ids : List Nat}

/-- The write of a visit leaves its table under the name of the table. -/
theorem value_write {tables : Snapshot} {left : Value} {result : WriteResult}
    (hb : v.before.builders.get? v.id = some b)
    (hmakes : v.makes reactor (tables.value b.table) = .ok (left, result)) :
    (v.write reactor tables).value b.table = left := by
  rw [write, hb]
  dsimp only
  rw [hmakes]
  dsimp only
  rw [Snapshot.value_put, Table.value_ofValue]

/-- The write of a visit touches no table under another name. -/
theorem value_write_of_ne {name : String} (tables : Snapshot)
    (hb : v.before.builders.get? v.id = some b) (h : b.table ≠ name) :
    (v.write reactor tables).value name = tables.value name := by
  rw [write, hb]
  dsimp only
  split
  · rfl
  · exact Snapshot.value_put_of_ne tables h _

/-- A visit that asks for no write only reads. -/
theorem rel_reading (h : v.before.Rehearses b.store ids) (hb : v.before.builders.get? v.id = some b)
    (hasked : v.asked.simulates = true) (hread : v.asked ≠ .make) :
    Frame.reading.rel v.before (v.after reactor) :=
  Act.rel_reading_request hb h.running hasked hread v.args

/-- A visit that asks for a write comes to what the write makes of the table by then: if that fails,
it has only copied, and else the table that is left is published. -/
theorem make_cases (h : v.before.Rehearses b.store ids) (hb : v.before.builders.get? v.id = some b)
    (hmake : v.asked = .make) :
    ∃ u, Frame.copying.rel v.before u ∧
      ((∃ e, v.makes reactor ((v.before.snapshot (some b.store)).value b.table) = .error e ∧
          v.outcome reactor = .error e ∧ v.after reactor = u) ∨
        ∃ left result,
          v.makes reactor ((v.before.snapshot (some b.store)).value b.table) = .ok (left, result) ∧
          v.outcome reactor = .ok (.value result.toValue) ∧
          v.after reactor = u.written v.id b left) := by
  obtain ⟨u, hcopying, hcases⟩ := Act.make_simulated_cases reactor hb h.own h.running
  refine ⟨u, hcopying, ?_⟩
  rw [outcome, after, hmake, Act.request]
  rcases hcases with ⟨e, hrun, hmakes⟩ | ⟨left, result, hrun, hmakes⟩
  · rw [Act.run_bind_of_error _ _ hrun]
    exact .inl ⟨e, hmakes, rfl, rfl⟩
  · rw [Act.run_bind_of_ok _ _ hrun]
    exact .inr ⟨left, result, hmakes, rfl, rfl⟩

/-- A visit that failed has written nothing. -/
theorem wrote_of_error {e : Error} (h : v.outcome reactor = .error e) :
    v.wrote reactor = false := by
  simp [wrote, h, Except.isOk, Except.toBool]

/-- A visit that asked for a write and has an outcome has written. -/
theorem wrote_of_ok {answer : Answer} (hmake : v.asked = .make)
    (h : v.outcome reactor = .ok answer) : v.wrote reactor = true := by
  simp [wrote, hmake, h, Except.isOk, Except.toBool]

/-- A visit that asked for no write has written nothing. -/
theorem wrote_of_ne (hread : v.asked ≠ .make) : v.wrote reactor = false := by
  simp [wrote, hread]

/-- A visit leaves the builders of a simulation what they are; its tables become those with the
write of the visit put in, if one succeeded, and else stay as they are.

**Proof sketch.** Every request but a write reads. A write copies what it needs, and then it fails,
or it puts what it leaves of its table in. -/
theorem step (h : v.before.Rehearses m ids) (hid : v.id ∈ ids)
    (hasked : v.asked.simulates = true) :
    (v.after reactor).Rehearses m ids ∧ (v.after reactor).linked = v.before.linked ∧
      (v.after reactor).snapshot (some m) =
        if v.wrote reactor then v.write reactor (v.before.snapshot (some m))
        else v.before.snapshot (some m) := by
  obtain ⟨b, hb, rfl⟩ := h.belongs v.id hid
  have hreading : ∀ {u : Session}, Frame.reading.rel v.before u →
      u.Rehearses b.store ids ∧ u.linked = v.before.linked ∧
        u.snapshot (some b.store) = v.before.snapshot (some b.store) := by
    intro u hu
    refine ⟨h.of_reading hu, ?_, ?_⟩
    · rw [hu.1]
    · rw [hu.1]
      rfl
  by_cases hmake : v.asked = .make
  · obtain ⟨u, hcopying, hcases⟩ := make_cases reactor h hb hmake
    obtain ⟨hrehearses, hlinked, hsnapshot⟩ := hreading (Frame.reading_of_copying hcopying)
    rcases hcases with ⟨e, -, houtcome, hafter⟩ | ⟨left, result, hmakes, houtcome, hafter⟩
    · rw [hafter, wrote_of_error reactor houtcome]
      exact ⟨hrehearses, hlinked, hsnapshot⟩
    · obtain ⟨hwritten, hput⟩ := hrehearses.written left
      refine ⟨hafter ▸ hwritten, by rw [hafter, Session.linked_written, hlinked], ?_⟩
      rw [hafter, hput, hsnapshot, wrote_of_ok reactor hmake houtcome, if_pos rfl, write, hb]
      dsimp only
      rw [hmakes, hcopying.1]
  · rw [wrote_of_ne reactor hmake]
    exact hreading (rel_reading reactor h hb hasked hmake)

/-- What becomes of a visit of a builder that belongs to a simulation. -/
theorem exists_lawful (h : v.before.Rehearses m ids) (hid : v.id ∈ ids)
    (hasked : v.asked.simulates = true) : ∃ b c, v.Lawful reactor m b c := by
  obtain ⟨b, hb, rfl⟩ := h.belongs v.id hid
  have hreplaced : ∀ (tables : Snapshot) (rows : Value) (result : WriteResult),
      v.makes reactor (tables.value b.table) = .ok (rows, result) →
        (v.write reactor tables).value b.table = rows :=
    fun tables rows result => value_write reactor hb
  have huntouched : ∀ (tables : Snapshot) (name : String), b.table ≠ name →
      (v.write reactor tables).value name = tables.value name :=
    fun tables name => value_write_of_ne reactor tables hb
  by_cases hmake : v.asked = .make
  · obtain ⟨u, hcopying, hcases⟩ := make_cases reactor h hb hmake
    have hu : u.builders.get? v.id = some b := hcopying.2 v.id b hb
    rcases hcases with ⟨e, hmakes, houtcome, hafter⟩ | ⟨left, result, hmakes, houtcome, hafter⟩
    · have hwrote := wrote_of_error reactor houtcome
      refine ⟨b, b, hb, hafter ▸ hu, hreplaced, huntouched, fun _ => ?_, fun h => ?_,
        fun _ _ => ⟨rfl, hafter ▸ hcopying⟩, fun hread => absurd hmake hread⟩
      · rw [houtcome, hmakes]
        rfl
      · simp [hwrote] at h
    · have hwrote := wrote_of_ok reactor hmake houtcome
      refine ⟨b, { b.settled with replay := .ofValue u.nextStamp left }, hb,
        hafter ▸ Session.get?_written hu b left, hreplaced, huntouched, fun _ => ?_,
        fun _ => rfl, fun _ h => ?_, fun hread => absurd hmake hread⟩
      · rw [houtcome, hmakes]
        rfl
      · simp [hwrote] at h
  · have hreading := rel_reading reactor h hb hasked hmake
    have hwrote := wrote_of_ne reactor hmake
    obtain ⟨c, hc, -⟩ := hreading.2 v.id b hb
    refine ⟨b, c, hb, hc, hreplaced, huntouched, fun h => absurd h hmake, fun h => ?_,
      fun h => absurd h hmake, fun _ => hreading⟩
    simp [hwrote] at h

end Visit

/-! ## Runs -/

section Runs

variable {reactor : Reactor} {m : Nat}

/-- A run of visits leaves the builders of a simulation what they are, and its tables become those
with the writes put in that succeeded, in order. -/
theorem Leads.fold {ids : List Nat} {t : Session} {vs : List Visit} {s : Session}
    (h : Leads reactor t vs s) (hs : s.Rehearses m ids)
    (hvs : ∀ v ∈ vs, v.id ∈ ids ∧ v.asked.simulates = true) :
    (∀ v ∈ vs, v.before.Rehearses m ids ∧ v.before.linked = s.linked) ∧
      t.snapshot (some m) =
        (vs.filter (Visit.wrote reactor)).foldl (Visit.write reactor) (s.snapshot (some m)) := by
  induction vs generalizing s with
  | nil =>
    cases h
    exact ⟨by simp, rfl⟩
  | cons v vs ih =>
    obtain ⟨rfl, hleads⟩ := h
    obtain ⟨hid, hasked⟩ := hvs v List.mem_cons_self
    obtain ⟨hafter, hlinked, hsnapshot⟩ := Visit.step reactor hs hid hasked
    obtain ⟨hbefore, hfold⟩ := ih hleads hafter fun w hw => hvs w (List.mem_cons_of_mem v hw)
    refine ⟨?_, ?_⟩
    · intro w hw
      rcases List.mem_cons.mp hw with rfl | hw
      · exact ⟨hs, rfl⟩
      · exact ⟨(hbefore w hw).1, (hbefore w hw).2.trans hlinked⟩
    · rw [hfold, hsnapshot, List.filter_cons]
      cases v.wrote reactor <;> rfl

/-- Several builders are visited in the order in which they are named. -/
theorem map_id_visitsEach (ids : List Nat) (s : Session) :
    (visitsEach reactor ids s).map Visit.id = ids := by
  induction ids generalizing s with
  | nil => rfl
  | cons id ids ih => rw [visitsEach, List.map_cons, ih, Session.visit]

/-- What is due of a builder among several looks at no more than its simulation. -/
theorem simulates_of_mem_visitsEach {v : Visit} {ids : List Nat} {s : Session}
    (h : v ∈ visitsEach reactor ids s) : v.asked.simulates = true := by
  induction ids generalizing s with
  | nil => cases h
  | cons id ids ih =>
    rcases List.mem_cons.mp h with rfl | h
    · rw [Session.visit, Session.due]
      split
      · rfl
      · split <;> rfl
    · exact ih h

/-- The visits of an errand lead to the session that it leaves. -/
theorem Errand.leads_visits (errand : Errand) (s : Session) :
    Leads reactor (errand.after reactor s) (errand.visits reactor s) s := by
  cases errand with
  | ask id asked args => exact ⟨rfl, rfl⟩
  | parallel ids => exact (run_parallel ids s).1

/-- The visits of errands lead to the session that the last of them leaves. -/
theorem leads_visits (errands : List Errand) (s : Session) :
    Leads reactor (errands.foldl (Errand.after reactor) s) (visits reactor errands s) s := by
  induction errands generalizing s with
  | nil => rfl
  | cons errand errands ih => exact (errand.leads_visits s).append (ih _)

/-- Errands visit their builders in order. -/
theorem map_id_visits (errands : List Errand) (s : Session) :
    (visits reactor errands s).map Visit.id = errands.flatMap Errand.ids := by
  induction errands generalizing s with
  | nil => rfl
  | cons errand errands ih =>
    have hfirst : (errand.visits reactor s).map Visit.id = errand.ids := by
      cases errand with
      | ask id asked args => rfl
      | parallel ids => exact map_id_visitsEach ids s
    rw [visits, List.map_append, hfirst, ih, List.flatMap_cons]

/-- Visits look at no more than simulations if the errands do so. -/
theorem simulates_of_mem_visits {v : Visit} {errands : List Errand} {s : Session}
    (herrands : ∀ e ∈ errands, e.simulates = true) (h : v ∈ visits reactor errands s) :
    v.asked.simulates = true := by
  induction errands generalizing s with
  | nil => cases h
  | cons errand errands ih =>
    rcases List.mem_append.mp h with h | h
    · cases errand with
      | ask id asked args =>
        rw [List.mem_singleton.mp h]
        exact herrands _ List.mem_cons_self
      | parallel ids => exact simulates_of_mem_visitsEach h
    · exact ih (fun e he => herrands e (List.mem_cons_of_mem errand he)) h

end Runs

/-- While a simulation of its own runs, errands to builders that belong to it come to one visit of a
builder after the other: they visit the builders in the order in which they are named, also those
that are executed together, all of them whatever fails; and each visit is made in the session that
the one before it has left.

The tables in the end are those at the beginning with every write put in that was made and
succeeded, in that order: the table of the visited builder is replaced by what the queued write
makes of the rows that the table had by then, no rows if there was none. A write reports what it
makes of its own table. It is queued no more once it is made; if it fails, for whatever reason, only
copies of builders have been made, and the queued write and the tables are what they were. Visits
that read leave all tables and all queries as they are.

Where no value refers to a builder, what a write makes of a table is a function of the query and of
the table.

**Proof sketch.** A visit that makes a write carries it out on copies, and publishes the table only
then; nothing else changes tables. So one visit leads to the tables with its write put in, and a run
of visits to those with all writes put in. Several builders that are executed together catch every
failure by itself, and what is due of each is a request like any other. -/
theorem visits_lead_and_fold_writes (reactor : Reactor) (s : Session) (m : Nat)
    (errands : List Errand) (hs : s.Rehearses m (errands.flatMap Errand.ids))
    (herrands : ∀ e ∈ errands, e.simulates = true) :
    (visits reactor errands s).map Visit.id = errands.flatMap Errand.ids ∧
    Leads reactor (errands.foldl (Errand.after reactor) s) (visits reactor errands s) s ∧
    (errands.foldl (Errand.after reactor) s).snapshot (some m) =
      ((visits reactor errands s).filter (Visit.wrote reactor)).foldl (Visit.write reactor)
        (s.snapshot (some m)) ∧
    (∀ v ∈ visits reactor errands s, ∃ b c, v.Lawful reactor m b c ∧
      (s.linked = false → ∀ table, v.makes reactor table = b.descriptor.make table)) ∧
    ∀ (ids : List Nat) (t : Session),
      ((Act.parallel ids).run reactor t).1.map (List.map Answer.value) =
        ((visitsEach reactor ids t).map (Visit.outcome reactor)).mapM id := by
  have hids : ∀ v ∈ visits reactor errands s, v.id ∈ errands.flatMap Errand.ids := by
    intro v hv
    rw [← map_id_visits errands s]
    exact List.mem_map_of_mem hv
  have hasked : ∀ v ∈ visits reactor errands s, v.asked.simulates = true := fun v hv =>
    simulates_of_mem_visits herrands hv
  have hleads : Leads reactor _ (visits reactor errands s) s := leads_visits errands s
  obtain ⟨hbefore, hfold⟩ := hleads.fold hs fun v hv => ⟨hids v hv, hasked v hv⟩
  refine ⟨map_id_visits errands s, hleads, hfold, fun v hv => ?_,
    fun ids t => (run_parallel ids t).2⟩
  obtain ⟨hrehearses, hlinked⟩ := hbefore v hv
  obtain ⟨b, c, hlawful⟩ := Visit.exists_lawful reactor hrehearses (hids v hv) (hasked v hv)
  refine ⟨b, c, hlawful, fun hunlinked table => ?_⟩
  rw [Visit.makes, Act.run_applyQueued (hlinked.trans hunlinked) hlawful.visited]

/-- A session with two simulated tables, and three builders: an insertion, an increment that fails
at the second row, and a deletion. -/
def workshop : Session where
  clock := default
  simulations := .single "main" {
    active := true
    state := [("t", .ofValue 0 (.list [.map [("id", .int 1)]])),
      ("u", .ofValue 1 (.list [.map [("n", .int 1)], .map [("n", .text "x")]]))] }
  builders := { items := [
    { Builder.new "t" {} with descriptor := { Descriptor.new "t" with
        pending := some { kind := "insert", data := .list [.map [("id", .int 2)]] } } },
    { Builder.new "u" {} with descriptor := { Descriptor.new "u" with
        wheres := [.null "n" true .and]
        pending := some { kind := "increment", data := .map [("column", .text "n")] } } },
    { Builder.new "t" {} with descriptor := { Descriptor.new "t" with
        wheres := [.basic "id" .eq (.int 1) .and]
        pending := some { kind := "delete", data := .null } } }] }
  nextStamp := 3

/-- The insertion by itself, and then all three builders together. -/
def chores : List Errand := [.ask 0 .make [], .parallel [1, 2, 0]]

/-- The increment among `chores` fails, and the deletion after it is made: of the one table only the
inserted row is left, and the other table is as it was, its first row included. -/
theorem visits_lead_and_fold_writes_chores :
    workshop.Rehearses 0 (chores.flatMap Errand.ids) ∧ (∀ e ∈ chores, e.simulates = true) ∧
    (visits .still chores workshop).map Visit.id = [0, 1, 2, 0] ∧
    (visits .still chores workshop).map (Visit.wrote .still) = [true, false, true, false] ∧
    ((chores.foldl (Errand.after .still) workshop).snapshot (some 0)).toValue.equal
      (.map [("t", .list [.map [("id", .int 2)]]),
        ("u", .list [.map [("n", .int 1)], .map [("n", .text "x")]])]) = true := by
  have hworkshop : workshop.Rehearses 0 (chores.flatMap Errand.ids) := by
    refine ⟨rfl, rfl, fun id hid => ?_⟩
    have hid : id = 0 ∨ id = 1 ∨ id = 2 := by
      simpa [chores, Errand.ids, or_comm, or_left_comm] using hid
    rcases hid with rfl | rfl | rfl <;> exact ⟨_, rfl, rfl⟩
  have hchores : ∀ e ∈ chores, e.simulates = true := by decide
  obtain ⟨hids, -, hfold, -⟩ :=
    visits_lead_and_fold_writes .still workshop 0 chores hworkshop hchores
  refine ⟨hworkshop, hchores, hids, by decide +kernel, ?_⟩
  rw [hfold]
  decide +kernel

end FluentSql
