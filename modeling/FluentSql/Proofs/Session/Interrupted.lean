import FluentSql.Proofs.Rows.Breaking
import FluentSql.Proofs.Session.Chaining
import FluentSql.Proofs.Session.Tracking

set_option autoImplicit false

/-!
# Tracking that fails

When the log of a builder is asked for, its queued write is replayed on the builder's own rows,
which it may share with a simulation. If that fails, the write stays queued; but where a write has
broken off, the rows before the failure have been changed for good, here and wherever they are
shared, and are changed once more when the write is replayed or made again.

## Main definitions

* `FluentSql.Session.held`, `FluentSql.Session.Coherent` — all rows that are held, of which those
  with one stamp are one row.

## Main results

* `FluentSql.Act.followed_eq_self` — following changes that change nothing.
* `FluentSql.Act.run_replay` — how replaying runs.
* `FluentSql.Act.tracking_unchanged_iff` — what tracking that fails leaves, and when that is
  everything.
-/

namespace FluentSql

/-! ## Following -/

namespace Held

/-- A row is found under its stamp where no two rows have one stamp. -/
theorem find?_of_mem {held : List Held} (hstamps : (held.map (·.stamp)).Nodup) {h : Held}
    (hmem : h ∈ held) : held.find? (·.stamp == h.stamp) = some h := by
  induction held with
  | nil => cases hmem
  | cons first held ih =>
    rw [List.map_cons, List.nodup_cons] at hstamps
    obtain ⟨hfirst, hrest⟩ := hstamps
    rcases List.mem_cons.mp hmem with rfl | hmem
    · simp
    · have hne : first.stamp ≠ h.stamp := fun heq => hfirst (heq ▸ List.mem_map_of_mem hmem)
      rw [List.find?_cons_of_neg (by simpa using hne)]
      exact ih hrest hmem

/-- A row with its stamp is all that is held. -/
theorem eq_of_stamp_of_row {h k : Held} (hstamp : h.stamp = k.stamp) (hrow : h.row = k.row) :
    h = k := by
  obtain ⟨stamp, row⟩ := h
  obtain ⟨stamp', row'⟩ := k
  obtain rfl : stamp = stamp' := hstamp
  obtain rfl : row = row' := hrow
  rfl

/-- A row keeps its stamp whatever it follows. -/
theorem stamp_follow (changed : List Held) (h : Held) : (h.follow changed).stamp = h.stamp := by
  rw [follow]
  cases hfind : changed.find? (·.stamp == h.stamp) with
  | none => rfl
  | some k => simpa using List.find?_some hfind

/-- A row stays if all that it follows is the same row. -/
theorem follow_eq_self {changed : List Held} {h : Held}
    (hsame : ∀ k ∈ changed, k.stamp = h.stamp → k.row = h.row) : h.follow changed = h := by
  rw [follow]
  cases hfind : changed.find? (·.stamp == h.stamp) with
  | none => rfl
  | some k =>
    have hstamp : k.stamp = h.stamp := by simpa using List.find?_some hfind
    exact eq_of_stamp_of_row hstamp (hsame k (List.mem_of_find?_eq_some hfind) hstamp)

end Held

namespace Table

variable {held : List Held} {items : List Value}

/-- Rows as a write has left them, if it has left them as they were. -/
theorem touched_eq_rows (h : held.map (·.row) = items) : (list held).touched items = held := by
  subst h
  rw [touched, rows]
  induction held with
  | nil => rfl
  | cons first held ih => rw [List.map_cons, List.zipWith_cons_cons, ih]

/-- A table of different rows that follows a write on them has them as the write left them. -/
theorem value_follow_touched (hstamps : (held.map (·.stamp)).Nodup)
    (hlength : items.length = held.length) :
    ((list held).follow ((list held).touched items)).value = .list items := by
  have hstamps' : (((list held).touched items).map (·.stamp)).Nodup := by
    have hsame : ((list held).touched items).map (·.stamp) = held.map (·.stamp) := by
      apply List.ext_getElem
      · simp [touched, rows, hlength]
      · intro i hi hi'
        simp [touched, rows]
    rw [hsame]
    exact hstamps
  rw [follow, mapRows, value, List.map_map]
  refine congrArg Value.list (List.ext_getElem (by simp [hlength]) fun i hi hi' => ?_)
  have hi'' : i < ((list held).touched items).length := by
    simpa [touched, rows, hlength] using hi'
  have hget : ((list held).touched items)[i] = ⟨held[i].stamp, items[i]⟩ := by
    simp [touched, rows]
  have hfind := Held.find?_of_mem hstamps' (List.getElem_mem hi'')
  rw [hget] at hfind
  rw [List.getElem_map, Function.comp_apply, Held.follow, hfind]
  rfl

theorem follow_eq_self {changed : List Held} {t : Table}
    (h : ∀ k ∈ t.rows, k.follow changed = k) : t.follow changed = t := by
  cases t with
  | list rows => exact congrArg list (map_eq_self h)
  | tuple rows => exact congrArg tuple (map_eq_self h)
  | other v => rfl

end Table

/-- Every row that a snapshot holds. -/
def Snapshot.held (s : Snapshot) : List Held := s.flatMap fun entry => entry.2.rows

theorem Snapshot.follow_eq_self {changed : List Held} {s : Snapshot}
    (h : ∀ k ∈ s.held, k.follow changed = k) : s.follow changed = s :=
  map_eq_self fun entry hentry => Prod.ext rfl (Table.follow_eq_self fun k hk =>
    h k (List.mem_flatMap.mpr ⟨entry, hentry, hk⟩))

namespace Session

/-- Every row that is held: in simulations, by their controller, and by builders. -/
def held (s : Session) : List Held :=
  s.simulations.items.flatMap (fun m => m.state.held) ++
    (s.controller.toList.flatMap fun c => c.state.held) ++
    s.builders.items.flatMap fun b => b.replay.rows

/-- Rows with one stamp are one row, wherever they are held. -/
def Coherent (s : Session) : Prop :=
  ∀ h ∈ s.held, ∀ k ∈ s.held, h.stamp = k.stamp → h.row = k.row

end Session

namespace Act

/-- A session stays if what is to be followed are rows that it holds.

**Proof sketch.** Two rows with one stamp are the same row in a coherent session. So no row of a
simulation, of the controller or of a builder's replay is changed by following. -/
theorem followed_eq_self {s : Session} (hcoherent : s.Coherent) {changed : List Held}
    (hchanged : ∀ k ∈ changed, k ∈ s.held) : followed s changed = s := by
  have hsame : ∀ h ∈ s.held, h.follow changed = h := fun h hh =>
    Held.follow_eq_self fun k hk hstamp => hcoherent k (hchanged k hk) h hh hstamp
  have hsimulations : s.simulations.map (fun m => { m with state := m.state.follow changed }) =
      s.simulations := by
    refine congrArg (fun items => { s.simulations with items }) (map_eq_self fun m hm => ?_)
    rw [Snapshot.follow_eq_self fun k hk => hsame k ?_]
    simp only [Session.held, List.mem_append, List.mem_flatMap]
    exact .inl (.inl ⟨m, hm, hk⟩)
  have hcontroller : (s.controller.map fun c => { c with state := c.state.follow changed }) =
      s.controller := by
    cases hc : s.controller with
    | none => rfl
    | some c =>
      rw [Option.map_some, Snapshot.follow_eq_self fun k hk => hsame k ?_]
      simp only [Session.held, List.mem_append, List.mem_flatMap]
      exact .inl (.inr ⟨c, by simp [hc], hk⟩)
  have hbuilders : s.builders.map (fun b => { b with replay := b.replay.follow changed }) =
      s.builders := by
    refine congrArg (fun items => { s.builders with items }) (map_eq_self fun b hb => ?_)
    rw [Table.follow_eq_self fun k hk => hsame k ?_]
    simp only [Session.held, List.mem_append, List.mem_flatMap]
    exact .inr ⟨b, hb, hk⟩
  rw [followed, hsimulations, hcontroller, hbuilders]

/-- Rows that follow the same are held as before. -/
theorem held_followed (s : Session) (changed : List Held) :
    (followed s changed).held = s.held.map (Held.follow changed) := by
  have htable : ∀ t : Table, (t.follow changed).rows = t.rows.map (Held.follow changed) := by
    intro t
    cases t <;> rfl
  have hsnapshot : ∀ m : Snapshot, (m.follow changed).held = m.held.map (Held.follow changed) := by
    intro m
    simp [Snapshot.held, Snapshot.follow, List.flatMap_map, List.map_flatMap, htable]
  have hcontroller : (s.controller.map fun c => { c with state := c.state.follow changed }).toList =
      s.controller.toList.map fun c => { c with state := c.state.follow changed } := by
    cases s.controller <;> rfl
  simp [Session.held, followed, hcontroller, Directory.map, List.flatMap_map, List.map_flatMap,
    hsnapshot, htable]

/-- The log of a builder is no matter for the rows that are held. -/
theorem held_changed_log (s : Session) (id : Nat) (new : List LogEntry) :
    (s.changed id (.logged new)).held = s.held := by
  have hrows : ((s.builders.modify id (.logged new)).items.map fun b => b.replay.rows) =
      s.builders.items.map fun b => b.replay.rows := by
    refine List.ext_getElem? fun i => ?_
    rw [List.getElem?_map, Directory.modify, List.getElem?_modify, List.getElem?_map]
    cases s.builders.items[i]? with
    | none => simp
    | some b => by_cases hi : id = i <;> simp [hi, Builder.logged]
  simp only [Session.held, Session.changed, List.flatMap_def, hrows]

/-- Where everyone follows, rows with one stamp stay one row. -/
theorem coherent_followed {s : Session} (h : s.Coherent) (changed : List Held) :
    (followed s changed).Coherent := by
  intro k hk l hl hstamp
  rw [held_followed] at hk hl
  obtain ⟨k₀, hk₀, rfl⟩ := List.mem_map.mp hk
  obtain ⟨l₀, hl₀, rfl⟩ := List.mem_map.mp hl
  rw [Held.stamp_follow, Held.stamp_follow] at hstamp
  rw [Held.eq_of_stamp_of_row hstamp (h k₀ hk₀ l₀ hl₀ hstamp)]

/-- Following and a change of a builder's log are no matter for one another. -/
theorem followed_changed_log (s : Session) (id : Nat) (new : List LogEntry) (changed : List Held) :
    followed (s.changed id (.logged new)) changed =
      (followed s changed).changed id (.logged new) := by
  have hbuilders : (s.builders.modify id (.logged new)).map
        (fun b => { b with replay := b.replay.follow changed }) =
      (s.builders.map fun b => { b with replay := b.replay.follow changed }).modify id
        (.logged new) := s.builders.map_modify id fun _ => rfl
  exact congrArg (fun builders => { followed s changed with builders }) hbuilders

/-! ## Acts that do not fail -/

variable {reactor : Reactor} {s t : Session} {id : Nat} {b : Builder}

/-- A table is always published, and builders are no matter. -/
theorem exists_run_publish (reactor : Reactor) (s : Session) (simulation : Option Nat)
    (name : String) (table : Table) :
    ∃ t, (publish simulation name table).run reactor s = (.ok (), t) ∧ t.builders = s.builders := by
  rw [publish, run_get_bind]
  split
  · rw [putTable, run_get_bind]
    split
    · exact ⟨_, rfl, rfl⟩
    · exact ⟨_, rfl, rfl⟩
  · exact ⟨_, rfl, rfl⟩

/-- What a write has left is always published, and the builder stays. -/
theorem exists_run_publishLeft (reactor : Reactor) (hb : s.builders.get? id = some b)
    (simulation : Option Nat) (name : String) (remainder : Remainder) :
    ∃ t c, (publishLeft id simulation name remainder).run reactor s = (.ok (), t) ∧
      t.builders.get? id = some c := by
  have hb₁ : (s.stamped (added remainder)).builders.get? id = some b := hb
  rw [publishLeft, run_bind_of_ok _ _ (run_freshStamps _), run_builder_bind _ _ hb₁]
  dsimp only
  rw [run_bind_of_ok _ _ (run_changeBuilder _ _ _ _)]
  generalize b.replay.leave s.nextStamp remainder = table
  obtain ⟨s₂, hpublish, hbuilders⟩ := exists_run_publish reactor
    ((s.stamped (added remainder)).changed id fun b => { b with replay := table }) simulation name
    table
  have hb₂ : s₂.builders.get? id = some { b with replay := table } := by
    rw [hbuilders]
    exact Session.get?_changed hb₁ _
  obtain ⟨shown, s₃, hcopy⟩ := exists_run_copy reactor s₂ table.value
  have hkeeps : Keeps (Frame.holding Builder.options) reactor (copy table.value) :=
    keeps_copy_holding table.value
  obtain ⟨c, hc, -⟩ := (hkeeps.rel hcopy).2 id _ hb₂
  obtain ⟨new, hnote⟩ := exists_run_note reactor hc "virtual_execution.end"
    (.map [("final_virtual_table_state", shown)])
  rw [run_bind_of_ok _ _ hpublish, run_bind_of_ok _ _ hcopy, run_bind_of_ok _ _ hnote]
  exact ⟨_, _, run_changeBuilder _ _ _ _, Session.get?_changed (Session.get?_changed hc _) _⟩

/-! ## Replaying and tracking that fail -/

section Fails

variable {held : List Held} {rows : List Row} {e : Error}

/-- A builder whose write is replayed on some rows: nothing of the two refers to builders, and no
row is there twice. -/
structure Replays (b : Builder) (held : List Held) (rows : List Row) : Prop where
  query : b.descriptor.Closed
  replay : b.replay = .list held
  rows_eq : held.map (·.row) = rows.map .map
  closed : ∀ row ∈ rows, Fields.Closed row
  stamps : (held.map (·.stamp)).Nodup

/-- The rows as a value. -/
theorem Replays.value_eq (h : Replays b held rows) : b.replay.value = rowsValue rows := by
  rw [h.replay, Table.value, h.rows_eq]
  rfl

/-- The log of a builder is no matter for what is replayed. -/
theorem Replays.logged (h : Replays b held rows) (new : List LogEntry) :
    Replays (b.logged new) held rows :=
  ⟨h.query, h.replay, h.rows_eq, h.closed, h.stamps⟩

/-- Replaying a write fails just if the write does, and then everyone has followed what it has left
of the rows.

**Proof sketch.** The values of the query and the rows are closed, so the write is made on the rows
themselves. Before its outcome is looked at, what it has touched is followed wherever it is held, so
this has happened when it fails. -/
theorem run_replay (reactor : Reactor) (hb : s.builders.get? id = some b)
    (hreplays : Replays b held rows) :
    (∃ e left, (replay id).run reactor s =
        (.error e, followed s (b.replay.touched (left.map .map))) ∧
      left.length = rows.length ∧ b.descriptor.FailsLeaving rows left e) ∨
    ∃ t c, (replay id).run reactor s = (.ok (), t) ∧ t.builders.get? id = some c := by
  have hvalue : (rowsValue rows).Closed := by simpa [rowsValue] using hreplays.closed
  have hfollow : ∀ changed, (follow changed).run reactor s = (.ok (), followed s changed) :=
    fun _ => rfl
  have htell : ∀ values s, (tellBuilders values []).run reactor s = (.ok (), s) := fun _ _ => rfl
  rw [replay_eq, run_builder_bind _ _ hb,
    run_bind_of_ok _ _ (run_copiedValues_of_closed hb hreplays.query),
    run_bind_of_ok _ _ (run_current _ _ _), hreplays.value_eq, s.current_of_closed hvalue,
    run_bind_of_ok _ _ (run_copiedAttempt_applyTo hreplays.query _ _),
    run_bind_of_ok _ _ (hfollow _), Descriptor.told_applyTo, run_bind_of_ok _ _ (htell _ _)]
  cases houtcome : (b.descriptor.applyTo primaryKey (rowsValue rows)).outcome with
  | error e =>
    obtain ⟨left, htouched, hleft⟩ := Descriptor.left_of_error houtcome
    have hlength := b.descriptor.length_touched_applyTo primaryKey (rows.map .map)
    rw [← rowsValue, htouched, List.length_map, List.length_map] at hlength
    refine .inl ⟨e, left, ?_, hlength, hleft⟩
    rw [run_of_error_bind, htouched]
  | ok written =>
    have hb' : (followed s (b.replay.touched
        (b.descriptor.applyTo primaryKey (rowsValue rows)).touched)).builders.get? id = some _ :=
      (List.getElem?_map ..).trans (congrArg (Option.map _) hb)
    obtain ⟨u, c, hdone, hc⟩ := exists_run_publishLeft reactor hb' b.options.simulation b.table
      written.remainder
    rw [run_of_ok_bind]
    exact .inr ⟨u, c, hdone, hc⟩

/-- Following the builder's own rows as they are changes nothing. -/
theorem followed_touched_rows (hb : s.builders.get? id = some b) (hreplays : Replays b held rows)
    (hcoherent : s.Coherent) : followed s (b.replay.touched (rows.map .map)) = s := by
  rw [hreplays.replay, Table.touched_eq_rows hreplays.rows_eq]
  refine followed_eq_self hcoherent fun k hk => ?_
  simp only [Session.held, List.mem_append, List.mem_flatMap]
  exact .inr ⟨b, List.mem_of_getElem? hb, by rw [hreplays.replay]; exact hk⟩

/-- Tracking that fails leaves a session in which everyone has followed what the write has left of
the rows, and in which the log of the builder may have grown. -/
theorem run_tracking_of_error (hb : s.builders.get? id = some b) (hreplays : Replays b held rows)
    (hcoherent : s.Coherent) (h : (tracking id).run reactor s = (.error e, t)) :
    ∃ new left, t = (followed s (b.replay.touched (left.map .map))).changed id (.logged new) ∧
      left.length = rows.length ∧ b.descriptor.FailsLeaving rows left e := by
  have hunchanged : t = s → ∃ new left,
      t = (followed s (b.replay.touched (left.map .map))).changed id (.logged new) ∧
      left.length = rows.length ∧ b.descriptor.FailsLeaving rows left e := by
    rintro rfl
    refine ⟨[], rows, ?_, rfl, .inl rfl⟩
    rw [followed_touched_rows hb hreplays hcoherent, Session.changed_eq_self hb b.logged_nil]
  rw [tracking, run_builder_bind _ _ hb] at h
  split at h
  · cases h
  · split at h
    · next action hpending =>
      dsimp only at h
      rw [run_get_bind] at h
      cases hplain : s.plain action.toRecord with
      | error e' =>
        rw [hplain, run_of_error_bind] at h
        cases h
        exact hunchanged rfl
      | ok record =>
        obtain ⟨new, hnote⟩ := exists_run_note reactor hb "virtual_execution.start" record
        rw [hplain, run_of_ok_bind, run_bind_of_ok _ _ hnote] at h
        obtain ⟨e', left, hreplay, hlength, hleft⟩ | ⟨u, c, hreplay, hc⟩ :=
          run_replay reactor (Session.get?_changed hb (.logged new))
            (hreplays.logged new)
        · rw [run_bind_of_error _ _ hreplay, followed_changed_log] at h
          cases h
          exact ⟨new, left, rfl, hlength, hleft⟩
        · rw [run_bind_of_ok _ _ hreplay, run_builder_bind _ _ hc] at h
          cases h
    · dsimp only at h
      rw [run_bind_of_ok _ _ (run_currentQuery reactor s hb)] at h
      cases hselect : (s.currentQuery b.descriptor).select with
      | error e' =>
        rw [hselect, run_of_error_bind] at h
        cases h
        exact hunchanged rfl
      | ok statement =>
        obtain ⟨new, hnote⟩ := exists_run_note reactor hb "dry_run_select.summary" statement.toValue
        rw [hselect, run_of_ok_bind, run_bind_of_ok _ _ hnote,
          run_builder_bind _ _ (Session.get?_changed hb _)] at h
        cases h

/-- Tracking that fails keeps the query of the builder, and with it the queued write; and rows with
one stamp stay one row. It leaves the whole session as it was, but for entries in the log of the
builder, if and only if the builder's own rows are as they were. If they are not, the write is one
that may break off, and it has: of the rows that match, those before the one at which it failed have
been changed, for the builder and wherever else they are held.

**Proof sketch.** The write is carried out on the rows themselves, and everyone follows what has
become of them before its failure is raised (`run_replay`). Following rows that are as they were
changes nothing where rows with one stamp are one row (`followed_eq_self`); nothing else is changed
but the log, which comes first. -/
theorem tracking_unchanged_iff (hb : s.builders.get? id = some b) (hreplays : Replays b held rows)
    (hcoherent : s.Coherent) (h : (tracking id).run reactor s = (.error e, t)) :
    ∃ new left c,
      t = (followed s (b.replay.touched (left.map .map))).changed id (.logged new) ∧
      t.Coherent ∧ t.builders.get? id = some c ∧ c.descriptor = b.descriptor ∧
      c.replay.value = rowsValue left ∧
      (t = s.changed id (.logged new) ↔ left = rows) ∧
      (left = rows ∨ ∃ test change, b.descriptor.Breaks test change ∧
        Row.BreaksOff test change rows left e) := by
  obtain ⟨new, left, rfl, hlength, hleft⟩ := run_tracking_of_error hb hreplays hcoherent h
  have hb' : (followed s (b.replay.touched (left.map .map))).builders.get? id =
      some { b with replay := b.replay.follow (b.replay.touched (left.map .map)) } :=
    (List.getElem?_map ..).trans (congrArg (Option.map _) hb)
  have hc := Session.get?_changed hb' (.logged new)
  have hvalue : (b.replay.follow (b.replay.touched (left.map .map))).value = rowsValue left := by
    have hheld : held.length = rows.length := by
      simpa using congrArg List.length hreplays.rows_eq
    rw [hreplays.replay]
    exact Table.value_follow_touched hreplays.stamps (by simp [hlength, hheld])
  have hcoherent' : ((followed s (b.replay.touched (left.map .map))).changed id
      (.logged new)).Coherent := by
    rw [Session.Coherent, held_changed_log]
    exact coherent_followed hcoherent _
  refine ⟨new, left, _, rfl, hcoherent', hc, rfl, hvalue, ⟨fun hsame => ?_, ?_⟩, hleft⟩
  · rw [hsame, Session.get?_changed hb] at hc
    have hreplay : b.replay = b.replay.follow (b.replay.touched (left.map .map)) :=
      congrArg Builder.replay (Option.some.inj hc)
    have hrows := hvalue.symm.trans ((congrArg Table.value hreplay.symm).trans hreplays.value_eq)
    exact List.map_injective_iff.mpr (fun _ _ h => Value.map.inj h) (Value.list.inj hrows)
  · rintro rfl
    rw [followed_touched_rows hb hreplays hcoherent]

/-- Rows of which the second has a text where a step would add. -/
def unevenRows : List Row := [[("n", .int 1)], [("n", .text "x")]]

/-- The rows, as they are shared. -/
def unevenTable : Table := .ofValue 0 (rowsValue unevenRows)

/-- A session with a simulated table, and a builder that shares its rows and has a step queued. -/
def uneven : Session where
  clock := default
  simulations := .single "main" { active := true, state := [("t", unevenTable)] }
  builders := { items := [
    { Builder.new "t" {} with
      descriptor := { Descriptor.new "t" with
        pending := some ⟨WriteKind.increment.keyword, .map [("column", "n")]⟩ }
      tracking := true
      replay := unevenTable }] }
  nextStamp := 2

/-- The builder of the session. -/
def uneven.asking : Builder := (uneven.builders.get? 0).getD (Builder.new "t" {})

/-- The session once tracking has failed. -/
def uneven.tracked : Session := ((tracking 0).run .still uneven).2

/-- The own rows of the builder of a session. -/
def ownRows (s : Session) : Value :=
  ((s.builders.get? 0).getD (Builder.new "t" {})).replay.value

/-- Rows with one stamp are one row in the session. -/
theorem uneven.coherent : uneven.Coherent := by
  have hheld : uneven.held = unevenTable.rows ++ unevenTable.rows := rfl
  have hstamps : (unevenTable.rows.map (·.stamp)).Nodup := by decide
  intro h hh k hk hstamp
  rw [hheld, List.mem_append, or_self] at hh hk
  exact congrArg Held.row (List.inj_on_of_nodup_map hstamps hh hk hstamp)

/-- The step breaks off at the second row, and the first one is not as it was. -/
theorem tracking_unchanged_iff_uneven :
    ∃ e new left c, (tracking 0).run .still uneven = (.error e, uneven.tracked) ∧
      uneven.tracked.builders.get? 0 = some c ∧ c.descriptor = uneven.asking.descriptor ∧
      c.replay.value = rowsValue left ∧ left ≠ unevenRows ∧
      uneven.tracked ≠ uneven.changed 0 (.logged new) ∧
      ∃ test change, uneven.asking.descriptor.Breaks test change ∧
        Row.BreaksOff test change unevenRows left e := by
  have hreplays : Replays uneven.asking unevenTable.rows unevenRows :=
    ⟨by decide, rfl, rfl, by decide, by decide⟩
  obtain ⟨e, hfails⟩ : ∃ e, (tracking 0).run .still uneven = (.error e, uneven.tracked) := by
    have hok : ((tracking 0).run .still uneven).1.isOk = false := by decide +kernel
    rw [uneven.tracked]
    rcases hrun : (tracking 0).run .still uneven with ⟨e | log, t⟩
    · exact ⟨e, rfl⟩
    · rw [hrun] at hok
      cases hok
  obtain ⟨new, left, c, -, -, hc, hdescriptor, hleft, hsame, hbroken⟩ :=
    tracking_unchanged_iff rfl hreplays uneven.coherent hfails
  have hmoved : left ≠ unevenRows := by
    rintro rfl
    have hown : (ownRows uneven.tracked).equal (rowsValue unevenRows) = false := by decide +kernel
    have hequal : (rowsValue unevenRows).equal (rowsValue unevenRows) = true := by decide +kernel
    rw [ownRows, hc, Option.getD_some, hleft, hequal] at hown
    cases hown
  exact ⟨e, new, left, c, hfails, hc, hdescriptor, hleft, hmoved, fun h => hmoved (hsame.mp h),
    hbroken.resolve_left hmoved⟩

/-- A step that fails has been made for the first of two rows, for the builder as in the
simulation, and is made for it once more when the builder is tracked again. -/
theorem failed_tracking_counts_twice :
    ((tracking 0).run .still uneven).1.isOk = false ∧
    ((tracking 0).run .still uneven.tracked).1.isOk = false ∧
    (ownRows uneven).equal (rowsValue unevenRows) = true ∧
    ((uneven.snapshot none).value "t").equal (rowsValue unevenRows) = true ∧
    (ownRows uneven.tracked).equal (rowsValue unevenRows) = false ∧
    ((uneven.tracked.snapshot none).value "t").equal (rowsValue unevenRows) = false ∧
    (ownRows uneven.tracked).equal
      (.list [.map [("n", .int 2)], .map [("n", .text "x")]]) = true ∧
    (ownRows ((tracking 0).run .still uneven.tracked).2).equal
      (.list [.map [("n", .int 3)], .map [("n", .text "x")]]) = true := by
  decide +kernel

end Fails

end Act

end FluentSql
