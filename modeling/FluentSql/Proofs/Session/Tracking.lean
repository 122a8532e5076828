import FluentSql.Proofs.Session.Tables
import FluentSql.Session.Tracking

set_option autoImplicit false

/-!
# Tracked writes in a simulation

A builder that is asked to log its calls starts from the rows that its query selects, and replays
its queued write on them. In a running simulation what comes of this is published as the whole table
of the query, though the rows that were not selected at the start are not among it; a write that is
made is carried out on the whole table. So the two leave the same table just if the write makes the
same of the selected rows as of all.

## Main definitions

* `FluentSql.Act.afterCalls` — chainable calls, one after the other, whatever comes of each.

## Main results

* `FluentSql.Act.standing_of_initial` — the rows with which a log starts.
* `FluentSql.Act.tracking_publishes` — the table that replaying a write leaves.
* `FluentSql.Act.make_leaves` — the table that making a write leaves.
* `FluentSql.Act.tracking_agrees_iff` — when the two are the same.
-/

namespace FluentSql

/-! ## Rows that are shared -/

namespace Held

/-- Values are stamped one after the other. -/
theorem getElem?_ofValues (stamp : Nat) (rows : List Value) (i : Nat) :
    (ofValues stamp rows)[i]? = rows[i]?.map fun row => ⟨stamp + i, row⟩ := by
  rw [ofValues, List.getElem?_mapIdx]

/-- Among values stamped from a number on, each is found under its own stamp. -/
theorem find?_ofValues (stamp : Nat) (rows : List Value) (i : Nat) :
    (ofValues stamp rows).find? (·.stamp == stamp + i) =
      rows[i]?.map fun row => ⟨stamp + i, row⟩ := by
  have hcons : ∀ stamp row (rows : List Value),
      ofValues stamp (row :: rows) = ⟨stamp, row⟩ :: ofValues (stamp + 1) rows := by
    intro stamp row rows
    simp [ofValues, Nat.add_comm, Nat.add_left_comm]
  induction rows generalizing stamp i with
  | nil => rfl
  | cons row rows ih =>
    rw [hcons]
    cases i with
    | zero => simp
    | succ i =>
      have hstamp : stamp + (i + 1) = stamp + 1 + i := by omega
      rw [List.find?_cons_of_neg (by simp), hstamp, ih]
      rfl

/-- Rows that follow as many others with the same stamps become these. -/
theorem map_follow_ofValues (stamp : Nat) {rows changed : List Value}
    (h : changed.length = rows.length) :
    (ofValues stamp rows).map (follow (ofValues stamp changed)) = ofValues stamp changed := by
  apply List.ext_getElem?
  intro i
  rw [List.getElem?_map, getElem?_ofValues, getElem?_ofValues]
  by_cases hi : i < rows.length
  · have hi' : i < changed.length := by omega
    rw [List.getElem?_eq_getElem hi, List.getElem?_eq_getElem hi', Option.map_some,
      Option.map_some, Option.map_some, follow, find?_ofValues, List.getElem?_eq_getElem hi']
    rfl
  · have hi' : ¬ i < changed.length := by omega
    rw [List.getElem?_eq_none (by omega), List.getElem?_eq_none (by omega)]
    rfl

end Held

namespace Table

/-- The rows of a list as a write left them keep their stamps. -/
theorem touched_ofValue (stamp : Nat) {rows changed : List Value}
    (h : changed.length = rows.length) :
    (ofValue stamp (.list rows)).touched changed = Held.ofValues stamp changed := by
  apply List.ext_getElem?
  intro i
  rw [touched, List.getElem?_zipWith, Held.getElem?_ofValues, ofValue, Table.rows,
    Held.getElem?_ofValues]
  by_cases hi : i < rows.length
  · rw [List.getElem?_eq_getElem hi, List.getElem?_eq_getElem (by omega)]
    rfl
  · rw [List.getElem?_eq_none (by omega), List.getElem?_eq_none (by omega)]
    rfl

/-- A table that follows a write on its rows has them as the write left them. -/
theorem follow_touched_ofValue (stamp : Nat) {rows changed : List Value}
    (h : changed.length = rows.length) :
    (ofValue stamp (.list rows)).follow ((ofValue stamp (.list rows)).touched changed) =
      ofValue stamp (.list changed) := by
  rw [touched_ofValue stamp h]
  exact congrArg Table.list (Held.map_follow_ofValues stamp h)

/-- The table that is left of a list has the value that is left of the list. -/
theorem value_leave {a : Attempt} {items : List Value} {left : Value} {result : WriteResult}
    (hleft : a.result (.list items) = .ok (left, result)) {remainder : Remainder}
    (houtcome : a.outcome = .ok ⟨remainder, result⟩)
    (hadded : ∀ added, remainder = .extended added → ∃ xs, added = .list xs) (first stamp : Nat) :
    ((ofValue first (.list a.touched)).leave stamp remainder).value = left := by
  obtain ⟨remainder', houtcome', hremains⟩ := Attempt.result_list hleft
  obtain rfl : remainder' = remainder := by
    have hsame := houtcome'.symm.trans houtcome
    cases hsame
    rfl
  cases remainder' with
  | whole =>
    rw [show left = .list a.touched from hremains]
    exact value_ofValue first (.list a.touched)
  | extended added =>
    obtain ⟨xs, rfl⟩ := hadded added rfl
    have hlist : left = .list (a.touched ++ xs) := Except.ok.inj (hremains.symm.trans rfl)
    have hrows := value_ofValue first (.list a.touched)
    have hmore := value_ofValue stamp (.list xs)
    rw [hlist]
    simp only [ofValue, value, Value.list.injEq] at hrows hmore
    simp [leave, ofValue, mapRows, value, Table.rows, hrows, hmore]
  | selection kept =>
    have hrows := value_ofValue first (.list a.touched)
    rw [show left = .list (keptBy kept a.touched) from hremains]
    simp only [ofValue, value, Value.list.injEq] at hrows
    simp [leave, ofValue, value, Table.rows, keptBy_map, hrows]

end Table

/-! ## Starting a log -/

namespace Act

section Initial

variable {reactor : Reactor} {s t : Session} {id : Nat} {b : Builder}

theorem keeps_remember_holding {β : Type} {part : Builder → β}
    (h : ∀ (b : Builder) replay, part { b with replay } = part b) :
    Keeps (Frame.holding part) reactor (remember id) := by
  have hfresh : ∀ v, Keeps (Frame.holding part) reactor (freshTable v) := by
    intro v
    refine keeps_bind (keeps_bind keeps_get fun s => ?_) fun stamp => keeps_pure _
    refine keeps_bind (keeps_modify fun s => ?_) fun _ => keeps_pure _
    exact ⟨⟨rfl, rfl, rfl⟩, fun id b hb => ⟨b, hb, rfl⟩⟩
  refine keeps_bind (keeps_builder id) fun b => keeps_bind keeps_get fun s => ?_
  split
  · split
    · exact keeps_pure ()
    · refine keeps_bind (keeps_copy_holding _) fun table => ?_
      refine keeps_bind (hfresh table) fun replay => ?_
      exact keeps_changeBuilder_holding id fun b => h b replay
  · exact keeps_pure ()

/-- What reading all rows leaves of a builder: its query, where it belongs, and whether it is
tracked. -/
def asked (b : Builder) : Descriptor × Options × Bool := (b.descriptor, b.options, b.tracking)

/-- Builders that ask the same, part by part. -/
theorem asked_eq_iff {b c : Builder} :
    asked c = asked b ↔
      c.descriptor = b.descriptor ∧ c.options = b.options ∧ c.tracking = b.tracking := by
  simp only [asked, Prod.mk.injEq]

theorem keeps_note_asked (id : Nat) (step : String) (details : Value) :
    Keeps (Frame.holding asked) reactor (note id step details) :=
  keeps_note_holding (fun _ _ _ => rfl) id step details

/-- All rows are those that the query selects from the running simulation. -/
theorem selectFrom_of_run_all (hb : s.builders.get? id = some b)
    (hrunning : s.simulating b.options.simulation = true) (hd : b.descriptor.Closed)
    (htable : ((s.snapshot b.options.simulation).value b.table).Closed) {found : List Value}
    (h : (all id).run reactor s = (.ok found, t)) :
    b.descriptor.selectFrom (s.snapshot b.options.simulation) = .ok found ∧
      (Frame.holding asked).rel s t := by
  obtain ⟨_, u, hnote, h⟩ := run_bind_eq_ok.mp h
  obtain ⟨_, v, hremember, h⟩ := run_bind_eq_ok.mp h
  have hsv : (Frame.holding asked).rel s v := by
    have hsu : (Frame.holding asked).rel s u := (keeps_note_asked id _ _).rel hnote
    exact (Frame.holding asked).trans hsu ((keeps_remember_holding fun _ _ => rfl).rel hremember)
  obtain ⟨c, hc, hasked⟩ := hsv.2 id b hb
  obtain ⟨hdescriptor, hoptions, -⟩ := asked_eq_iff.mp hasked
  obtain ⟨-, hsimulating, hsnapshot⟩ := Frame.same_of_holding hsv b.options.simulation
  rw [run_builder_bind reactor v hc] at h
  have hrows : (rows c).run reactor v =
      (c.descriptor.selectFrom (v.snapshot c.options.simulation), v) := by
    refine run_rows_of_closed ?_ ?_ ?_
    · rw [hoptions, hsimulating, hrunning]
    · rw [hdescriptor]
      exact hd
    · rw [hoptions, hsnapshot, Builder.table, hdescriptor]
      exact htable
  rw [hrows, hoptions, hsnapshot, hdescriptor] at h
  obtain ⟨hfound, rfl⟩ := Prod.mk.inj h
  exact ⟨hfound, hsv⟩

/-- The rows that a builder's query selects become the table on which it replays. -/
theorem standing_of_initialQuery (hb : s.builders.get? id = some b)
    (hrunning : s.simulating b.options.simulation = true) (hd : b.descriptor.Closed)
    (htable : ((s.snapshot b.options.simulation).value b.table).Closed)
    (h : (initialQuery id).run reactor s = (.ok (), t)) :
    ∃ found stamp c, b.descriptor.selectFrom (s.snapshot b.options.simulation) = .ok found ∧
      t.builders.get? id = some c ∧
      c.standing = (b.table, b.options, b.tracking, .ofValue stamp (.list found)) ∧
      (Frame.holding Builder.options).rel s t := by
  -- The query is compiled and noted, its rows are read, and they become the table to replay on.
  obtain ⟨d, s₁, hquery, h₁⟩ := run_bind_eq_ok.mp h
  obtain ⟨statement, s₂, hselect, h₂⟩ := run_bind_eq_ok.mp h₁
  obtain ⟨_, s₃, hnote, h₃⟩ := run_bind_eq_ok.mp h₂
  obtain ⟨found, s₄, hall, h₄⟩ := run_bind_eq_ok.mp h₃
  obtain ⟨T, s₅, hfresh, h₅⟩ := run_bind_eq_ok.mp h₄
  obtain ⟨_, s₆, hreplay, hend⟩ := run_bind_eq_ok.mp h₅
  obtain rfl : s₁ = s₂ := (Prod.mk.inj hselect).2
  have hasked : (Frame.holding asked).rel s s₃ :=
    (Frame.holding asked).trans ((keeps_currentQuery id).rel hquery)
      ((keeps_note_asked id _ _).rel hnote)
  obtain ⟨c, hc, hcasked⟩ := hasked.2 id b hb
  obtain ⟨hdescriptor, hoptions, -⟩ := asked_eq_iff.mp hcasked
  obtain ⟨-, hsimulating, hsnapshot⟩ := Frame.same_of_holding hasked b.options.simulation
  have hfound : c.descriptor.selectFrom (s₃.snapshot c.options.simulation) = .ok found ∧
      (Frame.holding asked).rel s₃ s₄ := by
    refine selectFrom_of_run_all hc ?_ ?_ ?_ hall
    · rw [hoptions, hsimulating]
      exact hrunning
    · rw [hdescriptor]
      exact hd
    · rw [hoptions, hsnapshot, Builder.table, hdescriptor]
      exact htable
  rw [hoptions, hsnapshot, hdescriptor] at hfound
  have hread : (Frame.holding asked).rel s s₄ := (Frame.holding asked).trans hasked hfound.2
  obtain ⟨c', hc', hcasked'⟩ := hread.2 id b hb
  obtain ⟨hdescriptor', hoptions', htracking'⟩ := asked_eq_iff.mp hcasked'
  obtain ⟨rfl, rfl⟩ : Table.ofValue s₄.nextStamp (.list found) = T ∧
      s₄.stamped (Table.ofValue 0 (.list found)).rows.length = s₅ := by
    have hrun := Prod.mk.inj hfresh
    exact ⟨Except.ok.inj hrun.1, hrun.2⟩
  have hs₆ : ((s₄.stamped (Table.ofValue 0 (.list found)).rows.length).changed id fun b =>
      { b with replay := .ofValue s₄.nextStamp (.list found) }) = s₆ := (Prod.mk.inj hreplay).2
  have hc₆ : s₆.builders.get? id =
      some { c' with replay := .ofValue s₄.nextStamp (.list found) } := by
    rw [← hs₆, Session.changed, Directory.get?_modify]
    exact congrArg (Option.map _) hc'
  rw [run_builder_bind _ _ hc₆] at hend
  have hnoted : (Frame.holding Builder.standing).rel s₆ t :=
    (keeps_note_holding (fun _ _ _ => rfl) id _ _).rel hend
  obtain ⟨c₇, hc₇, hstanding⟩ := hnoted.2 id _ hc₆
  refine ⟨found, s₄.nextStamp, c₇, hfound.1, hc₇, ?_, ?_⟩
  · rw [hstanding, ← hoptions', ← htracking', Builder.table, ← hdescriptor']
    rfl
  · have hchanged : (Frame.holding Builder.options).rel s₄ s₆ := by
      rw [← hs₆]
      exact rel_holding_changed _ id fun _ => rfl
    have hfirst := Frame.holding_of_holding (fun x => x.2.1) hread
    have hlast := Frame.holding_of_holding (fun x => x.2.1) hnoted
    exact (Frame.holding _).trans ((Frame.holding _).trans hfirst hchanged) hlast

/-- A log that is started with the rows of the builder's query starts with those that the query
selects; the builder stands where it stood, and is tracked.

**Proof sketch.** The log is emptied first, which changes nothing about how the builder stands but
that it is tracked. The rows are then read through its own query and remembered with a stamp. -/
theorem standing_of_initial (hb : s.builders.get? id = some b)
    (hrunning : s.simulating b.options.simulation = true) (hd : b.descriptor.Closed)
    (htable : ((s.snapshot b.options.simulation).value b.table).Closed)
    (h : (initial id .null).run reactor s = (.ok (), t)) :
    ∃ found stamp c, b.descriptor.selectFrom (s.snapshot b.options.simulation) = .ok found ∧
      t.builders.get? id = some c ∧
      c.standing = (b.table, b.options, true, .ofValue stamp (.list found)) ∧
      (Frame.holding Builder.options).rel s t := by
  obtain ⟨_, s₁, hstart, h⟩ := run_bind_eq_ok.mp h
  obtain rfl : s.changed id (fun b => { b with tracking := true, log := [] }) = s₁ :=
    (Prod.mk.inj hstart).2
  have hb₁ : (s.changed id fun b => { b with tracking := true, log := [] }).builders.get? id =
      some { b with tracking := true, log := [] } := by
    rw [Session.changed, Directory.get?_modify, hb]
    rfl
  obtain ⟨found, stamp, c, hfound, hc, hstanding, hoptions⟩ :=
    standing_of_initialQuery hb₁ hrunning hd htable h
  have hstarted : (Frame.holding Builder.options).rel s
      (s.changed id fun b => { b with tracking := true, log := [] }) :=
    rel_holding_changed s id fun _ => rfl
  exact ⟨found, stamp, c, hfound, hc, hstanding, (Frame.holding _).trans hstarted hoptions⟩

end Initial

/-! ## Replaying -/

/-- The session once everyone has followed changes of rows. -/
def followed (s : Session) (changed : List Held) : Session :=
  { s with
    simulations := s.simulations.map fun m => { m with state := m.state.follow changed }
    controller := s.controller.map fun c => { c with state := c.state.follow changed }
    builders := s.builders.map fun b => { b with replay := b.replay.follow changed } }

/-- A simulation of its own runs on when rows are followed. -/
theorem simulating_followed {s : Session} {m : Option Nat} (hown : s.controllerOf m = none)
    (hrunning : s.simulating m = true) (changed : List Held) :
    (followed s changed).controllerOf m = none ∧ (followed s changed).simulating m = true := by
  have hsimulation : ((followed s changed).simulation m).config = (s.simulation m).config ∧
      ((followed s changed).simulation m).active = (s.simulation m).active := by
    simp only [followed, Session.simulation, Directory.get?, Directory.map, List.getElem?_map]
    cases s.simulations.items[m.getD 0]? <;> exact ⟨rfl, rfl⟩
  have hown' : (followed s changed).controllerOf m = none := by
    rw [Session.controllerOf] at hown ⊢
    rw [hsimulation.1]
    split at hown
    · next hcontrolled =>
      rw [if_pos (show (((followed s changed).config _).controlled = true) from hcontrolled)]
      simp [followed, hown]
    · next hcontrolled =>
      rw [if_neg (show ¬ (((followed s changed).config _).controlled = true) from hcontrolled)]
  refine ⟨hown', ?_⟩
  rw [Session.simulating, hown] at hrunning
  rw [Session.simulating, hown', hsimulation.2]
  exact hrunning

/-- The number of rows that a write adds to a table. -/
def added : Remainder → Nat
  | .extended rows => (Table.ofValue 0 rows).rows.length
  | _ => 0

/-- Puts what a write has left in the place of the table that a builder replays on, publishes it,
and takes the queued write away. -/
def publishLeft (id : Nat) (simulation : Option Nat) (name : String) (remainder : Remainder) :
    Act Unit := do
  let stamp ← freshStamps (added remainder)
  let t := (← builder id).replay.leave stamp remainder
  changeBuilder id fun b => { b with replay := t }
  publish simulation name t
  note id "virtual_execution.end" (.map [("final_virtual_table_state", ← copy t.value)])
  clearPending id

section Replay

variable {reactor : Reactor} {s t : Session} {id : Nat} {c : Builder}

theorem run_freshStamps (count : Nat) :
    (freshStamps count).run reactor s = (.ok s.nextStamp, s.stamped count) := rfl

/-- What a write has left of the table that a builder replays on is published. -/
theorem value_of_publishLeft (hc : s.builders.get? id = some c) {m : Option Nat}
    (hown : s.controllerOf m = none) (hrunning : s.simulating m = true) {name : String}
    {remainder : Remainder} (h : (publishLeft id m name remainder).run reactor s = (.ok (), t)) :
    ∃ stamp, (t.snapshot m).value name = (c.replay.leave stamp remainder).value := by
  have hc₁ : (s.stamped (added remainder)).builders.get? id = some c := hc
  rw [publishLeft, run_bind_of_ok _ _ (run_freshStamps _), run_builder_bind _ _ hc₁] at h
  dsimp only at h
  rw [run_bind_of_ok _ _ (run_changeBuilder _ _ _ _)] at h
  refine ⟨s.nextStamp, ?_⟩
  generalize c.replay.leave s.nextStamp remainder = T at h ⊢
  have hchanged : (Frame.holding Builder.options).rel (s.stamped (added remainder))
      ((s.stamped (added remainder)).changed id fun b => { b with replay := T }) :=
    rel_holding_changed _ id fun _ => rfl
  obtain ⟨hown', hrunning', -⟩ := Frame.same_of_holding hchanged m
  have hown₂ := hown'.trans (show (s.stamped _).controllerOf m = none from hown)
  have hrunning₂ := hrunning'.trans (show (s.stamped _).simulating m = true from hrunning)
  rw [run_bind_of_ok _ _ (run_publish hown₂ hrunning₂ name T)] at h
  have hend : Keeps (Frame.holding Builder.options) reactor (do
      note id "virtual_execution.end" (.map [("final_virtual_table_state", ← copy T.value)])
      clearPending id) := by
    refine keeps_bind (keeps_copy_holding _) fun shown => ?_
    refine keeps_bind (keeps_note_holding (fun _ _ _ => rfl) id _ _) fun _ => ?_
    exact keeps_changeBuilder_holding id fun _ => rfl
  obtain ⟨-, -, hsnapshot⟩ := Frame.same_of_holding (hend.rel h) m
  obtain ⟨-, -, hpublished⟩ := Session.own_published hown₂ hrunning₂ name T
  rw [hsnapshot, hpublished, Snapshot.value_put]

/-- Telling builders to queue an update keeps what chainable calls leave. -/
theorem keeps_tellBuilders (hinvokes : reactor.Invokes (Frame.holding Builder.standing))
    (values : Value) (ids : List Nat) :
    Keeps (Frame.holding Builder.standing) reactor (tellBuilders values ids) := by
  induction ids with
  | nil => exact keeps_pure ()
  | cons id ids ih => exact keeps_bind (keeps_chain hinvokes id _ _) fun _ => ih

/-- Replaying a write changes rows where they stand, which everyone follows, tells builders among
them to queue an update, and publishes what is left. -/
theorem replay_eq (id : Nat) :
    replay id = (do
      let b ← builder id
      let d ← copiedValues id
      let attempt ← copiedAttempt (d.applyTo primaryKey (← current b.replay.value))
      follow (b.replay.touched attempt.touched)
      tellBuilders (changingValues d) attempt.told
      let written ← of attempt.outcome
      publishLeft id b.options.simulation b.table written.remainder) := rfl

/-- A queued write that is replayed on closed rows is published with what it makes of them as the
table. -/
theorem replay_publishes (hinvokes : reactor.Invokes (Frame.holding Builder.standing))
    (hc : s.builders.get? id = some c) (hown : s.controllerOf c.options.simulation = none)
    (hrunning : s.simulating c.options.simulation = true) (hd : c.descriptor.Closed)
    {stamp : Nat} {found : List Value} (hreplay : c.replay = .ofValue stamp (.list found))
    (hfound : (Value.list found).Closed) (h : (replay id).run reactor s = (.ok (), t)) :
    ∃ left result,
      (c.descriptor.applyTo primaryKey (.list found)).result (.list found) = .ok (left, result) ∧
        (t.snapshot c.options.simulation).value c.table = left := by
  have hvalue : s.current c.replay.value = .list found := by
    rw [hreplay, Table.value_ofValue, s.current_of_closed hfound]
  rw [replay_eq, run_builder_bind _ _ hc, run_bind_of_ok _ _ (run_copiedValues_of_closed hc hd),
    run_bind_of_ok _ _ (run_current _ _ _), hvalue,
    run_bind_of_ok _ _ (run_copiedAttempt_applyTo hd _ _)] at h
  have hlength := c.descriptor.length_touched_applyTo primaryKey found
  generalize hattempt : c.descriptor.applyTo primaryKey (.list found) = attempt at h hlength ⊢
  have hfollow : (follow (c.replay.touched attempt.touched)).run reactor s =
      (.ok (), followed s (c.replay.touched attempt.touched)) := rfl
  rw [run_bind_of_ok _ _ hfollow] at h
  obtain ⟨hown₁, hrunning₁⟩ := simulating_followed hown hrunning
    (c.replay.touched attempt.touched)
  have hc₁ : (followed s (c.replay.touched attempt.touched)).builders.get? id =
      some { c with replay := .ofValue stamp (.list attempt.touched) } := by
    rw [← Table.follow_touched_ofValue stamp hlength, ← hreplay]
    exact (List.getElem?_map ..).trans (congrArg (Option.map _) hc)
  obtain ⟨_, s₂, htell, h₂⟩ := run_bind_eq_ok.mp h
  obtain ⟨w, s₃, hw, h₃⟩ := run_bind_eq_ok.mp h₂
  obtain ⟨houtcome, rfl⟩ := Prod.mk.inj hw
  have htold := (keeps_tellBuilders hinvokes _ _).rel htell
  obtain ⟨c₂, hc₂, hstanding⟩ := htold.2 id _ hc₁
  obtain ⟨-, -, -, hreplay₂⟩ := Builder.standing_eq_iff.mp hstanding
  obtain ⟨hown₂, hrunning₂, -⟩ := Frame.same_of_holding htold c.options.simulation
  obtain ⟨fresh, hpublished⟩ := value_of_publishLeft hc₂ (hown₂.trans hown₁)
    (hrunning₂.trans hrunning₁) h₃
  rw [← hattempt] at houtcome
  obtain ⟨left, hleft⟩ := Descriptor.exists_result_of_outcome houtcome
  have hremains : ∀ xs, w.remainder = .extended xs → ∃ ys, xs = .list ys := by
    intro xs hxs
    obtain ⟨remainder, result⟩ := w
    obtain rfl : remainder = .extended xs := hxs
    exact hd.exists_list houtcome
  refine ⟨left, w.result, by rw [← hattempt, hleft], ?_⟩
  rw [hpublished, hreplay₂, ← hattempt]
  exact Table.value_leave hleft houtcome hremains stamp fresh

/-- Tracking a builder whose write is queued publishes what the write makes of the rows on which it
is replayed.

**Proof sketch.** What comes before the replay only adds to the log, and what comes after it only
reads it; and the replay publishes what it has made (`replay_publishes`). -/
theorem tracking_publishes (hinvokes : reactor.Invokes (Frame.holding Builder.standing))
    (hc : s.builders.get? id = some c) (hown : s.controllerOf c.options.simulation = none)
    (hrunning : s.simulating c.options.simulation = true) (hd : c.descriptor.Closed)
    (htracked : c.tracking = true) (hpending : c.descriptor.pending.isSome = true)
    {stamp : Nat} {found : List Value} (hreplay : c.replay = .ofValue stamp (.list found))
    (hfound : (Value.list found).Closed) {log : List LogEntry}
    (h : (tracking id).run reactor s = (.ok log, t)) :
    ∃ left result,
      (c.descriptor.applyTo primaryKey (.list found)).result (.list found) = .ok (left, result) ∧
        (t.snapshot c.options.simulation).value c.table = left := by
  obtain ⟨action, haction⟩ := Option.isSome_iff_exists.mp hpending
  rw [tracking, run_builder_bind _ _ hc, htracked, haction] at h
  obtain ⟨_, s₁, hget, h₁⟩ := run_bind_eq_ok.mp h
  obtain ⟨_, s₂, hplain, h₂⟩ := run_bind_eq_ok.mp h₁
  obtain ⟨_, s₃, hnote, h₃⟩ := run_bind_eq_ok.mp h₂
  obtain ⟨_, s₄, hreplayed, hlog⟩ := run_bind_eq_ok.mp h₃
  obtain rfl : s = s₁ := (Prod.mk.inj hget).2
  obtain rfl : s = s₂ := (Prod.mk.inj hplain).2
  have hlogged : Keeps (Frame.holding Builder.standing) reactor
      (builder id >>= fun b => pure b.log) :=
    keeps_bind (keeps_builder id) fun b => keeps_pure _
  -- A note in the log is no matter for what is replayed.
  have hnoted : (Frame.holding fun b : Builder => (b.descriptor, b.standing)).rel s s₃ :=
    (keeps_note_holding (fun _ _ _ => rfl) id _ _).rel hnote
  obtain ⟨c₃, hc₃, hsame⟩ := hnoted.2 id c hc
  obtain ⟨hdescriptor, hstanding⟩ := Prod.mk.inj hsame
  obtain ⟨htable, hoptions, -, hreplay₃⟩ := Builder.standing_eq_iff.mp hstanding
  obtain ⟨hown₃, hrunning₃, -⟩ := Frame.same_of_holding hnoted c.options.simulation
  obtain ⟨left, result, hleft, hvalue⟩ := replay_publishes hinvokes hc₃
    (by rw [hoptions, hown₃, hown]) (by rw [hoptions, hrunning₃, hrunning])
    (by rw [hdescriptor]; exact hd) (hreplay₃.trans hreplay) hfound hreplayed
  obtain ⟨-, -, hsnapshot⟩ := Frame.same_of_holding (hlogged.rel hlog) c.options.simulation
  rw [hdescriptor] at hleft
  rw [hoptions, htable] at hvalue
  exact ⟨left, result, hleft, by rw [hsnapshot, hvalue]⟩

/-- Making the queued write of a builder on closed rows leaves what the write makes of them.

**Proof sketch.** It is applied to the rows themselves, since nothing in them is copied, and what is
left is put under the name of the table when the write is settled. -/
theorem make_leaves (hc : s.builders.get? id = some c)
    (hown : s.controllerOf c.options.simulation = none)
    (hrunning : s.simulating c.options.simulation = true) (hd : c.descriptor.Closed)
    {rows : List Row} (hrows : (s.snapshot c.options.simulation).Has c.table rows)
    (hclosed : ∀ row ∈ rows, Fields.Closed row) {result : WriteResult}
    (h : (make id).run reactor s = (.ok result, t)) :
    ∃ left,
      (c.descriptor.applyTo primaryKey (rowsValue rows)).result (rowsValue rows) =
          .ok (left, result) ∧
        (t.snapshot c.options.simulation).value c.table = left := by
  rw [run_make_simulated hc hrunning] at h
  obtain ⟨⟨left, result'⟩, s₁, hmade, h₁⟩ := run_bind_eq_ok.mp h
  rw [run_applyQueued_of_closed hc hd (hrows.closed hclosed)] at hmade
  obtain ⟨hmake, rfl⟩ := Prod.mk.inj hmade
  obtain ⟨checked, -, hleft⟩ := bind_eq_ok.mp hmake
  rw [hrows.orElse_eq] at hleft
  rw [run_bind_of_ok _ _ (run_settle hown hrunning left)] at h₁
  obtain ⟨hresult, rfl⟩ := Prod.mk.inj h₁
  obtain rfl : result' = result := Except.ok.inj hresult
  obtain ⟨-, -, hvalue⟩ := Session.own_written hown hrunning id left
  exact ⟨left, hleft, hvalue⟩

end Replay

/-! ## Agreement -/

section Agreement

variable (reactor : Reactor)

/-- The session after chainable calls on a builder, one after the other, whatever comes of each. -/
def afterCalls (id : Nat) (s : Session) (calls : List (Method × Arguments)) : Session :=
  calls.foldl (fun s call => ((chain id call.1 call.2).run reactor s).2) s

/-- Chainable calls keep what each of them leaves. -/
theorem rel_holding_afterCalls (hinvokes : reactor.Invokes (Frame.holding Builder.standing))
    (id : Nat) (calls : List (Method × Arguments)) (s : Session) :
    (Frame.holding Builder.standing).rel s (afterCalls reactor id s calls) := by
  induction calls generalizing s with
  | nil => exact (Frame.holding _).refl s
  | cons call calls ih =>
    exact (Frame.holding _).trans (keeps_chain hinvokes id call.1 call.2 s) (ih _)

variable {reactor} {s s₁ t : Session} {id : Nat} {b c : Builder}

/-- What a tracked write leaves in a running simulation, and when it is what making the write would
leave. After a log has been started with the rows of a builder's query, and after any chainable
calls, a queued write that is replayed is published with what it makes of the rows that the query
selected at the start, and of no other; if it is made instead, it leaves what it makes of all rows
of the table. The two are the same if all rows were selected at the start; and if the write is an
insertion, an update, an increment or a decrement, they are the same in no other case.

**Proof sketch.** Starting the log puts the selected rows into a table of the builder's own, and no
chainable call touches it. Replaying carries out the write on this table, and publishes it under the
name of the whole one. A write that takes no row away leaves as many rows as it was given, besides
what it appends; so tables that it makes the same were of one length. -/
theorem tracking_agrees_iff (hinvokes : reactor.Invokes (Frame.holding Builder.standing))
    (hb : s.builders.get? id = some b) (hown : s.controllerOf b.options.simulation = none)
    (hrunning : s.simulating b.options.simulation = true) (hbclosed : b.descriptor.Closed)
    {rows : List Row} (hrows : (s.snapshot b.options.simulation).Has b.table rows)
    (hclosed : ∀ row ∈ rows, Fields.Closed row)
    (hinitial : (initial id .null).run reactor s = (.ok (), s₁))
    {calls : List (Method × Arguments)}
    (hc : (afterCalls reactor id s₁ calls).builders.get? id = some c)
    (hcclosed : c.descriptor.Closed) (hpending : c.descriptor.pending.isSome = true)
    {log : List LogEntry}
    (htracking : (tracking id).run reactor (afterCalls reactor id s₁ calls) = (.ok log, t)) :
    ∃ kept : List Row, kept.Sublist rows ∧
      b.descriptor.selectFrom (s.snapshot b.options.simulation) = .ok (kept.map .map) ∧
      ∃ left result,
        (c.descriptor.applyTo primaryKey (rowsValue kept)).result (rowsValue kept) =
            .ok (left, result) ∧
        (t.snapshot b.options.simulation).value b.table = left ∧
        ∀ result' u, (make id).run reactor (afterCalls reactor id s₁ calls) = (.ok result', u) →
          ∃ left', (c.descriptor.applyTo primaryKey (rowsValue rows)).result (rowsValue rows) =
              .ok (left', result') ∧
            (u.snapshot b.options.simulation).value b.table = left' ∧
            (kept = rows → left = left') ∧
            (c.descriptor.keepsRows = true → left = left' → kept = rows) := by
  obtain ⟨found, stamp, c₁, hfound, hc₁, hstanding₁, hoptions₁⟩ :=
    standing_of_initial hb hrunning hbclosed (hrows.closed hclosed) hinitial
  obtain ⟨kept, hsublist, rfl⟩ := hrows.exists_of_selectFrom hfound
  have hcalls := rel_holding_afterCalls reactor hinvokes id calls s₁
  obtain ⟨c₂, hc₂, hstanding₂⟩ := hcalls.2 id c₁ hc₁
  obtain rfl : c = c₂ := Option.some.inj (hc.symm.trans hc₂)
  have hstanding : c.standing = (b.table, b.options, true, .ofValue stamp (.list _)) :=
    hstanding₂.trans hstanding₁
  obtain ⟨htable, hoptions, htracked, hreplay⟩ := Builder.standing_eq_iff.mp hstanding
  obtain ⟨hown₁, hrunning₁, hsnapshot₁⟩ := Frame.same_of_holding hoptions₁ b.options.simulation
  obtain ⟨hown₂, hrunning₂, hsnapshot₂⟩ := Frame.same_of_holding hcalls b.options.simulation
  have hown' : (afterCalls reactor id s₁ calls).controllerOf c.options.simulation = none := by
    rw [hoptions, hown₂, hown₁, hown]
  have hrunning' : (afterCalls reactor id s₁ calls).simulating c.options.simulation = true := by
    rw [hoptions, hrunning₂, hrunning₁, hrunning]
  have hrows' : ((afterCalls reactor id s₁ calls).snapshot c.options.simulation).Has c.table
      rows := by
    rw [hoptions, hsnapshot₂, hsnapshot₁, htable]
    exact hrows
  have hkept : (rowsValue kept).Closed := by
    have hall : ∀ row ∈ kept, Fields.Closed row := fun row hrow =>
      hclosed row (hsublist.subset hrow)
    simpa [rowsValue] using hall
  obtain ⟨left, result, hleft, hvalue⟩ := tracking_publishes hinvokes hc hown' hrunning' hcclosed
    htracked hpending hreplay hkept htracking
  rw [hoptions, htable] at hvalue
  refine ⟨kept, hsublist, hfound, left, result, hleft, hvalue, fun result' u hmake => ?_⟩
  obtain ⟨left', hleft', hvalue'⟩ := make_leaves hc hown' hrunning' hcclosed hrows' hclosed hmake
  rw [hoptions, htable] at hvalue'
  refine ⟨left', hleft', hvalue', ?_, ?_⟩
  · rintro rfl
    exact (Prod.mk.inj (Except.ok.inj (hleft.symm.trans hleft'))).1
  · rintro hkeeps rfl
    have hlength := Descriptor.length_eq_of_left_eq hkeeps hleft hleft'
    exact hsublist.eq_of_length (by simpa using hlength)

/-- A session with a simulated table of two rows, and a builder for the first of them. -/
def office : Session where
  clock := default
  simulations := .single "main" {
    active := true
    state := [("t", .ofValue 0 (.list [.map [("id", .int 1)], .map [("id", .int 2)]]))] }
  builders := { items := [
    { Builder.new "t" {} with descriptor := { Descriptor.new "t" with
        wheres := [.basic "id" .eq (.int 1) .and] } }] }
  nextStamp := 2

/-- The session once the log of the builder is started and an update queued. -/
def office.queued : Session :=
  afterCalls .still 0 ((initial 0 .null).run .still office).2
    [(.update, [("values", .map [("x", .int 5)])])]

/-- The builder of the session when its update is queued. -/
def office.asking : Builder := (office.queued.builders.get? 0).getD (Builder.new "t" {})

/-- The builder stands in the session. -/
theorem office.get?_asking : office.queued.builders.get? 0 = some office.asking := by
  have h : (office.queued.builders.get? 0).isSome = true := by decide +kernel
  obtain ⟨b, hb⟩ := Option.isSome_iff_exists.mp h
  rw [asking, hb]
  rfl

/-- A run that has not failed has come to a value. -/
theorem exists_eq_of_isOk {α : Type} {r : Except Error α × Session} (h : r.1.isOk = true) :
    ∃ x, r = (.ok x, r.2) := by
  obtain ⟨e | x, t⟩ := r
  · cases h
  · exact ⟨x, rfl⟩

/-- Tracking the update leaves one row, and so not the table that making it would leave. -/
theorem tracking_agrees_iff_office :
    ∃ kept : List Row, ∃ left left' : Value, kept.length = 1 ∧
      (((tracking 0).run .still office.queued).2.snapshot none).value "t" = left ∧
      (((make 0).run .still office.queued).2.snapshot none).value "t" = left' ∧ left ≠ left' := by
  have hrows : (office.snapshot none).Has "t" [[("id", .int 1)], [("id", .int 2)]] := .inl rfl
  have hselected : ((office.builders.get? 0).bind fun b =>
      (b.descriptor.selectFrom (office.snapshot none)).toOption.map List.length) = some 1 := by
    decide +kernel
  obtain ⟨u, hinitial⟩ : ∃ u, (initial 0 .null).run .still office = (.ok u, _) :=
    exists_eq_of_isOk (by decide +kernel)
  obtain ⟨log, htracking⟩ : ∃ log, (tracking 0).run .still office.queued = (.ok log, _) :=
    exists_eq_of_isOk (by decide +kernel)
  obtain ⟨result, hmake⟩ : ∃ result, (make 0).run .still office.queued = (.ok result, _) :=
    exists_eq_of_isOk (by decide +kernel)
  have hkeeps : office.asking.descriptor.keepsRows = true := by decide +kernel
  obtain ⟨kept, -, hkept, left, -, -, hleft, hagrees⟩ := tracking_agrees_iff
    (Reactor.still_invokes _) rfl rfl rfl (by decide) hrows (by decide) hinitial
    office.get?_asking (by decide +kernel) (by decide +kernel) htracking
  obtain ⟨left', -, hleft', -, hlost⟩ := hagrees _ _ hmake
  have hlength : kept.length = 1 := by
    have h := (congrArg (fun r => r.toOption.map List.length) hkept).symm.trans hselected
    simpa [Except.toOption] using h
  refine ⟨kept, left, left', hlength, hleft, hleft', fun hsame => ?_⟩
  rw [hlost hkeeps hsame] at hlength
  cases hlength

/-- After the log of a builder is started and an update is queued on it, tracking leaves a table
without the row that the query did not select; making the update instead leaves the row. -/
theorem tracking_drops_unselected_rows :
    ((initial 0 .null).run .still office).1.isOk = true ∧
    ((tracking 0).run .still office.queued).1.isOk = true ∧
    ((make 0).run .still office.queued).1.isOk = true ∧
    ((((tracking 0).run .still office.queued).2.snapshot none).value "t").equal
      (.list [.map [("id", .int 1), ("x", .int 5)]]) = true ∧
    ((((make 0).run .still office.queued).2.snapshot none).value "t").equal
      (.list [.map [("id", .int 1), ("x", .int 5)], .map [("id", .int 2)]]) = true ∧
    ((((tracking 0).run .still office.queued).2.snapshot none).value "t").equal
      ((((make 0).run .still office.queued).2.snapshot none).value "t") = false := by
  decide +kernel

end Agreement

end Act

end FluentSql
