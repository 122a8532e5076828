import FluentSql.Proofs.Session.Keeping
import FluentSql.Proofs.Session.Opening
import FluentSql.Session.Calling

set_option autoImplicit false

/-!
# Writes that are attempted again

In any run of fluent calls and attempts to make the write of a builder, what was queued once is
completed once at most, and an attempt after one that failed opens with the statement with which
that one opened.

Listeners are not to take part: what they do has to leave the builder alone, and for a statement to
come again all builders and configurations.

## Main definitions

* `FluentSql.Move` — a fluent call, or an attempt.
* `FluentSql.Record`, `FluentSql.trail` — what came of a move, and of a run.

## Main results

* `FluentSql.Record.builder_of_completes`, `FluentSql.Record.builder_of_fails` — what an attempt
  leaves of its builder.
* `FluentSql.queued_between_completions` — two attempts are not completed for one queued write.
* `FluentSql.repeats_opening` — an attempt after one that failed.
* `FluentSql.trail_completes_once_and_repeats` — runs of any length.
-/

namespace FluentSql

/-! ## Runs -/

/-- What may be done with a builder: a fluent call, with its arguments as they are written, or an
attempt to make the queued write. -/
inductive Move where
  | fluent (m : Method) (arguments : List (String × Argument))
  | make
  deriving Inhabited

/-- Makes a move on a builder. -/
def Move.act (id : Nat) : Move → Act Unit
  | .fluent m arguments => Call.perform id .null ⟨.chained m, arguments⟩
  | .make => do
    let _ ← Act.make id

/-- A move, what came of it, and the session before and afterwards. -/
structure Record where
  move : Move
  before : Session
  outcome : Except Error Unit
  after : Session
  deriving Inhabited

namespace Record

/-- Whether a record is of an attempt to make the queued write. -/
def attempts (r : Record) : Bool :=
  match r.move with
  | .make => true
  | .fluent .. => false

/-- Whether the queued write was completed. -/
def completes (r : Record) : Bool := r.attempts && r.outcome.isOk

/-- Only an attempt completes the queued write. -/
theorem attempts_of_completes {r : Record} (h : r.completes = true) : r.attempts = true := by
  rw [completes, Bool.and_eq_true] at h
  exact h.1

end Record

/-- The record of a move. -/
def Move.record (reactor : Reactor) (id : Nat) (s : Session) (move : Move) : Record where
  move
  before := s
  outcome := ((move.act id).run reactor s).1
  after := ((move.act id).run reactor s).2

/-- The records of moves on a builder, one after the other, whatever comes of each. -/
def trail (reactor : Reactor) (id : Nat) : List Move → Session → List Record
  | [], _ => []
  | move :: moves, s =>
    let r := move.record reactor id s
    r :: trail reactor id moves r.after

namespace Session

/-- The queued write of the builder of a number. -/
def pending (s : Session) (id : Nat) : Option PendingAction :=
  (s.builders.get? id).bind fun b => b.descriptor.pending

/-- Whether the executor that serves the builder of a number, if one does, is there. -/
def staffed (s : Session) (id : Nat) : Bool :=
  match s.builders.get? id with
  | some b =>
    match s.servant b with
    | .ok executor => (s.executors.get? executor).isSome
    | .error _ => true
  | none => true

/-- Where the executor is there, the one that is found is there. -/
theorem isSome_of_staffed {s : Session} {id executor : Nat} {b : Builder}
    (h : s.staffed id = true) (hb : s.builders.get? id = some b)
    (hservant : s.servant b = .ok executor) : (s.executors.get? executor).isSome = true := by
  simpa [staffed, hb, hservant] using h

end Session

/-! ## What runs keep -/

section Trail

variable {reactor : Reactor} {id : Nat}

/-- A record of a run is the record of its move. -/
theorem record_of_mem_trail {r : Record} {moves : List Move} {s : Session}
    (h : r ∈ trail reactor id moves s) : r.move.record reactor id r.before = r := by
  induction moves generalizing s with
  | nil => cases h
  | cons move moves ih =>
    rcases List.mem_cons.mp h with rfl | h
    · rfl
    · exact ih h

/-- What comes after a record in a run starts with the session after the record. -/
theorem trail_after {moves : List Move} {s : Session} {earlier later : List Record} {r : Record}
    (h : trail reactor id moves s = earlier ++ r :: later) :
    ∃ rest, later = trail reactor id rest r.after := by
  induction earlier generalizing moves s with
  | nil =>
    cases moves with
    | nil => cases h
    | cons move moves =>
      obtain ⟨rfl, rfl⟩ := List.cons.inj h
      exact ⟨moves, rfl⟩
  | cons first earlier ih =>
    cases moves with
    | nil => cases h
    | cons move moves => exact ih (List.cons.inj h).2

/-- The first record of a run is in the session that the run starts in. -/
theorem before_of_trail_eq_cons {moves : List Move} {s : Session} {r : Record}
    {later : List Record} (h : trail reactor id moves s = r :: later) : r.before = s := by
  cases moves with
  | nil => cases h
  | cons move moves =>
    obtain ⟨rfl, -⟩ := List.cons.inj h
    rfl

/-- An attempt fails and stays within the frames that bear with it, or it completes the queued
write. -/
theorem Record.attempt_cases {F : Frame} {r : Record} (hr : r.move.record reactor id r.before = r)
    (hattempts : r.attempts = true) (h : F.Bears id) (hF : F.Heard reactor)
    (hreal : r.before.real id = true) :
    (r.completes = false ∧ F.rel r.before r.after) ∨
      (r.completes = true ∧ ∃ b t, r.before.builders.get? id = some b ∧
        b.descriptor.pending.isSome = true ∧ F.rel r.before t ∧
        r.after = t.changed id Builder.settled) := by
  obtain ⟨move, before, outcome, after⟩ := r
  cases move with
  | fluent m arguments => cases hattempts
  | make =>
    simp only [Move.record, Move.act, Act.run_bind] at hr
    rcases Act.make_cases h hF hreal with ⟨e, t, hrun, hrel⟩ | ⟨result, b, t, hrun, hb⟩
    · rw [hrun] at hr
      cases hr
      exact .inl ⟨rfl, hrel⟩
    · rw [hrun] at hr
      cases hr
      exact .inr ⟨rfl, b, t, hb.1, hb.2.1, hb.2.2, rfl⟩

/-- An attempt that fails leaves the builder as it was, and one that is completed takes nothing but
the queued write away, if listeners leave the builder alone. -/
theorem Record.attempt_builder {r : Record} (hr : r.move.record reactor id r.before = r)
    (hattempts : r.attempts = true) (hreal : r.before.real id = true)
    (hspared : reactor.Within (.entry id) r.before) :
    (r.completes = false ∧ r.after.builders.get? id = r.before.builders.get? id) ∨
      (r.completes = true ∧ ∃ b, r.before.builders.get? id = some b ∧
        b.descriptor.pending.isSome = true ∧ r.after.builders.get? id = some b.settled) := by
  have hcases := Record.attempt_cases hr hattempts (Frame.bears_entry.among _)
    (Frame.among_heard Frame.bears_entry.traced hspared) hreal
  rcases hcases with ⟨hfails, hrel⟩ | ⟨hcompletes, b, t, hb, hpending, hrel, hafter⟩
  · exact .inl ⟨hfails, (hrel rfl).2⟩
  · have ht : t.builders.get? id = r.before.builders.get? id := (hrel rfl).2
    refine .inr ⟨hcompletes, b, hb, hpending, ?_⟩
    rw [hafter, Session.changed, Directory.get?_modify, ht, hb]
    rfl

/-- An attempt that is completed found a write queued, and takes nothing but that away.

**Proof sketch.** An attempt fails and leaves the builder as it was, or it completes the write that
was queued; and this one did not fail. -/
theorem Record.builder_of_completes {r : Record} (hr : r.move.record reactor id r.before = r)
    (hcompletes : r.completes = true) (hreal : r.before.real id = true)
    (hspared : reactor.Within (.entry id) r.before) :
    ∃ b, r.before.builders.get? id = some b ∧ b.descriptor.pending.isSome = true ∧
      r.after.builders.get? id = some b.settled := by
  rcases Record.attempt_builder hr (attempts_of_completes hcompletes) hreal hspared with
    ⟨hfails, -⟩ | ⟨-, h⟩
  · rw [hcompletes] at hfails
    cases hfails
  · exact h

/-- An attempt that fails leaves the builder as it was. -/
theorem Record.builder_of_fails {r : Record} (hr : r.move.record reactor id r.before = r)
    (hattempts : r.attempts = true) (hfails : r.completes = false)
    (hreal : r.before.real id = true) (hspared : reactor.Within (.entry id) r.before) :
    r.after.builders.get? id = r.before.builders.get? id := by
  rcases Record.attempt_builder hr hattempts hreal hspared with ⟨-, h⟩ | ⟨hcompletes, -⟩
  · exact h
  · rw [hfails] at hcompletes
    cases hcompletes

/-- An attempt queues nothing. -/
theorem Record.attempt_pending {r : Record} (hr : r.move.record reactor id r.before = r)
    (hattempts : r.attempts = true) (hreal : r.before.real id = true)
    (hspared : reactor.Within (.entry id) r.before) (hnone : r.before.pending id = none) :
    r.after.pending id = none := by
  rcases Record.attempt_builder hr hattempts hreal hspared with ⟨-, hafter⟩ | ⟨-, b, -, -, hafter⟩
  · rw [Session.pending, hafter]
    exact hnone
  · rw [Session.pending, hafter]
    rfl

/-- Where nothing was queued and something is later, it was queued in between, and not by an
attempt. -/
theorem queued_between {moves : List Move} {s : Session} {between later : List Record}
    {r : Record} (h : trail reactor id moves s = between ++ r :: later)
    (hattempts : ∀ q ∈ between, q.attempts = true → q.before.pending id = none →
      q.after.pending id = none)
    (hnone : s.pending id = none) (hsome : (r.before.pending id).isSome = true) :
    ∃ q ∈ between, q.attempts = false ∧ q.before.pending id = none ∧
      (q.after.pending id).isSome = true := by
  induction between generalizing moves s with
  | nil =>
    rw [before_of_trail_eq_cons h, hnone] at hsome
    cases hsome
  | cons q between ih =>
    have hbefore : q.before = s := before_of_trail_eq_cons h
    cases hafter : q.after.pending id with
    | none =>
      have hfirst : trail reactor id moves s = [] ++ q :: (between ++ r :: later) := h
      obtain ⟨rest, hrest⟩ := trail_after hfirst
      obtain ⟨found, hmem, hfound⟩ := ih hrest.symm
        (fun q hq => hattempts q (List.mem_cons_of_mem _ hq)) hafter
      exact ⟨found, List.mem_cons_of_mem _ hmem, hfound⟩
    | some action =>
      have hqueues : q.attempts = false := by
        cases hq : q.attempts with
        | false => rfl
        | true =>
          have hpending := hattempts q List.mem_cons_self hq (hbefore ▸ hnone)
          rw [hafter] at hpending
          cases hpending
      exact ⟨q, List.mem_cons_self, hqueues, hbefore ▸ hnone, by rw [hafter]; rfl⟩

/-- An attempt that fails leaves the opening statement as it was, and the executor in its place. -/
theorem Record.opening_of_fails {r : Record} (hr : r.move.record reactor id r.before = r)
    (hattempts : r.attempts = true) (hfails : r.completes = false)
    (hreal : r.before.real id = true) (hqueries : reactor.Within .queries r.before)
    (hreactor : reactor.KeepsExecutors) (hstaffed : r.before.staffed id = true) :
    r.after.opening id = r.before.opening id ∧ r.after.staffed id = true := by
  have hrel : Frame.queries.rel r.before r.after := by
    have hcases := Record.attempt_cases hr hattempts (Frame.bears_queries.among _)
      (Frame.among_heard (fun _ _ => ⟨rfl, rfl, rfl⟩) hqueries) hreal
    rcases hcases with ⟨-, hrel⟩ | ⟨hcompletes, -⟩
    · exact (hrel rfl).2
    · rw [hfails] at hcompletes
      cases hcompletes
  have hexecutors : Frame.executors.rel r.before r.after := by
    have hcases := Record.attempt_cases hr hattempts Frame.bears_executors
      (Frame.executors_heard hreactor) hreal
    rcases hcases with ⟨-, hrel⟩ | ⟨hcompletes, -⟩
    · exact hrel
    · rw [hfails] at hcompletes
      cases hcompletes
  obtain ⟨hbuilders, hlinked, hconfigs⟩ := hrel
  refine ⟨Session.opening_congr hbuilders hlinked hconfigs id, ?_⟩
  rw [Session.staffed, hbuilders]
  cases hb : r.before.builders.get? id with
  | none => rfl
  | some b =>
    dsimp only
    rw [Session.servant_congr hconfigs]
    cases hservant : r.before.servant b with
    | error e => rfl
    | ok executor => exact hexecutors executor (Session.isSome_of_staffed hstaffed hb hservant)

/-- An attempt reaches the executor with the opening statement, if the executor is there. -/
theorem reaches_of_real {s : Session} (hreactor : reactor.KeepsExecutors)
    (hreal : s.real id = true) (hstaffed : s.staffed id = true) :
    Act.Reaches reactor s (Act.make id) (s.opening id) := by
  cases hb : s.builders.get? id with
  | none =>
    rw [Session.opening, hb]
    refine ⟨fun e he => ?_, fun statement hs => ?_⟩
    · cases he
      exact Act.run_make_of_none hb
    · cases hs
  | some b =>
    have hsimulating : s.simulating b.options.simulation = false := by
      simpa [Session.real, hb] using hreal
    exact Act.reaches_make hreactor hb hsimulating fun _ => Session.isSome_of_staffed hstaffed hb

/-- Between two attempts that are completed, a fluent call queued a write.

**Proof sketch.** The first one leaves nothing queued and the second one finds something. So some
move between them queued it, and an attempt queues nothing, whether it fails or not. -/
theorem queued_between_completions {moves : List Move} {s : Session}
    {earlier between later : List Record} {first second : Record}
    (h : trail reactor id moves s = earlier ++ first :: (between ++ second :: later))
    (hreal : ∀ r ∈ trail reactor id moves s, r.attempts = true → r.before.real id = true)
    (hspared : ∀ r ∈ trail reactor id moves s, r.attempts = true →
      reactor.Within (.entry id) r.before)
    (hfirst : first.completes = true) (hsecond : second.completes = true) :
    ∃ r ∈ between, (∃ m arguments, r.move = .fluent m arguments) ∧
      r.before.pending id = none ∧ (r.after.pending id).isSome = true := by
  have hmem : first ∈ trail reactor id moves s := by
    rw [h]
    exact List.mem_append_right earlier List.mem_cons_self
  have hlater : ∀ q ∈ between ++ second :: later, q ∈ trail reactor id moves s := by
    intro q hq
    rw [h]
    exact List.mem_append_right earlier (List.mem_cons_of_mem first hq)
  have hmem' : second ∈ trail reactor id moves s :=
    hlater second (List.mem_append_right between List.mem_cons_self)
  have hcompleted : ∀ r ∈ trail reactor id moves s, r.completes = true →
      ∃ b, r.before.builders.get? id = some b ∧ b.descriptor.pending.isSome = true ∧
        r.after.builders.get? id = some b.settled := by
    intro r hr hcompletes
    have hattempts := Record.attempts_of_completes hcompletes
    exact Record.builder_of_completes (record_of_mem_trail hr) hcompletes (hreal r hr hattempts)
      (hspared r hr hattempts)
  -- The first one leaves nothing queued, and the second one finds something.
  have hnone : first.after.pending id = none := by
    obtain ⟨b, -, -, hafter⟩ := hcompleted first hmem hfirst
    rw [Session.pending, hafter]
    rfl
  have hsome : (second.before.pending id).isSome = true := by
    obtain ⟨b, hb, hpending, -⟩ := hcompleted second hmem' hsecond
    rw [Session.pending, hb]
    exact hpending
  have hkeeps : ∀ q ∈ between, q.attempts = true → q.before.pending id = none →
      q.after.pending id = none := by
    intro q hq hattempts hpending
    have hmem : q ∈ trail reactor id moves s := hlater q (List.mem_append_left _ hq)
    exact Record.attempt_pending (record_of_mem_trail hmem) hattempts (hreal q hmem hattempts)
      (hspared q hmem hattempts) hpending
  obtain ⟨rest, hrest⟩ := trail_after h
  obtain ⟨q, hq, hqueues, hpending⟩ := queued_between hrest.symm hkeeps hnone hsome
  refine ⟨q, hq, ?_, hpending⟩
  cases hmove : q.move with
  | fluent m arguments => exact ⟨m, arguments, rfl⟩
  | make => simp [Record.attempts, hmove] at hqueues

/-- An attempt that follows one that failed reaches the executor with the statement with which that
one reached it.

**Proof sketch.** A failed attempt leaves the builders and the configurations as they were, and the
opening statement depends on nothing else. -/
theorem repeats_opening {moves : List Move} {s : Session} {earlier later : List Record}
    {failed repeated : Record}
    (h : trail reactor id moves s = earlier ++ failed :: repeated :: later)
    (hreal : ∀ r ∈ trail reactor id moves s, r.attempts = true → r.before.real id = true)
    (hattempts : failed.attempts = true) (hfails : failed.completes = false)
    (hagain : repeated.attempts = true) (hqueries : reactor.Within .queries failed.before)
    (hreactor : reactor.KeepsExecutors) (hstaffed : failed.before.staffed id = true) :
    Act.Reaches reactor failed.before (Act.make id) (failed.before.opening id) ∧
      Act.Reaches reactor repeated.before (Act.make id) (failed.before.opening id) := by
  have hmem : failed ∈ trail reactor id moves s := by
    rw [h]
    exact List.mem_append_right earlier List.mem_cons_self
  have hmem' : repeated ∈ trail reactor id moves s := by
    rw [h]
    exact List.mem_append_right earlier (List.mem_cons_of_mem failed List.mem_cons_self)
  obtain ⟨rest, hrest⟩ := trail_after h
  have hbefore : repeated.before = failed.after := before_of_trail_eq_cons hrest.symm
  obtain ⟨hopening, hstays⟩ := Record.opening_of_fails (record_of_mem_trail hmem) hattempts hfails
    (hreal failed hmem hattempts) hqueries hreactor hstaffed
  refine ⟨reaches_of_real hreactor (hreal failed hmem hattempts) hstaffed, ?_⟩
  have hreached := reaches_of_real hreactor (hreal repeated hmem' hagain) (hbefore ▸ hstays)
  rwa [hbefore, hopening, ← hbefore] at hreached

end Trail

/-- In every run of fluent calls and attempts to make the write of a builder, with any executors and
outside a simulation, an attempt that fails leaves the builder as it was, and one that is completed
takes nothing but the queued write away. Between two that are completed, a fluent call queued a
write. An attempt that follows one that failed reaches the executor with the statement with which
that one reached it, or fails as that one did before it reached the executor.

Listeners are not to take part: their reactions have to leave the builder alone, and for a statement
to come again all builders and configurations, and the executors in their places.

**Proof sketch.** Writes stay within every frame that bears with them, one of them being that the
builder stays as it is: the predicates that an update-or-insert puts aside are taken back whatever
happens. So the queued write is there until an attempt is completed, and then none is there until a
fluent call queues one. What the opening statement depends on is in another such frame. -/
theorem trail_completes_once_and_repeats (reactor : Reactor) (id : Nat) (moves : List Move)
    (s : Session)
    (hreal : ∀ r ∈ trail reactor id moves s, r.attempts = true → r.before.real id = true)
    (hspared : ∀ r ∈ trail reactor id moves s, r.attempts = true →
      reactor.Within (.entry id) r.before) :
    (∀ r ∈ trail reactor id moves s, r.attempts = true →
      (r.completes = true → ∃ b, r.before.builders.get? id = some b ∧
        b.descriptor.pending.isSome = true ∧ r.after.builders.get? id = some b.settled) ∧
      (r.completes = false → r.after.builders.get? id = r.before.builders.get? id)) ∧
    (∀ (earlier between later : List Record) (first second : Record),
      trail reactor id moves s = earlier ++ first :: (between ++ second :: later) →
      first.completes = true → second.completes = true →
      ∃ r ∈ between, (∃ m arguments, r.move = .fluent m arguments) ∧
        r.before.pending id = none ∧ (r.after.pending id).isSome = true) ∧
    (∀ (earlier later : List Record) (failed repeated : Record),
      trail reactor id moves s = earlier ++ failed :: repeated :: later →
      failed.attempts = true → failed.completes = false → repeated.attempts = true →
      reactor.Within .queries failed.before → reactor.KeepsExecutors →
      failed.before.staffed id = true →
      Act.Reaches reactor failed.before (Act.make id) (failed.before.opening id) ∧
        Act.Reaches reactor repeated.before (Act.make id) (failed.before.opening id)) := by
  refine ⟨fun r hr hattempts => ⟨fun hcompletes => ?_, fun hfails => ?_⟩, ?_, ?_⟩
  · exact Record.builder_of_completes (record_of_mem_trail hr) hcompletes (hreal r hr hattempts)
      (hspared r hr hattempts)
  · exact Record.builder_of_fails (record_of_mem_trail hr) hattempts hfails (hreal r hr hattempts)
      (hspared r hr hattempts)
  · intro earlier between later first second h hfirst hsecond
    exact queued_between_completions h hreal hspared hfirst hsecond
  · intro earlier later failed repeated h hattempts hfails hagain hqueries hreactor hstaffed
    exact repeats_opening h hreal hattempts hfails hagain hqueries hreactor hstaffed

/-- A fluent call queues an update-or-insert for a builder with a predicate of its own, and it is
attempted three times. -/
def insistence : List Move :=
  [.fluent .where_ [("column", .value (.text "a")), ("operator", .value (.text "=")),
      ("value", .value (.int 1))],
    .fluent .updateOrInsert [("attributes", .value (.map [(.text "b", .int 2)])),
      ("values", .value (.map [(.text "c", .int 3)]))],
    .make, .make, .make]

/-- A session whose executor fails once before it gives its standard answers. -/
def faltering : Session :=
  { Session.serving (.new "t" {}) with
    executors := .single "db" {
      name := "db", dialect := none, awaited := false
      source := .plain [] (.list []) [] [.failure "down"] } }

/-- Of the attempts of `insistence` the first fails, the second opens with the same UPDATE and
is completed, and the third finds nothing queued. -/
theorem trail_completes_once_and_repeats_insistence :
    (trail .still 0 insistence faltering).map Record.completes =
      [false, false, false, true, false] ∧
    (∀ r ∈ trail .still 0 insistence faltering, r.attempts = true → r.completes = false →
      r.after.builders.get? 0 = r.before.builders.get? 0) ∧
    ∃ (earlier later : List Record) (failed repeated : Record),
      trail .still 0 insistence faltering = earlier ++ failed :: repeated :: later ∧
      failed.completes = false ∧ repeated.completes = true ∧
      (failed.before.opening 0).toOption.map Statement.sql =
        some "UPDATE t SET c = ? WHERE b = ?" ∧
      Act.Reaches .still failed.before (Act.make 0) (failed.before.opening 0) ∧
      Act.Reaches .still repeated.before (Act.make 0) (failed.before.opening 0) := by
  obtain ⟨hattempts, -, hrepeats⟩ := trail_completes_once_and_repeats .still 0 insistence faltering
    (by decide +kernel) fun r _ _ => Reactor.still_within _ r.before
  refine ⟨by decide +kernel, fun r hr ha => (hattempts r hr ha).2, ?_⟩
  refine ⟨[_, _], [_], _, _, rfl, by decide +kernel, by decide +kernel, by decide +kernel, ?_⟩
  exact hrepeats [_, _] [_] _ _ rfl rfl (by decide +kernel) rfl (Reactor.still_within _ _)
    (fun _ _ _ h => h) (by decide +kernel)

end FluentSql
