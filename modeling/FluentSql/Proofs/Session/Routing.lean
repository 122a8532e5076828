import FluentSql.Proofs.Session.Blocking
import FluentSql.Proofs.Session.Fluent
import FluentSql.Proofs.Session.Keeping
import FluentSql.Proofs.Session.Opening

set_option autoImplicit false

/-!
# The executor that a statement goes to

Which executor serves a builder is told from the configurations, from where the builder belongs, and
from the databases that its query asks for. Only one chainable call is about these. Reading all rows
of a builder and making its write look for that executor first; whatever they hand over afterwards
goes to it.

What listeners hand to executors meanwhile is not counted here: their reactions are run muted.

## Main definitions

* `FluentSql.Frame.routing` — executors stay as they are, and what tells which of them serves a
  builder.
* `FluentSql.Session.reading` — the statement that reads the rows of a builder.
* `FluentSql.Reactor.KeepsNames` — reactions leave every executor its name.
* `FluentSql.Act.Dispatches` — an act hands a statement to an executor, and to no other.

## Main results

* `FluentSql.Act.keeps_chain_routing` — a call that does not ask for databases routes nothing.
* `FluentSql.Act.dispatches_all`, `FluentSql.Act.dispatches_make` — reading and writing.
-/

namespace FluentSql

/-! ## Routing -/

/-- What tells which executor serves a builder: where it belongs, and the databases that its query
asks for. -/
def Builder.route (b : Builder) : Options × Option (List Value) := (b.options, b.descriptor.banks)

/-- The frame within which executors and dialects stay as they are, and what tells which executor
serves a builder. -/
def Frame.routing : Frame where
  rel s t := (holding Builder.route).rel s t ∧ t.executors = s.executors ∧ t.dialects = s.dialects
  refl s := ⟨(holding _).refl s, rfl, rfl⟩
  trans := by
    rintro s t u ⟨hst, hexecutors, hdialects⟩ ⟨htu, hexecutors', hdialects'⟩
    exact ⟨(holding _).trans hst htu, hexecutors'.trans hexecutors, hdialects'.trans hdialects⟩

/-- What is noted in logs, and copies of builders, route nothing. -/
theorem Frame.overlooks_routing : routing.Overlooks where
  noted s id change hchange := by
    refine ⟨Act.rel_holding_changed s id fun b => ?_, rfl, rfl⟩
    obtain ⟨log, depth, hb⟩ := hchange b
    rw [hb]
    rfl
  copied s ids := ⟨Act.rel_holding_copyBuilders s ids, rfl, rfl⟩

namespace Act

variable {reactor : Reactor}

/-- A call that does not ask for databases, whether it fails or not, routes nothing. -/
theorem keeps_chain_routing (hinvokes : reactor.Invokes Frame.routing) (id : Nat) {m : Method}
    (hm : m ≠ .bank) (args : Arguments) : Keeps Frame.routing reactor (chain id m args) := by
  refine keeps_chain_of ⟨Frame.overlooks_routing, hinvokes⟩
    fun meant given hmeant s b query hb _ => ⟨rel_holding_replaced hb ?_, rfl, rfl⟩
  have hlong : meant ≠ .bank := by
    rw [Method.eq_longForm_of_expand hmeant]
    cases m <;> first | exact absurd rfl hm | nofun
  exact Prod.ext (congrArg (·.2.1) (meant.holds_perform (s.context b query) given b))
    (Method.banks_perform (s.context b query) given hlong b)

end Act

/-- Calls that do not ask for databases route nothing. -/
theorem Session.routing_chained {reactor : Reactor} (hinvokes : reactor.Invokes Frame.routing)
    {calls : List (Nat × Method × Arguments)} (hcalls : ∀ c ∈ calls, c.2.1 ≠ .bank) (s : Session) :
    Frame.routing.rel s (s.chained reactor calls) := by
  induction calls generalizing s with
  | nil => exact Frame.routing.refl s
  | cons c calls ih =>
    obtain ⟨hc, hrest⟩ := List.forall_mem_cons.mp hcalls
    exact Frame.routing.trans (Act.keeps_chain_routing hinvokes c.1 hc c.2.2 s) (ih hrest _)

/-! ## Handing statements to one executor -/

/-- Reactions leave every executor where it is, under its name. -/
def Reactor.KeepsNames (reactor : Reactor) : Prop :=
  ∀ (steps : List Step) (s : Session) (executor : Nat) (e : Executor Value),
    s.executors.get? executor = some e →
      ∃ e', (reactor.react steps s).2.executors.get? executor = some e' ∧ e'.name = e.name

/-- Reactions that leave executors their names take none away. -/
theorem Reactor.KeepsNames.keepsExecutors {reactor : Reactor} (h : reactor.KeepsNames) :
    reactor.KeepsExecutors := by
  intro steps s executor he
  obtain ⟨e, he⟩ := Option.isSome_iff_exists.mp he
  obtain ⟨e', he', -⟩ := h steps s executor e he
  exact Option.isSome_iff_exists.mpr ⟨e', he'⟩

namespace Frame

/-- The frame within which an executor keeps its name, and is the only one that runs statements. -/
def through (executor : Nat) (name : String) : Frame where
  rel s t := (s.executors.get? executor).map (·.name) = some name →
    (t.executors.get? executor).map (·.name) = some name ∧ (hands (Happening.RunBy name)).rel s t
  refl s hs := ⟨hs, (hands _).refl s⟩
  trans := by
    intro s t u hst htu hs
    obtain ⟨ht, hst⟩ := hst hs
    obtain ⟨hu, htu⟩ := htu ht
    exact ⟨hu, (hands _).trans hst htu⟩

variable {executor : Nat} {name : String} {reactor : Reactor}

/-- What is neither about executors nor about statements that they run. -/
theorem through_of_eq {s t : Session} (hexecutors : t.executors = s.executors)
    (hcalls : t.trace.calls = s.trace.calls) : (through executor name).rel s t :=
  fun hs => ⟨by rw [hexecutors, hs], hands_of_eq hcalls⟩

/-- Muted listeners run no statements. -/
theorem through_heard (h : reactor.KeepsNames) : (through executor name).Heard reactor.muted where
  heard _ _ := through_of_eq rfl rfl
  warned _ _ := through_of_eq rfl rfl
  react s listener hs := by
    obtain ⟨e, he, hname⟩ := Option.map_eq_some_iff.mp hs
    obtain ⟨e', he', hname'⟩ := h (s.listener listener).reaction s executor e he
    refine ⟨Option.map_eq_some_iff.mpr ⟨e', he', hname'.trans hname⟩, ?_⟩
    exact hands_heard.react s listener

/-- Predicates are no matter for executors. -/
theorem restores_through (id : Nat) : (through executor name).Restores id where
  restored _ _ h := h

end Frame

namespace Act

variable {executor : Nat} {name : String} {reactor : Reactor}

/-- An executor that ends a statement keeps its name. -/
theorem finishes_through (statement : Statement) :
    Finishes (Frame.through executor name) reactor statement where
  ends h hh _ hs := by
    refine ⟨hs, [h], rfl, ?_⟩
    cases h <;> simp [Happening.runs, Happening.RunBy] at hh ⊢
  setSource id source s hs := by
    refine ⟨?_, Frame.hands_of_eq rfl⟩
    obtain ⟨e, he, hname⟩ := Option.map_eq_some_iff.mp hs
    by_cases hid : id = executor
    · subst hid
      exact Option.map_eq_some_iff.mpr ⟨{ e with source },
        (Directory.get?_modify _ _ _).trans (by rw [he]; rfl), hname⟩
    · exact Option.map_eq_some_iff.mpr
        ⟨e, (Directory.get?_modify_of_ne _ hid _).trans he, hname⟩
  copied _ v := keeps_copy (fun _ _ => Frame.through_of_eq rfl rfl) v

/-- Running a statement on an executor runs it on no other. -/
theorem keeps_execute_through (method : ExecutorMethod) (statement : Statement) :
    Keeps (Frame.through executor name) reactor (execute executor method statement) := by
  intro s hs
  obtain ⟨e, he, rfl⟩ := Option.map_eq_some_iff.mp hs
  obtain ⟨h, rest, -, hby, hrun, hrest⟩ := run_execute reactor he method statement
  let t : Session := { s with trace := { s.trace with calls := s.trace.calls ++ [h] } }
  have hst : (Frame.through executor e.name).rel s t := fun hs => ⟨hs, [h], rfl, by simpa using hby⟩
  rw [hrun]
  exact Frame.trans _ hst (hrest _ (finishes_through statement) t) hs

/-- An act does with an executor of a name what is given: if it is an error, the act fails with it
and hands nothing over; if it is a statement, the act hands it over first. It hands nothing to any
other executor. -/
structure Dispatches {α : Type} (reactor : Reactor) (s : Session) (name : String) (a : Act α)
    (given : Except Error Statement) : Prop where
  fails : ∀ e, given = .error e → (a.run reactor.muted s).1 = .error e ∧
    (a.run reactor.muted s).2.trace.calls = s.trace.calls
  hands : ∀ statement, given = .ok statement → s.HandsOver statement (a.run reactor.muted s).2
  through : (Frame.hands (Happening.RunBy name)).rel s (a.run reactor.muted s).2

/-- What reaches an executor, and runs nothing on another one. -/
theorem Reaches.dispatches {α : Type} {s : Session} {a : Act α} {given : Except Error Statement}
    (h : Reaches reactor s a given)
    (hnamed : (s.executors.get? executor).map (·.name) = some name)
    (hthrough : (Frame.through executor name).rel s (a.run reactor.muted s).2) :
    Dispatches reactor s name a given where
  fails e he := by
    rw [h.1 e he]
    exact ⟨rfl, rfl⟩
  hands := h.2
  through := (hthrough hnamed).2

end Act

/-! ## Reading all rows -/

/-- The statement that reads the rows of a builder from the executor that serves it. -/
def Session.reading (s : Session) (id : Nat) : Except Error Statement :=
  match s.builders.get? id with
  | none => .error .missingKey
  | some b => do
    let _ ← s.servant b
    (s.currentQuery b.descriptor).select

namespace Act

variable {reactor : Reactor} {s : Session} {id : Nat} {b : Builder}

/-- A note in the log of a builder leaves what can be looked at, and what builders ask. -/
theorem run_note_visible (hb : s.builders.get? id = some b) (step : String) (details : Value) :
    ∃ t c, (note id step details).run reactor s = (.ok (), t) ∧
      t = { s with builders := t.builders } ∧ t.visible = s.visible ∧
      t.builders.get? id = some c ∧ c.inquiry = b.inquiry := by
  obtain ⟨new, hnote⟩ := exists_run_note reactor hb step details
  exact ⟨_, _, hnote, rfl, Session.visible_modify fun _ => rfl, Session.get?_changed hb _, rfl⟩

/-- Outside a simulation all rows of a builder are read from its executor, once that is noted. -/
theorem run_all_real (reactor : Reactor) (hb : s.builders.get? id = some b)
    (hreal : s.simulating b.options.simulation = false) :
    ∃ t c, (all id).run reactor s = (fetch c).run reactor t ∧
      t = { s with builders := t.builders } ∧ t.visible = s.visible ∧ c.inquiry = b.inquiry := by
  obtain ⟨t, c, hnote, ht, hvisible, hc, hinquiry⟩ := run_note_visible hb "all" (.map [])
  refine ⟨t, c, ?_, ht, hvisible, hinquiry⟩
  have hoptions : c.options = b.options := congrArg Prod.snd hinquiry
  have hreal : t.simulating c.options.simulation = false := by
    rw [ht, hoptions]
    exact hreal
  have hremember : (remember id).run reactor t = (.ok (), t) := by
    rw [remember, run_builder_bind _ _ hc, run_get_bind, hreal]
    rfl
  rw [all, run_bind_of_ok _ _ hnote, run_bind_of_ok _ _ hremember, run_builder_bind _ _ hc, rows,
    run_get_bind, hreal]
  rfl

/-- Reading the rows of a builder reaches the executor that serves it. -/
theorem reaches_fetch (hreactor : reactor.KeepsExecutors)
    (he : ∀ executor, s.servant b = .ok executor → (s.executors.get? executor).isSome = true) :
    Reaches reactor s (fetch b) (do
      let _ ← s.servant b
      (s.currentQuery b.descriptor).select) :=
  reaches_bind_of_run (run_executorOf s b) fun executor hexecutor =>
    reaches_fetchBy hreactor (he executor hexecutor) .query

section Dispatches

variable {executor : Nat} {e : Executor Value}

/-- Outside a simulation reading all rows of a builder hands the statement that reads them to the
executor that serves the builder.

**Proof sketch.** Noting the call changes nothing that the statement is compiled from. What is
fetched then reaches the executor of the builder, and whatever is done on the way is done through
that one. -/
theorem dispatches_all (hreactor : reactor.KeepsNames) (hb : s.builders.get? id = some b)
    (hreal : s.simulating b.options.simulation = false) (hservant : s.servant b = .ok executor)
    (he : s.executors.get? executor = some e) :
    Dispatches reactor s e.name (all id) (s.reading id) := by
  obtain ⟨t, c, hrun, ht, hvisible, hinquiry⟩ := run_all_real reactor.muted hb hreal
  obtain ⟨hdescriptor, hoptions⟩ := Prod.mk.inj hinquiry
  have hservant' : t.servant c = .ok executor := by
    rw [ht, ← hservant]
    simp only [Session.servant, Builder.table, hdescriptor, hoptions]
    rfl
  have hexecutors : t.executors = s.executors := by rw [ht]
  have hcalls : t.trace.calls = s.trace.calls := by rw [ht]
  have hreading : (t.currentQuery c.descriptor).select = s.reading id := by
    have hlinked : t.linked = s.linked := by rw [ht]
    rw [hdescriptor, Session.currentQuery_congr hvisible hlinked, Session.reading, hb]
    simp only [hservant]
    rfl
  have hreaches : Reaches reactor t (fetch c) (s.reading id) := by
    have h := reaches_fetch (b := c) (s := t) hreactor.keepsExecutors fun other hother => by
      rw [hservant'] at hother
      cases hother
      simp [hexecutors, he]
    rw [hservant', hreading] at h
    exact h
  have hthrough : (Frame.through executor e.name).rel t ((fetch c).run reactor.muted t).2 := by
    rw [fetch, run_bind_of_ok _ _ ((run_executorOf t c).trans (by rw [hservant']))]
    have hheard : (Frame.through executor e.name).Heard reactor.muted :=
      Frame.through_heard hreactor
    have htrigger := fun manager event extra => keeps_trigger hheard manager event extra
    refine keeps_bind keeps_get (fun u => keeps_bind (keeps_of _) fun statement => ?_) t
    refine keeps_bind (htrigger _ _ _) fun _ => ?_
    refine keeps_bind (keeps_execute_through _ _) fun result => ?_
    exact keeps_bind (keeps_of _) fun rows => keeps_bind (htrigger _ _ _) fun _ => keeps_pure _
  have hnamed : (t.executors.get? executor).map (·.name) = some e.name := by simp [hexecutors, he]
  obtain ⟨hfails, hhands, hthrough⟩ := hreaches.dispatches hnamed hthrough
  refine ⟨fun e' he' => ?_, fun statement hs => ?_, ?_⟩
  · rw [hrun, ← hcalls]
    exact hfails e' he'
  · rw [hrun]
    exact (hhands statement hs).before hcalls
  · rw [hrun]
    exact Frame.trans _ (Frame.hands_of_eq hcalls) hthrough

/-- Outside a simulation making the write of a builder hands its opening statement to the executor
that serves the builder.

**Proof sketch.** That the statement is handed over is `reaches_make`. That it is handed to this
executor is a matter of frames: all statements of the write are run through the one that was found
for it. -/
theorem dispatches_make (hreactor : reactor.KeepsNames) (hb : s.builders.get? id = some b)
    (hreal : s.simulating b.options.simulation = false) (hservant : s.servant b = .ok executor)
    (he : s.executors.get? executor = some e) :
    Dispatches reactor s e.name (make id) (s.opening id) := by
  have hreaches : Reaches reactor s (make id) (s.opening id) := by
    refine reaches_make hreactor.keepsExecutors hb hreal fun other hother => ?_
    rw [hservant] at hother
    cases hother
    simp [he]
  have hnamed : (s.executors.get? executor).map (·.name) = some e.name := by simp [he]
  refine hreaches.dispatches hnamed ?_
  rw [run_make_real hb hreal, hservant]
  cases b.descriptor.checkedAction with
  | error e => exact Frame.refl _ s
  | ok checked =>
    have hrun : (Frame.through executor e.name).rel s
        ((runWrite id executor checked.1 (s.current checked.2)).run reactor.muted s).2 :=
      keeps_runWrite_of (Frame.restores_through id) (Frame.through_heard hreactor)
        (fun method statement _ => keeps_execute_through method statement) _ _ s
    dsimp only
    rcases hr : (runWrite id executor checked.1 (s.current checked.2)).run reactor.muted s with
      ⟨_ | result, t⟩ <;> rw [hr] at hrun
    · exact hrun
    · exact Frame.trans _ hrun (Frame.through_of_eq rfl rfl)

end Dispatches

end Act

end FluentSql
