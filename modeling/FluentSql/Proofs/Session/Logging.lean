import FluentSql.Proofs.Session.Growing
import Mathlib.Data.List.Nodup

set_option autoImplicit false

/-!
# What is noted of fluent calls

A builder that is recording notes each call that is made on it while no other is under way, whether
the call fails or not, and it notes none that is made in the course of another. How many calls are
under way it tells by its depth, which is as it was after each of them.

## Main definitions

* `FluentSql.FittingCall` — a call with arguments for it; `NotedAs` says which entries note it.
* `FluentSql.Event` — a call on a builder, or what happens between calls.
* `FluentSql.Event.afterAll` — the session after events.
* `FluentSql.Event.Noted` — what a builder notes of events.

## Main results

* `FluentSql.Making.Nested.within_builder` — calls within a call find their builder deep in calls.
* `FluentSql.FittingCall.notedAs_details` — the entry that is made of a call notes it.
* `FluentSql.Event.log_afterAll` — one entry for each call that is made while recording.
-/

namespace FluentSql

/-! ## Calls within a call -/

namespace Making

variable {k l : Making} {depth id : Nat} {b : Builder} {s : Session} {calls : List Call}

/-- The calls of a function find their builder as deep in calls as the function did. -/
theorem Among.within_builder {condition : Value} (h : Among depth id condition calls s k)
    (hfluent : fluentCalls calls = true) (hs : s.Fluent) (hb : s.builders.get? id = some b) :
    k.id = id ∧ k.session.Fluent ∧
      ∃ c, k.session.builders.get? id = some c ∧ c.depth = b.depth := by
  induction h generalizing b with
  | @first m arguments calls s t args hargs =>
    obtain ⟨hcall, -⟩ := Bool.and_eq_true_iff.mp hfluent
    obtain ⟨ht, hleft⟩ := Act.get?_of_run_evalEntries hcall hs hargs
    exact ⟨rfl, ht, b, hleft id b hb, rfl⟩
  | @later call calls s t k hrun h ih =>
    obtain ⟨hcall, hcalls⟩ := Bool.and_eq_true_iff.mp hfluent
    have hkeeps := Act.keeps_callPerform_around (Act.keeps_chain_around depth) condition id call
      hcall
    obtain ⟨ht, hall⟩ := hkeeps.rel hrun hs
    obtain ⟨c, hc, hgrows, -⟩ := hall id b hb
    obtain ⟨hid, hk, d, hd, hdepth⟩ := ih hcalls ht hc
    exact ⟨hid, hk, d, hd, hdepth.trans hgrows.depth⟩

/-- A call that is made in the course of another finds the builder of that one deep in calls.

**Proof sketch.** By induction on how it is made. A call goes one level deeper before its function
is invoked, and whatever is done there leaves the depth of the builder as it is. -/
theorem Nested.within_builder (h : Nested k l) (hs : l.session.Fluent)
    (hb : l.session.builders.get? l.id = some b) :
    k.id = l.id ∧ k.session.Fluent ∧
      ∃ c, k.session.builders.get? l.id = some c ∧ 0 < c.depth := by
  induction h generalizing b with
  | @made depth id s b' m args condition mark k hb' hfit hhands hamong =>
    have hentered : (s.entered id b' m args).builders.get? id = some _ :=
      Session.get?_changed hb' _
    obtain ⟨hid, hk, c, hc, hdepth⟩ := hamong.within_builder (hs.getD mark)
      (show (s.entered id b' m args).Fluent from hs) hentered
    exact ⟨hid, hk, c, hc, hdepth ▸ Nat.succ_pos _⟩
  | @within k l m h h' ih ih' =>
    obtain ⟨hid', hl, c, hc, -⟩ := ih' hs hb
    rw [← hid'] at hc
    obtain ⟨hid, hk, d, hd, hdepth⟩ := ih hl hc
    exact ⟨hid.trans hid', hk, d, hid' ▸ hd, hdepth⟩

end Making

/-! ## What calls are handed -/

namespace Arguments

variable {args : Arguments} {parameters : List String}

/-- An argument is found under its name if no name is given twice. -/
theorem get?_eq_some_iff (h : (args.map Prod.fst).Nodup) (name : String) (v : Value) :
    args.get? name = some v ↔ (name, v) ∈ args := by
  induction args with
  | nil => exact ⟨nofun, nofun⟩
  | cons a rest ih =>
    obtain ⟨other, w⟩ := a
    obtain ⟨hnew, hrest⟩ := List.nodup_cons.mp h
    by_cases hname : other = name
    · subst hname
      have hnone : (other, v) ∉ rest := fun hmem =>
        hnew (List.mem_map.mpr ⟨_, hmem, rfl⟩)
      simp [get?, hnone, eq_comm]
    · have hfound : get? ((other, w) :: rest) name = get? rest name := by simp [get?, hname]
      rw [hfound, ih hrest, List.mem_cons]
      exact ⟨.inr, fun hmem => hmem.resolve_left fun heq => hname (Prod.mk.inj heq).1.symm⟩

/-- The arguments in the order of the parameters. -/
def inOrder (args : Arguments) (parameters : List String) : Arguments :=
  parameters.filterMap fun name => (args.get? name).map fun v => (name, v)

/-- The names of arguments in the order of the parameters are some of the parameters. -/
theorem sublist_inOrder (args : Arguments) (parameters : List String) :
    ((args.inOrder parameters).map Prod.fst).Sublist parameters := by
  have hnames : (args.inOrder parameters).map Prod.fst =
      parameters.filter fun name => (args.get? name).isSome := by
    rw [inOrder, List.map_filterMap, ← List.filterMap_eq_filter]
    congr 1
    funext name
    cases hfound : args.get? name <;> simp [Option.guard, hfound]
  rw [hnames]
  exact List.filter_sublist

/-- Putting arguments in the order of the parameters loses none that belongs to a parameter. -/
theorem perm_inOrder (h : (args.map Prod.fst).Nodup) (hparameters : parameters.Nodup)
    (hfit : ∀ a ∈ args, a.1 ∈ parameters) : (args.inOrder parameters).Perm args := by
  have hnodup : (args.inOrder parameters).Nodup :=
    .of_map _ (hparameters.sublist (args.sublist_inOrder parameters))
  refine (List.perm_ext_iff_of_nodup hnodup (.of_map _ h)).mpr fun a => ?_
  rw [inOrder, List.mem_filterMap, ← get?_eq_some_iff h]
  constructor
  · rintro ⟨name, -, hname⟩
    obtain ⟨v, hv, rfl⟩ := Option.map_eq_some_iff.mp hname
    exact hv
  · intro ha
    exact ⟨a.1, hfit a ((get?_eq_some_iff h a.1 a.2).mp ha), by rw [ha]; rfl⟩

end Arguments

/-! ## Calls one after the other -/

/-- A fluent call with arguments that it accepts, each given once. It may be a short form, which is
no more than a way to write another call: that one is entered, and handed what the short form makes
of its arguments. -/
structure FittingCall where
  method : Method
  args : Arguments
  entered : Method
  handed : Arguments
  meant : method.expand args = .ok (entered, handed)
  fits : method.accepts args = true
  distinct : (args.map Prod.fst).Nodup

/-- An entry notes a call: it names the method that is entered, and holds what that is handed and no
more, each argument under the name of its parameter and in the order of the parameters. -/
def FittingCall.NotedAs (call : FittingCall) (entry : LogEntry) : Prop :=
  entry.step = call.entered.name ∧ ∃ given : Arguments, given.Perm call.handed ∧
    (given.map Prod.fst).Sublist call.entered.parameters ∧
    entry.details = .map (given.map fun a => (.text a.1, a.2))

/-- The parameters of a call have different names. -/
theorem Method.nodup_parameters (m : Method) : m.parameters.Nodup := by
  cases m <;> decide

/-- A short form hands over arguments of its own, under names of parameters of the method meant and
in their order; any other call hands over its arguments as they are. -/
theorem Method.names_expand {m meant : Method} {args given : Arguments}
    (h : m.expand args = .ok (meant, given)) :
    (meant = m ∧ given = args) ∨ (given.map Prod.fst).Sublist meant.parameters := by
  cases m
  case selectSum | selectAvg | selectMin | selectMax =>
    obtain ⟨_, -, h⟩ := map_eq_ok.mp h
    cases h
    exact .inr (show ["expression", "alias"].Sublist _ by decide)
  case selectCount =>
    cases h
    exact .inr (show ["expression", "alias"].Sublist _ by decide)
  case selectCaseSum =>
    simp only [expand, bind_eq_ok, pure_eq_ok, Except.ok.injEq] at h
    obtain ⟨_, -, _, -, h⟩ := h
    cases h
    exact .inr (show ["expression", "alias"].Sublist _ by decide)
  case orWhereIn | orWhereNotIn =>
    simp only [expand, bind_eq_ok, pure_eq_ok, Except.ok.injEq] at h
    obtain ⟨_, -, _, -, h⟩ := h
    cases h
    exact .inr (show ["column", "values", "logical"].Sublist _ by decide)
  case whereSearch =>
    simp only [expand, bind_eq_ok, pure_eq_ok, Except.ok.injEq] at h
    obtain ⟨_, -, _, -, h⟩ := h
    cases h
    exact .inr (show ["term", "columns"].Sublist _ by decide)
  case groupByOne =>
    simp only [expand, bind_eq_ok, pure_eq_ok, Except.ok.injEq] at h
    obtain ⟨_, -, h⟩ := h
    cases h
    exact .inr (show ["columns"].Sublist _ by decide)
  all_goals
    cases h
    exact .inl ⟨rfl, rfl⟩

/-- What is handed to the method that is entered belongs to it, and is given once. -/
theorem FittingCall.handed_fits (call : FittingCall) :
    (call.handed.map Prod.fst).Nodup ∧ ∀ a ∈ call.handed, a.1 ∈ call.entered.parameters := by
  obtain ⟨m, args, entered, handed, hmeant, hfits, hdistinct⟩ := call
  rcases Method.names_expand hmeant with ⟨rfl, rfl⟩ | hnames
  · have hfit := List.all_eq_true.mp (Bool.and_eq_true_iff.mp hfits).1
    exact ⟨hdistinct, fun a ha => by simpa using hfit a ha⟩
  · exact ⟨entered.nodup_parameters.sublist hnames,
      fun a ha => hnames.subset (List.mem_map_of_mem ha)⟩

/-- The details that are recorded of a call note it: they are the arguments that it was handed, by
the names of their parameters, in the order of these.

**Proof sketch.** No name stands twice among the arguments or among the parameters, and every
argument belongs to a parameter. So going through the parameters meets every argument once. -/
theorem FittingCall.notedAs_details (call : FittingCall) :
    call.NotedAs { step := call.entered.name
                   details := call.handed.details call.entered.parameters } := by
  obtain ⟨hnodup, hfit⟩ := call.handed_fits
  refine ⟨rfl, call.handed.inOrder call.entered.parameters,
    Arguments.perm_inOrder hnodup call.entered.nodup_parameters hfit,
    call.handed.sublist_inOrder _, ?_⟩
  rw [Arguments.details, Arguments.inOrder, List.map_filterMap]
  simp only [Option.map_map, Function.comp_def]

/-- What may happen between calls on a builder: anything that leaves its log and its depth, and has
functions make none but fluent calls. Recording may begin or end. -/
structure Interlude (id : Nat) where
  change : Session → Session
  fluent : ∀ s : Session, s.Fluent → (change s).Fluent
  leaves : ∀ (s : Session) (b : Builder), s.builders.get? id = some b →
    ∃ c, (change s).builders.get? id = some c ∧ c.log = b.log ∧ c.depth = b.depth

/-- Tracking begins or ends. -/
def Interlude.track (id : Nat) (on : Bool) : Interlude id where
  change s := s.changed id fun b => { b with tracking := on }
  fluent _ hs := hs
  leaves _ _ hb := ⟨_, Session.get?_changed hb _, rfl, rfl⟩

/-- The shared simulation begins to run. -/
def Interlude.simulate (id : Nat) : Interlude id where
  change s := { s with
    simulations := s.simulations.modify 0 fun simulation => { simulation with active := true } }
  fluent _ hs := hs
  leaves _ b hb := ⟨b, hb, rfl, rfl⟩

/-- A call on a builder, or what happens between calls. -/
inductive Event (id : Nat) where
  | made (call : FittingCall)
  | between (interlude : Interlude id)

namespace Event

variable {id : Nat}

/-- The session after an event, whether it is a call that fails or not. -/
def after (depth : Nat) : Event id → Session → Session
  | .made call, s => ((Act.chain id call.method call.args).run (Session.reactor depth) s).2
  | .between interlude, s => interlude.change s

/-- The session after some events. -/
def afterAll (depth : Nat) : List (Event id) → Session → Session
  | [], s => s
  | event :: events, s => afterAll depth events (event.after depth s)

/-- What a builder notes of some events, in their order: one entry for each call that is made while
it is tracked or its simulation is running, and nothing for any other. -/
inductive Noted (depth : Nat) : List (Event id) → Session → List LogEntry → Prop where
  | nothing (s : Session) : Noted depth [] s []
  | recorded {call : FittingCall} {events : List (Event id)} {s : Session} {b : Builder}
      {entry : LogEntry} {entries : List LogEntry} (hb : s.builders.get? id = some b)
      (hrecords : b.tracking = true ∨ s.simulating b.options.simulation = true)
      (hentry : call.NotedAs entry)
      (rest : Noted depth events ((Event.made call : Event id).after depth s) entries) :
      Noted depth (.made call :: events) s (entry :: entries)
  | unrecorded {call : FittingCall} {events : List (Event id)} {s : Session} {b : Builder}
      {entries : List LogEntry} (hb : s.builders.get? id = some b)
      (htracking : b.tracking = false)
      (hsimulating : s.simulating b.options.simulation = false)
      (rest : Noted depth events ((Event.made call : Event id).after depth s) entries) :
      Noted depth (.made call :: events) s entries
  | between {interlude : Interlude id} {events : List (Event id)} {s : Session}
      {entries : List LogEntry} (rest : Noted depth events (interlude.change s) entries) :
      Noted depth (.between interlude :: events) s entries

variable {s : Session} {b : Builder}

/-- After an event the builder has come up again; and its log has grown by an entry for the event,
if that is a call and the builder is recording. -/
theorem log_after (depth : Nat) (event : Event id) (hs : s.Fluent)
    (hb : s.builders.get? id = some b) (hdepth : b.depth = 0) :
    (event.after depth s).Fluent ∧ ∃ c, (event.after depth s).builders.get? id = some c ∧
      c.depth = 0 ∧ ∃ noted, c.log = b.log ++ noted ∧
        ∀ events entries, Noted depth events (event.after depth s) entries →
          Noted depth (event :: events) s (noted ++ entries) := by
  cases event with
  | made call =>
    obtain ⟨hrel, hlog⟩ := Act.rel_chain_around (Act.hosts_reactor_around depth id) hb call.method
      call.args
    obtain ⟨ht, hall⟩ := hrel hs
    obtain ⟨c, hc, hgrows, -⟩ := hall id b hb
    obtain ⟨c', hc', hlog⟩ := hlog hs
    obtain rfl : c = c' := Option.some.inj (hc.symm.trans hc')
    refine ⟨ht, c, hc, hgrows.depth.trans hdepth, _, hlog, fun events entries rest => ?_⟩
    rw [Session.noted, call.meant]
    dsimp only
    rw [if_pos call.fits, Session.recorded, hdepth, Session.recording]
    cases htracking : b.tracking with
    | true => exact .recorded hb (.inl htracking) call.notedAs_details rest
    | false =>
      cases hsimulating : s.simulating b.options.simulation with
      | true => exact .recorded hb (.inr hsimulating) call.notedAs_details rest
      | false => exact .unrecorded hb htracking hsimulating rest
  | between interlude =>
    obtain ⟨c, hc, hlog, hdepth'⟩ := interlude.leaves s b hb
    exact ⟨interlude.fluent s hs, c, hc, hdepth'.trans hdepth, [],
      hlog.trans (List.append_nil _).symm, fun _ _ rest => .between rest⟩

/-- What is to be noted of some events is noted, and the builder comes up again after each. -/
theorem fluent_afterAll (depth : Nat) (events : List (Event id)) (hs : s.Fluent)
    (hb : s.builders.get? id = some b) (hdepth : b.depth = 0) :
    (afterAll depth events s).Fluent ∧ ∃ c, (afterAll depth events s).builders.get? id = some c ∧
      c.depth = 0 ∧ ∃ entries, c.log = b.log ++ entries ∧ Noted depth events s entries := by
  induction events generalizing s b with
  | nil => exact ⟨hs, b, hb, hdepth, [], (List.append_nil _).symm, .nothing s⟩
  | cons event events ih =>
    obtain ⟨ht, c, hc, hup, noted, hlog, hnoted⟩ := event.log_after depth hs hb hdepth
    obtain ⟨hu, d, hd, hup', entries, hlog', hentries⟩ := ih ht hc hup
    refine ⟨hu, d, hd, hup', noted ++ entries, ?_, hnoted events entries hentries⟩
    rw [hlog', hlog, List.append_assoc]

/-- Fluent calls are made on a builder on which none is under way, one after the other, whether they
fail or not; in between, recording may begin or end. However deep functions are nested that the
builder is handed to, its log grows by one entry for each call that is made while it is tracked or
its simulation is running, and by none for any other; the entries come in the order of the calls,
and name the method that was entered and hold the arguments that it was handed. No call is under way
on the builder after that; and if any call is made next, the calls that are made in the course of it
add nothing to the log.

**Proof sketch.** A call notes what it does before it is carried out, one level deeper than the
builder was, and the builder comes up again in any case. So one call adds its own entry alone: those
in the course of it find the builder deep in calls. The rest is an induction on the events. -/
theorem log_afterAll (depth id : Nat) (s : Session) (b : Builder) (events : List (Event id))
    (hs : s.Fluent) (hb : s.builders.get? id = some b) (hdepth : b.depth = 0) :
    ∃ c, (afterAll depth events s).builders.get? id = some c ∧ c.depth = 0 ∧
      (∃ entries, c.log = b.log ++ entries ∧ Noted depth events s entries) ∧
      ∀ (call : FittingCall) (k : Making),
        k.Nested ⟨depth, afterAll depth events s, id, call.method, call.args⟩ →
          k.id = id ∧ ∃ d e, k.session.builders.get? id = some d ∧
            k.run.2.builders.get? id = some e ∧ e.log = d.log ∧ e.depth = d.depth := by
  obtain ⟨ht, c, hc, hup, hlog⟩ := fluent_afterAll depth events hs hb hdepth
  refine ⟨c, hc, hup, hlog, fun call k hnested => ?_⟩
  obtain ⟨hid, hk, d, hd, hpos⟩ := hnested.within_builder ht hc
  obtain ⟨-, hall⟩ := Act.keeps_chain_around k.depth k.id k.method k.args k.session hk
  obtain ⟨e, he, hgrows, -⟩ := hall id d hd
  exact ⟨hid, d, e, hd, he, hgrows.log hpos, hgrows.depth⟩

/-- A session with a builder that is tracked, and a function that hands it on to another one, which
fails. -/
def surveying : Session where
  clock := default
  builders := { items := [{ Builder.new "books" {} with tracking := true }] }
  functions := { items := [[
    ⟨.chained .limit, [("count", .value (.int 3))]⟩,
    ⟨.chained .unless_, [("condition", .value .null), ("callback", .callback [
      ⟨.chained .distinct, []⟩,
      ⟨.chained .whereBetween,
        [("column", .value (.text "price")), ("bounds", .value (.int 3))]⟩])]⟩]] }

/-- The builder is handed to the function of `surveying`; then a call is made while nothing is
recorded, and two more while a simulation is running, of which the last is a short form. -/
def survey : List (Event 0) :=
  [.made ⟨.when_, [("condition", .bool true), ("callback", .function 0 false [])], .when_,
      [("condition", .bool true), ("callback", .function 0 false [])], rfl, by decide, by decide⟩,
    .between (.track 0 false),
    .made ⟨.distinct, [], .distinct, [], rfl, by decide, by decide⟩,
    .between (.simulate 0),
    .made ⟨.orderBy, [("direction", .text "DESC"), ("column", .text "price")], .orderBy,
      [("direction", .text "DESC"), ("column", .text "price")], rfl, by decide, by decide⟩,
    .made ⟨.selectCount, [], .selectExpression,
      [("expression", .text "COUNT(*)"), ("alias", .text "count")], rfl, by decide, by decide⟩]

/-- Of the calls of a survey three are noted: one that hands the builder on and fails, and two that
are noted because of the simulation, with their arguments in the order of the parameters. -/
theorem log_afterAll_survey : ∃ c entries,
    (afterAll 2 survey surveying).builders.get? 0 = some c ∧ c.depth = 0 ∧
    Noted 2 survey surveying entries ∧ c.tracking = false ∧
    entries.map LogEntry.step = ["when", "order_by", "select_expression"] ∧
    entries.map LogEntry.details =
      [.map [("condition", .bool true), ("callback", .function 0 false [])],
        .map [("column", .text "price"), ("direction", .text "DESC")],
        .map [("expression", .text "COUNT(*)"), ("alias", .text "count")]] := by
  have hfluent : surveying.Fluent := Directory.All.of_items (by decide)
  obtain ⟨c, hc, hdepth, ⟨entries, hlog, hnoted⟩, -⟩ :=
    log_afterAll 2 0 surveying _ survey hfluent rfl rfl
  refine ⟨c, entries, hc, hdepth, hnoted, ?_⟩
  obtain rfl : c.log = entries := hlog.trans (List.nil_append entries)
  have hstate : ((afterAll 2 survey surveying).builders.get? 0).map
      (fun c => (c.tracking, c.log.map LogEntry.step)) =
        some (false, ["when", "order_by", "select_expression"]) := by decide +kernel
  have hdetails : ((afterAll 2 survey surveying).builders.get? 0).map
      (fun c => c.log.map LogEntry.details) =
        some [.map [("condition", .bool true), ("callback", .function 0 false [])],
          .map [("column", .text "price"), ("direction", .text "DESC")],
          .map [("expression", .text "COUNT(*)"), ("alias", .text "count")]] := by
    set_option maxRecDepth 1000 in rfl
  rw [hc] at hstate hdetails
  obtain ⟨htracking, hsteps⟩ := Prod.mk.inj (Option.some.inj hstate)
  exact ⟨htracking, hsteps, Option.some.inj hdetails⟩

end Event

end FluentSql
