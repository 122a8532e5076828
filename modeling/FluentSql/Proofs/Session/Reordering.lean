import FluentSql.Proofs.Call.Reordering
import FluentSql.Proofs.Session.Chaining
import FluentSql.Proofs.Session.Closed
import FluentSql.Proofs.Session.Likeness
import FluentSql.Proofs.Session.Speaking
import FluentSql.Session.Calling

set_option autoImplicit false

/-!
# Fluent calls in another order

Calls that hand the builder to no function, and ask for a dialect only if it was told one, do to a
builder what is fixed by the calls themselves and the moments at which they are made. Made in
another order, in which any two that write a field of the query in common come in the same one, they
leave the same query; and the sessions that they leave differ in the time and in what the builder
has logged, which neither statements nor writes look at.

## Main definitions

* `FluentSql.Session.unlogged` — a session in which no builder has a log.
* `FluentSql.Session.atMoment` — a session in which it is some time.
* `FluentSql.Session.Fixes` — what a call does to a builder is fixed.
* `FluentSql.Act.chainAll` — calls one after the other, up to the first failure.

## Main results

* `FluentSql.Act.chainAll_in_any_order` — calls in another order leave the same query, the same
  statement and the same write.

## Design

A query that a call is handed is copied when the call is made. So the builder's own query may not be
handed to it, or else the copy tells what was called before. And a query that refers to builders
may not be handed over either, since these are copied along each time and are never the same again.
-/

namespace FluentSql

/-! ## Sessions that differ in logs -/

/-- A session in which no builder has a log. -/
def Session.unlogged (s : Session) : Session :=
  { s with builders := s.builders.map Builder.unlogged }

/-- Reactions do the same whatever stands in logs. -/
def Reactor.OverlooksLogs (reactor : Reactor) : Prop :=
  ∀ (steps : List Step) (s s' : Session), s.unlogged = s'.unlogged →
    (reactor.react steps s).1 = (reactor.react steps s').1 ∧
      (reactor.react steps s).2.unlogged = (reactor.react steps s').2.unlogged

namespace Session

variable {s s' : Session}

/-- What has nothing to do with builders is the same in sessions that differ in logs. -/
theorem eq_of_unlogged_eq {β : Type} (part : Session → β) (hpart : ∀ t, part t.unlogged = part t)
    (h : s.unlogged = s'.unlogged) : part s = part s' := by
  rw [← hpart s, h, hpart s']

/-- Sessions that differ in logs have everything else in common. -/
theorem shares_of_unlogged_eq (h : s.unlogged = s'.unlogged) : s.Shares s' where
  builders := congrArg (fun t : Session => t.builders.items) h
  linked := eq_of_unlogged_eq Session.linked (fun _ => rfl) h
  executors := eq_of_unlogged_eq Session.executors (fun _ => rfl) h
  configs := eq_of_unlogged_eq Session.configs (fun _ => rfl) h
  simulations := eq_of_unlogged_eq Session.simulations (fun _ => rfl) h
  controller := eq_of_unlogged_eq Session.controller (fun _ => rfl) h
  nextStamp := eq_of_unlogged_eq Session.nextStamp (fun _ => rfl) h
  managers := eq_of_unlogged_eq Session.managers (fun _ => rfl) h

/-- Changes of a builder that come to the same but for logs leave sessions that differ in logs. -/
theorem unlogged_changed (s : Session) (id : Nat) {f g : Builder → Builder}
    (hfg : ∀ b, (f b).unlogged = (g b.unlogged).unlogged) :
    (s.changed id f).unlogged = (s.unlogged.changed id g).unlogged := by
  have hitems : (s.builders.items.modify id f).map Builder.unlogged =
      ((s.builders.items.map Builder.unlogged).modify id g).map Builder.unlogged := by
    apply List.ext_getElem?
    intro i
    simp only [List.getElem?_map, List.getElem?_modify]
    cases s.builders.items[i]? with
    | none => rfl
    | some b =>
      by_cases hi : id = i
      · simp only [hi, if_true, Option.map_some, Option.map_eq_map]
        exact congrArg some (hfg b)
      · simp only [hi, if_false, Option.map_some, Option.map_eq_map]
        rfl
  simp only [changed, unlogged, Directory.modify, Directory.map, hitems]

/-- In the place of a builder one that differs in its log may stand. -/
theorem unlogged_changed_const (s : Session) (id : Nat) {b c : Builder}
    (h : c.unlogged = b.unlogged) :
    (s.changed id fun _ => c).unlogged = (s.changed id fun _ => b).unlogged := by
  rw [s.unlogged_changed id (f := fun _ => c) (g := fun _ => b) fun _ => h,
    s.unlogged_changed id (f := fun _ => b) (g := fun _ => b) fun _ => rfl]

/-- A listener hears an event and reacts whatever stands in logs. -/
theorem unlogged_tell {reactor : Reactor} (hr : reactor.OverlooksLogs) (event : String)
    (arguments : List Value) (name : String) (h : s.unlogged = s'.unlogged) :
    (tell reactor event arguments s name).unlogged =
      (tell reactor event arguments s' name).unlogged := by
  have hlistener : s.listener name = s'.listener name :=
    eq_of_unlogged_eq (fun t => t.listener name) (fun _ => rfl) h
  have hsight : s.sight arguments = s'.sight arguments :=
    sight_congr (shares_of_unlogged_eq h).visible arguments
  have hheard : (s.heard (.listener name arguments (s'.sight arguments))).unlogged =
      (s'.heard (.listener name arguments (s'.sight arguments))).unlogged :=
    congrArg (fun t : Session => t.heard (.listener name arguments (s'.sight arguments))) h
  have hwarned : ∀ {t t' : Session} (fails : Bool), t.unlogged = t'.unlogged →
      (if fails then t.warned (.listener event) else t).unlogged =
        (if fails then t'.warned (.listener event) else t').unlogged := by
    intro t t' fails ht
    cases fails
    · exact ht
    · exact congrArg (fun u : Session => u.warned (.listener event)) ht
  rw [tell, tell, hsight, hlistener]
  cases hshown : s'.sight arguments with
  | error e =>
    rw [hshown] at hheard
    exact hwarned _ hheard
  | ok shown =>
    rw [hshown] at hheard
    obtain ⟨houtcome, hreacted⟩ := hr (s'.listener name).reaction _ _ hheard
    dsimp only
    rw [houtcome]
    exact hwarned _ hreacted

/-- A bus hears an event whatever stands in logs. -/
theorem unlogged_forward (event : String) (arguments : List Value) (config : Option Nat)
    (h : s.unlogged = s'.unlogged) :
    (s.forward event arguments config).unlogged = (s'.forward event arguments config).unlogged := by
  have hbus : (s.config config).bus.bind s.buses.get? =
      (s'.config config).bus.bind s'.buses.get? :=
    eq_of_unlogged_eq (fun t => (t.config config).bus.bind t.buses.get?) (fun _ => rfl) h
  have hsight : s.sight arguments = s'.sight arguments :=
    sight_congr (shares_of_unlogged_eq h).visible arguments
  rw [forward, forward, hbus, hsight]
  cases (s'.config config).bus.bind s'.buses.get? with
  | none => exact h
  | some bus =>
    dsimp only
    split
    · exact congrArg (fun t : Session => (t.heard _).warned (.bus event)) h
    · exact congrArg (fun t : Session => t.heard _) h

end Session

/-- Sessions that differ in logs are alike for writes. -/
def Likeness.unlogged {reactor : Reactor} (hr : reactor.OverlooksLogs) :
    Likeness reactor reactor where
  rel s s' := s.unlogged = s'.unlogged
  shares h := Session.shares_of_unlogged_eq h
  set h executors simulations controller nextStamp :=
    congrArg (fun t : Session => { t with executors, simulations, controller, nextStamp }) h
  changed {s s'} h id {change} hchange := by
    have hunlogged : ∀ b, (change b).unlogged = (change b.unlogged).unlogged := fun b =>
      hchange b b.unlogged rfl
    rw [s.unlogged_changed id hunlogged, h, ← s'.unlogged_changed id hunlogged]
  added {s s'} h b := by
    have hadded : ∀ t : Session, { t with builders := t.builders.add b }.unlogged =
        { t.unlogged with builders := t.unlogged.builders.add b.unlogged } := by
      intro t
      simp [Session.unlogged, Directory.add, Directory.map]
    rw [hadded, h, ← hadded]
  happened h happening := congrArg (fun t : Session =>
    { t with trace := { t.trace with calls := t.trace.calls ++ [happening] } }) h
  told h event arguments name := Session.unlogged_tell hr event arguments name h
  forwarded h event arguments config := Session.unlogged_forward event arguments config h

/-! ## Calls whose effect is fixed -/

/-- The builder whose query a call is handed, if it is handed one. -/
def Invocation.handed (c : Invocation) : Option Nat :=
  match c.1.expand c.2 with
  | .ok (_, given) => (given.get? "query").bind Value.queried?
  | .error _ => none

/-- A session in which it is some time. -/
def Session.atMoment (s : Session) (moment : Moment) : Session := { s with clock := moment }

/-- What a call sees of a session, made on a builder that was told a dialect or with no need of one.
-/
def Session.surroundings (s : Session) (told : Option String) (c : TimedCall) : Context where
  clock := c.moment
  dialect := .ok (s.dialects.resolve told)
  query := (c.call.handed.bind s.builders.get?).map Builder.descriptor

/-- What a call does to a builder, which was told a dialect or was not, is fixed: it hands the
builder to no function, asks for the dialect only if there is one that the builder was told, and if
it is handed a query, that is of another builder and refers to none. -/
structure Session.Fixes (s : Session) (id : Nat) (told : Option String) (c : Invocation) :
    Prop where
  alone : c.1 ≠ .when_ ∧ c.1 ≠ .unless_
  told : c.1.speaks = true → told ≠ none
  apart : ∀ other, c.handed = some other →
    other ≠ id ∧ ∃ o, s.builders.get? other = some o ∧ o.descriptor.Closed

namespace Session

variable {s : Session} {id : Nat} {told : Option String}

/-- What another builder is handed has nothing to do with a builder that is changed. -/
theorem Fixes.surroundings_changed {c : TimedCall} (h : s.Fixes id told c.call)
    (change : Builder → Builder) :
    (s.changed id change).surroundings told c = s.surroundings told c := by
  have hhanded : c.call.handed.bind (s.changed id change).builders.get? =
      c.call.handed.bind s.builders.get? := by
    cases hother : c.call.handed with
    | none => rfl
    | some other => exact Directory.get?_modify_of_ne _ (h.apart other hother).1.symm _
  rw [surroundings, surroundings, hhanded]
  rfl

/-- What a call does to a builder goes on to be fixed while the builder is changed. -/
theorem Fixes.changed {c : Invocation} (h : s.Fixes id told c) (change : Builder → Builder) :
    (s.changed id change).Fixes id told c := by
  refine ⟨h.alone, h.told, fun other hother => ?_⟩
  obtain ⟨hne, o, ho, hclosed⟩ := h.apart other hother
  exact ⟨hne, o, (Directory.get?_modify_of_ne _ hne.symm _).trans ho, hclosed⟩

/-- What a call does to a builder is fixed at any time if it is at one. -/
theorem Fixes.atMoment {c : Invocation} (h : s.Fixes id told c) (moment : Moment) :
    (s.atMoment moment).Fixes id told c := ⟨h.alone, h.told, h.apart⟩

/-- What a query has come to has nothing to do with the time. -/
@[simp] theorem currentQuery_atMoment (s : Session) (moment : Moment) (d : Descriptor) :
    (s.atMoment moment).currentQuery d = s.currentQuery d :=
  currentQuery_congr (s := s.atMoment moment) (t := s) (visible_congr rfl) rfl d

/-- The same call makes the same edits wherever it stands. -/
theorem edits_surroundings (s : Session) (told : Option String) {c c' : TimedCall}
    (h : c.Same c') : c'.call.edits (s.surroundings told c') =
      c.call.edits (s.surroundings told c) := by
  obtain ⟨hcall, hmoment⟩ := h
  have hcontext : s.surroundings told c' =
      { s.surroundings told c with clock := c'.moment } := by
    rw [surroundings, surroundings, hcall]
  rw [hcontext, hcall]
  cases hasks : c.call.1.asksTime with
  | true =>
    rw [hmoment hasks]
    rfl
  | false => exact Invocation.edits_congr_clock hasks _ _

end Session

namespace Act

variable {reactor : Reactor} {s : Session} {id : Nat} {b : Builder}

/-- Carrying out a call whose effect is fixed edits the builder. -/
theorem run_perform_of_fixes (reactor : Reactor) {c : TimedCall} {meant : Method}
    {given : Arguments} (hclock : s.clock = c.moment) (hb : s.builders.get? id = some b)
    (h : s.Fixes id b.options.dialect c.call)
    (hexpand : c.call.1.expand c.call.2 = .ok (meant, given)) :
    (perform id meant given).run reactor s =
      (((meant.perform (s.surroundings b.options.dialect c) given).run b).1,
        s.changed id fun _ =>
          ((meant.perform (s.surroundings b.options.dialect c) given).run b).2) := by
  obtain rfl : meant = c.call.1.longForm := Method.eq_longForm_of_expand hexpand
  have hhanded : c.call.handed = (given.get? "query").bind Value.queried? := by
    rw [Invocation.handed, hexpand]
  obtain ⟨hwhen, hunless⟩ := c.call.1.longForm_ne h.alone.1 h.alone.2
  have hquery : (((given.get? "query").bind Value.queried?).mapM copyQuery).run reactor s =
      (.ok ((c.call.handed.bind s.builders.get?).map Builder.descriptor), s) := by
    rw [← hhanded]
    cases hother : c.call.handed with
    | none => rfl
    | some other =>
      obtain ⟨-, o, ho, hclosed⟩ := h.apart other hother
      rw [Option.mapM_some, Option.bind_some, ho]
      exact run_bind_of_ok _ _ (run_copyQuery_of_closed ho hclosed) _
  have hctx : c.call.1.longForm.perform (s.context b ((c.call.handed.bind s.builders.get?).map
      Builder.descriptor)) given =
        c.call.1.longForm.perform (s.surroundings b.options.dialect c) given := by
    cases hspeaks : c.call.1.speaks with
    | false =>
      have hsilent : c.call.1.longForm.speaks = false := by rw [Method.speaks_longForm, hspeaks]
      rw [Session.context, hclock]
      exact (Method.perform_congr hsilent _ _ given).symm
    | true =>
      obtain ⟨name, hname⟩ := Option.ne_none_iff_exists'.mp (h.told hspeaks)
      have hdialect : s.dialectOf b = .ok (s.dialects.resolve b.options.dialect) := by
        rw [Session.dialectOf, hname]
        rfl
      rw [Session.context, hdialect, hclock]
      rfl
  rw [perform_of_ne hwhen hunless, run_bind_of_ok _ _ hquery, run_editBuilder hb, hctx]

/-- A call whose effect is fixed makes its edits; besides, it changes the log of the builder. -/
theorem run_chain_of_fixes (reactor : Reactor) {c : TimedCall} (hclock : s.clock = c.moment)
    (hb : s.builders.get? id = some b) (h : s.Fixes id b.options.dialect c.call) :
    ∃ log, (chain id c.call.1 c.call.2).run reactor s =
      (((c.call.edits (s.surroundings b.options.dialect c)).run b).1,
        s.changed id fun _ =>
          { ((c.call.edits (s.surroundings b.options.dialect c)).run b).2 with log }) := by
  have hfails : ∀ e : Error, ∃ log, ((.error e, s) : Except Error Unit × Session) =
      (.error e, s.changed id fun _ => { b with log }) := fun e =>
    ⟨b.log, by rw [Session.changed_eq_self hb (f := fun _ => b) rfl]⟩
  rw [run_chain hb, Invocation.edits]
  cases hexpand : c.call.1.expand c.call.2 with
  | error e =>
    rw [Method.run_edits_of_error hexpand]
    exact hfails e
  | ok expanded =>
    obtain ⟨meant, given⟩ := expanded
    dsimp only
    cases hfit : c.call.1.accepts c.call.2 with
    | false =>
      rw [Method.run_edits_of_not_accepts hexpand hfit]
      exact hfails .wrongType
    | true =>
      rw [Method.edits_of_accepts hexpand hfit]
      have hperform := run_perform_of_fixes reactor (s := s.changed id _) hclock
        (Session.get?_changed hb fun _ => { b with
          log := b.log ++ s.recorded b meant given, depth := b.depth + 1 }) (h.changed _) hexpand
      dsimp only at hperform
      rw [h.surroundings_changed, Session.changed_changed,
        (Method.plans_perform _ given meant).run_logged b _ (b.depth + 1)] at hperform
      obtain ⟨descriptor, formerColumns, hrun, -⟩ :=
        (Method.plans_perform (s.surroundings b.options.dialect c) given meant).run_eq b
      refine ⟨b.log ++ s.recorded b meant given, ?_⟩
      rw [if_pos rfl, Session.entered, hperform]
      dsimp only
      rw [Session.changed_changed, hrun]
      rfl

/-! ## Calls one after the other -/

/-- Calls one after the other, each at its moment, up to the first failure. -/
def chainAll (id : Nat) : List TimedCall → Act Unit
  | [] => pure ()
  | c :: calls => do
    modify fun s => s.atMoment c.moment
    chain id c.call.1 c.call.2
    chainAll id calls

variable {calls : List TimedCall} {surroundings : TimedCall → Context}

/-- The effect of the calls on a builder is fixed, and so is what they see of the session. -/
def FixesAll (s : Session) (id : Nat) (told : Option String) (surroundings : TimedCall → Context)
    (calls : List TimedCall) : Prop :=
  ∀ c ∈ calls, s.Fixes id told c.call ∧ s.surroundings told c = surroundings c

/-- The effect of calls goes on to be fixed while the builder is changed. -/
theorem FixesAll.changed {told : Option String} (h : FixesAll s id told surroundings calls)
    (change : Builder → Builder) : FixesAll (s.changed id change) id told surroundings calls := by
  intro c hc
  obtain ⟨hfix, hsurroundings⟩ := h c hc
  exact ⟨hfix.changed change, (hfix.surroundings_changed change).trans hsurroundings⟩

/-- The effect of calls goes on to be fixed while time goes by. -/
theorem FixesAll.atMoment {told : Option String} (h : FixesAll s id told surroundings calls)
    (moment : Moment) : FixesAll (s.atMoment moment) id told surroundings calls := by
  intro c hc
  obtain ⟨hfix, hsurroundings⟩ := h c hc
  exact ⟨hfix.atMoment moment, hsurroundings⟩

/-- The first of some calls makes its edits, and the effect of the others goes on to be fixed. -/
theorem run_chain_of_fixesAll (reactor : Reactor) {c : TimedCall} (hclock : s.clock = c.moment)
    (hb : s.builders.get? id = some b)
    (h : FixesAll s id b.options.dialect surroundings (c :: calls)) :
    ∃ b' log, { ((c.call.edits (surroundings c)).run b).2 with log } = b' ∧
      (chain id c.call.1 c.call.2).run reactor s =
        (((c.call.edits (surroundings c)).run b).1, s.changed id fun _ => b') ∧
      (s.changed id fun _ => b').builders.get? id = some b' ∧
      FixesAll (s.changed id fun _ => b') id b'.options.dialect surroundings calls := by
  obtain ⟨⟨hfix, hsurroundings⟩, hrest⟩ := List.forall_mem_cons.mp h
  obtain ⟨log, hrun⟩ := run_chain_of_fixes reactor hclock hb hfix
  rw [hsurroundings] at hrun
  obtain ⟨descriptor, formerColumns, hedits, -⟩ :=
    (Method.plans_edits (surroundings c) c.call.1 c.call.2).run_eq b
  have hedits' : ((c.call.edits (surroundings c)).run b).2 =
      { b with descriptor, formerColumns } := hedits
  refine ⟨_, log, rfl, hrun, ?_, ?_⟩
  · exact Session.get?_changed hb _
  · rw [hedits']
    exact FixesAll.changed hrest _

/-- Calls whose effect is fixed make their edits one after the other, if none of them fails. -/
theorem run_chainAll (reactor : Reactor) (hb : s.builders.get? id = some b)
    (h : FixesAll s id b.options.dialect surroundings calls)
    (hpass : ∀ c ∈ calls, ((c.call.edits (surroundings c)).run b).1 = .ok ()) :
    ∃ log moment, (chainAll id calls).run reactor s =
      (.ok (), (s.changed id fun _ => { b.called surroundings calls with log }).atMoment
        moment) := by
  induction calls generalizing s b with
  | nil =>
    refine ⟨b.log, s.clock, ?_⟩
    have hsame : (s.changed id fun _ => { b.called surroundings [] with log := b.log }) = s :=
      Session.changed_eq_self hb rfl
    rw [hsame]
    rfl
  | cons c calls ih =>
    obtain ⟨hfirst, hpass⟩ := List.forall_mem_cons.mp hpass
    obtain ⟨b', log, hb', hrun, hfound, hrest⟩ :=
      run_chain_of_fixesAll reactor (s := s.atMoment c.moment) rfl hb (h.atMoment c.moment)
    obtain ⟨log', moment, hrun'⟩ := ih hfound hrest fun c hc =>
      ((Method.plans_edits (surroundings c) c.call.1 c.call.2).outcome_eq b' b).trans (hpass c hc)
    refine ⟨log', moment, ?_⟩
    rw [hfirst] at hrun
    rw [chainAll, run_bind_of_ok _ _ (run_modify _ _ _), run_bind_of_ok _ _ hrun, hrun',
      Session.changed_changed, ← hb', Builder.called_logged]
    rfl

/-- Calls whose effect is fixed pass on every builder if they pass one after the other. -/
theorem pass_of_run_chainAll {t : Session} (hb : s.builders.get? id = some b)
    (h : FixesAll s id b.options.dialect surroundings calls)
    (hrun : (chainAll id calls).run reactor s = (.ok (), t)) (c₀ : Builder) :
    ∀ c ∈ calls, ((c.call.edits (surroundings c)).run c₀).1 = .ok () := by
  induction calls generalizing s b with
  | nil => exact fun c hc => absurd hc List.not_mem_nil
  | cons c calls ih =>
    obtain ⟨b', log, -, hfirst, hfound, hrest⟩ :=
      run_chain_of_fixesAll reactor (s := s.atMoment c.moment) rfl hb (h.atMoment c.moment)
    rw [chainAll, run_bind_of_ok _ _ (run_modify _ _ _)] at hrun
    obtain ⟨⟨⟩, u, hpass, hcalls⟩ := run_bind_eq_ok.mp hrun
    rw [hfirst] at hpass
    obtain ⟨houtcome, rfl⟩ := Prod.mk.inj hpass
    refine List.forall_mem_cons.mpr ⟨?_, ih hfound hrest hcalls⟩
    exact ((Method.plans_edits (surroundings c) c.call.1 c.call.2).outcome_eq c₀ b).trans houtcome

/-- The statement of a builder is that of its query, looked at in the session as it is. -/
theorem run_toSql (hb : s.builders.get? id = some b) :
    (request id .toSql []).run reactor s =
      ((s.currentQuery b.descriptor).select.map Answer.statement, s) := by
  rw [request, run_bind_of_ok _ _ (run_currentQuery _ _ hb)]
  cases (s.currentQuery b.descriptor).select <;> rfl

/-- Builders with the same query have the same statement, if the values of the query have come to
the same. -/
theorem toSql_congr {s' : Session} {id' : Nat} {b' : Builder} (hb : s.builders.get? id = some b)
    (hb' : s'.builders.get? id' = some b') (hdescriptor : b'.descriptor = b.descriptor)
    (hquery : s'.currentQuery b.descriptor = s.currentQuery b.descriptor) :
    ((request id' .toSql []).run reactor s').1 = ((request id .toSql []).run reactor s).1 := by
  rw [run_toSql hb', run_toSql hb, hdescriptor, hquery]

/-- Calls are made on a builder, each at some moment, none of which hands it to a function or fails,
and none of which asks for a dialect that the builder was not told; if they are handed queries,
these are of other builders and refer to none. If the same calls are made on an equal builder in
another order, in which any two that write a field of the query in common come in the same one, and
a call that asks what time it is finds the same, then none of them fails either, and the query that
they leave is the same. So both have the same statement in any session in which they stand, and
right after their own calls where no value refers to a builder.

On the very builder in the very session, the statement is the same in any case. What the calls leave
differs in the time and in what the builder has logged, and goes on to do so after a write that is
made at the same moment after both, whose outcome is the same; only listeners must not look at logs.

**Proof sketch.** A call makes the same changes to whatever builder there is, and at whatever moment
if it does not ask for it. What calls make of a field of the query is made by those that write it,
and these come in the same order. Copying a query that refers to no builder leaves the session as it
is, so all that calls do besides is to note what was called. -/
theorem chainAll_in_any_order (reactor : Reactor) (s : Session) (id id' : Nat) (b b' : Builder)
    (calls calls' : List TimedCall) (t : Session) (hb : s.builders.get? id = some b)
    (hb' : s.builders.get? id' = some b') (hdescriptor : b'.descriptor = b.descriptor)
    (hoptions : b'.options = b.options)
    (hfixes : ∀ c ∈ calls,
      s.Fixes id b.options.dialect c.call ∧ s.Fixes id' b'.options.dialect c.call)
    (horder : Reorders calls calls')
    (hruns : (chainAll id calls).run reactor s = (.ok (), t)) :
    ∃ t' c c', (chainAll id' calls').run reactor s = (.ok (), t') ∧
      t.builders.get? id = some c ∧ t'.builders.get? id' = some c' ∧
      c'.descriptor = c.descriptor ∧
      (∀ u : Session, u.builders.get? id = some c → u.builders.get? id' = some c' →
        (request id' .toSql []).run reactor u = (request id .toSql []).run reactor u) ∧
      (s.linked = false ∨ id' = id → ((request id' .toSql []).run reactor t').1 =
        ((request id .toSql []).run reactor t).1) ∧
      (id' = id → ∀ now, (t'.atMoment now).unlogged = (t.atMoment now).unlogged ∧
        (reactor.OverlooksLogs →
          ((make id').run reactor (t'.atMoment now)).1 =
            ((make id).run reactor (t.atMoment now)).1 ∧
          ((make id').run reactor (t'.atMoment now)).2.unlogged =
            ((make id).run reactor (t.atMoment now)).2.unlogged)) := by
  -- What the calls see of the session is the same on both builders.
  have hall : FixesAll s id b.options.dialect (s.surroundings b.options.dialect) calls :=
    fun c hc => ⟨(hfixes c hc).1, rfl⟩
  have hall' : FixesAll s id' b'.options.dialect (s.surroundings b.options.dialect) calls' := by
    intro c' hc'
    obtain ⟨c, hc, hsame⟩ := horder.exists_same hc'
    exact ⟨hsame.1 ▸ (hfixes c hc).2, by rw [hoptions]⟩
  have hpass := pass_of_run_chainAll hb hall hruns
  obtain ⟨log, moment, hrun⟩ := run_chainAll reactor hb hall (hpass b)
  obtain ⟨log', moment', hrun'⟩ := run_chainAll reactor hb' hall' fun c' hc' => by
    obtain ⟨c, hc, hsame⟩ := horder.exists_same hc'
    rw [s.edits_surroundings _ hsame]
    exact hpass b' c hc
  obtain rfl := (Prod.mk.inj (hruns.symm.trans hrun)).2
  have hreorders : ∀ b₀ : Builder, b₀.called (s.surroundings b.options.dialect) calls' =
      b₀.called (s.surroundings b.options.dialect) calls := fun b₀ =>
    horder.called_eq (fun _ _ hsame => s.edits_surroundings _ hsame) b₀
  have hcalled : (b'.called (s.surroundings b.options.dialect) calls').descriptor =
      (b.called (s.surroundings b.options.dialect) calls).descriptor := by
    rw [Builder.descriptor_called calls' hdescriptor, hreorders]
  generalize hc : { b.called (s.surroundings b.options.dialect) calls with log } = c at *
  generalize hc' : { b'.called (s.surroundings b.options.dialect) calls' with
    log := log' } = c' at *
  have hget : ((s.changed id fun _ => c).atMoment moment).builders.get? id = some c :=
    Session.get?_changed hb _
  have hget' : ((s.changed id' fun _ => c').atMoment moment').builders.get? id' = some c' :=
    Session.get?_changed hb' _
  have hsame : c'.descriptor = c.descriptor := by rw [← hc, ← hc']; exact hcalled
  have hunlogged : id' = id →
      (s.changed id' fun _ => c').unlogged = (s.changed id fun _ => c).unlogged := by
    rintro rfl
    obtain rfl : b = b' := Option.some.inj (hb.symm.trans hb')
    have hcc' : c'.unlogged = c.unlogged := by
      rw [← hc, ← hc', hreorders]
      rfl
    exact s.unlogged_changed_const id' hcc'
  have hmoment : id' = id → ∀ now, ((s.changed id' fun _ => c').atMoment now).unlogged =
      ((s.changed id fun _ => c).atMoment now).unlogged := fun h now =>
    congrArg (fun u : Session => u.atMoment now) (hunlogged h)
  refine ⟨_, c, c', hrun', hget, hget', hsame, fun u hu hu' => ?_, fun h => ?_,
    fun h now => ⟨hmoment h now, fun hr => ?_⟩⟩
  · rw [run_toSql hu', run_toSql hu, hsame]
  · refine toSql_congr hget hget' hsame ?_
    rw [Session.currentQuery_atMoment, Session.currentQuery_atMoment]
    rcases h with hunlinked | hid
    · have hlinked : ∀ (other : Nat) (o : Builder), (s.changed other fun _ => o).currentQuery
          c.descriptor = c.descriptor := fun other o => by
        rw [Session.currentQuery, show (s.changed other fun _ => o).linked = false from hunlinked]
        rfl
      rw [hlinked, hlinked]
    · have hshares := Session.shares_of_unlogged_eq (hunlogged hid)
      rw [Session.currentQuery_congr hshares.visible hshares.linked]
  · subst h
    exact @respects_make _ _ (.unlogged hr) id' _ _ (hmoment rfl now)

/-- A session with a tracked builder that was told a dialect, another builder, and a simulation with
a table. -/
def drafting : Session where
  clock := default
  simulations := .single "main" {
    active := true
    state := [("books", .ofValue 0 (.list [
      .map [(.text "title", .text "Dune"), (.text "price", .int 7)],
      .map [(.text "title", .text "Emma"), (.text "price", .int 9)]]))] }
  builders := { items := [
    { Builder.new "books" { dialect := some "postgres" } with tracking := true },
    { Builder.new "loans" {} with
      descriptor := { Descriptor.new "loans" with wheres := [.null "returned" false .and] } }] }

/-- Some hours after noon. -/
def noon (hours : Nat) : Moment := ⟨2024, 3, 15, 12 + hours, 0, 0, 0, some 0⟩

/-- A comparison, an update, a look-back window and a union with another builder's query, within
three hours. -/
def drafted : List TimedCall :=
  [⟨noon 0, .where_, [("column", .text "price"), ("operator", .text "<"), ("value", .int 8)]⟩,
    ⟨noon 1, .update, [("values", .map [(.text "price", .int 8)])]⟩,
    ⟨noon 2, .period, [("column", .text "sold"), ("key", .text "7d")]⟩,
    ⟨noon 3, .union_, [("query", .builder 1 "loans")]⟩]

/-- The same calls in less time, the update first; the look-back window opens at the same hour. -/
def redrafted : List TimedCall :=
  [⟨noon 1, .update, [("values", .map [(.text "price", .int 8)])]⟩,
    ⟨noon 1, .where_, [("column", .text "price"), ("operator", .text "<"), ("value", .int 8)]⟩,
    ⟨noon 2, .period, [("column", .text "sold"), ("key", .text "7d")]⟩,
    ⟨noon 2, .union_, [("query", .builder 1 "loans")]⟩]

/-- The order of an update and a comparison is no matter for the write, only for the log. -/
theorem chainAll_in_any_order_drafting :
    let t := ((chainAll 0 drafted).run .still drafting).2
    let t' := ((chainAll 0 redrafted).run .still drafting).2
    (chainAll 0 redrafted).run .still drafting = (.ok (), t') ∧
    (t'.builders.get? 0).map Builder.descriptor = (t.builders.get? 0).map Builder.descriptor ∧
    ((request 0 .toSql []).run .still t').1 = ((request 0 .toSql []).run .still t).1 ∧
    ((make 0).run .still (t'.atMoment (noon 4))).1 =
      ((make 0).run .still (t.atMoment (noon 4))).1 ∧
    (t.builders.get? 0).map (·.log.map LogEntry.step) =
      some ["where", "update", "period", "union"] ∧
    (t'.builders.get? 0).map (·.log.map LogEntry.step) =
      some ["update", "where", "period", "union"] := by
  have horder : Reorders drafted redrafted := by
    refine reorders_of_fields (show Fin 4 ≃ Fin 4 from Equiv.swap 0 1) (fun i => ?_)
      (by decide +kernel)
    match i with
    | ⟨0, _⟩ | ⟨1, _⟩ | ⟨3, _⟩ => exact ⟨rfl, nofun⟩
    | ⟨2, _⟩ => exact ⟨rfl, fun _ => rfl⟩
  have hfixes : ∀ c ∈ drafted, drafting.Fixes 0 (some "postgres") c.call := by
    have hhanded : ∀ other, some 1 = some other → other ≠ 0 ∧ ∃ o,
        drafting.builders.get? other = some o ∧ o.descriptor.Closed := by
      rintro _ ⟨⟩
      exact ⟨by decide, _, rfl, by decide⟩
    simp only [drafted, List.forall_mem_cons, List.not_mem_nil, false_imp_iff, implies_true,
      and_true]
    refine ⟨⟨by decide, by decide, nofun⟩, ⟨by decide, by decide, nofun⟩,
      ⟨by decide, by decide, nofun⟩, ⟨by decide, by decide, hhanded⟩⟩
  have hpass : ((chainAll 0 drafted).run .still drafting).1 = .ok () := by
    have hpasses : ((chainAll 0 drafted).run .still drafting).1.toBool = true := by decide +kernel
    cases houtcome : ((chainAll 0 drafted).run .still drafting).1 with
    | ok _ => rfl
    | error e =>
      rw [houtcome] at hpasses
      cases hpasses
  have hruns : (chainAll 0 drafted).run .still drafting =
      (.ok (), ((chainAll 0 drafted).run .still drafting).2) := by rw [← hpass]
  obtain ⟨t', c, c', hrun', hc, hc', hsame, -, hstatement, hmake⟩ :=
    chainAll_in_any_order .still drafting 0 0 _ _ drafted redrafted _ rfl rfl rfl rfl
      (fun c hc => ⟨hfixes c hc, hfixes c hc⟩) horder hruns
  obtain rfl : ((chainAll 0 redrafted).run .still drafting).2 = t' := by rw [hrun']
  refine ⟨hrun', by rw [hc, hc', Option.map_some, Option.map_some, hsame],
    hstatement (.inr rfl), ?_, by decide +kernel, by decide +kernel⟩
  exact ((hmake rfl (noon 4)).2 fun _ _ _ h => ⟨rfl, h⟩).1

/-- A comparison. -/
def compared : TimedCall :=
  ⟨noon 0, .where_, [("column", .text "price"), ("operator", .text "<"), ("value", .int 8)]⟩

/-- A union of the builder with its own query. -/
def doubled : TimedCall := ⟨noon 0, .union_, [("query", .builder 0 "books")]⟩

/-- A limit at some hour. -/
def limited (hours : Nat) : TimedCall := ⟨noon hours, .limit, [("count", .int 3)]⟩

/-- A look-back window that opens at some hour. -/
def windowed (hours : Nat) : TimedCall :=
  ⟨noon hours, .period, [("column", .text "sold"), ("key", .text "7d")]⟩

/-- The builder of `drafting` after calls, none of which fails. -/
def builderAfter (calls : List TimedCall) : Option Builder :=
  match (chainAll 0 calls).run .still drafting with
  | (.ok _, t) => t.builders.get? 0
  | (.error _, _) => none

/-- The numbers of predicates in the parts of a union. -/
def partSizes (b : Builder) : List Nat := b.descriptor.unions.map (·.query.wheres.length)

/-- The values that a builder's statement binds, as they are displayed. -/
def boundTexts (b : Builder) : Option (List String) :=
  b.descriptor.select.toOption.map (·.bindings.map Value.display)

/-- Books twice, loans to a member, and the members. -/
def lending : Session := { (default : Session) with
  linked := true
  builders := { items := [.new "books" {},
    { Builder.new "loans" {} with
      descriptor := { Descriptor.new "loans" with
        wheres := [.basic "member" .eq (.builder 2 "members") .and] } },
    .new "members" {}, .new "books" {}] } }

/-- The loans are added to the books, once to either builder of these. -/
def lent : Session :=
  let united : List TimedCall := [⟨noon 0, .union_, [("query", .builder 1 "loans")]⟩]
  ((chainAll 3 united).run .still ((chainAll 0 united).run .still lending).2).2

/-- Calls that have no field in common do not leave the same query in every order, if the builder's
own query is handed to it, or if time goes by before a call that asks what time it is. And one call
leaves different queries of equal builders if the query that it is handed refers to a builder: each
of them has a copy of that builder, and these are not equal. -/
theorem chainAll_in_another_order :
    Reorders [compared, doubled] [doubled, compared] ∧
    (builderAfter [compared, doubled]).map partSizes = some [1] ∧
    (builderAfter [doubled, compared]).map partSizes = some [0] ∧
    ((limited 0).call = (limited 1).call ∧ (windowed 1).call = (windowed 0).call ∧
      ∀ f ∈ Method.limit.fields, f ∉ Method.period.fields) ∧
    (builderAfter [limited 0, windowed 1]).isSome = true ∧
    (builderAfter [windowed 0, limited 1]).isSome = true ∧
    (builderAfter [limited 0, windowed 1]).map boundTexts ≠
      (builderAfter [windowed 0, limited 1]).map boundTexts ∧
    lending.builders.get? 3 = lending.builders.get? 0 ∧
    (lent.builders.get? 0).map Builder.references = some [4] ∧
    (lent.builders.get? 3).map Builder.references = some [5] ∧
    (Value.builder 4 "members").equal (.builder 5 "members") = false := by
  have horder : Reorders [compared, doubled] [doubled, compared] := by
    refine reorders_of_fields (show Fin 2 ≃ Fin 2 from Equiv.swap 0 1) (fun i => ?_)
      (by decide +kernel)
    match i with
    | ⟨0, _⟩ | ⟨1, _⟩ => exact ⟨rfl, nofun⟩
  exact ⟨horder, by decide +kernel, by decide +kernel, ⟨rfl, rfl, by decide⟩, by decide +kernel,
    by decide +kernel, by decide +kernel, rfl, by decide +kernel, by decide +kernel, rfl⟩

end Act

end FluentSql
