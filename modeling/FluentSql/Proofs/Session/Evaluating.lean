import FluentSql.Proofs.Session.Chaining
import FluentSql.Session.Run

set_option autoImplicit false

/-!
# What evaluating fluent calls leaves

A chainable call is about its own builder. Its arguments may make builders, and functions that
make calls later; the builders that there were before are left as they are, but for the one that the
call is made on. Of that one the lists only grow at their end, however deep the functions are nested
that it is handed to; it comes up to the depth at which it was; and nothing is noted in its log
while a call is under way.

Functions may make requests as well, as long as these run nothing: that a statement is run has to
do with listeners and executors, which may do what they like.

## Main definitions

* `FluentSql.Call.fluent`, `FluentSql.Argument.fluent` — calls and arguments in which nothing is
  run.
* `FluentSql.Session.Fluent` — a session whose functions are fluent.
* `FluentSql.Builder.Grows` — what fluent calls may make of their builder.
* `FluentSql.Frame.around` — all builders but one stay as they are, and that one grows.

## Main results

* `FluentSql.Act.keeps_performAll_around` — the calls of a function.
* `FluentSql.Act.rel_chain_around` — one call, and what is noted of it.
* `FluentSql.Act.keeps_chain_around` — every fluent call, to any depth.
-/

namespace FluentSql

/-! ## Fluent calls -/

/-- Whether a request runs nothing where nobody awaits it. -/
def Request.quiet : Request → Bool
  | .toSql | .hasPendingWrite | .describe | .clone => true
  | r => r.awaited

mutual

/-- Whether evaluating an argument, and making the calls in it, runs nothing. -/
def Argument.fluent : Argument → Bool
  | .value _ | .condition | .builder _ | .descriptor _ => true
  | .list items | .tuple items => fluentItems items
  | .map entries | .object entries => fluentEntries entries
  | .writeResult changes lastId => changes.fluent && lastId.fluent
  | .queryResult data affected lastId => data.fluent && affected.fluent && lastId.fluent
  | .fresh spec => spec.fluent
  | .callback calls => fluentCalls calls

/-- Whether evaluating arguments runs nothing. -/
def fluentItems : List Argument → Bool
  | [] => true
  | a :: rest => a.fluent && fluentItems rest

/-- Whether evaluating named arguments runs nothing. -/
def fluentEntries : List (String × Argument) → Bool
  | [] => true
  | (_, a) :: rest => a.fluent && fluentEntries rest

/-- Whether making a builder runs nothing. -/
def BuilderSpec.fluent : BuilderSpec → Bool
  | ⟨_, _, _, _, _, calls⟩ => fluentCalls calls

/-- Whether a call is chainable or a request that runs nothing. -/
def Call.fluent : Call → Bool
  | ⟨.chained _, arguments⟩ => fluentEntries arguments
  | ⟨.request r, arguments⟩ => r.quiet && fluentEntries arguments

/-- Whether calls are fluent. -/
def fluentCalls : List Call → Bool
  | [] => true
  | call :: calls => call.fluent && fluentCalls calls

end

/-- All functions of a session make fluent calls. -/
def Session.Fluent (s : Session) : Prop := s.functions.All fun calls => fluentCalls calls = true

/-- The calls of a function are fluent, and no calls are so. -/
theorem Session.Fluent.getD {s : Session} (h : s.Fluent) (mark : Nat) :
    fluentCalls ((s.functions.get? mark).getD []) = true := by
  cases hcalls : s.functions.get? mark with
  | none => rfl
  | some calls => exact h mark calls hcalls

/-! ## Builders that grow -/

/-- What fluent calls may make of their builder: its lists grow at the end, and it stands as it did.
Nothing is noted in its log while a call is under way. -/
structure Builder.Grows (b c : Builder) : Prop where
  wheres : b.descriptor.wheres <+: c.descriptor.wheres
  havings : b.descriptor.havings <+: c.descriptor.havings
  joins : b.descriptor.joins <+: c.descriptor.joins
  order : b.descriptor.order <+: c.descriptor.order
  unions : b.descriptor.unions <+: c.descriptor.unions
  aggregates : b.descriptor.aggregates <+: c.descriptor.aggregates
  standing : c.standing = b.standing
  depth : c.depth = b.depth
  log : 0 < b.depth → c.log = b.log

namespace Builder

variable {b c d : Builder}

theorem Grows.refl (b : Builder) : b.Grows b :=
  ⟨List.prefix_rfl, List.prefix_rfl, List.prefix_rfl, List.prefix_rfl, List.prefix_rfl,
    List.prefix_rfl, rfl, rfl, fun _ => rfl⟩

theorem Grows.trans (h : b.Grows c) (h' : c.Grows d) : b.Grows d where
  wheres := h.wheres.trans h'.wheres
  havings := h.havings.trans h'.havings
  joins := h.joins.trans h'.joins
  order := h.order.trans h'.order
  unions := h.unions.trans h'.unions
  aggregates := h.aggregates.trans h'.aggregates
  standing := h'.standing.trans h.standing
  depth := h'.depth.trans h.depth
  log hdepth := (h'.log (h.depth ▸ hdepth)).trans (h.log hdepth)

/-- A single change is to one list, which grows at the end, or to none. -/
theorem grows_apply (change : Change) (b : Builder) : b.Grows (change.apply b) := by
  cases change <;> refine ⟨?_, ?_, ?_, ?_, ?_, ?_, rfl, rfl, fun _ => rfl⟩ <;> first
    | exact List.prefix_rfl
    | exact List.prefix_append ..

/-- Changes let a builder grow. -/
theorem grows_after (changes : List Change) (b : Builder) : b.Grows (b.after changes) := by
  induction changes generalizing b with
  | nil => exact .refl b
  | cons change changes ih => exact (grows_apply change b).trans (ih _)

end Builder

/-- The edits of a call let its builder grow, whether they fail or not. -/
theorem Method.grows_perform (ctx : Context) (args : Arguments) (m : Method) (b : Builder) :
    b.Grows ((m.perform ctx args).run b).2 := by
  obtain ⟨changes, outcome, hmakes, -⟩ := m.plans_perform ctx args
  rw [hmakes]
  exact b.grows_after changes

/-! ## All builders but one -/

/-- The frame within which functions are fluent if they were so, and then builders stay as they are,
except that one may grow. -/
def Frame.around (one : Option Nat) : Frame where
  rel s t := s.Fluent → t.Fluent ∧ ∀ id b, s.builders.get? id = some b →
    ∃ c, t.builders.get? id = some c ∧ b.Grows c ∧ (one ≠ some id → c = b)
  refl s hs := ⟨hs, fun id b hb => ⟨b, hb, .refl b, fun _ => rfl⟩⟩
  trans {s t u} hst htu hs := by
    obtain ⟨ht, hst⟩ := hst hs
    obtain ⟨hu, htu⟩ := htu ht
    refine ⟨hu, fun id b hb => ?_⟩
    obtain ⟨c, hc, hgrows, hsame⟩ := hst id b hb
    obtain ⟨d, hd, hgrows', hsame'⟩ := htu id c hc
    exact ⟨d, hd, hgrows.trans hgrows', fun hne => (hsame' hne).trans (hsame hne)⟩

namespace Frame

variable {one : Option Nat} {s t : Session}

/-- What leaves every builder leaves all but one. -/
theorem around_of_none (h : (around none).rel s t) : (around one).rel s t := by
  intro hs
  obtain ⟨ht, hst⟩ := h hs
  refine ⟨ht, fun id b hb => ?_⟩
  obtain ⟨c, hc, hgrows, hsame⟩ := hst id b hb
  exact ⟨c, hc, hgrows, fun _ => hsame nofun⟩

/-- The builders that there are stay if others are added. -/
theorem around_of_get? (hfunctions : t.functions = s.functions)
    (hbuilders : ∀ id b, s.builders.get? id = some b → t.builders.get? id = some b) :
    (around one).rel s t := by
  intro hs
  refine ⟨?_, fun id b hb => ⟨b, hbuilders id b hb, .refl b, fun _ => rfl⟩⟩
  rw [Session.Fluent, hfunctions]
  exact hs

theorem around_copyBuilders (s : Session) (ids : List Nat) :
    (around one).rel s (s.copyBuilders ids).2 :=
  around_of_get? rfl fun _ _ hb => s.get?_copyBuilders ids hb

/-- What is done on a builder that was just added leaves every builder that there was. -/
theorem around_added {b : Builder}
    (h : (around (some s.builders.nextId)).rel { s with builders := s.builders.add b } t) :
    (around none).rel s t := by
  intro hs
  obtain ⟨ht, hst⟩ := h hs
  refine ⟨ht, fun id c hc => ?_⟩
  have hlt : id < s.builders.nextId := (List.getElem?_eq_some_iff.mp hc).1
  obtain ⟨d, hd, hgrows, hsame⟩ := hst id c (Directory.get?_add_of_eq_some b hc)
  have hne : some s.builders.nextId ≠ some id := fun h => Nat.ne_of_gt hlt (Option.some.inj h)
  exact ⟨d, hd, hgrows, fun _ => hsame hne⟩

/-- A function that makes fluent calls may join the others. -/
theorem around_defined (s : Session) {calls : List Call} (h : fluentCalls calls = true) :
    (around one).rel s { s with functions := s.functions.add calls } :=
  fun hs => ⟨Directory.All.add hs h, fun _ b hb => ⟨b, hb, .refl b, fun _ => rfl⟩⟩

end Frame

namespace Act

/-! ## Evaluating -/

section Evaluating

variable {reactor : Reactor} {one : Option Nat}

theorem keeps_numberOf {F : Frame} {β : Type} (directory : Session → Directory β) (name : String) :
    Keeps F reactor (numberOf directory name) := by
  refine keeps_bind keeps_get fun s => ?_
  cases (directory s).id? name with
  | none => exact keeps_fail _
  | some id => exact keeps_pure id

theorem keeps_link_around : Keeps (Frame.around one) reactor link :=
  fun _ => Frame.around_of_get? rfl fun _ _ hb => hb

theorem keeps_addBuilder_around (b : Builder) :
    Keeps (Frame.around one) reactor (addBuilder b) :=
  fun _ => Frame.around_of_get? rfl fun _ _ hb => Directory.get?_add_of_eq_some b hb

theorem keeps_copyBuilder_around (id : Nat) :
    Keeps (Frame.around one) reactor (copyBuilder id) := by
  refine keeps_bind (keeps_builder id) fun b => keeps_bind keeps_get fun s => ?_
  split
  · exact keeps_addBuilder_around _
  · exact fun t => Frame.around_copyBuilders t _

theorem keeps_optionsOf {F : Frame} (config events simulation dialect : Option String) :
    Keeps F reactor (optionsOf config events simulation dialect) := by
  have hgiven : ∀ {β : Type} (directory : Session → Directory β) (name : Option String),
      Keeps F reactor (name.mapM (numberOf directory)) := by
    intro β directory name
    cases name with
    | none => exact keeps_pure _
    | some name =>
      rw [Option.mapM_some]
      exact keeps_bind (keeps_numberOf directory name) fun _ => keeps_pure _
  exact keeps_bind (hgiven _ config) fun _ => keeps_bind (hgiven _ events) fun _ =>
    keeps_bind (hgiven _ simulation) fun _ => keeps_pure _

/-- A request that runs nothing leaves every builder as it is. -/
theorem keeps_requestNow_around {r : Request} (hr : r.quiet = true) (id : Nat) (args : Arguments) :
    Keeps (Frame.around one) reactor (requestNow id r args) := by
  unfold requestNow
  split
  · next hawaited =>
    refine keeps_bind ?_ fun _ => keeps_pure ()
    cases r <;> first | exact absurd hr (by decide) | exact absurd hawaited (by decide) | skip
    · exact keeps_bind (keeps_currentQuery id) fun _ => keeps_bind (keeps_of _)
        fun _ => keeps_pure _
    · exact keeps_bind (keeps_builder id) fun _ => keeps_pure _
    · exact keeps_bind (keeps_builder id) fun _ => keeps_pure _
    · exact keeps_bind (keeps_copyBuilder_around id) fun _ => keeps_bind (keeps_builder id)
        fun _ => keeps_pure _
  · exact keeps_pure ()

/-- Making a call on any builder leaves the others as they are. -/
def ChainsAround (reactor : Reactor) : Prop :=
  ∀ (id : Nat) (m : Method) (args : Arguments),
    Keeps (Frame.around (some id)) reactor (chain id m args)

mutual

/-- Evaluating an argument leaves every builder as it is. -/
theorem keeps_eval_around (hchain : ChainsAround reactor) (condition : Value) :
    (a : Argument) → a.fluent = true → Keeps (Frame.around none) reactor (a.eval condition)
  | .value v, _ => keeps_pure v
  | .list items, h =>
    keeps_bind (keeps_evalItems_around hchain condition items h) fun _ => keeps_pure _
  | .tuple items, h =>
    keeps_bind (keeps_evalItems_around hchain condition items h) fun _ => keeps_pure _
  | .map entries, h =>
    keeps_bind (keeps_evalEntries_around hchain condition entries h) fun _ => keeps_pure _
  | .object entries, h =>
    keeps_bind (keeps_evalEntries_around hchain condition entries h) fun _ => keeps_pure _
  | .writeResult changes lastId, h => by
    obtain ⟨hchanges, hlastId⟩ := Bool.and_eq_true_iff.mp h
    exact keeps_bind (keeps_eval_around hchain condition changes hchanges) fun _ =>
      keeps_bind (keeps_eval_around hchain condition lastId hlastId) fun _ => keeps_pure _
  | .queryResult data affected lastId, h => by
    obtain ⟨hleft, hlastId⟩ := Bool.and_eq_true_iff.mp h
    obtain ⟨hdata, haffected⟩ := Bool.and_eq_true_iff.mp hleft
    exact keeps_bind (keeps_eval_around hchain condition data hdata) fun _ =>
      keeps_bind (keeps_eval_around hchain condition affected haffected) fun _ =>
        keeps_bind (keeps_eval_around hchain condition lastId hlastId) fun _ => keeps_pure _
  | .condition, _ => fun s => (Frame.around none).refl s
  | .fresh spec, h =>
    keeps_bind (keeps_make_around hchain condition spec h) fun id =>
      keeps_bind keeps_link_around fun _ => keeps_bind (keeps_builder id) fun _ => keeps_pure _
  | .builder name, _ =>
    keeps_bind (keeps_numberOf _ name) fun id => keeps_bind keeps_link_around fun _ =>
      keeps_bind (keeps_builder id) fun _ => keeps_pure _
  | .descriptor name, _ =>
    keeps_bind (keeps_numberOf _ name) fun id => keeps_bind keeps_link_around fun _ =>
      fun s => (Frame.around none).refl s
  | .callback calls, h => fun s => Frame.around_defined s h

/-- Evaluating arguments leaves every builder as it is. -/
theorem keeps_evalItems_around (hchain : ChainsAround reactor) (condition : Value) :
    (items : List Argument) → fluentItems items = true →
      Keeps (Frame.around none) reactor (evalItems condition items)
  | [], _ => keeps_pure _
  | a :: rest, h => by
    obtain ⟨ha, hrest⟩ := Bool.and_eq_true_iff.mp h
    exact keeps_bind (keeps_eval_around hchain condition a ha) fun _ =>
      keeps_bind (keeps_evalItems_around hchain condition rest hrest) fun _ => keeps_pure _

/-- Evaluating named arguments leaves every builder as it is. -/
theorem keeps_evalEntries_around (hchain : ChainsAround reactor) (condition : Value) :
    (entries : List (String × Argument)) → fluentEntries entries = true →
      Keeps (Frame.around none) reactor (evalEntries condition entries)
  | [], _ => keeps_pure _
  | (name, a) :: rest, h => by
    obtain ⟨ha, hrest⟩ := Bool.and_eq_true_iff.mp h
    exact keeps_bind (keeps_eval_around hchain condition a ha) fun _ =>
      keeps_bind (keeps_evalEntries_around hchain condition rest hrest) fun _ => keeps_pure _

/-- Making a builder leaves every builder that there was as it is. -/
theorem keeps_make_around (hchain : ChainsAround reactor) (condition : Value) :
    (spec : BuilderSpec) → spec.fluent = true →
      Keeps (Frame.around none) reactor (spec.make condition)
  | ⟨table, dialect, config, events, simulation, calls⟩, h => by
    refine keeps_bind (keeps_optionsOf config events simulation dialect) fun options s => ?_
    have hcalls : Keeps (Frame.around (some s.builders.nextId)) reactor (do
        performAll s.builders.nextId condition calls
        return s.builders.nextId) :=
      keeps_bind (keeps_performAll_around hchain condition s.builders.nextId calls h)
        fun _ => keeps_pure _
    exact Frame.around_added (hcalls _)

/-- Making a call leaves all other builders as they are. -/
theorem keeps_callPerform_around (hchain : ChainsAround reactor) (condition : Value) (id : Nat) :
    (call : Call) → call.fluent = true →
      Keeps (Frame.around (some id)) reactor (call.perform id condition)
  | ⟨.chained m, arguments⟩, h =>
    keeps_bind
      (fun s => Frame.around_of_none (keeps_evalEntries_around hchain condition arguments h s))
      fun args => hchain id m args
  | ⟨.request r, arguments⟩, h => by
    obtain ⟨hr, harguments⟩ := Bool.and_eq_true_iff.mp h
    have heval := keeps_evalEntries_around hchain condition arguments harguments
    exact keeps_bind (fun s => Frame.around_of_none (heval s))
      fun args => keeps_requestNow_around hr id args

/-- Making calls leaves all other builders as they are. -/
theorem keeps_performAll_around (hchain : ChainsAround reactor) (condition : Value) (id : Nat) :
    (calls : List Call) → fluentCalls calls = true →
      Keeps (Frame.around (some id)) reactor (performAll id condition calls)
  | [], _ => keeps_pure ()
  | call :: calls, h => by
    obtain ⟨hcall, hcalls⟩ := Bool.and_eq_true_iff.mp h
    exact keeps_bind (keeps_callPerform_around hchain condition id call hcall) fun _ =>
      keeps_performAll_around hchain condition id calls hcalls

end

end Evaluating

/-! ## Making calls -/

section Chaining

variable {reactor : Reactor} {s : Session} {id : Nat} {b : Builder}

/-- A session with a builder changed so that it grows. -/
theorem rel_around_changed (hb : s.builders.get? id = some b) {change : Builder → Builder}
    (h : b.Grows (change b)) : (Frame.around (some id)).rel s (s.changed id change) := by
  refine fun hs => ⟨hs, fun other c hc => ?_⟩
  by_cases hother : id = other
  · subst hother
    obtain rfl : b = c := Option.some.inj (hb.symm.trans hc)
    exact ⟨change b, Session.get?_changed hb change, h, fun hne => absurd rfl hne⟩
  · refine ⟨c, (Session.get?_changed_of_ne hother change).trans hc, .refl c, fun _ => rfl⟩

/-- Carrying out a call leaves all other builders as they are, if functions do. -/
theorem keeps_perform_around (hF : (Frame.around (some id)).Hosts reactor id) (m : Method)
    (args : Arguments) : Keeps (Frame.around (some id)) reactor (perform id m args) :=
  keeps_perform hF fun s _ query hb _ =>
    rel_around_changed hb (m.grows_perform (s.context _ query) args _)

/-- What making a call leaves: its builder has grown, what is noted of the call stands in its log,
and all other builders are as they were.

**Proof sketch.** By `run_chain` the builder goes one level deeper with the call in its log. What is
carried out there keeps it growing and, as it is deep in a call, adds nothing to the log; then it
comes up again. -/
theorem rel_chain_around (hF : (Frame.around (some id)).Hosts reactor id)
    (hb : s.builders.get? id = some b) (m : Method) (args : Arguments) :
    (Frame.around (some id)).rel s ((chain id m args).run reactor s).2 ∧
      (s.Fluent → ∃ c, ((chain id m args).run reactor s).2.builders.get? id = some c ∧
        c.log = b.log ++ s.noted b m args) := by
  have hnone : (Frame.around (some id)).rel s s ∧
      (s.Fluent → ∃ c, s.builders.get? id = some c ∧ c.log = b.log ++ []) :=
    ⟨(Frame.around _).refl s, fun _ => ⟨b, hb, (List.append_nil _).symm⟩⟩
  rw [run_chain hb, Session.noted]
  cases m.expand args with
  | error e => exact hnone
  | ok expanded =>
    obtain ⟨meant, given⟩ := expanded
    dsimp only
    cases m.accepts args with
    | false => exact hnone
    | true =>
      simp only [if_true]
      -- The builder grows while the call is under way, and comes up again.
      have hentered := Session.get?_changed hb fun _ =>
        { b with log := b.log ++ s.recorded b meant given, depth := b.depth + 1 }
      have hperform := keeps_perform_around hF meant given (s.entered id b meant given)
      rcases hrun : (perform id meant given).run reactor (s.entered id b meant given) with
        ⟨outcome, t⟩
      rw [hrun] at hperform
      have hup : s.Fluent → ∃ c, t.builders.get? id = some c ∧
          b.Grows { c with depth := c.depth - 1 } ∧ c.log = b.log ++ s.recorded b meant given := by
        intro hs
        obtain ⟨c, hc, hgrows, -⟩ := (hperform hs).2 id _ hentered
        have hlog : c.log = b.log ++ s.recorded b meant given := hgrows.log (Nat.succ_pos _)
        have hdepth : c.depth = b.depth + 1 := hgrows.depth
        refine ⟨c, hc, ⟨hgrows.wheres, hgrows.havings, hgrows.joins, hgrows.order, hgrows.unions,
          hgrows.aggregates, hgrows.standing, ?_, fun hpos => ?_⟩, hlog⟩
        · rw [hdepth, Nat.add_sub_cancel]
        · rw [hlog, s.recorded_of_pos hpos, List.append_nil]
      refine ⟨fun hs => ⟨(hperform hs).1, fun other d hd => ?_⟩, fun hs => ?_⟩
      · by_cases hother : id = other
        · subst hother
          obtain rfl : b = d := Option.some.inj (hb.symm.trans hd)
          obtain ⟨c, hc, hgrows, -⟩ := hup hs
          exact ⟨_, Session.get?_changed hc _, hgrows, fun hne => absurd rfl hne⟩
        · have hd' : (s.entered id b meant given).builders.get? other = some d :=
            (Session.get?_changed_of_ne hother _).trans hd
          obtain ⟨c, hc, hgrows, hsame⟩ := (hperform hs).2 other d hd'
          exact ⟨c, (Session.get?_changed_of_ne hother _).trans hc, hgrows, hsame⟩
      · obtain ⟨c, hc, -, hlog⟩ := hup hs
        exact ⟨_, Session.get?_changed hc _, hlog⟩

/-- Making a call leaves all other builders as they are, if functions do. -/
theorem keeps_chain_around_of_hosts (hF : (Frame.around (some id)).Hosts reactor id) (m : Method)
    (args : Arguments) : Keeps (Frame.around (some id)) reactor (chain id m args) := by
  intro s
  cases hb : s.builders.get? id with
  | some b => exact (rel_chain_around hF hb m args).1
  | none =>
    -- Without the builder there is nothing to record.
    refine rel_of_bind fun expanded _ => ?_
    obtain ⟨meant, given⟩ := expanded
    have hrecord : (record id meant given).run reactor s = (.error .missingKey, s) :=
      run_bind_of_error _ _ (run_builder_of_none reactor s hb) _
    dsimp only
    split
    · exact (Frame.around _).refl s
    · rw [run_bind_of_error _ _ hrecord]
      exact (Frame.around _).refl s

end Chaining

/-! ## To any depth -/

/-- Functions that make fluent calls leave all builders but the one that they are handed as they
are, however deep they are nested. -/
theorem hosts_reactor_around (depth id : Nat) :
    (Frame.around (some id)).Hosts (Session.reactor depth) id := by
  induction depth generalizing id with
  | zero => exact ⟨Frame.around_copyBuilders, fun _ _ s => (Frame.around _).refl s⟩
  | succ depth ih =>
    refine ⟨Frame.around_copyBuilders, fun condition mark s hs => ?_⟩
    have hchain : ChainsAround (Session.reactor depth) := fun id m args =>
      keeps_chain_around_of_hosts (ih id) m args
    exact keeps_performAll_around hchain condition id _ (hs.getD mark) s hs

/-- A fluent call leaves all other builders as they are, and lets its own grow. -/
theorem keeps_chain_around (depth id : Nat) (m : Method) (args : Arguments) :
    Keeps (Frame.around (some id)) (Session.reactor depth) (chain id m args) :=
  keeps_chain_around_of_hosts (hosts_reactor_around depth id) m args

/-- Evaluating the arguments of a fluent call leaves every builder as it is. -/
theorem get?_of_run_evalEntries {depth : Nat} {condition : Value}
    {arguments : List (String × Argument)} {s t : Session} {outcome : Except Error Arguments}
    (hfluent : fluentEntries arguments = true) (hs : s.Fluent)
    (hrun : (evalEntries condition arguments).run (Session.reactor depth) s = (outcome, t)) :
    t.Fluent ∧ ∀ id b, s.builders.get? id = some b → t.builders.get? id = some b := by
  have hkeeps := keeps_evalEntries_around (keeps_chain_around depth) condition arguments hfluent
  obtain ⟨ht, hall⟩ := hkeeps.rel hrun hs
  refine ⟨ht, fun id b hb => ?_⟩
  obtain ⟨c, hc, -, hsame⟩ := hall id b hb
  rw [hc, hsame nofun]

end Act

end FluentSql
