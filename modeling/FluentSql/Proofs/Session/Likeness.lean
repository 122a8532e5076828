import FluentSql.Proofs.Session.Opening

set_option autoImplicit false

/-!
# Sessions that are alike

Two sessions may differ in what no write asks for: in the logs of builders, say, or in what was
written down before. A write that is made in both has the same outcome in both, and leaves sessions
that are alike in turn, as long as what hears of it leaves such sessions.

## Main definitions

* `FluentSql.Builder.unlogged` — a builder without its log.
* `FluentSql.Session.Shares` — what sessions have in common that are alike.
* `FluentSql.Likeness` — a relation of sessions that have so much in common, and go on to do so.
* `FluentSql.Act.Respects` — an act does the same in sessions that are alike.

## Main results

* `FluentSql.Act.respects_make` — making a write.
-/

namespace FluentSql

/-! ## What sessions have in common -/

/-- A builder without its log. -/
def Builder.unlogged (b : Builder) : Builder := { b with log := [] }

/-- Two sessions have everything in common that builders, executors and simulations are asked
for. -/
structure Session.Shares (s s' : Session) : Prop where
  builders : s.builders.items.map Builder.unlogged = s'.builders.items.map Builder.unlogged
  linked : s.linked = s'.linked
  executors : s.executors = s'.executors
  configs : s.configs = s'.configs
  simulations : s.simulations = s'.simulations
  controller : s.controller = s'.controller
  nextStamp : s.nextStamp = s'.nextStamp
  managers : s.managers = s'.managers

namespace Session.Shares

variable {s s' : Session} (h : s.Shares s')

include h

/-- Sessions that are alike have the same builders, but for their logs. -/
theorem get?_unlogged (id : Nat) :
    (s.builders.get? id).map Builder.unlogged = (s'.builders.get? id).map Builder.unlogged := by
  rw [Directory.get?, Directory.get?, ← List.getElem?_map, ← List.getElem?_map, h.builders]

/-- What can be looked at is the same in sessions that are alike. -/
theorem visible : s.visible = s'.visible := by
  have hvisible : ∀ t : Session, t.visible =
      (t.builders.items.map Builder.unlogged).map Builder.visible := by
    intro t
    rw [List.map_map]
    rfl
  rw [hvisible, hvisible, h.builders]

/-- What simulations are asked for is the same in sessions that are alike. -/
theorem eq_of_simulated {β : Type} (part : Session → β)
    (hpart : ∀ t u : Session, part { u with
      configs := t.configs, simulations := t.simulations, controller := t.controller } = part t) :
    part s = part s' := by
  rw [← hpart s s', h.configs, h.simulations, h.controller]

/-- Builders are copied under the same numbers, and the copies are the same. -/
theorem copyBuilders (ids : List Nat) : ∃ copies : List Builder,
    (s.copyBuilders ids).1 = (s'.copyBuilders ids).1 ∧
    (s.copyBuilders ids).2 = { s with builders := copies.foldl Directory.add s.builders } ∧
    (s'.copyBuilders ids).2 = { s' with builders := copies.foldl Directory.add s'.builders } := by
  have hlength : s.builders.items.length = s'.builders.items.length := by
    simpa using congrArg List.length h.builders
  have hsome : ∀ id, (s.builders.get? id).isSome = (s'.builders.get? id).isSome := by
    intro id
    simpa using congrArg Option.isSome (h.get?_unlogged id)
  have hreachable : s.reachable = s'.reachable := by
    funext rounds ids
    exact Session.reachable_congr h.visible rounds ids
  have hnumber : (s.copyBuilders ids).1 = (s'.copyBuilders ids).1 := by
    simp only [Session.copyBuilders, hsome, hreachable, hlength, Directory.nextId]
  -- The log of a builder does not go into its copy.
  have htwins : ∀ (σ : Nat → Nat) (copied : List Nat),
      (copied.filterMap s.builders.get?).map (Builder.twin · σ) =
        (copied.filterMap s'.builders.get?).map (Builder.twin · σ) := by
    intro σ copied
    have hunlogged : ∀ t : Session, (copied.filterMap t.builders.get?).map (Builder.twin · σ) =
        copied.filterMap fun id => ((t.builders.get? id).map Builder.unlogged).map
          (Builder.twin · σ) := by
      intro t
      rw [List.map_filterMap]
      simp only [Option.map_map]
      rfl
    simp only [hunlogged, h.get?_unlogged]
  let copied (t : Session) : List Nat :=
    t.reachable t.builders.items.length (ids.eraseDups.filter fun id => (t.builders.get? id).isSome)
  have hcopied : copied s = copied s' := by simp only [copied, hsome, hreachable, hlength]
  have hcopies : ∀ t : Session, (t.copyBuilders ids).2 = { t with
      builders := (((copied t).filterMap t.builders.get?).map
        (Builder.twin · (t.copyBuilders ids).1)).foldl Directory.add t.builders } := by
    intro t
    rw [List.foldl_map]
    rfl
  refine ⟨_, hnumber, hcopies s, ?_⟩
  rw [hcopies s', ← hnumber, ← hcopied, htwins]

end Session.Shares

/-! ## Likenesses -/

/-- A change of builders that does not look at their logs. -/
def Builder.Unminding (change : Builder → Builder) : Prop :=
  ∀ b c : Builder, b.unlogged = c.unlogged → (change b).unlogged = (change c).unlogged

/-- A relation of sessions that have everything in common that writes ask for. Sessions that are
alike are so after whatever a write does, and after what hears of it has reacted in each. -/
structure Likeness (reactor reactor' : Reactor) where
  rel : Session → Session → Prop
  shares : ∀ {s s'}, rel s s' → s.Shares s'
  set : ∀ {s s'}, rel s s' → ∀ executors simulations controller nextStamp,
    rel { s with executors, simulations, controller, nextStamp }
      { s' with executors, simulations, controller, nextStamp }
  changed : ∀ {s s'}, rel s s' → ∀ (id : Nat) {change : Builder → Builder},
    Builder.Unminding change → rel (s.changed id change) (s'.changed id change)
  added : ∀ {s s'}, rel s s' → ∀ b : Builder,
    rel { s with builders := s.builders.add b } { s' with builders := s'.builders.add b }
  happened : ∀ {s s'}, rel s s' → ∀ h : Happening,
    rel { s with trace := { s.trace with calls := s.trace.calls ++ [h] } }
      { s' with trace := { s'.trace with calls := s'.trace.calls ++ [h] } }
  told : ∀ {s s'}, rel s s' → ∀ (event : String) (arguments : List Value) (listener : String),
    rel (s.tell reactor event arguments listener) (s'.tell reactor' event arguments listener)
  forwarded : ∀ {s s'}, rel s s' →
    ∀ (event : String) (arguments : List Value) (config : Option Nat),
    rel (s.forward event arguments config) (s'.forward event arguments config)

variable {reactor reactor' : Reactor}

/-- Sessions that are alike are so after an announcement. -/
theorem Likeness.announced (L : Likeness reactor reactor') {s s' : Session} (h : L.rel s s')
    (manager : Option Nat) (event : String) (arguments : List Value) :
    L.rel (s.announce reactor manager event arguments)
      (s'.announce reactor' manager event arguments) := by
  have hfold : ∀ (names : List String) (t t' : Session), L.rel t t' →
      L.rel (names.foldl (Session.tell reactor event arguments) t)
        (names.foldl (Session.tell reactor' event arguments) t') := by
    intro names
    induction names with
    | nil => exact fun t t' ht => ht
    | cons name names ih => exact fun t t' ht => ih _ _ (L.told ht event arguments name)
  have hmanager : s.manager manager = s'.manager manager := by
    rw [Session.manager, Session.manager, (L.shares h).managers]
  rw [Session.announce, Session.announce, hmanager]
  exact L.forwarded (hfold _ _ _ h) event arguments _

/-- Sessions that are alike are so with copies of the same builders. -/
theorem Likeness.copied (L : Likeness reactor reactor') {s s' : Session} (h : L.rel s s')
    (ids : List Nat) : (s.copyBuilders ids).1 = (s'.copyBuilders ids).1 ∧
      L.rel (s.copyBuilders ids).2 (s'.copyBuilders ids).2 := by
  obtain ⟨copies, hnumber, hs, hs'⟩ := (L.shares h).copyBuilders ids
  refine ⟨hnumber, ?_⟩
  rw [hs, hs']
  clear hs hs' hnumber
  induction copies generalizing s s' with
  | nil => exact h
  | cons b copies ih => exact ih (L.added h b)

namespace Act

/-- An act does the same in sessions that are alike: it has the same outcome, and leaves sessions
that are alike. -/
def Respects {α : Type} (L : Likeness reactor reactor') (a : Act α) : Prop :=
  ∀ s s', L.rel s s' →
    (a.run reactor s).1 = (a.run reactor' s').1 ∧
      L.rel (a.run reactor s).2 (a.run reactor' s').2

section Respects

variable {α β : Type} {L : Likeness reactor reactor'}

theorem respects_pure (x : α) : Respects L (pure x : Act α) := fun _ _ h => ⟨rfl, h⟩

theorem respects_of (e : Except Error α) : Respects L (of e) := fun _ _ h => ⟨rfl, h⟩

theorem respects_fail (e : Error) : Respects L (fail e : Act α) := fun _ _ h => ⟨rfl, h⟩

/-- A sequence does the same if its parts do. -/
theorem respects_bind {a : Act α} {f : α → Act β} (ha : Respects L a)
    (hf : ∀ x, Respects L (f x)) : Respects L (a >>= f) := by
  intro s s' h
  have hrun := ha s s' h
  rw [run_bind, run_bind]
  rcases hr : a.run reactor s with ⟨_ | x, t⟩ <;>
    rcases hr' : a.run reactor' s' with ⟨_ | x', t'⟩ <;> rw [hr, hr'] at hrun
  · exact ⟨congrArg Except.error (Except.error.inj hrun.1), hrun.2⟩
  · cases hrun.1
  · cases hrun.1
  · cases hrun.1
    exact hf x t t' hrun.2

/-- What asks the session for what is the same in both does the same. -/
theorem respects_get_bind {f : Session → Act α}
    (hf : ∀ s s' : Session, s.Shares s' → f s = f s') (h : ∀ s, Respects L (f s)) :
    Respects L (get >>= f) := by
  intro s s' hs
  rw [run_get_bind, run_get_bind, hf s s' (L.shares hs)]
  exact h s' s s' hs

/-- What asks a builder for anything but its log does the same. -/
theorem respects_builder_bind {id : Nat} {f : Builder → Act α}
    (hf : ∀ b : Builder, f b.unlogged = f b) (h : ∀ b, Respects L (f b)) :
    Respects L (builder id >>= f) := by
  intro s s' hs
  have hb := (L.shares hs).get?_unlogged id
  cases hs : s.builders.get? id with
  | none =>
    have hs' : s'.builders.get? id = none := by simpa [hs] using hb.symm
    rw [run_bind_of_error _ _ (run_builder_of_none reactor s hs),
      run_bind_of_error _ _ (run_builder_of_none reactor' s' hs')]
    exact ⟨rfl, ‹_›⟩
  | some b =>
    rw [hs] at hb
    obtain ⟨c, hc, hcb⟩ := Option.map_eq_some_iff.mp hb.symm
    rw [run_builder_bind _ _ hs, run_builder_bind _ _ hc, ← hf b, ← hcb, hf c]
    exact h c s s' ‹_›

/-- What is done at the end in any case may do so as well. -/
theorem respects_tryFinally {a : Act α} {b : Act Unit} (ha : Respects L a) (hb : Respects L b) :
    Respects L (tryFinally a b) := by
  intro s s' h
  have hrun := ha s s' h
  rw [run_tryFinally, run_tryFinally]
  rcases ha : a.run reactor s with ⟨outcome, t⟩
  rcases ha' : a.run reactor' s' with ⟨outcome', t'⟩
  rw [ha, ha'] at hrun
  obtain ⟨houtcome, ht⟩ := hrun
  have hend := hb t t' ht
  dsimp only
  rcases hr : b.run reactor t with ⟨_ | _, u⟩ <;>
    rcases hr' : b.run reactor' t' with ⟨_ | _, u'⟩ <;> rw [hr, hr'] at hend
  · exact ⟨congrArg Except.error (Except.error.inj hend.1), hend.2⟩
  · cases hend.1
  · cases hend.1
  · exact ⟨houtcome, hend.2⟩

theorem respects_changeBuilder (id : Nat) {change : Builder → Builder}
    (hchange : Builder.Unminding change) : Respects L (changeBuilder id change) :=
  fun _ _ h => ⟨rfl, L.changed h id hchange⟩

/-- Changes of a query do not look at logs. -/
theorem respects_editing (id : Nat) (change : Descriptor → Descriptor) :
    Respects L (changeBuilder id fun b => b.edit change) := by
  refine respects_changeBuilder id fun b c h => ?_
  exact congrArg (fun d : Builder => d.edit change) h

theorem respects_current (v : Value) : Respects L (current v) := by
  refine respects_get_bind (fun s s' h => ?_) fun s => respects_pure _
  rw [Session.current_congr h.visible h.linked]

theorem respects_currentQuery (id : Nat) : Respects L (currentQuery id) := by
  refine respects_get_bind (fun s s' h => ?_) fun s =>
    respects_builder_bind (fun _ => rfl) fun b => respects_pure _
  simp only [Session.currentQuery_congr h.visible h.linked]

theorem respects_copy (v : Value) : Respects L (copy v) := by
  intro s s' h
  rw [copy, run_get_bind, run_get_bind, (L.shares h).linked]
  split
  · exact ⟨rfl, h⟩
  · obtain ⟨hrename, hcopied⟩ := L.copied h v.references
    rw [run_get_bind, run_get_bind]
    dsimp only
    rw [run_bind_of_ok _ _ (run_set _ _ _), run_bind_of_ok _ _ (run_set _ _ _), hrename]
    exact respects_current _ _ _ hcopied

/-! ### Announcing and running statements -/

theorem respects_trigger (manager : Option Nat) (t : Trigger) (extra : Fields) :
    Respects L (trigger manager t extra) :=
  respects_bind (respects_of _) fun payload _ _ h => ⟨rfl, L.announced h manager t.topic [payload]⟩

theorem respects_happened (h : Happening) : Respects L (happened h) :=
  fun _ _ hs => ⟨rfl, L.happened hs h⟩

/-- A change that sets some of what sessions have in common does the same. -/
theorem respects_modify {f : Session → Session}
    (hf : ∀ s s' : Session, s.Shares s' → ∃ executors simulations controller nextStamp,
      f s = { s with executors, simulations, controller, nextStamp } ∧
      f s' = { s' with executors, simulations, controller, nextStamp }) :
    Respects L (modify f : Act Unit) := by
  intro s s' h
  obtain ⟨executors, simulations, controller, nextStamp, hs, hs'⟩ := hf s s' (L.shares h)
  rw [run_modify, run_modify, hs, hs']
  exact ⟨rfl, L.set h executors simulations controller nextStamp⟩

theorem respects_setSource (id : Nat) (source : ExecutorSource Value) :
    Respects L (setSource id source) :=
  respects_modify fun s s' h => ⟨_, _, _, _, rfl, by
    rw [h.executors, h.simulations, h.controller, h.nextStamp]⟩

/-- Evaluating a report does the same. -/
theorem respects_evaluate (report : DriverReport Value) :
    Respects L (report.evaluate current) := by
  cases report with
  | rows v => exact respects_bind (respects_current v) fun _ => respects_pure _
  | count rowcount lastId =>
    refine respects_bind ?_ fun _ => respects_bind ?_ fun _ => respects_pure _
    · cases rowcount with
      | none => exact respects_pure _
      | some v => exact respects_bind (respects_current v) fun _ => respects_pure _
    · cases lastId with
      | none => exact respects_pure _
      | some v => exact respects_bind (respects_current v) fun _ => respects_pure _
  | failure text => exact respects_pure _

/-- What an executor replies is passed on. -/
theorem respects_reply (reply : Reply Value) : Respects L (match reply with
    | .answer v => current v
    | .failure text => fail (.raised text)) := by
  cases reply with
  | answer v => exact respects_current v
  | failure text => exact respects_fail _

/-- What comes of a transaction is passed on, once it is closed. -/
theorem respects_closed (name : String) (method : ExecutorMethod)
    (outcome : Except Error (List Value × WriteResult)) : Respects L (do
      match outcome with
      | .ok (rows, result) =>
        happened (.committed name)
        return Engine.answer method rows result
      | .error failure =>
        happened (.rolledBack name)
        fail failure) := by
  cases outcome with
  | ok answer => exact respects_bind (respects_happened _) fun _ => respects_pure _
  | error failure => exact respects_bind (respects_happened _) fun _ => respects_fail _

/-- Running a statement does the same. -/
theorem respects_execute (id : Nat) (method : ExecutorMethod) (statement : Statement) :
    Respects L (execute id method statement) := by
  refine respects_get_bind (fun s s' h => ?_) fun s => ?_
  · rw [h.executors]
  cases s.executors.get? id with
  | none => exact respects_fail _
  | some e =>
    refine respects_get_bind (fun s s' h => ?_) fun s => ?_
    · rw [Session.sight_congr h.visible]
    cases e.source with
    | plain optional rows reads writes =>
      refine respects_bind (respects_happened _) fun _ => respects_bind (respects_of _) fun _ => ?_
      split
      · exact respects_bind (respects_copy rows) fun _ => respects_bind (respects_setSource _ _)
          fun _ => respects_bind (respects_pure _) respects_reply
      · exact respects_bind (respects_setSource _ _) fun _ =>
          respects_bind (respects_pure _) respects_reply
    | engine engine reports =>
      refine respects_bind (respects_happened _) fun _ => ?_
      split
      · exact respects_bind (respects_bind (respects_setSource _ _) fun _ =>
          respects_bind (respects_evaluate _) fun _ => respects_pure _) (respects_closed _ _)
      · exact respects_bind (respects_pure _) (respects_closed _ _)

/-- An announced statement does the same. -/
theorem respects_dispatch (id executor : Nat) (action : TriggerAction) (statement : WriteStatement)
    (data : Value) : Respects L (dispatch id executor action statement data) := by
  refine respects_builder_bind (fun _ => rfl) fun b => ?_
  refine respects_bind (respects_trigger _ _ _) fun _ => ?_
  have hrest : ∀ method, Respects L (do
      let report ← execute executor method statement.toStatement
      let result ← of (WriteResult.ofReport report)
      trigger b.options.events (.of .after action b.table)
        (Fields.set [("data", data), ("where", statement.predicate)] "result" result.toValue)
      return result) := fun method =>
    respects_bind (respects_execute _ _ _) fun _ => respects_bind (respects_of _) fun _ =>
      respects_bind (respects_trigger _ _ _) fun _ => respects_pure _
  have hoffers : Respects L (offers executor .runBlocking) := by
    refine respects_get_bind (fun s s' h => ?_) fun s => ?_
    · rw [h.executors]
    · cases s.executors.get? executor with
      | none => exact respects_pure _
      | some e => exact respects_pure _
  refine respects_bind hoffers fun offered => ?_
  cases offered with
  | true => exact hrest .runBlocking
  | false => exact hrest .query

/-! ### Writes -/

/-- Inserting rows does the same. -/
theorem respects_runInsert (id executor : Nat) (rows : Value) :
    Respects L (runInsert id executor rows) := by
  refine respects_bind (respects_current rows) fun rows => ?_
  refine respects_builder_bind (fun _ => rfl) fun b => ?_
  refine respects_bind (respects_of _) fun w => respects_bind (respects_of _) fun data => ?_
  exact respects_dispatch id executor .insert w data

/-- The statements of a write do the same. -/
theorem respects_runWrite (id executor : Nat) (kind : WriteKind) (data : Value) :
    Respects L (runWrite id executor kind data) := by
  have hincrement : ∀ decrement, Respects L (runIncrement id executor decrement data) := by
    intro decrement
    refine respects_bind (respects_of _) fun column => respects_bind (respects_of _)
      fun amount => ?_
    refine respects_bind (respects_currentQuery id) fun d => respects_bind (respects_of _)
      fun w => ?_
    exact respects_bind (respects_of _) fun fields => respects_dispatch _ _ _ _ _
  cases kind with
  | insert => exact respects_runInsert id executor data
  | update =>
    exact respects_bind (respects_currentQuery id) fun d => respects_bind (respects_of _)
      fun w => respects_dispatch _ _ _ _ _
  | delete =>
    exact respects_bind (respects_currentQuery id) fun d => respects_bind (respects_of _)
      fun w => respects_dispatch _ _ _ _ _
  | increment => exact hincrement false
  | decrement => exact hincrement true
  | updateOrInsert =>
    refine respects_bind (respects_of _) fun attributes => respects_bind (respects_of _)
      fun values => respects_bind (respects_of _) fun wanted => respects_bind (respects_of _)
      fun wheres => ?_
    refine respects_builder_bind (fun _ => rfl) fun b =>
      respects_bind (respects_editing id _) fun _ =>
        respects_tryFinally ?_ (respects_editing id _)
    refine respects_bind (respects_currentQuery id) fun d => respects_bind (respects_of _)
      fun w => respects_bind (respects_dispatch _ _ _ _ _) fun result => ?_
    split
    · exact respects_pure _
    · exact respects_bind (respects_of _) fun row => respects_runInsert _ _ _

/-- Making a write on an executor does the same. -/
theorem respects_makeReal (id : Nat) : Respects L (makeReal id) := by
  refine respects_builder_bind (fun _ => rfl) fun b => ?_
  have hexecutor : Respects L (executorOf b) := by
    intro s s' h
    rw [run_executorOf, run_executorOf]
    exact ⟨Session.servant_congr (L.shares h).configs b, h⟩
  refine respects_bind hexecutor fun executor => respects_bind (respects_of _) fun checked => ?_
  refine respects_bind (respects_current _) fun data => ?_
  refine respects_bind (respects_runWrite id executor checked.1 data) fun result => ?_
  exact respects_bind (respects_editing id _) fun _ => respects_pure _

/-- Copying the queued values of a query does the same. -/
theorem respects_copiedValues (id : Nat) : Respects L (copiedValues id) := by
  refine respects_bind (respects_currentQuery id) fun d => ?_
  cases d.pending with
  | none => exact respects_pure _
  | some action =>
    dsimp only
    split
    · exact respects_bind (respects_copy _) fun _ => respects_pure _
    · split
      · exact respects_bind (respects_copy _) fun _ => respects_bind (respects_pure _)
          fun _ => respects_pure _
      · exact respects_bind (respects_pure _) fun _ => respects_pure _
    · exact respects_bind (respects_pure _) fun _ => respects_pure _

/-- Copying the rows that an attempt adds does the same. -/
theorem respects_copiedAttempt (a : Attempt) : Respects L (copiedAttempt a) := by
  obtain ⟨touched, told, _ | ⟨remainder, result⟩⟩ := a
  · exact respects_pure _
  · refine respects_bind ?_ fun _ => respects_pure _
    cases remainder with
    | extended added => exact respects_bind (respects_copy added) fun _ => respects_pure _
    | whole => exact respects_pure _
    | selection kept => exact respects_pure _

theorem respects_freshTable (v : Value) : Respects L (freshTable v) := by
  refine respects_bind ?_ fun stamp => respects_pure _
  refine respects_get_bind (fun s s' h => ?_) fun s =>
    respects_bind (respects_modify fun u u' h => ⟨u.executors, u.simulations, u.controller, _, rfl,
      by rw [h.executors, h.simulations, h.controller]⟩) fun _ => respects_pure _
  rw [h.nextStamp]

/-- Publishing a table does the same. -/
theorem respects_publish (id : Option Nat) (name : String) (t : Table) :
    Respects L (publish id name t) := by
  refine respects_get_bind (fun s s' h => ?_) fun s => ?_
  · rw [h.eq_of_simulated (fun u => u.simulating id) fun _ _ => rfl]
  split
  · refine respects_get_bind (fun s s' h => ?_) fun s => ?_
    · rw [h.eq_of_simulated (fun u => u.controllerOf id) fun _ _ => rfl]
    split
    · exact respects_modify fun u u' h => ⟨u.executors, u.simulations, _, u.nextStamp, rfl,
        by rw [h.executors, h.simulations, h.controller, h.nextStamp]⟩
    · exact respects_modify fun u u' h => ⟨u.executors, _, u.controller, u.nextStamp, rfl,
        by rw [h.executors, h.simulations, h.controller, h.nextStamp]⟩
  · exact respects_pure ()

/-- Making a write in a simulation does the same. -/
theorem respects_makeSimulated (id : Nat) : Respects L (makeSimulated id) := by
  refine respects_builder_bind (fun _ => rfl) fun b => ?_
  refine respects_bind (respects_of _) fun _ => ?_
  refine respects_get_bind (fun s s' h => ?_) fun s => ?_
  · rw [h.eq_of_simulated (fun u => u.snapshot b.options.simulation) fun _ _ => rfl]
  refine respects_bind (respects_copy _) fun given => ?_
  refine respects_bind (respects_copiedValues id) fun d => ?_
  refine respects_bind (respects_copiedAttempt _) fun attempt => ?_
  refine respects_bind (respects_of _) fun left => ?_
  refine respects_bind (respects_freshTable _) fun t => ?_
  refine respects_bind (respects_publish _ _ _) fun _ => ?_
  have hreplay : Builder.Unminding fun b => { b with replay := t } := fun b c h =>
    congrArg (fun d : Builder => { d with replay := t }) h
  exact respects_bind (respects_changeBuilder id hreplay) fun _ =>
    respects_bind (respects_editing id _) fun _ => respects_pure _

/-- Making a write does the same in sessions that are alike.

**Proof sketch.** Which of the two ways is taken depends on what is simulated, which is the same in
both sessions; each way respects their likeness. -/
theorem respects_make (id : Nat) : Respects L (make id) := by
  refine respects_builder_bind (fun _ => rfl) fun b => ?_
  refine respects_get_bind (fun s s' h => ?_) fun s => ?_
  · rw [h.eq_of_simulated (fun u => u.simulating b.options.simulation) fun _ _ => rfl]
  split
  · exact respects_makeSimulated id
  · exact respects_makeReal id

end Respects

end Act

end FluentSql
