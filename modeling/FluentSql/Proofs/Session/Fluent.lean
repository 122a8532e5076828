import FluentSql.Proofs.Call.Preserving
import FluentSql.Proofs.Session.Isolation
import FluentSql.Session.Chaining

set_option autoImplicit false

/-!
# What fluent calls leave as it is

A chainable call adds to the query of its builder. It has no business with the table of the query,
with where the builder belongs, with whether the builder is tracked, or with the table on which its
writes are replayed; and no business with any simulation.

## Main definitions

* `FluentSql.Builder.inquiry` — what a builder asks.
* `FluentSql.Frame.holding` — simulations stay as they are, and a part of every builder.
* `FluentSql.Frame.Overlooks`, `FluentSql.Frame.Hosts`, `FluentSql.Frame.Accommodates` — a frame has
  room for what calls do besides their edits.
* `FluentSql.Session.chained` — a session after chainable calls, whether they failed or not.

## Main results

* `FluentSql.Act.keeps_chain_of` — making a call stays within a frame if its edits do.
* `FluentSql.Act.keeps_chain` — what making a call leaves as it is.
* `FluentSql.Act.run_chain_of_edit` — making a call that does nothing but edit the query.
-/

namespace FluentSql

/-- What a builder asks: its query, and where it belongs. -/
def Builder.inquiry (b : Builder) : Descriptor × Options := (b.descriptor, b.options)

/-! ## Calls -/

/-- The frame within which simulations stay as they are, what serves them, and of every builder a
part. -/
def Frame.holding {β : Type} (part : Builder → β) : Frame where
  rel s t := (t.simulations = s.simulations ∧ t.configs = s.configs ∧ t.controller = s.controller) ∧
    ∀ id b, s.builders.get? id = some b →
      ∃ c, t.builders.get? id = some c ∧ part c = part b
  refl s := ⟨⟨rfl, rfl, rfl⟩, fun id b hb => ⟨b, hb, rfl⟩⟩
  trans := by
    rintro s t u ⟨⟨hsimulations, hconfigs, hcontroller⟩, hst⟩
      ⟨⟨hsimulations', hconfigs', hcontroller'⟩, htu⟩
    refine ⟨⟨hsimulations'.trans hsimulations, hconfigs'.trans hconfigs,
      hcontroller'.trans hcontroller⟩, fun id b hb => ?_⟩
    obtain ⟨c, hc, hpart⟩ := hst id b hb
    obtain ⟨c', hc', hpart'⟩ := htu id c hc
    exact ⟨c', hc', hpart'.trans hpart⟩

/-- What leaves a part of every builder leaves what can be told from it. -/
theorem Frame.holding_of_holding {β γ : Type} {part : Builder → β} (f : β → γ) {s t : Session}
    (h : (holding part).rel s t) : (holding fun b => f (part b)).rel s t := by
  refine ⟨h.1, fun id b hb => ?_⟩
  obtain ⟨c, hc, hpart⟩ := h.2 id b hb
  exact ⟨c, hc, congrArg f hpart⟩

/-- Whatever builder a function is handed, its calls stay within a frame. -/
def Reactor.Invokes (reactor : Reactor) (F : Frame) : Prop :=
  ∀ (id : Nat) (condition : Value) (calls : List Call) (s : Session),
    F.rel s (reactor.invoke id condition calls s).2

/-- Functions that do nothing stay within every frame. -/
theorem Reactor.still_invokes (F : Frame) : Reactor.still.Invokes F := fun _ _ _ s => F.refl s

/-- A query that a call may be handed: that of a builder of the session, or a copy of it. -/
def Session.HandsOut (s : Session) (q : Descriptor) : Prop :=
  ∃ other c, s.builders.get? other = some c ∧
    (q = c.descriptor ∨ ∃ σ, q = c.descriptor.mapValues (Value.rename σ))

/-- A frame overlooks what is noted in the logs of builders, and builders that are copied. -/
structure Frame.Overlooks (F : Frame) : Prop where
  noted : ∀ (s : Session) (id : Nat) (change : Builder → Builder),
    (∀ b, ∃ log depth, change b = { b with log, depth }) → F.rel s (s.changed id change)
  copied : ∀ (s : Session) (ids : List Nat), F.rel s (s.copyBuilders ids).2

/-- A frame has room for what carrying out a call on a builder does besides its edits: the builders
that are copied for it, and the functions of the session that it hands the builder to. -/
structure Frame.Hosts (F : Frame) (reactor : Reactor) (id : Nat) : Prop where
  copied : ∀ (s : Session) (ids : List Nat), F.rel s (s.copyBuilders ids).2
  invoked : ∀ (condition : Value) (mark : Nat) (s : Session),
    F.rel s (reactor.invoke id condition ((s.functions.get? mark).getD []) s).2

/-- A frame has room for what making a call does besides its edits: what it notes in the log of the
builder, the builders that are copied for it, and the functions that it hands the builder to. -/
structure Frame.Accommodates (F : Frame) (reactor : Reactor) : Prop extends F.Overlooks where
  invoked : reactor.Invokes F

/-- A frame that has room for making calls has room for carrying them out. -/
theorem Frame.Accommodates.hosts {F : Frame} {reactor : Reactor} (hF : F.Accommodates reactor)
    (id : Nat) : F.Hosts reactor id :=
  ⟨hF.copied, fun condition _ s => hF.invoked id condition _ s⟩

namespace Act

section Holding

variable {β : Type} {part : Builder → β} {reactor : Reactor}

/-- A session with a builder changed in other parts. -/
theorem rel_holding_changed (s : Session) (id : Nat) {change : Builder → Builder}
    (h : ∀ b, part (change b) = part b) : (Frame.holding part).rel s (s.changed id change) := by
  refine ⟨⟨rfl, rfl, rfl⟩, fun other b hb => ?_⟩
  by_cases hother : id = other
  · subst hother
    exact ⟨change b, by simp [Session.changed, hb], h b⟩
  · exact ⟨b, (Directory.get?_modify_of_ne _ hother _).trans hb, rfl⟩

/-- Changes of a builder that come to the same part, in sessions with the same parts. -/
theorem rel_holding_changed_changed {s t : Session}
    (hst : (Frame.holding part).rel s t) (id : Nat) {f g : Builder → Builder}
    (h : ∀ b c, s.builders.get? id = some b → t.builders.get? id = some c → part c = part b →
      part (g c) = part (f b)) :
    (Frame.holding part).rel (s.changed id f) (t.changed id g) := by
  refine ⟨hst.1, fun other b hb => ?_⟩
  by_cases hother : id = other
  · subst hother
    rw [Session.changed, Directory.get?_modify] at hb
    obtain ⟨b₀, hb₀, rfl⟩ := Option.map_eq_some_iff.mp hb
    obtain ⟨c, hc, hpart⟩ := hst.2 id b₀ hb₀
    exact ⟨g c, by simp [Session.changed, hc], h b₀ c hb₀ hc hpart⟩
  · have hb' : s.builders.get? other = some b :=
      (Directory.get?_modify_of_ne _ hother _).symm.trans hb
    obtain ⟨c, hc, hpart⟩ := hst.2 other b hb'
    exact ⟨c, (Directory.get?_modify_of_ne _ hother _).trans hc, hpart⟩

/-- A session with another builder that has the same part. -/
theorem rel_holding_replaced {s : Session} {id : Nat} {b c : Builder}
    (hb : s.builders.get? id = some b) (h : part c = part b) :
    (Frame.holding part).rel s (s.changed id fun _ => c) := by
  refine ⟨⟨rfl, rfl, rfl⟩, fun other b' hb' => ?_⟩
  by_cases hother : id = other
  · subst hother
    obtain rfl : b = b' := Option.some.inj (hb.symm.trans hb')
    exact ⟨c, by simp [Session.changed, hb], h⟩
  · exact ⟨b', (Directory.get?_modify_of_ne _ hother _).trans hb', rfl⟩

/-- A change of a builder in other parts. -/
theorem keeps_changeBuilder_holding (id : Nat) {change : Builder → Builder}
    (h : ∀ b, part (change b) = part b) :
    Keeps (Frame.holding part) reactor (changeBuilder id change) :=
  fun s => rel_holding_changed s id h

theorem keeps_note_holding (h : ∀ (b : Builder) step details, part (b.note step details) = part b)
    (id : Nat) (step : String) (details : Value) :
    Keeps (Frame.holding part) reactor (note id step details) := by
  refine keeps_bind (keeps_builder id) fun b => keeps_bind keeps_get fun s => ?_
  split
  · exact keeps_changeBuilder_holding id fun b => h b step details
  · exact keeps_pure ()

/-- Adding copies of builders leaves those that there are. -/
theorem rel_holding_copyBuilders (s : Session) (ids : List Nat) :
    (Frame.holding part).rel s (s.copyBuilders ids).2 :=
  ⟨⟨rfl, rfl, rfl⟩, fun _ b hb => ⟨b, s.get?_copyBuilders ids hb, rfl⟩⟩

theorem keeps_copy_holding (v : Value) : Keeps (Frame.holding part) reactor (copy v) :=
  keeps_copy rel_holding_copyBuilders v

end Holding

variable {reactor : Reactor}

/-- The query that is copied for a call is one that the session hands out. -/
theorem handsOut_of_run_copyQuery {other : Nat} {q : Descriptor} {s t : Session}
    (h : (copyQuery other).run reactor s = (.ok q, t)) : t.HandsOut q := by
  cases hb : s.builders.get? other with
  | none =>
    rw [copyQuery, run_bind_of_error _ _ (run_builder_of_none reactor s hb)] at h
    cases h
  | some c =>
    rw [copyQuery, run_builder_bind reactor s hb, run_get_bind] at h
    dsimp only at h
    split at h
    · cases h
      exact ⟨other, c, hb, .inl rfl⟩
    · cases h
      exact ⟨other, c, s.get?_copyBuilders _ hb, .inr ⟨_, rfl⟩⟩

section Overlooks

variable {F : Frame} (hF : F.Overlooks)

include hF

/-- A note in a log. -/
theorem keeps_note (id : Nat) (step : String) (details : Value) :
    Keeps F reactor (note id step details) := by
  refine keeps_bind (keeps_builder id) fun b => keeps_bind keeps_get fun s => ?_
  split
  · exact fun t => hF.noted t id _ fun _ => ⟨_, _, rfl⟩
  · exact keeps_pure ()

/-- What is done one level deeper. -/
theorem keeps_deeper (id : Nat) {body : Act Unit} (hbody : Keeps F reactor body) :
    Keeps F reactor (deeper id body) := by
  have hdown : Keeps F reactor (changeBuilder id fun b => { b with depth := b.depth + 1 }) :=
    fun s => hF.noted s id _ fun _ => ⟨_, _, rfl⟩
  refine keeps_bind hdown fun _ s => ?_
  rw [run_tryFinally]
  have hs := hbody s
  rcases hr : body.run reactor s with ⟨outcome, t⟩
  rw [hr] at hs
  exact F.trans hs (hF.noted t id _ fun _ => ⟨_, _, rfl⟩)

/-- Recording a call. -/
theorem keeps_record (id : Nat) (m : Method) (args : Arguments) :
    Keeps F reactor (record id m args) := by
  refine keeps_bind (keeps_builder id) fun b => ?_
  split
  · exact keeps_note hF id _ _
  · exact keeps_pure ()

end Overlooks

section Copied

variable {F : Frame} (hcopied : ∀ (s : Session) (ids : List Nat), F.rel s (s.copyBuilders ids).2)

include hcopied

theorem keeps_copyQuery (id : Nat) : Keeps F reactor (copyQuery id) := by
  refine keeps_bind (keeps_builder id) fun b => keeps_bind keeps_get fun s => ?_
  split
  · exact keeps_pure _
  · exact fun t => hcopied t _

/-- Copying the query that a call is handed, if it is handed one. -/
theorem keeps_handed (args : Arguments) :
    Keeps F reactor (((args.get? "query").bind Value.queried?).mapM copyQuery) := by
  cases (args.get? "query").bind Value.queried? with
  | none => exact F.refl
  | some other =>
    rw [Option.mapM_some]
    exact keeps_bind (keeps_copyQuery hcopied other) fun d => keeps_pure (some d)

end Copied

/-- Carrying out a chainable call stays within a frame if the edits of the call do, in every session
that hands out the query that the call is handed. -/
theorem keeps_perform {F : Frame} {id : Nat} (hF : F.Hosts reactor id) {m : Method}
    {args : Arguments}
    (hedits : ∀ (s : Session) (b : Builder) (query : Option Descriptor),
      s.builders.get? id = some b → (∀ q, query = some q → s.HandsOut q) →
        F.rel s (s.changed id fun _ => ((m.perform (s.context b query) args).run b).2)) :
    Keeps F reactor (perform id m args) := by
  have hcallBack : ∀ condition, Keeps F reactor (callBack id condition args) := by
    intro condition
    refine keeps_bind (keeps_of _) fun function => ?_
    unfold invoke
    split
    · intro s
      rw [run_get_bind]
      exact hF.invoked condition _ s
    · exact keeps_fail _
  have hothers : Keeps F reactor (do
      let query ← ((args.get? "query").bind Value.queried?).mapM copyQuery
      editBuilder id query fun ctx => m.perform ctx args) := by
    intro s
    refine rel_bind (keeps_handed hF.copied args s) fun query t hquery => ?_
    have hhanded : ∀ q, query = some q → t.HandsOut q := by
      rintro q rfl
      cases hother : (args.get? "query").bind Value.queried? with
      | none =>
        rw [hother] at hquery
        cases hquery
      | some other =>
        rw [hother] at hquery
        obtain ⟨q', u, hcopy, hsome⟩ := run_bind_eq_ok.mp hquery
        cases hsome
        exact handsOut_of_run_copyQuery hcopy
    cases hb : t.builders.get? id with
    | none =>
      rw [editBuilder, run_get_bind, run_bind_of_error _ _ (run_builder_of_none reactor t hb)]
      exact F.refl t
    | some b =>
      rw [editBuilder, run_get_bind, run_builder_bind reactor t hb]
      exact hedits t b query hb hhanded
  unfold perform
  split
  · refine keeps_bind (keeps_of _) fun condition => ?_
    split
    · exact hcallBack condition
    · exact keeps_pure ()
  · refine keeps_bind (keeps_of _) fun condition => ?_
    split
    · exact hcallBack condition
    · exact keeps_pure ()
  · exact hothers

/-- Making a chainable call stays within a frame if the edits do of the call that is meant. -/
theorem keeps_chain_of {F : Frame} (hF : F.Accommodates reactor) {id : Nat} {m : Method}
    {args : Arguments}
    (hedits : ∀ meant given, m.expand args = .ok (meant, given) →
      ∀ (s : Session) (b : Builder) (query : Option Descriptor),
        s.builders.get? id = some b → (∀ q, query = some q → s.HandsOut q) →
          F.rel s (s.changed id fun _ => ((meant.perform (s.context b query) given).run b).2)) :
    Keeps F reactor (chain id m args) := by
  refine keeps_of_bind fun expanded hexpanded => ?_
  obtain ⟨meant, given⟩ := expanded
  have hrest : Keeps F reactor (do
      record id meant given
      deeper id (perform id meant given)) := by
    refine keeps_bind (keeps_record hF.toOverlooks id meant given) fun _ => ?_
    exact keeps_deeper hF.toOverlooks id (keeps_perform (hF.hosts id)
      (hedits meant given hexpanded))
  dsimp only
  split
  · exact keeps_bind (keeps_fail _) fun _ => hrest
  · exact hrest

/-- Making a chainable call, whether it fails or not, keeps what chainable calls leave, if functions
do so. -/
theorem keeps_chain (hinvokes : reactor.Invokes (Frame.holding Builder.standing)) (id : Nat)
    (m : Method) (args : Arguments) :
    Keeps (Frame.holding Builder.standing) reactor (chain id m args) := by
  have hroom : (Frame.holding Builder.standing).Accommodates reactor := by
    refine ⟨⟨fun s id change hchange => rel_holding_changed s id fun b => ?_,
      rel_holding_copyBuilders⟩, hinvokes⟩
    obtain ⟨log, depth, hb⟩ := hchange b
    rw [hb]
    rfl
  exact keeps_chain_of hroom fun meant given _ s b query hb _ =>
    rel_holding_replaced hb (meant.holds_perform _ _ b)

end Act

/-- A session after chainable calls on its builders, whether they failed or not. -/
def Session.chained (reactor : Reactor) (s : Session) (calls : List (Nat × Method × Arguments)) :
    Session :=
  calls.foldl (fun s c => ((Act.chain c.1 c.2.1 c.2.2).run reactor s).2) s

/-- A builder with more in its log. -/
def Builder.logged (new : List LogEntry) (b : Builder) : Builder := { b with log := b.log ++ new }

/-- A builder with nothing more in its log. -/
theorem Builder.logged_nil (b : Builder) : b.logged [] = b := by
  rw [logged, List.append_nil]

namespace Act

/-! ## Calls that edit a query -/

variable {reactor : Reactor} {s : Session} {id : Nat} {b : Builder}

/-- A note in the log of a builder that there is is always made, and adds to the log, if it does
anything. -/
theorem exists_run_note (reactor : Reactor) (hb : s.builders.get? id = some b) (step : String)
    (details : Value) :
    ∃ new, (note id step details).run reactor s = (.ok (), s.changed id (.logged new)) := by
  rw [note, run_builder_bind _ _ hb, run_get_bind]
  split
  · exact ⟨[{ step, details }], rfl⟩
  · exact ⟨[], congrArg (Prod.mk _) (Session.changed_eq_self hb b.logged_nil).symm⟩

/-- A note in the log of a builder that there is is no matter for what builders ask. -/
theorem run_note (hb : s.builders.get? id = some b) (step : String) (details : Value) :
    ∃ t, (note id step details).run reactor s = (.ok (), t) ∧
      t = { s with builders := t.builders } ∧ (Frame.holding Builder.inquiry).rel s t := by
  obtain ⟨new, hnote⟩ := exists_run_note reactor hb step details
  exact ⟨_, hnote, rfl, rel_holding_changed s id fun _ => rfl⟩

/-- Recording a call on a builder that there is is no matter for what builders ask. -/
theorem run_record (hb : s.builders.get? id = some b) (m : Method) (args : Arguments) :
    ∃ t, (record id m args).run reactor s = (.ok (), t) ∧
      t = { s with builders := t.builders } ∧ (Frame.holding Builder.inquiry).rel s t := by
  rw [record, run_builder_bind _ _ hb]
  split
  · exact run_note hb _ _
  · exact ⟨s, run_pure _ _ _, rfl, (Frame.holding _).refl s⟩

/-- Editing a builder runs the edits on it, and leaves it as they do. -/
theorem run_editBuilder (hb : s.builders.get? id = some b) (query : Option Descriptor)
    (edits : Context → Edit Unit) :
    (editBuilder id query edits).run reactor s =
      (((edits (s.context b query)).run b).1,
        s.changed id fun _ => ((edits (s.context b query)).run b).2) := by
  rw [editBuilder, run_get_bind, run_builder_bind _ _ hb]
  rfl

/-- A call that does nothing but edit the query of a builder changes nothing but builders; it leaves
that query edited, and everything else that builders ask as it is. -/
theorem run_chain_of_edit (hb : s.builders.get? id = some b) {m : Method} {args : Arguments}
    (hexpand : m.expand args = .ok (m, args)) (hfit : m.accepts args = true)
    (hwhen : m ≠ .when_) (hunless : m ≠ .unless_)
    (hquery : (args.get? "query").bind Value.queried? = none)
    {change : Descriptor → Descriptor}
    (hedit : ∀ ctx c, (m.perform ctx args).run c = (.ok (), c.edit change)) :
    ∃ t, (chain id m args).run reactor s = (.ok (), t) ∧ t = { s with builders := t.builders } ∧
      (Frame.holding Builder.options).rel s t ∧
      (∃ c, t.builders.get? id = some c ∧ c.inquiry = (change b.descriptor, b.options)) ∧
      ∀ other b', id ≠ other → s.builders.get? other = some b' →
        ∃ c', t.builders.get? other = some c' ∧ c'.inquiry = b'.inquiry := by
  have hperform : perform id m args = editBuilder id none fun ctx => m.perform ctx args := by
    unfold perform
    split
    · exact absurd rfl hwhen
    · exact absurd rfl hunless
    · rw [hquery, Option.mapM_none, pure_bind]
  -- The call is recorded, then carried out one level deeper on the log.
  obtain ⟨u, hrecord, husame, hsu⟩ := run_record hb m args
  have hdown : (Frame.holding Builder.inquiry).rel s
      (u.changed id fun c => { c with depth := c.depth + 1 }) :=
    (Frame.holding _).trans hsu (rel_holding_changed u id fun _ => rfl)
  obtain ⟨c, hc, hcb⟩ := hdown.2 id b hb
  have hvsame : (u.changed id fun c => { c with depth := c.depth + 1 }) = { s with
      builders := (u.changed id fun c => { c with depth := c.depth + 1 }).builders } := by
    rw [husame]
    rfl
  generalize hv : (u.changed id fun c => { c with depth := c.depth + 1 }) = v at hdown hc hvsame
  have hbody : (perform id m args).run reactor v =
      (.ok (), v.changed id fun _ => c.edit change) := by
    rw [hperform, run_editBuilder hc, hedit]
  have hedited : (Frame.holding Builder.inquiry).rel (s.changed id fun b => b.edit change)
      (v.changed id fun _ => c.edit change) := by
    refine rel_holding_changed_changed hdown id fun b' c' hb' hc' _ => ?_
    obtain rfl : b = b' := Option.some.inj (hb.symm.trans hb')
    obtain ⟨hdescriptor, hoptions⟩ := Prod.mk.inj hcb
    simp only [Builder.inquiry, Builder.edit, hdescriptor, hoptions]
  have hup : (Frame.holding Builder.inquiry).rel (v.changed id fun _ => c.edit change)
      ((v.changed id fun _ => c.edit change).changed id fun c => { c with depth := c.depth - 1 }) :=
    rel_holding_changed _ id fun _ => rfl
  have hend := (Frame.holding _).trans hedited hup
  have hb' : (s.changed id fun b => b.edit change).builders.get? id = some (b.edit change) := by
    rw [Session.changed, Directory.get?_modify, hb]
    rfl
  refine ⟨_, ?_, ?_, ?_, hend.2 id _ hb', fun other b' hother hb' => ?_⟩
  · rw [chain, hexpand, run_of_ok_bind]
    dsimp only
    rw [hfit]
    refine (run_bind_of_ok _ _ hrecord _).trans ?_
    rw [deeper, run_bind_of_ok _ _ (run_changeBuilder _ _ _ _), hv, run_tryFinally, hbody]
    rfl
  · rw [hvsame]
    rfl
  · have hsame : (Frame.holding Builder.options).rel s (s.changed id fun b => b.edit change) :=
      rel_holding_changed s id fun _ => rfl
    exact (Frame.holding _).trans hsame (Frame.holding_of_holding Prod.snd hend)
  · exact hend.2 other b' ((Directory.get?_modify_of_ne _ hother _).trans hb')

/-- An edit that passes is followed by the next. -/
theorem run_edit_bind {e f : Edit Unit} {c c' : Builder} (h : e.run c = (.ok (), c')) :
    (do e; f).run c = f.run c' := by
  rw [Edit.run] at h
  simp only [Edit.run, ExceptT.run_bind, StateT.run_bind, h]
  rfl

end Act

end FluentSql
