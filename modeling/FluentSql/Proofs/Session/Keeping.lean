import FluentSql.Proofs.Session.Reaching
import FluentSql.Proofs.Session.Writing
import FluentSql.Proofs.Statement.Restricted

set_option autoImplicit false

/-!
# What a write leaves as it is

Outside a simulation a write that fails leaves its builder as it was, the queued write included, and
one that is completed takes nothing but the queued write away. Both follow from what writes do to a
session: they write down what happens, use up answers of executors, put other predicates in the
place of a builder's own for a while, and announce their statements.

Listeners may do anything; what is said here is said of the frames within which they stay.

## Main definitions

* `FluentSql.Frame.Bears` — the frames within which writes stay.
* `FluentSql.Frame.entry`, `FluentSql.Frame.queries` — one builder, or all of them, stay as they
  are.
* `FluentSql.Reactor.Within` — the listeners of a session stay within a frame.

## Main results

* `FluentSql.Act.keeps_runWrite` — what the statements of a write leave as it is.
* `FluentSql.Act.make_cases` — what a write leaves as it is, completed or not.
-/

namespace FluentSql

/-! ## Frames of writes -/

namespace Frame

/-- Other predicates may be put in the place of a builder's own for a while. -/
structure Restores (F : Frame) (id : Nat) : Prop where
  restored : ∀ {s t : Session} {b : Builder} (wheres : List Predicate),
    s.builders.get? id = some b → F.rel (s.withWheres id wheres) t →
      F.rel s (t.withWheres id b.descriptor.wheres)

/-- A frame bears with the writes of a builder: what happens may be written down, executors may use
up their answers, and other predicates may be put in the place of the builder's own for a while. -/
structure Bears (F : Frame) (id : Nat) : Prop extends F.Restores id where
  traced : ∀ (s : Session) (trace : Trace), F.rel s { s with trace }
  answered : ∀ (s : Session) (executor : Nat) (source : ExecutorSource Value),
    F.rel s { s with executors := s.executors.modify executor fun e => { e with source } }

variable {F : Frame} {id : Nat} {reactor : Reactor}

/-- Statements that do not read stay within the frames that bear with writes. -/
theorem Bears.executes (h : F.Bears id) {statement : Statement}
    (hreads : statement.reads = false) : Act.Executes F reactor statement where
  carries _ _ s := h.traced s _
  ends _ _ s := h.traced s _
  setSource executor source s := h.answered s executor source
  copied hr := by simp [hreads] at hr

/-- The frame within which the builder of a number stays as it is. -/
def entry (id : Nat) : Frame := same fun s => s.builders.get? id

/-- The frame within which all builders stay as they are, and the configurations that serve them. -/
def queries : Frame where
  rel s t := t.builders = s.builders ∧ t.linked = s.linked ∧ t.configs = s.configs
  refl _ := ⟨rfl, rfl, rfl⟩
  trans := by
    rintro s t u ⟨hbuilders, hlinked, hconfigs⟩ ⟨hbuilders', hlinked', hconfigs'⟩
    exact ⟨hbuilders'.trans hbuilders, hlinked'.trans hlinked, hconfigs'.trans hconfigs⟩

/-- The frame within which some listeners stay, and sessions with them stay within another frame. -/
def among (listeners : List (String × Listener)) (F : Frame) : Frame where
  rel s t := s.listeners = listeners → t.listeners = listeners ∧ F.rel s t
  refl s hs := ⟨hs, F.refl s⟩
  trans := by
    intro s t u h h' hs
    obtain ⟨ht, hst⟩ := h hs
    obtain ⟨hu, htu⟩ := h' ht
    exact ⟨hu, F.trans hst htu⟩

/-- A builder that gets its own predicates back is as it was. -/
theorem bears_entry : (entry id).Bears id where
  traced _ _ := rfl
  answered _ _ _ := rfl
  restored := by
    intro s t b wheres hb h
    have ht : t.builders.get? id = some (b.edit fun d => { d with wheres }) :=
      h.trans (Session.get?_withWheres hb wheres)
    have hback := Session.get?_withWheres ht b.descriptor.wheres
    rw [Session.edit_edit_wheres, ← hb] at hback
    exact hback

/-- All builders are as they were once the one gets its own predicates back. -/
theorem bears_queries : queries.Bears id where
  traced _ _ := ⟨rfl, rfl, rfl⟩
  answered _ _ _ := ⟨rfl, rfl, rfl⟩
  restored := by
    rintro s t b wheres hb ⟨hbuilders, hlinked, hconfigs⟩
    have hback : (t.withWheres id b.descriptor.wheres).builders =
        ((s.withWheres id wheres).withWheres id b.descriptor.wheres).builders := by
      simp only [Session.withWheres, Session.changed] at hbuilders ⊢
      rw [hbuilders]
    rw [Session.withWheres_withWheres hb] at hback
    exact ⟨hback, hlinked, hconfigs⟩

/-- No write takes an executor away. -/
theorem bears_executors : executors.Bears id where
  traced _ _ _ h := h
  answered s executor source other h := by simpa using h
  restored _ _ h := h

/-- Nothing that a write does is about listeners. -/
theorem Bears.among (h : F.Bears id) (listeners : List (String × Listener)) :
    (F.among listeners).Bears id where
  traced s trace hs := ⟨hs, h.traced s trace⟩
  answered s executor source hs := ⟨hs, h.answered s executor source⟩
  restored wheres hb ht hs :=
    ⟨(ht hs).1, h.restored wheres hb (ht hs).2⟩

end Frame

/-- The listeners of a session stay within a frame, and leave the listeners as they are. -/
def Reactor.Within (reactor : Reactor) (F : Frame) (s : Session) : Prop :=
  ∀ (t : Session) (name : String), t.listeners = s.listeners →
    (reactor.react (t.listener name).reaction t).2.listeners = t.listeners ∧
      F.rel t (reactor.react (t.listener name).reaction t).2

/-- Listeners that do nothing stay within every frame. -/
theorem Reactor.still_within (F : Frame) (s : Session) : Reactor.still.Within F s :=
  fun t _ _ => ⟨rfl, F.refl t⟩

/-- What listeners do that stay within a frame stays within it as long as they are there. -/
theorem Frame.among_heard {F : Frame} {reactor : Reactor} {s : Session}
    (htraced : ∀ (t : Session) (trace : Trace), F.rel t { t with trace })
    (hwithin : reactor.Within F s) : (F.among s.listeners).Heard reactor where
  heard t _ ht := ⟨ht, htraced t _⟩
  warned t _ ht := ⟨ht, htraced t _⟩
  react t name ht := by
    obtain ⟨hlisteners, hrel⟩ := hwithin t name ht
    exact ⟨hlisteners.trans ht, hrel⟩

/-! ## Making a write -/

/-- A write that passes its check is one. -/
theorem Descriptor.isSome_pending {d : Descriptor} {checked : WriteKind × Value}
    (h : d.checkedAction = .ok checked) : d.pending.isSome = true := by
  cases hpending : d.pending with
  | none => simp [checkedAction, hpending] at h
  | some action => rfl

/-- A builder without its queued write. -/
def Builder.settled (b : Builder) : Builder := b.edit fun d => { d with pending := none }

/-- Whether writes of the builder of a number go to its executor, and not to a simulation. -/
def Session.real (s : Session) (id : Nat) : Bool :=
  match s.builders.get? id with
  | some b => !s.simulating b.options.simulation
  | none => true

namespace Act

variable {F : Frame} {reactor : Reactor} {s : Session} {id : Nat} {b : Builder}

/-- What is done with other predicates in the place of a builder's own stays within a frame if it
does so with any. -/
theorem keeps_withWheres {α : Type} (h : F.Restores id) {wheres : List Predicate} {body : Act α}
    (hbody : Keeps F reactor body) : Keeps F reactor (withWheres id wheres body) := by
  intro s
  cases hb : s.builders.get? id with
  | none =>
    rw [withWheres, run_bind, run_builder_of_none reactor s hb]
    exact F.refl s
  | some b =>
    rw [run_withWheres hb]
    exact h.restored wheres hb (hbody _)

/-- The statements of a write stay within the frames within which its executor stays, whatever comes
of them. -/
theorem keeps_runWrite_of (h : F.Restores id) (hF : F.Heard reactor) {executor : Nat}
    (hexecutor : ∀ (method : ExecutorMethod) (statement : Statement), statement.reads = false →
      Keeps F reactor (execute executor method statement))
    (kind : WriteKind) (data : Value) : Keeps F reactor (runWrite id executor kind data) := by
  have hinsert : ∀ rows, Keeps F reactor (runInsert id executor rows) := fun rows =>
    keeps_runInsert hF
      (fun _ _ _ hw method => hexecutor method _ (reads_insertStatement hw)) id rows
  have hchange : ∀ {w : WriteStatement} {table ps}, w.ChangesRows table ps → ∀ action data,
      Keeps F reactor (dispatch id executor action w data) := fun hw action data =>
    keeps_dispatch hF (fun method => hexecutor method _ hw.reads_eq_false) id action data
  have hincrement : ∀ decrement, Keeps F reactor (runIncrement id executor decrement data) := by
    intro decrement
    refine keeps_bind (keeps_of _) fun column => keeps_bind (keeps_of _) fun amount => ?_
    refine keeps_bind (keeps_currentQuery id) fun d => keeps_of_bind fun w hw => ?_
    exact keeps_bind (keeps_of _) fun fields =>
      hchange (d.changesRows_incrementStatement hw) _ _
  cases kind with
  | insert => exact hinsert data
  | update =>
    refine keeps_bind (keeps_currentQuery id) fun d => keeps_of_bind fun w hw => ?_
    exact hchange (Descriptor.changesRows_updateStatement hw) _ _
  | delete =>
    refine keeps_bind (keeps_currentQuery id) fun d => keeps_of_bind fun w hw => ?_
    exact hchange (d.changesRows_deleteStatement hw) _ _
  | increment => exact hincrement false
  | decrement => exact hincrement true
  | updateOrInsert =>
    refine keeps_bind (keeps_of _) fun attributes => keeps_bind (keeps_of _) fun values => ?_
    refine keeps_bind (keeps_of _) fun wanted => keeps_bind (keeps_of _) fun wheres => ?_
    refine keeps_withWheres h ?_
    refine keeps_bind (keeps_currentQuery id) fun d => keeps_of_bind fun w hw => ?_
    refine keeps_bind (hchange (Descriptor.changesRows_updateStatement hw) _ _) fun result => ?_
    split
    · exact keeps_pure _
    · exact keeps_bind (keeps_of _) fun row => hinsert _

/-- The statements of a write stay within the frames that bear with it, whatever comes of them. -/
theorem keeps_runWrite (h : F.Bears id) (hF : F.Heard reactor) (executor : Nat) (kind : WriteKind)
    (data : Value) : Keeps F reactor (runWrite id executor kind data) :=
  keeps_runWrite_of h.toRestores hF
    (fun method _ hreads => keeps_execute (h.executes hreads) executor method) kind data

/-- Without a builder no write is made. -/
theorem run_make_of_none (hb : s.builders.get? id = none) :
    (make id).run reactor s = (.error .missingKey, s) := by
  rw [make, run_bind, run_builder_of_none reactor s hb]

/-- A write fails and stays within the frames that bear with it, or there was one queued, its
statements stay within these frames, and it is taken away.

**Proof sketch.** By what `run_make_real` runs: no executor or a check that fails leaves the session
alone, and the statements of the write are kept by `keeps_runWrite`. -/
theorem make_cases (h : F.Bears id) (hF : F.Heard reactor) (hreal : s.real id = true) :
    (∃ e t, (make id).run reactor s = (.error e, t) ∧ F.rel s t) ∨
      ∃ result b t, (make id).run reactor s = (.ok result, t.changed id Builder.settled) ∧
        s.builders.get? id = some b ∧ b.descriptor.pending.isSome = true ∧ F.rel s t := by
  cases hb : s.builders.get? id with
  | none => exact .inl ⟨_, _, run_make_of_none hb, F.refl s⟩
  | some b =>
    have hsimulating : s.simulating b.options.simulation = false := by
      simpa [Session.real, hb] using hreal
    rw [run_make_real hb hsimulating]
    cases s.servant b with
    | error e => exact .inl ⟨_, _, rfl, F.refl s⟩
    | ok executor =>
      cases hchecked : b.descriptor.checkedAction with
      | error e => exact .inl ⟨_, _, rfl, F.refl s⟩
      | ok checked =>
        have hrun : F.rel s
            ((runWrite id executor checked.1 (s.current checked.2)).run reactor s).2 :=
          keeps_runWrite h hF executor checked.1 _ s
        dsimp only
        rcases hr : (runWrite id executor checked.1 (s.current checked.2)).run reactor s with
          ⟨e | result, t⟩ <;> rw [hr] at hrun
        · exact .inl ⟨e, t, rfl, hrun⟩
        · exact .inr ⟨result, b, t, rfl, rfl, Descriptor.isSome_pending hchecked, hrun⟩

end Act

end FluentSql
