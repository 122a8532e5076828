import FluentSql.Proofs.Directory
import FluentSql.Session.Act

set_option autoImplicit false

/-!
# Running acts

How the acts that others are made of run: each equation gives an outcome and the session
afterwards. What a run leaves of a session is stated by frames, relations between the session
before and the one afterwards that carry over from the parts of an act to the whole.

## Main definitions

* `FluentSql.Session.changed` — a session with one builder changed.
* `FluentSql.Frame` — a reflexive and transitive relation between sessions.
* `FluentSql.Act.Keeps` — every run of an act, failing or not, stays within a frame.

## Main results

* `FluentSql.Act.run_bind`, `FluentSql.Act.run_tryFinally` — sequences, and what is done at the end
  in any case.
* `FluentSql.Act.keeps_bind` — a sequence keeps what its parts keep.
-/

namespace FluentSql

/-! ## Sessions with one builder changed -/

/-- The session with one builder changed. -/
def Session.changed (s : Session) (id : Nat) (change : Builder → Builder) : Session :=
  { s with builders := s.builders.modify id change }

namespace Session

/-- A session with a builder changed twice. -/
theorem changed_changed (s : Session) (id : Nat) (f g : Builder → Builder) :
    (s.changed id f).changed id g = s.changed id fun b => g (f b) := by
  rw [changed, changed, Directory.modify_modify]
  rfl

variable {s : Session} {id : Nat} {b : Builder}

/-- What a change makes of the builder that there is tells the session. -/
theorem changed_congr (hb : s.builders.get? id = some b) {f g : Builder → Builder}
    (h : f b = g b) : s.changed id f = s.changed id g := by
  rw [changed, changed, Directory.modify_congr hb h]

/-- A change that leaves the builder that there is leaves the session. -/
theorem changed_eq_self (hb : s.builders.get? id = some b) {f : Builder → Builder}
    (h : f b = b) : s.changed id f = s := by
  rw [changed, Directory.modify_eq_self hb h]

/-- The builder that was changed. -/
theorem get?_changed (hb : s.builders.get? id = some b) (f : Builder → Builder) :
    (s.changed id f).builders.get? id = some (f b) := by
  rw [changed, Directory.get?_modify, hb]
  rfl

/-- The builders that were not changed. -/
theorem get?_changed_of_ne {other : Nat} (h : id ≠ other) (f : Builder → Builder) :
    (s.changed id f).builders.get? other = s.builders.get? other :=
  Directory.get?_modify_of_ne _ h f

end Session

/-! ## Equations -/

namespace Act

section Run

variable {α β : Type} (reactor : Reactor) (s : Session)

@[simp] theorem run_pure (x : α) : (pure x : Act α).run reactor s = (.ok x, s) := rfl

@[simp] theorem run_of (e : Except Error α) : (of e).run reactor s = (e, s) := rfl

@[simp] theorem run_fail (e : Error) : (fail e : Act α).run reactor s = (.error e, s) := rfl

@[simp] theorem run_get : (get : Act Session).run reactor s = (.ok s, s) := rfl

@[simp] theorem run_read : (read : Act Reactor).run reactor s = (.ok reactor, s) := rfl

@[simp] theorem run_set (t : Session) : (set t : Act Unit).run reactor s = (.ok (), t) := rfl

@[simp] theorem run_modify (f : Session → Session) :
    (modify f : Act Unit).run reactor s = (.ok (), f s) := rfl

/-- A sequence runs its second part with the value of the first, and stops if there is none. -/
theorem run_bind (a : Act α) (f : α → Act β) :
    (a >>= f).run reactor s =
      match a.run reactor s with
      | (.ok x, t) => (f x).run reactor t
      | (.error e, t) => (.error e, t) := by
  simp only [run, ReaderT.run_bind, ExceptT.run_bind, StateT.run_bind]
  rcases h : StateT.run (ExceptT.run (ReaderT.run a reactor)) s with ⟨_ | x, t⟩ <;> rfl

/-- A sequence goes on with the value of its first part, if it has one. -/
theorem run_bind_of_ok {a : Act α} {x : α} {t : Session} (h : a.run reactor s = (.ok x, t))
    (f : α → Act β) : (a >>= f).run reactor s = (f x).run reactor t := by
  rw [run_bind, h]

/-- A sequence fails with the error of its first part, if it has one. -/
theorem run_bind_of_error {a : Act α} {e : Error} {t : Session}
    (h : a.run reactor s = (.error e, t)) (f : α → Act β) :
    (a >>= f).run reactor s = (.error e, t) := by
  rw [run_bind, h]

variable {reactor s} in
/-- A sequence comes to a value just if its first part does and its second with the value of it. -/
theorem run_bind_eq_ok {a : Act α} {f : α → Act β} {y : β} {u : Session} :
    (a >>= f).run reactor s = (.ok y, u) ↔
      ∃ x t, a.run reactor s = (.ok x, t) ∧ (f x).run reactor t = (.ok y, u) := by
  rw [run_bind]
  constructor
  · intro h
    rcases hr : a.run reactor s with ⟨e | x, t⟩
    · rw [hr] at h
      cases h
    · rw [hr] at h
      exact ⟨x, t, rfl, h⟩
  · rintro ⟨x, t, hr, h⟩
    rw [hr]
    exact h

/-- What follows an act may be replaced by what runs the same. -/
theorem run_bind_congr {a : Act α} {f g : α → Act β}
    (h : ∀ x t, (f x).run reactor t = (g x).run reactor t) :
    (a >>= f).run reactor s = (a >>= g).run reactor s := by
  rw [run_bind, run_bind]
  rcases a.run reactor s with ⟨_ | x, t⟩
  · rfl
  · exact h x t

/-- What is done at the end is done in any case, and fails the whole if it fails.

**Proof sketch.** By the outcomes of the two parts; in each of the four cases both sides compute to
the same. -/
theorem run_tryFinally (a : Act α) (b : Act Unit) :
    (tryFinally a b).run reactor s =
      match a.run reactor s with
      | (outcome, t) =>
        match b.run reactor t with
        | (.ok _, u) => (outcome, u)
        | (.error e, u) => (.error e, u) := by
  rcases ha : a.run reactor s with ⟨outcome, t⟩
  rcases hb : b.run reactor t with ⟨final, u⟩
  simp only [run, ExceptT.run, StateT.run, ReaderT.run] at ha hb
  cases outcome <;> cases final <;>
    simp only [run, tryFinally, tryFinally', MonadFinally.tryFinally', ExceptT.run, StateT.run,
      ReaderT.run, ExceptT.mk, bind, StateT.bind, Functor.map, ExceptT.map, ha, hb] <;>
    rfl

/-- An act whose failure is caught keeps what was changed before it. -/
theorem run_tryCatch (a : Act α) (handle : Error → Act α) :
    (tryCatch a handle).run reactor s =
      match a.run reactor s with
      | (.ok x, t) => (.ok x, t)
      | (.error e, t) => (handle e).run reactor t := by
  rcases ha : a.run reactor s with ⟨outcome, t⟩
  simp only [run, ExceptT.run, StateT.run, ReaderT.run] at ha
  simp only [run, tryCatch, tryCatchThe, MonadExceptOf.tryCatch, ExceptT.tryCatch, ExceptT.run,
    StateT.run, ReaderT.run, ExceptT.mk, bind, StateT.bind, ha]
  cases outcome <;> rfl

/-- A builder that there is is found. -/
theorem run_builder {id : Nat} {b : Builder} (h : s.builders.get? id = some b) :
    (builder id).run reactor s = (.ok b, s) := by
  rw [builder, run_bind, run_get]
  simp [h]

/-- A builder that there is not is not found. -/
theorem run_builder_of_none {id : Nat} (h : s.builders.get? id = none) :
    (builder id).run reactor s = (.error .missingKey, s) := by
  rw [builder, run_bind, run_get]
  simp [h]

@[simp] theorem run_current (v : Value) : (current v).run reactor s = (.ok (s.current v), s) := rfl

/-- The query of a builder is looked at in the session as it is. -/
theorem run_currentQuery {id : Nat} {b : Builder} (h : s.builders.get? id = some b) :
    (currentQuery id).run reactor s = (.ok (s.currentQuery b.descriptor), s) := by
  rw [currentQuery, run_bind, run_get]
  simp only [run_bind, run_builder reactor s h, run_pure]

@[simp] theorem run_changeBuilder (id : Nat) (change : Builder → Builder) :
    (changeBuilder id change).run reactor s = (.ok (), s.changed id change) := rfl

/-- Acts that need a check to pass go on with its value. -/
theorem run_of_ok_bind (x : α) (f : α → Act β) :
    (of (.ok x) >>= f).run reactor s = (f x).run reactor s := rfl

/-- Acts that need a check to pass fail with its error. -/
theorem run_of_error_bind (e : Error) (f : α → Act β) :
    (of (.error e) >>= f).run reactor s = (.error e, s) := rfl

/-- Acts that look at the session go on with it. -/
theorem run_get_bind (f : Session → Act β) :
    ((get : Act Session) >>= f).run reactor s = (f s).run reactor s := rfl

/-- Acts that look for a builder that there is go on with it. -/
theorem run_builder_bind {id : Nat} {b : Builder} (h : s.builders.get? id = some b)
    (f : Builder → Act β) : (builder id >>= f).run reactor s = (f b).run reactor s :=
  run_bind_of_ok reactor s (run_builder reactor s h) f

/-- A copy is always made. -/
theorem exists_run_copy (v : Value) :
    ∃ v' t, (copy v).run reactor s = (.ok v', t) := by
  rw [copy, run_get_bind]
  split
  · exact ⟨_, _, rfl⟩
  · exact ⟨_, _, rfl⟩

end Run

end Act

/-! ## Frames -/

/-- A relation between the session before something and the one afterwards: doing nothing is within
it, and so are two things within it one after the other. -/
structure Frame where
  rel : Session → Session → Prop
  refl : ∀ s, rel s s
  trans : ∀ {s t u}, rel s t → rel t u → rel s u

namespace Frame

/-- The frame within which a part of the session stays as it is. -/
def same {β : Type} (part : Session → β) : Frame where
  rel s t := part t = part s
  refl _ := rfl
  trans h h' := h'.trans h

end Frame

namespace Act

/-- Every run of an act stays within a frame, whatever its outcome. -/
def Keeps {α : Type} (F : Frame) (reactor : Reactor) (a : Act α) : Prop :=
  ∀ s, F.rel s (a.run reactor s).2

section Keeps

variable {α β : Type} {F : Frame} {reactor : Reactor}

theorem keeps_pure (x : α) : Keeps F reactor (pure x : Act α) := F.refl

theorem keeps_of (e : Except Error α) : Keeps F reactor (of e) := F.refl

theorem keeps_fail (e : Error) : Keeps F reactor (fail e : Act α) := F.refl

theorem keeps_get : Keeps F reactor (get : Act Session) := F.refl

/-- A change keeps the frame that it stays within. -/
theorem keeps_modify {f : Session → Session} (h : ∀ s, F.rel s (f s)) :
    Keeps F reactor (modify f : Act Unit) := h

/-- The session after a run of an act that keeps a frame is within the frame. -/
theorem Keeps.rel {a : Act α} (h : Keeps F reactor a) {s t : Session} {outcome : Except Error α}
    (ha : a.run reactor s = (outcome, t)) : F.rel s t := by
  have hs := h s
  rwa [ha] at hs

/-- A run of a sequence stays within a frame if the runs of its parts do. -/
theorem rel_bind {a : Act α} {f : α → Act β} {s : Session} (ha : F.rel s (a.run reactor s).2)
    (hf : ∀ x t, a.run reactor s = (.ok x, t) → F.rel t ((f x).run reactor t).2) :
    F.rel s ((a >>= f).run reactor s).2 := by
  rw [run_bind]
  rcases hr : a.run reactor s with ⟨_ | x, t⟩ <;> rw [hr] at ha
  · exact ha
  · exact F.trans ha (hf x t hr)

/-- A sequence keeps what its parts keep. -/
theorem keeps_bind {a : Act α} {f : α → Act β} (ha : Keeps F reactor a)
    (hf : ∀ x, Keeps F reactor (f x)) : Keeps F reactor (a >>= f) :=
  fun s => rel_bind (ha s) fun x t _ => hf x t

/-- Finding a builder changes nothing. -/
theorem keeps_builder (id : Nat) : Keeps F reactor (builder id) := by
  refine keeps_bind keeps_get fun s => ?_
  cases s.builders.get? id with
  | none => exact keeps_fail _
  | some b => exact keeps_pure _

/-- Looking at the query of a builder changes nothing. -/
theorem keeps_currentQuery (id : Nat) : Keeps F reactor (currentQuery id) :=
  keeps_bind keeps_get fun _ => keeps_bind (keeps_builder id) fun _ => keeps_pure _

/-- Copying a value stays within a frame if adding copies of builders does. -/
theorem keeps_copy (h : ∀ s ids, F.rel s (s.copyBuilders ids).2) (v : Value) :
    Keeps F reactor (copy v) := by
  intro s
  rw [copy, run_bind, run_get]
  dsimp only
  split
  · exact F.refl s
  · exact h s v.references

/-- What follows a check stays within a frame if it does so with the value of the check. -/
theorem rel_of_bind {e : Except Error α} {f : α → Act β} {s : Session}
    (h : ∀ x, e = .ok x → F.rel s ((f x).run reactor s).2) :
    F.rel s ((of e >>= f).run reactor s).2 := by
  cases e with
  | error e => exact F.refl s
  | ok x => exact h x rfl

/-- What follows a check keeps a frame if it does so with the value of the check. -/
theorem keeps_of_bind {e : Except Error α} {f : α → Act β}
    (h : ∀ x, e = .ok x → Keeps F reactor (f x)) : Keeps F reactor (of e >>= f) :=
  fun s => rel_of_bind fun x hx => h x hx s

end Keeps

end Act

end FluentSql
