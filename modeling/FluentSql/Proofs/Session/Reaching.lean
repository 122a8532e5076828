import FluentSql.Proofs.Session.Execution

set_option autoImplicit false

/-!
# Reaching an executor

An act that is to run a statement either fails before it reaches an executor, and then has done
nothing, or the statement is the first thing that it hands over. This module says so for running
statements and for announcing them, and carries it over to longer acts.

What listeners hand to executors meanwhile is not counted here: their reactions are run muted.

## Main definitions

* `FluentSql.Session.HandsOver` — what is handed over starts with a statement.
* `FluentSql.Reactor.KeepsExecutors` — reactions take no executor away.
* `FluentSql.Act.Reaches` — what an act does with an executor.

## Main results

* `FluentSql.Act.handsOver_execute` — running a statement hands it over.
* `FluentSql.Act.handsOver_trigger_bind` — an announcement beforehand does not get in the way.
* `FluentSql.Act.Reaches.bind` — what follows does not matter.
-/

namespace FluentSql

/-! ## The first thing handed over -/

namespace Session

/-- What is written down between two sessions starts with an executor running a statement. -/
def HandsOver (statement : Statement) (s t : Session) : Prop :=
  ∃ h rest, t.trace.calls = s.trace.calls ++ h :: rest ∧ h.Carries statement

variable {s t u : Session} {statement : Statement}

/-- What was handed over first stays so, whatever is handed over later. -/
theorem HandsOver.after (h : HandsOver statement s t)
    (hlater : (Frame.hands fun _ => True).rel t u) : HandsOver statement s u := by
  obtain ⟨happening, rest, hrest, hcarries⟩ := h
  obtain ⟨later, hlater, -⟩ := hlater
  exact ⟨happening, rest ++ later, by rw [hlater, hrest, List.append_assoc, List.cons_append],
    hcarries⟩

/-- What is handed over first is so also from a session before in which no less was written
down. -/
theorem HandsOver.before (hearlier : t.trace.calls = s.trace.calls)
    (h : HandsOver statement t u) : HandsOver statement s u := by
  rw [HandsOver, hearlier] at h
  exact h

/-- Where something was handed over, the calls are not what they were. -/
theorem HandsOver.calls_ne (h : HandsOver statement s t) : t.trace.calls ≠ s.trace.calls := by
  obtain ⟨happening, rest, hrest, -⟩ := h
  intro hcalls
  rw [hcalls, List.self_eq_append_right] at hrest
  cases hrest

end Session

/-! ## Executors that stay -/

/-- Reactions take no executor away: a number that stands for an executor goes on to stand for
one. -/
def Reactor.KeepsExecutors (reactor : Reactor) : Prop :=
  ∀ steps (s : Session) id, (s.executors.get? id).isSome = true →
    ((reactor.react steps s).2.executors.get? id).isSome = true

namespace Frame

/-- The frame within which no executor is taken away. -/
def executors : Frame where
  rel s t := ∀ id, (s.executors.get? id).isSome = true → (t.executors.get? id).isSome = true
  refl _ _ h := h
  trans h h' id hid := h' id (h id hid)

variable {reactor : Reactor}

/-- Listeners take no executor away if their reactions do not. -/
theorem executors_heard (h : reactor.KeepsExecutors) : executors.Heard reactor where
  heard _ _ _ hid := hid
  warned _ _ _ hid := hid
  react s _ id hid := h _ s id hid

/-- Muted listeners leave what is handed over as it is. -/
theorem calls_heard : (same fun s => s.trace.calls).Heard reactor.muted where
  heard _ _ := rfl
  warned _ _ := rfl
  react _ _ := rfl

end Frame

/-- Muted reactions take no executor away if the reactions do not. -/
theorem Reactor.KeepsExecutors.muted {reactor : Reactor} (h : reactor.KeepsExecutors) :
    reactor.muted.KeepsExecutors := h

/-! ## Acts that hand over a statement -/

namespace Act

variable {reactor : Reactor} {s : Session} {id : Nat} {b : Builder}

/-- Asking whether an executor has a method changes nothing. -/
theorem run_offers (executor : Nat) (method : ExecutorMethod) :
    (offers executor method).run reactor s =
      (.ok (((s.executors.get? executor).map fun e => e.offers method).getD false), s) := by
  rw [offers, run_bind, run_get]
  dsimp only
  cases s.executors.get? executor <;> rfl

/-- Announcing something under names of its own announces it. -/
theorem run_trigger {manager : Option Nat} {t : Trigger} {extra : Fields} {payload : Value}
    (h : t.payload extra = .ok payload) :
    (trigger manager t extra).run reactor s =
      (.ok (), s.announce reactor manager t.topic [payload]) := by
  rw [trigger, h]
  rfl

/-- Running a statement hands it over.

**Proof sketch.** The first thing that happens carries the statement, and what follows that takes
nothing back. -/
theorem handsOver_execute {executor : Nat} {statement : Statement}
    (he : (s.executors.get? executor).isSome = true) (method : ExecutorMethod) :
    s.HandsOver statement ((execute executor method statement).run reactor s).2 := by
  obtain ⟨e, he⟩ := Option.isSome_iff_exists.mp he
  obtain ⟨h, rest, hcarries, -, hrun, hrest⟩ := run_execute reactor he method statement
  let t : Session := { s with trace := { s.trace with calls := s.trace.calls ++ [h] } }
  have ht : s.HandsOver statement t := ⟨h, [], rfl, hcarries⟩
  rw [hrun]
  exact ht.after
    (hrest _ (executes_hands (fun _ _ => trivial) fun _ _ => trivial).toFinishes t)

/-- What hands a statement over first does so, if what follows takes nothing back. -/
theorem handsOver_bind {α β : Type} {a : Act α} {f : α → Act β} {statement : Statement}
    (ha : s.HandsOver statement (a.run reactor s).2)
    (hf : ∀ x, Keeps (Frame.hands fun _ => True) reactor (f x)) :
    s.HandsOver statement ((a >>= f).run reactor s).2 := by
  rw [run_bind]
  rcases hr : a.run reactor s with ⟨_ | x, t⟩ <;> rw [hr] at ha
  · exact ha
  · exact ha.after (hf x t)

/-- What hands a statement over where its executor is does so after an announcement, since this
takes no executor away and writes no statement down. -/
theorem handsOver_trigger_bind {α : Type} (hreactor : reactor.KeepsExecutors)
    {manager : Option Nat} {t : Trigger} {extra : Fields} {payload : Value}
    (hpayload : t.payload extra = .ok payload) {f : Unit → Act α} {executor : Nat}
    {statement : Statement} (he : (s.executors.get? executor).isSome = true)
    (hf : ∀ u : Session, (u.executors.get? executor).isSome = true →
      u.HandsOver statement ((f ()).run reactor.muted u).2) :
    s.HandsOver statement ((trigger manager t extra >>= f).run reactor.muted s).2 := by
  rw [run_bind, run_trigger hpayload]
  let u := s.announce reactor.muted manager t.topic [payload]
  have hcalls : u.trace.calls = s.trace.calls :=
    Session.rel_announce Frame.calls_heard manager t.topic [payload] s
  have hexecutor : (u.executors.get? executor).isSome = true :=
    Session.rel_announce (Frame.executors_heard hreactor.muted) manager t.topic [payload] s
      executor he
  exact Session.HandsOver.before hcalls (hf u hexecutor)

/-! ## Reaching an executor -/

/-- What an act does with an executor: it fails as it did not reach one, and has done nothing, or
its statement is the first thing that it hands over. -/
def Reaches {α : Type} (reactor : Reactor) (s : Session) (a : Act α)
    (reached : Except Error Statement) : Prop :=
  (∀ e, reached = .error e → a.run reactor.muted s = (.error e, s)) ∧
    ∀ statement, reached = .ok statement → s.HandsOver statement (a.run reactor.muted s).2

/-- What follows an act does not change what it does with an executor, if it takes nothing back. -/
theorem Reaches.bind {α β : Type} {a : Act α} {f : α → Act β} {reached : Except Error Statement}
    (h : Reaches reactor s a reached)
    (hf : ∀ x, Keeps (Frame.hands fun _ => True) reactor.muted (f x)) :
    Reaches reactor s (a >>= f) reached := by
  refine ⟨fun e he => ?_, fun statement hs => handsOver_bind (h.2 statement hs) hf⟩
  rw [run_bind, h.1 e he]

/-- What comes first and changes nothing does not change what an act does with an executor. -/
theorem reaches_bind_of_run_eq_ok {α β : Type} {a : Act α} {x : α} {f : α → Act β}
    {reached : Except Error Statement} (ha : a.run reactor.muted s = (.ok x, s))
    (h : Reaches reactor s (f x) reached) : Reaches reactor s (a >>= f) reached := by
  have hrun : (a >>= f).run reactor.muted s = (f x).run reactor.muted s := by
    rw [run_bind, ha]
  rw [Reaches, hrun]
  exact h

/-- An act that hands over a statement first reaches an executor with it. -/
theorem reaches_of_handsOver {α : Type} {a : Act α} {statement : Statement}
    (h : s.HandsOver statement (a.run reactor.muted s).2) :
    Reaches reactor s a (.ok statement) := by
  refine ⟨fun e he => ?_, fun other hs => ?_⟩
  · cases he
  · cases hs
    exact h

/-- What an act does with an executor may depend on what comes before it, if this changes nothing:
the act does nothing if what comes before fails. -/
theorem reaches_bind_of_run {α β : Type} {a : Act α} {e : Except Error α} {f : α → Act β}
    {reached : α → Except Error Statement} (ha : a.run reactor.muted s = (e, s))
    (h : ∀ x, e = .ok x → Reaches reactor s (f x) (reached x)) :
    Reaches reactor s (a >>= f) (e >>= reached) := by
  rw [Reaches, run_bind, ha]
  cases e with
  | error e =>
    refine ⟨fun e' he => ?_, fun statement hs => ?_⟩
    · cases he
      rfl
    · cases hs
  | ok x => exact h x rfl

end Act

end FluentSql
