import FluentSql.Proofs.Session.Likeness

set_option autoImplicit false

/-!
# Listeners that fail

A listener or a bus that fails is written down as a warning, and that is all that comes of it. Two
sessions may differ in which listeners and buses fail and in the warnings so far; a write that is
made in both has the same outcome in both, hands the same statements to executors, is heard by the
same listeners, and leaves the same builders.

## Main definitions

* `FluentSql.Session.hushed` — a session in which nobody fails and nothing was warned of.
* `FluentSql.Reactor.Alike` — reactions that differ only in whether they fail.
* `FluentSql.Act.Unheeding` — an act does not heed who fails.

## Main results

* `FluentSql.Likeness.hushed` — sessions that differ in who fails are alike for writes.
* `FluentSql.Act.unheeding_makeReal` — a write does not heed who fails.
-/

namespace FluentSql

/-! ## Sessions in which nobody fails -/

/-- A listener that does not fail of itself. -/
def Listener.hushed (l : Listener) : Listener := { l with fails := false }

/-- A bus that does not fail of itself. -/
def Bus.hushed (b : Bus) : Bus := { b with fails := false }

/-- A session in which no listener and no bus fails, and nothing was warned of. -/
def Session.hushed (s : Session) : Session :=
  { s with
    listeners := s.listeners.map fun p => (p.1, p.2.hushed)
    buses := s.buses.map Bus.hushed
    trace := { s.trace with warnings := [] } }

/-- Reactions do the same in sessions that differ in who fails, but for whether they fail
themselves. -/
def Reactor.Alike (reactor reactor' : Reactor) : Prop :=
  ∀ (steps : List Step) (s s' : Session), s.hushed = s'.hushed →
    (reactor.react steps s).2.hushed = (reactor'.react steps s').2.hushed

namespace Session

variable {s s' : Session} {reactor reactor' : Reactor}

/-- What is the same in a hushed session is the same in sessions that differ in who fails. -/
theorem eq_of_hushed_eq {β : Type} (part : Session → β) (hpart : ∀ s, part s.hushed = part s)
    (h : s.hushed = s'.hushed) : part s = part s' := by
  rw [← hpart s, h, hpart s']

/-- Builders have nothing to do with who fails. -/
theorem builders_of_hushed_eq (h : s.hushed = s'.hushed) : s.builders = s'.builders :=
  eq_of_hushed_eq Session.builders (fun _ => rfl) h

/-- A warning does not count in a hushed session. -/
theorem hushed_ite_warned (s : Session) (c : Bool) (w : Warning) :
    (if c then s.warned w else s).hushed = s.hushed := by
  cases c <;> rfl

/-- What a listener does is the same in a hushed session. -/
theorem reaction_hushed (s : Session) (name : String) :
    (s.hushed.listener name).reaction = (s.listener name).reaction := by
  rw [listener, listener, hushed, List.find?_map]
  simp only [Function.comp_def]
  cases s.listeners.find? fun p => p.1 == name <;> rfl

/-- A listener hears an event and reacts whoever fails. -/
theorem hushed_tell (hr : reactor.Alike reactor') (event : String) (arguments : List Value)
    (name : String) (h : s.hushed = s'.hushed) :
    (tell reactor event arguments s name).hushed =
      (tell reactor' event arguments s' name).hushed := by
  have hreaction : (s.listener name).reaction = (s'.listener name).reaction := by
    rw [← reaction_hushed, h, reaction_hushed]
  have hheard : ∀ sight, (s.heard (.listener name arguments sight)).hushed =
      (s'.heard (.listener name arguments sight)).hushed := fun sight =>
    congrArg (fun t : Session => t.heard (.listener name arguments sight)) h
  rw [tell, tell, sight_congr (visible_congr (builders_of_hushed_eq h)), hreaction]
  cases s'.sight arguments with
  | error e => simp only [hushed_ite_warned, hheard]
  | ok shown =>
    simp only [hushed_ite_warned]
    exact hr _ _ _ (hheard _)

/-- A bus hears an event whoever fails. -/
theorem hushed_forward (event : String) (arguments : List Value) (config : Option Nat)
    (h : s.hushed = s'.hushed) :
    (s.forward event arguments config).hushed = (s'.forward event arguments config).hushed := by
  have hbus : ((s.config config).bus.bind s.buses.get?).map Bus.hushed =
      ((s'.config config).bus.bind s'.buses.get?).map Bus.hushed := by
    have hpart : ∀ t : Session, ((t.config config).bus.bind t.buses.get?).map Bus.hushed =
        (t.hushed.config config).bus.bind t.hushed.buses.get? := by
      intro t
      have hconfig : t.hushed.config config = t.config config := rfl
      rw [hconfig]
      cases (t.config config).bus with
      | none => rfl
      | some id => simp [hushed, Directory.get?, Directory.map]
    rw [hpart, h, hpart]
  have hheard : ∀ heard, (s.heard heard).hushed = (s'.heard heard).hushed := fun heard =>
    congrArg (fun t : Session => t.heard heard) h
  rw [forward, forward]
  rcases hb : (s.config config).bus.bind s.buses.get? with _ | bus <;>
    rcases hb' : (s'.config config).bus.bind s'.buses.get? with _ | bus' <;> rw [hb, hb'] at hbus
  · exact h
  · cases hbus
  · cases hbus
  · have hsame : bus.hushed = bus'.hushed := by simpa using hbus
    have hname : bus.name = bus'.name := (Bus.mk.inj hsame).1
    simp only [hushed_ite_warned, hname, sight_congr (visible_congr (builders_of_hushed_eq h)),
      hheard]

end Session

/-- Sessions that differ in who fails are alike for writes. -/
def Likeness.hushed {reactor reactor' : Reactor} (hr : reactor.Alike reactor') :
    Likeness reactor reactor' where
  rel s s' := s.hushed = s'.hushed
  shares {s s'} h := by
    have hpart : ∀ {β : Type} (part : Session → β), (∀ t, part t.hushed = part t) →
        part s = part s' := fun part hpart => Session.eq_of_hushed_eq part hpart h
    exact ⟨hpart (fun t => t.builders.items.map Builder.unlogged) fun _ => rfl,
      hpart Session.linked fun _ => rfl, hpart Session.executors fun _ => rfl,
      hpart Session.configs fun _ => rfl, hpart Session.simulations fun _ => rfl,
      hpart Session.controller fun _ => rfl, hpart Session.nextStamp fun _ => rfl,
      hpart Session.managers fun _ => rfl⟩
  set h executors simulations controller nextStamp :=
    congrArg (fun t : Session => { t with executors, simulations, controller, nextStamp }) h
  changed {_ _} h id {change} _ := congrArg (fun t : Session => t.changed id change) h
  added h b := congrArg (fun t : Session => { t with builders := t.builders.add b }) h
  happened h happening := congrArg (fun t : Session =>
    { t with trace := { t.trace with calls := t.trace.calls ++ [happening] } }) h
  told h event arguments name := Session.hushed_tell hr event arguments name h
  forwarded h event arguments config := Session.hushed_forward event arguments config h

namespace Act

/-- An act does not heed who fails: in sessions that differ in that alone it has the same outcome,
and leaves sessions that differ in that alone. -/
def Unheeding {α : Type} (reactor reactor' : Reactor) (a : Act α) : Prop :=
  ∀ s s' : Session, s.hushed = s'.hushed →
    (a.run reactor s).1 = (a.run reactor' s').1 ∧
      (a.run reactor s).2.hushed = (a.run reactor' s').2.hushed

/-- Making a write on an executor does not heed who fails. -/
theorem unheeding_makeReal {reactor reactor' : Reactor} (hr : reactor.Alike reactor') (id : Nat) :
    Unheeding reactor reactor' (makeReal id) := @respects_makeReal _ _ (.hushed hr) id

end Act

end FluentSql
