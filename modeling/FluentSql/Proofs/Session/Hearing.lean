import FluentSql.Session.Events

set_option autoImplicit false

/-!
# Who hears an event

An announcement is heard by the listeners that are subscribed to the event, in the order of their
subscriptions and once for each, and then by the bus. Whoever hears it has that written down before
it does anything, and a failure comes to no more than a warning. This is said here as a relation
between the session before and the session after, without the functions that announce.

## Main definitions

* `FluentSql.Session.Hears` — one listener hears an event, and reacts.
* `FluentSql.Session.Told` — the listeners of a list of subscriptions hear it.
* `FluentSql.Session.Announced` — all listeners hear it, then the bus.

## Main results

* `FluentSql.Session.announced_announce` — an announcement is heard so.
* `FluentSql.Session.Announced.events` — the events that are written down where nobody reacts.

## Design

Listeners may react by changing the session, the subscriptions included; who hears the event is
fixed by the subscriptions before the first of them does. The bus is that of the session which the
last of them leaves.
-/

namespace FluentSql

/-- Who heard an event. -/
def Heard.hearer : Heard → String
  | .listener name .. | .bus name .. => name

/-- What an event carried for whoever heard it. -/
def Heard.arguments : Heard → List Value
  | .listener _ arguments _ | .bus _ _ arguments _ => arguments

/-- The event that a bus heard; a listener is not told which one it hears. -/
def Heard.topic? : Heard → Option String
  | .listener .. => none
  | .bus _ event .. => some event

namespace Session

/-! ## Hearing -/

/-- A session as it was, or with one warning more. -/
def OrWarned (s t : Session) : Prop :=
  t = s ∨ ∃ w, t = { s with trace := { s.trace with warnings := s.trace.warnings ++ [w] } }

/-- Somebody has heard something, and that has been written down. -/
def Noted (h : Heard) (s t : Session) : Prop :=
  t = { s with trace := { s.trace with events := s.trace.events ++ [h] } }

/-- What a listener has to do when it hears an event: nothing if it was never described. -/
def reactionOf (s : Session) (name : String) : List Step :=
  ((s.listeners.lookup name).map Listener.reaction).getD []

/-- A listener hears what an event carries, as it looks then. That is written down first; then the
listener reacts, unless what it was to be shown cannot be shown. -/
inductive Hears (reactor : Reactor) (payload : Value) (name : String) (s : Session) :
    Session → Prop where
  | reacts {values : List Value} {heard t u : Session} {outcome : Except Error Unit}
      (hshown : s.sight [payload] = .ok values)
      (hheard : Noted (.listener name [payload] (.ok values)) s heard)
      (hreact : reactor.react (s.reactionOf name) heard = (outcome, t)) (hleft : OrWarned t u) :
      Hears reactor payload name s u
  | fails {e : Error} {heard u : Session} (hshown : s.sight [payload] = .error e)
      (hheard : Noted (.listener name [payload] (.error e)) s heard) (hleft : OrWarned heard u) :
      Hears reactor payload name s u

/-- The listeners of a list of subscriptions hear an event, those that wait for it and no others,
one after the other. -/
inductive Told (reactor : Reactor) (topic : String) (payload : Value) :
    List Subscription → Session → Session → Prop where
  | nobody (s : Session) : Told reactor topic payload [] s s
  | passed {x : Subscription} {xs : List Subscription} {s t : Session} (hother : x.event ≠ topic)
      (rest : Told reactor topic payload xs s t) : Told reactor topic payload (x :: xs) s t
  | heard {x : Subscription} {xs : List Subscription} {s t u : Session} (hwaits : x.event = topic)
      (hears : Hears reactor payload x.listener s t) (rest : Told reactor topic payload xs t u) :
      Told reactor topic payload (x :: xs) s u

/-- The bus of a configuration, if it has one; the configuration is the shared one if there is no
number. -/
def busOf (s : Session) (config : Option Nat) : Option Bus := do
  let c ← s.configs.get? (config.getD 0)
  s.buses.get? (← c.bus)

/-- The bus hears an event, if there is one. -/
def BusHears (config : Option Nat) (topic : String) (payload : Value) (s t : Session) : Prop :=
  match s.busOf config with
  | none => t = s
  | some bus =>
    ∃ heard, Noted (.bus bus.name topic [payload] (s.sight [payload])) s heard ∧ OrWarned heard t

/-- An event is announced by an event manager, the shared one if there is no number: the listeners
of its subscriptions hear it, and then the bus of its configuration. -/
def Announced (reactor : Reactor) (manager : Option Nat) (topic : String) (payload : Value)
    (s t : Session) : Prop :=
  ∃ m u, m = (s.managers.get? (manager.getD 0)).getD {} ∧
    Told reactor topic payload m.subscriptions s u ∧ BusHears m.config topic payload u t

/-! ## Announcements are heard -/

section Announced

variable {reactor : Reactor} {topic : String} {payload : Value} {s t : Session}

/-- Where a warning may be added, a session is as it was or has one more. -/
theorem orWarned_ite (s : Session) (c : Bool) (w : Warning) :
    OrWarned s (if c then s.warned w else s) := by
  cases c with
  | true => exact .inr ⟨w, rfl⟩
  | false => exact .inl rfl

/-- The first entry of a name is what a search by name gives. -/
theorem lookup_eq_map_find? {α : Type} (entries : List (String × α)) (name : String) :
    entries.lookup name = (entries.find? (·.1 == name)).map (·.2) := by
  induction entries with
  | nil => rfl
  | cons entry entries ih =>
    obtain ⟨other, a⟩ := entry
    rw [List.lookup_cons, List.find?_cons, Bool.beq_comm (a := name)]
    cases other == name with
    | true => rfl
    | false => exact ih

/-- A listener that was never described does nothing. -/
theorem reaction_listener (s : Session) (name : String) :
    (s.listener name).reaction = s.reactionOf name := by
  rw [listener, reactionOf, lookup_eq_map_find?]
  cases s.listeners.find? (·.1 == name) <;> rfl

/-- Telling a listener, it hears the event. -/
theorem hears_tell (reactor : Reactor) (topic : String) (payload : Value) (name : String)
    (s : Session) : Hears reactor payload name s (tell reactor topic [payload] s name) := by
  rw [tell, reaction_listener]
  cases hshown : s.sight [payload] with
  | error e => exact .fails hshown rfl (orWarned_ite _ true _)
  | ok values =>
    rcases hreact : reactor.react (s.reactionOf name)
      (s.heard (.listener name [payload] (.ok values))) with ⟨outcome, t⟩
    exact .reacts hshown rfl hreact (orWarned_ite t _ _)

/-- Telling those who wait for the event, the listeners of all subscriptions are told. -/
theorem told_foldl (reactor : Reactor) (topic : String) (payload : Value)
    (subscriptions : List Subscription) (s : Session) :
    Told reactor topic payload subscriptions s
      (((subscriptions.filter (·.event == topic)).map (·.listener)).foldl
        (tell reactor topic [payload]) s) := by
  induction subscriptions generalizing s with
  | nil => exact .nobody s
  | cons x xs ih =>
    by_cases hwaits : x.event = topic
    · rw [List.filter_cons_of_pos (by simpa using hwaits)]
      exact .heard hwaits (hears_tell reactor topic payload x.listener s) (ih _)
    · rw [List.filter_cons_of_neg (by simpa using hwaits)]
      exact .passed hwaits (ih s)

/-- Forwarding an event, the bus hears it. -/
theorem busHears_forward (topic : String) (payload : Value) (config : Option Nat) (s : Session) :
    BusHears config topic payload s (s.forward topic [payload] config) := by
  have hbus : s.busOf config = (s.config config).bus.bind s.buses.get? := by
    rw [busOf, Session.config]
    cases s.configs.get? (config.getD 0) <;> rfl
  rw [BusHears, hbus, forward]
  cases (s.config config).bus.bind s.buses.get? with
  | none => rfl
  | some bus => exact ⟨_, rfl, orWarned_ite _ _ _⟩

/-- An announcement is heard by the listeners that wait for the event, in the order of their
subscriptions, and then by the bus.

**Proof sketch.** The listeners are told one after the other, by induction on the subscriptions; one
that waits for something else is passed over. What each of them leaves is what the next one finds,
and what the last one leaves is what the bus finds. -/
theorem announced_announce (reactor : Reactor) (manager : Option Nat) (topic : String)
    (payload : Value) (s : Session) :
    Announced reactor manager topic payload s (s.announce reactor manager topic [payload]) :=
  ⟨s.manager manager, _, rfl, told_foldl reactor topic payload (s.manager manager).subscriptions s,
    busHears_forward topic payload (s.manager manager).config _⟩

/-! ## What is written down -/

/-- A warning is not written down as an event. -/
theorem OrWarned.events (h : OrWarned s t) : t.trace.events = s.trace.events := by
  obtain rfl | ⟨w, rfl⟩ := h <;> rfl

/-- Nobody says anything when hearing an event. -/
def Quiet (reactor : Reactor) : Prop :=
  ∀ steps s, (reactor.react steps s).2.trace.events = s.trace.events

/-- Where nobody says anything, it is written down that a listener heard an event, and no more. -/
theorem Hears.events (hquiet : Quiet reactor) {name : String}
    (h : Hears reactor payload name s t) :
    ∃ sight, t.trace.events = s.trace.events ++ [.listener name [payload] sight] := by
  cases h with
  | @reacts values heard u t outcome hshown hheard hreact hleft =>
    have hreacted := hquiet (s.reactionOf name) heard
    rw [hreact] at hreacted
    exact ⟨.ok values, by rw [hleft.events, hreacted, hheard]⟩
  | fails hshown hheard hleft => exact ⟨_, by rw [hleft.events, hheard]⟩

/-- Where nobody says anything, it is written down that the listeners that wait for an event heard
it, in the order of their subscriptions. -/
theorem Told.events (hquiet : Quiet reactor) {subscriptions : List Subscription}
    (h : Told reactor topic payload subscriptions s t) :
    ∃ heard, t.trace.events = s.trace.events ++ heard ∧
      heard.map Heard.hearer =
        (subscriptions.filter (·.event == topic)).map Subscription.listener ∧
      ∀ x ∈ heard, x.arguments = [payload] := by
  induction h with
  | nobody s => exact ⟨[], by simp, rfl, nofun⟩
  | passed hother _ ih =>
    rw [List.filter_cons_of_neg (by simpa using hother)]
    exact ih
  | @heard x xs s t u hwaits hears _ ih =>
    obtain ⟨sight, hevents⟩ := hears.events hquiet
    obtain ⟨heard, hrest, hearers, hpayload⟩ := ih
    refine ⟨.listener x.listener [payload] sight :: heard, ?_, ?_, ?_⟩
    · rw [hrest, hevents, List.append_assoc, List.singleton_append]
    · rw [List.filter_cons_of_pos (by simpa using hwaits), List.map_cons, List.map_cons, hearers]
      rfl
    · exact List.forall_mem_cons.mpr ⟨rfl, hpayload⟩

/-- Where nobody says anything, it is written down of an announcement that the listeners that wait
for the event heard it, in the order of their subscriptions, and that the bus heard it then, if
there is one.

**Proof sketch.** Listeners are told one after the other, and each of them notes that it heard the
event before it reacts. Where no reaction announces anything, nothing else is noted in between. -/
theorem Announced.events (hquiet : Quiet reactor) {manager : Option Nat}
    (h : Announced reactor manager topic payload s t) :
    ∃ m heard u, m = (s.managers.get? (manager.getD 0)).getD {} ∧
      t.trace.events = s.trace.events ++ heard ∧
      heard.map Heard.hearer =
        (m.subscriptions.filter (·.event == topic)).map Subscription.listener ++
          (Session.busOf u m.config).toList.map Bus.name ∧
      ∀ x ∈ heard, x.arguments = [payload] := by
  obtain ⟨m, u, hm, htold, hbus⟩ := h
  obtain ⟨heard, hevents, hearers, hpayload⟩ := htold.events hquiet
  rw [BusHears] at hbus
  cases hfound : u.busOf m.config with
  | none =>
    rw [hfound] at hbus
    obtain rfl : t = u := hbus
    exact ⟨m, heard, t, hm, hevents, by simp [hearers, hfound], hpayload⟩
  | some bus =>
    rw [hfound] at hbus
    obtain ⟨v, hnoted, hleft⟩ := hbus
    refine ⟨m, heard ++ [.bus bus.name topic [payload] (u.sight [payload])], u, hm, ?_, ?_, ?_⟩
    · rw [hleft.events, hnoted]
      exact (congrArg (· ++ _) hevents).trans (List.append_assoc ..)
    · simp [hearers, hfound, Heard.hearer]
    · exact List.forall_mem_append.mpr ⟨hpayload, List.forall_mem_singleton.mpr rfl⟩

end Announced

end Session

end FluentSql
