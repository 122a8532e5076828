import FluentSql.Proofs.Directory
import FluentSql.Proofs.Session.Execution
import FluentSql.Session.Run
import Mathlib.Data.List.Forall2

set_option autoImplicit false

/-!
# Subscriptions

An event manager keeps a list of the listeners that wait for an event, and a listener that was
subscribed several times stands in it several times. A ledger tells the subscriptions apart: each
gets a ticket when it is made, and the token that its maker gets stands for the ticket. The list of
a manager is always that of the tickets that are live, whatever was done in whatever order.

A token cancels more than its own ticket: it cancels every live ticket of the same listener to the
same event, as turning the listener off does, and so also one that was made after its own was gone.

A listener may itself subscribe and cancel when it hears an event. What the reactions of listeners
do to subscriptions is given as signals, which take their place in the history.

## Main definitions

* `FluentSql.Signal` — subscribing, turning off, clearing, and using a token.
* `FluentSql.Ledger` — the tickets that are live, and what tokens stand for.
* `FluentSql.Session.Follows` — the managers of a session list the live tickets of a ledger.
* `FluentSql.Operation` — a signal, or the announcement of an event.

## Main results

* `FluentSql.Session.Follows.act` — one signal; `FluentSql.Session.Follows.operated` — any history.
* `FluentSql.Session.Follows.announce` — who hears an announcement.
* `FluentSql.Ledger.opened_own_eq_iff` — when tokens cancel no more than their own tickets.
-/

namespace FluentSql

/-! ## Signals -/

/-- What can be done about the subscriptions of event managers. -/
inductive Signal where
  | on (manager : Option Nat) (subscription : Subscription) (token : String)
  | off (manager : Option Nat) (subscription : Subscription)
  | clear (manager : Option Nat)
  | unsubscribe (token : String)

namespace Signal

/-- Does what a signal says. -/
def act : Signal → Act Unit
  | .on manager subscription token => Act.subscribe manager subscription token
  | .off manager subscription => Act.changeManager manager fun m => m.off subscription
  | .clear manager => Act.changeManager manager EventManager.clear
  | .unsubscribe token => Act.unsubscribe token

/-- A signal that subscribes has a manager to subscribe to. -/
def There (s : Session) : Signal → Prop
  | .on manager _ _ => (s.managers.get? (manager.getD 0)).isSome = true
  | _ => True

end Signal

namespace Session

/-- The subscriptions to the event manager of a number. -/
def subscribed (s : Session) (manager : Nat) : List Subscription :=
  (s.manager (some manager)).subscriptions

/-- The session after some signals. One that fails changes nothing. -/
def signalled (reactor : Reactor) (signals : List Signal) (s : Session) : Session :=
  signals.foldl (fun s x => (x.act.run reactor s).2) s

end Session

/-- The frame within which no event manager is lost. -/
def Frame.managers : Frame where
  rel s t := ∀ manager, (s.managers.get? manager).isSome = true →
    (t.managers.get? manager).isSome = true
  refl _ _ h := h
  trans hst htu manager h := htu manager (hst manager h)

/-- The frame within which subscriptions and tokens stay as they are, and no manager is lost. -/
def Frame.subscriptions : Frame where
  rel s t := managers.rel s t ∧ t.tokens = s.tokens ∧
    ∀ manager, t.subscribed manager = s.subscribed manager
  refl s := ⟨managers.refl s, rfl, fun _ => rfl⟩
  trans := by
    rintro s t u ⟨hst, htokens, hsubscribed⟩ ⟨htu, htokens', hsubscribed'⟩
    exact ⟨managers.trans hst htu, htokens'.trans htokens,
      fun m => (hsubscribed' m).trans (hsubscribed m)⟩

/-! ## Ledgers -/

/-- A subscription with a number of its own. -/
structure Ticket where
  number : Nat
  manager : Nat
  subscription : Subscription
  deriving DecidableEq, Repr, Inhabited

namespace Ticket

/-- Whether a ticket is for the same listener to the same event of the same manager. -/
def same (t u : Ticket) : Bool := u.manager == t.manager && u.subscription == t.subscription

/-- Whether a ticket is the very same one. -/
def own (t u : Ticket) : Bool := u.number == t.number

end Ticket

/-- The number of tickets made so far, those that are live in the order in which they were made, and
the tickets that tokens stand for. -/
structure Ledger where
  made : Nat := 0
  live : List Ticket := []
  tokens : List (String × Ticket) := []
  deriving Inhabited

namespace Ledger

/-- The ticket that a token stands for. -/
def ticket? (l : Ledger) (token : String) : Option Ticket :=
  (l.tokens.find? (·.1 == token)).map (·.2)

/-- Cancels tickets. -/
def cancel (l : Ledger) (cancelled : Ticket → Bool) : Ledger :=
  { l with live := l.live.filter fun t => !cancelled t }

/-- A signal is entered; `reach` tells which tickets the token of a ticket cancels. -/
def enter (reach : Ticket → Ticket → Bool) (l : Ledger) : Signal → Ledger
  | .on manager subscription token =>
    let t : Ticket := ⟨l.made, manager.getD 0, subscription⟩
    { made := l.made + 1
      live := l.live ++ [t]
      tokens := (token, t) :: l.tokens.filter (·.1 != token) }
  | .off manager subscription => l.cancel (Ticket.same ⟨0, manager.getD 0, subscription⟩)
  | .clear manager => l.cancel fun t => t.manager == manager.getD 0
  | .unsubscribe token => (l.ticket? token).elim l fun t => l.cancel (reach t)

/-- The ledger of a history. -/
def opened (reach : Ticket → Ticket → Bool) (signals : List Signal) : Ledger :=
  signals.foldl (enter reach) {}

/-- The live tickets to an event of a manager. -/
def waiting (l : Ledger) (manager : Option Nat) (event : String) : List Ticket :=
  l.live.filter fun t => t.manager == manager.getD 0 && t.subscription.event == event

end Ledger

/-- The managers of a session list the live tickets of a ledger, and tokens stand for the
subscriptions of their tickets. -/
structure Session.Follows (s : Session) (l : Ledger) : Prop where
  subscribed : ∀ manager,
    s.subscribed manager = (l.live.filter (·.manager == manager)).map (·.subscription)
  tokens : s.tokens = l.tokens.map fun p => (p.1, (p.2.manager, p.2.subscription))

/-! ## One signal -/

namespace Session

variable {s t : Session} {l : Ledger} (reactor : Reactor)

/-- What is not about subscriptions leaves a session following its ledger. -/
theorem Follows.of_rel (h : s.Follows l) (hrel : Frame.subscriptions.rel s t) : t.Follows l :=
  ⟨fun m => (hrel.2.2 m).trans (h.subscribed m), hrel.2.1.trans h.tokens⟩

/-- A session in which nothing was subscribed follows the empty ledger. -/
theorem follows_empty (hsubscribed : ∀ manager, s.subscribed manager = [])
    (htokens : s.tokens = []) : s.Follows {} :=
  ⟨hsubscribed, htokens⟩

/-- A change of the subscriptions to one manager; a manager that there is not has none. -/
theorem subscribed_changeManager {id : Option Nat} {change : EventManager → EventManager}
    {f : List Subscription → List Subscription}
    (hchange : ∀ m, (change m).subscriptions = f m.subscriptions)
    (hthere : (s.managers.get? (id.getD 0)).isSome = true ∨ f [] = []) (manager : Nat) :
    ((Act.changeManager id change).run reactor s).2.subscribed manager =
      if manager = id.getD 0 then f (s.subscribed manager) else s.subscribed manager := by
  have hrun : ((Act.changeManager id change).run reactor s).2.subscribed manager =
      (((s.managers.modify (id.getD 0) change).get? manager).getD {}).subscriptions := rfl
  have hbefore : s.subscribed manager = ((s.managers.get? manager).getD {}).subscriptions := rfl
  rw [hrun, hbefore]
  by_cases hid : manager = id.getD 0
  · rw [if_pos hid, hid, Directory.get?_modify]
    cases hm : s.managers.get? (id.getD 0) with
    | some m => exact hchange m
    | none =>
      rw [hm] at hthere
      exact (hthere.resolve_left nofun).symm
  · rw [if_neg hid, Directory.get?_modify_of_ne _ (Ne.symm hid)]

/-- Cancelling all subscriptions of some kind to one manager cancels the tickets of that kind. -/
theorem Follows.changeManager (h : s.Follows l) (id : Option Nat)
    {change : EventManager → EventManager} {kept : Subscription → Bool}
    (hchange : ∀ m, (change m).subscriptions = m.subscriptions.filter kept) :
    ((Act.changeManager id change).run reactor s).2.Follows
      (l.cancel fun t => t.manager == id.getD 0 && !kept t.subscription) := by
  refine ⟨fun manager => ?_, h.tokens⟩
  rw [subscribed_changeManager reactor hchange (.inr rfl), h.subscribed, Ledger.cancel,
    List.filter_filter]
  split
  · next hid =>
    rw [List.filter_map, List.filter_filter]
    congr 1
    refine List.filter_congr fun t _ => ?_
    rw [← hid]
    cases t.manager == manager <;> simp
  · next hid =>
    congr 1
    refine List.filter_congr fun t _ => ?_
    by_cases ht : t.manager = manager <;> simp [ht, hid]

/-- What a token stands for in a session is what its ticket is for. -/
theorem Follows.find?_tokens (h : s.Follows l) (token : String) :
    s.tokens.find? (·.1 == token) =
      (l.ticket? token).map fun t => (token, (t.manager, t.subscription)) := by
  rw [h.tokens, List.find?_map, Ledger.ticket?]
  change (l.tokens.find? (·.1 == token)).map _ = _
  cases hp : l.tokens.find? (·.1 == token) with
  | none => rfl
  | some p =>
    have hname : p.1 = token := by simpa using List.find?_some hp
    rw [← hname]
    rfl

/-- A signal is followed by the ledger in which tokens cancel all that is the same.

**Proof sketch.** By the signal: subscribing enters one ticket, clearing and unsubscribing filter
them, and what a token stands for is the last ticket that was entered with it. -/
theorem Follows.act (h : s.Follows l) (x : Signal) (hthere : x.There s) :
    (x.act.run reactor s).2.Follows (l.enter Ticket.same x) := by
  have hoff : ∀ (manager : Option Nat) (subscription : Subscription),
      ((Act.changeManager manager fun m => m.off subscription).run reactor s).2.Follows
        (l.cancel (Ticket.same ⟨0, manager.getD 0, subscription⟩)) := by
    intro manager subscription
    have hkept := h.changeManager reactor manager fun m =>
      (rfl : (m.off subscription).subscriptions = m.subscriptions.filter (· != subscription))
    simp only [bne, Bool.not_not] at hkept
    exact hkept
  cases x with
  | off manager subscription => exact hoff manager subscription
  | clear manager =>
    have hclear : ∀ m : EventManager,
        m.clear.subscriptions = m.subscriptions.filter fun _ => false := by
      simp [EventManager.clear]
    have hkept := h.changeManager reactor manager hclear
    simp only [Bool.not_false, Bool.and_true] at hkept
    exact hkept
  | on manager subscription token =>
    refine ⟨fun m => ?_, ?_⟩
    · refine (subscribed_changeManager reactor (f := (· ++ [subscription]))
        (fun _ => rfl) (.inl hthere) m).trans ?_
      rw [h.subscribed, Ledger.enter, List.filter_append, List.map_append]
      by_cases hm : m = manager.getD 0
      · simp [hm]
      · simp [hm, Ne.symm hm]
    · have htokens : (((Signal.on manager subscription token).act.run reactor s).2).tokens =
        (token, (manager.getD 0, subscription)) :: s.tokens.filter (·.1 != token) := rfl
      rw [htokens, h.tokens, List.filter_map]
      rfl
  | unsubscribe token =>
    have hact : (Signal.unsubscribe token).act = Act.unsubscribe token := rfl
    rw [hact, Act.unsubscribe, Act.run_get_bind, h.find?_tokens, Ledger.enter]
    cases l.ticket? token with
    | none => exact h
    | some t => exact hoff (some t.manager) t.subscription

/-- No signal loses a manager. -/
theorem managers_act (s : Session) (x : Signal) :
    Frame.managers.rel s (x.act.run reactor s).2 := by
  intro manager h
  cases x with
  | on id subscription token => exact (Directory.isSome_get?_modify _ _ _ _).trans h
  | off id subscription => exact (Directory.isSome_get?_modify _ _ _ _).trans h
  | clear id => exact (Directory.isSome_get?_modify _ _ _ _).trans h
  | unsubscribe token =>
    have hact : (Signal.unsubscribe token).act = Act.unsubscribe token := rfl
    rw [hact, Act.unsubscribe, Act.run_get_bind]
    split
    · exact (Directory.isSome_get?_modify _ _ _ _).trans h
    · exact h

/-- Signals in a row lose no manager. -/
theorem managers_signalled (signals : List Signal) (s : Session) :
    Frame.managers.rel s (s.signalled reactor signals) := by
  induction signals generalizing s with
  | nil => exact Frame.managers.refl s
  | cons x signals ih => exact Frame.managers.trans (managers_act reactor s x) (ih _)

/-- A signal keeps the manager that it has. -/
theorem there_of_rel (hrel : Frame.managers.rel s t) {x : Signal} (h : x.There s) :
    x.There t := by
  cases x with
  | on manager subscription token => exact hrel _ h
  | _ => trivial

/-- Signals in a row are followed by the ledger in which they are entered. -/
theorem Follows.signalled (h : s.Follows l) (signals : List Signal)
    (hthere : ∀ x ∈ signals, x.There s) :
    (s.signalled reactor signals).Follows (signals.foldl (Ledger.enter Ticket.same) l) := by
  induction signals generalizing s l with
  | nil => exact h
  | cons x signals ih =>
    obtain ⟨hx, hsignals⟩ := List.forall_mem_cons.mp hthere
    exact ih (h.act reactor x hx) fun y hy =>
      there_of_rel (managers_act reactor s x) (hsignals y hy)

end Session

/-! ## Announcements -/

/-- What the reactions of listeners do to subscriptions is what some signals do, which have their
managers; otherwise they may do what they like. -/
structure Reactor.Carries (reactor : Reactor) (nested : List Step → Session → List Signal) :
    Prop where
  there : ∀ steps s, ∀ x ∈ nested steps s, x.There s
  react : ∀ steps s,
    Frame.subscriptions.rel (s.signalled reactor (nested steps s)) (reactor.react steps s).2

/-- The same reactions, with the events that they announce themselves taken back out of what was
heard. -/
def Reactor.unheard (reactor : Reactor) : Reactor where
  react steps s :=
    let (outcome, t) := reactor.react steps s
    (outcome, { t with trace := { t.trace with events := s.trace.events } })
  invoke := reactor.invoke

namespace Session

/-- The signals of a listener that hears an event. One that cannot be shown it does not react. -/
def answer (nested : List Step → Session → List Signal) (arguments : List Value) (s : Session)
    (name : String) : List Signal :=
  match s.sight arguments with
  | .ok sight => nested (s.listener name).reaction (s.heard (.listener name arguments (.ok sight)))
  | .error _ => []

/-- The signals of listeners that hear an event one after the other. -/
def answers (reactor : Reactor) (nested : List Step → Session → List Signal) (event : String)
    (arguments : List Value) : List String → Session → List Signal
  | [], _ => []
  | name :: names, s =>
    s.answer nested arguments name ++
      answers reactor nested event arguments names (tell reactor event arguments s name)

/-- The session once all listeners have heard an event, and the bus has not. -/
def told (reactor : Reactor) (manager : Option Nat) (event : String) (arguments : List Value)
    (s : Session) : Session :=
  ((s.manager manager).listeners event).foldl (tell reactor event arguments) s

/-- What the bus of a configuration hears, if it has one. -/
def forwarded (event : String) (arguments : List Value) (config : Option Nat) (s : Session) :
    List Heard :=
  match (s.config config).bus.bind s.buses.get? with
  | none => []
  | some bus => [.bus bus.name event arguments (s.sight arguments)]

section Announce

variable {s : Session} {l : Ledger} {reactor : Reactor}
  {nested : List Step → Session → List Signal}

/-- A warning does nothing to subscriptions. -/
theorem Follows.ite_warned (h : s.Follows l) (c : Bool) (w : Warning) :
    (if c then s.warned w else s).Follows l := by
  cases c <;> exact ⟨h.subscribed, h.tokens⟩

/-- A bus does nothing to subscriptions. -/
theorem Follows.forward (h : s.Follows l) (event : String) (arguments : List Value)
    (config : Option Nat) : (s.forward event arguments config).Follows l := by
  rw [Session.forward]
  split
  · exact h
  · next bus _ =>
    have hheard : (s.heard (.bus bus.name event arguments (s.sight arguments))).Follows l :=
      ⟨h.subscribed, h.tokens⟩
    exact hheard.ite_warned _ _

/-- What a listener does to subscriptions is what its signals do. -/
theorem Follows.tell (hcarries : reactor.Carries nested) (h : s.Follows l) (event : String)
    (arguments : List Value) (name : String) :
    (tell reactor event arguments s name).Follows
      ((s.answer nested arguments name).foldl (Ledger.enter Ticket.same) l) := by
  rw [Session.tell, answer]
  generalize s.sight arguments = sight
  have hheard : (s.heard (.listener name arguments sight)).Follows l := ⟨h.subscribed, h.tokens⟩
  cases sight with
  | error e => exact hheard.ite_warned true _
  | ok shown =>
    have hreacted := (hheard.signalled reactor _ (hcarries.there _ _)).of_rel
      (hcarries.react (s.listener name).reaction _)
    exact hreacted.ite_warned _ _

/-- What listeners do one after the other is what their signals do in this order. -/
theorem Follows.tells (hcarries : reactor.Carries nested) (event : String)
    (arguments : List Value) (names : List String) (h : s.Follows l) :
    (names.foldl (Session.tell reactor event arguments) s).Follows
      ((answers reactor nested event arguments names s).foldl (Ledger.enter Ticket.same) l) := by
  induction names generalizing s l with
  | nil => exact h
  | cons name names ih =>
    rw [answers, List.foldl_append]
    exact ih (h.tell hcarries event arguments name)

/-- An announcement does to subscriptions what the signals of the listeners do.

**Proof sketch.** By induction on the listeners that are told, each of which makes the signals that
it carries; the bus makes none. -/
theorem Follows.announce (hcarries : reactor.Carries nested) (h : s.Follows l)
    (manager : Option Nat) (event : String) (arguments : List Value) :
    (s.announce reactor manager event arguments).Follows
      ((answers reactor nested event arguments ((s.manager manager).listeners event) s).foldl
        (Ledger.enter Ticket.same) l) :=
  (h.tells hcarries event arguments _).forward event arguments _

/-- A listener hears an event once, whether it fails or not. -/
theorem events_tell (event : String) (arguments : List Value) (name : String) (s : Session) :
    (Session.tell reactor.unheard event arguments s name).trace.events =
      s.trace.events ++ [.listener name arguments (s.sight arguments)] := by
  rw [Session.tell]
  generalize s.sight arguments = sight
  cases sight with
  | error e => rfl
  | ok shown =>
    dsimp only
    split <;> rfl

/-- Listeners hear an event one after the other, whoever fails. -/
theorem events_tells (reactor : Reactor) (event : String) (arguments : List Value)
    (names : List String) (s : Session) : ∃ calls,
      List.Forall₂ (fun name (heard : Heard) => ∃ sight, heard = .listener name arguments sight)
        names calls ∧
      (names.foldl (Session.tell reactor.unheard event arguments) s).trace.events =
        s.trace.events ++ calls := by
  induction names generalizing s with
  | nil => exact ⟨[], .nil, by simp⟩
  | cons name names ih =>
    obtain ⟨calls, hcalls, hevents⟩ := ih (Session.tell reactor.unheard event arguments s name)
    refine ⟨.listener name arguments (s.sight arguments) :: calls, .cons ⟨_, rfl⟩ hcalls, ?_⟩
    rw [List.foldl_cons, hevents, events_tell, List.append_assoc, List.singleton_append]

/-- A bus hears an event once, whether it fails or not. -/
theorem events_forward (event : String) (arguments : List Value) (config : Option Nat)
    (s : Session) : (s.forward event arguments config).trace.events =
      s.trace.events ++ s.forwarded event arguments config := by
  rw [Session.forward, forwarded]
  cases (s.config config).bus.bind s.buses.get? with
  | none => simp
  | some bus =>
    dsimp only
    split <;> rfl

/-- The listeners to an event are those of its live tickets. -/
theorem Follows.listeners (h : s.Follows l) (manager : Option Nat) (event : String) :
    (s.manager manager).listeners event =
      (l.waiting manager event).map (·.subscription.listener) := by
  have hsubscribed : (s.manager manager).subscriptions = s.subscribed (manager.getD 0) := by
    cases manager <;> rfl
  rw [EventManager.listeners, hsubscribed, h.subscribed, List.filter_map, List.map_map,
    List.filter_filter, Ledger.waiting]
  simp [Function.comp_def, Bool.and_comm]

/-- An announcement is heard once for each live ticket, in the order of the tickets, and then by the
bus if there is one, whoever fails of them. -/
theorem Follows.hear (h : s.Follows l) (reactor : Reactor) (manager : Option Nat) (event : String)
    (arguments : List Value) : ∃ calls, List.Forall₂ (fun t (heard : Heard) => ∃ sight,
        heard = .listener t.subscription.listener arguments sight) (l.waiting manager event) calls ∧
      (s.announce reactor.unheard manager event arguments).trace.events =
        s.trace.events ++ calls ++ (s.told reactor.unheard manager event arguments).forwarded event
          arguments (s.manager manager).config := by
  obtain ⟨calls, hcalls, hevents⟩ := events_tells reactor event arguments
    ((s.manager manager).listeners event) s
  refine ⟨calls, ?_, ?_⟩
  · rwa [h.listeners, List.forall₂_map_left_iff] at hcalls
  · rw [Session.announce, events_forward, hevents]
    rfl

end Announce

end Session

/-! ## Histories -/

/-- What can be done with event managers: a signal, or the announcement of an event. -/
inductive Operation where
  | signal (x : Signal)
  | emit (manager : Option Nat) (event : String) (arguments : List Value)

/-- Does what an operation says. -/
def Operation.act : Operation → Act Unit
  | .signal x => x.act
  | .emit manager event arguments => Act.announce manager event arguments

namespace Session

/-- The session after some operations. One that fails changes nothing. -/
def operated (reactor : Reactor) (operations : List Operation) (s : Session) : Session :=
  operations.foldl (fun s o => (o.act.run reactor s).2) s

/-- The signals of an operation: its own, or those of the listeners. -/
def signalsOf (reactor : Reactor) (nested : List Step → Session → List Signal) (s : Session) :
    Operation → List Signal
  | .signal x => [x]
  | .emit manager event arguments =>
    answers reactor nested event arguments ((s.manager manager).listeners event) s

/-- The signals of some operations, in the order in which they are carried out. -/
def sent (reactor : Reactor) (nested : List Step → Session → List Signal) :
    List Operation → Session → List Signal
  | [], _ => []
  | o :: operations, s =>
    s.signalsOf reactor nested o ++ sent reactor nested operations (o.act.run reactor s).2

section Operated

variable {s : Session} {l : Ledger} {reactor : Reactor}
  {nested : List Step → Session → List Signal}

/-- No listener loses a manager. -/
theorem managers_heard (hcarries : reactor.Carries nested) : Frame.managers.Heard reactor where
  heard s _ := Frame.managers.refl s
  warned s _ := Frame.managers.refl s
  react s name := Frame.managers.trans (managers_signalled reactor _ s)
    (hcarries.react (s.listener name).reaction s).1

/-- No operation loses a manager. -/
theorem managers_operate (hcarries : reactor.Carries nested) (s : Session) (o : Operation) :
    Frame.managers.rel s (o.act.run reactor s).2 := by
  cases o with
  | signal x => exact managers_act reactor s x
  | emit manager event arguments =>
    exact rel_announce (managers_heard hcarries) manager event arguments s

/-- An operation is followed by the ledger in which its signals are entered. -/
theorem Follows.operate (hcarries : reactor.Carries nested) (h : s.Follows l) (o : Operation)
    (hthere : ∀ x, o = .signal x → x.There s) :
    (o.act.run reactor s).2.Follows
      ((s.signalsOf reactor nested o).foldl (Ledger.enter Ticket.same) l) := by
  cases o with
  | signal x => exact h.act reactor x (hthere x rfl)
  | emit manager event arguments => exact h.announce hcarries manager event arguments

/-- Operations in a row are followed by the ledger in which all their signals are entered. -/
theorem Follows.operated (hcarries : reactor.Carries nested) (h : s.Follows l)
    (operations : List Operation) (hthere : ∀ x, .signal x ∈ operations → x.There s) :
    (s.operated reactor operations).Follows
      ((s.sent reactor nested operations).foldl (Ledger.enter Ticket.same) l) := by
  induction operations generalizing s l with
  | nil => exact h
  | cons o operations ih =>
    rw [sent, List.foldl_append]
    refine ih (h.operate hcarries o fun x hx => hthere x (by simp [hx])) fun x hx => ?_
    exact there_of_rel (managers_operate hcarries s o) (hthere x (List.mem_cons_of_mem _ hx))

end Operated

end Session

/-! ## What tokens cancel -/

namespace Ledger

/-- Tickets are told apart by their numbers, also those that tokens stand for. -/
structure Sound (l : Ledger) : Prop where
  live : ∀ t ∈ l.live, t.number < l.made
  tokens : ∀ p ∈ l.tokens, p.2.number < l.made
  eq : ∀ p ∈ l.tokens, ∀ t ∈ l.live, t.number = p.2.number → t = p.2

/-- Apart from the ticket that a token stands for, another one of the same kind is live. -/
def Clashes (l : Ledger) (token : String) : Prop :=
  ∃ t, l.ticket? token = some t ∧ ∃ u ∈ l.live, t.same u = true ∧ u ≠ t

variable {l : Ledger} {reach : Ticket → Ticket → Bool}

/-- Cancelling tickets keeps the others told apart. -/
theorem Sound.cancel (h : l.Sound) (cancelled : Ticket → Bool) : (l.cancel cancelled).Sound where
  live t ht := h.live t (List.mem_of_mem_filter ht)
  tokens := h.tokens
  eq p hp t ht := h.eq p hp t (List.mem_of_mem_filter ht)

/-- Entering a signal keeps tickets told apart. -/
theorem Sound.enter (h : l.Sound) (x : Signal) : (l.enter reach x).Sound := by
  cases x with
  | off manager subscription => exact h.cancel _
  | clear manager => exact h.cancel _
  | unsubscribe token =>
    rw [Ledger.enter]
    cases l.ticket? token with
    | none => exact h
    | some t => exact h.cancel _
  | on manager subscription token =>
    have hlive : ∀ t ∈ l.live ++ [⟨l.made, manager.getD 0, subscription⟩],
        t ∈ l.live ∨ t = ⟨l.made, manager.getD 0, subscription⟩ := by simp
    have htokens : ∀ p ∈ (token, (⟨l.made, manager.getD 0, subscription⟩ : Ticket)) ::
          l.tokens.filter (·.1 != token),
        p ∈ l.tokens ∨ p = (token, ⟨l.made, manager.getD 0, subscription⟩) := by
      intro p hp
      exact (List.mem_cons.mp hp).symm.imp_left List.mem_of_mem_filter
    refine ⟨fun t ht => ?_, fun p hp => ?_, fun p hp t ht hnumber => ?_⟩
    · obtain ht | rfl := hlive t ht
      · exact Nat.lt_succ_of_lt (h.live t ht)
      · exact Nat.lt_succ_self _
    · obtain hp | rfl := htokens p hp
      · exact Nat.lt_succ_of_lt (h.tokens p hp)
      · exact Nat.lt_succ_self _
    · obtain ht | rfl := hlive t ht <;> obtain hp | rfl := htokens p hp
      · exact h.eq p hp t ht hnumber
      · exact absurd hnumber (Nat.ne_of_lt (h.live t ht))
      · exact absurd hnumber (Nat.ne_of_gt (h.tokens p hp))
      · rfl

/-- In the ledger of a history tickets are told apart. -/
theorem sound_opened (reach : Ticket → Ticket → Bool) (signals : List Signal) :
    (opened reach signals).Sound := by
  have hfold : ∀ (signals : List Signal) (l : Ledger), l.Sound →
      (signals.foldl (enter reach) l).Sound := by
    intro signals
    induction signals with
    | nil => exact fun l h => h
    | cons x signals ih => exact fun l h => ih _ (h.enter x)
  exact hfold signals {} ⟨nofun, nofun, nofun⟩

/-- A signal cancels no more than it would if every token cancelled its own ticket just if it is
not the use of a token of which another ticket of the same kind is live. -/
theorem Sound.enter_own_eq_iff (h : l.Sound) (x : Signal) :
    l.enter Ticket.own x = l.enter Ticket.same x ↔
      ∀ token, x = .unsubscribe token → ¬ l.Clashes token := by
  cases x with
  | on manager subscription token => exact ⟨fun _ _ => nofun, fun _ => rfl⟩
  | off manager subscription => exact ⟨fun _ _ => nofun, fun _ => rfl⟩
  | clear manager => exact ⟨fun _ _ => nofun, fun _ => rfl⟩
  | unsubscribe token =>
    have honly : (∀ token', Signal.unsubscribe token = .unsubscribe token' →
        ¬ l.Clashes token') ↔ ¬ l.Clashes token :=
      ⟨fun h => h token rfl, fun h token' htoken => Signal.unsubscribe.inj htoken ▸ h⟩
    rw [honly, Ledger.enter, Ledger.enter, Clashes]
    cases ht : l.ticket? token with
    | none => simp
    | some t =>
      obtain ⟨p, hp, rfl⟩ := Option.map_eq_some_iff.mp ht
      have heq := h.eq p (List.mem_of_find?_eq_some hp)
      simp only [Option.elim_some, Option.some.injEq, exists_eq_left']
      constructor
      · rintro hcancel ⟨u, hu, hsame, hne⟩
        have hlive : u ∈ (l.cancel (Ticket.own p.2)).live :=
          List.mem_filter.mpr
            ⟨hu, by simpa [Ticket.own] using fun hnumber => hne (heq u hu hnumber)⟩
        rw [hcancel] at hlive
        simpa [hsame] using (List.mem_filter.mp hlive).2
      · intro hnone
        have hown : ∀ u ∈ l.live, p.2.own u = p.2.same u := by
          intro u hu
          rw [Bool.eq_iff_iff]
          constructor
          · intro hnumber
            rw [heq u hu (by simpa [Ticket.own] using hnumber)]
            simp [Ticket.same]
          · intro hsame
            have hu : u = p.2 := by
              by_contra hne
              exact hnone ⟨u, hu, hsame, hne⟩
            simp [Ticket.own, hu]
        rw [Ledger.cancel, Ledger.cancel, List.filter_congr fun u hu => by rw [hown u hu]]

/-- Along a history every token cancels just what its own ticket is for, unless it is used while
another ticket of the same kind is live.

**Proof sketch.** Up to the first such use the two ledgers are the same, as every signal is entered
in the same way; there they part. -/
theorem opened_own_eq_iff (signals : List Signal) :
    (∀ n, opened Ticket.own (signals.take n) = opened Ticket.same (signals.take n)) ↔
      ∀ n token, signals[n]? = some (.unsubscribe token) →
        ¬ (opened Ticket.own (signals.take n)).Clashes token := by
  have hnext : ∀ reach n x, signals[n]? = some x →
      opened reach (signals.take (n + 1)) = (opened reach (signals.take n)).enter reach x := by
    intro reach n x hx
    rw [opened, List.take_add_one, List.foldl_append, hx]
    rfl
  constructor
  · intro h n token hx
    have hsame := h (n + 1)
    rw [hnext _ n _ hx, hnext _ n _ hx, ← h n] at hsame
    exact ((sound_opened _ _).enter_own_eq_iff _).mp hsame token rfl
  · intro h n
    induction n with
    | zero => rfl
    | succ n ih =>
      cases hx : signals[n]? with
      | none => rwa [List.take_add_one, hx, Option.toList_none, List.append_nil]
      | some x =>
        rw [hnext _ n x hx, hnext _ n x hx, ← ih]
        exact ((sound_opened _ _).enter_own_eq_iff x).mpr fun token htoken =>
          h n token (by rw [hx, htoken])

end Ledger

/-! ## The whole of a history -/

namespace Session

/-- Where nobody is subscribed at first, any operations in a row, with whatever listeners do to
subscriptions when they hear of them, leave the live tickets of a ledger in which the token of a
ticket cancels every ticket of the same kind. From then on an event has the listeners of its live
tickets; its announcement is heard once for each of them, in their order, and then by the bus that
is configured by then if there is one, whoever fails. Every token cancels its own ticket alone just
if none is ever used while another ticket of the same kind is live.

**Proof sketch.** One signal keeps the managers in step with the ledger (`Follows.act`), so what a
listener does (`Follows.tell`) and an announcement (`Follows.announce`) do too, and with them
operations in a row (`Follows.operated`). The listeners to an event are read off the ledger
(`Follows.hear`), and the two ledgers are compared signal by signal (`Ledger.opened_own_eq_iff`). -/
theorem subscriptions_operated {s : Session} {reactor : Reactor}
    {nested : List Step → Session → List Signal} (hcarries : reactor.Carries nested)
    (hsubscribed : ∀ manager, s.subscribed manager = []) (htokens : s.tokens = [])
    (operations : List Operation) (hthere : ∀ x, .signal x ∈ operations → x.There s) :
    let t := s.operated reactor operations
    let signals := s.sent reactor nested operations
    let l := Ledger.opened Ticket.same signals
    (∀ manager event,
      (t.manager manager).listeners event =
        (l.waiting manager event).map (·.subscription.listener) ∧
      ∀ arguments, ∃ calls, List.Forall₂ (fun ticket (heard : Heard) => ∃ sight,
          heard = .listener ticket.subscription.listener arguments sight)
          (l.waiting manager event) calls ∧
        (t.announce reactor.unheard manager event arguments).trace.events =
          t.trace.events ++ calls ++ (t.told reactor.unheard manager event arguments).forwarded
            event arguments (t.manager manager).config) ∧
    ((∀ n, Ledger.opened Ticket.own (signals.take n) =
        Ledger.opened Ticket.same (signals.take n)) ↔
      ∀ n token, signals[n]? = some (.unsubscribe token) →
        ¬ (Ledger.opened Ticket.own (signals.take n)).Clashes token) := by
  intro t signals l
  have hfollows : t.Follows l :=
    (follows_empty hsubscribed htokens).operated hcarries operations hthere
  exact ⟨fun manager event => ⟨hfollows.listeners manager event,
    fun arguments => hfollows.hear reactor manager event arguments⟩,
    Ledger.opened_own_eq_iff signals⟩

end Session

/-- Whoever hears something cancels all subscriptions to the shared manager. -/
def Reactor.clearing : Reactor where
  react _ s := (Act.changeManager none EventManager.clear).run .still s
  invoke _ _ _ s := (.ok (), s)

/-- Two listeners are subscribed, an event is announced, and one is subscribed again. -/
def Operation.returning : List Operation := [
  .signal (.on none ⟨"ping", "f"⟩ "first"), .signal (.on none ⟨"ping", "g"⟩ "second"),
  .emit none "ping" [], .signal (.on none ⟨"ping", "g"⟩ "third")]

namespace Session

/-- If all subscriptions are cancelled when the event is announced, only the listener that is
subscribed again hears the next announcement. -/
theorem subscriptions_operated_returning :
    let t := (Session.start default).operated .clearing Operation.returning
    t.trace.events.length = 2 ∧ ∃ sight,
      (t.announce (.unheard .clearing) none "ping" []).trace.events =
        t.trace.events ++ [.listener "g" [] sight] := by
  intro t
  have hcarries : Reactor.clearing.Carries fun _ _ => [.clear none] :=
    ⟨fun _ _ x hx => by rw [List.mem_singleton.mp hx]; trivial,
      fun _ s => Frame.subscriptions.refl _⟩
  have hthere : ∀ x, .signal x ∈ Operation.returning → x.There (Session.start default) := by
    intro x hx
    simp only [Operation.returning, List.mem_cons, List.not_mem_nil, or_false] at hx
    rcases hx with hx | hx | hx | hx <;> cases hx <;> rfl
  obtain ⟨hheard, -⟩ := subscriptions_operated hcarries (s := Session.start default)
    (fun manager => by cases manager <;> rfl) rfl Operation.returning hthere
  obtain ⟨calls, hcalls, hevents⟩ := (hheard none "ping").2 []
  have hwaiting : (Ledger.opened Ticket.same ((Session.start default).sent .clearing
      (fun _ _ => [.clear none]) Operation.returning)).waiting none "ping" =
        [⟨2, 0, ⟨"ping", "g"⟩⟩] := by
    decide +kernel
  rw [hwaiting] at hcalls
  obtain ⟨heard, rest, ⟨sight, rfl⟩, hrest, rfl⟩ := List.forall₂_cons_left_iff.mp hcalls
  obtain rfl := List.forall₂_nil_left_iff.mp hrest
  exact ⟨by decide +kernel, sight, hevents.trans (List.append_nil _)⟩

/-- A listener that is subscribed twice hears nothing any more once one of the two tokens is used,
though the other ticket would be live. -/
theorem subscribed_twice_lost :
    let signals : List Signal := [.on none ⟨"ping", "f"⟩ "first",
      .on none ⟨"ping", "f"⟩ "second", .unsubscribe "first"]
    let t := (Session.start default).operated .still (signals.map .signal)
    (t.announce .still none "ping" []).trace.events.length = 0 ∧
      (Ledger.opened Ticket.own signals).waiting none "ping" = [⟨1, 0, ⟨"ping", "f"⟩⟩] := by
  decide +kernel

end Session

end FluentSql
