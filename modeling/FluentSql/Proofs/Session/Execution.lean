import FluentSql.Proofs.Session.Act
import FluentSql.Session.Events
import FluentSql.Session.Execution

set_option autoImplicit false

/-!
# What announcing and running statements leave as they are

Announcing an event writes down who heard it and runs the reactions of listeners; running a
statement writes down what the executor did and takes its next answer. Everything else stays as it
is, except for what a reaction does, and except for the builders that are copied along with the
rows of a SELECT.

## Main definitions

* `FluentSql.Frame.Heard`, `FluentSql.Act.Executes` — what listeners and executors do stays within a
  frame.
* `FluentSql.Happening.Carries`, `FluentSql.Happening.sql?`, `FluentSql.Happening.RunBy` — an
  executor ran a statement.
* `FluentSql.Reactor.muted`, `FluentSql.Frame.hands` — reactions whose own statements are not
  written down, and the frame within which only some happenings are.
* `FluentSql.Session.servant` — the executor that serves a builder.
* `FluentSql.Session.serving`, `FluentSql.Reactor.still` — the smallest sessions, for examples.

## Main results

* `FluentSql.Session.rel_announce`, `FluentSql.Act.keeps_trigger` — an announcement stays within the
  frames within which the reactions stay.
* `FluentSql.Act.keeps_execute` — and so does running a statement.
-/

namespace FluentSql

variable {F : Frame} {reactor : Reactor}

/-! ## Announcing -/

/-- What listeners do stays within a frame: that they hear, that they fail, and their reactions. -/
structure Frame.Heard (F : Frame) (reactor : Reactor) : Prop where
  heard : ∀ s h, F.rel s (Session.heard s h)
  warned : ∀ s w, F.rel s (Session.warned s w)
  react : ∀ s name, F.rel s (reactor.react (Session.listener s name).reaction s).2

namespace Session

/-- A listener stays within the frame. -/
theorem rel_tell (hF : F.Heard reactor) (event : String) (arguments : List Value) (s : Session)
    (name : String) : F.rel s (tell reactor event arguments s name) := by
  rw [tell]
  generalize s.sight arguments = sight
  have hheard := hF.heard s (.listener name arguments sight)
  cases sight with
  | error e => exact F.trans hheard (hF.warned _ _)
  | ok shown =>
    let told := s.heard (.listener name arguments (.ok shown))
    have hreact : F.rel told (reactor.react (s.listener name).reaction told).2 :=
      hF.react told name
    dsimp only
    split
    · exact F.trans (F.trans hheard hreact) (hF.warned _ _)
    · exact F.trans hheard hreact

/-- A bus stays within the frame. -/
theorem rel_forward (hF : F.Heard reactor) (event : String) (arguments : List Value)
    (config : Option Nat) (s : Session) : F.rel s (s.forward event arguments config) := by
  rw [forward]
  split
  · exact F.refl s
  · next bus _ =>
    have hheard := hF.heard s (.bus bus.name event arguments (s.sight arguments))
    dsimp only
    split
    · exact F.trans hheard (hF.warned _ _)
    · exact hheard

/-- An announcement stays within the frame: one listener after the other does, then the bus.

**Proof sketch.** By induction on the listeners, which were looked up before the first of them is
told. -/
theorem rel_announce (hF : F.Heard reactor) (manager : Option Nat) (event : String)
    (arguments : List Value) (s : Session) :
    F.rel s (s.announce reactor manager event arguments) := by
  have hfold : ∀ (names : List String) (s : Session),
      F.rel s (names.foldl (tell reactor event arguments) s) := by
    intro names
    induction names with
    | nil => exact F.refl
    | cons name names ih => exact fun s => F.trans (rel_tell hF event arguments s name) (ih _)
  rw [announce]
  exact F.trans (hfold _ s) (rel_forward hF event arguments _ _)

end Session

/-- Whether something is a statement that an executor ran. -/
def Happening.runs : Happening → Bool
  | .ran .. | .drove .. => true
  | .committed _ | .rolledBack _ | .sought _ => false

/-- The text that an executor or its driver ran. -/
def Happening.sql? : Happening → Option String
  | .ran _ _ statement _ | .drove _ statement _ => some statement.sql
  | .committed _ | .rolledBack _ | .sought _ => none

/-- An executor ran a statement, an engine with the placeholders of its driver. -/
def Happening.Carries (h : Happening) (statement : Statement) : Prop :=
  (∃ executor method sight, h = .ran executor method statement sight) ∨
    ∃ executor style sight, h = .drove executor
      { statement with sql := PlaceholderStyle.translate style statement.sql } sight

/-- Whoever ran something has a name. -/
def Happening.RunBy (name : String) : Happening → Prop
  | .ran executor .. | .drove executor .. => executor = name
  | .committed _ | .rolledBack _ | .sought _ => True

/-- The executor that serves a builder; none is an error. -/
def Session.servant (s : Session) (b : Builder) : Except Error Nat := do
  match ← s.executorFor b.options.config b.descriptor.banks with
  | some id => return id
  | none => throw (.noExecutor b.table (b.descriptor.banks.getD []) none)

namespace Act

/-- Finding the executor that serves a builder changes nothing. -/
theorem run_executorOf (s : Session) (b : Builder) :
    (executorOf b).run reactor s = (s.servant b, s) := by
  rw [executorOf, run_bind, run_get, Session.servant]
  dsimp only
  cases s.executorFor b.options.config b.descriptor.banks with
  | error e => rfl
  | ok executor => cases executor <;> rfl

/-- Announcing a statement stays within the frame. -/
theorem keeps_trigger (hF : F.Heard reactor) (manager : Option Nat) (t : Trigger)
    (extra : Fields) : Keeps F reactor (trigger manager t extra) := by
  refine keeps_bind (keeps_of _) fun payload => ?_
  exact fun s => Session.rel_announce hF manager t.topic [payload] s

/-! ## Running statements -/

/-- Looking at a value again changes nothing. -/
theorem keeps_current (v : Value) : Keeps F reactor (current v) :=
  keeps_bind keeps_get fun _ => keeps_pure _

/-- What an executor does once a statement is written down stays within a frame: that its answers
are used up, and how the statement ends. -/
structure Finishes (F : Frame) (reactor : Reactor) (statement : Statement) : Prop where
  ends : ∀ h : Happening, h.runs = false → Keeps F reactor (happened h)
  setSource : ∀ id source, Keeps F reactor (setSource id source)
  copied : statement.reads = true → ∀ v, Keeps F reactor (copy v)

/-- What an executor does stays within a frame: what is written down of a statement, and what it
does then. -/
structure Executes (F : Frame) (reactor : Reactor) (statement : Statement) : Prop
    extends Finishes F reactor statement where
  carries : ∀ h : Happening, h.Carries statement → Keeps F reactor (happened h)

/-- Evaluating a report changes nothing. -/
theorem keeps_evaluate (report : DriverReport Value) :
    Keeps F reactor (report.evaluate current) := by
  cases report with
  | rows v => exact keeps_bind (keeps_current v) fun _ => keeps_pure _
  | count rowcount lastId =>
    refine keeps_bind ?_ fun _ => keeps_bind ?_ fun _ => keeps_pure _
    · cases rowcount with
      | none => exact keeps_pure _
      | some v => exact keeps_bind (keeps_current v) fun _ => keeps_pure _
    · cases lastId with
      | none => exact keeps_pure _
      | some v => exact keeps_bind (keeps_current v) fun _ => keeps_pure _
  | failure text => exact keeps_pure _

/-- An executor that there is first writes down the statement; what it does then stays within the
frames of what executors do. -/
theorem run_execute (reactor : Reactor) {s : Session} {id : Nat} {e : Executor Value}
    (he : s.executors.get? id = some e) (method : ExecutorMethod) (statement : Statement) :
    ∃ (h : Happening) (rest : Unit → Act Value), h.Carries statement ∧ h.RunBy e.name ∧
      (execute id method statement).run reactor s = (happened h >>= rest).run reactor s ∧
      ∀ F, Finishes F reactor statement → Keeps F reactor (rest ()) := by
  rw [execute, run_bind, run_get]
  simp only [he]
  rw [run_bind, run_get]
  dsimp only
  cases e.source with
  | plain optional rows reads writes =>
    refine ⟨_, _, .inl ⟨_, _, _, rfl⟩, rfl, rfl, fun F h => keeps_bind (keeps_of _) fun _ => ?_⟩
    split
    · next hreads =>
      refine keeps_bind (h.copied hreads _) fun _ => keeps_bind (h.setSource _ _) fun _ => ?_
      refine keeps_bind (keeps_pure _) fun reply => ?_
      cases reply with
      | answer v => exact keeps_current v
      | failure text => exact keeps_fail _
    · refine keeps_bind (h.setSource _ _) fun _ => ?_
      refine keeps_bind (keeps_pure _) fun reply => ?_
      cases reply with
      | answer v => exact keeps_current v
      | failure text => exact keeps_fail _
  | engine engine reports =>
    refine ⟨_, _, .inr ⟨_, _, _, rfl⟩, rfl, rfl, fun F h => ?_⟩
    have hcommitted : ∀ answer : Value,
        Keeps F reactor (happened (.committed e.name) >>= fun _ => pure answer) := fun _ =>
      keeps_bind (h.ends _ rfl) fun _ => keeps_pure _
    have hrolledBack : ∀ failure,
        Keeps F reactor (happened (.rolledBack e.name) >>= fun _ => (fail failure : Act Value)) :=
      fun _ => keeps_bind (h.ends _ rfl) fun _ => keeps_fail _
    split
    · refine keeps_bind (keeps_bind (h.setSource _ _) fun _ =>
        keeps_bind (keeps_evaluate _) fun _ => keeps_pure _) fun outcome => ?_
      cases outcome with
      | ok answer => exact hcommitted _
      | error failure => exact hrolledBack failure
    · refine keeps_bind (keeps_pure _) fun outcome => ?_
      cases outcome with
      | ok answer => exact hcommitted _
      | error failure => exact hrolledBack failure

/-- Running a statement stays within the frames of what its executor does.

**Proof sketch.** If there is no such executor nothing happens. Else one thing happens that carries
the statement, and what follows it finishes it. -/
theorem keeps_execute {statement : Statement} (h : Executes F reactor statement) (id : Nat)
    (method : ExecutorMethod) : Keeps F reactor (execute id method statement) := by
  intro s
  cases he : s.executors.get? id with
  | none =>
    have hrun : (execute id method statement).run reactor s = (.error .missingKey, s) := by
      rw [execute, run_bind, run_get]
      simp only [he]
      rfl
    rw [hrun]
    exact F.refl s
  | some e =>
    obtain ⟨happening, rest, hcarries, -, hrun, hrest⟩ := run_execute reactor he method statement
    rw [hrun]
    exact keeps_bind (h.carries _ hcarries) (fun _ => hrest F h.toFinishes) s

end Act

/-! ## What is handed over -/

/-- The same reactions, with the statements that they hand to executors taken back out of what is
written down. -/
def Reactor.muted (reactor : Reactor) : Reactor where
  react steps s :=
    let (outcome, t) := reactor.react steps s
    (outcome, { t with trace := { t.trace with calls := s.trace.calls } })
  invoke := reactor.invoke

/-- The frame within which nothing but happenings of some kind is written down. -/
def Frame.hands (P : Happening → Prop) : Frame where
  rel s t := ∃ new, t.trace.calls = s.trace.calls ++ new ∧ ∀ h ∈ new, P h
  refl s := ⟨[], by simp⟩
  trans := by
    rintro s t u ⟨first, hfirst, hp⟩ ⟨second, hsecond, hq⟩
    refine ⟨first ++ second, by rw [hsecond, hfirst, List.append_assoc], fun h hh => ?_⟩
    rcases List.mem_append.mp hh with hh | hh
    · exact hp h hh
    · exact hq h hh

namespace Frame

variable {P : Happening → Prop} {reactor : Reactor}

/-- Nothing is written down where the calls of the trace stay as they are. -/
theorem hands_of_eq {s t : Session} (h : t.trace.calls = s.trace.calls) : (hands P).rel s t :=
  ⟨[], by simp [h]⟩

/-- Muted listeners hand nothing over. -/
theorem hands_heard : (hands P).Heard reactor.muted where
  heard _ _ := hands_of_eq rfl
  warned _ _ := hands_of_eq rfl
  react _ _ := hands_of_eq rfl

end Frame

/-- Once a statement is written down, nothing but its end is. -/
theorem Act.finishes_hands {P : Happening → Prop} {statement : Statement}
    (hends : ∀ h, h.runs = false → P h) : Act.Finishes (Frame.hands P) reactor statement where
  ends h hh _ := ⟨[h], rfl, by simpa using hends h hh⟩
  setSource _ _ _ := Frame.hands_of_eq rfl
  copied _ v := Act.keeps_copy (fun _ _ => Frame.hands_of_eq rfl) v

/-- Running a statement writes down that it was run. -/
theorem Act.executes_hands {P : Happening → Prop} {statement : Statement}
    (hruns : ∀ h, h.Carries statement → P h) (hends : ∀ h, h.runs = false → P h) :
    Act.Executes (Frame.hands P) reactor statement where
  toFinishes := Act.finishes_hands hends
  carries h hh _ := ⟨[h], rfl, by simpa using hruns h hh⟩

/-! ## The smallest sessions -/

/-- Listeners and functions that do nothing. -/
def Reactor.still : Reactor where
  react _ s := (.ok (), s)
  invoke _ _ _ s := (.ok (), s)

/-- A session with one executor, which gives its standard answers and serves one builder. -/
def Session.serving (b : Builder) : Session where
  clock := default
  configs := .single "main" { executor := some 0 }
  executors := .single "db" {
    name := "db", dialect := none, awaited := false, source := .plain [] (.list []) [] [] }
  builders := .single "q" b

end FluentSql
