import FluentSql.Proofs.Session.Tables
import FluentSql.Session.Simulating

set_option autoImplicit false

/-!
# Starting a simulation

A simulation is running and empty before the first of its tables is loaded, and the tables are
loaded one after the other. So a start that succeeds leaves just the tables that it was given, and
one that fails leaves the simulation running with the tables before the one that failed.

## Main definitions

* `FluentSql.Session.SimulatesAs` — a simulation is as it was.
* `FluentSql.Session.Supplies` — what a source supplies a table with.
* `FluentSql.Session.Loads` — tables are loaded one after the other.

## Main results

* `FluentSql.Act.run_loadTables` — loading tables, up to the first that cannot be supplied.
* `FluentSql.Act.start_unchanged_iff` — what starting leaves, and when a start that fails leaves
  everything as it was.
-/

namespace FluentSql

/-! ## Names -/

namespace lastByName

variable {α : Type}

/-- Putting an entry adds its name at the end if it is new. -/
theorem names_put (known : List (String × α)) (entry : String × α) :
    (put known entry).map (·.1) =
      if entry.1 ∈ known.map (·.1) then known.map (·.1) else known.map (·.1) ++ [entry.1] := by
  induction known with
  | nil => rfl
  | cons other rest ih =>
    by_cases hother : other.1 = entry.1
    · simp [put, hother]
    · have hne : entry.1 ≠ other.1 := fun h => hother h.symm
      by_cases hmem : entry.1 ∈ rest.map (·.1) <;> simp_all [put]

/-- Putting an entry keeps the names different. -/
theorem nodup_put {known : List (String × α)} (h : (known.map (·.1)).Nodup) (entry : String × α) :
    ((put known entry).map (·.1)).Nodup := by
  rw [names_put]
  split
  · exact h
  · next hnew =>
    refine List.nodup_append.mpr ⟨h, by simp, ?_⟩
    rintro name hname _ hentry rfl
    exact hnew (List.mem_singleton.mp hentry ▸ hname)

end lastByName

/-- Entries by name have different names. -/
theorem nodup_lastByName {α : Type} (entries : List (String × α)) :
    ((lastByName entries).map (·.1)).Nodup :=
  List.foldlRecOn (motive := fun known => (known.map (·.1)).Nodup) entries lastByName.put
    List.nodup_nil fun _ hknown entry _ => lastByName.nodup_put hknown entry

/-! ## Running simulations and their tables -/

namespace Session

/-- A simulation shows what it showed: whether it is running, and what stands under every name. -/
def SimulatesAs (s t : Session) (m : Option Nat) : Prop :=
  t.simulating m = s.simulating m ∧ ∀ name, (t.snapshot m).value name = (s.snapshot m).value name

/-- The session with a simulation running that has no tables yet. -/
def restarted (s : Session) (m : Option Nat) : Session :=
  { s with simulations := s.simulations.modify (m.getD 0) fun x =>
      { x with active := true, state := [] } }

/-- The session with a table of its own for a value, in a simulation. -/
def loaded (s : Session) (m : Option Nat) (name : String) (v : Value) : Session :=
  (s.stamped (Table.ofValue 0 v).rows.length).published m name (.ofValue s.nextStamp v)

/-- The default executor of the configuration of a simulation. -/
def supplier (s : Session) (m : Option Nat) : Option Nat :=
  (s.config (s.simulation m).config).executor

/-- A simulation of its own is running, and these are its tables. -/
structure Holds (s : Session) (m : Option Nat) (shown : List (String × Value)) : Prop where
  own : s.controllerOf m = none
  running : s.simulating m = true
  entries : (s.snapshot m).entries = shown

variable {s t : Session} {m : Option Nat} {shown : List (String × Value)}

/-- A simulation that has just been started has no tables. -/
theorem holds_restarted {x : Simulation} (hx : s.simulations.get? (m.getD 0) = some x)
    (hown : s.controllerOf m = none) : (s.restarted m).Holds m [] := by
  have hbefore : s.simulation m = x := by rw [simulation, hx, Option.getD_some]
  have hafter : (s.restarted m).simulation m = { x with active := true, state := [] } := by
    rw [simulation, restarted, Directory.get?_modify, hx]
    rfl
  have hown' : (s.restarted m).controllerOf m = none := by
    rw [controllerOf, hbefore] at hown
    rw [controllerOf, hafter]
    exact hown
  refine ⟨hown', ?_, ?_⟩
  · rw [simulating, hown', hafter]
  · rw [snapshot, hown', hafter]
    rfl

namespace Holds

/-- What leaves simulations leaves their tables. -/
theorem of_holding {β : Type} {part : Builder → β} (h : s.Holds m shown)
    (hst : (Frame.holding part).rel s t) : t.Holds m shown := by
  obtain ⟨hown, hrunning, hsnapshot⟩ := Frame.same_of_holding hst m
  exact ⟨hown.trans h.own, hrunning.trans h.running, hsnapshot ▸ h.entries⟩

/-- A table that is loaded under a new name comes last. -/
theorem loaded (h : s.Holds m shown) {name : String} (hnew : name ∉ shown.map (·.1)) (v : Value) :
    (s.loaded m name v).Holds m (shown ++ [(name, v)]) := by
  have hstamped : (s.stamped (Table.ofValue 0 v).rows.length).controllerOf m = none := h.own
  obtain ⟨hown, hrunning, hsnapshot⟩ :=
    own_published hstamped h.running name (Table.ofValue s.nextStamp v)
  refine ⟨hown, hrunning, (congrArg Snapshot.entries hsnapshot).trans ?_⟩
  have hentries : ((s.stamped (Table.ofValue 0 v).rows.length).snapshot m).entries = shown :=
    h.entries
  rw [Snapshot.entries_put_of_new (hentries ▸ hnew), hentries, Table.value_ofValue]

end Holds

/-- A simulation keeps its default executor if it keeps its configuration. -/
theorem supplier_modify (s : Session) (m : Option Nat) {change : Simulation → Simulation}
    (h : ∀ x, (change x).config = x.config) :
    ({ s with simulations := s.simulations.modify (m.getD 0) change } : Session).supplier m =
      s.supplier m := by
  have hconfig : (((s.simulations.modify (m.getD 0) change).get? (m.getD 0)).getD {}).config =
      ((s.simulations.get? (m.getD 0)).getD {}).config := by
    rw [Directory.get?_modify]
    cases s.simulations.get? (m.getD 0) with
    | none => rfl
    | some x => exact h x
  exact congrArg (fun config => (s.config config).executor) hconfig

/-- Starting a simulation leaves its default executor. -/
theorem supplier_restarted (s : Session) (m : Option Nat) :
    (s.restarted m).supplier m = s.supplier m :=
  supplier_modify s m fun _ => rfl

/-- Loading a table into a simulation leaves its default executor. -/
theorem supplier_loaded (s : Session) (m : Option Nat) (name : String) (v : Value) :
    (s.loaded m name v).supplier m = s.supplier m :=
  supplier_modify (s.stamped (Table.ofValue 0 v).rows.length) m fun _ => rfl

/-- What leaves simulations leaves their default executors. -/
theorem supplier_of_holding {β : Type} {part : Builder → β} (h : (Frame.holding part).rel s t)
    (m : Option Nat) : t.supplier m = s.supplier m := by
  obtain ⟨⟨hsimulations, hconfigs, -⟩, -⟩ := h
  simp only [supplier, config, simulation, hsimulations, hconfigs]

end Session

/-! ## Supplying tables -/

namespace Session

/-- What a source supplies a table of a simulation with, or why it does not, and the session
afterwards. A list supplies a copy of itself. Anything else supplies no rows if there is no default
executor; if there is one, it supplies the rows that the executor answers to its statement. -/
inductive Supplies (reactor : Reactor) (m : Option Nat) :
    Session → Value → Except Error Value → Session → Prop
  | copied {s t : Session} {source copies : Value} {rows : List Value}
      (hsource : source.bare = .list rows)
      (hcopy : (Act.copy (.list rows)).run reactor s = (.ok copies, t)) :
      Supplies reactor m s source (.ok copies) t
  | unserved {s : Session} {source : Value} (hsource : ∀ rows, source.bare ≠ .list rows)
      (hexecutor : s.supplier m = none) :
      Supplies reactor m s source (.ok (.list [])) s
  | unstated {s : Session} {source : Value} {executor : Nat} {e : Error}
      (hsource : ∀ rows, source.bare ≠ .list rows)
      (hexecutor : s.supplier m = some executor)
      (hstatement : (Act.builderSelect source).run reactor s = (.error e, s)) :
      Supplies reactor m s source (.error e) s
  | unanswered {s t : Session} {source : Value} {executor : Nat} {statement : Statement}
      {e : Error} (hsource : ∀ rows, source.bare ≠ .list rows)
      (hexecutor : s.supplier m = some executor)
      (hstatement : (Act.builderSelect source).run reactor s = (.ok statement, s))
      (hanswer : (Act.execute executor .query statement).run reactor s = (.error e, t)) :
      Supplies reactor m s source (.error e) t
  | answered {s t : Session} {source answer : Value} {executor : Nat} {statement : Statement}
      (hsource : ∀ rows, source.bare ≠ .list rows)
      (hexecutor : s.supplier m = some executor)
      (hstatement : (Act.builderSelect source).run reactor s = (.ok statement, s))
      (hanswer : (Act.execute executor .query statement).run reactor s = (.ok answer, t)) :
      Supplies reactor m s source ((rowsOfReport answer).map .list) t

end Session

namespace Act

variable {reactor : Reactor} {s t : Session} {m : Option Nat}

/-- Running a statement leaves simulations, what serves them, and every builder. -/
theorem executes_holding {β : Type} {part : Builder → β} (statement : Statement) :
    Executes (Frame.holding part) reactor statement where
  ends _ _ _ := ⟨⟨rfl, rfl, rfl⟩, fun _ b hb => ⟨b, hb, rfl⟩⟩
  setSource _ _ _ := ⟨⟨rfl, rfl, rfl⟩, fun _ b hb => ⟨b, hb, rfl⟩⟩
  copied _ v := keeps_copy_holding v
  carries _ _ _ := ⟨⟨rfl, rfl, rfl⟩, fun _ b hb => ⟨b, hb, rfl⟩⟩

/-- Finding the statement of a source changes nothing. -/
theorem exists_run_builderSelect (reactor : Reactor) (s : Session) (source : Value) :
    ∃ statement, (builderSelect source).run reactor s = (statement, s) := by
  cases source with
  | builder id table =>
    cases hb : s.builders.get? id with
    | none =>
      have hmissing : (currentQuery id).run reactor s = (.error .missingKey, s) := by
        rw [currentQuery, run_get_bind, run_bind_of_error _ _ (run_builder_of_none _ _ hb)]
      exact ⟨_, run_bind_of_error _ _ hmissing _⟩
    | some b => exact ⟨_, run_bind_of_ok _ _ (run_currentQuery reactor s hb) _⟩
  | raw sql =>
    rw [builderSelect]
    split
    · exact ⟨_, rfl⟩
    · exact ⟨_, rfl⟩
  | _ => exact ⟨_, rfl⟩

/-- What a table is loaded with is what its source supplies. -/
theorem supplies_of_run_seedRows {source : Value} {outcome : Except Error Value}
    (h : (seedRows m source).run reactor s = (outcome, t)) :
    s.Supplies reactor m source outcome t := by
  rw [seedRows] at h
  split at h
  · next rows hrows =>
    obtain ⟨copies, u, hcopy⟩ := exists_run_copy reactor s (.list rows)
    rw [hcopy] at h
    cases h
    exact .copied hrows hcopy
  · next hrows =>
    rw [run_get_bind] at h
    cases hexecutor : (s.config (s.simulation m).config).executor with
    | none =>
      rw [hexecutor] at h
      cases h
      exact .unserved hrows hexecutor
    | some executor =>
      rw [hexecutor] at h
      dsimp only at h
      obtain ⟨_ | statement, hstatement⟩ := exists_run_builderSelect reactor s source
      · rw [run_bind_of_error _ _ hstatement] at h
        cases h
        exact .unstated hrows hexecutor hstatement
      · rw [run_bind_of_ok _ _ hstatement] at h
        rcases hanswer : (execute executor .query statement).run reactor s with ⟨_ | answer, u⟩
        · rw [run_bind_of_error _ _ hanswer] at h
          cases h
          exact .unanswered hrows hexecutor hstatement hanswer
        · rw [run_bind_of_ok _ _ hanswer] at h
          have hsupplies := Session.Supplies.answered hrows hexecutor hstatement hanswer
          cases hread : rowsOfReport answer with
          | error e =>
            rw [hread] at h hsupplies
            cases h
            exact hsupplies
          | ok rows =>
            rw [hread] at h hsupplies
            cases h
            exact hsupplies

end Act

namespace Session.Supplies

variable {reactor : Reactor} {s t : Session} {m : Option Nat} {source v : Value}

/-- Supplying a table leaves simulations, what serves them, and every builder. -/
theorem holding {β : Type} (part : Builder → β) {outcome : Except Error Value}
    (h : s.Supplies reactor m source outcome t) : (Frame.holding part).rel s t := by
  cases h with
  | copied _ hcopy => exact (Act.keeps_copy_holding _).rel hcopy
  | unserved | unstated => exact (Frame.holding part).refl s
  | unanswered _ _ _ hanswer | answered _ _ _ hanswer =>
    exact (Act.keeps_execute (Act.executes_holding _) _ _).rel hanswer

/-- A list of rows that refer to no builder supplies these rows. -/
theorem eq_of_closed {rows : List Value} (h : s.Supplies reactor m (.list rows) (.ok v) t)
    (hclosed : ∀ row ∈ rows, row.Closed) : v = .list rows := by
  generalize houtcome : Except.ok v = outcome at h
  cases h with
  | copied hsource hcopy =>
    cases hsource
    rw [Act.run_copy_of_closed (Value.closed_list.mpr hclosed)] at hcopy
    cases hcopy
    exact Except.ok.inj houtcome
  | unserved hsource | unstated hsource | unanswered hsource | answered hsource =>
    exact absurd rfl (hsource rows)

/-- Without a default executor, what is no list supplies no rows. -/
theorem eq_of_unserved (h : s.Supplies reactor m source (.ok v) t)
    (hsource : ∀ rows, source.bare ≠ .list rows) (hnone : s.supplier m = none) : v = .list [] := by
  generalize houtcome : Except.ok v = outcome at h
  cases h with
  | copied hlist => exact absurd hlist (hsource _)
  | unserved => exact Except.ok.inj houtcome
  | unstated _ hexecutor | unanswered _ hexecutor | answered _ hexecutor =>
    cases hnone.symm.trans hexecutor

/-- With a default executor, what is no list supplies the rows that it answers to its statement. -/
theorem exists_answer_of_served (h : s.Supplies reactor m source (.ok v) t)
    (hsource : ∀ rows, source.bare ≠ .list rows) {executor : Nat}
    (hexecutor : s.supplier m = some executor) :
    ∃ statement answer rows, (Act.builderSelect source).run reactor s = (.ok statement, s) ∧
      (Act.execute executor .query statement).run reactor s = (.ok answer, t) ∧
      rowsOfReport answer = .ok rows ∧ v = .list rows := by
  generalize houtcome : Except.ok v = outcome at h
  cases h with
  | copied hlist => exact absurd hlist (hsource _)
  | unserved _ hnone => cases hnone.symm.trans hexecutor
  | unstated | unanswered => cases houtcome
  | @answered _ _ answer _ statement _ hfound hstatement hanswer =>
    cases hfound.symm.trans hexecutor
    cases hread : rowsOfReport answer with
    | error e =>
      rw [hread] at houtcome
      cases houtcome
    | ok rows =>
      rw [hread] at houtcome
      exact ⟨statement, answer, rows, hstatement, hanswer, hread, Except.ok.inj houtcome⟩

end Session.Supplies

/-! ## Loading tables -/

/-- Tables are loaded one after the other, each with what its source supplies by then. -/
inductive Session.Loads (reactor : Reactor) (m : Option Nat) :
    Session → List (String × Value) → List (String × Value) → Session → Prop
  | done (s : Session) : Loads reactor m s [] [] s
  | next {s u t : Session} {name : String} {source v : Value}
      {rest shown : List (String × Value)} (hsupplies : s.Supplies reactor m source (.ok v) u)
      (hrest : Loads reactor m (u.loaded m name v) rest shown t) :
      Loads reactor m s ((name, source) :: rest) ((name, v) :: shown) t

namespace Session.Loads

variable {reactor : Reactor} {s t : Session} {m : Option Nat}
  {shown sources : List (String × Value)}

/-- The tables that are loaded have the names of their sources. -/
theorem names_eq (h : s.Loads reactor m sources shown t) :
    shown.map (·.1) = sources.map (·.1) := by
  induction h with
  | done s => rfl
  | next _ _ ih => rw [List.map_cons, List.map_cons, ih]

/-- Every source has supplied its table, with the default executor that there was before. -/
theorem exists_supplies (h : s.Loads reactor m sources shown t) {name : String} {source : Value}
    (hsource : (name, source) ∈ sources) :
    ∃ (v : Value) (u w : Session), (name, v) ∈ shown ∧ u.supplier m = s.supplier m ∧
      u.Supplies reactor m source (.ok v) w := by
  induction h with
  | done s => cases hsource
  | next hsupplies _ ih =>
    rcases List.mem_cons.mp hsource with heq | hsource
    · cases heq
      exact ⟨_, _, _, List.mem_cons_self, rfl, hsupplies⟩
    · obtain ⟨v, u, w, hv, hsupplier, hlater⟩ := ih hsource
      refine ⟨v, u, w, List.mem_cons_of_mem _ hv, hsupplier.trans ?_, hlater⟩
      rw [supplier_loaded, supplier_of_holding (hsupplies.holding Builder.descriptor) m]

end Session.Loads

namespace Act

variable {reactor : Reactor} {s t : Session} {m : Option Nat}

/-- A table that is supplied is stamped and put into the simulation, and then the others are loaded.
-/
theorem run_loadTables_cons {name : String} {source v : Value} {rest : List (String × Value)}
    {u : Session} (h : (seedRows m source).run reactor s = (.ok v, u)) :
    (loadTables m ((name, source) :: rest)).run reactor s =
      (loadTables m rest).run reactor (u.loaded m name v) := by
  rw [loadTables, run_bind_of_ok _ _ h]
  rfl

/-- Tables with new names are loaded one after the other: all of them, or those before the first
that is not supplied, with the error that keeps it from being so. They come after the tables that
are there already.

**Proof sketch.** By induction on the tables that are left, with any number of them there already.
One that is supplied comes last among these, as its name is new; one that is not ends the loading,
and what was loaded before it stays. -/
theorem run_loadTables {sources shown : List (String × Value)} {outcome : Except Error Unit}
    (hholds : s.Holds m shown) (hnames : ((shown ++ sources).map (·.1)).Nodup)
    (h : (loadTables m sources).run reactor s = (outcome, t)) :
    (outcome = .ok () ∧ ∃ more, s.Loads reactor m sources more t ∧ t.Holds m (shown ++ more)) ∨
    ∃ e before name source after more u, outcome = .error e ∧
      sources = before ++ (name, source) :: after ∧ s.Loads reactor m before more u ∧
      u.Supplies reactor m source (.error e) t ∧ t.Holds m (shown ++ more) := by
  -- the tables that are there already grow by one at each step, with its name new among them
  induction sources generalizing s shown with
  | nil =>
    cases h
    exact .inl ⟨rfl, [], .done _, by rwa [List.append_nil]⟩
  | cons entry rest ih =>
    obtain ⟨name, source⟩ := entry
    rcases hseed : (seedRows m source).run reactor s with ⟨seeded, u⟩
    have hsupplies := supplies_of_run_seedRows hseed
    have hholds' : u.Holds m shown := hholds.of_holding (hsupplies.holding Builder.descriptor)
    cases seeded with
    | error e =>
      rw [loadTables, run_bind_of_error _ _ hseed] at h
      cases h
      exact .inr ⟨e, [], name, source, rest, [], s, rfl, rfl, .done s, hsupplies,
        by rwa [List.append_nil]⟩
    | ok v =>
      have hmove : ∀ more : List (String × Value),
          shown ++ [(name, v)] ++ more = shown ++ (name, v) :: more := fun more =>
        List.append_assoc _ _ _
      have hnew : name ∉ shown.map (·.1) := by
        rw [List.map_append, List.map_cons] at hnames
        exact fun hname => (List.nodup_append.mp hnames).2.2 name hname name List.mem_cons_self rfl
      have hnames' : ((shown ++ [(name, v)] ++ rest).map (·.1)).Nodup := by
        simpa using hnames
      rw [run_loadTables_cons hseed] at h
      rcases ih (hholds'.loaded hnew v) hnames' h with
        ⟨rfl, more, hloads, hmore⟩ |
        ⟨e, before, other, source', after, more, w, rfl, rfl, hloads, hfails, hmore⟩
      · exact .inl ⟨rfl, (name, v) :: more, .next hsupplies hloads, hmove more ▸ hmore⟩
      · exact .inr ⟨e, (name, source) :: before, other, source', after, (name, v) :: more, w, rfl,
          rfl, .next hsupplies hloads, hfails, hmove more ▸ hmore⟩

/-! ## Starting -/

/-- Starting a simulation of its own leaves it running. A start that succeeds leaves the tables that
it was given and no others, each with what its source has supplied: the rows of a list, and for
anything else the rows that the default executor has answered to its statement, none if there is no
default executor. A start that fails does so at a table that its source does not supply, and leaves
the tables that were loaded before it. So it leaves the simulation as it was if and only if this was
running already, with these very tables.

**Proof sketch.** The simulation is running and empty before anything is loaded (`holds_restarted`),
and every table that is supplied comes after the ones before it (`Session.Holds.loaded`), so that
loading them leaves those that were supplied (`run_loadTables`). What is shown under all names tells
the tables (`Snapshot.Shows.shows_iff`). -/
theorem start_unchanged_iff {x : Simulation} (hx : s.simulations.get? (m.getD 0) = some x)
    (hown : s.controllerOf m = none) (given : List (String × Value)) {outcome : Except Error Unit}
    (h : (start m given).run reactor s = (outcome, t)) :
    t.controllerOf m = none ∧ t.simulating m = true ∧
    (outcome = .ok () →
      (t.snapshot m).entries.map (·.1) = (lastByName given).map (·.1) ∧
      (s.restarted m).Loads reactor m (lastByName given) (t.snapshot m).entries t ∧
      (∀ name rows, (name, .list rows) ∈ lastByName given → (∀ row ∈ rows, row.Closed) →
        (t.snapshot m).value name = .list rows) ∧
      (∀ name source, (name, source) ∈ lastByName given → (∀ rows, source.bare ≠ .list rows) →
        s.supplier m = none → (t.snapshot m).value name = .list []) ∧
      ∀ name source executor, (name, source) ∈ lastByName given →
        (∀ rows, source.bare ≠ .list rows) → s.supplier m = some executor →
        ∃ u w statement answer rows, (builderSelect source).run reactor u = (.ok statement, u) ∧
          (execute executor .query statement).run reactor u = (.ok answer, w) ∧
          rowsOfReport answer = .ok rows ∧ (t.snapshot m).value name = .list rows) ∧
    ∀ e, outcome = .error e → ∃ before name source after u,
      lastByName given = before ++ (name, source) :: after ∧
      (s.restarted m).Loads reactor m before (t.snapshot m).entries u ∧
      u.Supplies reactor m source (.error e) t ∧
      (s.SimulatesAs t m ↔
        s.simulating m = true ∧ (s.snapshot m).Shows (t.snapshot m).entries) := by
  have hnames := nodup_lastByName given
  have hrun : (start m given).run reactor s =
      (loadTables m (lastByName given)).run reactor (s.restarted m) := by
    rw [start, run_get_bind, hown]
    rfl
  rw [hrun] at h
  -- of the tables that are given only their different names matter from here on
  generalize lastByName given = sources at hnames h ⊢
  have hholds := Session.holds_restarted hx hown
  rcases run_loadTables hholds hnames h with ⟨rfl, more, hloads, hleft⟩ |
    ⟨e, before, name, source, after, more, u, rfl, hbefore, hloads, hfails, hleft⟩
  · obtain ⟨hown', hrunning, hentries⟩ := hleft
    rw [List.nil_append] at hentries
    subst hentries
    have hshows := Snapshot.shows_entries (hloads.names_eq ▸ hnames)
    refine ⟨hown', hrunning, fun _ => ⟨hloads.names_eq, hloads, ?_, ?_, ?_⟩, nofun⟩
    · intro name rows hsource hclosed
      obtain ⟨v, u, w, hv, -, hsupplies⟩ := hloads.exists_supplies hsource
      rw [← hsupplies.eq_of_closed hclosed]
      exact hshows.1 _ hv
    · intro name source hsource hlist hnone
      obtain ⟨v, u, w, hv, hsame, hsupplies⟩ := hloads.exists_supplies hsource
      rw [← hsupplies.eq_of_unserved hlist (hsame.trans ((s.supplier_restarted m).trans hnone))]
      exact hshows.1 _ hv
    · intro name source executor hsource hlist hexecutor
      obtain ⟨v, u, w, hv, hsame, hsupplies⟩ := hloads.exists_supplies hsource
      have hserved : u.supplier m = some executor :=
        hsame.trans ((s.supplier_restarted m).trans hexecutor)
      obtain ⟨statement, answer, rows, hstatement, hanswer, hread, rfl⟩ :=
        hsupplies.exists_answer_of_served hlist hserved
      exact ⟨u, w, statement, answer, rows, hstatement, hanswer, hread, hshows.1 _ hv⟩
  · obtain ⟨hown', hrunning, hentries⟩ := hleft
    rw [List.nil_append] at hentries
    subst hentries
    have hnodup : ((t.snapshot m).entries.map (·.1)).Nodup := by
      rw [hbefore, List.map_append] at hnames
      rw [hloads.names_eq]
      exact (List.nodup_append.mp hnames).1
    refine ⟨hown', hrunning, nofun, fun e' he => ?_⟩
    cases he
    refine ⟨before, name, source, after, u, hbefore, hloads, hfails, ?_⟩
    rw [Session.SimulatesAs, hrunning, (Snapshot.shows_entries hnodup).shows_iff]
    exact and_congr_left' eq_comm

/-- The rows of a table. -/
def oneRow : List Value := [.map [("a", .int 1)]]

/-- A table to be loaded with rows, and one with what the default executor answers. -/
def rowsThenQuery : List (String × Value) := [("t", .list oneRow), ("u", .builder 0 "u")]

/-- A session with a simulation of one table, a builder, and a default executor that fails once. -/
def halfway : Session where
  clock := default
  configs := .single "main" { executor := some 0 }
  executors := .single "db" {
    name := "db", dialect := none, awaited := false
    source := .plain [] (.list []) [.failure "down"] [] }
  simulations := .single "main" { active := true, state := [("t", .ofValue 0 (.list oneRow))] }
  builders := { items := [Builder.new "u" {}] }
  nextStamp := 2

/-- The session with a simulation that has not been started. -/
def halfway.idle : Session := { halfway with simulations := .single "main" {} }

/-- A session once starting the simulation has been tried. -/
def started (s : Session) (given : List (String × Value)) : Session :=
  ((start none given).run .still s).2

/-- The start fails at the second table, and leaves everything as it was, since the simulation was
running with the first one. Tried once more it succeeds. -/
theorem start_unchanged_iff_halfway :
    let failed := started halfway rowsThenQuery
    (∃ e, (start none rowsThenQuery).run .still halfway = (.error e, failed)) ∧
      halfway.SimulatesAs failed none ∧
      (start none rowsThenQuery).run .still failed = (.ok (), started failed rowsThenQuery) ∧
      ((started failed rowsThenQuery).snapshot none).value "t" = .list oneRow := by
  intro failed
  obtain ⟨e, hfails⟩ : ∃ e, (start none rowsThenQuery).run .still halfway = (.error e, failed) :=
    ⟨_, rfl⟩
  have hsucceeds : (start none rowsThenQuery).run .still failed =
      (.ok (), started failed rowsThenQuery) := by
    have hok : ((start none rowsThenQuery).run .still failed).1.isOk = true := by decide +kernel
    rw [started]
    rcases hrun : (start none rowsThenQuery).run .still failed with ⟨e | done, t⟩
    · rw [hrun] at hok
      cases hok
    · rfl
  have hleft : (failed.snapshot none).entries = (halfway.snapshot none).entries := rfl
  have hclosed : ∀ row ∈ oneRow, row.Closed := by decide
  obtain ⟨-, -, -, herror⟩ := start_unchanged_iff rfl rfl rowsThenQuery hfails
  obtain ⟨-, -, -, -, -, -, -, -, hsame⟩ := herror e rfl
  obtain ⟨-, -, hloaded, -⟩ := start_unchanged_iff rfl rfl rowsThenQuery hsucceeds
  obtain ⟨-, -, hrows, -⟩ := hloaded rfl
  refine ⟨⟨e, hfails⟩, hsame.mpr ⟨rfl, ?_⟩, hsucceeds, hrows "t" oneRow (.head _) hclosed⟩
  rw [hleft]
  exact Snapshot.shows_entries (by decide)

/-- A start that fails leaves a simulation running that was not, with the table before the one that
failed; and a simulation that was running loses its table. -/
theorem failed_start_stays_active :
    ((start none rowsThenQuery).run .still halfway.idle).1.isOk = false ∧
    halfway.idle.simulating none = false ∧
    (started halfway.idle rowsThenQuery).simulating none = true ∧
    (halfway.idle.snapshot none).value "t" = .null ∧
    ((started halfway.idle rowsThenQuery).snapshot none).value "t" = .list oneRow ∧
    ((start none [("u", .builder 0 "u")]).run .still halfway).1.isOk = false ∧
    (halfway.snapshot none).value "t" = .list oneRow ∧
    ((started halfway [("u", .builder 0 "u")]).snapshot none).value "t" = .null :=
  ⟨rfl, rfl, rfl, rfl, rfl, rfl, rfl, rfl⟩

end Act

end FluentSql
