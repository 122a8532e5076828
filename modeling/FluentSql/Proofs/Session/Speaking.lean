import FluentSql.Proofs.Session.Routing

set_option autoImplicit false

/-!
# Which dialect a query speaks

A call that differs between databases is put into the dialect of its builder when it is made. A
builder that was not told a dialect speaks that of the executor that serves it then, which need not
be the one that its statement goes to: asking for another database afterwards does not put anything
into another dialect. The statement is right if every such call was made while an executor of the
right dialect served the builder, so in particular if no database was asked for after such a call.

To say that every part of a query is in one dialect, it is compared with what the same calls build
where every executor declares that dialect.

## Main definitions

* `FluentSql.Method.speaks` — the calls that ask for the dialect of their builder.
* `FluentSql.Session.declaring` — a session in which all executors declare one dialect.
* `FluentSql.Session.SpeaksAt`, `FluentSql.Session.AllSpeak` — a builder, and every call that asks
  for the dialect of its builder, speaks a dialect.
* `FluentSql.Act.Unaware` — an act does the same where all executors declare one dialect.

## Main results

* `FluentSql.Session.chained_declaring` — what calls build where all executors declare one dialect.
* `FluentSql.Act.dispatches_in_dialect_of_servant` — when a statement is in the dialect of the
  executor that it goes to.
-/

namespace FluentSql

/-! ## Calls that ask for a dialect -/

/-- Whether a call asks for the dialect of its builder, or hands the builder to a function, which
may ask for it. -/
def Method.speaks : Method → Bool
  | .whereIlike | .whereContainsCi | .whereStartsWithCi | .whereEndsWithCi
  | .whereJsonContains | .whereFullText | .selectRowNumber | .when_ | .unless_ => true
  | _ => false

namespace Method

/-- A call that does not ask for a dialect does the same in every dialect. -/
theorem perform_congr {m : Method} (h : m.speaks = false) (ctx : Context)
    (dialect : Except Error Dialect) (args : Arguments) :
    m.perform { ctx with dialect } args = m.perform ctx args := by
  cases m <;> first | rfl | cases h

/-- A short form asks for a dialect if the call that it stands for does. -/
theorem speaks_longForm (m : Method) : m.longForm.speaks = m.speaks := by
  cases m <;> rfl

end Method

/-! ## Sessions with one dialect -/

namespace Session

/-- The session in which all executors declare one dialect, or none. -/
def declaring (name : Option String) (s : Session) : Session :=
  { s with executors := s.executors.map fun e => { e with dialect := name } }

/-- The builder of a number was told a dialect, or else speaks one that executors may declare. -/
def SpeaksAt (name : Option String) (s : Session) (id : Nat) : Prop :=
  ∀ b, s.builders.get? id = some b → b.options.dialect = none →
    s.dialectOf b = .ok (s.dialects.resolve name)

variable {s t : Session} {name : Option String} {id : Nat} {b : Builder}

/-- A builder that was not told a dialect speaks that of the executor that serves it. -/
theorem dialectOf_of_servant {executor : Nat} {e : Executor Value}
    (huntold : b.options.dialect = none) (hservant : s.servant b = .ok executor)
    (he : s.executors.get? executor = some e) :
    s.dialectOf b = .ok (s.dialects.resolve e.dialect) := by
  simp only [servant, bind_eq_ok] at hservant
  obtain ⟨served, hserved, h⟩ := hservant
  cases served with
  | none => cases h
  | some other =>
    cases h
    simp only [dialectOf, huntold, declaredDialect, hserved, ok_bind, Option.bind_some, he]
    rfl

/-- What tells the executor of a builder tells the dialect that it speaks. -/
theorem dialectOf_of_routing {c : Builder} (h : Frame.routing.rel s t)
    (hroute : c.route = b.route) : t.dialectOf c = s.dialectOf b := by
  obtain ⟨⟨⟨-, hconfigs, -⟩, -⟩, hexecutors, hdialects⟩ := h
  obtain ⟨hoptions, hbanks⟩ := Prod.mk.inj hroute
  simp only [dialectOf, declaredDialect, executorFor, config, hoptions, hbanks, hconfigs,
    hexecutors, hdialects]

/-- A builder goes on to speak a dialect while nothing is routed. -/
theorem SpeaksAt.of_routing (h : s.SpeaksAt name id) (hst : Frame.routing.rel s t)
    (hb : s.builders.get? id = some b) : t.SpeaksAt name id := by
  intro c hc huntold
  obtain ⟨c', hc', hroute⟩ := hst.1.2 id b hb
  obtain rfl : c' = c := Option.some.inj (hc'.symm.trans hc)
  have hoptions : c'.options = b.options := congrArg Prod.fst hroute
  rw [dialectOf_of_routing hst hroute, hst.2.2]
  exact h b hb (hoptions ▸ huntold)

/-- Where all executors declare one dialect, the one that serves a builder declares it. -/
theorem declaredDialect_declaring (config : Option Nat) (banks : Option (List Value)) :
    (s.declaring name).declaredDialect config banks =
      (s.executorFor config banks).map fun served =>
        (served.bind s.executors.get?).bind fun _ => name := by
  have hget : ∀ executor, (s.declaring name).executors.get? executor =
      (s.executors.get? executor).map fun e => { e with dialect := name } := fun executor =>
    List.getElem?_map
  have hfor : (s.declaring name).executorFor config banks = s.executorFor config banks := rfl
  rw [declaredDialect, hfor]
  cases s.executorFor config banks with
  | error e => rfl
  | ok served =>
    cases served with
    | none => rfl
    | some executor =>
      simp only [ok_bind, Option.bind_some, hget, Except.map]
      cases s.executors.get? executor <;> rfl

/-- A builder that speaks a dialect speaks it where all executors declare it. -/
theorem SpeaksAt.dialectOf_declaring (h : s.SpeaksAt name id) (hb : s.builders.get? id = some b) :
    (s.declaring name).dialectOf b = s.dialectOf b := by
  cases htold : b.options.dialect with
  | some told => simp only [dialectOf, htold, declaring]
  | none =>
    have hspeaks := h b hb htold
    simp only [dialectOf, htold, declaredDialect_declaring] at hspeaks ⊢
    rw [hspeaks]
    rw [declaredDialect] at hspeaks
    cases hserved : s.executorFor b.options.config b.descriptor.banks with
    | error e =>
      rw [hserved] at hspeaks
      cases hspeaks
    | ok served =>
      rw [hserved] at hspeaks
      -- Without an executor nothing is declared, here as there.
      cases hexecutor : served.bind s.executors.get? with
      | none =>
        simp only [ok_bind, hexecutor] at hspeaks
        simp only [Except.map, hexecutor]
        exact hspeaks
      | some e =>
        simp only [Except.map, hexecutor]
        rfl

/-- What all executors declare is no matter for the statement that reads the rows of a builder. -/
theorem reading_declaring (s : Session) (id : Nat) :
    (s.declaring name).reading id = s.reading id := by
  have hbuilders : (s.declaring name).builders = s.builders := rfl
  have hservant : (s.declaring name).servant = s.servant := funext (servant_congr rfl)
  have hquery : (s.declaring name).currentQuery = s.currentQuery :=
    funext (currentQuery_congr (visible_congr rfl) rfl)
  simp only [reading, hbuilders, hservant, hquery]

/-- Nor is it for the statement with which a write opens. -/
theorem opening_declaring (s : Session) (id : Nat) :
    (s.declaring name).opening id = s.opening id := by
  have hbuilders : (s.declaring name).builders = s.builders := rfl
  exact opening_congr hbuilders rfl rfl id

/-- What all executors declare is no matter for copies of builders. -/
theorem copyBuilders_declaring (s : Session) (ids : List Nat) :
    (s.declaring name).copyBuilders ids =
      ((s.copyBuilders ids).1, (s.copyBuilders ids).2.declaring name) := by
  have hbuilders : (s.declaring name).builders = s.builders := rfl
  simp only [copyBuilders, reachable_congr (visible_congr hbuilders)]
  rfl

end Session

/-! ## Acts that do the same with one dialect -/

namespace Act

/-- An act does the same where all executors declare one dialect. -/
def Unaware {α : Type} (name : Option String) (reactor : Reactor) (s : Session) (a : Act α) :
    Prop :=
  a.run reactor (s.declaring name) = ((a.run reactor s).1, (a.run reactor s).2.declaring name)

section Unaware

variable {α β : Type} {name : Option String} {reactor : Reactor} {s : Session}

theorem unaware_pure (x : α) : Unaware name reactor s (pure x : Act α) := rfl

theorem unaware_of (e : Except Error α) : Unaware name reactor s (of e) := rfl

/-- A sequence does the same if its parts do. -/
theorem unaware_bind {a : Act α} {f : α → Act β} (ha : Unaware name reactor s a)
    (hf : ∀ x t, a.run reactor s = (.ok x, t) → Unaware name reactor t (f x)) :
    Unaware name reactor s (a >>= f) := by
  rcases hr : a.run reactor s with ⟨e | x, t⟩ <;> rw [Unaware, hr] at ha
  · rw [Unaware, run_bind_of_error _ _ ha, run_bind_of_error _ _ hr]
  · rw [Unaware, run_bind_of_ok _ _ ha, run_bind_of_ok _ _ hr]
    exact hf x t hr

/-- What follows a check does the same if it does so with the value of the check. -/
theorem unaware_of_bind {e : Except Error α} {f : α → Act β}
    (hf : ∀ x, e = .ok x → Unaware name reactor s (f x)) :
    Unaware name reactor s (of e >>= f) := by
  cases e with
  | error e => exact rfl
  | ok x => exact hf x rfl

/-- What asks the session for nothing but what it has in common does the same. -/
theorem unaware_get_bind {f : Session → Act α} (hf : f (s.declaring name) = f s)
    (h : Unaware name reactor s (f s)) : Unaware name reactor s (get >>= f) := by
  rw [Unaware, run_get_bind, run_get_bind, hf]
  exact h

theorem unaware_changeBuilder (id : Nat) (change : Builder → Builder) :
    Unaware name reactor s (changeBuilder id change) := rfl

theorem unaware_builder (id : Nat) : Unaware name reactor s (builder id) := by
  refine unaware_get_bind rfl ?_
  cases s.builders.get? id <;> exact rfl

/-- What is done at the end in any case does the same. -/
theorem unaware_tryFinally {a : Act α} {b : Act Unit} (ha : Unaware name reactor s a)
    (hb : ∀ t, Unaware name reactor t b) : Unaware name reactor s (tryFinally a b) := by
  rw [Unaware] at ha
  rw [Unaware, run_tryFinally, run_tryFinally, ha]
  rcases a.run reactor s with ⟨outcome, t⟩
  have hb := hb t
  rw [Unaware] at hb
  dsimp only
  rw [hb]
  rcases b.run reactor t with ⟨_ | _, u⟩ <;> rfl

theorem unaware_copyQuery (id : Nat) : Unaware name reactor s (copyQuery id) := by
  refine unaware_bind (unaware_builder id) fun b t _ => unaware_get_bind rfl ?_
  split
  · exact unaware_pure _
  · rw [Unaware, run_get_bind, run_get_bind, Session.copyBuilders_declaring]
    rfl

theorem unaware_note (id : Nat) (step : String) (details : Value) :
    Unaware name reactor s (note id step details) := by
  refine unaware_bind (unaware_builder id) fun b t _ => unaware_get_bind rfl ?_
  split
  · exact unaware_changeBuilder id _
  · exact unaware_pure ()

theorem unaware_record (id : Nat) (m : Method) (args : Arguments) :
    Unaware name reactor s (record id m args) := by
  refine unaware_bind (unaware_builder id) fun b t _ => ?_
  split
  · exact unaware_note id _ _
  · exact unaware_pure ()

/-- Edits do the same if they do so in the dialect that the builder speaks then. -/
theorem unaware_editBuilder (id : Nat) (query : Option Descriptor) {edits : Context → Edit Unit}
    (h : ∀ b, s.builders.get? id = some b →
      edits ((s.declaring name).context b query) = edits (s.context b query)) :
    Unaware name reactor s (editBuilder id query edits) := by
  cases hb : s.builders.get? id with
  | none =>
    have hb' : (s.declaring name).builders.get? id = none := hb
    rw [Unaware, editBuilder, run_get_bind, run_get_bind,
      run_bind_of_error _ _ (run_builder_of_none _ _ hb),
      run_bind_of_error _ _ (run_builder_of_none _ _ hb')]
  | some b =>
    have hb' : (s.declaring name).builders.get? id = some b := hb
    rw [Unaware, editBuilder, run_get_bind, run_get_bind, run_builder_bind _ _ hb,
      run_builder_bind _ _ hb', h b hb]
    rfl

end Unaware

/-! ## Calls -/

end Act

/-- Functions do the same where all executors declare the dialect that the builder which they are
handed speaks. -/
def Reactor.Unaware (reactor : Reactor) : Prop :=
  ∀ (name : Option String) (id : Nat) (condition : Value) (calls : List Call) (s : Session),
    s.SpeaksAt name id → reactor.invoke id condition calls (s.declaring name) =
      ((reactor.invoke id condition calls s).1,
        (reactor.invoke id condition calls s).2.declaring name)

namespace Act

section Calls

variable {name : Option String} {reactor : Reactor} {s : Session} {id : Nat}

/-- Handing a builder to a function does the same. -/
theorem unaware_callBack (hreactor : reactor.Unaware) (hspeaks : s.SpeaksAt name id)
    (condition : Value) (args : Arguments) :
    Unaware name reactor s (callBack id condition args) := by
  refine unaware_of_bind fun function _ => ?_
  unfold invoke
  split
  · exact unaware_get_bind rfl (hreactor name id condition _ s hspeaks)
  · exact unaware_of _

/-- Carrying out a call does the same if the builder speaks the dialect, or the call does not ask.
-/
theorem unaware_perform (hreactor : reactor.Unaware) {b : Builder}
    (hb : s.builders.get? id = some b) {m : Method}
    (hspeaks : m.speaks = true → s.SpeaksAt name id) (args : Arguments) :
    Unaware name reactor s (perform id m args) := by
  have hothers : Unaware name reactor s (do
      let query ← ((args.get? "query").bind Value.queried?).mapM copyQuery
      editBuilder id query fun ctx => m.perform ctx args) := by
    have hhanded : Unaware name reactor s
        (((args.get? "query").bind Value.queried?).mapM copyQuery) := by
      cases (args.get? "query").bind Value.queried? with
      | none => exact unaware_pure none
      | some other =>
        rw [Option.mapM_some]
        exact unaware_bind (unaware_copyQuery other) fun d t _ => unaware_pure (some d)
    refine unaware_bind hhanded fun query t ht => unaware_editBuilder id query fun c hc => ?_
    have hst : Frame.routing.rel s t :=
      Keeps.rel (keeps_handed Frame.overlooks_routing.copied args) ht
    cases hm : m.speaks with
    | true =>
      have hdialect := ((hspeaks hm).of_routing hst hb).dialectOf_declaring hc
      simp only [Session.context, hdialect]
      rfl
    | false => exact Method.perform_congr hm (t.context c query) _ args
  unfold perform
  split
  · refine unaware_of_bind fun condition _ => ?_
    split
    · exact unaware_callBack hreactor (hspeaks rfl) condition args
    · exact unaware_pure ()
  · refine unaware_of_bind fun condition _ => ?_
    split
    · exact unaware_callBack hreactor (hspeaks rfl) condition args
    · exact unaware_pure ()
  · exact hothers

/-- Making a call does the same if the builder speaks the dialect, or the call does not ask. -/
theorem unaware_chain (hreactor : reactor.Unaware) {m : Method}
    (hspeaks : m.speaks = true → s.SpeaksAt name id) (args : Arguments) :
    Unaware name reactor s (chain id m args) := by
  refine unaware_of_bind fun expanded hexpanded => ?_
  obtain ⟨meant, given⟩ := expanded
  have hmeant : meant.speaks = m.speaks := by
    rw [Method.eq_longForm_of_expand hexpanded, Method.speaks_longForm]
  have hrest : Unaware name reactor s (do
      record id meant given
      deeper id (perform id meant given)) := by
    refine unaware_bind (unaware_record id meant given) fun _ t ht => ?_
    refine unaware_bind (unaware_changeBuilder id _) fun _ u hu => ?_
    refine unaware_tryFinally ?_ fun _ => unaware_changeBuilder id _
    cases hb : s.builders.get? id with
    | none =>
      rw [record, run_bind_of_error _ _ (run_builder_of_none _ _ hb)] at ht
      cases ht
    | some b =>
      have hdown : Frame.routing.rel t u := by
        cases hu
        exact Frame.overlooks_routing.noted t id _ fun _ => ⟨_, _, rfl⟩
      have hsu := Frame.routing.trans (Keeps.rel (keeps_record Frame.overlooks_routing _ _ _) ht)
        hdown
      obtain ⟨c, hc, -⟩ := hsu.1.2 id b hb
      exact unaware_perform hreactor hc
        (fun hm => (hspeaks (hmeant ▸ hm)).of_routing hsu hb) given
  dsimp only
  split
  · exact rfl
  · exact hrest

end Calls

end Act

/-! ## Sequences of calls -/

namespace Session

variable {name : Option String} {reactor : Reactor} {s : Session}

/-- Every call that asks for the dialect of its builder is made while the builder speaks a dialect.
-/
def AllSpeak (reactor : Reactor) (name : Option String) :
    Session → List (Nat × Method × Arguments) → Prop
  | _, [] => True
  | s, (id, m, args) :: calls =>
    (m.speaks = true → s.SpeaksAt name id) ∧
      AllSpeak reactor name ((Act.chain id m args).run reactor s).2 calls

/-- Calls build the same where all executors declare the dialect that their builders speak.

**Proof sketch.** By induction on the calls. A call asks for the dialect of its builder and for
nothing else about executors, and that is the one which they declare. -/
theorem chained_declaring (hreactor : reactor.Unaware) {calls : List (Nat × Method × Arguments)}
    (h : s.AllSpeak reactor name calls) :
    (s.declaring name).chained reactor calls = (s.chained reactor calls).declaring name := by
  induction calls generalizing s with
  | nil => rfl
  | cons c calls ih =>
    obtain ⟨id, m, args⟩ := c
    obtain ⟨hspeaks, hrest⟩ := h
    have hchain : Act.Unaware name reactor s (Act.chain id m args) :=
      Act.unaware_chain hreactor hspeaks args
    have hfirst := congrArg Prod.snd hchain
    rw [chained, List.foldl_cons, hfirst]
    exact ih hrest

/-- If a builder asks for no database once it has asked for a dialect, it has spoken that of the
executor that serves it in the end. -/
theorem allSpeak_of_pairwise (hinvokes : reactor.Invokes Frame.routing) {id : Nat}
    {calls : List (Nat × Method × Arguments)} (hid : ∀ c ∈ calls, c.1 = id)
    (horder : calls.Pairwise fun c c' => c.2.1.speaks = true → c'.2.1 ≠ .bank) {b : Builder}
    {executor : Nat} {e : Executor Value}
    (hb : (s.chained reactor calls).builders.get? id = some b)
    (hservant : (s.chained reactor calls).servant b = .ok executor)
    (he : (s.chained reactor calls).executors.get? executor = some e) :
    s.AllSpeak reactor e.dialect calls := by
  induction calls generalizing s with
  | nil => exact trivial
  | cons c calls ih =>
    obtain ⟨id', m, args⟩ := c
    obtain ⟨hc, hrest⟩ := List.forall_mem_cons.mp hid
    obtain ⟨hfirst, horder⟩ := List.pairwise_cons.mp horder
    obtain rfl : id' = id := hc
    refine ⟨fun hm b₀ hb₀ huntold => ?_, ih hrest horder hb hservant he⟩
    -- From here on nothing is routed, so the executor is the one that serves in the end.
    have hnone : ∀ c ∈ (id', m, args) :: calls, c.2.1 ≠ .bank := by
      refine List.forall_mem_cons.mpr ⟨?_, fun c hc => hfirst c hc hm⟩
      rintro rfl
      cases hm
    have hrouting := routing_chained hinvokes hnone s
    obtain ⟨c, hc, hroute⟩ := hrouting.1.2 id' b₀ hb₀
    obtain rfl : c = b := Option.some.inj (hc.symm.trans hb)
    have hoptions : c.options = b₀.options := congrArg Prod.fst hroute
    rw [← dialectOf_of_routing hrouting hroute,
      dialectOf_of_servant (hoptions ▸ huntold) hservant he, hrouting.2.2]

end Session

namespace Act

/-! ## The dialect of a statement -/

/-- Reading all rows of a builder that was not told a dialect, and making its write, hand the
executor that serves it the statement that the same calls build where all executors declare the
dialect of that one, if every call that asks for the dialect of its builder was made while it spoke
that dialect. It was so if all calls were made on the builder, and none that asks for databases came
after one that asks for the dialect.

**Proof sketch.** Calls see nothing of executors but the dialect that one of them declares, and ask
for it only if they are to be put into it; so they do the same where all executors declare it. Which
executor serves a builder is told from the databases that its query asks for, and only one call is
about these: after the last of its kind the executor is the one that serves in the end. -/
theorem dispatches_in_dialect_of_servant (reactor : Reactor) (s : Session) (id : Nat)
    (calls : List (Nat × Method × Arguments)) (b : Builder) (executor : Nat) (e : Executor Value)
    (hinvokes : reactor.Invokes Frame.routing) (hunaware : reactor.Unaware)
    (hnames : reactor.KeepsNames)
    (hb : (s.chained reactor calls).builders.get? id = some b)
    (huntold : b.options.dialect = none)
    (hservant : (s.chained reactor calls).servant b = .ok executor)
    (he : (s.chained reactor calls).executors.get? executor = some e) :
    (s.chained reactor calls).dialectOf b =
      .ok ((s.chained reactor calls).dialects.resolve e.dialect) ∧
    ((∀ c ∈ calls, c.1 = id) →
      (calls.Pairwise fun c c' => c.2.1.speaks = true → c'.2.1 ≠ .bank) →
        s.AllSpeak reactor e.dialect calls) ∧
    (s.AllSpeak reactor e.dialect calls →
      (s.declaring e.dialect).chained reactor calls =
        (s.chained reactor calls).declaring e.dialect ∧
      ((s.chained reactor calls).simulating b.options.simulation = false →
        Dispatches reactor (s.chained reactor calls) e.name (all id)
          (((s.declaring e.dialect).chained reactor calls).reading id) ∧
        Dispatches reactor (s.chained reactor calls) e.name (make id)
          (((s.declaring e.dialect).chained reactor calls).opening id))) := by
  refine ⟨Session.dialectOf_of_servant huntold hservant he,
    fun hid horder => Session.allSpeak_of_pairwise hinvokes hid horder hb hservant he,
    fun hspeak => ⟨Session.chained_declaring hunaware hspeak, fun hreal => ?_⟩⟩
  rw [Session.chained_declaring hunaware hspeak]
  refine ⟨?_, ?_⟩
  · rw [Session.reading_declaring]
    exact dispatches_all hnames hb hreal hservant he
  · rw [Session.opening_declaring]
    exact dispatches_make hnames hb hreal hservant he

/-- A session with a builder, two executors that declare different dialects, and a registry that
lists the second one. -/
def bilingual : Session where
  clock := default
  configs := .single "main" { executor := some 0, databases := some [("pg", 1)] }
  executors := {
    items := [
      { name := "main", dialect := some "sqlite", awaited := true
        source := .plain [] (.list []) [] [] },
      { name := "pg", dialect := some "postgres", awaited := true
        source := .plain [] (.list []) [] [] }] }
  builders := .single "q" (.new "t" {})

/-- A match regardless of case. -/
def matching : Nat × Method × Arguments :=
  (0, .whereIlike, [("column", .text "a"), ("pattern", .text "x")])

/-- A request for the database whose executor `bilingual` lists. -/
def routed : Nat × Method × Arguments := (0, .bank, [("names", .text "pg")])

/-- A match made once its database is asked for is in the dialect of the executor that it goes to.
-/
theorem dispatches_in_dialect_of_servant_bilingual :
    let s := bilingual.chained .still [routed, matching]
    (∃ b, s.builders.get? 0 = some b ∧ s.servant b = .ok 1 ∧ s.dialectOf b = .ok .postgres) ∧
    Dispatches .still s "pg" (all 0)
      (.ok { sql := "SELECT * FROM t WHERE a ILIKE ?", bindings := [.text "x"] }) := by
  obtain ⟨hdialect, horder, hsame⟩ := dispatches_in_dialect_of_servant .still bilingual 0
    [routed, matching] _ 1 _ (Reactor.still_invokes _) (fun _ _ _ _ _ _ => rfl)
    (fun _ _ _ e he => ⟨e, he, rfl⟩) rfl rfl rfl rfl
  have hspeak := horder (by decide) (by decide)
  exact ⟨⟨_, rfl, rfl, hdialect⟩, ((hsame hspeak).2 rfl).1⟩

/-- A match made before its database is asked for is in the dialect of another executor than the one
that it goes to. -/
theorem dispatches_foreign_dialect :
    let s := bilingual.chained .still [matching, routed]
    (s.builders.get? 0).map (fun b => (b.options.dialect, s.servant b |>.toOption)) =
      some (none, some 1) ∧
    (s.executors.get? 1).map (·.dialect) = some (some "postgres") ∧
    ((all 0).run .still s).2.trace.calls.filterMap Happening.sql? =
      ["SELECT * FROM t WHERE a LIKE ? COLLATE NOCASE"] ∧
    ((all 0).run .still (bilingual.chained .still [routed, matching])).2.trace.calls.filterMap
      Happening.sql? = ["SELECT * FROM t WHERE a ILIKE ?"] := by
  decide +kernel

end Act

end FluentSql
