import FluentSql.Proofs.Rows.Writable
import FluentSql.Proofs.Session.Fluent
import FluentSql.Proofs.Session.Keeping
import FluentSql.Proofs.Session.Rehearsal
import FluentSql.Proofs.Session.Restriction
import FluentSql.Proofs.Statement.Inserting
import FluentSql.Session.Models

set_option autoImplicit false

/-!
# What saving a record writes

Records take attributes in when they are made, by assignment, when they are filled, and when an
insertion has given them an identifier. They let attributes out when they are saved: the statement
of a save names no column but attributes that the class of the record lets be written, whatever the
record has been through. What else stands in the record has no part in what a save does.

## Main definitions

* `FluentSql.Statement.Saves`, `FluentSql.ModelClass.MayHand` — statements that save a record.
* `FluentSql.Session.Ordinary` — records have texts as keys and go where their classes do.
* `FluentSql.Upkeep`, `FluentSql.Session.kept` — what is done to records.

## Main results

* `FluentSql.Act.ordinary_kept` — records stay ordinary.
* `FluentSql.Act.save_writes_writable` — what filling and saving do with attributes.
-/

namespace FluentSql

/-! ## Statements that save a record -/

/-- The text that updates columns of the row of an identifier. -/
def updateText (table : String) (names : List String) : String :=
  "UPDATE " ++ table ++ " SET " ++ String.intercalate ", " (names.map fun name => name ++ " = ?") ++
    " WHERE id = ?"

/-- A statement writes just some columns of one row: an INSERT of a row, or an UPDATE of the row of
an identifier. -/
def Statement.Saves (statement : Statement) (table : String) (names : List String) : Prop :=
  statement.sql = insertText table names 1 ∨ statement.sql = updateText table names

/-- A statement that an executor runs writes no columns of the table of a class but attributes that
may be written. -/
def ModelClass.MayHand (c : ModelClass) (h : Happening) : Prop :=
  h.runs = true → ∃ names statement, (∀ name ∈ names, c.writes name = true) ∧
    statement.Saves c.table names ∧ h.Carries statement

/-- A query has the write queued that saves some values in a table: an UPDATE of the row of an
identifier, or an INSERT of a row. -/
inductive Descriptor.Stores (table : String) (values : Fields) (d : Descriptor) : Prop where
  | update (key : Value) (table_eq : d.table = table)
      (wheres_eq : d.wheres = [.basic "id" .eq key .and])
      (pending_eq : d.pending = some ⟨WriteKind.update.keyword, .map values⟩)
  | insert (table_eq : d.table = table)
      (pending_eq : d.pending = some ⟨WriteKind.insert.keyword, .list [.map values]⟩)

section Saves

variable {d : Descriptor} {table : String} {values : Fields} {names : List String}
  {w : WriteStatement}

/-- An INSERT of one row names its keys. -/
theorem sql_insertStatement (hnames : values.keys = names.map .text)
    (h : insertStatement table (.list [.map values]) = .ok w) :
    w.sql = insertText table names 1 := by
  have hvalues : values ≠ [] := by
    rintro rfl
    cases h
  have heq := @insertStatement_eq table values [] names hvalues hnames
  cases h.symm.trans heq
  rfl

/-- An UPDATE of the row of an identifier names the keys of its values, and binds the identifier
last. -/
theorem updateStatement_eq {key : Value} (hnames : values.keys = names.map .text)
    (hwheres : d.wheres = [.basic "id" .eq key .and])
    (h : d.updateStatement (.map values) = .ok w) :
    w = { sql := updateText d.table names, bindings := values.map (·.2) ++ [key]
          whereSql := "id = ?", whereBindings := [key] } := by
  have hassignments : (values.keys.map fun column => column.display ++ " = ?") =
      names.map fun name => name ++ " = ?" := by
    rw [hnames, List.map_map]
    rfl
  have hwhere : whereStatement d.wheres = .ok { sql := "id = ?", bindings := [key] } := by
    rw [hwheres]
    rfl
  rw [Descriptor.updateStatement] at h
  split at h
  · cases h
  · rw [Value.fields, ok_bind, hassignments, Descriptor.withWhere, hwhere, ok_bind] at h
    cases h
    dsimp only
    rw [if_neg (by decide), String.append_assoc]
    rfl

/-- An UPDATE of the row of an identifier names the keys of its values. -/
theorem sql_updateStatement {key : Value} (hnames : values.keys = names.map .text)
    (hwheres : d.wheres = [.basic "id" .eq key .and])
    (h : d.updateStatement (.map values) = .ok w) : w.sql = updateText d.table names := by
  rw [updateStatement_eq hnames hwheres h]

end Saves

/-! ## Looking again -/

/-- Mappings of names have the same keys when their references are replaced. -/
theorem keys_mapFields (view : Source → Value → Value) (builder : Nat → Nat) {fs : Fields}
    {names : List String} (h : fs.keys = names.map .text) :
    Fields.keys (mapFields view builder fs) = names.map .text := by
  induction fs generalizing names with
  | nil => exact h
  | cons entry fs ih =>
    obtain ⟨key, v⟩ := entry
    cases names with
    | nil => cases h
    | cons name names =>
      obtain ⟨rfl, hrest⟩ := List.cons.inj h
      exact congrArg (Value.text name :: ·) (ih hrest)

namespace Session

variable (s : Session)

/-- Mappings of names have the same keys when they are looked at again. -/
theorem current_named {fs : Fields} {names : List String} (h : fs.keys = names.map .text) :
    ∃ fs' : Fields, s.current (.map fs) = .map fs' ∧ fs'.keys = names.map .text := by
  rw [current]
  split
  · exact ⟨_, rfl, keys_mapFields _ _ h⟩
  · exact ⟨fs, rfl, h⟩

/-- A row of names has the same keys when it is looked at again. -/
theorem current_named_row {fs : Fields} {names : List String} (h : fs.keys = names.map .text) :
    ∃ fs' : Fields, s.current (.list [.map fs]) = .list [.map fs'] ∧
      fs'.keys = names.map .text := by
  rw [current]
  split
  · exact ⟨_, rfl, keys_mapFields _ _ h⟩
  · exact ⟨fs, rfl, h⟩

/-- A query for the row of an identifier is one when it is looked at again, as the identifier
is. -/
theorem wheres_currentQuery_basic {d : Descriptor} {key : Value}
    (h : d.wheres = [.basic "id" .eq key .and]) :
    (s.currentQuery d).wheres = [.basic "id" .eq (s.current key) .and] := by
  rw [currentQuery]
  split
  · obtain ⟨_, _, _, wheres, _, _, _, _, _, _, _, _, _, _, _⟩ := d
    cases h
    rfl
  · next hlinked => rw [h, current, if_neg hlinked]

end Session

/-! ## Records -/

/-- The attributes of a record have texts as keys. -/
def Model.Keyed (m : Model) : Prop := m.attributes.NamedBy fun _ => True

/-- A record as filling, assigning and saving leave it: its attributes have texts as keys, and it is
routed to no banks but those of its class. -/
structure Model.Ordinary (m : Model) : Prop where
  keyed : m.Keyed
  banks_eq : m.banks = []

/-- The records of a session are ordinary. -/
def Session.Ordinary (s : Session) : Prop := s.models.All Model.Ordinary

/-- Reactions leave records ordinary. -/
def Reactor.KeepsOrdinary (reactor : Reactor) : Prop :=
  ∀ steps s, s.Ordinary → (reactor.react steps s).2.Ordinary

/-- The frame within which records stay ordinary. -/
def Frame.ordinary : Frame where
  rel s t := s.Ordinary → t.Ordinary
  refl _ h := h
  trans h h' hs := h' (h hs)

/-- What is done to records: they are made, get attributes one by one or as many at once, and are
saved. -/
inductive Upkeep where
  | construct (name : String) (kind : ModelClass) (attributes : List (String × Value))
  | assign (record : Nat) (name : String) (v : Value)
  | fill (record : Nat) (entries : List (String × Value))
  | save (record : Nat)

/-- Carries out what is done to a record. -/
def Act.upkeep : Upkeep → Act Unit
  | .construct name kind attributes => addModel name kind attributes
  | .assign record name v => setItem record (.text name) v
  | .fill record entries => fill record (.map (Fields.named entries))
  | .save record => do let _ ← save record

/-- A session after what is done to records, whether it failed or not. -/
def Session.kept (reactor : Reactor) (s : Session) (steps : List Upkeep) : Session :=
  steps.foldl (fun s step => ((Act.upkeep step).run reactor s).2) s

/-! ## Preparing a save -/

/-- A session that differs in builders alone, one of which asks some query. -/
def Session.Prepares (s t : Session) (id : Nat) (d : Descriptor) : Prop :=
  t = { s with builders := t.builders } ∧ ∃ b, t.builders.get? id = some b ∧ b.descriptor = d

/-- Such a session, with the options of the builder. -/
def Session.PreparesWith (s t : Session) (id : Nat) (d : Descriptor) (options : Options) : Prop :=
  t = { s with builders := t.builders } ∧
    ∃ b, t.builders.get? id = some b ∧ b.inquiry = (d, options)

/-- The options of the builder are no matter for the query that it asks. -/
theorem Session.PreparesWith.prepares {s t : Session} {id : Nat} {d : Descriptor}
    {options : Options} (h : s.PreparesWith t id d options) : s.Prepares t id d := by
  obtain ⟨hst, b, hb, hinquiry⟩ := h
  exact ⟨hst, b, hb, congrArg Prod.fst hinquiry⟩

/-- A session with an identifier written down in a record. -/
def Session.identified (s : Session) (id : Nat) (key : Value) : Session :=
  { s with models := s.models.modify id fun m =>
      { m with attributes := Fields.set m.attributes "id" key } }

namespace Act

variable {reactor : Reactor} {s t : Session} {id : Nat}

/-- The model of a number that is there. -/
theorem run_getModel_bind {α : Type} {m : Model} (hm : s.models.get? id = some m)
    (f : Model → Act α) : (getModel id >>= f).run reactor s = (f m).run reactor s := by
  have hget : (getModel id).run reactor s = (.ok m, s) := by
    rw [getModel, run_get_bind, hm]
    rfl
  exact run_bind_of_ok _ _ hget _

/-- A call that does nothing but edit a query prepares the query edited. -/
theorem run_chain_of_prepares (reactor : Reactor) {d : Descriptor} {options : Options}
    (h : s.PreparesWith t id d options) (m : Method) (args : Arguments)
    (hexpand : m.expand args = .ok (m, args)) (hfit : m.accepts args = true)
    (hwhen : m ≠ .when_) (hunless : m ≠ .unless_)
    (hquery : (args.get? "query").bind Value.queried? = none) (change : Descriptor → Descriptor)
    (hedit : ∀ ctx c, (m.perform ctx args).run c = (.ok (), c.edit change)) :
    ∃ u, (chain id m args).run reactor t = (.ok (), u) ∧
      s.PreparesWith u id (change d) options := by
  obtain ⟨hst, b, hb, hinquiry⟩ := h
  obtain ⟨rfl, rfl⟩ := Prod.mk.inj hinquiry
  obtain ⟨u, hchain, htu, -, ⟨c, hc, hinquiry⟩, -⟩ :=
    run_chain_of_edit hb hexpand hfit hwhen hunless hquery hedit
  refine ⟨u, hchain, ?_, c, hc, hinquiry⟩
  rw [htu, hst]

/-- Routing prepares the same query with other banks. -/
theorem run_bank_of_prepares (reactor : Reactor) {d : Descriptor} {options : Options}
    (h : s.PreparesWith t id d options) (names : List Value) :
    ∃ u, (chain id .bank [("names", .list names)]).run reactor t = (.ok (), u) ∧
      s.PreparesWith u id { d with banks := some names } options :=
  run_chain_of_prepares reactor h .bank [("names", .list names)] rfl rfl (by decide) (by decide) rfl
    (fun d => { d with banks := some names }) fun _ _ => rfl

/-- The query for the table of a class. -/
theorem run_classQuery (reactor : Reactor) (s : Session) (c : ModelClass) :
    ∃ id t banks, (classQuery c none).run reactor s = (.ok id, t) ∧
      s.PreparesWith t id { Descriptor.new c.table with banks } {} := by
  have hadd : (addBuilder (.new c.table {})).run reactor s = (.ok s.builders.nextId,
      { s with builders := s.builders.add (.new c.table {}) }) := rfl
  have hadded : s.PreparesWith { s with builders := s.builders.add (.new c.table {}) }
      s.builders.nextId (.new c.table) {} := ⟨rfl, _, s.builders.get?_add_nextId _, rfl⟩
  rw [classQuery, run_bind_of_ok _ _ hadd]
  split
  · obtain ⟨t, hbank, ht⟩ := run_bank_of_prepares reactor hadded c.banks
    exact ⟨_, t, _, run_bind_of_ok _ _ hbank _, ht⟩
  · exact ⟨_, _, none, rfl, hadded⟩

/-- The query for the table of a record. -/
theorem run_recordQuery (reactor : Reactor) (s : Session) (m : Model) :
    ∃ id t banks, (recordQuery m).run reactor s = (.ok id, t) ∧
      s.PreparesWith t id { Descriptor.new m.kind.table with banks } {} := by
  obtain ⟨id, t, banks, hclass, ht⟩ := run_classQuery reactor s m.kind
  rw [recordQuery, run_bind_of_ok _ _ hclass]
  split
  · obtain ⟨u, hbank, hu⟩ := run_bank_of_prepares reactor ht m.banks
    exact ⟨_, u, _, run_bind_of_ok _ _ hbank _, hu⟩
  · exact ⟨_, t, _, rfl, ht⟩

/-- Saving a record with an identifier prepares the UPDATE of its row, and makes it. -/
theorem run_save_of_id (reactor : Reactor) {m : Model} {values : Fields}
    (hm : s.models.get? id = some m) (hvalues : m.kind.writable (.map m.attributes) = .ok values)
    (hid : m.id.truthy = true) :
    ∃ (b : Nat) (t : Session) (d : Descriptor), s.PreparesWith t b d {} ∧
      d.table = m.kind.table ∧ d.wheres = [.basic "id" .eq m.id .and] ∧
      d.pending = some ⟨WriteKind.update.keyword, .map values⟩ ∧
      (save id).run reactor s = (make b).run reactor t := by
  obtain ⟨b, t, banks, hquery, ht⟩ := run_recordQuery reactor s m
  obtain ⟨u, hwhere, hu⟩ := run_chain_of_prepares reactor ht .where_
    [("column", .text "id"), ("operator", .text "="), ("value", m.id)] rfl rfl
    (by decide) (by decide) rfl (Edit.toWhere (.basic "id" .eq m.id .and)) fun _ _ => rfl
  obtain ⟨v, hupdate, hv⟩ := run_chain_of_prepares reactor hu .update
    [("values", .map values)] rfl rfl (by decide) (by decide) rfl
    (fun d => { d with pending := some ⟨WriteKind.update.keyword, .map values⟩ }) fun _ _ => rfl
  refine ⟨b, v, _, hv, rfl, rfl, rfl, ?_⟩
  rw [save, run_getModel_bind hm, hvalues, run_of_ok_bind, run_bind_of_ok _ _ hquery, if_pos hid,
    restrictToId, run_bind_of_ok _ _ hwhere, run_bind_of_ok _ _ hupdate]

/-- Writes down the identifier that a save has generated, if it has. -/
def identify (id : Nat) (result : WriteResult) : Act WriteResult := do
  if result.lastId.truthy then
    changeModel id fun m =>
      { m with attributes := Fields.set m.attributes "id" result.lastId }
  return result

/-- Writing down an identifier that counts. -/
theorem run_identify (reactor : Reactor) (s : Session) (id : Nat) (result : WriteResult) :
    (identify id result).run reactor s =
      (.ok result, if result.lastId.truthy then s.identified id result.lastId else s) := by
  rw [identify]
  split <;> rfl

/-- Saving a record without an identifier prepares the INSERT of a row, makes it, and writes down
the identifier that it has generated. -/
theorem run_save_of_no_id (reactor : Reactor) {m : Model} {values : Fields}
    (hm : s.models.get? id = some m) (hvalues : m.kind.writable (.map m.attributes) = .ok values)
    (hid : m.id.truthy = false) :
    ∃ (b : Nat) (t : Session) (d : Descriptor), s.PreparesWith t b d {} ∧
      d.table = m.kind.table ∧
      d.pending = some ⟨WriteKind.insert.keyword, .list [.map values]⟩ ∧
      (save id).run reactor s = (make b >>= identify id).run reactor t := by
  obtain ⟨b, t, banks, hquery, ht⟩ := run_recordQuery reactor s m
  obtain ⟨u, hinsert, hu⟩ := run_chain_of_prepares reactor ht .insert
    [("rows", .map values)] rfl rfl (by decide) (by decide) rfl
    (fun d => { d with pending := some ⟨WriteKind.insert.keyword, .list [.map values]⟩ })
    fun _ _ => rfl
  refine ⟨b, u, _, hu, rfl, rfl, ?_⟩
  rw [save, run_getModel_bind hm, hvalues, run_of_ok_bind, run_bind_of_ok _ _ hquery,
    if_neg (by simp [hid]), run_bind_of_ok _ _ hinsert]
  rfl

/-- Saving a record prepares the write that stores the writable part of its attributes, makes it,
and then does nothing but perhaps to write down an identifier. -/
theorem run_save (reactor : Reactor) {m : Model} {values : Fields}
    (hm : s.models.get? id = some m) (hvalues : m.kind.writable (.map m.attributes) = .ok values) :
    ∃ (b : Nat) (t : Session) (d : Descriptor) (rest : WriteResult → Act WriteResult),
      s.Prepares t b d ∧ d.Stores m.kind.table values ∧
        (save id).run reactor s = (make b >>= rest).run reactor t ∧
        ∀ F : Frame, (∀ u v, F.rel u (u.identified id v)) → ∀ result,
          Keeps F reactor (rest result) := by
  cases hid : m.id.truthy with
  | true =>
    obtain ⟨b, t, d, hprepares, htable, hwheres, hpending, hrun⟩ :=
      run_save_of_id reactor hm hvalues hid
    refine ⟨b, t, d, pure, hprepares.prepares, .update m.id htable hwheres hpending, ?_,
      fun F _ result => keeps_pure result⟩
    rw [hrun, bind_pure]
  | false =>
    obtain ⟨b, t, d, hprepares, htable, hpending, hrun⟩ := run_save_of_no_id reactor hm hvalues hid
    refine ⟨b, t, d, identify id, hprepares.prepares, .insert htable hpending, hrun,
      fun F hF result u => ?_⟩
    rw [run_identify]
    split
    · exact hF u _
    · exact F.refl u

/-! ## Making the write of a save -/

section Hands

variable {c : ModelClass} {values : Fields} {b : Builder}

/-- A statement that writes attributes which may be written may be handed over. -/
theorem executes_mayHand {names : List String} {statement : Statement}
    (hnames : ∀ name ∈ names, c.writes name = true) (hsaves : statement.Saves c.table names) :
    Executes (Frame.hands c.MayHand) reactor statement :=
  executes_hands (fun _ hcarries _ => ⟨names, statement, hnames, hsaves, hcarries⟩)
    fun h hh hruns => by simp [hh] at hruns

/-- The statements of a write that stores attributes which may be written may be handed over. -/
theorem rel_runWrite_stores (hb : s.builders.get? id = some b)
    (hstores : b.descriptor.Stores c.table values)
    (hwrites : values.NamedBy fun name => c.writes name = true) {kind : WriteKind} {data : Value}
    (hchecked : b.descriptor.checkedAction = .ok (kind, data)) (executor : Nat) :
    (Frame.hands c.MayHand).rel s
      ((runWrite id executor kind (s.current data)).run reactor.muted s).2 := by
  obtain ⟨names, hkeys, hnames⟩ := hwrites.exists_names
  cases hstores with
  | update key htable hwheres hpending =>
    have hupdate : b.descriptor.checkedAction = .ok (.update, .map values) := by
      rw [Descriptor.checkedAction, hpending, hwheres]
      rfl
    cases hchecked.symm.trans hupdate
    obtain ⟨values', hcurrent, hkeys'⟩ := s.current_named hkeys
    have hwheres' := s.wheres_currentQuery_basic hwheres
    rw [hcurrent, runWrite, run_bind, run_currentQuery reactor.muted s hb]
    refine keeps_of_bind (fun w hw => ?_) s
    have hsql := sql_updateStatement hkeys' hwheres' hw
    rw [Session.table_currentQuery, htable] at hsql
    exact keeps_dispatch Frame.hands_heard
      (keeps_execute (executes_mayHand hnames (.inr hsql)) _) _ _ _
  | insert htable hpending =>
    have hinsert : b.descriptor.checkedAction = .ok (.insert, .list [.map values]) := by
      rw [Descriptor.checkedAction, hpending]
      rfl
    cases hchecked.symm.trans hinsert
    -- An insertion looks at its row once more before it is compiled.
    obtain ⟨values', hcurrent, hkeys'⟩ := s.current_named_row hkeys
    obtain ⟨values'', hcurrent', hkeys''⟩ := s.current_named_row hkeys'
    rw [hcurrent, runWrite, runInsert, run_bind, run_current, hcurrent']
    dsimp only
    rw [run_builder_bind _ _ hb]
    refine keeps_of_bind (fun w hw => ?_) s
    rw [Builder.table, htable] at hw
    have hsql := sql_insertStatement hkeys'' hw
    exact keeps_bind (keeps_of _) fun data => keeps_dispatch Frame.hands_heard
      (keeps_execute (executes_mayHand hnames (.inl hsql)) _) _ _ _

/-- Making a write that stores attributes which may be written hands over nothing else. -/
theorem rel_hands_make (hb : s.builders.get? id = some b)
    (hstores : b.descriptor.Stores c.table values)
    (hwrites : values.NamedBy fun name => c.writes name = true) :
    (Frame.hands c.MayHand).rel s ((make id).run reactor.muted s).2 := by
  cases hsimulating : s.simulating b.options.simulation with
  | true =>
    have hisolated : Isolated reactor.muted s (make id) := isolated_make hb hsimulating
    exact Frame.hands_of_eq (congrArg (fun o => o.1.calls) hisolated.outside)
  | false =>
    rw [run_make_real hb hsimulating]
    cases s.servant b with
    | error e => exact (Frame.hands _).refl s
    | ok executor =>
      cases hchecked : b.descriptor.checkedAction with
      | error e => exact (Frame.hands _).refl s
      | ok checked =>
        have hrun : (Frame.hands c.MayHand).rel s
            ((runWrite id executor checked.1 (s.current checked.2)).run reactor.muted s).2 :=
          rel_runWrite_stores hb hstores hwrites hchecked executor
        dsimp only
        rcases hr : (runWrite id executor checked.1 (s.current checked.2)).run reactor.muted s with
          ⟨e | result, t⟩ <;> rw [hr] at hrun
        · exact hrun
        · exact hrun

/-- Saving a record whose attributes have texts as keys hands over no statement but what writes
attributes that may be written. -/
theorem rel_hands_save {m : Model} (hm : s.models.get? id = some m) (hkeyed : m.Keyed) :
    (Frame.hands m.kind.MayHand).rel s ((save id).run reactor.muted s).2 := by
  obtain ⟨values, hvalues⟩ := m.kind.exists_writable hkeyed
  obtain ⟨b, t, d, rest, ⟨hst, c, hc, rfl⟩, hstores, hrun, hrest⟩ :=
    run_save reactor.muted hm hvalues
  have hprepared : (Frame.hands m.kind.MayHand).rel s t := by
    rw [hst]
    exact Frame.hands_of_eq rfl
  have hmake : (Frame.hands m.kind.MayHand).rel t ((make b).run reactor.muted t).2 :=
    rel_hands_make hc hstores (m.kind.namedBy_of_writable hkeyed hvalues)
  rw [hrun]
  exact Frame.trans _ hprepared (rel_bind hmake fun result u _ =>
    hrest _ (fun _ _ => Frame.hands_of_eq rfl) result u)

end Hands

/-! ## What is done to records -/

section Ordinary

/-- Records that are as they were are as ordinary as they were. -/
theorem ordinary_of_models_eq (h : t.models = s.models) : Frame.ordinary.rel s t := by
  intro hs
  rw [Session.Ordinary, h]
  exact hs

/-- A change of a record's attributes that leaves them texts as keys. -/
theorem ordinary_changeModel {change : Model → Fields}
    (h : ∀ m, s.models.get? id = some m → m.Keyed → (change m).NamedBy fun _ => True)
    (hs : s.Ordinary) :
    { s with models := s.models.modify id fun m => { m with attributes := change m } }.Ordinary :=
  hs.modify id fun m hm => ⟨h m hm (hs id m hm).keyed, (hs id m hm).banks_eq⟩

/-- Settling a write leaves records as they are. -/
theorem keeps_settle_ordinary (id : Nat) (b : Builder) (left : Value) :
    Keeps Frame.ordinary reactor (settle id b left) := by
  have hmodels : ∀ {α : Type} {a : Act α}, (∀ s, (a.run reactor s).2.models = s.models) →
      Keeps Frame.ordinary reactor a := fun h s => ordinary_of_models_eq (h s)
  have hput : ∀ simulation name t, Keeps Frame.ordinary reactor (putTable simulation name t) := by
    intro simulation name t
    refine keeps_bind keeps_get fun s => ?_
    split
    · exact hmodels fun _ => rfl
    · exact hmodels fun _ => rfl
  refine keeps_bind (hmodels fun _ => rfl) fun t => ?_
  refine keeps_bind (keeps_bind keeps_get fun s => ?_) fun _ => ?_
  · split
    · exact hput _ _ t
    · exact keeps_pure ()
  · exact keeps_bind (hmodels fun _ => rfl) fun _ => hmodels fun _ => rfl

/-- Making a write leaves records ordinary if listeners do. -/
theorem keeps_make_ordinary (hreactor : reactor.KeepsOrdinary) (id : Nat) :
    Keeps Frame.ordinary reactor (make id) := by
  have hbears : Frame.ordinary.Bears id := ⟨⟨fun _ _ h => h⟩, fun _ _ h => h, fun _ _ _ h => h⟩
  have hheard : Frame.ordinary.Heard reactor :=
    ⟨fun _ _ h => h, fun _ _ h => h, fun s name => hreactor _ s⟩
  intro s
  cases hreal : s.real id with
  | true =>
    rcases make_cases hbears hheard hreal with ⟨e, t, hrun, ht⟩ | ⟨result, b, t, hrun, -, -, ht⟩
    · rw [hrun]
      exact ht
    · rw [hrun]
      exact ht
  | false =>
    cases hb : s.builders.get? id with
    | none => simp [Session.real, hb] at hreal
    | some b =>
      have hrunning : s.simulating b.options.simulation = true := by
        simpa [Session.real, hb] using hreal
      have hcopied : ∀ table, Keeps Frame.ordinary reactor (applyQueued id table) :=
        fun table u => ordinary_of_models_eq (by rw [(keeps_applyQueued id table u).1])
      rw [run_make_simulated hb hrunning]
      exact keeps_bind (hcopied _)
        (fun p => keeps_bind (keeps_settle_ordinary id b p.1) fun _ => keeps_pure p.2) s

/-- What starts with a record stays within a frame if it does so where the record is there. -/
theorem rel_of_getModel {F : Frame} {α : Type} {a : Act α} {f : Model → Act α}
    (ha : a = getModel id >>= f)
    (h : ∀ m, s.models.get? id = some m → F.rel s (a.run reactor s).2) :
    F.rel s (a.run reactor s).2 := by
  cases hm : s.models.get? id with
  | none =>
    have hget : (getModel id).run reactor s = (.error .missingKey, s) := by
      rw [getModel, run_get_bind, hm]
      rfl
    rw [ha, run_bind_of_error _ _ hget]
    exact F.refl s
  | some m => exact h m hm

/-- Filling a record puts attributes into it that may be written, and nothing else. -/
theorem run_fill (reactor : Reactor) {m : Model} (hm : s.models.get? id = some m)
    (entries : List (String × Value)) :
    ∃ written : Fields, (written.NamedBy fun name => m.kind.writes name = true) ∧
      (fill id (.map (Fields.named entries))).run reactor s = (.ok (), { s with
        models := s.models.modify id fun m => { m with attributes := m.attributes.merge written } })
    := by
  obtain ⟨names, hkeys, -⟩ := (Fields.namedBy_named entries).exists_names
  obtain ⟨fs, hcurrent, hkeys'⟩ := s.current_named hkeys
  have hkeyed : fs.NamedBy fun _ => True := Fields.namedBy_of_keys hkeys'
  obtain ⟨written, hwritten⟩ := m.kind.exists_writable hkeyed
  refine ⟨written, m.kind.namedBy_of_writable hkeyed hwritten, ?_⟩
  rw [fill, run_getModel_bind hm, run_bind, run_current, hcurrent]
  dsimp only
  rw [hwritten]
  rfl

/-- Whatever is done to records, they stay ordinary. -/
theorem keeps_upkeep_ordinary (hreactor : reactor.KeepsOrdinary) (step : Upkeep) :
    Keeps Frame.ordinary reactor (upkeep step) := by
  cases step with
  | construct name kind attributes =>
    have hadded : ∀ fs : Fields, (fs.NamedBy fun _ => True) → Keeps Frame.ordinary reactor
        (modify fun s => { s with models := s.models.addNamed name { kind, attributes := fs } }) :=
      fun fs hfs s hs => hs.add ⟨hfs, rfl⟩
    have hfs : Fields.NamedBy (fun _ => True) (Fields.ofPairs (Fields.named attributes)) :=
      Fields.NamedBy.merge (fun _ hkey => by cases hkey) (Fields.namedBy_named attributes)
    rw [upkeep, addModel]
    dsimp only
    split
    · exact keeps_bind (keeps_fail _) fun _ => hadded _ hfs
    · exact hadded _ hfs
  | assign record name v =>
    refine fun s => rel_of_getModel rfl fun m hm hs => ?_
    have hrun : (setItem record (.text name) v).run reactor s = (.ok (), { s with
        models := s.models.modify record fun other =>
          { other with attributes := m.attributes.set (.text name) v } }) := run_getModel_bind hm _
    rw [upkeep, hrun]
    exact ordinary_changeModel (fun _ _ _ => (hs record m hm).keyed.set trivial v) hs
  | fill record entries =>
    refine fun s => rel_of_getModel rfl fun m hm hs => ?_
    obtain ⟨written, hwritten, hrun⟩ := run_fill reactor hm entries
    rw [upkeep, hrun]
    exact ordinary_changeModel (fun m _ hm => hm.merge (hwritten.imp fun _ _ => trivial)) hs
  | save record =>
    refine keeps_bind (fun s => rel_of_getModel rfl fun m hm hs => ?_) fun _ => keeps_pure ()
    obtain ⟨values, hvalues⟩ := m.kind.exists_writable (hs record m hm).keyed
    obtain ⟨b, t, d, rest, ⟨hst, -⟩, -, hrun, hrest⟩ := run_save reactor hm hvalues
    have ht : t.Ordinary := ordinary_of_models_eq (by rw [hst]) hs
    have hidentified : ∀ (u : Session) (key : Value),
        Frame.ordinary.rel u (u.identified record key) :=
      fun u key => ordinary_changeModel fun m _ hm => Fields.NamedBy.set hm trivial key
    rw [hrun]
    exact keeps_bind (keeps_make_ordinary hreactor b) (hrest _ hidentified) t ht

/-- Whatever is done to records, one thing after the other, they stay ordinary: their attributes
have texts as keys, and they are routed to no banks but those of their class. -/
theorem ordinary_kept (hreactor : reactor.KeepsOrdinary) (steps : List Upkeep) (hs : s.Ordinary) :
    (s.kept reactor steps).Ordinary := by
  induction steps generalizing s with
  | nil => exact hs
  | cons step steps ih => exact ih (keeps_upkeep_ordinary hreactor step s hs)

end Ordinary

/-! ## Records alike -/

/-- Two acts come out the same, and leave sessions that are the same but for records. -/
def Alike {α : Type} (reactor : Reactor) (s : Session) (a a' : Act α) : Prop :=
  ∃ (outcome : Except Error α) (t : Session) (models models' : Directory Model),
    a.run reactor s = (outcome, { t with models }) ∧
      a'.run reactor s = (outcome, { t with models := models' })

section Alike

variable {α β : Type} {m n : Model} {other : Nat}

theorem alike_refl (reactor : Reactor) (s : Session) (a : Act α) : Alike reactor s a a :=
  ⟨_, _, _, _, rfl, rfl⟩

/-- What follows the same is alike if it is alike whatever that has come to. -/
theorem alike_bind (a : Act α) {f g : α → Act β} (h : ∀ x t, Alike reactor t (f x) (g x)) :
    Alike reactor s (a >>= f) (a >>= g) := by
  rw [Alike, run_bind, run_bind]
  rcases a.run reactor s with ⟨e | x, t⟩
  · exact ⟨_, _, _, _, rfl, rfl⟩
  · exact h x t

/-- Records of one class come out the same when they are saved, if they are routed to the same
banks and have the same identifier and the same writable part. -/
theorem alike_save (reactor : Reactor) (hm : s.models.get? id = some m)
    (hn : s.models.get? other = some n) (hkind : n.kind = m.kind) (hbanks : n.banks = m.banks)
    (hid : n.id = m.id)
    (hvalues : m.kind.writable (.map n.attributes) = m.kind.writable (.map m.attributes)) :
    Alike reactor s (save id) (save other) := by
  have hquery : recordQuery n = recordQuery m := by
    rw [recordQuery, recordQuery, hkind, hbanks]
  rw [Alike, save, save, run_getModel_bind hm, run_getModel_bind hn, hkind, hvalues, hquery, hid]
  refine alike_bind _ fun values t => alike_bind _ fun b u => ?_
  split
  · exact alike_refl _ _ _
  · refine alike_bind _ fun _ v => alike_bind _ fun result w => ?_
    -- The identifier that was generated is written down in the one record or the other.
    split
    · exact ⟨_, w, _, _, rfl, rfl⟩
    · exact alike_refl _ _ _

end Alike

/-! ## What filling and saving do -/

/-- Let records be made, get attributes, be filled and be saved in any order, whatever executors
answer. Then a save hands over no statement but an INSERT or an UPDATE for the table of the record's
class that names no column but attributes which the class lets be written; filling leaves what
stands under other names as it is; and two records of one class come out the same when they are
saved, with the same statements handed over on the way, if they have the same identifier and the
same attributes that may be written, in the same order.

**Proof sketch.** By induction on what is done the records stay ordinary, so a save may be looked at
by itself. It asks for the writable part of the attributes before anything else, and after that
nothing of the others is in reach; `ModelClass.namedBy_of_writable` says what that part names, and
`ModelClass.writable_congr` what it depends on. -/
theorem save_writes_writable (reactor : Reactor) (hreactor : reactor.KeepsOrdinary) (s : Session)
    (hs : s.Ordinary) (steps : List Upkeep) :
    (∀ record m, (s.kept reactor steps).models.get? record = some m →
      ∃ new, ((save record).run reactor.muted (s.kept reactor steps)).2.trace.calls =
          (s.kept reactor steps).trace.calls ++ new ∧
        ∀ h ∈ new, h.runs = true →
          ∃ names statement, (∀ name ∈ names, m.kind.writes name = true) ∧
            statement.Saves m.kind.table names ∧ h.Carries statement) ∧
    (∀ record m entries, (s.kept reactor steps).models.get? record = some m →
      ∃ t m', (fill record (.map (Fields.named entries))).run reactor (s.kept reactor steps) =
          (.ok (), t) ∧
        t.models.get? record = some m' ∧ m'.kind = m.kind ∧
        ∀ name, m.kind.writes name = false →
          m'.attributes.get? (.text name) = m.attributes.get? (.text name)) ∧
    ∀ record other m n, (s.kept reactor steps).models.get? record = some m →
      (s.kept reactor steps).models.get? other = some n → n.kind = m.kind → n.id = m.id →
      n.attributes.filter (fun p => m.kind.admits p.1) =
        m.attributes.filter (fun p => m.kind.admits p.1) →
      Alike reactor (s.kept reactor steps) (save record) (save other) := by
  have hordinary : (s.kept reactor steps).Ordinary := ordinary_kept hreactor steps hs
  generalize s.kept reactor steps = u at hordinary
  refine ⟨fun record m hm => rel_hands_save hm (hordinary record m hm).keyed,
    fun record m entries hm => ?_, fun record other m n hm hn hkind hid hvalues => ?_⟩
  · obtain ⟨written, hwritten, hrun⟩ := run_fill reactor hm entries
    refine ⟨_, { m with attributes := m.attributes.merge written }, hrun, ?_, rfl,
      fun name hname => ?_⟩
    · rw [Directory.get?_modify, hm]
      rfl
    · exact Fields.get?_merge_of_namedBy hwritten (by simp [hname]) m.attributes
  · obtain ⟨hmkeyed, hmbanks⟩ := hordinary record m hm
    obtain ⟨hnkeyed, hnbanks⟩ := hordinary other n hn
    exact alike_save reactor hm hn hkind (hnbanks.trans hmbanks.symm) hid
      (ModelClass.writable_congr hnkeyed hmkeyed hvalues)

/-- A class of which only the name may be written. -/
def clerk : ModelClass := { name := "Clerk", table := "clerks", fillable := ["name"] }

/-- Two clerks with the same name, who have been given different roles. -/
def staffing : List Upkeep :=
  [.construct "first" clerk [("role", "guest"), ("name", "Ada")],
    .assign 0 "role" "owner",
    .fill 0 [("role", "admin"), ("name", "Eve")],
    .construct "second" clerk [("name", "Eve"), ("role", "guest")]]

/-- A session with two clerks. -/
def staffed : Session := (Session.serving (.new "t" {})).kept .still staffing

/-- No role of a clerk is saved, filled in, or of any influence. -/
theorem save_writes_writable_staffed :
    (∃ new, ((save 0).run Reactor.still.muted staffed).2.trace.calls = new ∧
      new.filterMap Happening.sql? = ["INSERT INTO clerks (name) VALUES (?)"] ∧
      ∀ h ∈ new, h.runs = true →
        ∃ names statement, (∀ name ∈ names, clerk.writes name = true) ∧
          statement.Saves "clerks" names ∧ h.Carries statement) ∧
    (∃ t m, (fill 0 (.map (Fields.named [("role", "admin"), ("age", .int 7)]))).run .still staffed =
        (.ok (), t) ∧ t.models.get? 0 = some m ∧
      m.attributes.get? (.text "role") = some "owner" ∧ m.attributes.get? (.text "age") = none) ∧
    Alike .still staffed (save 0) (save 1) := by
  have hordinary : (Session.serving (.new "t" {})).Ordinary := fun _ _ h => by cases h
  have hall := save_writes_writable .still (fun _ _ h => h) _ hordinary staffing
  rw [← staffed] at hall
  obtain ⟨hsave, hfill, halike⟩ := hall
  have hfirst : staffed.models.get? 0 = some
      { kind := clerk, attributes := [(.text "role", "owner"), (.text "name", "Eve")] } := by
    rfl
  have hsecond : staffed.models.get? 1 = some
      { kind := clerk, attributes := [(.text "name", "Eve"), (.text "role", "guest")] } := by
    rfl
  refine ⟨?_, ?_, halike 0 1 _ _ hfirst hsecond rfl rfl rfl⟩
  · obtain ⟨new, hnew, hhanded⟩ := hsave 0 _ hfirst
    have hcalls : staffed.trace.calls = [] := rfl
    rw [hcalls, List.nil_append] at hnew
    refine ⟨new, hnew, ?_, hhanded⟩
    rw [← hnew]
    decide +kernel
  · obtain ⟨t, m, hrun, hm, -, hkept⟩ := hfill 0 _ [("role", "admin"), ("age", .int 7)] hfirst
    refine ⟨t, m, hrun, hm, ?_, ?_⟩
    · rw [hkept "role" (by decide)]
      rfl
    · rw [hkept "age" (by decide)]
      rfl

end Act

end FluentSql
