import FluentSql.Proofs.Directory
import FluentSql.Proofs.Session.Writing
import FluentSql.Proofs.Statement.Restricted
import FluentSql.Session.Calling

set_option autoImplicit false

/-!
# What a write hands to its executor

Outside a simulation a write hands at most two statements to its executor: one that changes rows,
and an INSERT. The one that changes rows is restricted exactly if the predicates that govern the
write have a text. A write that needs a predicate and has an empty list hands over nothing; but a
list with nothing but verbatim SQL without text, and an update-or-insert without attributes, lead to
a statement that changes every row.

What listeners hand to executors meanwhile is not counted here: their reactions are run muted.

## Main definitions

* `FluentSql.Descriptor.governing` — the predicates that govern a write.
* `FluentSql.Descriptor.MayHand` — what a write may hand over.

## Main results

* `FluentSql.Act.make_restricted_iff` — the statements that a write hands over, and when the one
  that changes rows is restricted.
-/

namespace FluentSql

/-! ## The predicates of a write -/

@[simp] theorem Descriptor.table_mapValues (f : Value → Value) (d : Descriptor) :
    (d.mapValues f).table = d.table := by
  obtain ⟨_, _, _, _, _, _, _, _, _, _, _, _, _, _, _⟩ := d
  rfl

@[simp] theorem Descriptor.blank_wheres_mapValues (f : Value → Value) (d : Descriptor) :
    blank (d.mapValues f).wheres = blank d.wheres := by
  obtain ⟨_, _, _, wheres, _, _, _, _, _, _, _, _, _, _, _⟩ := d
  exact blank_mapPredicates f wheres

@[simp] theorem Session.table_currentQuery (s : Session) (d : Descriptor) :
    (s.currentQuery d).table = d.table := by
  rw [Session.currentQuery]
  split <;> simp

@[simp] theorem Session.blank_wheres_currentQuery (s : Session) (d : Descriptor) :
    blank (s.currentQuery d).wheres = blank d.wheres := by
  rw [Session.currentQuery]
  split <;> simp

/-- Whether a write is restricted does not depend on the values that its predicates bind. -/
theorem WriteStatement.ChangesRows.of_currentQuery {w : WriteStatement} {s : Session}
    {d : Descriptor}
    (h : w.ChangesRows (s.currentQuery d).table (s.currentQuery d).wheres) :
    w.ChangesRows d.table d.wheres := by
  simpa [WriteStatement.ChangesRows] using h

/-- The predicates that govern a write: an update-or-insert compares every attribute with its value,
any other write has the predicates of its query. -/
def Descriptor.governing (d : Descriptor) (kind : WriteKind) (data : Value) :
    Except Error (List Predicate) :=
  match kind with
  | .updateOrInsert => do
    let attributes ← data.subscript "attributes"
    Act.attributePredicates (← attributes.fields "items")
  | _ => .ok d.wheres

/-- What a write may hand over: an INSERT, or a statement that changes rows, governed by the
predicates of the write. -/
def Descriptor.MayHand (d : Descriptor) (kind : WriteKind) (data : Value) (h : Happening) : Prop :=
  h.runs = true →
    (∃ table rows, ∃ w : WriteStatement,
      insertStatement table rows = .ok w ∧ h.Carries w.toStatement) ∨
    ∃ ps, d.governing kind data = .ok ps ∧
      ∃ w : WriteStatement, w.ChangesRows d.table ps ∧ h.Carries w.toStatement

/-! ## The statements of a write -/

namespace Act

variable {reactor : Reactor} {s : Session} {id : Nat} {b : Builder}

/-- Other predicates in the place of a builder's own stay within a frame if what is done with them
does, and changes of builders do. -/
theorem rel_withWheres {α : Type} {F : Frame} {wheres : List Predicate} {body : Act α}
    (hb : s.builders.get? id = some b)
    (hchange : ∀ (t : Session) (change : Builder → Builder), F.rel t (t.changed id change))
    (hbody : ∀ t : Session, t.builders.get? id = some (b.edit fun d => { d with wheres }) →
      F.rel t (body.run reactor t).2) :
    F.rel s ((withWheres id wheres body).run reactor s).2 := by
  have h := F.trans (hchange s _) (hbody _ (Session.get?_withWheres hb wheres))
  rw [run_withWheres hb]
  exact F.trans h (hchange _ _)

/-- An update-or-insert hands over an UPDATE governed by its attributes, and then an INSERT. -/
theorem rel_runUpdateOrInsert (hb : s.builders.get? id = some b) (executor : Nat) (data : Value) :
    (Frame.hands (b.descriptor.MayHand .updateOrInsert data)).rel s
      ((runUpdateOrInsert id executor data).run reactor.muted s).2 := by
  have hends : ∀ h : Happening, h.runs = false → b.descriptor.MayHand .updateOrInsert data h :=
    fun h hh hruns => by simp [hh] at hruns
  rw [runUpdateOrInsert]
  cases hattributes : data.subscript "attributes" with
  | error e => exact Frame.refl _ s
  | ok attributes =>
    rw [run_of_ok_bind]
    cases data.subscript "values" with
    | error e => exact Frame.refl _ s
    | ok values =>
      rw [run_of_ok_bind]
      cases hwanted : attributes.fields "items" with
      | error e => exact Frame.refl _ s
      | ok wanted =>
        rw [run_of_ok_bind]
        cases hps : attributePredicates wanted with
        | error e => exact Frame.refl _ s
        | ok ps =>
          rw [run_of_ok_bind]
          have hgoverning : b.descriptor.governing .updateOrInsert data = .ok ps := by
            simp [Descriptor.governing, hattributes, hwanted, hps, bind, Except.bind]
          refine rel_withWheres hb (fun t change => Frame.hands_of_eq rfl) fun t ht => ?_
          rw [run_bind, run_currentQuery reactor.muted t ht]
          refine keeps_of_bind (fun w hw => ?_) t
          have hw := (Descriptor.changesRows_updateStatement hw).of_currentQuery
          refine keeps_bind (keeps_dispatch Frame.hands_heard (keeps_execute
            (executes_hands (fun h hh _ => .inr ⟨ps, hgoverning, w, hw, hh⟩) hends) _) _ _ _)
            fun result => ?_
          split
          · exact keeps_pure _
          · refine keeps_bind (keeps_of _) fun row => ?_
            exact keeps_runInsert Frame.hands_heard (fun table rows w hw => keeps_execute
              (executes_hands (fun h hh _ => .inl ⟨table, rows, w, hw, hh⟩) hends) _) _ _

/-- A statement that is compiled from the query of a builder as it is, to change rows, may be handed
over. -/
theorem rel_compiled {kind : WriteKind} {data : Value}
    {compile : Descriptor → Except Error WriteStatement} {rest : WriteStatement → Act WriteResult}
    (hb : s.builders.get? id = some b)
    (hgoverning : b.descriptor.governing kind data = .ok b.descriptor.wheres)
    (hcompile : ∀ d w, compile d = .ok w → w.ChangesRows d.table d.wheres)
    (hrest : ∀ w, Executes (Frame.hands (b.descriptor.MayHand kind data)) reactor w.toStatement →
      Keeps (Frame.hands (b.descriptor.MayHand kind data)) reactor (rest w)) :
    (Frame.hands (b.descriptor.MayHand kind data)).rel s
      ((currentQuery id >>= fun d => of (compile d) >>= rest).run reactor s).2 := by
  rw [run_bind, run_currentQuery reactor s hb]
  refine keeps_of_bind (fun w hw => hrest w ?_) s
  have hw := (hcompile _ w hw).of_currentQuery
  exact executes_hands (fun h hh _ => .inr ⟨_, hgoverning, w, hw, hh⟩)
    fun h hh hruns => by simp [hh] at hruns

/-- An increment or a decrement hands over what a write of its kind may. -/
theorem rel_runIncrement {kind : WriteKind} {data : Value} (hb : s.builders.get? id = some b)
    (hgoverning : b.descriptor.governing kind data = .ok b.descriptor.wheres) (executor : Nat)
    (decrement : Bool) :
    (Frame.hands (b.descriptor.MayHand kind data)).rel s
      ((runIncrement id executor decrement data).run reactor.muted s).2 := by
  rw [runIncrement]
  cases data.subscript "column" with
  | error e => exact Frame.refl _ s
  | ok column =>
    rw [run_of_ok_bind]
    cases data.getOr "amount" (.int 1) with
    | error e => exact Frame.refl _ s
    | ok amount =>
      rw [run_of_ok_bind]
      refine rel_compiled hb hgoverning (fun d w hw => d.changesRows_incrementStatement hw)
        fun w hw => ?_
      exact keeps_bind (keeps_of _) fun fields =>
        keeps_dispatch Frame.hands_heard (keeps_execute hw _) _ _ _

/-- Every write hands over what a write of its kind may. -/
theorem rel_runWrite (hb : s.builders.get? id = some b) (executor : Nat) (kind : WriteKind)
    (data : Value) :
    (Frame.hands (b.descriptor.MayHand kind data)).rel s
      ((runWrite id executor kind data).run reactor.muted s).2 := by
  cases kind with
  | insert =>
    refine keeps_runInsert Frame.hands_heard (fun table rows w hw => keeps_execute ?_ _) id data s
    exact executes_hands (fun h hh _ => .inl ⟨table, rows, w, hw, hh⟩)
      fun h hh hruns => by simp [hh] at hruns
  | update =>
    exact rel_compiled hb rfl (fun d w hw => d.changesRows_updateStatement hw)
      fun w hw => keeps_dispatch Frame.hands_heard (keeps_execute hw _) _ _ _
  | delete =>
    exact rel_compiled hb rfl (fun d w hw => d.changesRows_deleteStatement hw)
      fun w hw => keeps_dispatch Frame.hands_heard (keeps_execute hw _) _ _ _
  | increment => exact rel_runIncrement hb rfl executor false
  | decrement => exact rel_runIncrement hb rfl executor true
  | updateOrInsert => exact rel_runUpdateOrInsert hb executor data

/-! ## Making a write -/

/-- Outside a simulation a write hands nothing to its executor but INSERTs and statements that
change rows, and such a statement is restricted, being its head, `WHERE` and the text of its
predicate, exactly if the predicates that govern the write are not blank; if they are blank, it is
its head alone. A write of a kind that needs a predicate fails and hands nothing over if the
predicate list is empty.

**Proof sketch.** Every statement of a write is compiled before it is announced, so no listener can
take part in it. It ends in the predicates of the query, whose values alone were looked at again, or
for an update-or-insert in those put in their place; and ending a statement in predicates restricts
it exactly if they have a text. -/
theorem make_restricted_iff (reactor : Reactor) (s : Session) (id : Nat) (b : Builder)
    (hb : s.builders.get? id = some b) (hreal : s.simulating b.options.simulation = false) :
    ∃ new, ((make id).run reactor.muted s).2.trace.calls = s.trace.calls ++ new ∧
      (∀ h ∈ new, h.runs = true →
        (∃ table rows, ∃ w : WriteStatement,
          insertStatement table rows = .ok w ∧ h.Carries w.toStatement) ∨
        ∃ kind data ps, b.descriptor.checkedAction = .ok (kind, data) ∧
          b.descriptor.governing kind (s.current data) = .ok ps ∧
          ∃ (w : WriteStatement) (head : String), h.Carries w.toStatement ∧
            IsWriteHead b.table head ∧ (w.Restricts head ↔ blank ps = false) ∧
            (blank ps = true → w.sql = head ∧ w.whereSql = "")) ∧
      (∀ action kind, b.descriptor.pending = some action →
        WriteKind.ofKeyword? action.kind = some kind → kind.needsWhere = true →
        b.descriptor.wheres = [] →
        new = [] ∧ ∃ e, ((make id).run reactor.muted s).1 = .error e) := by
  rw [run_make_real hb hreal]
  cases hservant : s.servant b with
  | error e => exact ⟨[], by simp⟩
  | ok executor =>
    cases hchecked : b.descriptor.checkedAction with
    | error e => exact ⟨[], by simp⟩
    | ok checked =>
      obtain ⟨kind, data⟩ := checked
      have hrun : (Frame.hands (b.descriptor.MayHand kind (s.current data))).rel s
          ((runWrite id executor kind (s.current data)).run reactor.muted s).2 :=
        rel_runWrite hb executor kind (s.current data)
      obtain ⟨new, hnew, hhanded⟩ := hrun
      refine ⟨new, ?_, fun h hmem hruns => ?_, fun action other hpending hkind hneeds hempty => ?_⟩
      · rw [← hnew]
        dsimp only
        generalize (runWrite id executor kind (s.current data)).run reactor.muted s = r
        obtain ⟨_ | result, t⟩ := r <;> rfl
      · rcases hhanded h hmem hruns with hinsert | ⟨ps, hps, w, ⟨head, hhead, hw⟩, hcarries⟩
        · exact .inl hinsert
        · exact .inr ⟨kind, data, ps, rfl, hps, w, head, hcarries, hhead, hw⟩
      · -- The check does not let such a write pass.
        simp [Descriptor.checkedAction, hpending, hkind, hneeds, hempty] at hchecked

/-- A queued DELETE of the rows where `a` is 1. -/
def narrowDelete : Builder :=
  { Builder.new "t" {} with descriptor := { Descriptor.new "t" with
      wheres := [.basic "a" .eq (.int 1) .and]
      pending := some ⟨"delete", .null⟩ } }

/-- What `narrowDelete` hands over to change rows is restricted. -/
theorem make_restricted_iff_narrowDelete :
    ∃ new, ((make 0).run Reactor.still.muted (.serving narrowDelete)).2.trace.calls = new ∧
      new.filterMap Happening.sql? = ["DELETE FROM t WHERE a = ?"] ∧
      ∀ h ∈ new, h.runs = true →
        (∃ table rows, ∃ w : WriteStatement,
          insertStatement table rows = .ok w ∧ h.Carries w.toStatement) ∨
        ∃ (w : WriteStatement) (head : String), h.Carries w.toStatement ∧
          IsWriteHead "t" head ∧ w.Restricts head := by
  obtain ⟨new, hnew, hhanded, -⟩ := make_restricted_iff .still (.serving narrowDelete) 0
    narrowDelete rfl rfl
  refine ⟨new, hnew, ?_, fun h hmem hruns => ?_⟩
  · have hnew : ((make 0).run Reactor.still.muted (.serving narrowDelete)).2.trace.calls = new :=
      hnew
    rw [← hnew]
    decide +kernel
  · rcases hhanded h hmem hruns with hinsert | ⟨kind, data, ps, hchecked, hps, w, head, hw⟩
    · exact .inl hinsert
    · have hdelete : narrowDelete.descriptor.checkedAction = .ok (.delete, .null) := by
        rfl
      cases hchecked.symm.trans hdelete
      cases hps
      exact .inr ⟨w, head, hw.1, hw.2.1, hw.2.2.1.mpr rfl⟩

/-- Some calls on the only builder of a session, and the execution of what they queue. -/
def performAndMake (calls : List Call) : Act WriteResult := do
  performAll 0 .null calls
  make 0

/-- An update-or-insert without attributes updates every row, and a DELETE whose only predicate is
verbatim SQL without text deletes every row. -/
theorem make_unrestricted :
    (Session.serving (.new "t" {})).simulating none = false ∧
    ((performAndMake [⟨.chained .updateOrInsert, [("attributes", .value (.map [])),
      ("values", .value (.map [(.text "a", .int 1)]))]⟩]).run .still
        (.serving (.new "t" {}))).2.trace.calls.filterMap Happening.sql? =
      ["UPDATE t SET a = ?"] ∧
    ((performAndMake [⟨.chained .whereRaw, [("sql", .value (.text ""))]⟩,
      ⟨.chained .delete, []⟩]).run .still
        (.serving (.new "t" {}))).2.trace.calls.filterMap Happening.sql? =
      ["DELETE FROM t"] := by
  decide +kernel

end Act

end FluentSql
