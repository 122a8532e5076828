import FluentSql.Proofs.Rows.Lists
import FluentSql.Proofs.Session.Rehearsal

set_option autoImplicit false

/-!
# Copies of values

What is put into rows in a simulation are copies, so that nothing that is done to a builder later
reaches the rows. A copy has the shape of what it is a copy of, and the same texts and numbers; the
builders in it are other ones, which were not there before. Copies are made of the values of an
update, of the values of an update-or-insert, though not of the attributes that the rows are
compared with, and of all rows that are added.

## Main definitions

* `FluentSql.Value.CopiedAs` — a value and a copy of it.
* `FluentSql.PendingAction.CopiedAs`, `FluentSql.Descriptor.CopiedAs` — a queued write, and one with
  copies of the values that rows are to take in.
* `FluentSql.Attempt.CopiedAs` — a write as it was tried, and with copies of the rows that it adds.

## Main results

* `FluentSql.Session.nextId_le_copyBuilders` — the builders in a copy are new.
* `FluentSql.Act.copiedAs_of_run_copy` — a copy of a value.
* `FluentSql.Act.exists_run_copiedValues`, `FluentSql.Act.exists_run_copiedAttempt` — the copies
  that a write is made with.
-/

namespace FluentSql

/-! ## What a copy is -/

/-- A value has a copy: the builders of a session that it refers to have become others, which were
not there, and its views are looked at again. Where no builder refers to another there is nothing
to copy. -/
def Value.CopiedAs (s : Session) (v v' : Value) : Prop :=
  if s.linked then
    ∃ σ look, v' = (v.rename σ).renew look ∧
      ∀ id ∈ v.references, (s.builders.get? id).isSome → s.builders.nextId ≤ σ id
  else v' = v

/-- A queued write, and the one with copies of the values that rows are to take in: of all that an
update was given, and of the values of an update-or-insert, if it has some. -/
inductive PendingAction.CopiedAs (s : Session) : PendingAction → PendingAction → Prop
  | update {data data' : Value} (h : data.CopiedAs s data') :
      CopiedAs s ⟨WriteKind.update.keyword, data⟩ ⟨WriteKind.update.keyword, data'⟩
  | updateOrInsert {fields : Fields} {values values' : Value}
      (hget : Fields.get? fields "values" = some values) (h : values.CopiedAs s values') :
      CopiedAs s ⟨WriteKind.updateOrInsert.keyword, .map fields⟩
        ⟨WriteKind.updateOrInsert.keyword, .map (Fields.set fields "values" values')⟩
  | other {word : String} {data : Value} (hupdate : word ≠ WriteKind.update.keyword)
      (hupsert : word = WriteKind.updateOrInsert.keyword →
        ∀ fields, data = .map fields → Fields.get? fields "values" = none) :
      CopiedAs s ⟨word, data⟩ ⟨word, data⟩

/-- A query, and the one whose queued values are copies. -/
def Descriptor.CopiedAs (s : Session) (d d' : Descriptor) : Prop :=
  (d.pending = none ∧ d' = d) ∨
    ∃ action action', d.pending = some action ∧ PendingAction.CopiedAs s action action' ∧
      d' = { d with pending := some action' }

/-- A write as it was tried has the rows copied that it adds. -/
inductive Attempt.CopiedAs (s : Session) (a : Attempt) : Attempt → Prop
  | extended {added added' : Value} {result : WriteResult}
      (h : a.outcome = .ok ⟨.extended added, result⟩) (hadded : added.CopiedAs s added') :
      CopiedAs s a { a with outcome := .ok ⟨.extended added', result⟩ }
  | other (h : ∀ added result, a.outcome ≠ .ok ⟨.extended added, result⟩) : CopiedAs s a a

/-! ## The builders in a copy -/

namespace Session

/-- What is copied along are the builders that are to be copied, and more. -/
theorem subset_reachable (s : Session) (rounds : Nat) (ids : List Nat) :
    ids ⊆ s.reachable rounds ids := by
  induction rounds generalizing ids with
  | zero => exact List.Subset.refl ids
  | succ rounds ih =>
    rw [reachable]
    split
    · exact List.Subset.refl ids
    · intro id hid
      exact ih _ (List.mem_eraseDups.mpr (List.mem_append_left _ hid))

/-- A builder that is copied gets a number that none has. -/
theorem nextId_le_copyBuilders (s : Session) {ids : List Nat} {id : Nat} (hid : id ∈ ids)
    (hsome : (s.builders.get? id).isSome) : s.builders.nextId ≤ (s.copyBuilders ids).1 id := by
  have hmem : id ∈ s.reachable s.builders.items.length
      (ids.eraseDups.filter fun id => (s.builders.get? id).isSome) :=
    s.subset_reachable _ _ (List.mem_filter.mpr ⟨List.mem_eraseDups.mpr hid, hsome⟩)
  rw [copyBuilders]
  dsimp only
  split
  · exact Nat.le_add_right _ _
  · next hnone => exact absurd hmem (List.idxOf?_eq_none_iff.mp hnone)

end Session

/-- Where builders were added, later numbers are given out. -/
theorem Frame.nextId_le_of_copying {s t : Session} (h : copying.rel s t) :
    s.builders.nextId ≤ t.builders.nextId := by
  refine Nat.le_of_not_lt fun hlt => ?_
  -- the next number would stand for a builder that has been there, and so is still
  have hb := h.2 t.builders.nextId _ (List.getElem?_eq_getElem hlt)
  exact absurd (List.getElem?_eq_some_iff.mp hb).1 (Nat.lt_irrefl _)

/-- A copy that is made after others is a copy in the session from before these. -/
theorem Value.CopiedAs.of_copying {s t : Session} {v v' : Value} (h : v.CopiedAs t v')
    (hcopying : Frame.copying.rel s t) : v.CopiedAs s v' := by
  have hlinked : t.linked = s.linked := by rw [hcopying.1]
  rw [CopiedAs, hlinked] at h
  rw [CopiedAs]
  split at h
  · next hs =>
    obtain ⟨σ, look, rfl, hnew⟩ := h
    rw [if_pos hs]
    refine ⟨σ, look, rfl, fun id hid hsome => ?_⟩
    obtain ⟨b, hb⟩ := Option.isSome_iff_exists.mp hsome
    have hstill : (t.builders.get? id).isSome := by
      rw [hcopying.2 id b hb, Option.isSome_some]
    exact Nat.le_trans (Frame.nextId_le_of_copying hcopying) (hnew id hid hstill)
  · next hs => rwa [if_neg hs]

theorem Attempt.CopiedAs.of_copying {s t : Session} {a a' : Attempt} (h : a.CopiedAs t a')
    (hcopying : Frame.copying.rel s t) : a.CopiedAs s a' := by
  cases h with
  | extended houtcome hadded => exact .extended houtcome (hadded.of_copying hcopying)
  | other hnone => exact .other hnone

/-! ## The copies that are made -/

namespace Act

variable {reactor : Reactor} {s t : Session} {id : Nat} {b : Builder}

/-- What copying a value gives is a copy of it.

**Proof sketch.** Every builder that the value refers to, and that there is, is among those that are
copied along, so it has got a place behind the builders of the session. -/
theorem copiedAs_of_run_copy {v v' : Value} (h : (copy v).run reactor s = (.ok v', t)) :
    v.CopiedAs s v' := by
  rw [copy, run_get_bind] at h
  rw [Value.CopiedAs]
  cases hlinked : s.linked with
  | false =>
    rw [hlinked] at h
    cases h
    rfl
  | true =>
    rw [hlinked] at h
    have hcurrent : (s.copyBuilders v.references).2.current
        (v.rename (s.copyBuilders v.references).1) = v' :=
      Except.ok.inj (congrArg Prod.fst h)
    have hstill : (s.copyBuilders v.references).2.linked = true := hlinked
    rw [Session.current, if_pos hstill] at hcurrent
    exact ⟨_, _, hcurrent.symm, fun id hid hsome => s.nextId_le_copyBuilders hid hsome⟩

variable (reactor) in
/-- What a write is carried out with are copies of the values that the query has queued.

**Proof sketch.** One case for each kind of write: an update has all its data copied, an
update-or-insert the values among them, and no other write any. -/
theorem exists_run_copiedValues (hb : s.builders.get? id = some b) :
    ∃ d t, (copiedValues id).run reactor s = (.ok d, t) ∧
      (s.currentQuery b.descriptor).CopiedAs s d := by
  rw [copiedValues, run_bind_of_ok _ _ (run_currentQuery reactor s hb)]
  generalize s.currentQuery b.descriptor = d
  rcases hpending : d.pending with _ | ⟨word, data⟩
  · exact ⟨d, s, rfl, .inl ⟨hpending, rfl⟩⟩
  · dsimp only
    cases hkind : WriteKind.ofKeyword? word with
    | none =>
      have hother : ∀ kind : WriteKind, word ≠ kind.keyword := by
        rintro kind rfl
        cases kind <;> cases hkind
      exact ⟨_, s, rfl, .inr ⟨_, _, hpending,
        .other (hother _) fun h => absurd h (hother .updateOrInsert), rfl⟩⟩
    | some kind =>
      obtain rfl := WriteKind.eq_keyword_of_ofKeyword? hkind
      cases kind with
      | update =>
        obtain ⟨data', t, hcopy⟩ := exists_run_copy reactor s data
        exact ⟨_, t, run_bind_of_ok _ _ hcopy _,
          .inr ⟨_, _, hpending, .update (copiedAs_of_run_copy hcopy), rfl⟩⟩
      | updateOrInsert =>
        cases data with
        | map fields =>
          dsimp only
          cases hget : Fields.get? fields "values" with
          | some values =>
            obtain ⟨values', t, hcopy⟩ := exists_run_copy reactor s values
            exact ⟨_, t, run_bind_of_ok _ _ hcopy _,
              .inr ⟨_, _, hpending, .updateOrInsert hget (copiedAs_of_run_copy hcopy), rfl⟩⟩
          | none =>
            refine ⟨_, s, rfl, .inr ⟨_, _, hpending, .other (by decide) ?_, rfl⟩⟩
            rintro - other hother
            cases hother
            exact hget
        | _ => exact ⟨_, s, rfl, .inr ⟨_, _, hpending, .other (by decide) (by simp), rfl⟩⟩
      | _ =>
        exact ⟨_, s, rfl, .inr ⟨_, _, hpending,
          .other (by decide) fun h => absurd h (by decide), rfl⟩⟩

variable (reactor s) in
/-- The rows that a write adds are copies. -/
theorem exists_run_copiedAttempt (a : Attempt) :
    ∃ a' t, (copiedAttempt a).run reactor s = (.ok a', t) ∧ a.CopiedAs s a' := by
  rcases a with ⟨touched, told, e | ⟨remainder, result⟩⟩
  · exact ⟨_, s, rfl, .other (by simp)⟩
  · cases remainder with
    | extended added =>
      obtain ⟨added', t, hcopy⟩ := exists_run_copy reactor s added
      have hremainder : (copiedRemainder (.extended added)).run reactor s =
          (.ok (.extended added'), t) := run_bind_of_ok _ _ hcopy _
      exact ⟨_, t, run_bind_of_ok _ _ hremainder _, .extended rfl (copiedAs_of_run_copy hcopy)⟩
    | whole => exact ⟨_, s, rfl, .other (by simp)⟩
    | selection kept => exact ⟨_, s, rfl, .other (by simp)⟩

end Act

end FluentSql
