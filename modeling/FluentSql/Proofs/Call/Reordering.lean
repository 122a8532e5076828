import FluentSql.Proofs.Call.Changes
import Mathlib.Data.List.Sort
import Mathlib.Logic.Equiv.Defs

set_option autoImplicit false

/-!
# Calls in another order

What calls make of a field of a query is made by those that write the field, and these know no field
but their own. So calls may be made in another order, as long as any two that write a field in
common come in the same one: what they leave of a builder is the same. Time may go by between the
calls, in another way in another order, as long as a call that asks for it is told the same.

## Main definitions

* `FluentSql.Invocation`, `FluentSql.TimedCall` — a call with its arguments evaluated, and one that
  is made at a moment.
* `FluentSql.Invocation.Writes` — a call writes a field.
* `FluentSql.Builder.called` — a builder after calls.
* `FluentSql.Reorders` — calls in another order that keeps apart what has a field in common.

## Main results

* `FluentSql.Reorders.called_eq` — calls in another order leave the same of a builder.
-/

namespace FluentSql

/-- A call as it is written, with its arguments evaluated. -/
abbrev Invocation := Method × Arguments

/-- The edits of a call as it is written. -/
def Invocation.edits (ctx : Context) (c : Invocation) : Edit Unit := c.1.edits ctx c.2

/-- A call writes a field: in some surroundings it changes the field of some builder. -/
def Invocation.Writes (c : Invocation) (f : Descriptor.Field) : Prop :=
  ∃ ctx b, ¬ f.Same b ((c.edits ctx).run b).2

/-- A call writes none but its own fields. -/
theorem Invocation.Writes.mem_fields {c : Invocation} {f : Descriptor.Field} (h : c.Writes f) :
    f ∈ c.1.fields := by
  obtain ⟨ctx, b, hb⟩ := h
  by_contra hf
  exact hb ((Method.plans_edits ctx c.1 c.2).same_of_notMem hf b)

/-! ## Calls and the time -/

/-- Whether a call asks what time it is. -/
def Method.asksTime : Method → Bool
  | .period => true
  | _ => false

/-- A call that does not ask what time it is does the same at any. -/
theorem Method.perform_congr_clock {m : Method} (h : m.asksTime = false) (ctx : Context)
    (clock : Moment) (args : Arguments) :
    m.perform { ctx with clock } args = m.perform ctx args := by
  cases m
  case period => cases h
  all_goals rfl

/-- A short form asks what time it is if the call that it stands for does. -/
theorem Method.asksTime_longForm (m : Method) : m.longForm.asksTime = m.asksTime := by
  cases m <;> rfl

/-- A call as it is written makes the same edits at any time if it does not ask for it. -/
theorem Invocation.edits_congr_clock {c : Invocation} (h : c.1.asksTime = false) (ctx : Context)
    (clock : Moment) : c.edits { ctx with clock } = c.edits ctx := by
  rw [edits, edits]
  cases hexpand : c.1.expand c.2 with
  | error e =>
    refine ExceptT.ext (funext fun b => ?_)
    exact (Method.run_edits_of_error hexpand b).trans (Method.run_edits_of_error hexpand b).symm
  | ok expanded =>
    obtain ⟨meant, given⟩ := expanded
    cases haccepts : c.1.accepts c.2 with
    | false =>
      refine ExceptT.ext (funext fun b => ?_)
      exact (Method.run_edits_of_not_accepts hexpand haccepts b).trans
        (Method.run_edits_of_not_accepts hexpand haccepts b).symm
    | true =>
      obtain rfl : meant = c.1.longForm := Method.eq_longForm_of_expand hexpand
      rw [Method.edits_of_accepts hexpand haccepts, Method.edits_of_accepts hexpand haccepts]
      exact Method.perform_congr_clock ((Method.asksTime_longForm c.1).trans h) ctx clock given

/-- A call with its arguments evaluated, and the moment at which it is made. -/
structure TimedCall where
  moment : Moment
  call : Invocation

/-- The same call is made, perhaps at another moment if it does not ask what time it is. -/
def TimedCall.Same (c c' : TimedCall) : Prop :=
  c'.call = c.call ∧ (c.call.1.asksTime = true → c'.moment = c.moment)

/-! ## Calls one after the other -/

section Called

variable {surroundings : TimedCall → Context} {f : Descriptor.Field} {b c : Builder}

/-- A builder after calls, each in its own surroundings, whether they failed or not. -/
def Builder.called (surroundings : TimedCall → Context) (calls : List TimedCall) (b : Builder) :
    Builder :=
  calls.foldl (fun b c => ((c.call.edits (surroundings c)).run b).2) b

/-- What calls make of a field depends on that field alone. -/
theorem Builder.same_called (calls : List TimedCall) (h : f.Same b c) :
    f.Same (b.called surroundings calls) (c.called surroundings calls) := by
  induction calls generalizing b c with
  | nil => exact h
  | cons call calls ih => exact ih ((Method.plans_edits _ call.call.1 call.call.2).same h)

open scoped Classical in
/-- What calls make of a field is made by those that write it. -/
theorem Builder.same_called_filter (surroundings : TimedCall → Context) (f : Descriptor.Field)
    (calls : List TimedCall) (b : Builder) :
    f.Same (b.called surroundings calls)
      (b.called surroundings (calls.filter fun c => c.call.Writes f)) := by
  induction calls generalizing b with
  | nil => exact .refl f b
  | cons call calls ih =>
    by_cases hwrites : call.call.Writes f
    · rw [List.filter_cons_of_pos (by simpa using hwrites)]
      exact ih _
    · rw [List.filter_cons_of_neg (by simpa using hwrites)]
      have hcall : f.Same ((call.call.edits (surroundings call)).run b).2 b := by
        by_contra hchanged
        exact hwrites ⟨_, b, fun hsame => hchanged hsame.symm⟩
      exact (ih _).trans (same_called _ hcall)

/-- What calls leave of a builder: how it stands, its log and its depth. -/
theorem Builder.called_eq (surroundings : TimedCall → Context) (calls : List TimedCall)
    (b : Builder) :
    ∃ descriptor formerColumns, b.called surroundings calls = { b with descriptor, formerColumns } ∧
      descriptor.table = b.descriptor.table := by
  induction calls generalizing b with
  | nil => exact ⟨_, _, rfl, rfl⟩
  | cons call calls ih =>
    obtain ⟨descriptor, formerColumns, hcall, htable⟩ :=
      (Method.plans_edits (surroundings call) call.call.1 call.call.2).run_eq b
    obtain ⟨descriptor', formerColumns', hcalls, htable'⟩ :=
      ih ((call.call.edits (surroundings call)).run b).2
    have hfirst : ((call.call.edits (surroundings call)).run b).2 =
      { b with descriptor, formerColumns } := hcall
    rw [hfirst] at htable' hcalls
    refine ⟨descriptor', formerColumns', ?_, htable'.trans htable⟩
    rw [called, List.foldl_cons, hfirst, ← called, hcalls]

/-- The log of a builder is no matter for calls. -/
theorem Builder.called_logged (calls : List TimedCall) (b : Builder) (log : List LogEntry) :
    { b with log }.called surroundings calls = { b.called surroundings calls with log } := by
  induction calls generalizing b with
  | nil => rfl
  | cons call calls ih =>
    have hplans := Method.plans_edits (surroundings call) call.call.1 call.call.2
    obtain ⟨descriptor, formerColumns, hcall, -⟩ := hplans.run_eq b
    have hcall' : ((call.call.edits (surroundings call)).run b).2 =
      { b with descriptor, formerColumns } := hcall
    have hlogged : ((call.call.edits (surroundings call)).run { b with log }).2 =
        { ((call.call.edits (surroundings call)).run b).2 with log } := by
      have hrun := congrArg Prod.snd (hplans.run_logged b log b.depth)
      rw [hcall] at hrun
      rw [hcall']
      exact hrun
    rw [called, List.foldl_cons, hlogged]
    exact ih _

/-- What calls make of a query has nothing to do with the select lists that stood there before. -/
theorem Builder.descriptor_called (calls : List TimedCall) (h : b.descriptor = c.descriptor) :
    (b.called surroundings calls).descriptor = (c.called surroundings calls).descriptor := by
  induction calls generalizing b c with
  | nil => exact h
  | cons call calls ih =>
    exact ih ((Method.plans_edits (surroundings call) call.call.1 call.call.2).descriptor_eq h)

end Called

/-! ## Another order -/

/-- What passes a test comes to the same, one after the other, in two lists in which any two that
pass it stand in the same order. -/
theorem map_filter_eq_of_equiv {α β : Type} {xs ys : List α} {p : α → Prop} [DecidablePred p]
    (g : α → β) (σ : Fin xs.length ≃ Fin ys.length) (hg : ∀ i, g ys[σ i] = g xs[i])
    (hp : ∀ i, p ys[σ i] ↔ p xs[i]) (horder : ∀ i j, i < j → p xs[i] → p xs[j] → σ i < σ j) :
    (xs.filter p).map g = (ys.filter p).map g := by
  let places (zs : List α) : List (Fin zs.length) :=
    (List.finRange zs.length).filter fun i => p zs[i]
  have hplaces : ∀ zs : List α, zs.filter p = (places zs).map fun i => zs[i] := by
    intro zs
    conv_lhs => rw [← List.map_getElem_finRange zs]
    rw [List.filter_map]
    rfl
  have hsorted : ∀ zs : List α, (places zs).Pairwise (· < ·) := fun zs =>
    (List.pairwise_lt_finRange zs.length).filter _
  have hmap : (places xs).map σ = places ys := by
    refine List.Pairwise.eq_of_mem_iff (r := (· < ·)) ?_ (hsorted ys) fun k => ?_
    · rw [List.pairwise_map]
      refine (hsorted xs).imp_of_mem fun {i j} hi hj hij => ?_
      exact horder i j hij (by simpa [places] using hi) (by simpa [places] using hj)
    · simp only [places, List.mem_map, List.mem_filter, List.mem_finRange, true_and,
        decide_eq_true_eq]
      constructor
      · rintro ⟨i, hi, rfl⟩
        exact (hp i).mpr hi
      · intro hk
        have hback : p ys[k] ↔ p xs[σ.symm k] := by
          simpa only [Equiv.apply_symm_apply] using hp (σ.symm k)
        exact ⟨σ.symm k, hback.mp hk, σ.apply_symm_apply k⟩
  rw [hplaces xs, hplaces ys, ← hmap, List.map_map, List.map_map, List.map_map]
  exact List.map_congr_left fun i _ => (hg i).symm

/-- The same calls in another order, in which any two that write a field in common come in the same
one. Each may be made at another moment, but those that ask what time it is. -/
def Reorders (calls calls' : List TimedCall) : Prop :=
  ∃ σ : Fin calls.length ≃ Fin calls'.length, (∀ i, TimedCall.Same calls[i] calls'[σ i]) ∧
    ∀ i j, i < j → (∃ f, calls[i].call.Writes f ∧ calls[j].call.Writes f) → σ i < σ j

/-- Calls are in another order that keeps apart what has a field in common if any two that changed
places change different fields. -/
theorem reorders_of_fields {calls calls' : List TimedCall}
    (σ : Fin calls.length ≃ Fin calls'.length) (hσ : ∀ i, TimedCall.Same calls[i] calls'[σ i])
    (hfields : ∀ i j, i < j → ¬ σ i < σ j →
      ∀ f ∈ calls[i].call.1.fields, f ∉ calls[j].call.1.fields) :
    Reorders calls calls' := by
  refine ⟨σ, hσ, fun i j hij hcommon => ?_⟩
  obtain ⟨f, hi, hj⟩ := hcommon
  by_contra hσij
  exact hfields i j hij hσij f hi.mem_fields hj.mem_fields

namespace Reorders

variable {calls calls' : List TimedCall} (h : Reorders calls calls')

include h

/-- Calls in another order are the same calls. -/
theorem exists_same {c' : TimedCall} (hc' : c' ∈ calls') : ∃ c ∈ calls, c.Same c' := by
  obtain ⟨σ, hσ, -⟩ := h
  obtain ⟨k, rfl⟩ := List.mem_iff_get.mp hc'
  have hsame : TimedCall.Same calls[σ.symm k] calls'[k] := by
    simpa only [Equiv.apply_symm_apply] using hσ (σ.symm k)
  exact ⟨_, List.getElem_mem _, hsame⟩

/-- Calls in another order leave the same of a builder, if the same call has the same edits in its
surroundings wherever it stands.

**Proof sketch.** What calls make of a field is made by those that write it, and of these any two
have the field in common; so they come in the same order. A builder is told by the fields of its
query, and by what calls leave of it. -/
theorem called_eq {surroundings : TimedCall → Context}
    (hedits : ∀ c c' : TimedCall, c.Same c' →
      c'.call.edits (surroundings c') = c.call.edits (surroundings c)) (b : Builder) :
    b.called surroundings calls' = b.called surroundings calls := by
  classical
  obtain ⟨σ, hσ, horder⟩ := h
  obtain ⟨descriptor, formerColumns, hcalls, htable⟩ :=
    Builder.called_eq surroundings calls b
  obtain ⟨descriptor', formerColumns', hcalls', htable'⟩ :=
    Builder.called_eq surroundings calls' b
  refine Builder.eq_of_same (fun f => ?_) ?_ ?_
  · have hmap := map_filter_eq_of_equiv (p := fun c => c.call.Writes f)
      (fun c : TimedCall => c.call.edits (surroundings c)) σ (fun i => hedits _ _ (hσ i))
      (fun i => by rw [(hσ i).1]) fun i j hij hi hj => horder i j hij ⟨f, hi, hj⟩
    have hcalled : b.called surroundings (calls'.filter fun c => c.call.Writes f) =
        b.called surroundings (calls.filter fun c => c.call.Writes f) := by
      have hfold := congrArg (List.foldl (fun b (edit : Edit Unit) => (edit.run b).2) b) hmap
      rw [List.foldl_map, List.foldl_map] at hfold
      exact hfold.symm
    have hsame := Builder.same_called_filter surroundings f calls' b
    rw [hcalled] at hsame
    exact hsame.trans (Builder.same_called_filter surroundings f calls b).symm
  · rw [Builder.table, Builder.table, hcalls, hcalls']
    exact htable'.trans htable.symm
  · rw [hcalls, hcalls']

end Reorders

end FluentSql
