import FluentSql.Error

set_option autoImplicit false

/-!
# Computations that may fail

How a sequence of failing computations came to its outcome: it gave a value only if every part did,
and it failed with the error of its first part that failed. Errors come in families; the family of
faults is that of operations on values that do not admit them.

## Main definitions

* `FluentSql.Error.isFault`, `FluentSql.Error.isConfiguration` — families of errors.
* `FluentSql.OnlyErrors` — a computation fails with nothing but errors of a family, such as faults
  (`FluentSql.OnlyFaults`).

## Main results

* `FluentSql.bind_eq_ok`, `FluentSql.map_eq_ok` — where the value of a sequence comes from.
* `FluentSql.bind_eq_error` — where its error comes from.
* `FluentSql.forall_mem_of_mapM_eq_ok` — properties of what is made of the items of a list.
* `FluentSql.OnlyErrors.bind`, `FluentSql.OnlyErrors.mapM` — sequences of such computations.
-/

namespace FluentSql

variable {α β : Type} {x : Except Error α}

/-- A value by itself is one that was come to. -/
theorem pure_eq_ok (a : α) : (pure a : Except Error α) = .ok a := rfl

/-- What follows a value goes on with it. -/
theorem ok_bind (a : α) (f : α → Except Error β) : Except.ok a >>= f = f a := rfl

/-- A sequence gives a value exactly if both parts do. -/
theorem bind_eq_ok {f : α → Except Error β} {b : β} :
    x >>= f = .ok b ↔ ∃ a, x = .ok a ∧ f a = .ok b := by
  cases x with
  | error e => simp [bind, Except.bind]
  | ok a => simp [bind, Except.bind]

/-- A sequence fails exactly if its first part does, or its second with the value of the first. -/
theorem bind_eq_error {f : α → Except Error β} {e : Error} :
    x >>= f = .error e ↔ x = .error e ∨ ∃ a, x = .ok a ∧ f a = .error e := by
  cases x with
  | error e => simp [bind, Except.bind]
  | ok a => simp [bind, Except.bind]

/-- A changed value is the change of a value. -/
theorem map_eq_ok {f : α → β} {b : β} : x.map f = .ok b ↔ ∃ a, x = .ok a ∧ f a = b := by
  cases x with
  | error e => simp [Except.map]
  | ok a => simp [Except.map]

/-- What a sequence comes to is changed by changing what its second part comes to. -/
theorem map_bind_eq {γ : Type} (x : Except Error α) (f : α → Except Error β) (g : β → γ) :
    (x >>= f).map g = x >>= fun a => (f a).map g := by
  cases x <;> rfl

/-- The values that a list of outcomes comes to are changed by changing every outcome. -/
theorem map_mapM_id {β : Type} (f : α → β) : ∀ xs : List (Except Error α),
    (xs.mapM id).map (List.map f) = (xs.map (Except.map f)).mapM id
  | [] => rfl
  | x :: xs => by
    rw [List.mapM_cons, List.map_cons, List.mapM_cons, ← map_mapM_id f xs]
    cases x with
    | error e => rfl
    | ok a => cases xs.mapM id <;> rfl

/-- What is made of every item of a list has a property if the items have one that leads to it.

**Proof sketch.** By induction on the list: where the whole walk succeeds, its first step has, and
so has the walk over the rest. -/
theorem forall_mem_of_mapM_eq_ok {f : α → Except Error β} {P : α → Prop} {Q : β → Prop}
    (hf : ∀ a b, P a → f a = .ok b → Q b) : ∀ {xs : List α} {ys : List β}, (∀ a ∈ xs, P a) →
      xs.mapM f = .ok ys → ∀ b ∈ ys, Q b := by
  intro xs
  induction xs with
  | nil =>
    intro ys _ h
    cases h
    simp
  | cons a xs ih =>
    intro ys hall h
    obtain ⟨ha, hxs⟩ := List.forall_mem_cons.mp hall
    simp only [List.mapM_cons, bind_eq_ok, pure_eq_ok, Except.ok.injEq] at h
    obtain ⟨b, hb, rest, hrest, rfl⟩ := h
    exact List.forall_mem_cons.mpr ⟨hf a b ha hb, ih hxs hrest⟩

/-! ## Families of errors -/

namespace Error

/-- Whether an error is one of an operation on a value that does not admit it. -/
def isFault : Error → Bool
  | .wrongType | .wrongValue | .missingKey | .outOfRange | .missingAttribute | .overflow => true
  | _ => false

/-- Whether an error is one of the configuration: no executor, or no database of a name. -/
def isConfiguration : Error → Bool
  | .noExecutor .. | .unknownDatabase .. => true
  | _ => false

/-- A fault is no error of the configuration. -/
theorem isConfiguration_of_isFault {e : Error} (h : e.isFault = true) :
    e.isConfiguration = false := by
  cases e <;> first | rfl | cases h

end Error

/-- A computation fails with nothing but errors of a family. -/
def OnlyErrors (family : Error → Bool) (x : Except Error α) : Prop :=
  ∀ e, x = .error e → family e = true

/-- A computation fails with nothing but faults. -/
abbrev OnlyFaults (x : Except Error α) : Prop := OnlyErrors Error.isFault x

/-- A computation fails with no error of the configuration. -/
abbrev NoConfigurationError (x : Except Error α) : Prop :=
  OnlyErrors (fun e => !e.isConfiguration) x

section OnlyErrors

variable {family : Error → Bool}

@[simp] theorem onlyErrors_ok (a : α) : OnlyErrors family (.ok a) := by simp [OnlyErrors]

@[simp] theorem onlyErrors_pure (a : α) : OnlyErrors family (pure a) := onlyErrors_ok a

@[simp] theorem onlyErrors_error (e : Error) :
    OnlyErrors family (.error e : Except Error α) ↔ family e = true := by simp [OnlyErrors]

@[simp] theorem onlyErrors_throw (e : Error) :
    OnlyErrors family (throw e : Except Error α) ↔ family e = true := onlyErrors_error e

namespace OnlyErrors

/-- What fails with nothing but errors of a family does so with those of a larger one. -/
theorem mono {other : Error → Bool} (hx : OnlyErrors family x)
    (h : ∀ e, family e = true → other e = true) : OnlyErrors other x := fun e he => h e (hx e he)

/-- A sequence fails with nothing but errors of a family if its parts do. -/
theorem bind {f : α → Except Error β} (hx : OnlyErrors family x)
    (hf : ∀ a, OnlyErrors family (f a)) : OnlyErrors family (x >>= f) := by
  intro e he
  rcases bind_eq_error.mp he with h | ⟨a, -, h⟩
  · exact hx e h
  · exact hf a e h

/-- What is done with every item of a list fails with nothing but errors of a family if it does so
with each. -/
theorem mapM {f : α → Except Error β} (hf : ∀ a, OnlyErrors family (f a)) :
    ∀ xs : List α, OnlyErrors family (xs.mapM f)
  | [] => onlyErrors_pure _
  | a :: xs => by
    rw [List.mapM_cons]
    exact (hf a).bind fun b => (mapM hf xs).bind fun bs => onlyErrors_pure _

/-- What selects items of a list fails with nothing but errors of a family if it does so with each.
-/
theorem filterM {f : α → Except Error Bool} (hf : ∀ a, OnlyErrors family (f a)) (xs : List α) :
    OnlyErrors family (xs.filterM f) := by
  have haux : ∀ (xs kept : List α), OnlyErrors family (xs.filterAuxM f kept) := by
    intro xs
    induction xs with
    | nil => exact fun kept => onlyErrors_pure _
    | cons a xs ih => exact fun kept => (hf a).bind fun b => ih _
  exact (haux xs []).bind fun kept => onlyErrors_pure _

end OnlyErrors

/-- Faults are no errors of the configuration. -/
theorem OnlyFaults.noConfigurationError (h : OnlyFaults x) : NoConfigurationError x :=
  h.mono fun _ he => by simp [Error.isConfiguration_of_isFault he]

end OnlyErrors

end FluentSql
