import FluentSql.Proofs.Value.Equality
import Mathlib.Data.List.Find

set_option autoImplicit false

/-!
# Entries of a mapping

A mapping is looked into for the first entry whose key agrees with one that is asked for. Putting a
value in replaces that entry, or adds one at the end; so the last of several entries that are put in
is the one that stands.

## Main definitions

* `FluentSql.Fields.HashableKeys` — a mapping whose keys can be keys.

## Main results

* `FluentSql.Fields.get?_set` — a value that is put in.
* `FluentSql.Fields.get?_merge` — the last entry for a key decides, and without one what was there.
-/

namespace FluentSql

namespace Fields

/-- Every key of a mapping can be a key. -/
def HashableKeys (fs : Fields) : Prop := ∀ p ∈ fs, p.1.hashable = true

instance (fs : Fields) : Decidable fs.HashableKeys :=
  inferInstanceAs (Decidable (∀ p ∈ fs, p.1.hashable = true))

variable {fs others : Fields} {key other : Value}

/-! ## Looking up -/

/-- A key is present if something stands under it. -/
theorem has_eq_isSome_get? (fs : Fields) (key : Value) : fs.has key = (fs.get? key).isSome := by
  rw [has, get?, Option.isSome_map, Bool.eq_iff_iff, List.find?_isSome, List.any_eq_true]

/-- Something stands under a key that is present. -/
theorem exists_get?_of_has (h : fs.has key = true) : ∃ v, fs.get? key = some v :=
  Option.isSome_iff_exists.mp (has_eq_isSome_get? fs key ▸ h)

/-- Nothing stands under a key that is not. -/
theorem get?_of_has_eq_false (h : fs.has key = false) : fs.get? key = none := by
  rw [has_eq_isSome_get?] at h
  simpa using h

/-- What stands under a key is what an entry for it has. -/
theorem exists_mem_of_get?_eq_some {v : Value} (h : fs.get? key = some v) :
    ∃ p ∈ fs, p.1.agrees key = true ∧ p.2 = v := by
  obtain ⟨p, hp, rfl⟩ := Option.map_eq_some_iff.mp h
  exact ⟨p, List.mem_of_find?_eq_some hp, by simpa using List.find?_some hp, rfl⟩

theorem has_reverse (fs : Fields) (key : Value) : Fields.has fs.reverse key = fs.has key :=
  List.any_reverse

theorem get?_cons (p : Value × Value) (fs : Fields) (key : Value) :
    Fields.get? (p :: fs) key = if p.1.agrees key then some p.2 else fs.get? key := by
  rw [get?, get?, List.find?_cons]
  cases p.1.agrees key <;> rfl

theorem get?_append (fs others : Fields) (key : Value) :
    Fields.get? (fs ++ others) key = (fs.get? key).or (others.get? key) := by
  induction fs with
  | nil => rfl
  | cons p fs ih =>
    rw [List.cons_append, get?_cons, get?_cons, ih]
    cases p.1.agrees key <;> rfl

/-- Keys that agree stand for the same entry. -/
theorem get?_congr (hfs : fs.HashableKeys) (hkey : key.hashable = true)
    (hother : other.hashable = true) (h : key.agrees other = true) :
    fs.get? key = fs.get? other := by
  have hsame : ∀ p ∈ fs, p.1.agrees key = p.1.agrees other := by
    intro p hp
    have hproper := Value.wellKeyed_of_hashable _ (hfs p hp)
    have hkey' := Value.wellKeyed_of_hashable _ hkey
    have hother' := Value.wellKeyed_of_hashable _ hother
    rw [Value.agrees_comm hproper hkey', Value.agrees_comm hproper hother',
      Value.agrees_congr hkey' hother' h]
  rw [get?, get?, List.find?_congr hsame]

/-! ## Putting in -/

/-- A value that is put in stands under the keys that agree with its own, and nothing else changes.

**Proof sketch.** By induction on the entries. Agreement is an equivalence on proper keys, so an
entry that agrees with the new key agrees with the same keys as it does. -/
theorem get?_set (hfs : fs.HashableKeys) (hkey : key.hashable = true)
    (hother : other.hashable = true) (v : Value) :
    (fs.set key v).get? other = if key.agrees other then some v else fs.get? other := by
  have hproper : ∀ {k : Value}, k.hashable = true → k.wellKeyed = true :=
    fun hk => Value.wellKeyed_of_hashable _ hk
  induction fs with
  | nil => exact get?_cons (key, v) [] other
  | cons p fs ih =>
    obtain ⟨hp, hrest⟩ := List.forall_mem_cons.mp hfs
    have hsame : p.1.agrees key = true → key.agrees other = p.1.agrees other :=
      fun h => Value.agrees_congr (hproper hp) (hproper hkey) h other
    rw [set]
    split
    · next h =>
      rw [get?_cons, get?_cons, hsame h]
      cases p.1.agrees other <;> rfl
    · next h =>
      rw [get?_cons, get?_cons, ih hrest]
      cases hother' : p.1.agrees other with
      | false => rfl
      | true =>
        have hnot : key.agrees other = false := by
          refine Bool.eq_false_iff.mpr fun hagrees => h ?_
          rw [← Value.agrees_congr (hproper hp) (hproper hother) hother',
            Value.agrees_comm (hproper hother) (hproper hkey), hagrees]
        rw [hnot]
        rfl

theorem HashableKeys.set (h : fs.HashableKeys) (hkey : key.hashable = true) (v : Value) :
    (fs.set key v).HashableKeys := by
  induction fs with
  | nil => simpa [Fields.set, HashableKeys] using hkey
  | cons p fs ih =>
    obtain ⟨hp, hrest⟩ := List.forall_mem_cons.mp h
    rw [Fields.set]
    split
    · exact List.forall_mem_cons.mpr ⟨hp, hrest⟩
    · exact List.forall_mem_cons.mpr ⟨hp, ih hrest⟩

theorem HashableKeys.merge (h : fs.HashableKeys) (hothers : others.HashableKeys) :
    (fs.merge others).HashableKeys := by
  induction others generalizing fs with
  | nil => exact h
  | cons p others ih =>
    obtain ⟨hp, hrest⟩ := List.forall_mem_cons.mp hothers
    exact ih (h.set hp p.2) hrest

/-- Of the entries that are put in the last one decides that is for a key, and without one there
stands what there was.

**Proof sketch.** By induction on the entries that are put in, by `get?_set` for the first of them.
Those after it come before it in the reversed list, and so take precedence. -/
theorem get?_merge (hfs : fs.HashableKeys) (hothers : others.HashableKeys)
    (hkey : key.hashable = true) :
    (fs.merge others).get? key = (Fields.get? others.reverse key).or (fs.get? key) := by
  induction others generalizing fs with
  | nil => rfl
  | cons p others ih =>
    obtain ⟨hp, hrest⟩ := List.forall_mem_cons.mp hothers
    have hmerge : fs.merge (p :: others) = (fs.set p.1 p.2).merge others := rfl
    rw [hmerge, ih (hfs.set hp p.2) hrest, get?_set hfs hp hkey, List.reverse_cons, get?_append,
      get?_cons, Option.or_assoc]
    cases p.1.agrees key <;> rfl

end Fields

end FluentSql
