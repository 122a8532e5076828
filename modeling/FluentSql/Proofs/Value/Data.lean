import FluentSql.Descriptor.Record
import FluentSql.Proofs.Failure
import FluentSql.Value.Access

set_option autoImplicit false

/-!
# Plain data

A value is plain data if it is made of null, truth values, numbers, texts, octets and moments by
lists, tuples and mappings alone. Written plainly it is the value itself, and what is taken out of
it is plain data again: its items, the mapping that it gives rise to.

## Main definitions

* `FluentSql.Value.isData`, `FluentSql.Value.IsData` — a value is plain data.

## Main results

* `FluentSql.Value.IsData.plain_eq` — plain data is written plainly as it is.
* `FluentSql.Value.IsData.items`, `FluentSql.Value.IsData.toFields` — what is taken out of it.
-/

namespace FluentSql

mutual

/-- Whether a value is plain data. -/
def Value.isData : Value → Bool
  | .null | .bool _ | .int _ | .float _ | .nan _ | .text _ | .bytes _ | .moment _ => true
  | .list xs | .tuple xs => areData xs
  | .map fs => fieldsAreData fs
  | _ => false

/-- Whether items are plain data. -/
def areData : List Value → Bool
  | [] => true
  | x :: xs => x.isData && areData xs

/-- Whether entries are plain data, and their keys are such as a mapping has. -/
def fieldsAreData : List (Value × Value) → Bool
  | [] => true
  | (key, x) :: rest => key.isData && key.hashable && x.isData && fieldsAreData rest

end

namespace Value

/-- A value is plain data. -/
def IsData (v : Value) : Prop := v.isData = true

instance (v : Value) : Decidable v.IsData := inferInstanceAs (Decidable (v.isData = true))

@[simp] theorem isData_null : null.IsData := rfl

@[simp] theorem isData_int (n : Int) : (int n).IsData := rfl

@[simp] theorem isData_text (s : String) : (text s).IsData := rfl

end Value

/-- Items are plain data if each of them is. -/
theorem areData_eq_true {xs : List Value} : areData xs = true ↔ ∀ x ∈ xs, x.IsData := by
  induction xs with
  | nil => simp [areData]
  | cons x xs ih => simp [areData, ih, Value.IsData]

/-- Every key and every value of a mapping is plain data, and every key is such as a mapping has. -/
def Fields.AreData (fs : Fields) : Prop :=
  ∀ p ∈ fs, p.1.IsData ∧ p.1.hashable = true ∧ p.2.IsData

/-- Entries are plain data if each of them is. -/
theorem fieldsAreData_eq_true {fs : Fields} : fieldsAreData fs = true ↔ fs.AreData := by
  induction fs with
  | nil => simp [fieldsAreData, Fields.AreData]
  | cons p fs ih =>
    obtain ⟨key, x⟩ := p
    rw [Fields.AreData, List.forall_mem_cons, ← Fields.AreData, ← ih]
    simp only [fieldsAreData, Bool.and_eq_true, Value.IsData, and_assoc]

namespace Value

@[simp] theorem isData_list {xs : List Value} : (list xs).IsData ↔ ∀ x ∈ xs, x.IsData :=
  areData_eq_true

@[simp] theorem isData_tuple {xs : List Value} : (tuple xs).IsData ↔ ∀ x ∈ xs, x.IsData :=
  areData_eq_true

@[simp] theorem isData_map {fs : Fields} : (map fs).IsData ↔ fs.AreData := fieldsAreData_eq_true

/-- The first value if it counts as true, else the second. -/
theorem IsData.orElse {v w : Value} (hv : v.IsData) (hw : w.IsData) : (v.orElse w).IsData := by
  rw [Value.orElse]
  split
  · exact hv
  · exact hw

end Value

/-! ## Written plainly -/

mutual

/-- Plain data is written plainly as it is. -/
theorem Value.plain_of_isData : (v : Value) → v.isData = true → v.plain = v
  | .list xs, h => by rw [Value.plain, plainItems_of_areData xs h]
  | .tuple xs, h => by rw [Value.plain, plainItems_of_areData xs h]
  | .map fs, h => by rw [Value.plain, plainFields_of_fieldsAreData fs h]
  | .null, _ | .bool _, _ | .int _, _ | .float _, _ | .nan _, _ | .text _, _ | .bytes _, _
  | .moment _, _ => rfl

/-- Items that are plain data are written plainly as they are. -/
theorem plainItems_of_areData : (xs : List Value) → areData xs = true → plainItems xs = xs
  | [], _ => rfl
  | x :: xs, h => by
    obtain ⟨hx, hxs⟩ := Bool.and_eq_true_iff.mp h
    rw [plainItems, x.plain_of_isData hx, plainItems_of_areData xs hxs]

/-- Entries that are plain data are written plainly as they are. -/
theorem plainFields_of_fieldsAreData :
    (fs : List (Value × Value)) → fieldsAreData fs = true → plainFields fs = fs
  | [], _ => rfl
  | (key, x) :: rest, h => by
    obtain ⟨hentry, hrest⟩ := Bool.and_eq_true_iff.mp h
    obtain ⟨-, hx⟩ := Bool.and_eq_true_iff.mp hentry
    rw [plainFields, x.plain_of_isData hx, plainFields_of_fieldsAreData rest hrest]

end

mutual

/-- The keys in plain data are still keys when they are written plainly. -/
theorem Value.hasPlainKeys_of_isData : (v : Value) → v.isData = true → v.hasPlainKeys = true
  | .list xs, h => havePlainKeys_of_areData xs h
  | .tuple xs, h => havePlainKeys_of_areData xs h
  | .map fs, h => fieldsHavePlainKeys_of_fieldsAreData fs h
  | .null, _ | .bool _, _ | .int _, _ | .float _, _ | .nan _, _ | .text _, _ | .bytes _, _
  | .moment _, _ => rfl

/-- The keys in items that are plain data are still keys when they are written plainly. -/
theorem havePlainKeys_of_areData : (xs : List Value) → areData xs = true → havePlainKeys xs = true
  | [], _ => rfl
  | x :: xs, h => by
    obtain ⟨hx, hxs⟩ := Bool.and_eq_true_iff.mp h
    rw [havePlainKeys, x.hasPlainKeys_of_isData hx, havePlainKeys_of_areData xs hxs, Bool.and_self]

/-- The keys of entries that are plain data are still keys when they are written plainly. -/
theorem fieldsHavePlainKeys_of_fieldsAreData :
    (fs : List (Value × Value)) → fieldsAreData fs = true → fieldsHavePlainKeys fs = true
  | [], _ => rfl
  | (key, x) :: rest, h => by
    obtain ⟨hentry, hrest⟩ := Bool.and_eq_true_iff.mp h
    obtain ⟨hkeys, hx⟩ := Bool.and_eq_true_iff.mp hentry
    obtain ⟨hkey, hhashable⟩ := Bool.and_eq_true_iff.mp hkeys
    rw [fieldsHavePlainKeys, key.plain_of_isData hkey, hhashable, x.hasPlainKeys_of_isData hx,
      fieldsHavePlainKeys_of_fieldsAreData rest hrest, Bool.and_self, Bool.and_self]

end

namespace Value

variable {v : Value}

/-- Plain data is written plainly as it is. -/
theorem IsData.plain_eq (h : v.IsData) : v.plain = v := v.plain_of_isData h

end Value

/-! ## Taken out of plain data -/

namespace Fields

/-- A value that is plain data under such a key leaves a mapping plain data. -/
theorem AreData.set {fs : Fields} (h : fs.AreData) {key v : Value} (hkey : key.IsData)
    (hhashable : key.hashable = true) (hv : v.IsData) : (fs.set key v).AreData := by
  induction fs with
  | nil =>
    intro p hp
    rw [List.mem_singleton.mp hp]
    exact ⟨hkey, hhashable, hv⟩
  | cons entry rest ih =>
    obtain ⟨other, w⟩ := entry
    obtain ⟨⟨hother, hkeyed, hw⟩, hrest⟩ := List.forall_mem_cons.mp h
    rw [Fields.set]
    split
    · exact List.forall_mem_cons.mpr ⟨⟨hother, hkeyed, hv⟩, hrest⟩
    · exact List.forall_mem_cons.mpr ⟨⟨hother, hkeyed, hw⟩, ih hrest⟩

/-- Mappings that are plain data are plain data put together. -/
theorem AreData.merge {fs others : Fields} (h : fs.AreData) (hothers : others.AreData) :
    (fs.merge others).AreData := by
  induction others generalizing fs with
  | nil => exact h
  | cons p others ih =>
    obtain ⟨⟨hkey, hhashable, hv⟩, hrest⟩ := List.forall_mem_cons.mp hothers
    exact ih (h.set hkey hhashable hv) hrest

end Fields

namespace Value

variable {v : Value}

/-- The items of plain data are plain data: the characters of a text, the octets of bytes, the
members of a sequence and the keys of a mapping. -/
theorem IsData.items (h : v.IsData) {xs : List Value} (hxs : v.items = .ok xs) :
    ∀ x ∈ xs, x.IsData := by
  cases v with
  | text s =>
    cases hxs
    intro x hx
    obtain ⟨c, -, rfl⟩ := List.mem_map.mp hx
    exact isData_text _
  | list items | tuple items =>
    cases hxs
    exact areData_eq_true.mp h
  | map fs =>
    cases hxs
    intro x hx
    obtain ⟨p, hp, rfl⟩ := List.mem_map.mp hx
    exact (isData_map.mp h p hp).1
  | bytes octets =>
    cases hxs
    intro x hx
    obtain ⟨b, -, rfl⟩ := List.mem_map.mp hx
    exact isData_int _
  | null | bool _ | int _ | float _ | nan _ | moment _ => cases hxs
  | _ => cases h

/-- The items of plain data, or the one text that it is, are plain data. -/
theorem IsData.oneOrMany (h : v.IsData) {xs : List Value} (hxs : v.oneOrMany = .ok xs) :
    ∀ x ∈ xs, x.IsData := by
  rw [Value.oneOrMany.eq_def] at hxs
  split at hxs
  · cases hxs
    simp
  · exact h.items hxs

/-- The parts of a pair in plain data are plain data. -/
theorem IsData.pair (h : v.IsData) {low high : Value} (hpair : v.pair = .ok (low, high)) :
    low.IsData ∧ high.IsData := by
  obtain ⟨xs, hxs, hparts⟩ := bind_eq_ok.mp hpair
  have hall := h.items hxs
  split at hparts
  · cases hparts
    simpa using hall
  · cases hparts

/-- The entry that plain data spells is plain data. -/
theorem IsData.entry (h : v.IsData) {key w : Value} (hentry : v.entry = .ok (key, w)) :
    key.IsData ∧ key.hashable = true ∧ w.IsData := by
  obtain ⟨⟨k, u⟩, hpair, hentry⟩ := bind_eq_ok.mp hentry
  obtain ⟨hkey, hw⟩ := h.pair hpair
  dsimp only at hentry
  split at hentry
  · next hhashable =>
    cases hentry
    exact ⟨hkey, hhashable, hw⟩
  · cases hentry

/-- The mapping that plain data gives rise to is plain data. -/
theorem IsData.toFields (h : v.IsData) {fs : Fields} (hfs : v.toFields = .ok fs) :
    fs.AreData := by
  rw [Value.toFields.eq_def] at hfs
  split at hfs
  · cases hfs
    exact isData_map.mp h
  · obtain ⟨xs, hxs, hmerged⟩ := bind_eq_ok.mp hfs
    obtain ⟨ps, hps, hofPairs⟩ := bind_eq_ok.mp hmerged
    cases hofPairs
    have hpairs : Fields.AreData ps := forall_mem_of_mapM_eq_ok
      (fun x p hx hp => IsData.entry hx hp) (h.items hxs) hps
    exact Fields.AreData.merge (by simp [Fields.AreData]) hpairs

end Value

end FluentSql
