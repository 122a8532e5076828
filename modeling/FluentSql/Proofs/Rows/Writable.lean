import FluentSql.Proofs.Rows.Seeding
import FluentSql.Proofs.Statement.Compiled
import FluentSql.Proofs.Value.Entries
import FluentSql.Session.Models

set_option autoImplicit false

/-!
# Attributes that may be written

A class lets the attributes be written that it names as fillable, or, if it names none, all that it
does not guard. The writable part of a mapping has no other keys, and depends on no others; and
putting it into a record leaves whatever stands under them.

## Main definitions

* `FluentSql.ModelClass.writes` — whether a class lets an attribute be written.
* `FluentSql.Fields.NamedBy` — the keys of a mapping are texts of some kind.

## Main results

* `FluentSql.ModelClass.namedBy_of_writable` — the keys of the writable part.
* `FluentSql.ModelClass.writable_congr` — what the writable part depends on.
* `FluentSql.Fields.get?_merge_of_namedBy` — what stands under other keys.
-/

namespace FluentSql

/-! ## Mappings with texts as keys -/

namespace Fields

/-- The keys of a mapping are texts of some kind. -/
def NamedBy (P : String → Prop) (fs : Fields) : Prop :=
  ∀ key ∈ fs.keys, ∃ name, key = .text name ∧ P name

/-- A mapping of names. -/
def named (entries : List (String × Value)) : Fields := entries.map fun e => (.text e.1, e.2)

variable {P Q : String → Prop} {fs others : Fields}

/-- The keys of a mapping of names are texts. -/
theorem namedBy_named (entries : List (String × Value)) :
    (named entries).NamedBy fun _ => True := by
  intro key hkey
  simp only [named, keys, List.map_map, List.mem_map] at hkey
  obtain ⟨entry, -, rfl⟩ := hkey
  exact ⟨entry.1, rfl, trivial⟩

/-- A mapping whose keys are names one after the other is one of names. -/
theorem namedBy_of_keys {names : List String} (h : fs.keys = names.map .text) :
    fs.NamedBy fun _ => True := by
  intro key hkey
  rw [h] at hkey
  obtain ⟨name, -, rfl⟩ := List.mem_map.mp hkey
  exact ⟨name, rfl, trivial⟩

theorem NamedBy.imp (h : fs.NamedBy P) (hPQ : ∀ name, P name → Q name) : fs.NamedBy Q := by
  intro key hkey
  obtain ⟨name, rfl, hname⟩ := h key hkey
  exact ⟨name, rfl, hPQ name hname⟩

theorem NamedBy.set (h : fs.NamedBy P) {name : String} (hname : P name) (v : Value) :
    (fs.set (.text name) v).NamedBy P := by
  intro key hkey
  rcases mem_keys_set hkey with hkey | rfl
  · exact h key hkey
  · exact ⟨name, rfl, hname⟩

theorem NamedBy.merge (h : fs.NamedBy P) (hothers : others.NamedBy P) :
    (fs.merge others).NamedBy P := by
  intro key hkey
  rcases mem_keys_merge hkey with hkey | hkey
  · exact h key hkey
  · exact hothers key hkey

/-- The keys of such a mapping, one after the other. -/
theorem NamedBy.exists_names (h : fs.NamedBy P) :
    ∃ names : List String, fs.keys = names.map .text ∧ ∀ name ∈ names, P name := by
  induction fs with
  | nil => exact ⟨[], rfl, by simp⟩
  | cons entry fs ih =>
    obtain ⟨⟨name, hkey, hname⟩, hrest⟩ := List.forall_mem_cons.mp h
    obtain ⟨names, hkeys, hnames⟩ := ih hrest
    refine ⟨name :: names, ?_, List.forall_mem_cons.mpr ⟨hname, hnames⟩⟩
    rw [List.map_cons, ← hkeys, ← hkey]
    rfl

/-- What is put under a name stands there. -/
theorem get?_set_text (fs : Fields) (name : String) (v : Value) :
    (fs.set (.text name) v).get? (.text name) = some v := by
  induction fs with
  | nil => simp [Fields.set, get?, Value.agrees_text]
  | cons entry fs ih =>
    rw [Fields.set]
    split
    · next hagrees => rw [get?_cons, if_pos hagrees]
    · next hagrees => rw [get?_cons, if_neg hagrees, ih]

/-- What stands under a name is not touched by a value that is put under another one. -/
theorem get?_set_text_of_ne {name other : String} (h : name ≠ other) (v : Value) :
    (fs.set (.text name) v).get? (.text other) = fs.get? (.text other) := by
  induction fs with
  | nil => simp [Fields.set, get?, Value.agrees_text, h]
  | cons entry fs ih =>
    obtain ⟨key, w⟩ := entry
    rw [Fields.set]
    split
    · next hagrees =>
      have hbare : key.bare = .text name := Value.bare_eq_text_of_same true key hagrees
      have hnot : key.agrees (.text other) = false := by
        rw [Bool.eq_false_iff]
        intro hother
        have hbare' : key.bare = .text other := Value.bare_eq_text_of_same true key hother
        exact h (Value.text.inj (hbare.symm.trans hbare'))
      simp [get?, hnot]
    · simp only [get?, List.find?_cons] at ih ⊢
      cases key.agrees (.text other) <;> simp [ih]

/-- What stands under a name is not touched by entries that are put under others. -/
theorem get?_merge_of_namedBy (hothers : others.NamedBy P) {name : String} (hname : ¬ P name)
    (fs : Fields) : (fs.merge others).get? (.text name) = fs.get? (.text name) := by
  induction others generalizing fs with
  | nil => rfl
  | cons entry others ih =>
    obtain ⟨⟨other, hkey, hother⟩, hrest⟩ := List.forall_mem_cons.mp hothers
    have hne : other ≠ name := by
      rintro rfl
      exact hname hother
    have hset := @get?_set_text_of_ne fs other name hne entry.2
    rw [← hkey] at hset
    exact (ih hrest (fs.set entry.1 entry.2)).trans hset

/-- An entry that is there is found. -/
theorem entry_of_has {name : String} (h : fs.has (.text name) = true) :
    fs.entry (.text name) = .ok (fs.value (.text name)) := by
  rw [has_eq_isSome_get?] at h
  obtain ⟨v, hv⟩ := Option.isSome_iff_exists.mp h
  rw [entry, value, hv]
  rfl

/-- What stands under a name is still there when other entries are left out. -/
theorem get?_filter_text {p : Value → Bool} {name : String} (hname : p (.text name) = true)
    (h : fs.NamedBy fun _ => True) :
    Fields.get? (fs.filter fun entry => p entry.1) (.text name) = fs.get? (.text name) := by
  induction fs with
  | nil => rfl
  | cons entry fs ih =>
    obtain ⟨key, v⟩ := entry
    obtain ⟨⟨other, rfl, -⟩, hrest⟩ := List.forall_mem_cons.mp h
    have ih := ih hrest
    rw [get?, get?] at ih ⊢
    rw [List.filter_cons]
    by_cases hsame : other = name
    · subst hsame
      simp [hname, Value.agrees_text]
    · cases hp : p (.text other) <;> simpa [Value.agrees_text, hsame] using ih

end Fields

/-! ## The writable part -/

/-- Checks that all pass keep what they find. -/
theorem filterM_eq_ok_filter {α : Type} {f : α → Except Error Bool} (p : α → Bool) {xs : List α}
    (h : ∀ x ∈ xs, f x = .ok (p x)) : xs.filterM f = .ok (xs.filter p) := by
  have haux : ∀ (xs kept : List α), (∀ x ∈ xs, f x = .ok (p x)) →
      xs.filterAuxM f kept = .ok ((xs.filter p).reverse ++ kept) := by
    intro xs
    induction xs with
    | nil => exact fun _ _ => rfl
    | cons x xs ih =>
      intro kept h
      obtain ⟨hx, hxs⟩ := List.forall_mem_cons.mp h
      rw [List.filterAuxM, hx, ok_bind, ih _ hxs, List.filter_cons]
      cases p x <;> simp
  rw [List.filterM, haux xs [] h, ok_bind, List.append_nil, List.reverse_reverse]
  rfl

namespace ModelClass

variable {c : ModelClass} {attributes others values : Fields}

/-- Whether a class lets an attribute be written: a fillable one, or, if none is fillable, one that
is not guarded. -/
def writes (c : ModelClass) (name : String) : Bool :=
  if c.fillable.isEmpty then !c.guarded.contains name else c.fillable.contains name

/-- Whether a key is an attribute that a class lets be written. -/
def admits (c : ModelClass) : Value → Bool
  | .text name => c.writes name
  | _ => false

/-- If no name is fillable, the writable part of a mapping of names is what is not guarded. -/
theorem writable_of_isEmpty (hempty : c.fillable.isEmpty = true)
    (hnamed : attributes.NamedBy fun _ => True) :
    c.writable (.map attributes) = .ok (attributes.filter fun p => c.admits p.1) := by
  have hguarded : ∀ name, (c.guarded.map Value.text).any (Value.text name).agrees =
      c.guarded.contains name := by
    intro name
    induction c.guarded with
    | nil => rfl
    | cons other guarded ih =>
      rw [List.map_cons, List.any_cons, ih, Value.agrees_text, List.contains_cons]
  have hkept : (attributes.filter fun p => !(c.guarded.map Value.text).any p.1.agrees) =
      attributes.filter fun p => c.admits p.1 := by
    refine List.filter_congr fun p hp => ?_
    obtain ⟨name, hname, -⟩ := hnamed p.1 (List.mem_map.mpr ⟨p, hp, rfl⟩)
    rw [hname, hguarded, admits, writes, hempty]
    rfl
  rw [writable, hempty, ← hkept]
  rfl

/-- If names are fillable, the writable part of a mapping is what it has under them. -/
theorem writable_of_not_isEmpty (hfillable : c.fillable.isEmpty = false) (attributes : Fields) :
    c.writable (.map attributes) = .ok (Fields.ofPairs
      ((c.fillable.filter fun name => attributes.has (.text name)).map fun name : String =>
        (.text name, attributes.value name))) := by
  have hfound : (c.fillable.map Value.text).filterM (Value.map attributes).contains =
      .ok ((c.fillable.filter fun name => attributes.has (.text name)).map .text) := by
    rw [filterM_eq_ok_filter attributes.has, List.filter_map]
    · rfl
    · intro key hkey
      obtain ⟨name, -, rfl⟩ := List.mem_map.mp hkey
      rfl
  have hpairs : ((c.fillable.filter fun name => attributes.has (.text name)).map Value.text).mapM
      (fun key => do return (key, ← (Value.map attributes).subscript key)) =
      .ok ((c.fillable.filter fun name => attributes.has (.text name)).map fun name : String =>
        ((.text name : Value), attributes.value name)) := by
    rw [List.mapM_map]
    refine mapM_eq_ok_map fun name hname => ?_
    have hentry : (Value.map attributes).subscript (.text name) =
        .ok (attributes.value name) := Fields.entry_of_has (List.mem_filter.mp hname).2
    rw [Function.comp_apply, hentry]
    rfl
  rw [writable, hfillable, hfound, ok_bind, if_neg Bool.false_ne_true, hpairs]
  rfl

/-- A mapping of names has a writable part. -/
theorem exists_writable (c : ModelClass) (hnamed : attributes.NamedBy fun _ => True) :
    ∃ values, c.writable (.map attributes) = .ok values := by
  cases hempty : c.fillable.isEmpty with
  | true => exact ⟨_, writable_of_isEmpty hempty hnamed⟩
  | false => exact ⟨_, writable_of_not_isEmpty hempty attributes⟩

/-- The keys of the writable part of a mapping of names are attributes that may be written.

**Proof sketch.** Where the class has a list of fillable attributes, the keys are names of that
list. Where it has none, they are the keys of the mapping that are not guarded. -/
theorem namedBy_of_writable (c : ModelClass) (hnamed : attributes.NamedBy fun _ => True)
    (h : c.writable (.map attributes) = .ok values) :
    values.NamedBy fun name => c.writes name = true := by
  cases hempty : c.fillable.isEmpty with
  | true =>
    rw [writable_of_isEmpty hempty hnamed] at h
    cases h
    intro key hkey
    obtain ⟨entry, hentry, rfl⟩ := List.mem_map.mp hkey
    obtain ⟨hmem, hadmits⟩ := List.mem_filter.mp hentry
    obtain ⟨name, hname, -⟩ := hnamed entry.1 (List.mem_map.mpr ⟨entry, hmem, rfl⟩)
    rw [hname] at hadmits
    exact ⟨name, hname, hadmits⟩
  | false =>
    rw [writable_of_not_isEmpty hempty] at h
    cases h
    refine Fields.NamedBy.merge (fun key hkey => by cases hkey) fun key hkey => ?_
    simp only [Fields.keys, List.map_map, List.mem_map] at hkey
    obtain ⟨name, hname, rfl⟩ := hkey
    refine ⟨name, rfl, ?_⟩
    rw [writes, hempty]
    exact List.contains_iff_mem.mpr (List.mem_filter.mp hname).1

/-- Attributes that may be written and are the same in two mappings of names make up the same
writable part: nothing of the others gets into it.

**Proof sketch.** With a list of fillable attributes each of them is looked up, and a look-up sees
only what may be written. Without one the writable part is just the filtered mapping. -/
theorem writable_congr (hnamed : attributes.NamedBy fun _ => True)
    (hothers : others.NamedBy fun _ => True)
    (h : attributes.filter (fun p => c.admits p.1) = others.filter fun p => c.admits p.1) :
    c.writable (.map attributes) = c.writable (.map others) := by
  cases hempty : c.fillable.isEmpty with
  | true => rw [writable_of_isEmpty hempty hnamed, writable_of_isEmpty hempty hothers, h]
  | false =>
    have hget : ∀ name ∈ c.fillable,
        attributes.get? (.text name) = others.get? (.text name) := by
      intro name hname
      have hadmits : c.admits (.text name) = true := by
        rw [admits, writes, hempty]
        exact List.contains_iff_mem.mpr hname
      rw [← Fields.get?_filter_text hadmits hnamed, h, Fields.get?_filter_text hadmits hothers]
    have hfound : (c.fillable.filter fun name => attributes.has (.text name)) =
        c.fillable.filter fun name => others.has (.text name) := by
      refine List.filter_congr fun name hname => ?_
      rw [Fields.has_eq_isSome_get?, Fields.has_eq_isSome_get?, hget name hname]
    rw [writable_of_not_isEmpty hempty, writable_of_not_isEmpty hempty, hfound]
    refine congrArg (fun pairs => Except.ok (Fields.ofPairs pairs)) ?_
    refine List.map_congr_left fun name hname => ?_
    rw [Fields.value, Fields.value, hget name (List.mem_filter.mp hname).1]

end ModelClass

end FluentSql
