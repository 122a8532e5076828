import FluentSql.Value.Fields
import Mathlib.Data.Fintype.EquivFin

set_option autoImplicit false

/-!
# Equality as an equivalence

Equality of values is symmetric and transitive, and so is agreement, as long as every mapping inside
has one entry for each key. Values that are equal to themselves are then told apart by it like the
members of an equivalence; what is not a number is equal to nothing.

## Main definitions

* `FluentSql.Value.wellKeyed` — mappings inside a value have one entry for each key.
* `FluentSql.Value.isView` — whether a value is a view.
* `FluentSql.Value.Comparable` — equality with a value is symmetric, and passes on to what is equal.

## Main results

* `FluentSql.Value.comparable` — values with proper keys are comparable.
* `FluentSql.Value.equal_comm`, `FluentSql.Value.equal_congr`, `FluentSql.Value.agrees_comm`,
  `FluentSql.Value.agrees_congr` — the laws.
-/

namespace FluentSql

/-! ## Proper keys -/

mutual

/-- Whether nothing in a value is a view, and every key of a mapping in it agrees with itself and
with no other key of the mapping. -/
def Value.wellKeyed : Value → Bool
  | .list xs | .tuple xs | .statement _ xs => wellKeyedItems xs
  | .map fs | .object fs | .record _ fs => wellKeyedFields fs
  | .writeResult changes lastId => changes.wellKeyed && lastId.wellKeyed
  | .queryResult data affected lastId =>
    data.wellKeyed && affected.wellKeyed && lastId.wellKeyed
  | .view .. => false
  | _ => true

/-- Whether all items have proper keys. -/
def wellKeyedItems : List Value → Bool
  | [] => true
  | x :: xs => x.wellKeyed && wellKeyedItems xs

/-- Whether all entries have proper keys, and their own keys are proper. -/
def wellKeyedFields : List (Value × Value) → Bool
  | [] => true
  | (key, x) :: rest =>
    (key.wellKeyed && x.wellKeyed && key.agrees key) && (rest.all fun p => !key.agrees p.1) &&
      wellKeyedFields rest

end

/-- Items have proper keys just if each of them has. -/
theorem wellKeyedItems_iff {xs : List Value} :
    wellKeyedItems xs = true ↔ ∀ x ∈ xs, x.wellKeyed = true := by
  induction xs with
  | nil => simp [wellKeyedItems]
  | cons x xs ih => simp [wellKeyedItems, ih]

namespace Fields

/-- Every key and every value of a mapping has proper keys, and the keys agree with themselves. -/
def Keyed (fs : Fields) : Prop :=
  ∀ p ∈ fs, p.1.wellKeyed = true ∧ p.2.wellKeyed = true ∧ p.1.agrees p.1 = true

instance (fs : Fields) : Decidable fs.Keyed :=
  inferInstanceAs (Decidable (∀ p ∈ fs, _ ∧ _ ∧ _))

/-- No key of a mapping agrees with a later one. -/
def Distinct (fs : Fields) : Prop := fs.Pairwise fun p q => p.1.agrees q.1 = false

instance (fs : Fields) : Decidable fs.Distinct :=
  inferInstanceAs (Decidable (List.Pairwise _ fs))

end Fields

/-- A mapping has proper keys just if its parts have and its own are proper. -/
theorem wellKeyedFields_iff {fs : Fields} :
    wellKeyedFields fs = true ↔ fs.Keyed ∧ fs.Distinct := by
  induction fs with
  | nil => simp [wellKeyedFields, Fields.Keyed, Fields.Distinct]
  | cons p fs ih =>
    obtain ⟨key, x⟩ := p
    simp only [wellKeyedFields, Bool.and_eq_true, List.all_eq_true, Bool.not_eq_true', ih,
      Fields.Keyed, Fields.Distinct, List.forall_mem_cons, List.pairwise_cons]
    constructor
    · rintro ⟨⟨⟨⟨hkey, hx⟩, hself⟩, hothers⟩, hkeyed, hdistinct⟩
      exact ⟨⟨⟨hkey, hx, hself⟩, hkeyed⟩, hothers, hdistinct⟩
    · rintro ⟨⟨⟨hkey, hx, hself⟩, hkeyed⟩, hothers, hdistinct⟩
      exact ⟨⟨⟨⟨hkey, hx⟩, hself⟩, hothers⟩, hkeyed, hdistinct⟩

namespace Value

/-! ## Views -/

/-- Whether a value is a view. -/
def isView : Value → Bool
  | .view .. => true
  | _ => false

/-- What a view shows is no view. -/
theorem isView_bare : ∀ v : Value, v.bare.isView = false
  | .view _ seen => isView_bare seen
  | .null | .bool _ | .int _ | .float _ | .nan _ | .text _ | .list _ | .tuple _ | .map _ | .bytes _
  | .moment _ | .writeResult .. | .queryResult .. | .object _ | .raw _ | .statement ..
  | .builder .. | .record .. | .again | .function .. => rfl

/-- A value with proper keys is no view. -/
theorem isView_of_wellKeyed {v : Value} (h : v.wellKeyed = true) : v.isView = false := by
  cases v with
  | view _ _ => cases h
  | _ => rfl

/-- What is no view is all that there is of it. -/
theorem bare_eq_of_isView {v : Value} (h : v.isView = false) : v.bare = v := by
  cases v with
  | view _ _ => cases h
  | _ => rfl

/-- What a value with proper keys shows is itself. -/
theorem bare_eq_of_wellKeyed {v : Value} (h : v.wellKeyed = true) : v.bare = v :=
  bare_eq_of_isView (isView_of_wellKeyed h)

/-- What a view shows shows itself. -/
@[simp] theorem bare_bare (v : Value) : v.bare.bare = v.bare := bare_eq_of_isView (isView_bare v)

/-- A view is equal to the same values as what it shows. -/
theorem same_bare (v : Value) (marked : Bool) (u : Value) :
    v.same marked u.bare = v.same marked u := by
  unfold same
  rw [bare_bare]

/-! ## Comparable values -/

/-- Equality with a value is symmetric, and what is equal to it compares like it with everything. -/
structure Comparable (v : Value) : Prop where
  comm : ∀ (marked : Bool) (w : Value), w.wellKeyed = true →
    v.same marked w = w.same marked v
  congr : ∀ (marked : Bool) (w : Value), w.wellKeyed = true → v.same marked w = true →
    ∀ u, w.same marked u = v.same marked u

/-- Whatever is equal passes its equality with views on if it does so with what they show. -/
theorem Comparable.of_isView {v : Value}
    (hcomm : ∀ (marked : Bool) (w : Value), w.wellKeyed = true →
      v.same marked w = w.same marked v)
    (hcongr : ∀ (marked : Bool) (w : Value), w.wellKeyed = true → v.same marked w = true →
      ∀ u : Value, u.isView = false → w.same marked u = v.same marked u) : v.Comparable where
  comm := hcomm
  congr marked w hw hsame u := by
    rw [← same_bare w, ← same_bare v]
    exact hcongr marked w hw hsame u.bare (isView_bare u)

end Value

/-! ## Lists of values -/

section Items

variable {xs : List Value}

theorem sameItems_comm (h : ∀ x ∈ xs, x.Comparable) {ys : List Value}
    (hys : ∀ y ∈ ys, y.wellKeyed = true) :
    Value.sameItems xs ys = Value.sameItems ys xs := by
  induction xs generalizing ys with
  | nil => cases ys <;> rfl
  | cons x xs ih =>
    obtain ⟨hx, hxs⟩ := List.forall_mem_cons.mp h
    cases ys with
    | nil => rfl
    | cons y ys =>
      obtain ⟨hy, hys⟩ := List.forall_mem_cons.mp hys
      rw [Value.sameItems, Value.sameItems, hx.comm true y hy, ih hxs hys]

theorem sameItems_congr (h : ∀ x ∈ xs, x.Comparable) {ys : List Value}
    (hys : ∀ y ∈ ys, y.wellKeyed = true) (hsame : Value.sameItems xs ys = true) (zs : List Value) :
    Value.sameItems ys zs = Value.sameItems xs zs := by
  induction xs generalizing ys zs with
  | nil =>
    cases ys with
    | nil => rfl
    | cons y ys => cases hsame
  | cons x xs ih =>
    obtain ⟨hx, hxs⟩ := List.forall_mem_cons.mp h
    cases ys with
    | nil => cases hsame
    | cons y ys =>
      obtain ⟨hy, hys⟩ := List.forall_mem_cons.mp hys
      obtain ⟨hxy, hsame⟩ := Bool.and_eq_true_iff.mp (Value.sameItems.eq_2 x xs y ys ▸ hsame)
      cases zs with
      | nil => rfl
      | cons z zs =>
        rw [Value.sameItems, Value.sameItems, hx.congr true y hy hxy, ih hxs hys hsame]

end Items

/-! ## Mappings -/

/-- Where each of some items has one of its own among as many others, none of the others is left
over. -/
theorem exists_of_forall_exists {α β : Type} {R : α → β → Prop} {xs : List α} {ys : List β}
    (hlength : xs.length = ys.length) (hsome : ∀ x ∈ xs, ∃ y ∈ ys, R x y)
    (hown : ∀ y ∈ ys, xs.Pairwise fun a b => R a y → ¬ R b y) :
    ∀ y ∈ ys, ∃ x ∈ xs, R x y := by
  have hindex : ∀ i : Fin xs.length, ∃ j : Fin ys.length, R xs[i] ys[j] := by
    intro i
    obtain ⟨y, hy, hR⟩ := hsome xs[i] (List.getElem_mem i.2)
    obtain ⟨j, hj, rfl⟩ := List.getElem_of_mem hy
    exact ⟨⟨j, hj⟩, hR⟩
  choose f hf using hindex
  have hinjective : Function.Injective f := by
    intro i j hij
    by_contra hne
    have hapart : ∀ i j : Fin xs.length, f i = f j → ¬ i < j := by
      intro i j hij hlt
      have hpair := List.pairwise_iff_getElem.mp (hown ys[f i] (List.getElem_mem (f i).2)) i j i.2
        j.2 hlt
      refine hpair (hf i) ?_
      simp only [hij]
      exact hf j
    rcases lt_or_gt_of_ne hne with hlt | hlt
    · exact hapart i j hij hlt
    · exact hapart j i hij.symm hlt
  have hbijective := (Fintype.bijective_iff_injective_and_card f).mpr
    ⟨hinjective, by rw [Fintype.card_fin, Fintype.card_fin, hlength]⟩
  intro y hy
  obtain ⟨j, hj, rfl⟩ := List.getElem_of_mem hy
  obtain ⟨i, hi⟩ := hbijective.2 ⟨j, hj⟩
  refine ⟨xs[i], List.getElem_mem i.2, ?_⟩
  have hR := hf i
  rw [hi] at hR
  exact hR

section Entries

variable {xs ys : Fields}

/-- Every entry of a mapping has one in another that agrees with it just if what is found there
under its key agrees with its value. -/
theorem sameFields_eq_true_iff :
    Value.sameFields xs ys = true ↔
      ∀ p ∈ xs, ∃ q, ys.find? (fun q => p.1.agrees q.1) = some q ∧ p.2.agrees q.2 = true := by
  induction xs with
  | nil => simp [Value.sameFields]
  | cons p xs ih =>
    obtain ⟨key, x⟩ := p
    rw [Value.sameFields, Bool.and_eq_true, ih, List.forall_mem_cons]
    refine and_congr_left fun _ => ?_
    have hfind : (ys.find? fun q => key.same true q.1) = ys.find? fun q => key.agrees q.1 := rfl
    rw [hfind]
    cases ys.find? fun q => key.agrees q.1 <;> simp [Value.agrees]

/-- Every key and every value of a mapping is comparable. -/
def Fields.Comparable (fs : Fields) : Prop := ∀ p ∈ fs, p.1.Comparable ∧ p.2.Comparable

/-- Entries whose keys agree, and whose values do. -/
def Alike (p q : Value × Value) : Prop := p.1.agrees q.1 = true ∧ p.2.agrees q.2 = true

/-- What is found by a test that no two items pass is the item that passes it. -/
theorem find?_eq_some_of_pairwise {α : Type} {test : α → Bool} {xs : List α}
    (hapart : xs.Pairwise fun a b => test a = true → ¬ test b = true) {x : α} (hx : x ∈ xs)
    (htest : test x = true) : xs.find? test = some x := by
  induction xs with
  | nil => cases hx
  | cons y xs ih =>
    obtain ⟨hfirst, hrest⟩ := List.pairwise_cons.mp hapart
    rcases List.mem_cons.mp hx with rfl | hx
    · exact List.find?_cons_of_pos htest
    · rw [List.find?_cons_of_neg fun hy => hfirst x hx hy htest]
      exact ih hrest hx

variable (hxs : xs.Comparable) (hys : ys.Keyed)
include hxs hys

/-- No two keys of a mapping agree with one key. -/
theorem pairwise_not_agrees (hdistinct : xs.Distinct) {q : Value × Value} (hq : q ∈ ys) :
    xs.Pairwise fun a b => a.1.agrees q.1 = true → ¬ b.1.agrees q.1 = true := by
  refine List.Pairwise.imp_of_mem (fun {a b} ha hb hab haq hbq => ?_) hdistinct
  have hb' : q.1.agrees b.1 = true := by
    rw [Value.agrees, ← (hxs b hb).1.comm true q.1 (hys q hq).1]
    exact hbq
  have hcongr : q.1.agrees b.1 = a.1.agrees b.1 :=
    (hxs a ha).1.congr true q.1 (hys q hq).1 haq b.1
  rw [hab, hb'] at hcongr
  cases hcongr

/-- A key agrees with no two keys of a mapping. -/
theorem pairwise_agrees_not (hdistinct : ys.Distinct) {p : Value × Value} (hp : p ∈ xs) :
    ys.Pairwise fun a b => p.1.agrees a.1 = true → ¬ p.1.agrees b.1 = true := by
  refine List.Pairwise.imp_of_mem (fun {a b} ha hb hab hpa hpb => ?_) hdistinct
  have hcongr : a.1.agrees b.1 = p.1.agrees b.1 := (hxs p hp).1.congr true a.1 (hys a ha).1 hpa b.1
  rw [hab, hpb] at hcongr
  cases hcongr

/-- Comparable entries are all found in a mapping just if each has an entry there that is like it.
-/
theorem sameFields_iff (hdistinct : ys.Distinct) :
    Value.sameFields xs ys = true ↔ ∀ p ∈ xs, ∃ q ∈ ys, Alike p q := by
  rw [sameFields_eq_true_iff]
  refine forall₂_congr fun p hp => ⟨?_, ?_⟩
  · rintro ⟨q, hfound, hvalue⟩
    exact ⟨q, List.mem_of_find?_eq_some hfound, by simpa using List.find?_some hfound, hvalue⟩
  · rintro ⟨q, hq, hkey, hvalue⟩
    exact ⟨q, find?_eq_some_of_pairwise (pairwise_agrees_not hxs hys hdistinct hp) hq hkey, hvalue⟩

/-- Entries are all found in a mapping of comparable ones just if each has an entry there that is
like it. -/
theorem sameFields_iff_of_comparable (hdistinct : xs.Distinct) :
    Value.sameFields ys xs = true ↔ ∀ q ∈ ys, ∃ p ∈ xs, Alike p q := by
  rw [sameFields_eq_true_iff]
  refine forall₂_congr fun q hq => ?_
  have hkeys : ∀ p ∈ xs, q.1.agrees p.1 = p.1.agrees q.1 := fun p hp =>
    ((hxs p hp).1.comm true q.1 (hys q hq).1).symm
  have hvalues : ∀ p ∈ xs, q.2.agrees p.2 = p.2.agrees q.2 := fun p hp =>
    ((hxs p hp).2.comm true q.2 (hys q hq).2.1).symm
  constructor
  · rintro ⟨p, hfound, hvalue⟩
    have hp := List.mem_of_find?_eq_some hfound
    have hkey : q.1.agrees p.1 = true := by simpa using List.find?_some hfound
    exact ⟨p, hp, hkeys p hp ▸ hkey, hvalues p hp ▸ hvalue⟩
  · rintro ⟨p, hp, hkey, hvalue⟩
    refine ⟨p, find?_eq_some_of_pairwise ?_ hp (hkeys p hp ▸ hkey), hvalues p hp ▸ hvalue⟩
    refine List.Pairwise.imp_of_mem (fun {a b} ha hb hab => ?_)
      (pairwise_not_agrees hxs hys hdistinct hq)
    rw [hkeys a ha, hkeys b hb]
    exact hab

/-- Of two mappings of one size with proper keys, each has all entries of the other or neither has.
-/
theorem sameFields_comm (hdistinct : xs.Distinct) (hdistinct' : ys.Distinct)
    (hlength : xs.length = ys.length) : Value.sameFields xs ys = Value.sameFields ys xs := by
  rw [Bool.eq_iff_iff, sameFields_iff hxs hys hdistinct',
    sameFields_iff_of_comparable hxs hys hdistinct]
  constructor
  · intro hsome
    refine exists_of_forall_exists hlength hsome fun q hq => ?_
    exact (pairwise_not_agrees hxs hys hdistinct hq).imp fun hab ha hb => hab ha.1 hb.1
  · intro hsome
    refine exists_of_forall_exists (R := fun q p => Alike p q) hlength.symm hsome fun p hp => ?_
    exact (pairwise_agrees_not hxs hys hdistinct' hp).imp fun hab ha hb => hab ha.1 hb.1

/-- Mappings of one size with proper keys that have the same entries have them in common with every
other mapping. -/
theorem sameFields_congr (hdistinct : xs.Distinct) (hdistinct' : ys.Distinct)
    (hlength : xs.length = ys.length) (hsame : Value.sameFields xs ys = true) (zs : Fields) :
    Value.sameFields ys zs = Value.sameFields xs zs := by
  have hforth := (sameFields_iff hxs hys hdistinct').mp hsame
  have hback := (sameFields_iff_of_comparable hxs hys hdistinct).mp
    (sameFields_comm hxs hys hdistinct hdistinct' hlength ▸ hsame)
  -- Entries that are alike find the same entry, whose value then agrees with either or neither.
  have halike : ∀ p ∈ xs, ∀ q ∈ ys, Alike p q →
      ((∃ r, zs.find? (fun r => q.1.agrees r.1) = some r ∧ q.2.agrees r.2 = true) ↔
        ∃ r, zs.find? (fun r => p.1.agrees r.1) = some r ∧ p.2.agrees r.2 = true) := by
    rintro p hp q hq ⟨hkey, hvalue⟩
    have hkeys : ∀ u, q.1.agrees u = p.1.agrees u :=
      (hxs p hp).1.congr true q.1 (hys q hq).1 hkey
    have hvalues : ∀ u, q.2.agrees u = p.2.agrees u :=
      (hxs p hp).2.congr true q.2 (hys q hq).2.1 hvalue
    simp only [hkeys, hvalues]
  rw [Bool.eq_iff_iff, sameFields_eq_true_iff, sameFields_eq_true_iff]
  constructor
  · intro h p hp
    obtain ⟨q, hq, hpq⟩ := hforth p hp
    exact (halike p hp q hq hpq).mp (h q hq)
  · intro h q hq
    obtain ⟨p, hp, hpq⟩ := hback q hq
    exact (halike p hp q hq hpq).mpr (h p hp)

end Entries

/-! ## All values -/

/-- Numeric equality is symmetric. -/
theorem Scaled.same_comm (a b : Scaled) : a.same b = b.same a := by
  cases a <;> cases b <;> simp only [same] <;> exact Bool.beq_comm

/-- Numbers that are equal are the same extended real. -/
theorem Scaled.eq_of_same {a b : Scaled} (h : a.same b = true) : a = b := by
  cases a <;> cases b <;> simp_all [same]

/-- Agreement of moments is symmetric. -/
theorem Moment.same_comm (s t : Moment) : s.same t = t.same s := by
  unfold same
  cases s.offset <;> cases t.offset <;> dsimp only
  · exact Bool.beq_comm
  · rw [Bool.beq_comm, Bool.beq_comm (a := s.microsecond)]

/-- Moments that agree agree with the same moments. -/
theorem Moment.same_congr {s t : Moment} (h : s.same t = true) (u : Moment) :
    t.same u = s.same u := by
  unfold same at h ⊢
  cases hs : s.offset <;> cases ht : t.offset <;> cases hu : u.offset <;> simp_all

namespace Value

/-- Equality of numbers is symmetric. -/
theorem equalNumbers_comm (v w : Value) : v.equalNumbers w = w.equalNumbers v := by
  unfold equalNumbers
  cases v.scaled? <;> cases w.scaled? <;> simp [Scaled.same_comm]

/-- Values that are equal as numbers are equal to the same numbers. -/
theorem equalNumbers_congr {v w : Value} (h : v.equalNumbers w = true) (u : Value) :
    w.equalNumbers u = v.equalNumbers u := by
  unfold equalNumbers at h ⊢
  cases hv : v.scaled? with
  | none => rw [hv] at h; cases h
  | some a =>
    cases hw : w.scaled? with
    | none => rw [hv, hw] at h; cases h
    | some b =>
      rw [hv, hw] at h
      rw [Scaled.eq_of_same h]

/-- What is equal to a number as a number is a number. -/
theorem exists_scaled?_of_equalNumbers {v w : Value} (h : v.equalNumbers w = true) :
    ∃ a, w.scaled? = some a ∧ a.same a = true := by
  unfold equalNumbers at h
  cases hv : v.scaled? with
  | none => rw [hv] at h; cases h
  | some a =>
    cases hw : w.scaled? with
    | none => rw [hv, hw] at h; cases h
    | some b =>
      rw [hv, hw] at h
      obtain rfl := Scaled.eq_of_same h
      exact ⟨a, rfl, h⟩

/-- What is not a number is equal to no number. -/
theorem equalNumbers_nan (v : Value) (mark : Nat) : v.equalNumbers (.nan mark) = false := by
  refine Bool.eq_false_iff.mpr fun h => ?_
  obtain ⟨a, ha, hself⟩ := exists_scaled?_of_equalNumbers h
  cases ha
  cases hself

/-! ### Plain data -/

/-- A truth value, an integer or a double is compared as a number. -/
theorem same_of_number {v : Value} (hv : v.scaled?.isSome = true) (hnan : ∀ mark, v ≠ nan mark)
    (marked : Bool) {u : Value} (hu : u.isView = false) : v.same marked u = v.equalNumbers u := by
  cases v with
  | bool _ | int _ | float _ =>
    cases u with
    | view _ _ => cases hu
    | _ => rfl
  | nan mark => exact absurd rfl (hnan mark)
  | _ => cases hv

/-- Truth values, integers and doubles are comparable. -/
theorem comparable_number {v : Value} (hv : v.scaled?.isSome = true)
    (hnan : ∀ mark, v ≠ nan mark) : v.Comparable := by
  refine .of_isView (fun marked w hw => ?_) fun marked w hw hsame u hu => ?_
  · cases v with
    | bool _ | int _ | float _ =>
      cases w with
      | bool _ | int _ | float _ => exact equalNumbers_comm _ _
      | nan mark => exact equalNumbers_nan _ mark
      | view _ _ => cases hw
      | _ => rfl
    | nan mark => exact absurd rfl (hnan mark)
    | _ => cases hv
  · rw [same_of_number hv hnan marked (isView_of_wellKeyed hw)] at hsame
    obtain ⟨a, ha, hself⟩ := exists_scaled?_of_equalNumbers hsame
    have hwnan : ∀ mark, w ≠ nan mark := by
      rintro mark rfl
      cases ha
      cases hself
    rw [same_of_number (by rw [ha]; rfl) hwnan marked hu, same_of_number hv hnan marked hu]
    exact equalNumbers_congr hsame u

/-- A value that is equal to nothing but itself is comparable. -/
theorem comparable_of_eq {v : Value}
    (hleft : ∀ marked w, w.wellKeyed = true → v.same marked w = true → w = v)
    (hright : ∀ marked w, w.wellKeyed = true → w.same marked v = true → w = v) :
    v.Comparable where
  comm marked w hw := by
    rw [Bool.eq_iff_iff]
    constructor <;> intro h
    · obtain rfl := hleft marked w hw h
      exact h
    · obtain rfl := hright marked w hw h
      exact h
  congr marked w hw hsame u := by rw [hleft marked w hw hsame]

theorem comparable_null : null.Comparable := by
  refine comparable_of_eq (fun marked w hw h => ?_) fun marked w hw h => ?_ <;> cases w with
  | null => rfl
  | view _ _ => cases hw
  | _ => cases h

theorem comparable_again : again.Comparable := by
  refine comparable_of_eq (fun marked w hw h => ?_) fun marked w hw h => ?_ <;> cases w with
  | again => rfl
  | view _ _ => cases hw
  | _ => cases h

theorem comparable_text (s : String) : (text s).Comparable := by
  refine comparable_of_eq (fun marked w hw h => ?_) fun marked w hw h => ?_ <;> cases w with
  | text t => have heq := beq_iff_eq.mp h; rw [heq]
  | view _ _ => cases hw
  | _ => cases h

theorem comparable_bytes (octets : List UInt8) : (bytes octets).Comparable := by
  refine comparable_of_eq (fun marked w hw h => ?_) fun marked w hw h => ?_ <;> cases w with
  | bytes others => have heq := beq_iff_eq.mp h; rw [heq]
  | view _ _ => cases hw
  | _ => cases h

theorem comparable_raw (sql : String) : (raw sql).Comparable := by
  refine comparable_of_eq (fun marked w hw h => ?_) fun marked w hw h => ?_ <;> cases w with
  | raw other => have heq := beq_iff_eq.mp h; rw [heq]
  | view _ _ => cases hw
  | _ => cases h

theorem comparable_nan (mark : Nat) : (nan mark).Comparable := by
  refine comparable_of_eq (fun marked w hw h => ?_) fun marked w hw h => ?_ <;> cases w with
  | nan other => have heq := beq_iff_eq.mp (Bool.and_eq_true_iff.mp h).2; rw [heq]
  | float x =>
    -- The first of the two comes down to the last case, the second to numbers.
    first
    | cases h
    | have hnan : (float x).same marked (nan mark) = false := equalNumbers_nan _ _
      rw [hnan] at h
      cases h
  | view _ _ => cases hw
  | _ => cases h

theorem comparable_moment (t : Moment) : (moment t).Comparable := by
  refine .of_isView (fun marked w hw => ?_) fun marked w hw hsame u hu => ?_
  · cases w with
    | moment other => exact Moment.same_comm t other
    | view _ _ => cases hw
    | _ => rfl
  · cases w with
    | moment other =>
      cases u with
      | moment third => exact Moment.same_congr hsame third
      | view _ _ => cases hu
      | _ => rfl
    | view _ _ => cases hw
    | _ => cases hsame

theorem comparable_builder (id : Nat) (table : String) : (builder id table).Comparable := by
  refine .of_isView (fun marked w hw => ?_) fun marked w hw hsame u hu => ?_
  · cases w with
    | builder _ _ => exact Bool.beq_comm
    | view _ _ => cases hw
    | _ => rfl
  · cases w with
    | builder other _ =>
      obtain rfl : id = other := beq_iff_eq.mp hsame
      cases u with
      | view _ _ => cases hu
      | _ => rfl
    | view _ _ => cases hw
    | _ => cases hsame

theorem comparable_function (mark : Nat) (idle : Bool) (given : List String) :
    (function mark idle given).Comparable := by
  refine .of_isView (fun marked w hw => ?_) fun marked w hw hsame u hu => ?_
  · cases w with
    | function _ _ _ => exact Bool.beq_comm
    | view _ _ => cases hw
    | _ => rfl
  · cases w with
    | function other _ _ =>
      obtain rfl : mark = other := beq_iff_eq.mp hsame
      cases u with
      | view _ _ => cases hu
      | _ => rfl
    | view _ _ => cases hw
    | _ => cases hsame

/-! ### Containers -/

section Containers

variable {xs : List Value}

theorem comparable_sequence {v : Value} (hv : v = list xs ∨ v = tuple xs)
    (h : ∀ x ∈ xs, x.Comparable) : v.Comparable := by
  rcases hv with rfl | rfl
  all_goals
    refine .of_isView (fun marked w hw => ?_) fun marked w hw hsame u hu => ?_
    · cases w with
      | list ys | tuple ys => first | exact sameItems_comm h (wellKeyedItems_iff.mp hw) | rfl
      | view _ _ => cases hw
      | _ => rfl
    · cases w with
      | list ys | tuple ys =>
        first
        | cases hsame
        | cases u with
          | list zs | tuple zs =>
            first | exact sameItems_congr h (wellKeyedItems_iff.mp hw) hsame zs | rfl
          | view _ _ => cases hu
          | _ => rfl
      | view _ _ => cases hw
      | _ => cases hsame

theorem comparable_statement (sql : String) (h : ∀ x ∈ xs, x.Comparable) :
    (statement sql xs).Comparable := by
  refine .of_isView (fun marked w hw => ?_) fun marked w hw hsame u hu => ?_
  · cases w with
    | statement other ys =>
      exact congrArg₂ and Bool.beq_comm (sameItems_comm h (wellKeyedItems_iff.mp hw))
    | view _ _ => cases hw
    | _ => rfl
  · cases w with
    | statement other ys =>
      obtain ⟨hsql, hitems⟩ := Bool.and_eq_true_iff.mp hsame
      obtain rfl : sql = other := beq_iff_eq.mp hsql
      cases u with
      | statement third zs =>
        exact congrArg (sql == third && ·) (sameItems_congr h (wellKeyedItems_iff.mp hw) hitems zs)
      | view _ _ => cases hu
      | _ => rfl
    | view _ _ => cases hw
    | _ => cases hsame

variable {fs : Fields}

/-- Of two mappings with proper keys, each compares with the other in the same way. -/
theorem length_and_sameFields_comm (h : fs.Comparable) (hfs : wellKeyedFields fs = true)
    {gs : Fields} (hgs : wellKeyedFields gs = true) :
    (fs.length == gs.length && sameFields fs gs) =
      (gs.length == fs.length && sameFields gs fs) := by
  obtain ⟨-, hdistinct⟩ := wellKeyedFields_iff.mp hfs
  obtain ⟨hkeyed, hdistinct'⟩ := wellKeyedFields_iff.mp hgs
  rw [Bool.beq_comm]
  cases hlength : gs.length == fs.length with
  | false => rfl
  | true => rw [sameFields_comm h hkeyed hdistinct hdistinct' (beq_iff_eq.mp hlength).symm]

/-- Two mappings with proper keys that are equal compare alike with every other. -/
theorem length_and_sameFields_congr (h : fs.Comparable) (hfs : wellKeyedFields fs = true)
    {gs : Fields} (hgs : wellKeyedFields gs = true)
    (hsame : (fs.length == gs.length && sameFields fs gs) = true) (us : Fields) :
    (gs.length == us.length && sameFields gs us) =
      (fs.length == us.length && sameFields fs us) := by
  obtain ⟨-, hdistinct⟩ := wellKeyedFields_iff.mp hfs
  obtain ⟨hkeyed, hdistinct'⟩ := wellKeyedFields_iff.mp hgs
  obtain ⟨hlength, hsame⟩ := Bool.and_eq_true_iff.mp hsame
  have hlength := beq_iff_eq.mp hlength
  rw [sameFields_congr h hkeyed hdistinct hdistinct' hlength hsame, hlength]

theorem comparable_mapping {v : Value} (hv : v = map fs ∨ v = object fs) (h : fs.Comparable)
    (hfs : wellKeyedFields fs = true) : v.Comparable := by
  rcases hv with rfl | rfl
  all_goals
    refine .of_isView (fun marked w hw => ?_) fun marked w hw hsame u hu => ?_
    · cases w with
      | map gs | object gs => first | exact length_and_sameFields_comm h hfs hw | rfl
      | view _ _ => cases hw
      | _ => rfl
    · cases w with
      | map gs | object gs =>
        first
        | cases hsame
        | cases u with
          | map us | object us =>
            first | exact length_and_sameFields_congr h hfs hw hsame us | rfl
          | view _ _ => cases hu
          | _ => rfl
      | view _ _ => cases hw
      | _ => cases hsame

theorem comparable_record (kind : String) (h : fs.Comparable) (hfs : wellKeyedFields fs = true) :
    (record kind fs).Comparable := by
  refine .of_isView (fun marked w hw => ?_) fun marked w hw hsame u hu => ?_
  · cases w with
    | record other gs =>
      have hgs : wellKeyedFields gs = true := hw
      have hrest := length_and_sameFields_comm h hfs hgs
      show (kind == other && fs.length == gs.length && sameFields fs gs) =
        (other == kind && gs.length == fs.length && sameFields gs fs)
      rw [Bool.and_assoc, Bool.and_assoc, hrest, Bool.beq_comm]
    | view _ _ => cases hw
    | _ => rfl
  · cases w with
    | record other gs =>
      have hsame : (kind == other && fs.length == gs.length && sameFields fs gs) = true := hsame
      rw [Bool.and_assoc] at hsame
      obtain ⟨hkind, hfields⟩ := Bool.and_eq_true_iff.mp hsame
      obtain rfl : kind = other := beq_iff_eq.mp hkind
      cases u with
      | record third us =>
        show (kind == third && gs.length == us.length && sameFields gs us) =
          (kind == third && fs.length == us.length && sameFields fs us)
        rw [Bool.and_assoc, Bool.and_assoc, length_and_sameFields_congr h hfs hw hfields us]
      | view _ _ => cases hu
      | _ => rfl
    | view _ _ => cases hw
    | _ => cases hsame

theorem comparable_writeResult {changes lastId : Value} (hchanges : changes.Comparable)
    (hlastId : lastId.Comparable) : (writeResult changes lastId).Comparable := by
  refine .of_isView (fun marked w hw => ?_) fun marked w hw hsame u hu => ?_
  · cases w with
    | writeResult changes' lastId' =>
      obtain ⟨hw, hw'⟩ := Bool.and_eq_true_iff.mp hw
      exact congrArg₂ and (hchanges.comm true changes' hw) (hlastId.comm true lastId' hw')
    | view _ _ => cases hw
    | _ => rfl
  · cases w with
    | writeResult changes' lastId' =>
      obtain ⟨hw, hw'⟩ := Bool.and_eq_true_iff.mp hw
      obtain ⟨hsame, hsame'⟩ := Bool.and_eq_true_iff.mp hsame
      cases u with
      | writeResult c l =>
        exact congrArg₂ and (hchanges.congr true changes' hw hsame c)
          (hlastId.congr true lastId' hw' hsame' l)
      | view _ _ => cases hu
      | _ => rfl
    | view _ _ => cases hw
    | _ => cases hsame

theorem comparable_queryResult {data affected lastId : Value} (hdata : data.Comparable)
    (haffected : affected.Comparable) (hlastId : lastId.Comparable) :
    (queryResult data affected lastId).Comparable := by
  refine .of_isView (fun marked w hw => ?_) fun marked w hw hsame u hu => ?_
  · cases w with
    | queryResult data' affected' lastId' =>
      obtain ⟨hw, hw''⟩ := Bool.and_eq_true_iff.mp hw
      obtain ⟨hw, hw'⟩ := Bool.and_eq_true_iff.mp hw
      exact congrArg₂ and (congrArg₂ and (hdata.comm true data' hw)
        (haffected.comm true affected' hw')) (hlastId.comm true lastId' hw'')
    | view _ _ => cases hw
    | _ => rfl
  · cases w with
    | queryResult data' affected' lastId' =>
      obtain ⟨hw, hw''⟩ := Bool.and_eq_true_iff.mp hw
      obtain ⟨hw, hw'⟩ := Bool.and_eq_true_iff.mp hw
      obtain ⟨hsame, hsame''⟩ := Bool.and_eq_true_iff.mp hsame
      obtain ⟨hsame, hsame'⟩ := Bool.and_eq_true_iff.mp hsame
      cases u with
      | queryResult d a l =>
        exact congrArg₂ and (congrArg₂ and (hdata.congr true data' hw hsame d)
          (haffected.congr true affected' hw' hsame' a))
          (hlastId.congr true lastId' hw'' hsame'' l)
      | view _ _ => cases hu
      | _ => rfl
    | view _ _ => cases hw
    | _ => cases hsame

end Containers

/-! ### The induction -/

mutual

/-- Values with proper keys are comparable: equality and agreement are symmetric for them, and what
is equal is equal to the same values.

**Proof sketch.** By recursion on the value, with one lemma for every way in which values are
compared: as numbers, as texts, by identity, item by item, or entry by entry. -/
theorem comparable : (v : Value) → v.wellKeyed = true → v.Comparable
  | .null, _ => comparable_null
  | .bool _, _ | .int _, _ | .float _, _ => comparable_number rfl nofun
  | .nan mark, _ => comparable_nan mark
  | .text s, _ => comparable_text s
  | .bytes octets, _ => comparable_bytes octets
  | .moment t, _ => comparable_moment t
  | .raw sql, _ => comparable_raw sql
  | .builder id table, _ => comparable_builder id table
  | .function mark idle given, _ => comparable_function mark idle given
  | .again, _ => comparable_again
  | .list xs, h => comparable_sequence (.inl rfl) (comparableItems xs h)
  | .tuple xs, h => comparable_sequence (.inr rfl) (comparableItems xs h)
  | .statement sql xs, h => comparable_statement sql (comparableItems xs h)
  | .map fs, h => comparable_mapping (.inl rfl) (comparableFields fs h) h
  | .object fs, h => comparable_mapping (.inr rfl) (comparableFields fs h) h
  | .record kind fs, h => comparable_record kind (comparableFields fs h) h
  | .writeResult changes lastId, h => by
    obtain ⟨hchanges, hlastId⟩ := Bool.and_eq_true_iff.mp h
    exact comparable_writeResult (comparable changes hchanges) (comparable lastId hlastId)
  | .queryResult data affected lastId, h => by
    obtain ⟨h, hlastId⟩ := Bool.and_eq_true_iff.mp h
    obtain ⟨hdata, haffected⟩ := Bool.and_eq_true_iff.mp h
    exact comparable_queryResult (comparable data hdata) (comparable affected haffected)
      (comparable lastId hlastId)
  | .view _ _, h => by cases h

/-- Items with proper keys are comparable. -/
theorem comparableItems : (xs : List Value) → wellKeyedItems xs = true → ∀ x ∈ xs, x.Comparable
  | [], _ => List.forall_mem_nil _
  | x :: xs, h => by
    obtain ⟨hx, hxs⟩ := Bool.and_eq_true_iff.mp h
    exact List.forall_mem_cons.mpr ⟨comparable x hx, comparableItems xs hxs⟩

/-- Entries with proper keys are comparable. -/
theorem comparableFields : (fs : List (Value × Value)) → wellKeyedFields fs = true →
    Fields.Comparable fs
  | [], _ => List.forall_mem_nil _
  | (key, x) :: rest, h => by
    simp only [wellKeyedFields, Bool.and_eq_true] at h
    obtain ⟨⟨⟨⟨hkey, hx⟩, -⟩, -⟩, hrest⟩ := h
    exact List.forall_mem_cons.mpr ⟨⟨comparable key hkey, comparable x hx⟩,
      comparableFields rest hrest⟩

end

section Laws

variable {v w : Value} (hv : v.wellKeyed = true) (hw : w.wellKeyed = true)
include hv hw

/-- Equality is symmetric. -/
theorem equal_comm : v.equal w = w.equal v := (comparable v hv).comm false w hw

/-- Values that are equal are equal to the same values. -/
theorem equal_congr (h : v.equal w = true) (u : Value) : w.equal u = v.equal u :=
  (comparable v hv).congr false w hw h u

/-- Agreement is symmetric. -/
theorem agrees_comm : v.agrees w = w.agrees v := (comparable v hv).comm true w hw

/-- Values that agree agree with the same values. -/
theorem agrees_congr (h : v.agrees w = true) (u : Value) : w.agrees u = v.agrees u :=
  (comparable v hv).congr true w hw h u

end Laws

/-! ### Keys -/

mutual

/-- What may be a key has proper keys. -/
theorem wellKeyed_of_hashable : (v : Value) → v.hashable = true → v.wellKeyed = true
  | .tuple xs, h => wellKeyedItems_of_hashableItems xs h
  | .writeResult changes lastId, h => by
    obtain ⟨hchanges, hlastId⟩ := Bool.and_eq_true_iff.mp h
    exact Bool.and_eq_true_iff.mpr
      ⟨wellKeyed_of_hashable changes hchanges, wellKeyed_of_hashable lastId hlastId⟩
  | .null, _ | .bool _, _ | .int _, _ | .float _, _ | .nan _, _ | .text _, _ | .bytes _, _
  | .moment _, _ | .builder .., _ | .function .., _ => rfl
  | .list _, h | .map _, h | .queryResult .., h | .object _, h | .raw _, h | .statement .., h
  | .record .., h | .view .., h | .again, h => by cases h

/-- Items that may be members of a set have proper keys. -/
theorem wellKeyedItems_of_hashableItems :
    (xs : List Value) → hashableItems xs = true → wellKeyedItems xs = true
  | [], _ => rfl
  | x :: xs, h => by
    obtain ⟨hx, hxs⟩ := Bool.and_eq_true_iff.mp h
    exact Bool.and_eq_true_iff.mpr
      ⟨wellKeyed_of_hashable x hx, wellKeyedItems_of_hashableItems xs hxs⟩

end

/-- What may be a key and is equal to itself agrees with the values that it is equal to. -/
theorem agrees_eq_equal {v : Value} (hhashable : v.hashable = true) (hself : v.equal v = true)
    (w : Value) : v.agrees w = v.equal w := by
  unfold agrees equal at *
  cases v with
  | nan mark =>
    unfold same at hself
    simp [bare] at hself
  | view source seen => cases hhashable
  | _ =>
    unfold same
    cases w.bare <;> rfl

end Value

end FluentSql
