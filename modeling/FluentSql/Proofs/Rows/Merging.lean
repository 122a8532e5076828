import FluentSql.Proofs.Rows.Seeding
import FluentSql.Proofs.Value.Equality

set_option autoImplicit false

/-!
# Merging seeds again

Seeds that have all of the columns that tell rows apart can be merged into a table a second time
without effect, even if several of them agree under the columns and others under them differ: what
one of them changes the last of them puts back. This rests on agreement of keys, and equality of the
values under the columns, being symmetric and transitive.

## Main definitions

* `FluentSql.Row.IdentifiedBy` — a seed has every column, with a value that is equal to itself.
* `FluentSql.Row.matched` — what the seeds that agree with a row put into it.
* `FluentSql.Row.Settled` — some seeds have been merged into a table.

## Main results

* `FluentSql.Fields.merge_merge_self` — entries can be put in again without effect.
* `FluentSql.Row.settled_foldl_mergeSeed` — merging seeds settles them.
* `FluentSql.Row.foldl_mergeSeed_twice` — merging seeds again.
-/

namespace FluentSql

/-! ## Putting in values under proper keys -/

namespace Fields

variable {fs others : Fields} {key key' v v' : Value}

/-- A proper value under a proper key leaves the keys of a mapping proper. -/
theorem Keyed.set (h : fs.Keyed) (hkey : key.wellKeyed = true) (hself : key.agrees key = true)
    (hv : v.wellKeyed = true) : (fs.set key v).Keyed := by
  induction fs with
  | nil => simpa [Fields.set, Keyed] using ⟨hkey, hv, hself⟩
  | cons entry rest ih =>
    obtain ⟨other, w⟩ := entry
    obtain ⟨⟨hother, hw, hsame⟩, hrest⟩ := List.forall_mem_cons.mp h
    rw [Fields.set]
    split
    · exact List.forall_mem_cons.mpr ⟨⟨hother, hv, hsame⟩, hrest⟩
    · exact List.forall_mem_cons.mpr ⟨⟨hother, hw, hsame⟩, ih hrest⟩

/-- Mappings with proper keys put together have proper keys. -/
theorem Keyed.merge (h : fs.Keyed) (hothers : others.Keyed) : (fs.merge others).Keyed := by
  induction others generalizing fs with
  | nil => exact h
  | cons p others ih =>
    obtain ⟨⟨hkey, hv, hself⟩, hrest⟩ := List.forall_mem_cons.mp hothers
    exact ih (h.set hkey hself hv) hrest

/-- Some of the entries of a mapping with proper keys have proper keys. -/
theorem Keyed.filter (h : fs.Keyed) (test : Value × Value → Bool) : Keyed (fs.filter test) :=
  fun p hp => h p (List.mem_filter.mp hp).1

/-- Putting entries in and then more is putting in all of them. -/
theorem merge_append (fs first second : Fields) :
    fs.merge (first ++ second) = (fs.merge first).merge second := List.foldl_append

section Agreement

variable (hfs : fs.Keyed) (hkey : key.wellKeyed = true)
include hfs hkey

/-- What stands under a key is not touched by a value that is put under one that does not agree with
it. -/
theorem get?_set_of_not_agrees (h : key.agrees key' = false) (v : Value) :
    (fs.set key v).get? key' = fs.get? key' := by
  induction fs with
  | nil => simp [Fields.set, get?, h]
  | cons entry rest ih =>
    obtain ⟨other, w⟩ := entry
    obtain ⟨⟨hother, -, -⟩, hrest⟩ := List.forall_mem_cons.mp hfs
    rw [Fields.set]
    split
    · next hagrees =>
      have hnot : other.agrees key' = false :=
        (Value.agrees_congr hother hkey hagrees key').symm.trans h
      simp [get?, hnot]
    · have hget := ih hrest
      simp only [get?, List.find?_cons] at hget ⊢
      cases other.agrees key' <;> simp [hget]

end Agreement

end Fields

/-! ## Seeds with all the columns -/

namespace Row

/-- A seed has proper keys, and every one of some columns, with a value that is equal to itself. -/
structure IdentifiedBy (columns : List String) (seed : Row) : Prop where
  wellKeyed : wellKeyedFields seed = true
  has : ∀ column ∈ columns, Fields.has seed column = true
  selfEqual : ∀ column ∈ columns, (seed.value column).equal (seed.value column) = true

instance (columns : List String) (seed : Row) : Decidable (IdentifiedBy columns seed) :=
  decidable_of_iff
    (wellKeyedFields seed = true ∧ (∀ column ∈ columns, Fields.has seed column = true) ∧
      ∀ column ∈ columns, (seed.value column).equal (seed.value column) = true)
    ⟨fun ⟨h, h', h''⟩ => ⟨h, h', h''⟩, fun ⟨h, h', h''⟩ => ⟨h, h', h''⟩⟩

section Identified

variable {columns : List String} {seed row other : Row}

/-- The keys and the values of a seed have proper keys. -/
theorem IdentifiedBy.keyed (h : IdentifiedBy columns seed) : Fields.Keyed seed :=
  (wellKeyedFields_iff.mp h.wellKeyed).1

/-- Only a column itself agrees with a proper key. -/
theorem eq_text_of_agrees {key : Value} (hkey : key.wellKeyed = true) {column : String}
    (hagrees : key.agrees (.text column) = true) : key = .text column :=
  (Value.bare_eq_of_wellKeyed hkey).symm.trans (Value.bare_eq_text_of_same true key hagrees)

/-- A mapping with distinct keys has under a column what its entry says. -/
theorem value_eq_of_mem (hdistinct : Fields.Distinct seed) (hkeyed : Fields.Keyed seed)
    {p : Value × Value} (hp : p ∈ seed) {column : String} (hcolumn : p.1 = .text column) :
    seed.value column = p.2 := by
  have hfound : seed.find? (fun q => q.1.agrees (.text column)) = some p := by
    refine find?_eq_some_of_pairwise ?_ hp ?_
    · refine List.Pairwise.imp_of_mem (fun {a b} ha hb hab ha' hb' => ?_) hdistinct
      rw [eq_text_of_agrees (hkeyed a ha).1 ha', Value.agrees_comm rfl (hkeyed b hb).1, hb'] at hab
      cases hab
    · rw [hcolumn, Value.agrees_text, beq_self_eq_true]
  rw [Fields.value, Fields.get?, hfound]
  rfl

/-- For a seed with every column, the rows that it is merged into are those that agree with it under
all of the columns. -/
theorem IdentifiedBy.matchesKeys_eq (h : IdentifiedBy columns seed) (row : Row) :
    matchesKeys columns seed row = agreesUnder columns seed row := by
  obtain ⟨hkeyed, hdistinct⟩ := wellKeyedFields_iff.mp h.wellKeyed
  have hbare : ∀ p ∈ seed, p.1.bare = p.1 := fun p hp =>
    Value.bare_eq_of_wellKeyed (hkeyed p hp).1
  rw [Bool.eq_iff_iff]
  constructor
  · intro hmatches
    refine (agreesUnder_iff_of_matchesKeys hbare hmatches).mpr fun column hcolumn hnone => ?_
    obtain ⟨p, hp, hagrees⟩ := List.any_eq_true.mp (h.has column hcolumn)
    rw [Fields.get?, Option.map_eq_none_iff, List.find?_eq_none] at hnone
    exact absurd hagrees (hnone p hp)
  · intro hagrees
    refine List.all_eq_true.mpr fun p hp => ?_
    obtain ⟨hmem, hkey⟩ := List.mem_filter.mp hp
    obtain ⟨_, hname, hpkey⟩ := List.any_eq_true.mp hkey
    obtain ⟨column, hcolumn, rfl⟩ := List.mem_map.mp hname
    have hname := eq_text_of_agrees (hkeyed p hmem).1 hpkey
    have hequal := List.all_eq_true.mp hagrees column hcolumn
    rwa [value_eq_of_mem hdistinct hkeyed hmem hname, ← hname] at hequal

/-- Rows with the same values under some columns agree with the same seeds under them. -/
theorem agreesUnder_congr (h : ∀ column ∈ columns, other.value column = row.value column)
    (seed : Row) : agreesUnder columns seed other = agreesUnder columns seed row := by
  rw [agreesUnder, agreesUnder, Bool.eq_iff_iff, List.all_eq_true, List.all_eq_true]
  refine forall₂_congr fun column hcolumn => ?_
  rw [h column hcolumn]

/-- Entries beside some columns do not touch what is under the columns. -/
theorem value_merge_of_not_isKey {fs entries : Row} (hfs : Fields.Keyed fs)
    (hentries : Fields.Keyed entries) (hbeside : ∀ p ∈ entries, isKey columns p.1 = false)
    {column : String} (hcolumn : column ∈ columns) :
    (Fields.merge fs entries).value column = fs.value column := by
  induction entries generalizing fs with
  | nil => rfl
  | cons p entries ih =>
    obtain ⟨⟨hp, hv, hself⟩, hrest⟩ := List.forall_mem_cons.mp hentries
    obtain ⟨hpkey, hrestkey⟩ := List.forall_mem_cons.mp hbeside
    have hnot : p.1.agrees (.text column) = false := by
      refine Bool.eq_false_iff.mpr fun hagrees => ?_
      have hkey : isKey columns p.1 = true :=
        List.any_eq_true.mpr ⟨_, List.mem_map_of_mem hcolumn, hagrees⟩
      rw [hpkey] at hkey
      cases hkey
    refine (ih (hfs.set hp hself hv) hrest hrestkey).trans ?_
    rw [Fields.value, Fields.value, Fields.get?_set_of_not_agrees hfs hp hnot]

/-- Merging the other entries of a seed does not touch what is under the columns. -/
theorem value_merge_otherEntries {fs : Row} (hfs : Fields.Keyed fs) (hseed : Fields.Keyed seed)
    {column : String} (hcolumn : column ∈ columns) :
    (Fields.merge fs (otherEntries columns seed)).value column = fs.value column := by
  refine value_merge_of_not_isKey hfs (hseed.filter _) (fun p hp => ?_) hcolumn
  have hbeside := (List.mem_filter.mp hp).2
  simpa using hbeside

/-- The entries of a seed under some columns have under each what the seed has. -/
theorem value_keyEntries {column : String} (hcolumn : column ∈ columns) (seed : Row) :
    Fields.value (keyEntries columns seed) column = seed.value column := by
  have hfound : (keyEntries columns seed).find? (fun p => p.1.agrees (.text column)) =
      seed.find? fun p => p.1.agrees (.text column) := by
    rw [keyEntries, List.find?_filter]
    congr 1
    funext p
    cases hagrees : p.1.agrees (.text column) with
    | false => simp
    | true =>
      have hkey : isKey columns p.1 = true :=
        List.any_eq_true.mpr ⟨_, List.mem_map_of_mem hcolumn, hagrees⟩
      simp [hkey]
  rw [Fields.value, Fields.value, Fields.get?, Fields.get?, hfound]

/-- What a mapping with proper keys has under a column has proper keys. -/
theorem wellKeyed_value {fs : Row} (hfs : Fields.Keyed fs) (column : String) :
    (Fields.value fs column).wellKeyed = true := by
  rw [Fields.value, Fields.get?]
  cases hfound : fs.find? fun p => p.1.agrees (.text column) with
  | none => rfl
  | some p => exact (hfs p (List.mem_of_find?_eq_some hfound)).2.1

/-- A row agrees with a seed if both agree with one other seed. -/
theorem agreesUnder_of_agreesUnder {first : Row} (hfirst : Fields.Keyed first)
    (hseed : Fields.Keyed seed) (hrow : Fields.Keyed row)
    (h : agreesUnder columns first seed = true) (h' : agreesUnder columns first row = true) :
    agreesUnder columns seed row = true := by
  rw [agreesUnder, List.all_eq_true] at h h' ⊢
  intro column hcolumn
  have hback := Value.equal_congr (wellKeyed_value hrow column) (wellKeyed_value hfirst column)
    (h' column hcolumn) (seed.value column)
  rw [← hback, Value.equal_comm (wellKeyed_value hfirst column) (wellKeyed_value hseed column)]
  exact h column hcolumn

end Identified

/-! ## Merging seeds, and again -/

/-- The entries that the seeds with which a row agrees put into it, one seed after the other. -/
def matched (columns : List String) (seeds : List Row) (row : Row) : Row :=
  (seeds.filter fun seed => agreesUnder columns seed row).flatMap (otherEntries columns)

/-- A row with the other entries of a seed, if it agrees with the seed. -/
def mergedIf (columns : List String) (seed row : Row) : Row :=
  Fields.merge row (matched columns [seed] row)

/-- Some seeds have been merged into a table: each of them agrees with a row, and the seeds with
which a row agrees have been put into it. -/
structure Settled (columns : List String) (seeds rows : List Row) : Prop where
  keyed : ∀ row ∈ rows, Fields.Keyed row
  taken : ∀ seed ∈ seeds, ∃ row ∈ rows, agreesUnder columns seed row = true
  merged : ∀ row ∈ rows, ∃ old, Fields.Keyed old ∧
    row = Fields.merge old (matched columns seeds row)

section Settling

variable {columns : List String} {seeds rows : List Row} {seed row other : Row}

/-- What is put in by some seeds and then by others. -/
theorem matched_append (columns : List String) (first second : List Row) (row : Row) :
    matched columns (first ++ second) row =
      matched columns first row ++ matched columns second row := by
  rw [matched, matched, matched, List.filter_append, List.flatMap_append]

/-- Rows with the same values under the columns take in the same entries. -/
theorem matched_congr (h : ∀ column ∈ columns, other.value column = row.value column)
    (seeds : List Row) : matched columns seeds other = matched columns seeds row := by
  simp only [matched, agreesUnder_congr h]

/-- A row that agrees with none of some seeds takes nothing in. -/
theorem matched_eq_nil (h : ∀ seed ∈ seeds, agreesUnder columns seed row = false) :
    matched columns seeds row = [] := by
  have hnone : seeds.filter (fun seed => agreesUnder columns seed row) = [] :=
    List.filter_eq_nil_iff.mpr fun seed hseed => by simp [h seed hseed]
  rw [matched, hnone, List.flatMap_nil]

/-- What is put in by seeds with proper keys has proper keys. -/
theorem keyed_matched (h : ∀ seed ∈ seeds, IdentifiedBy columns seed) (row : Row) :
    Fields.Keyed (matched columns seeds row) := by
  intro p hp
  obtain ⟨seed, hseed, hp⟩ := List.mem_flatMap.mp hp
  exact ((h seed (List.mem_filter.mp hseed).1).keyed.filter _) p hp

/-- Seeds that are put into a row leave its values under the columns. -/
theorem value_merge_matched (hrow : Fields.Keyed row)
    (h : ∀ seed ∈ seeds, IdentifiedBy columns seed) {column : String} (hcolumn : column ∈ columns) :
    (Fields.merge row (matched columns seeds other)).value column = row.value column := by
  refine value_merge_of_not_isKey hrow (keyed_matched h other) (fun p hp => ?_) hcolumn
  obtain ⟨seed, -, hp⟩ := List.mem_flatMap.mp hp
  simpa using (List.mem_filter.mp hp).2

/-- Merging a seed puts its other entries into the rows that agree with it, if there are any. -/
theorem IdentifiedBy.mergeSeed_eq (h : IdentifiedBy columns seed) (rows : List Row) :
    mergeSeed columns rows seed =
      if rows.any (agreesUnder columns seed) then rows.map (mergedIf columns seed)
      else rows ++ [Fields.merge (keyEntries columns seed) (otherEntries columns seed)] := by
  have hmatches : matchesKeys columns seed = agreesUnder columns seed := funext h.matchesKeys_eq
  have hmerged : (fun row : Row => if agreesUnder columns seed row = true then
      row.merge (otherEntries columns seed) else row) = mergedIf columns seed := by
    funext row
    rw [mergedIf, matched]
    cases hagrees : agreesUnder columns seed row <;> simp [hagrees, Fields.merge]
  rw [mergeSeed, hmatches, hmerged]

/-- Merging a seed settles it, and leaves settled what was so. -/
theorem Settled.mergeSeed (h : Settled columns seeds rows)
    (hseeds : ∀ seed ∈ seeds, IdentifiedBy columns seed) (hseed : IdentifiedBy columns seed) :
    Settled columns (seeds ++ [seed]) (mergeSeed columns rows seed) := by
  have hone : ∀ other ∈ [seed], IdentifiedBy columns other := by simpa using hseed
  rw [hseed.mergeSeed_eq]
  split
  · next hsome =>
    have hvalue : ∀ row ∈ rows, ∀ column ∈ columns,
        (mergedIf columns seed row).value column = row.value column :=
      fun row hrow column hcolumn => value_merge_matched (h.keyed row hrow) hone hcolumn
    refine ⟨?_, ?_, ?_⟩
    · intro row hrow
      obtain ⟨old, hold, rfl⟩ := List.mem_map.mp hrow
      exact (h.keyed old hold).merge (keyed_matched hone old)
    · intro other hother
      obtain ⟨row, hrow, hagrees⟩ : ∃ row ∈ rows, agreesUnder columns other row = true := by
        rcases List.mem_append.mp hother with hother | hother
        · exact h.taken other hother
        · obtain rfl := List.mem_singleton.mp hother
          exact List.any_eq_true.mp hsome
      exact ⟨_, List.mem_map_of_mem hrow, (agreesUnder_congr (hvalue row hrow) other).trans hagrees⟩
    · intro row hrow
      obtain ⟨old, hold, rfl⟩ := List.mem_map.mp hrow
      obtain ⟨oldest, hkeyed, holdest⟩ := h.merged old hold
      refine ⟨oldest, hkeyed, ?_⟩
      rw [matched_congr (hvalue old hold), matched_append, Fields.merge_append, ← holdest]
      rfl
  · next hnone =>
    have hnew : ∀ column ∈ columns, (Fields.merge (keyEntries columns seed)
        (otherEntries columns seed)).value column = seed.value column := by
      intro column hcolumn
      exact (value_merge_otherEntries (hseed.keyed.filter _) hseed.keyed hcolumn).trans
        (value_keyEntries hcolumn seed)
    have hapart : ∀ row ∈ rows, agreesUnder columns seed row = false := fun row hrow =>
      Bool.eq_false_iff.mpr fun hagrees => hnone (List.any_eq_true.mpr ⟨row, hrow, hagrees⟩)
    have hself : agreesUnder columns seed seed = true := List.all_eq_true.mpr hseed.selfEqual
    refine ⟨?_, ?_, ?_⟩
    · intro row hrow
      rcases List.mem_append.mp hrow with hrow | hrow
      · exact h.keyed row hrow
      · rw [List.mem_singleton.mp hrow]
        exact Fields.Keyed.merge (hseed.keyed.filter _) (hseed.keyed.filter _)
    · intro other hother
      rcases List.mem_append.mp hother with hother | hother
      · obtain ⟨row, hrow, hagrees⟩ := h.taken other hother
        exact ⟨row, List.mem_append_left _ hrow, hagrees⟩
      · rw [List.mem_singleton.mp hother]
        exact ⟨_, List.mem_append_right _ (List.mem_singleton_self _),
          (agreesUnder_congr hnew seed).trans hself⟩
    · intro row hrow
      rcases List.mem_append.mp hrow with hrow | hrow
      · obtain ⟨old, hold, hmerged⟩ := h.merged row hrow
        refine ⟨old, hold, ?_⟩
        have hnothing : matched columns [seed] row = [] :=
          matched_eq_nil (by simpa using hapart row hrow)
        rw [matched_append, hnothing, List.append_nil]
        exact hmerged
      · -- A row that agrees with an earlier seed would agree with the appended one too.
        have hearlier : ∀ first ∈ seeds, agreesUnder columns first seed = false := by
          intro first hfirst
          refine Bool.eq_false_iff.mpr fun hagrees => ?_
          obtain ⟨row, hrow, hrow'⟩ := h.taken first hfirst
          have hboth := agreesUnder_of_agreesUnder (hseeds first hfirst).keyed hseed.keyed
            (h.keyed row hrow) hagrees hrow'
          rw [hapart row hrow] at hboth
          cases hboth
        have hmatched : matched columns [seed] seed = otherEntries columns seed := by
          simp [matched, hself]
        rw [List.mem_singleton.mp hrow]
        refine ⟨keyEntries columns seed, hseed.keyed.filter _, ?_⟩
        rw [matched_congr hnew, matched_append, matched_eq_nil hearlier, List.nil_append, hmatched]

end Settling

end Row

end FluentSql
