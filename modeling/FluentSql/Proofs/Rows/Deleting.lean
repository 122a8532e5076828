import FluentSql.Proofs.Rows.Lists
import FluentSql.Proofs.Rows.Unknown

set_option autoImplicit false

/-!
# Rows that a deletion takes away

A deletion finds the rows that match, and then goes through the table again: a row that has a key
goes if a row that matches has an equal one, and a row without a key goes if it is itself among
those that match. Where no two rows have equal keys this leaves exactly the rows that do not match,
those without a key included, however many of them there are and even if they look the same.

## Main definitions

* `FluentSql.Row.ProperKey` — the key of a row can be looked for, and is found again.
* `FluentSql.Row.Apart` — two rows do not have equal keys.
* `FluentSql.Descriptor.dooms` — a deletion takes a row away.

## Main results

* `FluentSql.Descriptor.dropRows_of_properKey` — the second walk through the table.
* `FluentSql.Descriptor.delete_leaves` — what a deletion leaves, and what it reports.
-/

namespace FluentSql

/-! ## Keys of rows -/

namespace Row

/-- The key of a row can be a member of a set, and is equal to itself. So is null, the key of a row
that has none. -/
def ProperKey (pk : String) (row : Row) : Prop :=
  (row.value pk).hashable = true ∧ (row.value pk).equal (row.value pk) = true

instance (pk : String) (row : Row) : Decidable (row.ProperKey pk) :=
  inferInstanceAs (Decidable (_ ∧ _))

/-- Two rows do not have equal keys: one of them has no key, or the keys differ. -/
def Apart (pk : String) (row other : Row) : Prop :=
  (row.value pk).isNull = true ∨ (other.value pk).isNull = true ∨
    (row.value pk).equal (other.value pk) = false

instance (pk : String) (row other : Row) : Decidable (row.Apart pk other) :=
  inferInstanceAs (Decidable (_ ∨ _ ∨ _))

section Keys

variable {pk : String} {row other : Row}

/-- Rows that do not have equal keys do not have them the other way round. -/
theorem Apart.symm (h : row.Apart pk other) (hrow : row.ProperKey pk)
    (hother : other.ProperKey pk) : other.Apart pk row := by
  rcases h with hnull | hnull | hdiffer
  · exact .inr (.inl hnull)
  · exact .inl hnull
  · refine .inr (.inr ?_)
    rw [← Value.equal_comm (Value.wellKeyed_of_hashable _ hrow.1)
      (Value.wellKeyed_of_hashable _ hother.1)]
    exact hdiffer

/-- A row has a key if its key is equal to that of a row that has one. -/
theorem ProperKey.isNull_of_equal (hrow : row.ProperKey pk) (hother : other.ProperKey pk)
    (h : (row.value pk).equal (other.value pk) = true) :
    (other.value pk).isNull = (row.value pk).isNull := by
  have hbare := Value.isNull_bare_of_equal h
  rw [Value.bare_eq_of_wellKeyed (Value.wellKeyed_of_hashable _ hrow.1),
    Value.bare_eq_of_wellKeyed (Value.wellKeyed_of_hashable _ hother.1)] at hbare
  exact hbare.symm

/-- A proper key is found. -/
theorem ProperKey.keyOf_eq (h : row.ProperKey pk) :
    keyOf (.text pk) (.map row) = .ok (row.value pk) := by
  have hcell : (Value.map row).cell (.text pk) = .ok (row.value pk) := rfl
  rw [keyOf, hcell, ok_bind, if_pos (by rw [h.1, Bool.or_true])]
  rfl

/-- Of two rows of a table in which no two have equal keys one is the other, or they do not have
equal keys. -/
theorem eq_or_apart {rows : List Row} (hkeys : ∀ row ∈ rows, row.ProperKey pk)
    (hapart : rows.Pairwise (Apart pk)) {row other : Row} (hrow : row ∈ rows)
    (hother : other ∈ rows) : row = other ∨ row.Apart pk other := by
  have hback : rows.Pairwise fun row other => other = row ∨ other.Apart pk row :=
    hapart.imp_of_mem fun hrow hother h => .inr (h.symm (hkeys _ hrow) (hkeys _ hother))
  have hboth : rows.Pairwise fun row other => row = other ∨ row.Apart pk other := hapart.imp .inr
  exact hboth.forall_of_forall_of_flip (fun _ _ => .inl rfl) hback hrow hother

end Keys

end Row

/-! ## The two walks -/

namespace Descriptor

/-- Whether a deletion takes a row away: one without a key if it matches, one with a key if a row
that matches has an equal key. -/
def dooms (d : Descriptor) (pk : String) (rows : List Row) (row : Row) : Bool :=
  if (row.value pk).isNull then d.keeps row
  else rows.any fun other => d.keeps other && (row.value pk).equal (other.value pk)

variable {d : Descriptor} {pk : String} {rows : List Row} {row : Row}

/-- A row without a key goes just if it matches. -/
theorem dooms_of_isNull (h : (row.value pk).isNull = true) :
    d.dooms pk rows row = d.keeps row := by
  rw [dooms, if_pos h]

/-- A row with a key goes just if a row that matches has an equal key. -/
theorem dooms_of_not_isNull (h : (row.value pk).isNull = false) :
    d.dooms pk rows row =
      rows.any fun other => d.keeps other && (row.value pk).equal (other.value pk) := by
  rw [dooms, if_neg (Bool.eq_false_iff.mp h)]

/-- A row that matches goes. -/
theorem dooms_of_keeps (hrow : row ∈ rows) (hkey : row.ProperKey pk)
    (hkeeps : d.keeps row = true) : d.dooms pk rows row = true := by
  cases hnull : (row.value pk).isNull with
  | true => rw [dooms_of_isNull hnull, hkeeps]
  | false =>
    rw [dooms_of_not_isNull hnull]
    exact List.any_eq_true.mpr ⟨row, hrow, Bool.and_eq_true_iff.mpr ⟨hkeeps, hkey.2⟩⟩

/-- Where no two rows have equal keys, the rows that go are those that match. -/
theorem dooms_eq_keeps (hkeys : ∀ row ∈ rows, row.ProperKey pk)
    (hapart : rows.Pairwise (Row.Apart pk)) (hrow : row ∈ rows) :
    d.dooms pk rows row = d.keeps row := by
  cases hnull : (row.value pk).isNull with
  | true => exact dooms_of_isNull hnull
  | false =>
    rw [Bool.eq_iff_iff]
    refine ⟨fun hdoomed => ?_, dooms_of_keeps hrow (hkeys row hrow)⟩
    rw [dooms_of_not_isNull hnull] at hdoomed
    obtain ⟨other, hother, hboth⟩ := List.any_eq_true.mp hdoomed
    obtain ⟨hkeeps, hequal⟩ := Bool.and_eq_true_iff.mp hboth
    have hsome := (hkeys row hrow).isNull_of_equal (hkeys other hother) hequal
    rcases Row.eq_or_apart hkeys hapart hrow hother with hsame | hrownull | hothernull | hdiffer
    · exact hsame ▸ hkeeps
    · exact absurd hrownull (Bool.eq_false_iff.mp hnull)
    · exact absurd hothernull (Bool.eq_false_iff.mp (hsome.trans hnull))
    · exact absurd hequal (Bool.eq_false_iff.mp hdiffer)

/-- The keys of the rows that match, null aside. -/
def matchedKeys (d : Descriptor) (pk : String) (rows : List Row) : List Value :=
  ((rows.filter d.keeps).map fun row => row.value pk).filter fun k => !k.isNull

/-- The first walk collects the keys of the rows that match. -/
theorem doomedKeys_of_properKey (hkeys : ∀ row ∈ rows, row.ProperKey pk) :
    doomedKeys (.text pk) (keptBy (rows.map d.keeps) (rows.map .map)) =
      .ok (d.matchedKeys pk rows) := by
  have hfound : ∀ row ∈ rows.filter d.keeps,
      (keyOf (.text pk) ∘ .map) row = .ok (row.value pk) :=
    fun row hrow => (hkeys row (List.mem_filter.mp hrow).1).keyOf_eq
  rw [← keptBy_map, keptBy_eq_filter, doomedKeys, List.mapM_map, mapM_eq_ok_map hfound]
  rfl

/-- A proper key is among those of the rows that match just if one of these has an equal key. -/
theorem any_matchedKeys (hkeys : ∀ row ∈ rows, row.ProperKey pk) (hkey : row.ProperKey pk)
    (hsome : (row.value pk).isNull = false) :
    (d.matchedKeys pk rows).any (row.value pk).agrees =
      rows.any fun other => d.keeps other && (row.value pk).equal (other.value pk) := by
  rw [matchedKeys, List.any_filter, List.any_map, List.any_filter, Bool.eq_iff_iff,
    List.any_eq_true, List.any_eq_true]
  refine exists_congr fun other => and_congr_right fun hother => ?_
  simp only [Function.comp_apply, Bool.and_eq_true, Bool.not_eq_true',
    Value.agrees_eq_equal hkey.1 hkey.2]
  refine and_congr_right fun _ => ⟨And.right, fun hequal => ⟨?_, hequal⟩⟩
  rw [hkey.isNull_of_equal (hkeys other hother) hequal, hsome]

/-- A row survives the second walk if the deletion does not take it away. -/
theorem survives_of_properKey (hkeys : ∀ row ∈ rows, row.ProperKey pk) (hrow : row ∈ rows) :
    survives (.text pk) (d.matchedKeys pk rows) (d.keeps row) (.map row) =
      .ok (!d.dooms pk rows row) := by
  have hkey := hkeys row hrow
  rw [survives, hkey.keyOf_eq, ok_bind, pure_eq_ok]
  cases hnull : (row.value pk).isNull with
  | true => rw [dooms_of_isNull hnull, Bool.true_or, Bool.and_true]
  | false =>
    rw [any_matchedKeys hkeys hkey hnull, Bool.false_or, ← dooms_of_not_isNull hnull]
    cases hkeeps : d.keeps row with
    | false => rw [Bool.not_false, Bool.true_and]
    | true => rw [dooms_of_keeps hrow hkey hkeeps, Bool.not_true, Bool.false_and]

/-- Where the keys are proper, both walks of a deletion together keep the rows that it does not take
away, and report how many of the others there are.

**Proof sketch.** The first walk collects the keys of the rows that match, the second asks of every
row whether it is among them or matches without a key. Neither fails on a proper key, and the rows
that do not survive are counted. -/
theorem dropRows_of_properKey (hkeys : ∀ row ∈ rows, row.ProperKey pk) :
    dropRows (.text pk) (rows.map d.keeps) (rows.map .map) =
      .ok ⟨.selection (rows.map fun row => !d.dooms pk rows row),
        { changes := .int (rows.countP (d.dooms pk rows)) }⟩ := by
  have hcount : (rows.map fun row => !d.dooms pk rows row).count false =
      rows.countP (d.dooms pk rows) := by
    rw [List.count, List.countP_map]
    refine List.countP_congr fun row _ => ?_
    simp
  have hwalk : ((rows.map d.keeps).zip (rows.map .map)).mapM
      (fun p => survives (.text pk) (d.matchedKeys pk rows) p.1 p.2) =
        .ok (rows.map fun row => !d.dooms pk rows row) := by
    rw [List.zip_map', List.mapM_map]
    exact mapM_eq_ok_map fun row hrow => survives_of_properKey hkeys hrow
  rw [dropRows, doomedKeys_of_properKey hkeys, ok_bind]
  refine (congrArg (· >>= _) hwalk).trans ?_
  rw [ok_bind, pure_eq_ok, hcount]

/-! ## Deletions -/

/-- What a queued deletion does with a table. -/
theorem applyTo_delete (hkind : d.kind? = some .delete) (key table : Value) :
    d.applyTo key table =
      d.applyDelete key table (.apart ((table.items.toOption).getD [])) := by
  obtain ⟨action, haction, hkeyword⟩ := Option.bind_eq_some_iff.mp hkind
  rw [applyTo, applyOn, haction]
  dsimp only
  rw [hkeyword]
  rfl

/-- A deletion from a table whose keys can be looked for leaves, unmodified and in their order, the
rows that it does not take away, and reports how many it did. A row without a key is taken away if
it matches, and one with a key if a row that matches has an equal key. Where no two rows have equal
keys, what is left is exactly the rows that do not match, and what is reported the number of those
that do.

**Proof sketch.** One walk collects the keys of the rows that match, the other asks of each row
whether its key is among them. A row that has a key equal to that of another one does not exist
where keys differ, so there the second walk takes away what the first one met. -/
theorem delete_leaves (hkind : d.kind? = some .delete)
    (hkeys : ∀ row ∈ rows, row.ProperKey pk) :
    (d.applyTo (.text pk) (rowsValue rows)).touched = rows.map .map ∧
    (d.applyTo (.text pk) (rowsValue rows)).result (rowsValue rows) =
      .ok (rowsValue (rows.filter fun row => !d.dooms pk rows row),
        { changes := .int (rows.countP (d.dooms pk rows)) }) ∧
    (rows.Pairwise (Row.Apart pk) →
      (d.applyTo (.text pk) (rowsValue rows)).result (rowsValue rows) =
        .ok (rowsValue (rows.filter fun row => !d.keeps row),
          { changes := .int (rows.countP d.keeps) })) := by
  have happly : d.applyTo (.text pk) (rowsValue rows) = .untouched (rows.map .map)
      (.ok ⟨.selection (rows.map fun row => !d.dooms pk rows row),
        { changes := .int (rows.countP (d.dooms pk rows)) }⟩) := by
    have hitems : ((rowsValue rows).items.toOption).getD [] = rows.map .map := rfl
    rw [applyTo_delete hkind, applyDelete, matching_rowsValue, ok_bind, hitems, Placed.items_apart]
    exact congrArg _ (dropRows_of_properKey hkeys)
  have hresult : (d.applyTo (.text pk) (rowsValue rows)).result (rowsValue rows) =
      .ok (rowsValue (rows.filter fun row => !d.dooms pk rows row),
        { changes := .int (rows.countP (d.dooms pk rows)) }) := by
    rw [happly, ← keptBy_eq_filter, rowsValue, rowsValue, keptBy_map]
    rfl
  refine ⟨by rw [happly]; rfl, hresult, fun hapart => ?_⟩
  have hsame := fun row hrow => @dooms_eq_keeps d pk rows row hkeys hapart hrow
  have hleft : (rows.filter fun row => !d.dooms pk rows row) =
      rows.filter fun row => !d.keeps row :=
    List.filter_congr fun row hrow => by rw [hsame row hrow]
  have hcount : rows.countP (d.dooms pk rows) = rows.countP d.keeps :=
    List.countP_congr fun row hrow => by rw [hsame row hrow]
  rw [hresult, hleft, hcount]

/-- A deletion of the rows that have 1 under a column. -/
def cleanUp : Descriptor :=
  { Descriptor.new "t" with
    wheres := [.basic "a" .eq (.int 1) .and]
    pending := some ⟨WriteKind.delete.keyword, .null⟩ }

/-- Rows with keys of several kinds, and rows without a key that look the same. -/
def mixedRows : List Row :=
  [[("id", .int 1), ("a", .int 1)], [("a", .int 1)], [("id", .null), ("a", .int 2)],
    [("id", .text "1"), ("a", .int 2)], [("a", .int 1)], [("id", .tuple [.int 1]), ("a", .int 1)]]

/-- Of the rows with 1 under the column none is left, and all others are. -/
theorem delete_leaves_mixedRows :
    cleanUp.kind? = some .delete ∧ (∀ row ∈ mixedRows, row.ProperKey "id") ∧
      mixedRows.Pairwise (Row.Apart "id") ∧
      (cleanUp.applyTo "id" (rowsValue mixedRows)).result (rowsValue mixedRows) =
        .ok (rowsValue [[("id", .null), ("a", .int 2)], [("id", .text "1"), ("a", .int 2)]],
          { changes := .int 4 }) := by
  have hkeys : ∀ row ∈ mixedRows, row.ProperKey "id" := by decide +kernel
  have hapart : mixedRows.Pairwise (Row.Apart "id") := by decide +kernel
  have hverdicts : (mixedRows.map fun row => !cleanUp.keeps row) =
      [false, false, true, true, false, false] := by decide +kernel
  have hcount : mixedRows.countP cleanUp.keeps = 4 := by decide +kernel
  have hexact := (@delete_leaves cleanUp "id" mixedRows rfl hkeys).2.2 hapart
  rw [← keptBy_eq_filter, hverdicts, hcount] at hexact
  exact ⟨rfl, hkeys, hapart, hexact⟩

end Descriptor

end FluentSql
