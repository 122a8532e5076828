import FluentSql.Proofs.Statement.Verbatim

set_option autoImplicit false

/-!
# Placeholders and bound values

A driver fills the placeholders of a statement from left to right with the bound values. Here that
reading of a statement is compared with the one by chunks, where every value stands in the place in
which it was written: they agree as soon as the texts that a query takes over verbatim have as many
`?` as they bring values, which for everything but verbatim predicates means none.

## Main definitions

* `FluentSql.fill` — a text with its placeholders filled from left to right.
* `FluentSql.Chunk.marks` — what the characters of a chunk stand for.
* `FluentSql.Chunk.Balanced` — a chunk has a `?` for every value and no other.

## Main results

* `FluentSql.getElem?_fill` — the `k`-th placeholder is filled with the `k`-th value.
* `FluentSql.Chunk.AllBalanced.fill_allSql` — balanced chunks are read the same way from left to
  right.
* `FluentSql.Descriptor.allBalanced_chunks` — the chunks of a query are balanced if its verbatim
  texts are.
* `FluentSql.Descriptor.select_refines_chunks` — a SELECT is the statement of the chunks of its
  query, and its `k`-th placeholder is that of its `k`-th bound value.
-/

namespace FluentSql

/-! ## Filling placeholders -/

/-- What a character of a text stands for. -/
inductive Mark where
  /-- Itself. -/
  | char (c : Char)
  /-- A bound value. -/
  | slot (v : Value)
  deriving Inhabited

/-- A text whose placeholders are filled from left to right, as long as there are values. -/
def fill : List Char → List Value → List Mark
  | [], _ => []
  | c :: cs, [] => .char c :: fill cs []
  | c :: cs, v :: vs => if c = '?' then .slot v :: fill cs vs else .char c :: fill cs (v :: vs)

/-- The number of `?` in a text. -/
def placeholdersIn (s : String) : Nat := s.toList.count '?'

/-- Without values a text stands for itself. -/
@[simp] theorem fill_nil : ∀ cs : List Char, fill cs [] = cs.map .char
  | [] => rfl
  | c :: cs => by rw [fill, fill_nil cs, List.map_cons]

/-- A text that takes all its values is filled independently of what follows it. -/
theorem fill_append :
    ∀ (cs ds : List Char) (vs ws : List Value), cs.count '?' = vs.length →
      fill (cs ++ ds) (vs ++ ws) = fill cs vs ++ fill ds ws
  | [], ds, vs, ws, h => by
    obtain rfl : vs = [] := List.length_eq_zero_iff.mp h.symm
    rfl
  | c :: cs, ds, [], ws, h => by
    have hc : c ≠ '?' := by
      rintro rfl
      simp at h
    have ih := fill_append cs ds [] ws (by simpa [hc] using h)
    cases ws with
    | nil => simp
    | cons w ws => simpa [fill, hc] using ih
  | c :: cs, ds, v :: vs, ws, h => by
    by_cases hc : c = '?'
    · have ih := fill_append cs ds vs ws (by simpa [hc] using h)
      simp [fill, hc, ih]
    · have ih := fill_append cs ds (v :: vs) ws (by simpa [hc] using h)
      simpa [fill, hc] using ih

/-- The `k`-th placeholder of a text is filled with the `k`-th value, and nothing else is filled. -/
theorem getElem?_fill :
    ∀ (cs : List Char) (vs : List Value) (i : Nat) (v : Value),
      (fill cs vs)[i]? = some (.slot v) ↔
        cs[i]? = some '?' ∧ vs[(cs.take i).count '?']? = some v
  | [], vs, i, v => by simp [fill]
  | c :: cs, [], i, v => by
    simp only [fill_nil, List.getElem?_map, List.getElem?_nil]
    cases (c :: cs)[i]? <;> simp
  | c :: cs, w :: vs, 0, v => by
    by_cases hc : c = '?' <;> simp [fill, hc]
  | c :: cs, w :: vs, i + 1, v => by
    by_cases hc : c = '?'
    · simp [fill, hc, getElem?_fill cs vs i v]
    · simp [fill, hc, getElem?_fill cs (w :: vs) i v]

@[simp] theorem placeholdersIn_append (s t : String) :
    placeholdersIn (s ++ t) = placeholdersIn s + placeholdersIn t := by
  simp [placeholdersIn, List.count_append]

/-! ## Balanced chunks -/

namespace Chunk

/-- What the characters of a chunk stand for: its placeholders for its values, in order. -/
def marks (c : Chunk) : List Mark := fill c.sql.toList c.bindings

/-- What the characters of chunks stand for, every value in the place of its own chunk. -/
def allMarks (cs : List Chunk) : List Mark := cs.flatMap marks

/-- A chunk has as many placeholders as values: for literal text this means none. -/
def Balanced (c : Chunk) : Prop := placeholdersIn c.sql = c.bindings.length

instance : DecidablePred Balanced := fun c =>
  inferInstanceAs (Decidable (placeholdersIn c.sql = c.bindings.length))

/-- Every one of some chunks is balanced. -/
def AllBalanced (cs : List Chunk) : Prop := ∀ c ∈ cs, c.Balanced

instance : DecidablePred AllBalanced := fun cs =>
  inferInstanceAs (Decidable (∀ c ∈ cs, c.Balanced))

@[simp] theorem balanced_text (s : String) : (text s).Balanced ↔ placeholdersIn s = 0 := by
  simp [Balanced, sql, bindings]

@[simp] theorem balanced_value (v : Value) : (value v).Balanced := by
  simp [Balanced, sql, bindings, placeholdersIn]

@[simp] theorem allBalanced_cons (c : Chunk) (cs : List Chunk) :
    AllBalanced (c :: cs) ↔ c.Balanced ∧ AllBalanced cs := by simp [AllBalanced]

/-- Balanced chunks have as many placeholders as values. -/
theorem AllBalanced.placeholdersIn_allSql :
    ∀ {cs : List Chunk}, AllBalanced cs → placeholdersIn (allSql cs) = (allBindings cs).length
  | [], _ => by simp [placeholdersIn]
  | c :: cs, h => by
    rw [allBalanced_cons] at h
    have ih := AllBalanced.placeholdersIn_allSql h.2
    rw [allSql_cons, placeholdersIn_append, ih, h.1, allBindings_cons, List.length_append]

/-- Filling the placeholders of balanced chunks from left to right puts every value in the place of
its own chunk.

**Proof sketch.** By induction on the chunks: the first of them takes exactly its own values, so
those of the others are left for them. -/
theorem AllBalanced.fill_allSql :
    ∀ {cs : List Chunk}, AllBalanced cs →
      fill (allSql cs).toList (allBindings cs) = allMarks cs
  | [], _ => by simp [allMarks]
  | c :: cs, h => by
    rw [allBalanced_cons] at h
    have ih := AllBalanced.fill_allSql h.2
    rw [allSql_cons, String.toList_append, allBindings_cons, fill_append _ _ _ _ h.1, ih]
    rfl

end Chunk

/-! ## The chunks of a query -/

/-- Having no placeholder is a property of plain texts, and of texts one after the other. -/
theorem isTextual_placeholdersIn_eq_zero : IsTextual fun s => placeholdersIn s = 0 where
  plain h := List.count_eq_zero.mpr h.2
  append hs ht := by rw [placeholdersIn_append, hs, ht]

/-- Chunks are balanced if their literal text has no placeholder and their verbatim SQL has one for
every value. -/
theorem Chunk.allBalanced_iff {cs : List Chunk} :
    AllBalanced cs ↔ AllHave (fun s => placeholdersIn s = 0)
      (fun sql bindings => placeholdersIn sql = bindings.length) cs := by
  refine forall_congr' fun c => imp_congr_right fun _ => ?_
  cases c with
  | text s => exact balanced_text s
  | value v => exact ⟨fun _ => trivial, fun _ => balanced_value v⟩
  | verbatim sql bindings => exact Iff.rfl

/-- The chunks of a query are balanced if its verbatim texts are. -/
theorem Descriptor.allBalanced_chunks {d : Descriptor} {cs : List Chunk} (hc : d.chunks = .ok cs)
    (hv : Chunk.AllBalanced d.verbatim) : Chunk.AllBalanced cs :=
  Chunk.allBalanced_iff.mpr
    (Descriptor.allHave_chunks isTextual_placeholdersIn_eq_zero hc (Chunk.allBalanced_iff.mp hv))

/-! ## Bound values stand where they are written -/

/-- A SELECT is the statement of the chunks of its query, which are assigned to it without any
list of bound values going round. Where the verbatim texts of the query are balanced, it has as
many placeholders as bound values, and its `k`-th placeholder stands in the place of its `k`-th
bound value and of nothing else.

**Proof sketch.** Assembling a query from any values bound so far appends the chunks of the query,
by induction on its structure. Its chunks are balanced if its verbatim texts are, by the same
induction, for keywords have no placeholder; and balanced chunks may be filled one after the
other. -/
theorem Descriptor.select_refines_chunks (d : Descriptor) :
    d.select = d.chunks.map Statement.ofChunks ∧
    ∀ cs, d.chunks = .ok cs → Chunk.AllBalanced d.verbatim →
      (Statement.ofChunks cs).placeholders = (Statement.ofChunks cs).bindings.length ∧
      ∀ (i : Nat) (v : Value), (Chunk.allMarks cs)[i]? = some (.slot v) ↔
        (Statement.ofChunks cs).sql.toList[i]? = some '?' ∧
        (Statement.ofChunks cs).bindings[
          ((Statement.ofChunks cs).sql.toList.take i).count '?']? = some v := by
  refine ⟨d.select_eq_map_chunks, fun cs hc hv => ?_⟩
  have hb := Descriptor.allBalanced_chunks hc hv
  refine ⟨hb.placeholdersIn_allSql, fun i v => ?_⟩
  rw [← hb.fill_allSql]
  exact getElem?_fill _ _ i v

/-- A query with a nested query, which holds verbatim SQL and has a limit, and a union whose second
part has a limit as well. -/
def nestedQuery : Descriptor :=
  { Descriptor.new "t" with
    wheres := [.exist { Descriptor.new "u" with
      wheres := [.raw "? < b" [.int 1] .and], limit := .int 2 } false .and]
    unions := [⟨.union, { Descriptor.new "v" with limit := .int 3 }⟩]
    offset := .int 4 }

/-- The first placeholder of `nestedQuery` is that of the value of its verbatim SQL, and the limit
of the second part of its union is not bound. -/
theorem select_refines_chunks_nestedQuery :
    ∃ cs, nestedQuery.chunks = .ok cs ∧ Chunk.AllBalanced nestedQuery.verbatim ∧
      nestedQuery.select = .ok (Statement.ofChunks cs) ∧
      (Statement.ofChunks cs).sql = "SELECT * FROM t WHERE EXISTS (SELECT * FROM u " ++
        "WHERE ? < b LIMIT ?) UNION SELECT * FROM v OFFSET ?" ∧
      (Statement.ofChunks cs).bindings = [.int 1, .int 2, .int 4] ∧
      (Statement.ofChunks cs).placeholders = 3 ∧
      (Chunk.allMarks cs)[52]? = some (.slot (.int 1)) := by
  obtain ⟨hselect, h⟩ := nestedQuery.select_refines_chunks
  have hv : Chunk.AllBalanced nestedQuery.verbatim := by decide
  obtain ⟨cs, hcs, hsql, hbindings⟩ : ∃ cs, nestedQuery.chunks = .ok cs ∧
      (Statement.ofChunks cs).sql = "SELECT * FROM t WHERE EXISTS (SELECT * FROM u " ++
        "WHERE ? < b LIMIT ?) UNION SELECT * FROM v OFFSET ?" ∧
      (Statement.ofChunks cs).bindings = [.int 1, .int 2, .int 4] :=
  ⟨_, rfl, by decide +kernel, rfl⟩
  rw [hcs] at hselect
  obtain ⟨hcount, hmarks⟩ := h cs hcs hv
  refine ⟨cs, hcs, hv, hselect, hsql, hbindings, by rw [hcount, hbindings]; rfl, ?_⟩
  rw [hmarks, hsql, hbindings]
  have hbefore : ((("SELECT * FROM t WHERE EXISTS (SELECT * FROM u " ++
      "WHERE ? < b LIMIT ?) UNION SELECT * FROM v OFFSET ?" : String).toList.take 52).count '?') =
      0 := by decide +kernel
  rw [hbefore]
  exact ⟨by decide +kernel, rfl⟩

end FluentSql
