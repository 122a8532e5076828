import FluentSql.Proofs.Statement.Markers
import FluentSql.Proofs.Statement.Verbatim

set_option autoImplicit false

/-!
# Statements as a driver reads them

A statement is made up of chunks, and every chunk has its own markers: literal text has none, a
bound value is one, and verbatim SQL has one for each value that it brings. Chunks are sound if this
is so where the statement is scanned for placeholders. Then the text of the statement is translated
for a driver chunk by chunk, and the driver reads in the place of every value the marker of its
number.

## Main definitions

* `FluentSql.Chunk.numbered` — the tokens of chunks, each with its own markers.
* `FluentSql.Chunk.AllSound` — chunks have their own placeholders outside of literals.
* `FluentSql.Chunk.Translates` — what it means that chunks are translated for a driver.

## Main results

* `FluentSql.Chunk.AllSound.tokens_allSql` — the tokens of a statement are those of its chunks.
* `FluentSql.Chunk.AllSound.translated` — sound chunks are translated for every driver.
-/

namespace FluentSql

namespace Chunk

/-! ## The tokens of chunks -/

/-- The tokens of a chunk, its markers numbered on from those before. -/
def tokens (seen : Nat) : Chunk → List Token
  | .text s => s.toList.map .char
  | .value _ => [.marker (seen + 1)]
  | .verbatim sql _ => FluentSql.tokens false seen sql.toList

/-- The tokens of chunks, where every chunk counts as many markers as it has values. -/
def numbered (seen : Nat) : List Chunk → List Token
  | [] => []
  | c :: cs => c.tokens seen ++ numbered (seen + c.bindings.length) cs

/-- The statement that chunks make up is translated for a driver: every value has the marker of its
number in the place of its own chunk, the text for the driver is what is written for these tokens,
and the driver reads them, in the numbered style just if the text is not ambiguous. -/
structure Translates (style : PlaceholderStyle) (cs : List Chunk) : Prop where
  count : markers (numbered 0 cs) = List.range' 1 (allBindings cs).length
  place : ∀ before c after, cs = before ++ c :: after →
    markers (c.tokens (allBindings before).length) =
      List.range' ((allBindings before).length + 1) c.bindings.length
  text : style.translate (allSql cs) = style.write (numbered 0 cs)
  read : style.read (style.translate (allSql cs)) = numbered 0 cs ↔
    (style = .numbered → Unambiguous (allSql cs))

/-! ## Sound chunks -/

/-- Chunks have their own placeholders and close their literals: literal text has no placeholder
outside of a literal, and verbatim SQL has one there for every value. -/
abbrev AllSound (cs : List Chunk) : Prop :=
  AllHave (Marked · 0) (fun sql bindings => Marked sql bindings.length) cs

end Chunk

/-- Having no placeholder outside of literals, all of them closed, is a property of plain texts, and
of texts one after the other. -/
theorem isTextual_marked : IsTextual (Marked · 0) where
  plain {s} h := by
    have hmarked := Marked.of_not_mem h.1
    rwa [List.count_eq_zero.mpr h.2] at hmarked
  append hs ht := hs.append ht

namespace Chunk

variable {cs : List Chunk}

/-- Chunks without quotes are sound if their literal text has no question mark, and their verbatim
SQL has one for every value. -/
theorem AllSound.of_plain (h : AllHave Plain (fun sql bindings =>
    '\'' ∉ sql.toList ∧ sql.toList.count '?' = bindings.length) cs) : AllSound cs := by
  refine AllHave.mono (fun s hs => isTextual_marked.plain hs) (fun sql bindings hsql => ?_) h
  rw [← hsql.2]
  exact Marked.of_not_mem hsql.1

/-- A sound chunk has a placeholder for each of its values. -/
theorem AllSound.marked (h : AllSound cs) {c : Chunk} (hc : c ∈ cs) :
    Marked c.sql c.bindings.length := by
  have hsound := h c hc
  cases c with
  | text s => exact hsound
  | value v => exact (by decide : Marked "?" 1)
  | verbatim sql bindings => exact hsound

/-- The tokens of a sound chunk are those of its text. -/
theorem AllSound.tokens_eq (h : AllSound cs) {c : Chunk} (hc : c ∈ cs) (seen : Nat) :
    c.tokens seen = FluentSql.tokens false seen c.sql.toList := by
  cases c with
  | text s => exact (tokens_of_marksOutside_eq_zero (h.marked hc).count seen).symm
  | value v => simp [tokens, FluentSql.tokens, sql]
  | verbatim sql bindings => rfl

/-- The tokens of the statement that sound chunks make up are those of the chunks.

**Proof sketch.** By induction on the chunks. A sound chunk closes its literals, so what follows it
is read as if it stood alone, with its markers counted on from those before. -/
theorem AllSound.tokens_allSql :
    ∀ {cs : List Chunk}, AllSound cs → ∀ seen : Nat,
      FluentSql.tokens false seen (allSql cs).toList = numbered seen cs
  | [], _, seen => by simp [FluentSql.tokens, numbered]
  | c :: cs, h, seen => by
    have hrest : AllSound cs := ((allHave_cons c cs).mp h).2
    have ih := AllSound.tokens_allSql hrest (seen + c.bindings.length)
    rw [allSql_cons, String.toList_append, (h.marked List.mem_cons_self).tokens_append, ih,
      numbered, h.tokens_eq List.mem_cons_self]

/-- The statement that sound chunks make up closes its literals, and has a placeholder for every
value. -/
theorem AllSound.marked_allSql :
    ∀ {cs : List Chunk}, AllSound cs → Marked (allSql cs) (allBindings cs).length
  | [], _ => by simpa using (by decide : Marked "" 0)
  | c :: cs, h => by
    have hrest : AllSound cs := ((allHave_cons c cs).mp h).2
    have ih := AllSound.marked_allSql hrest
    rw [allSql_cons, allBindings_cons, List.length_append]
    exact (h.marked List.mem_cons_self).append ih

/-- The statement that sound chunks make up is translated for every driver.

**Proof sketch.** Every chunk closes its literals, so that the scan for placeholders starts anew
with the next one, counting on from the placeholders that the chunk had, which are as many as its
values. -/
theorem AllSound.translated (h : AllSound cs) (style : PlaceholderStyle) : Translates style cs where
  count := by
    rw [← h.tokens_allSql, markers_tokens, h.marked_allSql.count]
  place before c after hcs := by
    have hc : c ∈ cs := by simp [hcs]
    rw [h.tokens_eq hc, markers_tokens, (h.marked hc).count]
  text := by rw [style.translate_eq_write, h.tokens_allSql]
  read := by rw [← h.tokens_allSql, style.read_translate_iff]

end Chunk

end FluentSql
