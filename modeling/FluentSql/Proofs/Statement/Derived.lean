import FluentSql.Proofs.Statement.Grammar

set_option autoImplicit false

/-!
# Which statements are derived

An operator that does not compare has operands of its own after it, or none: in every statement that
is derived, a list follows a membership, two bounds follow a range, and neither the mark of a bound
value nor a verbatim text follows a test for null. A comparison with such an operator is written
like any other comparison, so its statement is not derived; and no other statement of a query that
validation accepts fails to be.

## Main definitions

* `FluentSql.Grammar.Placed` — every operator has its operands after it.

## Main results

* `FluentSql.Grammar.IsStatement.placed_append` — in a statement, every operator has.
* `FluentSql.Descriptor.exists_select` — typed queries compile.
* `FluentSql.Descriptor.select_derived_iff` — which statements of accepted queries are derived.
-/

namespace FluentSql

namespace Grammar

/-! ## Where operators stand -/

/-- What follows neither starts with the mark of a bound value nor with a verbatim text. -/
def Closes (ts : List Terminal) : Prop :=
  (∀ us, ts ≠ .blank :: .mark :: us) ∧ ∀ a us, ts ≠ .blank :: .atom a :: us

/-- What is written after an operator: the operators that do not compare have operands of their own,
or none. -/
def Follows : Operator → List Terminal → Prop
  | .isIn, ts | .notIn, ts => ∃ us, ts = .blank :: .word "(" :: us
  | .between, ts | .notBetween, ts =>
    ∃ us, ts = .blank :: .mark :: .blank :: .word "AND" :: .blank :: .mark :: us
  | .isNull, ts | .isNotNull, ts => Closes ts
  | _, _ => True

/-- Every operator has its operands after it. -/
def Placed : List Terminal → Prop
  | [] => True
  | .operator o :: ts => Follows o ts ∧ Placed ts
  | _ :: ts => Placed ts

/-- Whatever may follow an operator that compares. -/
theorem follows_of_compares {o : Operator} (h : o.compares = true) (ts : List Terminal) :
    Follows o ts := by
  cases o <;> first | exact trivial | cases h

@[simp] theorem placed_word (s : String) (ts : List Terminal) :
    Placed (.word s :: ts) ↔ Placed ts := Iff.rfl

@[simp] theorem placed_mark (ts : List Terminal) : Placed (.mark :: ts) ↔ Placed ts := Iff.rfl

@[simp] theorem placed_atom (s : String) (ts : List Terminal) :
    Placed (.atom s :: ts) ↔ Placed ts := Iff.rfl

@[simp] theorem placed_blank (ts : List Terminal) : Placed (.blank :: ts) ↔ Placed ts := Iff.rfl

@[simp] theorem placed_operator (o : Operator) (ts : List Terminal) :
    Placed (.operator o :: ts) ↔ Follows o ts ∧ Placed ts := Iff.rfl

/-- What stands at the end has its operands. -/
theorem Placed.of_append {us : List Terminal} :
    ∀ (ts : List Terminal), Placed (ts ++ us) → Placed us
  | [], h => h
  | .operator _ :: ts, h => Placed.of_append ts h.2
  | .word _ :: ts, h | .mark :: ts, h | .atom _ :: ts, h | .blank :: ts, h => Placed.of_append ts h

@[simp] theorem closes_nil : Closes [] := by simp [Closes]

@[simp] theorem closes_word (s : String) (ts : List Terminal) : Closes (.word s :: ts) := by
  simp [Closes]

@[simp] theorem closes_blank_word (s : String) (ts : List Terminal) :
    Closes (.blank :: .word s :: ts) := by
  simp [Closes]

/-! ### Parts without operators -/

/-- There are no operators. -/
def Free (ts : List Terminal) : Prop := ∀ o, .operator o ∉ ts

@[simp] theorem free_nil : Free [] := by simp [Free]

@[simp] theorem free_cons (t : Terminal) (ts : List Terminal) :
    Free (t :: ts) ↔ (∀ o, t ≠ .operator o) ∧ Free ts := by
  simp [Free, forall_and, eq_comm]

@[simp] theorem free_append (ts us : List Terminal) : Free (ts ++ us) ↔ Free ts ∧ Free us := by
  simp [Free, forall_and]

/-- Where there are no operators, there is nothing to place. -/
theorem Free.placed_append {ts us : List Terminal} (hts : Free ts) (hus : Placed us) :
    Placed (ts ++ us) := by
  induction ts with
  | nil => exact hus
  | cons t ts ih =>
    have hrest := ih ((free_cons t ts).mp hts).2
    cases t with
    | operator o => exact absurd List.mem_cons_self (hts o)
    | word s | mark | atom s | blank => exact hrest

/-- If there is anything, it starts with a word after a blank. -/
def Leads (ts : List Terminal) : Prop := ts = [] ∨ ∃ s us, ts = .blank :: .word s :: us

/-- What leads up to something that closes closes as well. -/
theorem Leads.closes_append {ts us : List Terminal} (h : Leads ts) (hus : Closes us) :
    Closes (ts ++ us) := by
  obtain rfl | ⟨s, vs, rfl⟩ := h
  · exact hus
  · exact closes_blank_word s _

section

variable {part : List Terminal → Prop} {ts : List Terminal}

theorem IsOptional.free (hpart : ∀ us, part us → Free us) : IsOptional part ts → Free ts
  | .none => free_nil
  | .some h => hpart _ h

theorem IsOptional.leads (hpart : ∀ us, part us → Leads us) : IsOptional part ts → Leads ts
  | .none => .inl rfl
  | .some h => hpart _ h

theorem IsListed.free (hpart : ∀ us, part us → Free us) (h : IsListed part ts) : Free ts := by
  induction h with
  | one h => exact hpart _ h
  | more h _ ih => simpa using ⟨hpart _ h, ih⟩

theorem IsAtom.free (h : IsAtom ts) : Free ts := by
  obtain ⟨a, rfl⟩ := h
  simp

theorem IsMark.free (h : IsMark ts) : Free ts := by
  rw [h]
  simp

theorem IsItems.free (h : IsItems ts) : Free ts := by
  cases h with
  | every => simp
  | aggregate function column label => simp
  | items h => exact h.free fun _ => IsAtom.free

theorem IsHead.free (h : IsHead ts) : Free ts := by
  obtain ⟨hdistinct, hitems, table, halias⟩ := h
  have hd := hdistinct.free (by rintro _ rfl; simp)
  have ha := halias.free (by rintro _ ⟨a, rfl⟩; simp)
  simp [hd, ha, hitems.free]

theorem IsJoins.free (h : IsJoins ts) : Free ts := by
  induction h with
  | none => exact free_nil
  | join kind table condition _ ih => simpa using ih

theorem IsGroups.free (h : IsGroups ts) : Free ts := by
  obtain ⟨columns, hcolumns, rfl⟩ := h
  simpa using hcolumns.free fun _ => IsAtom.free

theorem IsGroups.leads (h : IsGroups ts) : Leads ts := by
  obtain ⟨columns, -, rfl⟩ := h
  exact .inr ⟨_, _, rfl⟩

theorem IsEnding.free (h : IsEnding ts) : Free ts := by
  obtain ⟨horder, hlimit, hoffset⟩ := h
  have hkeys : ∀ us, IsOrder us → Free us := by
    rintro _ ⟨keys, hkeys, rfl⟩
    simpa using hkeys.free (by rintro _ ⟨column, direction, rfl⟩; simp)
  have ho := horder.free hkeys
  have hl := hlimit.free (by rintro _ rfl; simp)
  have hf := hoffset.free (by rintro _ rfl; simp)
  simp [ho, hl, hf]

theorem IsEnding.leads (h : IsEnding ts) : Leads ts := by
  obtain ⟨horder, hlimit, hoffset⟩ := h
  cases horder with
  | some h =>
    obtain ⟨keys, -, rfl⟩ := h
    exact .inr ⟨_, _, rfl⟩
  | none =>
    cases hlimit with
    | some h =>
      cases h
      exact .inr ⟨_, _, rfl⟩
    | none => exact hoffset.leads (by rintro _ rfl; exact .inr ⟨_, _, rfl⟩)

end

theorem IsClause.leads {cmp : Operator → Prop} {keyword : String} {ts : List Terminal} :
    IsClause cmp keyword ts → Leads ts
  | .none _ => .inl rfl
  | .some _ _ => .inr ⟨_, _, rfl⟩

/-! ### Derivations -/

mutual

/-- In a predicate, every operator has its operands after it. -/
theorem IsPredicate.placed_append {ts : List Terminal} :
    IsPredicate (·.compares = true) ts → ∀ us, Closes us → Placed us → Placed (ts ++ us)
  | .compare _ ho, us, _, hus | .columns _ ho _, us, _, hus => ⟨follows_of_compares ho _, hus⟩
  | .member _ ho h, us, _, hus => by
    have hvalues := (h.free fun _ => IsMark.free).placed_append ((placed_word ")" us).mpr hus)
    obtain rfl | rfl := ho <;> simpa [Follows] using hvalues
  | .never, us, _, hus | .always, us, _, hus | .verbatim _, us, _, hus => hus
  | .null _ ho, us, hcloses, hus => by
    obtain rfl | rfl := ho <;> exact ⟨hcloses, hus⟩
  | .between _ ho, us, _, hus => by
    obtain rfl | rfl := ho <;> exact ⟨⟨us, rfl⟩, hus⟩
  | .exist hnegation h, us, _, hus => by
    have hstatement := h.placed_append (.word ")" :: us) (closes_word _ _) hus
    cases hnegation with
    | none => simpa using hstatement
    | some h =>
      cases h
      simpa using hstatement

/-- In a condition, every operator has its operands after it. -/
theorem IsCondition.placed_append {ts : List Terminal} :
    IsCondition (·.compares = true) ts → ∀ us, Closes us → Placed us → Placed (ts ++ us)
  | .one h, us, hcloses, hus => h.placed_append us hcloses hus
  | .more h logical hlast, us, hcloses, hus => by
    have hrest := hlast.placed_append us hcloses hus
    simpa using h.placed_append (.blank :: .word logical.keyword :: .blank :: (_ ++ us))
      (closes_blank_word _ _) hrest

/-- In a clause, every operator has its operands after it. -/
theorem IsClause.placed_append {keyword : String} {ts : List Terminal} :
    IsClause (·.compares = true) keyword ts → ∀ us, Closes us → Placed us → Placed (ts ++ us)
  | .none _, _, _, hus => hus
  | .some _ h, us, hcloses, hus => h.placed_append us hcloses hus

/-- In a query by itself, every operator has its operands after it. -/
theorem IsCore.placed_append {ts : List Terminal} :
    IsCore (·.compares = true) ts → ∀ us, Closes us → Placed us → Placed (ts ++ us)
  | .mk hhead hjoins hwheres hgroups hhavings, us, hcloses, hus => by
    have hh := hhavings.placed_append us hcloses hus
    have hg := (hgroups.free fun _ => IsGroups.free).placed_append hh
    have hend := hhavings.leads.closes_append hcloses
    have hw := hwheres.placed_append _
      ((hgroups.leads fun _ => IsGroups.leads).closes_append hend) hg
    simpa using hhead.free.placed_append (hjoins.free.placed_append hw)

/-- In an operand, every operator has its operands after it. -/
theorem IsOperand.placed_append {ts : List Terminal} :
    IsOperand (·.compares = true) ts → ∀ us, Closes us → Placed us → Placed (ts ++ us)
  | .core h, us, hcloses, hus => h.placed_append us hcloses hus
  | .nested h, us, _, hus => by
    simpa using h.placed_append (.word ")" :: .blank :: .word "union_branch" :: us)
      (closes_word _ _) hus

/-- In the body of a query, every operator has its operands after it. -/
theorem IsBody.placed_append {ts : List Terminal} :
    IsBody (·.compares = true) ts → ∀ us, Closes us → Placed us → Placed (ts ++ us)
  | .core h, us, hcloses, hus => h.placed_append us hcloses hus
  | .more h operator hlast, us, hcloses, hus => by
    have hrest := hlast.placed_append us hcloses hus
    simpa using h.placed_append (.blank :: .word operator.keyword :: .blank :: (_ ++ us))
      (closes_blank_word _ _) hrest

/-- In a statement, every operator has its operands after it, whatever follows the statement.

**Proof sketch.** A comparison is followed by its operand in its own production, and the body is
over where the end of the statement or what follows that begins. -/
theorem IsStatement.placed_append {ts : List Terminal} :
    IsStatement (·.compares = true) ts → ∀ us, Closes us → Placed us → Placed (ts ++ us)
  | .mk h hend, _, hcloses, hus => by
    simpa using h.placed_append _ (hend.leads.closes_append hcloses) (hend.free.placed_append hus)

end

/-! ### Queries -/

/-- What follows does not make a range of what is compared with a bound value. -/
def EndsRange (ts : List Terminal) : Prop :=
  ∀ us, ts ≠ .blank :: .word "AND" :: .blank :: .mark :: us

@[simp] theorem endsRange_nil : EndsRange [] := by simp [EndsRange]

@[simp] theorem endsRange_word (s : String) (ts : List Terminal) : EndsRange (.word s :: ts) := by
  simp [EndsRange]

/-- A word other than the one in ranges. -/
theorem endsRange_blank_word {s : String} (h : s ≠ "AND") (ts : List Terminal) :
    EndsRange (.blank :: .word s :: ts) := by
  simp [EndsRange, h]

/-- What compares with a bound value, and has its operands after it. -/
theorem compares_of_follows_mark {o : Operator} {ts : List Terminal}
    (h : Follows o (.blank :: .mark :: ts)) (hts : EndsRange ts) : o.compares = true := by
  cases o with
  | isIn | notIn =>
    obtain ⟨us, hus⟩ := h
    simp at hus
  | between | notBetween =>
    obtain ⟨us, hus⟩ := h
    simp only [List.cons.injEq, true_and] at hus
    exact absurd hus (hts us)
  | isNull | isNotNull => exact absurd rfl (h.1 ts)
  | _ => rfl

/-- What compares with a column, and has its operands after it. -/
theorem compares_of_follows_atom {o : Operator} {a : String} {ts : List Terminal}
    (h : Follows o (.blank :: .atom a :: ts)) : o.compares = true := by
  cases o with
  | isIn | notIn | between | notBetween =>
    obtain ⟨us, hus⟩ := h
    simp at hus
  | isNull | isNotNull => exact absurd rfl (h.2 a ts)
  | _ => rfl

/-- A predicate does not start with the mark of a bound value. -/
theorem terminals_append_ne_mark (p : Predicate) (ts us : List Terminal) :
    p.terminals ++ ts ≠ .mark :: us := by
  cases p with
  | member column values negated logical =>
    rw [Predicate.terminals]
    split <;> simp
  | exist query negated logical => cases negated <;> simp [Predicate.terminals]
  | _ => simp [Predicate.terminals]

/-- Predicates after their connectives do not make a range. -/
theorem endsRange_ledTerminals (ps : List Predicate) {ts : List Terminal} (h : EndsRange ts) :
    EndsRange (ledTerminals none ps ++ ts) := by
  cases ps with
  | nil => exact h
  | cons p ps =>
    intro us hus
    simp only [ledTerminals, List.append_assoc, List.cons_append, List.nil_append,
      List.cons.injEq, true_and] at hus
    exact terminals_append_ne_mark p _ us hus.2

/-- Predicates after a keyword do not make a range. -/
theorem endsRange_ledTerminals_some {keyword : String} (h : keyword ≠ "AND") (ps : List Predicate)
    {ts : List Terminal} (hts : EndsRange ts) :
    EndsRange (ledTerminals (some keyword) ps ++ ts) := by
  cases ps with
  | nil => exact hts
  | cons p ps => exact endsRange_blank_word h _

/-- Columns that rows are grouped by do not make a range. -/
theorem endsRange_groupTerminals (groups : List String) {ts : List Terminal} (h : EndsRange ts) :
    EndsRange (groupTerminals groups ++ ts) := by
  rw [groupTerminals]
  split
  · exact h
  · exact endsRange_blank_word (by decide) _

/-- Parts of a union do not make a range. -/
theorem endsRange_unionTerminals (parts : List UnionPart) {ts : List Terminal} (h : EndsRange ts) :
    EndsRange (unionTerminals parts ++ ts) := by
  cases parts with
  | nil => exact h
  | cons part parts =>
    obtain ⟨operator, query⟩ := part
    rw [unionTerminals]
    cases operator <;> exact endsRange_blank_word (by decide) _

/-- The end of a query does not make a range. -/
theorem endsRange_endTerminals (d : Descriptor) {ts : List Terminal} (h : EndsRange ts) :
    EndsRange (d.endTerminals ++ ts) := by
  rw [Descriptor.endTerminals]
  cases d.order.isEmpty <;> cases d.limit.isNull <;> cases d.offset.isNull <;>
    first | exact h | exact endsRange_blank_word (by decide) _

mutual

/-- If every operator has its operands after it, then what a predicate compares with compares. -/
theorem compares_of_placed_predicate : (p : Predicate) → {ts : List Terminal} → EndsRange ts →
    Placed (p.terminals ++ ts) → ∀ o ∈ p.operators, o.compares = true
  | .basic column operator _ _, ts, hts, h => by
    simp only [Predicate.operators, List.mem_singleton, forall_eq]
    simp only [Predicate.terminals, List.cons_append, List.nil_append, placed_atom, placed_blank,
      placed_operator] at h
    exact compares_of_follows_mark h.1 hts
  | .column column operator other _, ts, _, h => by
    simp only [Predicate.operators, List.mem_singleton, forall_eq]
    simp only [Predicate.terminals, List.cons_append, List.nil_append, placed_atom, placed_blank,
      placed_operator] at h
    exact compares_of_follows_atom h.1
  | .exist query negated _, ts, _, h => by
    have hbody : Placed (query.bodyTerminals ++ (query.endTerminals ++ .word ")" :: ts)) := by
      cases negated <;> simpa [Predicate.terminals] using h
    exact compares_of_placed_body query (endsRange_endTerminals query (endsRange_word _ _)) hbody
  | .raw .., _, _, _ | .member .., _, _, _ | .null .., _, _, _ | .between .., _, _, _
  | .unknown _, _, _, _ => by simp [Predicate.operators]

/-- If every operator has its operands after it, then what predicates compare with compares. -/
theorem compares_of_placed_predicates (keyword : Option String) : (ps : List Predicate) →
    {ts : List Terminal} → EndsRange ts → Placed (ledTerminals keyword ps ++ ts) →
      ∀ o ∈ predicatesOperators ps, o.compares = true
  | [], _, _, _ => by simp [predicatesOperators]
  | p :: ps, ts, hts, h => by
    rw [ledTerminals, List.append_assoc, List.append_assoc] at h
    have hp := compares_of_placed_predicate p (endsRange_ledTerminals ps hts) (h.of_append _)
    have hps := compares_of_placed_predicates none ps hts ((h.of_append _).of_append _)
    exact List.forall_mem_append.mpr ⟨hp, hps⟩

/-- If every operator has its operands after it, then what parts of a union compare with
compares. -/
theorem compares_of_placed_unions : (parts : List UnionPart) → {ts : List Terminal} →
    EndsRange ts → Placed (unionTerminals parts ++ ts) →
      ∀ o ∈ unionsOperators parts, o.compares = true
  | [], _, _, _ => by simp [unionsOperators]
  | ⟨operator, query⟩ :: parts, ts, hts, h => by
    have hrest := endsRange_unionTerminals parts hts
    have hquery : ∃ us, EndsRange us ∧ Placed (query.bodyTerminals ++ us) := by
      cases he : query.unions.isEmpty with
      | true =>
        refine ⟨_, hrest, ?_⟩
        simpa [unionTerminals, he] using h
      | false =>
        refine ⟨.word ")" :: .blank :: .word "union_branch" :: (unionTerminals parts ++ ts), ?_, ?_⟩
        · simp
        · simpa [unionTerminals, he] using h
    obtain ⟨us, hus, hbody⟩ := hquery
    rw [unionTerminals, List.append_assoc] at h
    have hparts := compares_of_placed_unions parts hts (h.of_append _)
    exact List.forall_mem_append.mpr ⟨compares_of_placed_body query hus hbody, hparts⟩

/-- If every operator has its operands after it, then what a query compares with compares. -/
theorem compares_of_placed_body : (d : Descriptor) → {ts : List Terminal} → EndsRange ts →
    Placed (d.bodyTerminals ++ ts) → ∀ o ∈ d.operators, o.compares = true
  | { wheres, havings, groups, unions, .. }, ts, hts, h => by
    have hu := endsRange_unionTerminals unions hts
    have hh : EndsRange (ledTerminals (some "HAVING") havings ++ _) :=
      endsRange_ledTerminals_some (by decide) havings hu
    have hg := endsRange_groupTerminals groups hh
    simp only [Descriptor.bodyTerminals, List.append_assoc] at h
    have hwheres := (h.of_append _).of_append _
    have hhavings := (hwheres.of_append _).of_append _
    have how := compares_of_placed_predicates _ wheres hg hwheres
    have hoh := compares_of_placed_predicates _ havings hu hhavings
    have hou := compares_of_placed_unions unions hts (hhavings.of_append _)
    exact List.forall_mem_append.mpr ⟨List.forall_mem_append.mpr ⟨how, hoh⟩, hou⟩

end

/-- What a query compares with compares, if its statement is derived where nothing else may. -/
theorem IsStatement.compares {d : Descriptor}
    (h : IsStatement (·.compares = true) d.terminals) : ∀ o ∈ d.operators, o.compares = true := by
  have hplaced := h.placed_append [] closes_nil trivial
  rw [List.append_nil] at hplaced
  exact compares_of_placed_body d (by simpa using endsRange_endTerminals d endsRange_nil) hplaced

end Grammar

/-! ## Typed queries compile -/

section

variable {P : Value → Prop}

mutual

/-- A typed predicate has chunks. -/
theorem Predicate.exists_chunks (part : String) : (p : Predicate) → p.TypedWith P →
    ∃ cs, p.chunks part = .ok cs
  | .basic .., _ | .column .., _ | .raw .., _ | .null .., _ | .between .., _ => ⟨_, rfl⟩
  | .member .., _ => by
    rw [Predicate.chunks]
    split <;> exact ⟨_, rfl⟩
  | .exist query _ _, h => by
    obtain ⟨body, hbody⟩ := query.exists_bodyChunks h
    rw [Predicate.chunks, hbody]
    exact ⟨_, rfl⟩

/-- Typed predicates have parts. -/
theorem exists_predicateParts (part : String) (first : Bool) : (ps : List Predicate) →
    PredicatesTyped P ps → ∃ parts, predicateParts part first ps = .ok parts
  | [], _ => ⟨_, rfl⟩
  | p :: ps, ⟨hp, hps⟩ => by
    obtain ⟨cs, hcs⟩ := p.exists_chunks part hp
    obtain ⟨parts, hparts⟩ := exists_predicateParts part false ps hps
    exact ⟨_, predicateParts_cons_eq_ok.mpr ⟨cs, hcs, parts, hparts, rfl⟩⟩

/-- Typed parts of a union have chunks. -/
theorem exists_unionChunks : (parts : List UnionPart) → UnionsTyped P parts →
    ∃ chunks, unionChunks parts = .ok chunks
  | [], _ => ⟨_, rfl⟩
  | ⟨operator, query⟩ :: parts, ⟨hquery, hparts⟩ => by
    obtain ⟨body, hbody⟩ := query.exists_bodyChunks hquery
    obtain ⟨rest, hrest⟩ := exists_unionChunks parts hparts
    rw [unionChunks, hbody, hrest]
    exact ⟨_, rfl⟩

/-- A typed query has chunks. -/
theorem Descriptor.exists_bodyChunks : (d : Descriptor) → d.TypedWith P →
    ∃ cs, d.bodyChunks = .ok cs
  | { wheres, havings, unions, .. }, ⟨_, hw, hh, hu⟩ => by
    obtain ⟨predicates, hpredicates⟩ := exists_predicateParts "WHERE" true wheres hw
    obtain ⟨conditions, hconditions⟩ := exists_predicateParts "HAVING" true havings hh
    obtain ⟨parts, hparts⟩ := exists_unionChunks unions hu
    rw [Descriptor.bodyChunks, hpredicates, hconditions, hparts]
    exact ⟨_, rfl⟩

end

/-- A typed query compiles. -/
theorem Descriptor.exists_select {d : Descriptor} (h : d.TypedWith P) : ∃ s, d.select = .ok s := by
  obtain ⟨body, hbody⟩ := d.exists_bodyChunks h
  rw [select_eq_map_chunks, chunks, hbody]
  exact ⟨_, rfl⟩

end

/-! ## What is accepted is derived -/

namespace Descriptor

open Grammar in
/-- A query that validation accepts compiles, and its statement is the texts of its terminals, of
which those that are opaque are verbatim texts of the query. It is derived in the grammar if every
operator may stand in a comparison; and in the grammar in which those alone may that compare two
operands, it is derived exactly if the comparisons of the query, and of those nested in it, have no
other operators.

**Proof sketch.** What is accepted is typed, so it compiles and is derived, by induction on the
query. Conversely, where operators that do not compare are derived, a list, two bounds or neither
a mark nor a verbatim text follows them, by induction on the derivation; so they do not stand in a
comparison, by induction on the query. -/
theorem select_derived_iff {v : Value} {d : Descriptor} (h : Descriptor.ofValue v = .accepted d) :
    ∃ s, d.select = .ok s ∧ s.sql = Terminal.allText d.terminals ∧
      (∀ a, .atom a ∈ d.terminals → a ∈ d.verbatim.map Chunk.sql) ∧
      IsStatement (fun _ => True) d.terminals ∧
      (IsStatement (·.compares = true) d.terminals ↔ ∀ o ∈ d.operators, o.compares = true) := by
  have htyped := typed_of_accepted h
  obtain ⟨s, hs⟩ := exists_select htyped
  have hderived : ∀ cmp : Operator → Prop, (∀ o ∈ d.operators, cmp o) →
      IsStatement cmp d.terminals := fun cmp ho =>
    .mk (isBody_bodyTerminals d htyped ho).1 (isEnding_endTerminals d)
  exact ⟨s, hs, sql_eq_allText hs, fun a ha => mem_verbatim_of_atom ha,
    hderived _ fun _ _ => trivial, IsStatement.compares, hderived _⟩

/-- A mapping with a comparison in a nested query, a membership and a range. -/
def overdue : Value :=
  .map [("table", .text "loans"), ("limit_value", .int 5), ("where_clauses", .list [
      .map [("type", .text "in"), ("column", .text "branch"), ("values", .list [.int 1, .int 2])],
      .map [("type", .text "exists"), ("logical", .text "OR"), ("subquery", .map [
        ("table", .text "fines"), ("where_clauses", .list [.map [("type", .text "between"),
          ("column", .text "amount"), ("bounds", .list [.int 1, .int 9])],
          .map [("type", .text "basic"), ("column", .text "state"), ("operator", .text "!="),
            ("value", .text "paid")]])])]])]

/-- `overdue` is derived in the grammar in which only comparisons compare. -/
theorem select_derived_iff_overdue :
    ∃ d s, Descriptor.ofValue overdue = .accepted d ∧ d.select = .ok s ∧
      s.sql = "SELECT * FROM loans WHERE branch IN (?, ?) OR EXISTS (SELECT * FROM fines " ++
        "WHERE amount BETWEEN ? AND ? AND state != ?) LIMIT ?" ∧
      s.sql = Terminal.allText d.terminals ∧
      Grammar.IsStatement (·.compares = true) d.terminals := by
  obtain ⟨s, hs, htext, -, -, hderived⟩ := @select_derived_iff overdue _ rfl
  refine ⟨_, s, rfl, hs, ?_, htext, hderived.mpr (by decide +kernel)⟩
  rw [htext]
  decide +kernel

/-- A mapping with a comparison whose operator tests for null. -/
def nullTest : Value :=
  .map [("table", .text "t"), ("where_clauses", .list [
    .map [("type", .text "basic"), ("column", .text "a"), ("operator", .text "IS NULL")]])]

/-- `nullTest` is accepted, and its statement is not derived in that grammar: the test is followed
by the mark of a bound value. -/
theorem select_not_derived_nullTest :
    ∃ d s, Descriptor.ofValue nullTest = .accepted d ∧ d.select = .ok s ∧
      s.sql = "SELECT * FROM t WHERE a IS NULL ?" ∧ s.sql = Terminal.allText d.terminals ∧
      ¬ Grammar.IsStatement (·.compares = true) d.terminals := by
  obtain ⟨s, hs⟩ := exists_select (@typed_of_accepted nullTest _ rfl)
  have htext := sql_eq_allText hs
  refine ⟨_, s, rfl, hs, ?_, htext, fun h => ?_⟩
  · rw [htext]
    decide +kernel
  · have hnull : Operator.compares .isNull = true := h.compares _ (by decide +kernel)
    cases hnull

end Descriptor

end FluentSql
