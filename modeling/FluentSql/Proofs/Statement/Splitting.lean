import FluentSql.Proofs.Statement.Compound
import Mathlib.Tactic.IntervalCases

set_option autoImplicit false

/-!
# Taking the text of a union apart

The lexemes of a union are found again in its text. A set operator, the end of a sub-select, and the
order or the pages at the end of the whole stand outside quotes and parentheses, and an operand goes
on until one of them comes. So a text can be taken apart in one way only, as long as no operand has
one of them outside quotes and parentheses, which verbatim SQL may bring in.

## Main definitions

* `FluentSql.isSealed` — whether the text of an operand does not end before it is over.
* `FluentSql.splitOperand` — splits the operand at its beginning off a text.
* `FluentSql.rendered` — the text of lexemes.
* `FluentSql.ReadsAs` — a text reads as a compound, with something after it.

## Main results

* `FluentSql.eq_of_rendered_eq`, `FluentSql.ReadsAs.unique` — a text is taken apart and read in one
  way.
* `FluentSql.Descriptor.select_reads_as_compound` — how the text of a query is read.
-/

namespace FluentSql

/-! ## Where operands end -/

/-- The words with which the end of a query may begin. -/
def endWords : List (List Char) := [" ORDER BY ".toList, " LIMIT ".toList, " OFFSET ".toList]

/-- The words at which an operand ends: a set operator, or the end of a query. -/
def stopWords : List (List Char) := " UNION ".toList :: endWords

/-- Whether a text is what may follow the operands of a query. -/
def isEnding (cs : List Char) : Bool := cs.isEmpty || endWords.any (·.isPrefixOf cs)

/-- Whether an operand ends where a text begins, be it at a word or at the end of a sub-select. -/
def stops (cs : List Char) : Bool := cs.head? == some ')' || stopWords.any (·.isPrefixOf cs)

/-- How deep in parentheses a place of a text is, and whether it is within quotes. -/
structure Nesting where
  depth : Nat := 0
  quoted : Bool := false
  deriving DecidableEq, Repr, Inhabited

namespace Nesting

/-- Whether a place is outside quotes and parentheses. -/
def outside (n : Nesting) : Bool := n.depth == 0 && !n.quoted

/-- The place after a character. -/
def next (n : Nesting) (c : Char) : Nesting :=
  if c = '\'' then { n with quoted := !n.quoted }
  else if n.quoted then n
  else if c = '(' then { n with depth := n.depth + 1 }
  else if c = ')' then { n with depth := n.depth - 1 }
  else n

end Nesting

/-- Splits a text where its first operand ends. -/
def splitOperand (n : Nesting) : List Char → List Char × List Char
  | [] => ([], [])
  | c :: cs =>
    if n.outside && stops (c :: cs) then ([], c :: cs)
    else (c :: (splitOperand (n.next c) cs).1, (splitOperand (n.next c) cs).2)

/-- Whether an operand goes on to its end, also if a space follows, and ends outside quotes and
parentheses. -/
def closes (n : Nesting) : List Char → Bool
  | [] => n.outside
  | c :: cs => !(n.outside && stops (c :: cs ++ [' '])) && closes (n.next c) cs

/-- Whether a text is a query that does not end before it is over, and no sub-select. -/
def isSealed (s : String) : Bool :=
  "SELECT ".toList.isPrefixOf s.toList && !"SELECT * FROM (".toList.isPrefixOf s.toList &&
    closes {} s.toList

/-! ## Splitting off operands -/

/-- A word at which operands end is cut by the end of an operand at its last space, if at all. -/
theorem drop_stopWord {w : List Char} (hw : w ∈ stopWords) {n : Nat} (hpos : 0 < n)
    (hlt : n < w.length) : w.drop n = [' '] ∨ ∀ rest, stops (w.drop n ++ rest) = false := by
  simp only [stopWords, endWords, List.mem_cons, List.not_mem_nil, or_false] at hw
  rcases hw with rfl | rfl | rfl | rfl <;> simp at hlt <;> interval_cases n <;>
    first | exact .inl rfl | exact .inr fun _ => rfl

/-- Where an operand ends before what follows it, it ends before a space. -/
theorem stops_append_space {v rest : List Char} (hv : v ≠ [])
    (hrest : rest = [] ∨ stops rest = true) (h : stops (v ++ rest) = true) :
    stops (v ++ [' ']) = true := by
  obtain ⟨c, v, rfl⟩ := List.exists_cons_of_ne_nil hv
  rw [stops, Bool.or_eq_true] at h ⊢
  refine h.imp id fun hwords => ?_
  obtain ⟨w, hw, hprefix⟩ := List.any_eq_true.mp hwords
  refine List.any_eq_true.mpr ⟨w, hw, ?_⟩
  rw [List.isPrefixOf_iff_prefix] at hprefix ⊢
  obtain ⟨x, hx⟩ := hprefix
  rcases List.append_eq_append_iff.mp hx with ⟨as, hv', -⟩ | ⟨bs, hw', hrest'⟩
  · exact ⟨as ++ [' '], by rw [hv', List.append_assoc]⟩
  · -- The word is cut, and what is left of it starts what follows.
    rcases bs with _ | ⟨b, bs⟩
    · exact ⟨[' '], by rw [hw', List.append_nil]⟩
    · have hlt : (c :: v).length < w.length := by
        rw [hw']
        simp
      have hleft : w.drop (c :: v).length = b :: bs := by rw [hw', List.drop_left]
      rcases drop_stopWord hw (List.length_pos_iff.mpr hv) hlt with hspace | hnever
      · exact ⟨[], by rw [hw', ← hleft, hspace, List.append_nil]⟩
      · rw [hleft] at hnever
        rcases hrest with hnil | hstops
        · rw [hnil] at hrest'
          cases hrest'
        · rw [hrest', hnever] at hstops
          cases hstops

/-- What closes is split off where what follows it stops. -/
theorem splitOperand_append {rest : List Char} (hrest : rest = [] ∨ stops rest = true) :
    ∀ (cs : List Char) (n : Nesting), closes n cs = true → splitOperand n (cs ++ rest) = (cs, rest)
  | [], n, h => by
    rw [List.nil_append]
    rcases hrest with rfl | hstops
    · rfl
    · cases rest with
      | nil => rfl
      | cons c rest =>
        rw [closes] at h
        rw [splitOperand, h, hstops]
        rfl
  | c :: cs, n, h => by
    rw [closes, Bool.and_eq_true, Bool.not_eq_true'] at h
    obtain ⟨hgoes, hcloses⟩ := h
    have hrec := splitOperand_append hrest cs (n.next c) hcloses
    have hon : (n.outside && stops (c :: (cs ++ rest))) = false := by
      cases houtside : n.outside with
      | false => rfl
      | true =>
        rw [houtside, Bool.true_and] at hgoes
        rw [Bool.true_and]
        refine Bool.eq_false_iff.mpr fun hstops => ?_
        rw [stops_append_space (List.cons_ne_nil c cs) hrest hstops] at hgoes
        cases hgoes
    rw [List.cons_append, splitOperand, hon, hrec]
    rfl

/-- The operand at the beginning of a text is what is split off from it. -/
theorem splitOperand_of_isSealed {s : String} (h : isSealed s = true) {rest : List Char}
    (hrest : rest = [] ∨ stops rest = true) :
    splitOperand {} (s.toList ++ rest) = (s.toList, rest) := by
  rw [isSealed, Bool.and_eq_true] at h
  exact splitOperand_append hrest s.toList {} h.2

/-- The operand at the beginning of a sub-select begins as one. -/
theorem prefix_splitOperand_opening (cs : List Char) :
    "SELECT * FROM (".toList <+: (splitOperand {} ("SELECT * FROM (".toList ++ cs)).1 :=
  ⟨(splitOperand { depth := 1 } cs).1, rfl⟩

/-! ## Taking lexemes apart -/

/-- The text of lexemes, one directly after the other. -/
def rendered (ws : List (Lexeme String)) : String := String.join (ws.map Lexeme.text)

/-- Whether lexemes alternate between operands and what stands between them; `operand` says whether
an operand comes first. -/
def alternates {α : Type} : (operand : Bool) → List (Lexeme α) → Bool
  | true, .operand _ :: ws => alternates false ws
  | true, .opening :: ws => alternates true ws
  | false, [] => true
  | false, .link _ :: ws => alternates true ws
  | false, .closing :: ws => alternates false ws
  | _, _ => false

mutual

/-- After a compound no operand comes. -/
theorem IsCompound.alternates_append {α : Type} {ws : List (Lexeme α)} {t : Compound α} :
    IsCompound ws t → ∀ rest, alternates true (ws ++ rest) = alternates false rest
  | .first only => only.alternates_append
  | .link left operator right => fun rest => by
    rw [List.append_assoc, left.alternates_append, List.cons_append, alternates,
      right.alternates_append]

/-- After an operand no operand comes. -/
theorem IsOperand.alternates_append {α : Type} {ws : List (Lexeme α)} {t : Compound α} :
    IsOperand ws t → ∀ rest, alternates true (ws ++ rest) = alternates false rest
  | .query a => fun rest => rfl
  | .group inner => fun rest => by
    rw [List.cons_append, List.append_assoc, alternates, inner.alternates_append]
    rfl

end

/-- The lexemes of a compound alternate. -/
theorem IsCompound.alternates {α : Type} {ws : List (Lexeme α)} {t : Compound α}
    (h : IsCompound ws t) : alternates true ws = true := by
  have happend := h.alternates_append []
  rwa [List.append_nil] at happend

/-- The operands among lexemes are sealed. -/
def AllSealed (ws : List (Lexeme String)) : Prop := ∀ a, .operand a ∈ ws → isSealed a = true

/-- The operands among later lexemes are sealed. -/
theorem AllSealed.tail {w : Lexeme String} {ws : List (Lexeme String)} (h : AllSealed (w :: ws)) :
    AllSealed ws := fun a ha => h a (List.mem_cons_of_mem w ha)

/-- Lexemes are written from the first on. -/
theorem toList_rendered_cons (w : Lexeme String) (ws : List (Lexeme String)) :
    (rendered (w :: ws)).toList = w.text.toList ++ (rendered ws).toList := by
  simp [rendered]

/-- Where no operand comes first, an operand before it ends. -/
theorem stops_of_alternates {ws : List (Lexeme String)} (h : alternates false ws = true)
    {rest : List Char} (hrest : isEnding rest = true) :
    (rendered ws).toList ++ rest = [] ∨ stops ((rendered ws).toList ++ rest) = true := by
  cases ws with
  | nil =>
    rw [isEnding, Bool.or_eq_true, List.isEmpty_iff] at hrest
    refine hrest.imp id fun hend => ?_
    obtain ⟨w, hw, hprefix⟩ := List.any_eq_true.mp hend
    rw [stops, Bool.or_eq_true]
    exact .inr (List.any_eq_true.mpr ⟨w, List.mem_cons_of_mem _ hw, hprefix⟩)
  | cons w ws =>
    rw [toList_rendered_cons, List.append_assoc]
    cases w with
    | operand a => cases h
    | opening => cases h
    | link operator => cases operator <;> exact .inr rfl
    | closing => exact .inr rfl

/-- Where an operand comes first, a query begins. -/
theorem exists_cons_of_alternates {ws : List (Lexeme String)} (h : alternates true ws = true)
    (hsealed : AllSealed ws) (rest : List Char) :
    ∃ cs, (rendered ws).toList ++ rest = 'S' :: cs := by
  cases ws with
  | nil => cases h
  | cons w ws =>
    rw [toList_rendered_cons, List.append_assoc]
    cases w with
    | operand a =>
      have ha := hsealed a List.mem_cons_self
      rw [isSealed, Bool.and_eq_true, Bool.and_eq_true, List.isPrefixOf_iff_prefix] at ha
      obtain ⟨cs, hcs⟩ := ha.1.1
      rw [Lexeme.text, ← hcs]
      exact ⟨_, rfl⟩
    | opening => exact ⟨_, rfl⟩
    | link operator => cases h
    | closing => cases h

/-- A sealed operand does not begin as a sub-select. -/
theorem not_prefix_of_isSealed {s : String} (h : isSealed s = true) :
    ¬ "SELECT * FROM (".toList <+: s.toList := by
  rw [isSealed, Bool.and_eq_true, Bool.and_eq_true, Bool.not_eq_true'] at h
  intro hprefix
  rw [← List.isPrefixOf_iff_prefix, h.1.2] at hprefix
  cases hprefix

/-- Where lexemes and an ending begin with an operand, what follows it stops. -/
theorem splitOperand_rendered {a : String} {ws : List (Lexeme String)} {rest : List Char}
    (h : alternates true (.operand a :: ws) = true) (hsealed : AllSealed (.operand a :: ws))
    (hrest : isEnding rest = true) :
    splitOperand {} ((rendered (.operand a :: ws)).toList ++ rest) =
      (a.toList, (rendered ws).toList ++ rest) := by
  rw [toList_rendered_cons, List.append_assoc]
  exact splitOperand_of_isSealed (hsealed a List.mem_cons_self) (stops_of_alternates h hrest)

/-- Lexemes and an ending that begin with an operand do not begin with a sub-select. -/
theorem rendered_operand_ne_opening {a : String} {ws ws' : List (Lexeme String)}
    {rest rest' : List Char} (h : alternates true (.operand a :: ws) = true)
    (hsealed : AllSealed (.operand a :: ws)) (hrest : isEnding rest = true) :
    (rendered (.operand a :: ws)).toList ++ rest ≠
      (rendered (.opening :: ws')).toList ++ rest' := by
  intro heq
  have hprefix := prefix_splitOperand_opening ((rendered ws').toList ++ rest')
  have hopening : (rendered (.opening :: ws')).toList ++ rest' =
      "SELECT * FROM (".toList ++ ((rendered ws').toList ++ rest') := by
    rw [toList_rendered_cons, List.append_assoc]
    rfl
  rw [← hopening, ← heq, splitOperand_rendered h hsealed hrest] at hprefix
  exact not_prefix_of_isSealed (hsealed a List.mem_cons_self) hprefix

/-- Lexemes and an ending that begin with a lexeme, up to the lexeme. -/
theorem rendered_cons_append (w : Lexeme String) (ws : List (Lexeme String)) (rest : List Char) :
    (rendered (w :: ws)).toList ++ rest = w.text.toList ++ ((rendered ws).toList ++ rest) := by
  rw [toList_rendered_cons, List.append_assoc]

/-- A text that begins with a set operator begins with no other. -/
theorem link_eq_of_rendered_eq {o o' : SetOperator} {ws ws' : List (Lexeme String)}
    {rest rest' : List Char} (h : alternates true ws = true) (h' : alternates true ws' = true)
    (hsealed : AllSealed ws) (hsealed' : AllSealed ws')
    (heq : (rendered (.link o :: ws)).toList ++ rest =
      (rendered (.link o' :: ws')).toList ++ rest') : o = o' := by
  obtain ⟨cs, hcs⟩ := exists_cons_of_alternates h hsealed rest
  obtain ⟨cs', hcs'⟩ := exists_cons_of_alternates h' hsealed' rest'
  rw [rendered_cons_append, rendered_cons_append, hcs, hcs'] at heq
  -- After the space that both begin with, one goes on with a query and the other with `ALL`.
  cases o <;> cases o' <;> first | rfl | simp [Lexeme.text, SetOperator.keyword] at heq

/-- Without lexemes there is the ending alone. -/
theorem rendered_nil_append (rest : List Char) : (rendered []).toList ++ rest = rest := rfl

/-- Whether an operand comes after a lexeme. -/
def Lexeme.awaits {α : Type} : Lexeme α → Bool
  | operand _ => false
  | closing => false
  | link _ => true
  | opening => true

/-- What comes after a lexeme alternates. -/
theorem alternates_tail {operand : Bool} {w : Lexeme String} {ws : List (Lexeme String)}
    (h : alternates operand (w :: ws) = true) : alternates w.awaits ws = true := by
  cases operand <;> cases w <;> first | exact h | cases h

/-- What begins with a lexeme where lexemes may be over is no ending. -/
theorem ne_of_isEnding {operand : Bool} {w : Lexeme String} {ws : List (Lexeme String)}
    {rest rest' : List Char} (h : alternates operand ([] : List (Lexeme String)) = true)
    (h' : alternates operand (w :: ws) = true) (hrest : isEnding rest = true) :
    rest ≠ (rendered (w :: ws)).toList ++ rest' := by
  cases operand with
  | true => cases h
  | false =>
    rintro rfl
    rw [rendered_cons_append] at hrest
    cases w with
    | operand a => cases h'
    | opening => cases h'
    | link operator => cases operator <;> cases hrest
    | closing => cases hrest

/-- Texts that are the same begin with the same lexeme. -/
theorem head_eq_of_rendered_eq {operand : Bool} {w w' : Lexeme String}
    {ws ws' : List (Lexeme String)} {rest rest' : List Char}
    (h : alternates operand (w :: ws) = true) (h' : alternates operand (w' :: ws') = true)
    (hsealed : AllSealed (w :: ws)) (hsealed' : AllSealed (w' :: ws'))
    (hrest : isEnding rest = true) (hrest' : isEnding rest' = true)
    (heq : (rendered (w :: ws)).toList ++ rest = (rendered (w' :: ws')).toList ++ rest') :
    w = w' := by
  cases operand with
  | true =>
    cases w with
    | link operator => cases h
    | closing => cases h
    | operand a =>
      cases w' with
      | link operator => cases h'
      | closing => cases h'
      | opening => exact absurd heq (rendered_operand_ne_opening h hsealed hrest)
      | operand a' =>
        have hsplit := splitOperand_rendered h hsealed hrest
        rw [heq, splitOperand_rendered h' hsealed' hrest'] at hsplit
        rw [String.toList_inj.mp (congrArg Prod.fst hsplit)]
    | opening =>
      cases w' with
      | link operator => cases h'
      | closing => cases h'
      | opening => rfl
      | operand a => exact absurd heq.symm (rendered_operand_ne_opening h' hsealed' hrest')
  | false =>
    cases w with
    | operand a => cases h
    | opening => cases h
    | link operator =>
      cases w' with
      | operand a => cases h'
      | opening => cases h'
      | link operator' =>
        rw [link_eq_of_rendered_eq (alternates_tail h) (alternates_tail h') hsealed.tail
          hsealed'.tail heq]
      | closing =>
        rw [rendered_cons_append, rendered_cons_append] at heq
        cases operator <;> simp [Lexeme.text] at heq
    | closing =>
      cases w' with
      | operand a => cases h'
      | opening => cases h'
      | closing => rfl
      | link operator =>
        rw [rendered_cons_append, rendered_cons_append] at heq
        cases operator <;> simp [Lexeme.text] at heq

/-- A text is taken apart into lexemes and an ending in one way, if the operands are sealed.

**Proof sketch.** By induction on the lexemes. Where one list has a lexeme the other cannot be over.
The two first lexemes are the same, because the text of a sealed operand is what is split off at the
next word at which operands end; so both may be taken off. -/
theorem eq_of_rendered_eq {operand : Bool} {ws ws' : List (Lexeme String)} {rest rest' : List Char}
    (h : alternates operand ws = true) (h' : alternates operand ws' = true)
    (hsealed : AllSealed ws) (hsealed' : AllSealed ws') (hrest : isEnding rest = true)
    (hrest' : isEnding rest' = true)
    (heq : (rendered ws).toList ++ rest = (rendered ws').toList ++ rest') :
    ws = ws' ∧ rest = rest' := by
  induction ws generalizing operand ws' with
  | nil =>
    cases ws' with
    | nil => exact ⟨rfl, heq⟩
    | cons w' ws' =>
      rw [rendered_nil_append] at heq
      exact absurd heq (ne_of_isEnding h h' hrest)
  | cons w ws ih =>
    cases ws' with
    | nil =>
      rw [rendered_nil_append] at heq
      exact absurd heq.symm (ne_of_isEnding h' h hrest')
    | cons w' ws' =>
      obtain rfl : w = w' := head_eq_of_rendered_eq h h' hsealed hsealed' hrest hrest' heq
      rw [rendered_cons_append, rendered_cons_append] at heq
      obtain ⟨rfl, hend⟩ := ih (alternates_tail h) (alternates_tail h') hsealed.tail hsealed'.tail
        (List.append_cancel_left heq)
      exact ⟨rfl, hend⟩

/-! ## The text of a query -/

/-- A text reads as a compound of the texts of queries, with something after it that may follow the
operands of a query. -/
def ReadsAs (sql : String) (t : Compound String) (rest : String) : Prop :=
  isEnding rest.toList = true ∧
    ∃ ws : List (Lexeme String), IsCompound ws t ∧ AllSealed ws ∧ sql = rendered ws ++ rest

/-- A text reads in one way.

**Proof sketch.** Two readings take the text apart into lexemes and an ending. These are the same by
`eq_of_rendered_eq`, and so are the compounds by `IsCompound.unique`. -/
theorem ReadsAs.unique {sql rest rest' : String} {t t' : Compound String}
    (h : ReadsAs sql t rest) (h' : ReadsAs sql t' rest') : t = t' ∧ rest = rest' := by
  obtain ⟨hrest, ws, hws, hsealed, heq⟩ := h
  obtain ⟨hrest', ws', hws', hsealed', heq'⟩ := h'
  have htexts : (rendered ws).toList ++ rest.toList = (rendered ws').toList ++ rest'.toList := by
    rw [← String.toList_append, ← heq, heq', String.toList_append]
  obtain ⟨rfl, hend⟩ := eq_of_rendered_eq hws.alternates hws'.alternates hsealed hsealed' hrest
    hrest' htexts
  exact ⟨hws.unique hws', String.toList_inj.mp hend⟩

namespace Descriptor

/-- The text that a query compiles to, if it compiles. -/
def text (d : Descriptor) : String :=
  match d.select with
  | .ok s => s.sql
  | .error _ => ""

/-- What follows the operands of a query may follow operands. -/
theorem isEnding_ending (d : Descriptor) : isEnding d.ending.sql.toList = true := by
  cases ho : d.order.isEmpty <;> cases hl : d.limit.isNull <;> cases hf : d.offset.isNull <;>
    simp [ending, ho, hl, hf, isEnding, endWords, List.isPrefixOf]

end Descriptor

mutual

/-- The operands of lexemes are those of the compound that is read. -/
theorem IsCompound.mem_operands {α : Type} {ws : List (Lexeme α)} {t : Compound α} {a : α} :
    IsCompound ws t → .operand a ∈ ws → a ∈ t.operands
  | .first only => only.mem_operands
  | .link left operator right => fun h => by
    rcases List.mem_append.mp h with hleft | hright
    · exact List.mem_append_left _ (left.mem_operands hleft)
    · rcases List.mem_cons.mp hright with heq | hright
      · cases heq
      · exact List.mem_append_right _ (right.mem_operands hright)

/-- The operands of the lexemes of an operand are those of what is read. -/
theorem IsOperand.mem_operands {α : Type} {ws : List (Lexeme α)} {t : Compound α} {a : α} :
    IsOperand ws t → .operand a ∈ ws → a ∈ t.operands
  | .query b => fun h => by
    rcases List.mem_singleton.mp h with heq
    cases heq
    exact List.mem_singleton_self a
  | .group inner => fun h => by
    rcases List.mem_cons.mp h with heq | h
    · cases heq
    · rcases List.mem_append.mp h with hinner | hend
      · exact inner.mem_operands hinner
      · cases List.mem_singleton.mp hend

end

/-- Lexemes that compile are written as their texts. -/
theorem sql_of_spelled_eq_ok {ws : List (Lexeme Descriptor)} :
    ∀ {s : Statement}, spelled ws = .ok s →
      s.sql = rendered (ws.map (Lexeme.map Descriptor.text)) := by
  induction ws with
  | nil =>
    intro s h
    cases h
    rfl
  | cons w ws ih =>
    intro s h
    rw [spelled_cons] at h
    obtain ⟨first, hfirst, h⟩ := bind_eq_ok.mp h
    obtain ⟨others, hothers, h⟩ := bind_eq_ok.mp h
    cases h
    have hword : first.sql = (w.map Descriptor.text).text := by
      cases w with
      | operand d =>
        rw [Lexeme.map, Lexeme.text, Descriptor.text, show d.select = .ok first from hfirst]
      | link operator | opening | closing =>
        cases hfirst
        rfl
    rw [Statement.append, hword, ih hothers]
    simp [rendered]

/-- The text of a query reads as the compound that it describes, followed by its ending. -/
theorem Descriptor.readsAs_of_select_eq_ok {d : Descriptor} {s : Statement} (h : d.select = .ok s)
    (hsealed : ∀ q ∈ d.compound.operands, isSealed q.text = true) :
    ReadsAs s.sql (d.compound.map text) d.ending.sql := by
  rw [select_eq_spelled] at h
  obtain ⟨body, hbody, rfl⟩ := map_eq_ok.mp h
  refine ⟨d.isEnding_ending, _, d.isCompound_lexemes.map text, fun a ha => ?_, ?_⟩
  · obtain ⟨w, hw, hmap⟩ := List.mem_map.mp ha
    cases w with
    | operand q =>
      cases hmap
      exact hsealed q (d.isCompound_lexemes.mem_operands hw)
    | link operator | opening | closing => cases hmap
  · rw [Statement.append, sql_of_spelled_eq_ok hbody]

/-- How the text of a query is read. Its statement is that of its lexemes with its own ending after
them, so its order, its limit and its offset come once, and what is bound to these comes last. Read
from the left to the right, the lexemes are the compound that the query describes, and no other; no
operand is a union or has an order, a limit or an offset, and those of parts play no part. Where the
operands are sealed, the text alone says as much: it reads as this compound and nothing else.

**Proof sketch.** The chunks that the compiler joins are those of the lexemes, by induction over the
query and its parts. Reading is a walk with a stack of open sub-selects, which has one outcome. The
lexemes of a text are found one by one: where an operand is due, its end is the first place outside
quotes and parentheses where a set operator, an ending or the end of a sub-select begins. -/
theorem Descriptor.select_reads_as_compound (d : Descriptor) :
    d.select = (spelled d.lexemes).map (·.append d.ending) ∧
      (∀ t, IsCompound d.lexemes t ↔ t = d.compound) ∧
      (∀ q ∈ d.compound.operands,
        q.unions = [] ∧ q.order = [] ∧ q.limit = .null ∧ q.offset = .null) ∧
      (∀ d' : Descriptor, d'.unpaged = d.unpaged → d'.select = d.select) ∧
      ∀ s, d.select = .ok s → (∀ q ∈ d.compound.operands, isSealed q.text = true) →
        ∀ t rest, ReadsAs s.sql t rest ↔ t = d.compound.map text ∧ rest = d.ending.sql := by
  refine ⟨d.select_eq_spelled, fun t => ?_, fun q hq => ?_, fun d' h => ?_, fun s hs hsealed => ?_⟩
  · constructor
    · intro h
      exact h.unique d.isCompound_lexemes
    · rintro rfl
      exact d.isCompound_lexemes
  · rw [← d.core_eq_of_mem_operands q hq]
    exact ⟨rfl, rfl, rfl, rfl⟩
  · rw [← d'.select_unpaged, h, d.select_unpaged]
  · intro t rest
    have hreads := readsAs_of_select_eq_ok hs hsealed
    constructor
    · intro h
      exact h.unique hreads
    · rintro ⟨rfl, rfl⟩
      exact hreads

/-- All orders: those at hand, the archived ones together with those lost, and the drafts. The first
part is itself a union, and what it is limited to plays no part. -/
def allOrders : Descriptor :=
  { Descriptor.new "orders" with
    order := [⟨"id", .desc⟩]
    limit := .int 20
    unions := [
      ⟨.unionAll, { Descriptor.new "archive" with
        wheres := [.basic "year" .lt (.int 2020) .and]
        limit := .int 5
        unions := [⟨.union, { Descriptor.new "lost" with offset := .int 3 }⟩] }⟩,
      ⟨.union, Descriptor.new "drafts"⟩] }

/-- The text of all orders reads as their parts do. -/
theorem Descriptor.select_reads_as_compound_allOrders :
    ∃ s, allOrders.select = .ok s ∧
      s.sql = "SELECT * FROM orders UNION ALL SELECT * FROM (SELECT * FROM archive " ++
        "WHERE year < ? UNION SELECT * FROM lost) union_branch UNION SELECT * FROM drafts " ++
        "ORDER BY id DESC LIMIT ?" ∧
      s.bindings = [.int 2020, .int 20] ∧
      ReadsAs s.sql
        (.combined
          (.combined (.operand "SELECT * FROM orders") .unionAll
            (.combined (.operand "SELECT * FROM archive WHERE year < ?") .union
              (.operand "SELECT * FROM lost")))
          .union (.operand "SELECT * FROM drafts"))
        " ORDER BY id DESC LIMIT ?" := by
  obtain ⟨s, hs, hsql, hbindings⟩ : ∃ s, allOrders.select = .ok s ∧
      s.sql = "SELECT * FROM orders UNION ALL SELECT * FROM (SELECT * FROM archive " ++
        "WHERE year < ? UNION SELECT * FROM lost) union_branch UNION SELECT * FROM drafts " ++
        "ORDER BY id DESC LIMIT ?" ∧
      s.bindings = [.int 2020, .int 20] := ⟨_, rfl, by decide +kernel, rfl⟩
  obtain ⟨-, -, -, -, hreads⟩ := allOrders.select_reads_as_compound
  have hsealed : ∀ q ∈ allOrders.compound.operands, isSealed q.text = true := by decide +kernel
  refine ⟨s, hs, hsql, hbindings, (hreads s hs hsealed _ _).mpr ⟨?_, ?_⟩⟩
  · decide +kernel
  · decide +kernel

end FluentSql
