import FluentSql.Proofs.Statement.Markers

set_option autoImplicit false

/-!
# Literals, and placeholders outside of them

A text is made of characters that stand for themselves, of placeholders, and of literals in single
quotes. Two quotes inside a literal stand for one and do not end it; the last literal may be left
open. This says of every text where its placeholders are, in one way only, and the scan for
placeholders, which does nothing but turn over at every quote, finds just these.

A driver with percent marks is strict: after a percent sign it takes a second one, or the letter of
a marker, and nothing else.

## Main definitions

* `FluentSql.IsLiteralBody`, `FluentSql.HasTokens` — the tokens of a text, a literal at a time.
* `FluentSql.readStrictly` — what a strict driver with percent marks reads.

## Main results

* `FluentSql.hasTokens_iff` — the tokens of a text are those that the scan finds.
* `FluentSql.readStrictly_written` — what is written with percent marks is read back strictly.
* `FluentSql.PlaceholderStyle.translate_reads_back` — what a driver gets to read.
-/

namespace FluentSql

/-! ## The tokens of a text -/

/-- What may stand between the quotes of a literal: a quote only together with a second one. -/
inductive IsLiteralBody : List Char → Prop
  | nil : IsLiteralBody []
  | char {c : Char} {body : List Char} (hquote : c ≠ '\'') (rest : IsLiteralBody body) :
    IsLiteralBody (c :: body)
  | quote {body : List Char} (rest : IsLiteralBody body) : IsLiteralBody ('\'' :: '\'' :: body)

/-- A text has some tokens, its placeholders numbered on from those `seen` before. A literal ends
with a quote that no second one follows, or with the text. -/
inductive HasTokens : Nat → List Char → List Token → Prop
  | nil {seen : Nat} : HasTokens seen [] []
  | char {seen : Nat} {c : Char} {rest : List Char} {ts : List Token} (hquote : c ≠ '\'')
    (hmark : c ≠ '?') (h : HasTokens seen rest ts) : HasTokens seen (c :: rest) (.char c :: ts)
  | mark {seen : Nat} {rest : List Char} {ts : List Token} (h : HasTokens (seen + 1) rest ts) :
    HasTokens seen ('?' :: rest) (.marker (seen + 1) :: ts)
  | literal {seen : Nat} {body rest : List Char} {ts : List Token} (hbody : IsLiteralBody body)
    (hend : rest.head? ≠ some '\'') (h : HasTokens seen rest ts) :
    HasTokens seen ('\'' :: (body ++ '\'' :: rest))
      (.char '\'' :: (body.map .char ++ .char '\'' :: ts))
  | openLiteral {seen : Nat} {body : List Char} (hbody : IsLiteralBody body) :
    HasTokens seen ('\'' :: body) (.char '\'' :: body.map .char)

/-! ### What the scan finds -/

/-- At a quote the scan turns over. -/
theorem tokens_quote (inLiteral : Bool) (seen : Nat) (rest : List Char) :
    tokens inLiteral seen ('\'' :: rest) = .char '\'' :: tokens (!inLiteral) seen rest := rfl

/-- Inside of a literal every character but a quote stands for itself. -/
theorem tokens_inside {c : Char} (hquote : c ≠ '\'') (seen : Nat) (rest : List Char) :
    tokens true seen (c :: rest) = .char c :: tokens true seen rest := by
  rw [tokens, if_neg (by simpa using hquote), if_neg (by simp)]

/-- Outside of literals every character but a quote and a placeholder stands for itself. -/
theorem tokens_outside {c : Char} (hquote : c ≠ '\'') (hmark : c ≠ '?') (seen : Nat)
    (rest : List Char) : tokens false seen (c :: rest) = .char c :: tokens false seen rest := by
  rw [tokens, if_neg (by simpa using hquote), if_neg (by simpa using hmark)]

/-- Outside of literals a placeholder is counted. -/
theorem tokens_mark (seen : Nat) (rest : List Char) :
    tokens false seen ('?' :: rest) = .marker (seen + 1) :: tokens false (seen + 1) rest := rfl

/-- The scan comes out of what stands between the quotes of a literal as it went in: at a doubled
quote it turns over twice. -/
theorem IsLiteralBody.tokens_append {body : List Char} (h : IsLiteralBody body) (seen : Nat)
    (rest : List Char) :
    tokens true seen (body ++ rest) = body.map .char ++ tokens true seen rest := by
  induction h with
  | nil => rfl
  | char hquote _ ih => rw [List.cons_append, tokens_inside hquote, ih, List.map_cons,
      List.cons_append]
  | quote _ ih =>
    rw [List.cons_append, List.cons_append, tokens_quote, tokens_quote, Bool.not_not, ih,
      List.map_cons, List.map_cons, List.cons_append, List.cons_append]

/-- A text that follows a quote closes the literal somewhere, or is inside of it to its end. -/
theorem exists_isLiteralBody : ∀ cs : List Char,
    (∃ body rest, IsLiteralBody body ∧ rest.head? ≠ some '\'' ∧ cs = body ++ '\'' :: rest) ∨
      IsLiteralBody cs
  | [] => .inr .nil
  | [c] => by
    by_cases hquote : c = '\''
    · exact .inl ⟨[], [], .nil, by simp, by rw [hquote, List.nil_append]⟩
    · exact .inr (.char hquote .nil)
  | c :: d :: rest => by
    by_cases hquote : c = '\''
    · subst hquote
      by_cases hdouble : d = '\''
      · subst hdouble
        rcases exists_isLiteralBody rest with ⟨body, after, hbody, hend, rfl⟩ | hbody
        · exact .inl ⟨'\'' :: '\'' :: body, after, .quote hbody, hend, rfl⟩
        · exact .inr (.quote hbody)
      · exact .inl ⟨[], d :: rest, .nil, by simpa using hdouble, rfl⟩
    · rcases exists_isLiteralBody (d :: rest) with ⟨body, after, hbody, hend, hrest⟩ | hbody
      · exact .inl ⟨c :: body, after, .char hquote hbody, hend, by rw [hrest, List.cons_append]⟩
      · exact .inr (.char hquote hbody)

/-- The scan finds the tokens of a text. -/
theorem HasTokens.eq_tokens {seen : Nat} {cs : List Char} {ts : List Token}
    (h : HasTokens seen cs ts) : ts = tokens false seen cs := by
  induction h with
  | nil => rfl
  | char hquote hmark _ ih => rw [tokens_outside hquote hmark, ih]
  | mark _ ih => rw [tokens_mark, ih]
  | literal hbody _ _ ih =>
    rw [tokens_quote, Bool.not_false, hbody.tokens_append, tokens_quote, Bool.not_true, ih]
  | @openLiteral seen body hbody =>
    have hscan := hbody.tokens_append seen []
    rw [List.append_nil, tokens, List.append_nil] at hscan
    rw [tokens_quote, Bool.not_false, hscan]

/-- What the scan finds are tokens of the text.

By recursion on the text, a literal at a time, so the texts that come up are not the tails of one
another. -/
theorem hasTokens_tokens (seen : Nat) : (cs : List Char) → HasTokens seen cs (tokens false seen cs)
  | [] => .nil
  | c :: rest => by
    by_cases hquote : c = '\''
    · subst hquote
      rcases exists_isLiteralBody rest with ⟨body, after, hbody, hend, hrest⟩ | hbody
      · have hshorter : after.length < rest.length := by
          rw [hrest, List.length_append, List.length_cons]
          omega
        have hafter := HasTokens.literal hbody hend (hasTokens_tokens seen after)
        rw [hafter.eq_tokens, ← hrest] at hafter
        exact hafter
      · have hopen : HasTokens seen ('\'' :: rest) _ := .openLiteral hbody
        exact hopen.eq_tokens ▸ hopen
    · by_cases hmark : c = '?'
      · subst hmark
        rw [tokens_mark]
        exact .mark (hasTokens_tokens (seen + 1) rest)
      · rw [tokens_outside hquote hmark]
        exact .char hquote hmark (hasTokens_tokens seen rest)
  termination_by cs => cs.length

/-- A text has the tokens that the scan finds, and no others. -/
theorem hasTokens_iff {seen : Nat} {cs : List Char} {ts : List Token} :
    HasTokens seen cs ts ↔ ts = tokens false seen cs :=
  ⟨HasTokens.eq_tokens, fun h => h ▸ hasTokens_tokens seen cs⟩

/-! ## Reading strictly -/

/-- What a strict driver with percent marks reads from left to right, where every percent sign is
doubled or belongs to a marker. -/
def readStrictly (seen : Nat) : List Char → Option (List Token)
  | [] => some []
  | [c] => if c = '%' then none else some [.char c]
  | c :: d :: rest =>
    if c = '%' then
      if d = 's' then (readStrictly (seen + 1) rest).map (.marker (seen + 1) :: ·)
      else if d = '%' then (readStrictly seen rest).map (.char '%' :: ·)
      else none
    else (readStrictly seen (d :: rest)).map (.char c :: ·)

/-- A character that is no percent sign is read as itself. -/
theorem readStrictly_cons {c : Char} (hpercent : c ≠ '%') (seen : Nat) (rest : List Char) :
    readStrictly seen (c :: rest) = (readStrictly seen rest).map (.char c :: ·) := by
  cases rest with
  | nil => simp [readStrictly, hpercent]
  | cons d rest => rw [readStrictly, if_neg hpercent]

/-- What is written for a character is read as the character, before whatever comes next. -/
theorem readStrictly_written_char (c : Char) (seen : Nat) (rest : List Char) :
    readStrictly seen (PlaceholderStyle.percent.written (.char c) ++ rest) =
      (readStrictly seen rest).map (.char c :: ·) := by
  rw [PlaceholderStyle.written]
  by_cases hpercent : c = '%'
  · subst hpercent
    rfl
  · rw [if_neg (by simpa using hpercent), List.singleton_append, readStrictly_cons hpercent]

/-- What is written with percent marks for the tokens of a text is read back strictly, wherever in
the text and in whichever literal one begins.

**Proof sketch.** By induction on the text. A percent sign is written twice and read as one, every
other character is written as it is, and a marker is the only thing written with a single percent
sign. -/
theorem readStrictly_written (inLiteral : Bool) (seen : Nat) (cs : List Char) :
    readStrictly seen ((tokens inLiteral seen cs).flatMap PlaceholderStyle.percent.written) =
      some (tokens inLiteral seen cs) := by
  induction cs generalizing inLiteral seen with
  | nil => rfl
  | cons c rest ih =>
    rw [tokens]
    split
    · rw [List.flatMap_cons, readStrictly_written_char, ih, Option.map_some]
    · split
      · have hmarker : ∀ ds, readStrictly seen
            (PlaceholderStyle.percent.written (.marker (seen + 1)) ++ ds) =
              (readStrictly (seen + 1) ds).map (.marker (seen + 1) :: ·) := fun ds => rfl
        rw [List.flatMap_cons, hmarker, ih, Option.map_some]
      · rw [List.flatMap_cons, readStrictly_written_char, ih, Option.map_some]

/-! ## What a driver gets to read -/

namespace PlaceholderStyle

theorem ofName_percent {name : String} (h : name = "format" ∨ name = "pyformat") :
    ofName name = .percent := by
  rcases h with rfl | rfl <;> decide

theorem ofName_numbered {name : String} (hplain : name ≠ "qmark") (hformat : name ≠ "format")
    (hpyformat : name ≠ "pyformat") : ofName name = .numbered := by
  simp [ofName, hplain, hformat, hpyformat]

/-- Every text has tokens, in one way only: it is what its tokens are with a `?` for every marker,
where the markers are the `?` outside of its literals, numbered from 1. A strict driver with percent
marks reads just these tokens from the text that is translated for it, and meets no percent sign
that it does not know. For a driver with numbered marks, the translated text is the text with `:k`
in the place of the marker `k`.

**Proof sketch.** The scan for placeholders turns over at every quote, so it passes a doubled quote
inside of a literal in two turns and comes out of the literal with the quote that closes it. What it
writes for a character or a marker is read as that, whatever comes next, since no percent sign is
written but the first of two characters that belong together. -/
theorem translate_reads_back (sql : String) :
    ∃ ts, HasTokens 0 sql.toList ts ∧ (∀ ts', HasTokens 0 sql.toList ts' → ts' = ts) ∧
      question.write ts = sql ∧
      (∀ name, name = "format" ∨ name = "pyformat" →
        readStrictly 0 ((ofName name).translate sql).toList = some ts) ∧
      (∀ name, name ≠ "qmark" → name ≠ "format" → name ≠ "pyformat" →
        (ofName name).translate sql = numbered.write ts) := by
  refine ⟨tokens false 0 sql.toList, hasTokens_iff.mpr rfl, fun ts' => hasTokens_iff.mp, ?_,
    fun name hname => ?_, fun name hplain hformat hpyformat => ?_⟩
  · rw [← translate_eq_write]
    rfl
  · rw [ofName_percent hname, translate_eq_write, write, String.toList_ofList,
      readStrictly_written]
  · rw [ofName_numbered hplain hformat hpyformat, translate_eq_write]

/-- A text with placeholders, percent signs and a doubled quote inside of a literal and outside, and
a literal that it leaves open. -/
def discounts : String := "a%s = ? AND b LIKE '100%?''?' AND c % ? = '%s?"

/-- The two placeholders outside of its literals are markers, and its percent signs stand for
themselves. -/
theorem translate_reads_back_discounts :
    ("pyformat" = "format" ∨ "pyformat" = "pyformat") ∧
    (ofName "pyformat").translate discounts =
      "a%%s = %s AND b LIKE '100%%?''?' AND c %% %s = '%%s?" ∧
    readStrictly 0 ((ofName "pyformat").translate discounts).toList =
      some ("a%s = ".toList.map .char ++ .marker 1 ::
        (" AND b LIKE '100%?''?' AND c % ".toList.map .char ++ .marker 2 ::
          " = '%s?".toList.map .char)) ∧
    "named" ≠ "qmark" ∧ "named" ≠ "format" ∧ "named" ≠ "pyformat" ∧
    (ofName "named").translate discounts =
      "a%s = :1 AND b LIKE '100%?''?' AND c % :2 = '%s?" := by
  obtain ⟨ts, hts, -, -, hpercent, hnumbered⟩ := translate_reads_back discounts
  have hvalue : ts = "a%s = ".toList.map .char ++ .marker 1 ::
      (" AND b LIKE '100%?''?' AND c % ".toList.map .char ++ .marker 2 ::
        " = '%s?".toList.map .char) := hts.eq_tokens.trans (by decide +kernel)
  rw [hvalue] at hpercent hnumbered
  refine ⟨.inr rfl, by decide +kernel, hpercent "pyformat" (.inr rfl), by decide, by decide,
    by decide, (hnumbered "named" (by decide) (by decide) (by decide)).trans ?_⟩
  decide +kernel

end PlaceholderStyle

end FluentSql
