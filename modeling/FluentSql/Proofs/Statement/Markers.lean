import FluentSql.Placeholder
import Mathlib.Data.List.Basic

set_option autoImplicit false

/-!
# The markers that a driver reads

A statement is a run of characters and of marks for bound values, which are numbered from left to
right: these are its tokens. Every style of marks is a way of writing tokens down, and what is
written down is read back by the driver. The plain style and the percent style give the tokens back
whatever the text is. The numbered style has no escape for a colon: a colon before digits is read as
a mark, and a mark takes in the digits that follow it. So the tokens come back just if no colon and
no placeholder stands directly before a digit.

## Main definitions

* `FluentSql.Token` — a character or a marker.
* `FluentSql.tokens` — the tokens of a text.
* `FluentSql.PlaceholderStyle.write`, `FluentSql.PlaceholderStyle.read` — tokens as they are written
  for a driver, and as it reads them.
* `FluentSql.Unambiguous` — no colon and no placeholder stands directly before a digit.
* `FluentSql.Marked` — a text closes its literals, and has so many placeholders outside of them.

## Main results

* `FluentSql.PlaceholderStyle.translate_eq_write` — a text is translated by writing its tokens.
* `FluentSql.PlaceholderStyle.read_translate_iff` — when the driver reads the tokens.
* `FluentSql.Marked.tokens_append` — the tokens of texts that close their literals.
-/

namespace FluentSql

/-! ## Tokens -/

/-- A piece of a statement as a driver reads it: a character that stands for itself, or the marker
of a bound value. -/
inductive Token where
  | char (c : Char)
  | marker (k : Nat)
  deriving DecidableEq, Repr, Inhabited

/-- The marker that a token is. -/
def Token.marker? : Token → Option Nat
  | .char _ => none
  | .marker k => some k

/-- The markers among tokens, in order. -/
def markers (ts : List Token) : List Nat := ts.filterMap Token.marker?

/-- The tokens of a text: every `?` outside of a literal marks a bound value, of which `seen` were
marked before. -/
def tokens (inLiteral : Bool) (seen : Nat) : List Char → List Token
  | [] => []
  | c :: rest =>
    if c == '\'' then .char c :: tokens (!inLiteral) seen rest
    else if c == '?' && !inLiteral then .marker (seen + 1) :: tokens inLiteral (seen + 1) rest
    else .char c :: tokens inLiteral seen rest

/-! ## Writing and reading -/

namespace PlaceholderStyle

/-- A token as it is written for a driver. -/
def written : PlaceholderStyle → Token → List Char
  | .percent, .char c => if c == '%' then ['%', '%'] else [c]
  | .question, .char c | .numbered, .char c => [c]
  | .question, .marker _ => ['?']
  | .percent, .marker _ => ['%', 's']
  | .numbered, .marker k => ':' :: Nat.toDigits 10 k

/-- Tokens as they are written for a driver. -/
def write (style : PlaceholderStyle) (ts : List Token) : String :=
  String.ofList (ts.flatMap style.written)

/-- What a driver with percent marks reads, inside of literals and outside: `%s` is a marker, and a
percent sign is doubled. -/
def readPercent (seen : Nat) : List Char → List Token
  | '%' :: 's' :: rest => .marker (seen + 1) :: readPercent (seen + 1) rest
  | '%' :: '%' :: rest => .char '%' :: readPercent seen rest
  | c :: rest => .char c :: readPercent seen rest
  | [] => []

/-- What a driver with numbered marks reads: outside of literals, a colon with digits after it is a
marker. The first characters, of which the marker before is made up, are passed over. -/
def readNumbered : Nat → Bool → List Char → List Token
  | _, _, [] => []
  | passed + 1, inLiteral, _ :: rest => readNumbered passed inLiteral rest
  | 0, inLiteral, c :: rest =>
    if c == '\'' then .char c :: readNumbered 0 (!inLiteral) rest
    else if c == ':' && !inLiteral && rest.head?.any Char.isDigit then
      let digits := rest.takeWhile Char.isDigit
      .marker (Nat.ofDigitChars 10 digits 0) :: readNumbered digits.length inLiteral rest
    else .char c :: readNumbered 0 inLiteral rest

/-- What a driver reads. -/
def read (style : PlaceholderStyle) (sql : String) : List Token :=
  match style with
  | .question => tokens false 0 sql.toList
  | .percent => readPercent 0 sql.toList
  | .numbered => readNumbered 0 false sql.toList

/-! ### A text is translated by writing its tokens -/

/-- What the scan for marks makes of a text is what is written for its tokens. -/
theorem scan_eq (percent inLiteral : Bool) (seen : Nat) (cs : List Char) :
    scan percent inLiteral seen cs =
      (tokens inLiteral seen cs).flatMap (if percent then PlaceholderStyle.percent
        else .numbered).written := by
  induction cs generalizing inLiteral seen with
  | nil => rfl
  | cons c rest ih =>
    rw [scan, tokens]
    split
    · next hquote =>
      obtain rfl : c = '\'' := by simpa using hquote
      cases percent <;> simp [ih, written]
    · split
      · cases percent <;> simp [ih, written]
      · cases percent <;> by_cases hpercent : c = '%' <;> simp [ih, written, hpercent]

/-- Written plainly, tokens are the text that they are the tokens of. -/
theorem flatMap_written_question (inLiteral : Bool) (seen : Nat) (cs : List Char) :
    (tokens inLiteral seen cs).flatMap PlaceholderStyle.question.written = cs := by
  induction cs generalizing inLiteral seen with
  | nil => rfl
  | cons c rest ih =>
    rw [tokens]
    split
    · simp [ih, written]
    · split
      · next hmark =>
        obtain ⟨rfl, -⟩ : c = '?' ∧ inLiteral = false := by simpa using hmark
        simp [ih, written]
      · simp [ih, written]

/-- A text is translated by writing its tokens.

**Proof sketch.** The scan carries whether it is inside a literal and how many markers it has seen,
which is what the tokens are made with; so what it puts out for a character is what its token is
written as. -/
theorem translate_eq_write (style : PlaceholderStyle) (sql : String) :
    style.translate sql = style.write (tokens false 0 sql.toList) := by
  cases style with
  | question => rw [translate, write, flatMap_written_question, String.ofList_toList]
  | percent => rw [translate, write, scan_eq]; rfl
  | numbered => rw [translate, write, scan_eq]; rfl

/-! ### What is written is read back -/

/-- Percent marks are read back, whatever the text is. -/
theorem readPercent_written (inLiteral : Bool) (seen : Nat) (cs : List Char) :
    readPercent seen ((tokens inLiteral seen cs).flatMap PlaceholderStyle.percent.written) =
      tokens inLiteral seen cs := by
  induction cs generalizing inLiteral seen with
  | nil => rfl
  | cons c rest ih =>
    have hother : ∀ (c : Char) ds, c ≠ '%' → readPercent seen (c :: ds) =
        .char c :: readPercent seen ds := by
      intro c ds hc
      rw [readPercent] <;> simp [hc]
    rw [tokens]
    split
    · next hquote =>
      obtain rfl : c = '\'' := by simpa using hquote
      simp [written, hother, ih]
    · split
      · simp [written, readPercent, ih]
      · by_cases hpercent : c = '%'
        · simp [written, hpercent, readPercent, ih]
        · simp [written, hpercent, hother, ih]

/-- The first character that is written for the tokens of a text is a digit just if that of the text
is one. -/
theorem any_isDigit_written (inLiteral : Bool) (seen : Nat) (cs : List Char) :
    ((tokens inLiteral seen cs).flatMap PlaceholderStyle.numbered.written).head?.any Char.isDigit =
      cs.head?.any Char.isDigit := by
  cases cs with
  | nil => rfl
  | cons c rest =>
    rw [tokens]
    split
    · simp [written]
    · split
      · next hmark =>
        obtain ⟨rfl, -⟩ : c = '?' ∧ inLiteral = false := by simpa using hmark
        rfl
      · simp [written]

/-- A number does not get smaller by digits that follow it. -/
theorem le_ofDigitChars (ds : List Char) (n : Nat) : n ≤ Nat.ofDigitChars 10 ds n := by
  induction ds generalizing n with
  | nil => exact Nat.le_refl n
  | cons d ds ih =>
    rw [Nat.ofDigitChars_cons]
    exact Nat.le_trans (by omega) (ih _)

/-- What is passed over is not read. -/
theorem readNumbered_length (inLiteral : Bool) (ds rest : List Char) :
    readNumbered ds.length inLiteral (ds ++ rest) = readNumbered 0 inLiteral rest := by
  induction ds with
  | nil => rfl
  | cons d ds ih => rw [List.length_cons, List.cons_append, readNumbered, ih]

/-- A character that opens no marker is read as itself. -/
theorem readNumbered_char {c : Char} {inLiteral : Bool} {rest : List Char}
    (hquote : (c == '\'') = false)
    (h : (c == ':' && !inLiteral && rest.head?.any Char.isDigit) = false) :
    readNumbered 0 inLiteral (c :: rest) = .char c :: readNumbered 0 inLiteral rest := by
  rw [readNumbered, if_neg (by simp [hquote]), if_neg (by simp [h])]

/-- Outside of literals, a colon before digits is read as a marker. -/
theorem readNumbered_colon {rest : List Char} (h : rest.head?.any Char.isDigit = true) :
    readNumbered 0 false (':' :: rest) =
      .marker (Nat.ofDigitChars 10 (rest.takeWhile Char.isDigit) 0) ::
        readNumbered 0 false (rest.dropWhile Char.isDigit) := by
  rw [readNumbered, if_neg (by decide), if_pos (by simpa using h)]
  have hpassed := readNumbered_length false (rest.takeWhile Char.isDigit)
    (rest.dropWhile Char.isDigit)
  rw [List.takeWhile_append_dropWhile] at hpassed
  exact congrArg _ hpassed

/-- A marker takes in its own digits, and those that follow. -/
theorem readNumbered_marker {ds : List Char} (hne : ds ≠ []) (hds : ∀ d ∈ ds, d.isDigit = true)
    (rest : List Char) :
    readNumbered 0 false (':' :: (ds ++ rest)) =
      .marker (Nat.ofDigitChars 10 (rest.takeWhile Char.isDigit) (Nat.ofDigitChars 10 ds 0)) ::
        readNumbered 0 false (rest.dropWhile Char.isDigit) := by
  have hhead : (ds ++ rest).head?.any Char.isDigit = true := by
    cases ds with
    | nil => exact absurd rfl hne
    | cons d ds => simpa using hds d List.mem_cons_self
  rw [readNumbered_colon hhead, List.takeWhile_append_of_pos hds, List.dropWhile_append_of_pos hds,
    Nat.ofDigitChars_append]

end PlaceholderStyle

/-- Whether, outside of literals, no colon and no placeholder stands directly before a digit. -/
def unambiguous (inLiteral : Bool) : List Char → Bool
  | [] => true
  | c :: rest =>
    if c == '\'' then unambiguous (!inLiteral) rest
    else !((c == ':' || c == '?') && !inLiteral && rest.head?.any Char.isDigit) &&
      unambiguous inLiteral rest

/-- Outside of the literals of a text, no colon and no placeholder stands directly before a
digit. -/
def Unambiguous (sql : String) : Prop := unambiguous false sql.toList = true

instance : DecidablePred Unambiguous := fun sql =>
  inferInstanceAs (Decidable (unambiguous false sql.toList = true))

namespace PlaceholderStyle

/-- The marker of a bound value is read back just if no digit follows it. -/
theorem readNumbered_marker_eq_iff {k : Nat} (hk : 0 < k) {rest : List Char} {ts : List Token} :
    readNumbered 0 false (':' :: (Nat.toDigits 10 k ++ rest)) = .marker k :: ts ↔
      rest.head?.any Char.isDigit = false ∧ readNumbered 0 false rest = ts := by
  rw [readNumbered_marker Nat.toDigits_ne_nil
      (fun d hd => Nat.isDigit_of_mem_toDigits (by decide) (by decide) hd),
    Nat.ofDigitChars_ten_toDigits]
  cases hhead : rest.head?.any Char.isDigit with
  | false =>
    have hnone : rest.takeWhile Char.isDigit = [] ∧ rest.dropWhile Char.isDigit = rest := by
      cases rest with
      | nil => exact ⟨rfl, rfl⟩
      | cons c rest => simp_all
    rw [hnone.1, hnone.2, Nat.ofDigitChars_nil]
    simp
  | true =>
    obtain ⟨d, more, rfl, hd⟩ : ∃ d more, rest = d :: more ∧ d.isDigit = true := by
      cases rest with
      | nil => cases hhead
      | cons d more => exact ⟨d, more, rfl, by simpa using hhead⟩
    have hlarger : k < Nat.ofDigitChars 10 ((d :: more).takeWhile Char.isDigit) k := by
      rw [List.takeWhile_cons_of_pos hd, Nat.ofDigitChars_cons]
      exact Nat.lt_of_lt_of_le (by omega) (le_ofDigitChars _ _)
    simp [Nat.ne_of_gt hlarger]

/-- Numbered marks are read back just if the text is not ambiguous. -/
theorem readNumbered_written_iff (inLiteral : Bool) (seen : Nat) (cs : List Char) :
    readNumbered 0 inLiteral
        ((tokens inLiteral seen cs).flatMap PlaceholderStyle.numbered.written) =
      tokens inLiteral seen cs ↔ unambiguous inLiteral cs = true := by
  induction cs generalizing inLiteral seen with
  | nil => simp [tokens, readNumbered, unambiguous]
  | cons c rest ih =>
    have hwritten := any_isDigit_written inLiteral seen rest
    rw [tokens, unambiguous]
    split
    · next hquote =>
      obtain rfl : c = '\'' := by simpa using hquote
      simp [written, readNumbered, ih]
    · next hquote =>
      split
      · next hmark =>
        obtain ⟨rfl, rfl⟩ : c = '?' ∧ inLiteral = false := by simpa using hmark
        rw [List.flatMap_cons, written, List.cons_append,
          readNumbered_marker_eq_iff (Nat.succ_pos seen), any_isDigit_written, ih]
        simp
      · next hmark =>
        rw [List.flatMap_cons, written, List.singleton_append]
        cases hcolon : c == ':' && !inLiteral && rest.head?.any Char.isDigit with
        | false =>
          rw [readNumbered_char (by simpa using hquote) (by rw [hwritten]; exact hcolon)]
          have hmark' : (c == '?' && !inLiteral) = false := by simpa using hmark
          have hclear : ((c == ':' || c == '?') && !inLiteral && rest.head?.any Char.isDigit) =
              false := by
            cases inLiteral <;> simp_all
          simp [ih, hclear]
        | true =>
          -- A colon before digits is read as a marker, and is no such thing.
          obtain ⟨⟨rfl, rfl⟩, hdigit⟩ : (c = ':' ∧ inLiteral = false) ∧
              rest.head?.any Char.isDigit = true := by simpa using hcolon
          rw [readNumbered_colon (hwritten.trans hdigit)]
          simp [hdigit]

/-- A driver reads the tokens of a text that was translated for it, in the numbered style just if
the text is not ambiguous.

**Proof sketch.** The text is the writing of its tokens, by `translate_eq_write`. With question
marks and with percent marks the writing is undone by reading; with numbers a digit after a marker,
or a colon before one, may run into another. -/
theorem read_translate_iff (style : PlaceholderStyle) (sql : String) :
    style.read (style.translate sql) = tokens false 0 sql.toList ↔
      (style = .numbered → Unambiguous sql) := by
  rw [translate_eq_write, write]
  cases style with
  | question => simp [read, flatMap_written_question]
  | percent => simp [read, readPercent_written]
  | numbered => simp [read, readNumbered_written_iff, Unambiguous]

end PlaceholderStyle

/-! ## Texts that close their literals -/

/-- Whether a text leads into a literal. -/
def literalAfter (inLiteral : Bool) : List Char → Bool
  | [] => inLiteral
  | c :: rest => literalAfter (if c == '\'' then !inLiteral else inLiteral) rest

/-- The number of `?` in a text outside of its literals. -/
def marksOutside (inLiteral : Bool) : List Char → Nat
  | [] => 0
  | c :: rest =>
    if c == '\'' then marksOutside (!inLiteral) rest
    else if c == '?' && !inLiteral then marksOutside inLiteral rest + 1
    else marksOutside inLiteral rest

theorem literalAfter_append (inLiteral : Bool) (cs ds : List Char) :
    literalAfter inLiteral (cs ++ ds) = literalAfter (literalAfter inLiteral cs) ds := by
  induction cs generalizing inLiteral with
  | nil => rfl
  | cons c rest ih => rw [List.cons_append, literalAfter, ih, literalAfter]

theorem marksOutside_append (inLiteral : Bool) (cs ds : List Char) :
    marksOutside inLiteral (cs ++ ds) =
      marksOutside inLiteral cs + marksOutside (literalAfter inLiteral cs) ds := by
  induction cs generalizing inLiteral with
  | nil => simp [marksOutside, literalAfter]
  | cons c rest ih =>
    rw [List.cons_append, marksOutside, marksOutside, literalAfter]
    split
    · exact ih _
    · split
      · rw [ih, Nat.add_right_comm]
      · exact ih _

/-- The tokens of a text go on in those of the text that follows. -/
theorem tokens_append (inLiteral : Bool) (seen : Nat) (cs ds : List Char) :
    tokens inLiteral seen (cs ++ ds) = tokens inLiteral seen cs ++
      tokens (literalAfter inLiteral cs) (seen + marksOutside inLiteral cs) ds := by
  induction cs generalizing inLiteral seen with
  | nil => rfl
  | cons c rest ih =>
    rw [List.cons_append, tokens, tokens, literalAfter, marksOutside]
    split
    · rw [ih, List.cons_append]
    · split
      · rw [ih, List.cons_append, Nat.add_right_comm, Nat.add_assoc]
      · rw [ih, List.cons_append]

/-- The markers of a text are numbered on from those before. -/
theorem markers_tokens (inLiteral : Bool) (seen : Nat) (cs : List Char) :
    markers (tokens inLiteral seen cs) = List.range' (seen + 1) (marksOutside inLiteral cs) := by
  induction cs generalizing inLiteral seen with
  | nil => rfl
  | cons c rest ih =>
    rw [tokens, marksOutside]
    split
    · exact ih _ _
    · split
      · rw [List.range'_succ, ← ih]
        rfl
      · exact ih _ _

/-- Without placeholders outside of its literals, a text stands for itself. -/
theorem tokens_of_marksOutside_eq_zero {inLiteral : Bool} {cs : List Char}
    (h : marksOutside inLiteral cs = 0) (seen : Nat) :
    tokens inLiteral seen cs = cs.map .char := by
  induction cs generalizing inLiteral with
  | nil => rfl
  | cons c rest ih =>
    rw [marksOutside] at h
    rw [tokens]
    split at h
    · next hquote => rw [if_pos hquote, ih h, List.map_cons]
    · next hquote =>
      split at h
      · cases h
      · next hmark => rw [if_neg hquote, if_neg hmark, ih h, List.map_cons]

/-- The literals of a text are closed, and outside of them it has so many placeholders. -/
structure Marked (s : String) (n : Nat) : Prop where
  closed : literalAfter false s.toList = false
  count : marksOutside false s.toList = n

instance (s : String) (n : Nat) : Decidable (Marked s n) :=
  decidable_of_iff (literalAfter false s.toList = false ∧ marksOutside false s.toList = n)
    ⟨fun h => ⟨h.1, h.2⟩, fun h => ⟨h.1, h.2⟩⟩

namespace Marked

variable {s t : String} {m n : Nat}

theorem append (hs : Marked s m) (ht : Marked t n) : Marked (s ++ t) (m + n) where
  closed := by rw [String.toList_append, literalAfter_append, hs.closed, ht.closed]
  count := by rw [String.toList_append, marksOutside_append, hs.closed, hs.count, ht.count]

/-- A text without quotes has its placeholders outside of literals. -/
theorem of_not_mem (h : '\'' ∉ s.toList) : Marked s (s.toList.count '?') := by
  suffices hall : ∀ cs : List Char, '\'' ∉ cs →
      literalAfter false cs = false ∧ marksOutside false cs = cs.count '?' from
    ⟨(hall _ h).1, (hall _ h).2⟩
  intro cs
  induction cs with
  | nil => exact fun _ => ⟨rfl, rfl⟩
  | cons c rest ih =>
    intro hc
    have hquote : c ≠ '\'' := fun h => hc (h ▸ List.mem_cons_self)
    have hrest : '\'' ∉ rest := fun h => hc (List.mem_cons_of_mem c h)
    obtain ⟨hclosed, hcount⟩ := ih hrest
    rw [literalAfter, marksOutside, beq_eq_false_iff_ne.mpr hquote, List.count_cons, ← hcount]
    refine ⟨hclosed, ?_⟩
    cases c == '?' <;> rfl

/-- The tokens of a text that closes its literals are followed by those of what comes after, as if
that stood alone. -/
theorem tokens_append (h : Marked s n) (seen : Nat) (cs : List Char) :
    tokens false seen (s.toList ++ cs) =
      tokens false seen s.toList ++ tokens false (seen + n) cs := by
  rw [FluentSql.tokens_append, h.closed, h.count]

end Marked

end FluentSql
