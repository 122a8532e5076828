import FluentSql.Outcome
import FluentSql.Proofs.Failure

set_option autoImplicit false

/-!
# Reading the outcome of a write

Whatever shape a report has, the outcome of a write is read from its attributes alone: those of a
mapping, of an object, or of what stands second in a pair. Under each list of names the first value
that tells something decides. What is an outcome already is the one thing that is not read.

## Main definitions

* `FluentSql.Value.Carries` — a value carries attributes.
* `FluentSql.Fields.FirstTold` — the first value that tells something under some names.
* `FluentSql.Fields.Reports` — what is reported under some names, 0 if nothing that counts is told.

## Main results

* `FluentSql.WriteResult.ofReport_map_eq_ok_iff` — the outcome by what is reported.
* `FluentSql.WriteResult.ofReport_map_eq_error_iff` — when there is none.
* `FluentSql.WriteResult.ofReport_carried` — it is the same for whatever carries the attributes.
-/

namespace FluentSql

/-! ## What is reported -/

/-- A value carries attributes: it is the mapping with them as its entries, or an object that has
them. -/
inductive Value.Carries : Value → Fields → Prop
  | map (fs : Fields) : Carries (.map fs) fs
  | object (fs : Fields) : Carries (.object fs) fs
  | queryResult (data affected lastId : Value) : Carries (.queryResult data affected lastId)
      [("data", data), ("affected_rows", affected), ("last_insert_id", lastId)]
  | writeResult (changes lastId : Value) : Carries (.writeResult changes lastId)
      [("changes", changes), ("last_insert_rowid", lastId)]

/-- A value tells nothing: it is null, or equal to the -1 that stands for an unknown count. -/
def Value.TellsNothing (v : Value) : Prop := v = .null ∨ v.equal (.int (-1)) = true

/-- What is known is what tells something. -/
theorem Value.known_eq_true_iff (v : Value) : v.known = true ↔ ¬ v.TellsNothing := by
  have hnull : v.isNull = true ↔ v = .null := by cases v <;> simp [isNull]
  simp [known, TellsNothing, ← hnull]

namespace Fields

variable {fs : Fields} {names : List String} {v w : Value}

/-- The value under the first of some names under which attributes tell something. -/
inductive FirstTold (fs : Fields) : List String → Value → Prop
  | here {name : String} {names : List String} {v : Value} (h : fs.get? name = some v)
      (htold : ¬ v.TellsNothing) : FirstTold fs (name :: names) v
  | later {name : String} {names : List String} {v : Value}
      (h : ∀ w, fs.get? name = some w → w.TellsNothing) (hlater : FirstTold fs names v) :
      FirstTold fs (name :: names) v

/-- What attributes report under some names: the first value that is told if it counts as true, and
0 if it does not or nothing is told. -/
def Reports (fs : Fields) (names : List String) (v : Value) : Prop :=
  (fs.FirstTold names v ∧ v.truthy = true) ∨
    (v = .int 0 ∧ ∀ w, fs.FirstTold names w → w.truthy = false)

/-- The first value that is told is the first that is known. -/
theorem firstTold_iff :
    fs.FirstTold names v ↔ (names.map (Value.map fs).reported).find? Value.known = some v := by
  induction names with
  | nil => exact ⟨nofun, nofun⟩
  | cons name names ih =>
    have hreported : (Value.map fs).reported name = (fs.get? name).getD .null := rfl
    rw [List.map_cons, hreported]
    -- the head decides if it tells something, and is passed over if not
    by_cases hhead : ∃ w, fs.get? name = some w ∧ ¬ w.TellsNothing
    · obtain ⟨w, hw, htold⟩ := hhead
      rw [hw, Option.getD_some, List.find?_cons_of_pos ((w.known_eq_true_iff).mpr htold)]
      constructor
      · rintro (⟨h, -⟩ | ⟨h, -⟩)
        · exact hw.symm.trans h
        · exact absurd (h w hw) htold
      · intro h
        exact .here (hw.trans h) (Option.some.inj h ▸ htold)
    · have hpassed : ∀ w, fs.get? name = some w → w.TellsNothing := fun w hw =>
        Classical.byContradiction fun htold => hhead ⟨w, hw, htold⟩
      have hunknown : ¬ ((fs.get? name).getD .null).known = true := by
        rw [Value.known_eq_true_iff, Classical.not_not]
        cases hget : fs.get? name with
        | none => exact .inl rfl
        | some w => exact hpassed w hget
      rw [List.find?_cons_of_neg hunknown, ← ih]
      constructor
      · rintro (⟨h, htold⟩ | ⟨-, h⟩)
        · exact absurd (hpassed v h) htold
        · exact h
      · exact .later hpassed

/-- What is reported is the first value that is known, and 0 if that does not count as true. -/
theorem reports_iff :
    fs.Reports names v ↔ v = ((Value.map fs).firstKnown names).orElse (.int 0) := by
  have hoption : ∀ known : Option Value, (known = some v ∧ v.truthy = true ∨
      v = .int 0 ∧ ∀ w, known = some w → w.truthy = false) ↔
        v = (known.getD .null).orElse (.int 0) := by
    rintro (_ | w)
    · simp [Value.orElse, Value.truthy]
    · cases htruthy : w.truthy with
      | false =>
        have hfalse : ¬ (w = v ∧ v.truthy = true) := by
          rintro ⟨rfl, h⟩
          exact Bool.false_ne_true (htruthy.symm.trans h)
        simp [Value.orElse, htruthy, hfalse]
      | true =>
        have hv : w = v → v.truthy = true := fun h => h ▸ htruthy
        simpa [Value.orElse, htruthy, and_iff_left_of_imp hv] using eq_comm
  simp only [Reports, firstTold_iff]
  exact hoption _

/-- What is told first is reported, but 0 for what does not count as true. -/
theorem FirstTold.reports (h : fs.FirstTold names v) :
    fs.Reports names (v.orElse (.int 0)) := by
  rw [reports_iff, Value.firstKnown, firstTold_iff.mp h, Option.getD_some]

/-- Where nothing is told, 0 is reported. -/
theorem reports_zero (h : ∀ name ∈ names, ∀ w, fs.get? name = some w → w.TellsNothing) :
    fs.Reports names (.int 0) := by
  refine .inr ⟨rfl, fun w hw => ?_⟩
  exfalso
  induction hw with
  | here hget htold => exact htold (h _ List.mem_cons_self _ hget)
  | later _ _ ih => exact ih fun name hname => h name (List.mem_cons_of_mem _ hname)

end Fields

namespace Value

variable {fs : Fields} {v : Value}

/-- Whatever carries attributes says under a name what they say. -/
theorem Carries.reported_eq (h : v.Carries fs) (name : String) :
    v.reported name = (Value.map fs).reported name := by
  cases h <;> rfl

/-- What carries attributes is not null. -/
theorem Carries.isNull_eq (h : v.Carries fs) : v.isNull = false := by
  cases h <;> rfl

end Value

namespace WriteResult

variable {fs gs : Fields} {v w : Value}

/-! ## The outcome -/

/-- Two values that say the same under the names in use are read alike. -/
theorem ofInfo_congr
    (h : ∀ name ∈ changesNames ++ lastIdNames, v.reported name = w.reported name) :
    ofInfo v = ofInfo w := by
  have hknown : ∀ names, names ⊆ changesNames ++ lastIdNames →
      v.firstKnown names = w.firstKnown names := by
    intro names hnames
    rw [Value.firstKnown, Value.firstKnown,
      List.map_congr_left fun name hname => h name (hnames hname)]
  rw [ofInfo, ofInfo, hknown changesNames (List.subset_append_left _ _),
    hknown lastIdNames (List.subset_append_right _ _)]

/-- What is read of a mapping is an integer for the count that is reported, and the identifier as it
is reported. The count is converted, the identifier is not. -/
theorem ofReport_map_eq_ok_iff {result : WriteResult} :
    ofReport (.map fs) = .ok result ↔ ∃ count n lastId, fs.Reports changesNames count ∧
      count.toInteger = .ok n ∧ fs.Reports lastIdNames lastId ∧ result = ⟨.int n, lastId⟩ := by
  have hread : ofReport (.map fs) = ofInfo (.map fs) := rfl
  simp only [hread, ofInfo, bind_eq_ok, pure_eq_ok, Except.ok.injEq, Fields.reports_iff]
  constructor
  · rintro ⟨n, hn, rfl⟩
    exact ⟨_, n, _, rfl, hn, rfl, rfl⟩
  · rintro ⟨_, n, _, rfl, hn, rfl, rfl⟩
    exact ⟨n, hn, rfl⟩

/-- Reading a mapping fails just if the count that is reported stands for no integer: nothing else
in the mapping makes it fail. -/
theorem ofReport_map_eq_error_iff {e : Error} :
    ofReport (.map fs) = .error e ↔
      ∃ count, fs.Reports changesNames count ∧ count.toInteger = .error e := by
  have hread : ofReport (.map fs) = ofInfo (.map fs) := rfl
  simp [hread, ofInfo, bind_eq_error, Fields.reports_iff, pure_eq_ok]

/-- What a report says of a write depends on the attributes that it carries and on nothing else: not
on whether it is a mapping, an object, or a pair with something of either kind in the second place;
not on what stands first in the pair, nor on what attributes there are under other names. The count
is the integer that the first of its names tells that tells something, the identifier is what the
first of its own names tells, and either is 0 if that does not count as true or nothing is told.
Only what is an outcome already is not read but taken as it is.

**Proof sketch.** Something that carries attributes says under each name what the mapping of them
says (`Value.Carries.reported_eq`), and reading looks at the names in use only (`ofInfo_congr`). -/
theorem ofReport_carried (h : v.Carries fs) (first : Value) (more : List Value) :
    ((∀ changes lastId, v ≠ .writeResult changes lastId) → ofReport v = ofReport (.map fs)) ∧
    (∀ changes lastId, v = .writeResult changes lastId → ofReport v = .ok ⟨changes, lastId⟩) ∧
    ofReport (.tuple (first :: v :: more)) = ofReport (.map fs) ∧
    ofReport (.list (first :: v :: more)) = ofReport (.map fs) ∧
    (∀ gs : Fields, (∀ name ∈ changesNames ++ lastIdNames, gs.get? name = fs.get? name) →
      ofReport (.map gs) = ofReport (.map fs)) ∧
    (∀ result, ofReport (.map fs) = .ok result ↔ ∃ count n lastId,
      fs.Reports changesNames count ∧ count.toInteger = .ok n ∧
        fs.Reports lastIdNames lastId ∧ result = ⟨.int n, lastId⟩) ∧
    ∀ e, ofReport (.map fs) = .error e ↔
      ∃ count, fs.Reports changesNames count ∧ count.toInteger = .error e := by
  have hinfo : ofInfo v = ofReport (.map fs) := ofInfo_congr fun name _ => h.reported_eq name
  have hsecond : (if v.isNull then ofInfo (.map []) else ofInfo v) = ofReport (.map fs) := by
    rw [h.isNull_eq]
    exact hinfo
  refine ⟨fun hread => ?_, ?_, hsecond, hsecond, fun gs hgs => ?_,
    fun _ => ofReport_map_eq_ok_iff, fun _ => ofReport_map_eq_error_iff⟩
  · rw [← hinfo]
    cases h with
    | writeResult changes lastId => exact absurd rfl (hread changes lastId)
    | _ => rfl
  · rintro changes lastId rfl
    rfl
  · refine ofInfo_congr fun name hname => ?_
    exact congrArg (fun found : Option Value => found.getD .null) (hgs name hname)

/-- What a cursor has to say, under names of several kinds: a count that is unknown under one of
them, and an identifier that is told but does not count as true. -/
def cursor : Fields :=
  [("rowcount", .int 3), ("affected_rows", .int (-1)), ("changes", .text " 7 "),
    ("insertId", .bool false), ("lastrowid", .text "x"), ("arraysize", .int 1)]

/-- The count of 7 is read, and no identifier, from the object in the second place of a pair as from
the mapping. -/
theorem ofReport_carried_cursor :
    (Value.object cursor).Carries cursor ∧
      ofReport (.tuple [.list [], .object cursor]) = ofReport (.map cursor) ∧
      ofReport (.map cursor) = .ok ⟨.int 7, .int 0⟩ := by
  have hunknown : (Value.int (-1)).TellsNothing := .inr (by decide +kernel)
  have htext : ¬ (Value.text " 7 ").TellsNothing := (Value.known_eq_true_iff _).mp rfl
  have hfalse : ¬ (Value.bool false).TellsNothing :=
    (Value.known_eq_true_iff _).mp (by decide +kernel)
  have hpassed : ∀ w, cursor.get? "affected_rows" = some w → w.TellsNothing := fun w hw =>
    Option.some.inj hw ▸ hunknown
  have hcount : cursor.FirstTold changesNames (.text " 7 ") :=
    .later hpassed (.later nofun (.here rfl htext))
  have hlastId : cursor.FirstTold lastIdNames (.bool false) :=
    .later nofun (.later nofun (.later nofun (.later nofun (.later nofun (.here rfl hfalse)))))
  obtain ⟨-, -, hpair, -, -, hread, -⟩ := ofReport_carried (.object cursor) (.list []) []
  exact ⟨.object cursor, hpair,
    (hread _).mpr ⟨.text " 7 ", 7, .int 0, hcount.reports, rfl, hlastId.reports, rfl⟩⟩

/-- An outcome that is already one keeps the mark of an unknown count, which is read as 0 from a
mapping with its attributes, and from the outcome itself in the second place of a pair. -/
theorem ofReport_writeResult_unread :
    let unknown := Value.writeResult (.int (-1)) (.int 7)
    let attributes : Fields := [("changes", .int (-1)), ("last_insert_rowid", .int 7)]
    unknown.Carries attributes ∧
      ofReport unknown = .ok ⟨.int (-1), .int 7⟩ ∧
      ofReport (.map attributes) = .ok ⟨.int 0, .int 7⟩ ∧
      ofReport (.tuple [.null, unknown]) = .ok ⟨.int 0, .int 7⟩ ∧
      ofReport unknown ≠ ofReport (.map attributes) := by
  intro unknown attributes
  have hunknown : (Value.int (-1)).TellsNothing := .inr (by decide +kernel)
  have hseven : ¬ (Value.int 7).TellsNothing := (Value.known_eq_true_iff _).mp (by decide +kernel)
  have hcarries : unknown.Carries attributes := .writeResult _ _
  have hcount : attributes.Reports changesNames (.int 0) := by
    refine Fields.reports_zero fun name hname w hw => ?_
    simp only [changesNames, List.mem_cons, List.not_mem_nil, or_false] at hname
    rcases hname with rfl | rfl | rfl | rfl
    · cases hw
    · cases hw
    · exact Option.some.inj hw ▸ hunknown
    · cases hw
  have hlastId : attributes.FirstTold lastIdNames (.int 7) :=
    .later nofun (.later nofun (.here rfl hseven))
  have hread : ofReport (.map attributes) = .ok ⟨.int 0, .int 7⟩ :=
    ofReport_map_eq_ok_iff.mpr ⟨.int 0, 0, .int 7, hcount, rfl, hlastId.reports, rfl⟩
  have hpair : ofReport (.tuple [.null, unknown]) = ofReport (.map attributes) :=
    ofInfo_congr fun name _ => hcarries.reported_eq name
  refine ⟨hcarries, rfl, hread, hpair.trans hread, fun h => ?_⟩
  rw [hread] at h
  cases h

end WriteResult

end FluentSql
