import FluentSql.Proofs.Directory
import FluentSql.Session.Look

set_option autoImplicit false

/-!
# What looking at values depends on

What a value that refers to builders has come to is a matter of the queries of these builders alone,
and so is how it is shown. Logs are no matter for it.

## Main definitions

* `FluentSql.Builder.visible`, `FluentSql.Session.visible` — what of builders can be looked at.

## Main results

* `FluentSql.Session.current_congr`, `FluentSql.Session.currentQuery_congr` — looking again.
* `FluentSql.Session.reachable_congr` — which builders are copied along.
* `FluentSql.Session.sight_congr` — how values are shown.
-/

namespace FluentSql

/-- What of a builder can be looked at: its query, and the select lists that others took the place
of. -/
def Builder.visible (b : Builder) : Descriptor × List (List Value) :=
  (b.descriptor, b.formerColumns)

namespace Session

/-- What of the builders of a session can be looked at. -/
def visible (s : Session) : List (Descriptor × List (List Value)) :=
  s.builders.items.map Builder.visible

variable {s t : Session}

/-- What of the same builders can be looked at is the same. -/
theorem visible_congr (h : s.builders = t.builders) : s.visible = t.visible := by
  rw [visible, visible, h]

/-- A change of a builder in what cannot be looked at. -/
theorem visible_modify {id : Nat} {change : Builder → Builder}
    (h : ∀ b, (change b).visible = b.visible) :
    { s with builders := s.builders.modify id change }.visible = s.visible := by
  have hitem : ∀ i : Nat, ((s.builders.items.modify id change).map Builder.visible)[i]? =
      (s.builders.items.map Builder.visible)[i]? := by
    intro i
    rw [List.getElem?_map, List.getElem?_map, List.getElem?_modify]
    by_cases hi : id = i
    · simp only [hi, if_true, Option.map_eq_map, Option.map_map]
      exact congrFun (congrArg Option.map (funext h)) _
    · simp [hi]
  exact List.ext_getElem? hitem

/-- What can be looked at of the builder of a number. -/
theorem get?_visible_congr (h : s.visible = t.visible) (id : Nat) :
    (s.builders.get? id).map Builder.visible = (t.builders.get? id).map Builder.visible := by
  rw [Directory.get?, Directory.get?, ← List.getElem?_map, ← List.getElem?_map]
  exact congrArg (·[id]?) h

/-- What a source shows depends on what can be looked at. -/
theorem contents_congr (h : s.visible = t.visible) : s.contents = t.contents := by
  funext source
  have hbuilder := get?_visible_congr h source.builder
  have hcontents : ∀ {b c : Builder}, b.visible = c.visible →
      b.contents source = c.contents source := by
    intro b c hbc
    obtain ⟨d, _, _, _, _, _, columns⟩ := b
    obtain ⟨d', _, _, _, _, _, columns'⟩ := c
    obtain ⟨rfl, rfl⟩ := Prod.mk.inj hbc
    cases source <;> rfl
  rw [contents, contents]
  cases hs : s.builders.get? source.builder with
  | none =>
    rw [hs] at hbuilder
    rw [Option.map_eq_none_iff.mp hbuilder.symm]
  | some b =>
    rw [hs] at hbuilder
    obtain ⟨c, hc, hbc⟩ := Option.map_eq_some_iff.mp hbuilder.symm
    rw [hc]
    exact hcontents hbc.symm

/-- How many sources there are depends on what can be looked at. -/
theorem sourceCount_congr (h : s.visible = t.visible) : s.sourceCount = t.sourceCount := by
  have hcount : ∀ u : Session, u.sourceCount = u.visible.foldl
      (fun n seen => n + (1 + Builder.growingLists.length + seen.2.length)) 0 := by
    intro u
    rw [visible, List.foldl_map]
    rfl
  rw [hcount, hcount, h]

/-- How deep values are looked into depends on what can be looked at. -/
theorem lookDepth_congr (h : s.visible = t.visible) : s.lookDepth = t.lookDepth := by
  have hlength : s.builders.items.length = t.builders.items.length := by
    simpa [visible] using congrArg List.length h
  rw [lookDepth, lookDepth, sourceCount_congr h, hlength]

/-- What is looked at down to a depth depends on what can be looked at. -/
theorem look_congr (h : s.visible = t.visible) :
    ∀ (depth : Nat) (met : List Source) (source : Source),
      s.look depth met source = t.look depth met source
  | 0, met, source => rfl
  | depth + 1, met, source => by
    have hcontents : s.contents source = t.contents source := congrFun (contents_congr h) source
    have ih : ∀ met, s.look depth met = t.look depth met :=
      fun met => funext fun source => look_congr h depth met source
    simp only [look, hcontents, ih]

/-- What a value has come to depends on what can be looked at, once any builder has come up. -/
theorem current_congr (h : s.visible = t.visible) (hl : s.linked = t.linked) (v : Value) :
    s.current v = t.current v := by
  have hlook : s.look s.lookDepth [] = t.look t.lookDepth [] := by
    funext source
    rw [look_congr h, lookDepth_congr h]
  rw [current, current, hl, hlook]

/-- What the values of a query have come to depends on what can be looked at. -/
theorem currentQuery_congr (h : s.visible = t.visible) (hl : s.linked = t.linked)
    (d : Descriptor) : s.currentQuery d = t.currentQuery d := by
  have hcurrent : s.current = t.current := funext (current_congr h hl)
  rw [currentQuery, currentQuery, hl, hcurrent]

/-- Which builders are reached from others depends on what can be looked at.

**Proof sketch.** By induction on the rounds: what a builder refers to stands in its query and in
its former select lists, and both can be looked at. -/
theorem reachable_congr (h : s.visible = t.visible) :
    ∀ (rounds : Nat) (ids : List Nat), s.reachable rounds ids = t.reachable rounds ids
  | 0, ids => rfl
  | rounds + 1, ids => by
    have hreferred : ∀ id, (s.builders.get? id).map Builder.references =
        (t.builders.get? id).map Builder.references := by
      intro id
      have hreferences : Builder.references =
          (fun seen => (seen.1.values ++ seen.2.flatten).flatMap Value.references) ∘
            Builder.visible := rfl
      rw [hreferences, ← Option.map_map, ← Option.map_map, get?_visible_congr h id]
    simp only [reachable, hreferred, reachable_congr h rounds]

/-! ## Showing -/

/-- How a source is written plainly depends on what can be looked at. -/
theorem plainSource_congr (h : s.visible = t.visible) :
    ∀ (depth : Nat) (source : Source), s.plainSource depth source = t.plainSource depth source
  | 0, source => rfl
  | depth + 1, source => by
    have ih : s.plainSource depth = t.plainSource depth := funext (plainSource_congr h depth)
    simp only [plainSource, contents_congr h, ih]

/-- How a source is shown depends on what can be looked at. -/
theorem shownSource_congr (h : s.visible = t.visible) :
    ∀ (depth : Nat) (source : Source), s.shownSource depth source = t.shownSource depth source
  | 0, source => rfl
  | depth + 1, source => by
    have ih : s.shownSource depth = t.shownSource depth := funext (shownSource_congr h depth)
    have hplain : s.plainView = t.plainView := by
      funext source
      rw [plainView, plainView, sourceCount_congr h, plainSource_congr h]
    simp only [shownSource, contents_congr h, ih, hplain]

/-- How values are shown depends on what can be looked at. -/
theorem sight_congr (h : s.visible = t.visible) (values : List Value) :
    s.sight values = t.sight values := by
  have hshown : s.shown = t.shown := by
    funext v
    rw [shown, shown, sourceCount_congr h, funext (shownSource_congr h _)]
  rw [sight, sight, hshown]

end Session

end FluentSql
