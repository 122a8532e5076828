import FluentSql.Directory

set_option autoImplicit false

/-!
# What numbers stand for

What a number of a directory stands for after something was added or changed: numbers that were
given out keep their things, and a change reaches the thing of its own number alone.

## Main results

* `FluentSql.Directory.get?_add_of_eq_some` — adding.
* `FluentSql.Directory.get?_modify`, `FluentSql.Directory.isSome_get?_modify` — changing.
* `FluentSql.Directory.modify_modify`, `FluentSql.Directory.modify_congr` — changes of one thing.
* `FluentSql.Directory.modify_modify_eq_self` — taking a change back.
* `FluentSql.Directory.map_modify` — changing one thing, and everything.
* `FluentSql.Directory.All.add`, `FluentSql.Directory.All.modify` — properties of everything.
-/

namespace FluentSql.Directory

variable {α β : Type}

/-- Adding a thing does not change what the numbers stand for that were given out before. -/
theorem get?_add_of_eq_some {d : Directory α} {id : Nat} {a : α} (b : α) (h : d.get? id = some a) :
    (d.add b).get? id = some a := by
  have hlt : id < d.items.length := (List.getElem?_eq_some_iff.mp h).1
  simpa [get?, add, List.getElem?_append_left hlt] using h

/-- The number that a thing gets stands for it. -/
theorem get?_add_nextId (d : Directory α) (a : α) : (d.add a).get? d.nextId = some a := by
  simp [get?, add, nextId]

/-- Adding things does not change what the numbers stand for that were given out before. -/
theorem get?_foldl_add_of_eq_some (f : β → α) {id : Nat} {a : α} :
    ∀ (bs : List β) {d : Directory α}, d.get? id = some a →
      (bs.foldl (fun d b => d.add (f b)) d).get? id = some a
  | [], _, h => h
  | b :: bs, _, h => get?_foldl_add_of_eq_some f bs (get?_add_of_eq_some (f b) h)

/-- A change reaches the thing of its number. -/
@[simp] theorem get?_modify (d : Directory α) (id : Nat) (f : α → α) :
    (d.modify id f).get? id = (d.get? id).map f := by
  simp [modify, get?]

/-- A change reaches no other thing. -/
theorem get?_modify_of_ne (d : Directory α) {id other : Nat} (h : id ≠ other) (f : α → α) :
    (d.modify id f).get? other = d.get? other := by
  simp [modify, get?, h]

/-- A change gives no number a thing and takes none away. -/
@[simp] theorem isSome_get?_modify (d : Directory α) (id other : Nat) (f : α → α) :
    ((d.modify id f).get? other).isSome = (d.get? other).isSome := by
  simp only [modify, get?, List.getElem?_modify]
  cases d.items[other]? <;> rfl

/-- Two changes of one thing are one. -/
theorem modify_modify (d : Directory α) (id : Nat) (f g : α → α) :
    (d.modify id f).modify id g = d.modify id fun a => g (f a) := by
  rw [modify, modify, modify]
  congr 1
  apply List.ext_getElem?
  intro i
  simp only [List.getElem?_modify]
  split <;> simp [Function.comp_def]

/-- A change is told by what it makes of the thing that there is. -/
theorem modify_congr {d : Directory α} {id : Nat} {a : α} {f g : α → α} (h : d.get? id = some a)
    (hfg : f a = g a) : d.modify id f = d.modify id g := by
  rw [modify, modify]
  congr 1
  apply List.ext_getElem?
  intro i
  rw [List.getElem?_modify, List.getElem?_modify]
  by_cases hi : id = i
  · subst hi
    have ha : d.items[id]? = some a := h
    simp [ha, hfg]
  · simp [hi]

/-- A change that leaves the thing that there is leaves the directory. -/
theorem modify_eq_self {d : Directory α} {id : Nat} {a : α} {f : α → α} (h : d.get? id = some a)
    (hf : f a = a) : d.modify id f = d := by
  rw [modify_congr h (g := fun a => a) hf]
  have hsame : d.items.modify id (fun a => a) = d.items := List.modify_id id d.items
  rw [modify, hsame]

/-- A change of one thing and a change of everything that are no matter for one another. -/
theorem map_modify (d : Directory α) (id : Nat) {f g : α → α} (h : ∀ a, g (f a) = f (g a)) :
    (d.modify id f).map g = (d.map g).modify id f := by
  refine congrArg (fun items => { d with items }) (List.ext_getElem? fun i => ?_)
  rw [List.getElem?_map, modify, map, List.getElem?_modify, List.getElem?_modify,
    List.getElem?_map]
  cases d.items[i]? with
  | none => simp
  | some a => by_cases hi : id = i <;> simp [hi, h]

/-- A change that is taken back leaves the directory as it was.

**Proof sketch.** Two changes of one thing are one, and this one leaves the thing that there is
alone. -/
theorem modify_modify_eq_self {d : Directory α} {id : Nat} {a : α} {f g : α → α}
    (h : d.get? id = some a) (hback : g (f a) = a) : (d.modify id f).modify id g = d := by
  rw [modify_modify]
  exact modify_eq_self h hback

/-! ## Properties of everything -/

/-- Everything that numbers stand for has a property. -/
def All (P : α → Prop) (d : Directory α) : Prop := ∀ id a, d.get? id = some a → P a

section All

variable {P : α → Prop} {d : Directory α}

/-- What everything that is listed has, everything has that a number stands for. -/
theorem All.of_items (h : ∀ a ∈ d.items, P a) : d.All P :=
  fun _ _ ha => h _ (List.mem_of_getElem? ha)

/-- A thing may be added that has the property. -/
theorem All.add (h : d.All P) {a : α} (ha : P a) : (d.add a).All P := by
  intro id b hb
  rw [get?, Directory.add, List.getElem?_append] at hb
  split at hb
  · exact h id b hb
  · have hmem := List.mem_of_getElem? hb
    rwa [List.mem_singleton.mp hmem]

/-- Things may be added that have the property. -/
theorem All.foldl_add {f : β → α} : ∀ (bs : List β) {d : Directory α}, d.All P →
    (∀ b ∈ bs, P (f b)) → (bs.foldl (fun d b => d.add (f b)) d).All P
  | [], _, h, _ => h
  | b :: bs, _, h, hall => by
    obtain ⟨hb, hbs⟩ := List.forall_mem_cons.mp hall
    exact All.foldl_add bs (h.add hb) hbs

/-- A thing may be changed that has the property afterwards. -/
theorem All.modify (h : d.All P) (id : Nat) {f : α → α}
    (hf : ∀ a, d.get? id = some a → P (f a)) : (d.modify id f).All P := by
  intro other b hb
  by_cases hother : id = other
  · subst hother
    rw [get?_modify] at hb
    obtain ⟨a, ha, rfl⟩ := Option.map_eq_some_iff.mp hb
    exact hf a ha
  · exact h other b ((get?_modify_of_ne _ hother _).symm.trans hb)

end All

end FluentSql.Directory
