set_option autoImplicit false

/-!
# Directories

A directory holds things under numbers, which are given out in order and never reused, and lets
names stand for numbers. A name may be given to another number later; what was reached by the
number before is not affected.

## Main definitions

* `FluentSql.Directory` — things by number, numbers by name.
-/

namespace FluentSql

/-- Things by number, numbers by name. -/
structure Directory (α : Type) where
  items : List α := []
  names : List (String × Nat) := []
  deriving Inhabited

namespace Directory

variable {α : Type}

/-- A directory with one thing, under a name. -/
def single (name : String) (a : α) : Directory α := { items := [a], names := [(name, 0)] }

/-- The thing of a number. -/
def get? (d : Directory α) (id : Nat) : Option α := d.items[id]?

/-- The number that a name stands for. -/
def id? (d : Directory α) (name : String) : Option Nat :=
  (d.names.find? (·.1 == name)).map (·.2)

/-- The number that the next thing gets. -/
def nextId (d : Directory α) : Nat := d.items.length

/-- Adds a thing under the next number. -/
def add (d : Directory α) (a : α) : Directory α := { d with items := d.items ++ [a] }

/-- Lets a name stand for a number from now on. -/
def name (d : Directory α) (name : String) (id : Nat) : Directory α :=
  { d with names := (name, id) :: d.names.filter (·.1 != name) }

/-- Adds a thing and names it. -/
def addNamed (d : Directory α) (name : String) (a : α) : Directory α :=
  (d.add a).name name d.nextId

/-- Changes the thing of a number. -/
def modify (d : Directory α) (id : Nat) (change : α → α) : Directory α :=
  { d with items := d.items.modify id change }

/-- Changes everything. -/
def map (d : Directory α) (change : α → α) : Directory α :=
  { d with items := d.items.map change }

end Directory

end FluentSql
