/-!
# Tables

Values under numbers that are handed out one after the other and never used again.
-/

namespace Framecast

/-- Values with their numbers, and the number that is given out next. -/
structure Table (α : Type) where
  next : Nat := 1
  entries : List (Nat × α) := []
  deriving Repr

instance {α : Type} : Inhabited (Table α) := ⟨{}⟩

namespace Table

variable {α : Type}

/-- The value under a number, if there is one. -/
def get? (id : Nat) (t : Table α) : Option α :=
  t.entries.lookup id

/-- Put a value under a new number. -/
def insert (a : α) (t : Table α) : Nat × Table α :=
  (t.next, ⟨t.next + 1, (t.next, a) :: t.entries⟩)

/-- Take away what is under a number. -/
def erase (id : Nat) (t : Table α) : Table α :=
  { t with entries := t.entries.filter (·.1 != id) }

/-- Change what is under a number. -/
def modify (id : Nat) (f : α → α) (t : Table α) : Table α :=
  { t with entries := t.entries.map fun (k, a) => if k == id then (k, f a) else (k, a) }

/-- The numbers that have a value, newest first. -/
def ids (t : Table α) : List Nat :=
  t.entries.map Prod.fst

/-- All values, newest first. -/
def values (t : Table α) : List α :=
  t.entries.map Prod.snd

end Table

end Framecast
