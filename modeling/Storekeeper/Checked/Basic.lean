import Storekeeper.Checked.Flaw

/-!
# Checked readings

A checked reading is a value or the list of all flaws found.  Readings are put together side by
side, so that the flaws of both sides are reported, the left ones first.
-/

namespace Storekeeper

/-- A value, or all that is wrong with the document it was to be read from. -/
inductive Checked (α : Type) where
  | ok (value : α)
  | flawed (flaws : List Flaw)
  deriving Repr

namespace Checked

variable {α β γ : Type}

/-- The reading of a document with one flaw, at the place itself. -/
def fail (cause : Cause) : Checked α :=
  flawed [⟨[], cause⟩]

/-- The image of a reading. -/
def map (f : α → β) : Checked α → Checked β
  | ok value => ok (f value)
  | flawed flaws => flawed flaws

/-- Two readings side by side; the flaws of both are kept. -/
def both (left : Checked α) (right : Checked β) : Checked (α × β) :=
  match left, right with
  | ok a, ok b => ok (a, b)
  | ok _, flawed flaws => flawed flaws
  | flawed flaws, ok _ => flawed flaws
  | flawed flaws, flawed more => flawed (flaws ++ more)

instance : Functor Checked where
  map := map

instance : Applicative Checked where
  pure := ok
  seq f x := (both f (x ())).map fun (g, a) => g a

/-- A reading followed by a further test of its value. -/
def andThen : Checked α → (α → Checked β) → Checked β
  | ok value, next => next value
  | flawed flaws, _ => flawed flaws

/-- The reading of the part of a document behind one step of its path. -/
def within (place : Place) : Checked α → Checked α
  | ok value => ok value
  | flawed flaws => flawed (flaws.map fun flaw => { flaw with path := place :: flaw.path })

/-- Readings one after the other. -/
def all : List (Checked α) → Checked (List α)
  | [] => ok []
  | reading :: rest => (both reading (all rest)).map fun (value, values) => value :: values

/-- The value of a reading without flaws. -/
def value? : Checked α → Option α
  | ok value => some value
  | flawed _ => none

end Checked

end Storekeeper
