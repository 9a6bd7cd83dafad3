import Storekeeper.Decimal.Binary64
import Storekeeper.Table

/-!
# JSON values

Integers have any size and are kept apart from binary numbers, which include the infinities and
NaN.  The members of an object stand in the order in which their names first appeared.
-/

namespace Storekeeper

open Storekeeper.Decimal

/-- A JSON value. -/
inductive Json where
  | null
  | bool (b : Bool)
  | int (n : Int)
  | num (x : Binary64)
  | str (s : String)
  | arr (items : List Json)
  | obj (members : List (String × Json))
  deriving Inhabited

namespace Json

/-- Whether the value counts as nothing: null, false, a zero, an empty text, array or object. -/
def isVoid : Json → Bool
  | null => true
  | bool b => !b
  | int n => n == 0
  | num x => x.isZero
  | str s => s.isEmpty
  | arr items => items.isEmpty
  | obj members => members.isEmpty

/-- The value, or another one if it counts as nothing. -/
def orElse (value other : Json) : Json :=
  if value.isVoid then other else value

/-- The members of an object, `none` for any other value. -/
def members? : Json → Option (Table Json)
  | obj members => some members
  | _ => none

/-- The text that the value is, if it is one. -/
def str? : Json → Option String
  | str s => some s
  | _ => none

/-- A member of an object; null if the object has none of that name. -/
def getD (members : Table Json) (name : String) : Json :=
  (Table.get? members name).getD null

/-- A text or null. -/
def ofOption : Option String → Json
  | some s => str s
  | none => null

end Json

end Storekeeper
