import Storekeeper.Checked.Basic
import Storekeeper.Json.Basic

/-!
# Readings of lists, maps and records

A record is read member by member.  A member may be found under several names: the first of them
that is there counts, and a missing member is reported under the first.
-/

namespace Storekeeper.Checked

variable {α : Type}

/-- Readings of a list's items, numbered from `first`. -/
def itemsFrom (reading : Json → Checked α) (first : Nat) : List Json → List (Checked α)
  | [] => []
  | item :: items => (reading item).within (.index first) :: itemsFrom reading (first + 1) items

/-- A list. -/
def list (reading : Json → Checked α) : Json → Checked (List α)
  | .arr items => all (itemsFrom reading 0 items)
  | _ => fail .notList

/-- A map, in the order of the document. -/
def mapping (reading : Json → Checked α) : Json → Checked (Table α)
  | .obj members =>
    all (members.map fun (name, value) =>
      ((reading value).within (.key name)).map fun value => (name, value))
  | _ => fail .notMap

/-- The members of a record that is called by a name. -/
def record (name : String) (reading : Table Json → Checked α) : Json → Checked α
  | .obj members => reading members
  | _ => fail (.notRecord name)

/-- The first of the given names that has a member, with the member. -/
def find? (members : Table Json) (names : List String) : Option (String × Json) :=
  names.findSome? fun name => (members.get? name).map (name, ·)

/-- A member that has to be there. -/
def required (members : Table Json) (names : List String) (reading : Json → Checked α) :
    Checked α :=
  match find? members names with
  | some (name, value) => (reading value).within (.key name)
  | none => (fail .missing).within (.key (names.headD ""))

/-- A member with a value for when it is not there. -/
def optionalMember (members : Table Json) (names : List String) (default : α)
    (reading : Json → Checked α) : Checked α :=
  match find? members names with
  | some (name, value) => (reading value).within (.key name)
  | none => ok default

end Storekeeper.Checked
