import Storekeeper.Json.Basic
import Storekeeper.Decimal.Shortest
import Storekeeper.Text.Quoted

/-!
# Printing JSON

Two texts of a value: `render` is compact JSON in ASCII, `display` is how a value appears inside a
message to a person, where texts are quoted only inside arrays and objects.
-/

namespace Storekeeper.Json

open Storekeeper.Text

/-- A character inside a JSON string. -/
def escapedChar (c : Char) : List Char :=
  if c = '"' ∨ c = '\\' then ['\\', c]
  else if c = '\n' then ['\\', 'n']
  else if c = '\r' then ['\\', 'r']
  else if c = '\t' then ['\\', 't']
  else if 0x20 ≤ c.toNat ∧ c.toNat < 0x7F then [c]
  else if c.toNat < 0x10000 then '\\' :: 'u' :: hexDigits 4 c.toNat
  else
    let offset := c.toNat - 0x10000
    '\\' :: 'u' :: hexDigits 4 (0xD800 + offset / 0x400) ++
      '\\' :: 'u' :: hexDigits 4 (0xDC00 + offset % 0x400)

/-- A text as a JSON string. -/
def renderString (s : String) : String :=
  String.ofList ('"' :: s.toList.flatMap escapedChar ++ ['"'])

mutual

/-- The value as compact JSON. -/
def render : Json → String
  | null => "null"
  | bool b => if b then "true" else "false"
  | int n => toString n
  | num x =>
    match x with
    | .nan => "NaN"
    | .infinite negative => if negative then "-Infinity" else "Infinity"
    | x => x.text
  | str s => renderString s
  | arr items => "[" ++ ",".intercalate (renderItems items) ++ "]"
  | obj members => "\x7b" ++ ",".intercalate (renderMembers members) ++ "\x7d"

/-- The items of an array as compact JSON. -/
def renderItems : List Json → List String
  | [] => []
  | item :: items => render item :: renderItems items

/-- The members of an object as compact JSON. -/
def renderMembers : List (String × Json) → List String
  | [] => []
  | (name, value) :: members => (renderString name ++ ":" ++ render value) :: renderMembers members

end

mutual

/-- The value as it appears inside an array or object in a message. -/
def displayItem : Json → String
  | null => "None"
  | bool b => if b then "True" else "False"
  | int n => toString n
  | num x => x.text
  | str s => quoted s
  | arr items => "[" ++ ", ".intercalate (displayItems items) ++ "]"
  | obj members => "\x7b" ++ ", ".intercalate (displayMembers members) ++ "\x7d"

/-- The items of an array as they appear in a message. -/
def displayItems : List Json → List String
  | [] => []
  | item :: items => displayItem item :: displayItems items

/-- The members of an object as they appear in a message. -/
def displayMembers : List (String × Json) → List String
  | [] => []
  | (name, value) :: members =>
    (quoted name ++ ": " ++ displayItem value) :: displayMembers members

end

/-- The value as it appears in a message. -/
def display : Json → String
  | str s => s
  | value => displayItem value

end Storekeeper.Json
