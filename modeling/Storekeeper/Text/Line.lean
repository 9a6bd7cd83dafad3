/-!
# Lines of a text

A text is cut at its line breaks.  A carriage return followed by a line feed is one break, and a
break at the very end opens no further line, so `lines` of the empty text is empty.
-/

namespace Storekeeper.Text

/-- Whether the character ends a line. -/
def isBreak (c : Char) : Bool :=
  (0xA ≤ c.toNat && c.toNat ≤ 0xD) || (0x1C ≤ c.toNat && c.toNat ≤ 0x1E) ||
    c.toNat == 0x85 || c.toNat == 0x2028 || c.toNat == 0x2029

/-- The lines of the rest of a text, when `line` holds the current line's characters backwards. -/
def linesFrom (line : List Char) : List Char → List (List Char)
  | [] => if line.isEmpty then [] else [line.reverse]
  | '\r' :: '\n' :: rest => line.reverse :: linesFrom [] rest
  | c :: rest => if isBreak c then line.reverse :: linesFrom [] rest else linesFrom (c :: line) rest

/-- The lines of a text, without their breaks. -/
def lines (cs : List Char) : List (List Char) :=
  linesFrom [] cs

end Storekeeper.Text
