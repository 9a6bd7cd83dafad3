/-!
# Replacing parts of a text

`replace` puts one text in the place of every occurrence of another, from left to right and
without overlaps.
-/

namespace Storekeeper.Text

/-- Every occurrence of `old` replaced by `new`; `old` is not empty. -/
def replaceChars (old new : List Char) : List Char → List Char
  | [] => []
  | c :: rest =>
    if old.isPrefixOf (c :: rest) then
      new ++ replaceChars old new (rest.drop (old.length - 1))
    else c :: replaceChars old new rest
termination_by cs => cs.length
decreasing_by all_goals simp only [List.length_cons, List.length_drop]; omega

/-- Every occurrence of `old` replaced by `new`; `old` is not empty. -/
def replace (old new : String) (s : String) : String :=
  String.ofList (replaceChars old.toList new.toList s.toList)

/-- Whether `part` occurs in the text. -/
def occurs (part : List Char) : List Char → Bool
  | [] => part.isEmpty
  | c :: rest => part.isPrefixOf (c :: rest) || occurs part rest

/-- Whether `part` occurs in the text. -/
def contains (s part : String) : Bool :=
  occurs part.toList s.toList

end Storekeeper.Text
