import Storekeeper.Text.Blank
import Storekeeper.Text.CharacterReference

/-!
# Plain text of a marked-up one

A description arrives as HTML.  Its tags are dropped, its character references replaced and the
blanks at its ends taken off.  A tag is a `<`, at least one character and a `>`, without another
`<` in between; the character directly after the `<` may be anything else.
-/

namespace Storekeeper.Text

/-- What follows a tag, given what follows its `<`; `none` if no tag begins there. -/
def afterTag? : List Char → Option (List Char)
  | [] => none
  | c :: cs =>
    if c = '<' then none
    else
      match cs.dropWhile fun c => c != '<' && c != '>' with
      | '>' :: rest => some rest
      | _ => none

/-- The text without its tags, for at most `fuel` characters. -/
def dropTagsFrom : Nat → List Char → List Char
  | 0, cs => cs
  | _ + 1, [] => []
  | fuel + 1, c :: cs =>
    if c = '<' then
      match afterTag? cs with
      | some rest => dropTagsFrom fuel rest
      | none => c :: dropTagsFrom fuel cs
    else c :: dropTagsFrom fuel cs

/-- The text without its tags. -/
def dropTags (cs : List Char) : List Char :=
  dropTagsFrom cs.length cs

/-- The plain text of a marked-up one. -/
def plain (cs : List Char) : List Char :=
  trim (resolveReferences (dropTags cs))

end Storekeeper.Text
