import Mathlib.Data.List.TakeWhile
import Storekeeper.Json.Reader
import Storekeeper.Proofs.Table

/-!
# What a reading of JSON says about the text

The reader takes characters off the front of a text and leaves the rest, so whatever it complains about stands in the
text.

* `Json.Traces` is what a reading of the front of a text says about it, with `Traces.bind` for readings one after the
  other; `Json.readValue_traces` is the reader.
* `Json.hasLongRow_of_read`: a document with an integer that is too long has a row of that many digits.
* `Json.nodup_of_read`: the members of an object have different names.
-/

namespace Storekeeper.Json

open Storekeeper.Text Storekeeper.Decimal

/-- A body is read as the text that its bytes write. -/
theorem readBody_of_text {bytes : Bytes} {cs : List Char} {value : Json} (text : ofBody? bytes = some cs)
    (read : Json.read cs = .ok value) : readBody bytes = .ok value := by
  unfold readBody
  rw [text]
  exact read

/-- There are more digits in a row in a text than a limit allows. -/
def HasLongRow (limit : Option Nat) (cs : List Char) : Prop :=
  ∃ most digits, limit = some most ∧ digits <:+: cs ∧ most < digits.length ∧ ∀ c ∈ digits, isAsciiDigit c = true

/-- What a reading of the front of a text says about the text: what is left is a part of it, and if an integer is too
long, its digits are. -/
def Traces {α : Type} (limit : Option Nat) (cs : List Char) : Except ReadError (α × List Char) → Prop
  | .ok (_, rest) => rest <:+ cs
  | .error .integerTooLong => HasLongRow limit cs
  | .error .malformed => True

variable {α β : Type} {limit : Option Nat} {cs rest : List Char}

theorem HasLongRow.of_suffix (long : HasLongRow limit rest) (left : rest <:+ cs) : HasLongRow limit cs := by
  obtain ⟨most, digits, same, part, longer, each⟩ := long
  exact ⟨most, digits, same, part.trans left.isInfix, longer, each⟩

namespace Traces

/-- What is said about the rest of a text is said about the text. -/
theorem of_suffix {reading : Except ReadError (α × List Char)} (traces : Traces limit rest reading)
    (left : rest <:+ cs) : Traces limit cs reading := by
  cases reading with
  | ok read => exact List.IsSuffix.trans traces left
  | error failure =>
    cases failure with
    | malformed => trivial
    | integerTooLong => exact HasLongRow.of_suffix traces left

/-- A reading that goes on where another has left off. -/
theorem bind {reading : Except ReadError (α × List Char)} {next : α × List Char → Except ReadError (β × List Char)}
    (traces : Traces limit cs reading) (goes : ∀ a rest, rest <:+ cs → Traces limit cs (next (a, rest))) :
    Traces limit cs (reading >>= next) := by
  cases reading with
  | ok read => exact goes read.1 read.2 traces
  | error failure => cases failure <;> exact traces

theorem of_ok {a : α} (left : rest <:+ cs) : Traces limit cs (.ok (a, rest)) :=
  left

end Traces

/-! ## The parts of a value -/

theorem skipBlanks_suffix (cs : List Char) : skipBlanks cs <:+ cs :=
  List.dropWhile_suffix _

/-- What follows a character after the blanks at the front of a text. -/
theorem suffix_of_skipBlanks {c : Char} (found : skipBlanks cs = c :: rest) : rest <:+ cs := by
  have left := skipBlanks_suffix cs
  rw [found] at left
  exact (List.suffix_cons c rest).trans left

theorem stringCodes_suffix {codes : List Nat} (read : stringCodes cs = some (codes, rest)) : rest <:+ cs := by
  fun_induction stringCodes cs generalizing codes rest with
  | case1 => cases read
  | case2 =>
    cases read
    exact List.suffix_cons _ _
  | case3 a b c d text ih =>
    simp only [bind, Option.bind_eq_some_iff, Prod.exists] at read
    obtain ⟨_, _, -, more, after, tail, same⟩ := read
    cases same
    exact (ih tail).trans ⟨['\\', 'u', a, b, c, d], rfl⟩
  | case4 c text other ih =>
    simp only [bind, Option.bind_eq_some_iff, Prod.exists] at read
    obtain ⟨_, -, more, after, tail, same⟩ := read
    cases same
    exact (ih tail).trans ⟨['\\', c], rfl⟩
  | case5 => cases read
  | case6 c text _ _ _ _ ih =>
    simp only [bind, Option.bind_eq_some_iff, Prod.exists] at read
    obtain ⟨more, after, tail, same⟩ := read
    cases same
    exact (ih tail).trans (List.suffix_cons c text)

theorem stringRest_suffix {text : List Char} (read : stringRest cs = some (text, rest)) : rest <:+ cs := by
  simp only [stringRest, Option.map_eq_some_iff, Prod.exists] at read
  obtain ⟨codes, after, codesRead, same⟩ := read
  cases same
  exact stringCodes_suffix codesRead

theorem takeDigits_suffix (cs : List Char) : (takeDigits cs).2 <:+ cs :=
  List.dropWhile_suffix _

theorem takeSign_suffix (cs : List Char) : (takeSign cs).2 <:+ cs := by
  unfold takeSign
  split
  · exact List.suffix_cons _ _
  · exact List.suffix_cons _ _
  · exact List.suffix_refl _

theorem takeFraction_suffix (cs : List Char) : (takeFraction cs).2 <:+ cs := by
  unfold takeFraction
  split
  · rename_i r
    dsimp only
    split
    · exact List.suffix_refl _
    · exact (takeDigits_suffix r).trans (List.suffix_cons _ _)
  · exact List.suffix_refl _

theorem takeExponent_suffix (cs : List Char) : (takeExponent cs).2 <:+ cs := by
  unfold takeExponent
  split
  · rename_i c r
    split
    · dsimp only
      split
      · exact List.suffix_refl _
      · exact ((takeDigits_suffix _).trans (takeSign_suffix r)).trans (List.suffix_cons c r)
    · exact List.suffix_refl _
  · exact List.suffix_refl _

theorem after?_suffix {word : String} (read : after? word cs = some rest) : rest <:+ cs := by
  unfold after? at read
  split at read
  · cases read
    exact List.drop_suffix _ _
  · cases read

/-- The digits that a number begins with stand in the text. -/
theorem readNumber_traces (limit : Option Nat) (cs : List Char) : Traces limit cs (readNumber limit cs) := by
  unfold readNumber
  split
  rename_i negative unsigned signed
  have inText : unsigned <:+ cs := by
    split at signed <;> cases signed
    · exact List.suffix_cons _ _
    · exact List.suffix_refl _
  split
  rename_i whole afterWhole taken
  have digits : afterWhole <:+ unsigned ∧ whole <+: unsigned ∧ ∀ c ∈ whole, isAsciiDigit c = true := by
    split at taken <;> cases taken
    · exact ⟨List.suffix_cons _ _, ⟨_, rfl⟩, by simp; decide⟩
    · exact ⟨takeDigits_suffix _, List.takeWhile_prefix _, fun c member => List.mem_takeWhile_imp member⟩
  obtain ⟨inUnsigned, begins, each⟩ := digits
  split
  · trivial
  split
  rename_i fraction afterFraction fractionTaken
  have inWhole : afterFraction <:+ afterWhole := by
    have left := takeFraction_suffix afterWhole
    rwa [fractionTaken] at left
  split
  rename_i exponent afterExponent exponentTaken
  have inFraction : afterExponent <:+ afterFraction := by
    have left := takeExponent_suffix afterFraction
    rwa [exponentTaken] at left
  have left : afterExponent <:+ cs := ((inFraction.trans inWhole).trans inUnsigned).trans inText
  split
  · split
    · rename_i long
      obtain ⟨most, same, longer⟩ := (Option.any_eq_true _ _).mp long
      exact ⟨most, whole, same, begins.isInfix.trans inText.isInfix, of_decide_eq_true longer, each⟩
    · exact .of_ok left
  · exact .of_ok left

theorem readScalar_traces (limit : Option Nat) (cs : List Char) : Traces limit cs (readScalar limit cs) := by
  unfold readScalar
  split
  case h_1 result found =>
    obtain ⟨⟨word, value⟩, -, read⟩ := List.exists_of_findSome?_eq_some found
    obtain ⟨rest, after, rfl⟩ := Option.map_eq_some_iff.mp read
    exact .of_ok (after?_suffix after)
  case h_2 => exact readNumber_traces limit cs

/-! ## Values -/

/-- Readings with one more nesting, if those with less say what they should. -/
structure Nested (limit : Option Nat) (fuel : Nat) : Prop where
  value : ∀ cs, Traces limit cs (readValue limit fuel cs)
  items : ∀ cs, Traces limit cs (readItems limit fuel cs)
  members : ∀ members cs, Traces limit cs (readMembers limit fuel members cs)

namespace Nested

variable {fuel : Nat}

theorem value_succ (nested : Nested limit fuel) (cs : List Char) :
    Traces limit cs (readValue limit (fuel + 1) cs) := by
  unfold readValue
  split
  case h_1 r =>
    split
    · rename_i text rest read
      exact .of_ok ((stringRest_suffix read).trans (List.suffix_cons _ _))
    · trivial
  case h_2 r =>
    have inText : r <:+ '[' :: r := List.suffix_cons _ _
    split
    · rename_i rest found
      exact .of_ok ((suffix_of_skipBlanks found).trans inText)
    · exact ((nested.items _).of_suffix ((skipBlanks_suffix r).trans inText)).bind fun _ _ left => .of_ok left
  case h_3 r =>
    have inText : r <:+ '\x7b' :: r := List.suffix_cons _ _
    split
    · rename_i rest found
      exact .of_ok ((suffix_of_skipBlanks found).trans inText)
    · exact ((nested.members _ _).of_suffix ((skipBlanks_suffix r).trans inText)).bind fun _ _ left => .of_ok left
  case h_4 => exact readScalar_traces limit cs

theorem items_succ (nested : Nested limit fuel) (cs : List Char) :
    Traces limit cs (readItems limit (fuel + 1) cs) := by
  unfold readItems
  refine (nested.value cs).bind fun item r inText => ?_
  dsimp only
  split
  · rename_i rest found
    exact .of_ok ((suffix_of_skipBlanks found).trans inText)
  · rename_i rest found
    have inRest : skipBlanks rest <:+ cs :=
      (skipBlanks_suffix rest).trans ((suffix_of_skipBlanks found).trans inText)
    exact ((nested.items _).of_suffix inRest).bind fun _ _ left => .of_ok left
  · trivial

theorem members_succ (nested : Nested limit fuel) (members : Table Json) (cs : List Char) :
    Traces limit cs (readMembers limit (fuel + 1) members cs) := by
  unfold readMembers
  split
  case h_2 => trivial
  case h_1 r =>
    split
    case h_1 => trivial
    case h_2 name afterName read =>
      have inText : afterName <:+ '"' :: r := (stringRest_suffix read).trans (List.suffix_cons _ _)
      split
      case h_2 => trivial
      case h_1 afterColon found =>
        have inName : skipBlanks afterColon <:+ '"' :: r :=
          (skipBlanks_suffix afterColon).trans ((suffix_of_skipBlanks found).trans inText)
        refine ((nested.value _).of_suffix inName).bind fun value afterValue inValue => ?_
        dsimp only
        split
        · rename_i rest found
          exact .of_ok ((suffix_of_skipBlanks found).trans inValue)
        · rename_i rest found
          have inRest : skipBlanks rest <:+ '"' :: r :=
            (skipBlanks_suffix rest).trans ((suffix_of_skipBlanks found).trans inValue)
          exact (nested.members _ _).of_suffix inRest
        · trivial

end Nested

/-- What the reader says about a text, however deep it looks. -/
theorem nested (limit : Option Nat) (fuel : Nat) : Nested limit fuel := by
  induction fuel with
  | zero => exact ⟨fun _ => trivial, fun _ => trivial, fun _ _ => trivial⟩
  | succ fuel ih => exact ⟨ih.value_succ, ih.items_succ, ih.members_succ⟩

/-- A document with an integer that is too long has a row of more digits than an integer may have. -/
theorem hasLongRow_of_read (read : Json.read cs = .error .integerTooLong) : HasLongRow (some digitLimit) cs := by
  have traces : Traces (some digitLimit) cs (readValue (some digitLimit) (2 * cs.length + 2) (skipBlanks cs)) :=
    ((nested _ _).value _).of_suffix (skipBlanks_suffix cs)
  unfold Json.read readChars at read
  cases value : readValue (some digitLimit) (2 * cs.length + 2) (skipBlanks cs) with
  | error failure =>
    rw [value] at read traces
    cases read
    exact traces
  | ok result =>
    rw [value] at read
    simp only [bind, Except.bind] at read
    split at read <;> cases read

/-! ## Names of members -/

/-- Members that are put over others of different names have different names. -/
theorem nodup_of_readMembers {fuel : Nat} {members found : Table Json}
    (distinct : members.names.Nodup) (read : readMembers limit fuel members cs = .ok (found, rest)) :
    found.names.Nodup := by
  induction fuel generalizing members cs with
  | zero => cases read
  | succ fuel ih =>
    unfold readMembers at read
    split at read
    case h_2 => cases read
    case h_1 r =>
      split at read
      case h_1 => cases read
      case h_2 name afterName _ =>
        split at read
        case h_2 => cases read
        case h_1 afterColon _ =>
          cases value : readValue limit fuel (skipBlanks afterColon) with
          | error failure =>
            rw [value] at read
            cases read
          | ok result =>
            obtain ⟨member, afterValue⟩ := result
            have entered := Table.nodup_put distinct (String.ofList name) member
            rw [value] at read
            simp only [bind, Except.bind] at read
            split at read
            · cases read
              exact entered
            · exact ih entered read
            · cases read

theorem ne_obj_of_readNumber {value : Json} (read : readNumber limit cs = .ok (value, rest))
    (members : Table Json) : value ≠ .obj members := by
  -- Sign, whole part, fraction and exponent are taken apart before the number is made.
  unfold readNumber at read
  split at read
  split at read
  split at read
  · cases read
  · split at read
    split at read
    split at read
    · split at read <;> cases read
      exact nofun
    · cases read
      exact nofun

/-- A word or a number is no object. -/
theorem ne_obj_of_readScalar {value : Json} (read : readScalar limit cs = .ok (value, rest)) (members : Table Json) :
    value ≠ .obj members := by
  rintro rfl
  unfold readScalar at read
  split at read
  case h_1 result found =>
    cases read
    obtain ⟨⟨word, value⟩, member, taken⟩ := List.exists_of_findSome?_eq_some found
    obtain ⟨_, -, same⟩ := Option.map_eq_some_iff.mp taken
    cases same
    simp [words] at member
  case h_2 =>
    exact ne_obj_of_readNumber read members rfl

/-- The members of an object with which a text begins have different names. -/
theorem nodup_of_readValue {fuel : Nat} {members : Table Json}
    (read : readValue limit fuel cs = .ok (.obj members, rest)) : members.names.Nodup := by
  cases fuel with
  | zero => cases read
  | succ fuel =>
    unfold readValue at read
    split at read
    case h_1 => split at read <;> cases read
    case h_2 r =>
      split at read
      · cases read
      · cases items : readItems limit fuel (skipBlanks r) with
        | error failure => rw [items] at read; cases read
        | ok result => rw [items] at read; cases read
    case h_3 r =>
      split at read
      · cases read
        exact Table.nodup_nil
      · cases taken : readMembers limit fuel [] (skipBlanks r) with
        | error failure => rw [taken] at read; cases read
        | ok result =>
          rw [taken] at read
          cases read
          exact nodup_of_readMembers Table.nodup_nil taken
    case h_4 => exact absurd rfl (ne_obj_of_readScalar read members)

/-- The members of an object that a text writes have different names. -/
theorem nodup_of_read {members : Table Json} (read : Json.read cs = .ok (.obj members)) :
    members.names.Nodup := by
  unfold Json.read readChars at read
  cases value : readValue (some digitLimit) (2 * cs.length + 2) (skipBlanks cs) with
  | error failure =>
    rw [value] at read
    cases read
  | ok result =>
    obtain ⟨document, rest⟩ := result
    rw [value] at read
    simp only [bind, Except.bind] at read
    split at read <;> cases read
    exact nodup_of_readValue value

end Storekeeper.Json
