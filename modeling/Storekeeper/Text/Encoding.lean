/-!
# Texts as bytes

Reading texts from bytes.  `utf8Scan` reads UTF-8 and reports each ill-formed stretch once, with
the stretches of the Unicode standard (the longest part of a sequence that could still have become
a character).  `utf8?` refuses a text with such a stretch, `utf8Lossy` puts the replacement
character in its place.  A message body may also be written in UTF-16 or UTF-32; `Encoding.detect`
tells the encodings apart by the byte order mark or by the zero bytes among the first four.  A
surrogate that stands alone is let through there, as the replacement character.

Which surrogate it was is left out, since a `Char` is never one: lone surrogates are not told apart
from each other nor from U+FFFD, and no later failure to encode them is described.
-/

namespace Storekeeper.Text

/-- Bytes as they arrive from a file or from the network. -/
abbrev Bytes : Type :=
  List UInt8

/-- The UTF-8 bytes of a text. -/
def utf8Bytes (s : String) : Bytes :=
  s.toUTF8.toList

/-- Whether the byte continues a UTF-8 sequence. -/
def isContinuation (b : UInt8) : Bool :=
  0x80 ≤ b.toNat && b.toNat ≤ 0xBF

/-- Whether the byte may stand second after a leading byte of a sequence of three or four. -/
def mayFollow (lead second : UInt8) : Bool :=
  let b := second.toNat
  if lead.toNat = 0xE0 then 0xA0 ≤ b && b ≤ 0xBF
  else if lead.toNat = 0xED then 0x80 ≤ b && b ≤ 0x9F
  else if lead.toNat = 0xF0 then 0x90 ≤ b && b ≤ 0xBF
  else if lead.toNat = 0xF4 then 0x80 ≤ b && b ≤ 0x8F
  else isContinuation second

/-- The low six bits of a continuation byte. -/
def payload (b : UInt8) : Nat :=
  b.toNat % 64

/-- What stands in a text for something that is no character. -/
def replacement : Char :=
  Char.ofNat 0xFFFD

/-- The characters of a UTF-8 text, with `none` for each ill-formed stretch. -/
def utf8Scan : Bytes → List (Option Char)
  | [] => []
  | a :: r =>
    let lead := a.toNat
    if lead < 0x80 then some (Char.ofNat lead) :: utf8Scan r
    else if 0xC2 ≤ lead && lead ≤ 0xDF then
      match r with
      | [] => [none]
      | b :: r₁ =>
        if isContinuation b then
          some (Char.ofNat (lead % 32 * 64 + payload b)) :: utf8Scan r₁
        else none :: utf8Scan (b :: r₁)
    else if 0xE0 ≤ lead && lead ≤ 0xEF then
      match r with
      | [] => [none]
      | b :: r₁ =>
        if mayFollow a b then
          match r₁ with
          | [] => [none]
          | c :: r₂ =>
            if isContinuation c then
              some (Char.ofNat ((lead % 16 * 64 + payload b) * 64 + payload c)) :: utf8Scan r₂
            else none :: utf8Scan (c :: r₂)
        else none :: utf8Scan (b :: r₁)
    else if 0xF0 ≤ lead && lead ≤ 0xF4 then
      match r with
      | [] => [none]
      | b :: r₁ =>
        if mayFollow a b then
          match r₁ with
          | [] => [none]
          | c :: r₂ =>
            if isContinuation c then
              match r₂ with
              | [] => [none]
              | d :: r₃ =>
                if isContinuation d then
                  some (Char.ofNat (((lead % 8 * 64 + payload b) * 64 + payload c) * 64 +
                    payload d)) :: utf8Scan r₃
                else none :: utf8Scan (d :: r₃)
            else none :: utf8Scan (c :: r₂)
        else none :: utf8Scan (b :: r₁)
    else none :: utf8Scan r
termination_by bytes => bytes.length

/-- The text that well-formed UTF-8 writes. -/
def utf8? (bytes : Bytes) : Option (List Char) :=
  (utf8Scan bytes).mapM id

/-- The text of bytes taken for UTF-8, ill-formed stretches replaced. -/
def utf8Lossy (bytes : Bytes) : List Char :=
  (utf8Scan bytes).map (·.getD replacement)

/-- The numbers written by groups of `width` bytes; an incomplete last group is refused. -/
def wordsFrom (width : Nat) (big : Bool) (group : List Nat) : Bytes → Option (List Nat)
  | [] => if group.isEmpty then some [] else none
  | b :: r =>
    let group := b.toNat :: group
    if group.length = width then
      let bytes := if big then group.reverse else group
      (wordsFrom width big [] r).map (bytes.foldl (fun n byte => n * 256 + byte) 0 :: ·)
    else wordsFrom width big group r

/-- The character with a code point, if there is one. -/
def char? (code : Nat) : Option Char :=
  if code < 0xD800 ∨ (0xDFFF < code ∧ code < 0x110000) then some (Char.ofNat code) else none

/-- The character with a code point, the replacement character for a surrogate; a number that is no
code point is refused. -/
def codePoint? (code : Nat) : Option Char :=
  if code < 0x110000 then some ((char? code).getD replacement) else none

/-- The text that code points and UTF-16 units write: a surrogate pair is one character, and the
replacement character stands for a surrogate that stands alone. -/
def ofUnits : List Nat → List Char
  | [] => []
  | high :: low :: r =>
    if 0xD800 ≤ high ∧ high < 0xDC00 ∧ 0xDC00 ≤ low ∧ low < 0xE000 then
      Char.ofNat (0x10000 + (high - 0xD800) * 0x400 + (low - 0xDC00)) :: ofUnits r
    else (char? high).getD replacement :: ofUnits (low :: r)
  | [unit] => [(char? unit).getD replacement]

/-- UTF-8 bytes with the replacement character for each surrogate that is written as if it were a
character. -/
def replaceSurrogates : Bytes → Bytes
  | a :: b :: c :: r =>
    if a.toNat = 0xED && 0xA0 ≤ b.toNat && b.toNat ≤ 0xBF && isContinuation c then
      0xEF :: 0xBF :: 0xBD :: replaceSurrogates r
    else a :: replaceSurrogates (b :: c :: r)
  | bytes => bytes

/-- The encodings a message body may come in. -/
inductive Encoding where
  | utf8
  | utf16 (big : Bool)
  | utf32 (big : Bool)

namespace Encoding

/-- The encoding of a body and what is left of it without its byte order mark. -/
def detect (bytes : Bytes) : Encoding × Bytes :=
  match bytes.map UInt8.toNat with
  | 0x00 :: 0x00 :: 0xFE :: 0xFF :: _ => (utf32 true, bytes.drop 4)
  | 0xFF :: 0xFE :: 0x00 :: 0x00 :: _ => (utf32 false, bytes.drop 4)
  | 0xFE :: 0xFF :: _ => (utf16 true, bytes.drop 2)
  | 0xFF :: 0xFE :: _ => (utf16 false, bytes.drop 2)
  | 0xEF :: 0xBB :: 0xBF :: _ => (utf8, bytes.drop 3)
  | a :: b :: c :: d :: _ =>
    if a = 0 then (if b = 0 then utf32 true else utf16 true, bytes)
    else if b = 0 then (if c = 0 ∧ d = 0 then utf32 false else utf16 false, bytes)
    else (utf8, bytes)
  | [a, b] =>
    if a = 0 then (utf16 true, bytes) else if b = 0 then (utf16 false, bytes) else (utf8, bytes)
  | _ => (utf8, bytes)

/-- The text that bytes write in an encoding. -/
def decode? : Encoding → Bytes → Option (List Char)
  | utf8, bytes => utf8? (replaceSurrogates bytes)
  | utf16 big, bytes => (wordsFrom 2 big [] bytes).map ofUnits
  | utf32 big, bytes => (wordsFrom 4 big [] bytes).bind (·.mapM codePoint?)

end Encoding

/-- The text of a message body. -/
def ofBody? (bytes : Bytes) : Option (List Char) :=
  let (encoding, rest) := Encoding.detect bytes
  encoding.decode? rest

end Storekeeper.Text
