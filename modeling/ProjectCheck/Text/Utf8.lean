import ProjectCheck.Text.Quoted

/-!
# UTF-8

Decoding of arbitrary bytes.  Bytes that do not form a character are replaced: each longest run
that begins a character and cannot be continued gives one replacement character, and so does each
byte that cannot begin one.

The decoder reads byte by byte.  Its state says how many bytes are still wanted, between which
bounds the next one has to lie, and the bits read so far.
-/

namespace ProjectCheck.Text

/-- What stands for bytes that do not form a character. -/
def replacementChar : Char :=
  '\uFFFD'

/-- A character in progress: the bytes still wanted after the next one, the bounds of the next
byte, and the bits read so far. -/
structure PendingChar where
  wanted : Nat
  low : Nat
  high : Nat
  bits : Nat
deriving Repr, DecidableEq

/-- The byte `b` where a character may begin: what it shows, and the character it begins. -/
def beginChar (b : Nat) : List Char × Option PendingChar :=
  if b < 0x80 then ([Char.ofNat b], none)
  else if 0xC2 ≤ b && b ≤ 0xDF then ([], some ⟨0, 0x80, 0xBF, b - 0xC0⟩)
  else if 0xE0 ≤ b && b ≤ 0xEF then
    ([], some ⟨1, if b == 0xE0 then 0xA0 else 0x80, if b == 0xED then 0x9F else 0xBF, b - 0xE0⟩)
  else if 0xF0 ≤ b && b ≤ 0xF4 then
    ([], some ⟨2, if b == 0xF0 then 0x90 else 0x80, if b == 0xF4 then 0x8F else 0xBF, b - 0xF0⟩)
  else ([replacementChar], none)

/-- The byte `b` after the beginning of a character. -/
def continueChar (pending : PendingChar) (b : Nat) : List Char × Option PendingChar :=
  if pending.low ≤ b && b ≤ pending.high then
    let bits := pending.bits * 64 + (b - 0x80)
    match pending.wanted with
    | 0 => ([Char.ofNat bits], none)
    | wanted + 1 => ([], some ⟨wanted, 0x80, 0xBF, bits⟩)
  else
    let next := beginChar b
    (replacementChar :: next.1, next.2)

/-- Decodes bytes after the beginning of a character. -/
def decodeFrom : Option PendingChar → List UInt8 → List Char
  | none, [] => []
  | some _, [] => [replacementChar]
  | none, b :: rest =>
    let next := beginChar b.toNat
    next.1 ++ decodeFrom next.2 rest
  | some pending, b :: rest =>
    let next := continueChar pending b.toNat
    next.1 ++ decodeFrom next.2 rest

/-- Decodes bytes, replacing what is no character. -/
def decodeUtf8 (bytes : List UInt8) : List Char :=
  decodeFrom none bytes

/-- Decodes bytes into a string, replacing what is no character. -/
def stringOfBytes (bytes : List UInt8) : String :=
  String.ofList (decodeUtf8 bytes)

/-- The bytes of a text without loss, if they form one. -/
def exactTextOfBytes? (bytes : List UInt8) : Option String :=
  let s := stringOfBytes bytes
  if s.toUTF8.toList == bytes then some s else none

/-! ## Showing bytes -/

/-- One byte between quotes. -/
def quotedByte (quote : Char) (b : UInt8) : List Char :=
  let c := Char.ofNat b.toNat
  if c == quote || c == '\\' then ['\\', c]
  else if c == '\t' then ['\\', 't']
  else if c == '\n' then ['\\', 'n']
  else if c == '\r' then ['\\', 'r']
  else if 32 ≤ b.toNat && b.toNat < 127 then [c]
  else '\\' :: 'x' :: hexDigits 2 b.toNat

/-- Bytes between quotes, marked by a leading b. -/
def quotedBytes (bytes : List UInt8) : List Char :=
  let quote := quoteFor (bytes.map fun b => Char.ofNat b.toNat)
  'b' :: quote :: bytes.flatMap (quotedByte quote) ++ [quote]

end ProjectCheck.Text
