import ProjectCheck.Shell.Reading

/-!
# Bytes as text

`od` prints bytes as numbers or as characters, in lines behind their places.  `base64` writes bytes
with the characters of an alphabet of sixty-four, four characters for three bytes, and reads them
again.
-/

namespace ProjectCheck.Shell

open ProjectCheck.Text

/-! ## Numbers -/

/-- How bytes are shown. -/
inductive DumpKind where
  | character
  | octal
  | hexadecimal
  | unsigned
  | signed
deriving Repr, DecidableEq

/-- How a number of bytes are shown as one, perhaps with the bytes as text at the end of the line. -/
structure DumpFormat where
  kind : DumpKind
  size : Nat
  withText : Bool := false
deriving Repr, DecidableEq

namespace DumpFormat

/-- The formats that a text asks for, as many as it has letters. -/
def readAll? : Nat → List Char → Option (List DumpFormat)
  | 0, _ => none
  | _ + 1, [] => some []
  | fuel + 1, c :: rest =>
    let kind? := match c with
      | 'c' => some DumpKind.character
      | 'a' => some .character
      | 'o' => some .octal
      | 'x' => some .hexadecimal
      | 'u' => some .unsigned
      | 'd' => some .signed
      | _ => none
    kind?.bind fun kind =>
      let digits := rest.takeWhile Char.isDigit
      let behind := rest.drop digits.length
      let named := [('C', 1), ('S', 2), ('I', 4), ('L', 8)]
      let (size, behind) := match digits, behind with
        | [], c :: others =>
          match named.lookup c with
          | some size => (size, others)
          | none => (4, behind)
        | [], [] => (4, [])
        | _, _ => ((String.ofList digits).toNat?.getD 4, behind)
      let size := if kind = .character then 1 else size
      let withText := behind.head? == some 'z'
      (readAll? fuel (if withText then behind.drop 1 else behind)).map (⟨kind, size, withText⟩ :: ·)

/-- How many characters a number of the format takes. -/
def width (f : DumpFormat) : Nat :=
  let digitsOf := fun (base : Nat) => (Nat.toDigits base (Nat.pow 256 f.size - 1)).length
  match f.kind with
  | .character => 3
  | .octal => digitsOf 8
  | .hexadecimal => 2 * f.size
  | .unsigned => digitsOf 10
  | .signed => (Nat.toDigits 10 (Nat.pow 256 f.size / 2)).length + 1

/-- A byte as a character. -/
def character (b : UInt8) : String :=
  let named := [(0, "\\0"), (7, "\\a"), (8, "\\b"), (9, "\\t"), (10, "\\n"), (11, "\\v"), (12, "\\f"),
    (13, "\\r")]
  match named.lookup b.toNat with
  | some name => name
  | none =>
    if 32 ≤ b && b < 127 then String.singleton (Char.ofNat b.toNat)
    else
      let digits := Nat.toDigits 8 b.toNat
      String.ofList (List.replicate (3 - digits.length) '0' ++ digits)

/-- Bytes as one number. -/
def number (f : DumpFormat) (bytes : List UInt8) : String :=
  let n := bytes.foldr (fun b n => 256 * n + b.toNat) 0
  let padded := fun (digits : List Char) =>
    String.ofList (List.replicate (f.width - digits.length) '0' ++ digits)
  match f.kind with
  | .character => character (bytes.headD 0)
  | .octal => padded (Nat.toDigits 8 n)
  | .hexadecimal => padded (Nat.toDigits 16 n)
  | .unsigned => toString n
  | .signed =>
    let whole := Nat.pow 256 f.size
    if whole ≤ 2 * n then "-" ++ toString (whole - n) else toString n

/-- A text behind blanks, up to a width. -/
def behindBlanks (width : Nat) (s : String) : String :=
  String.ofList (List.replicate (width - s.length) ' ') ++ s

/-- A line of bytes, which would have room for `room` of them and takes `whole` characters if it is
full. -/
def line (f : DumpFormat) (room whole : Nat) (bytes : List UInt8) : String :=
  let fields := room / f.size
  let spare := whole - (f.width + 1) * fields
  let groups := (List.range ((bytes.length + f.size - 1) / f.size)).map fun i =>
    (bytes.drop (i * f.size)).take f.size
  let shown := groups.zipIdx.map fun (group, i) =>
    let left := fields - i
    let extra := spare * left / fields - spare * (left - 1) / fields
    behindBlanks (f.width + 1 + extra) (f.number group)
  let text := String.join shown
  if f.withText then
    text ++ String.ofList (List.replicate (whole - text.length) ' ') ++ "  >" ++
      String.ofList (bytes.map fun b => if 32 ≤ b && b < 127 then Char.ofNat b.toNat else '.') ++ "<"
  else text

end DumpFormat

/-- A place in a dump, to a base. -/
def placeShown (base : Option Nat) (n : Nat) : String :=
  match base with
  | none => ""
  | some base =>
    let digits := Nat.toDigits base n
    String.ofList (List.replicate ((if base = 16 then 6 else 7) - digits.length) '0' ++ digits)

/-- The lines of a dump; full lines that are the same as the one before are left out. -/
def dumpLines (formats : List DumpFormat) (base : Option Nat) (room : Nat) (showsAll : Bool)
    (bytes : List UInt8) : Nat → (place : Nat) → (before : Option (List UInt8)) → (isLeftOut : Bool) →
    List String
  | 0, _, _, _ => []
  | fuel + 1, place, before, isLeftOut =>
    let own := (bytes.drop place).take room
    if own.isEmpty then []
    else if !showsAll && own.length = room && before == some own then
      (if isLeftOut then [] else ["*"]) ++
        dumpLines formats base room showsAll bytes fuel (place + room) before true
    else
      let whole := (formats.map fun f => (f.width + 1) * (room / f.size)).foldl Nat.max 0
      let lead := placeShown base place
      (formats.zipIdx.map fun (f, i) =>
        (if i = 0 then lead else String.ofList (List.replicate lead.length ' ')) ++
          f.line room whole own) ++
        dumpLines formats base room showsAll bytes fuel (place + room) (some own) false

/-- Prints bytes as numbers or characters. -/
def od : Tool :=
  withOptions
    { tool := "od", plain := "abcdDfFhHiIlLoOsxXv".toList, valued := ['A', 't', 'N', 'j', 'w', 'S']
      long := [("address-radix", 'A'), ("format", 't'), ("read-bytes", 'N'), ("skip-bytes", 'j'),
        ("width", 'w'), ("output-duplicates", 'v')] } fun o m =>
  let short := [('a', "c"), ('b', "o1"), ('c', "c"), ('d', "u2"), ('o', "o2"), ('s', "d2"),
    ('x', "x2"), ('i', "d4"), ('l', "d8"), ('h', "x2")]
  let wanted := o.given.filterMap fun (letter, value) =>
    if letter == 't' then some value else short.lookup letter
  let formats := (if wanted.isEmpty then ["o2"] else wanted).mapM fun text =>
    DumpFormat.readAll? (text.length + 1) text.toList
  let base := match o.value? 'A' with
    | some "n" => none
    | some "d" => some 10
    | some "x" => some 16
    | _ => some 8
  let number := fun letter => (o.value? letter).bind countOf?
  match formats with
  | none =>
    (1, m.complain ("od: invalid type string " ++ quoted ((wanted.getLast?).getD "")))
  | some formats =>
    let (bytes, status, m) := gatherNamed o.operands (complainOf "od") m
    if status != 0 && bytes.isEmpty then (1, m)
    else
      let skipped := (number 'j').getD 0
      let bytes := (number 'N').elim (bytes.drop skipped) (bytes.drop skipped).take
      let room := (number 'w').getD 16
      let padded := List.replicate skipped 0 ++ bytes
      let lines := dumpLines formats.flatten base room (o.has 'v') padded (bytes.length + 1) skipped
        none false
      let end_ := placeShown base padded.length
      (status, m.say (lined (lines ++ if base.isSome then [end_] else [])))

/-! ## An alphabet of sixty-four -/

/-- The characters that stand for six bits. -/
def sixBitSigns : List Char :=
  "ABCDEFGHIJKLMNOPQRSTUVWXYZabcdefghijklmnopqrstuvwxyz0123456789+/".toList

/-- The character for six bits. -/
def sixBitSign (n : Nat) : Char :=
  (sixBitSigns[n % 64]?).getD 'A'

/-- Bytes in the alphabet. -/
def inSixBits : List UInt8 → List Char
  | a :: b :: c :: rest =>
    let n := 65536 * a.toNat + 256 * b.toNat + c.toNat
    sixBitSign (n / 262144) :: sixBitSign (n / 4096) :: sixBitSign (n / 64) :: sixBitSign n ::
      inSixBits rest
  | [a, b] =>
    let n := 1024 * a.toNat + 4 * b.toNat
    [sixBitSign (n / 4096), sixBitSign (n / 64), sixBitSign n, '=']
  | [a] =>
    let n := 16 * a.toNat
    [sixBitSign (n / 64), sixBitSign n, '=', '=']
  | [] => []

/-- The bytes that characters of the alphabet mean, and whether all of them make sense. -/
def outOfSixBits : Nat → List Char → List UInt8 × Bool
  | 0, _ => ([], false)
  | _ + 1, [] => ([], true)
  | fuel + 1, text =>
    let group := text.take 4
    let digits := (group.takeWhile sixBitSigns.contains).map sixBitSigns.idxOf
    let n := digits.foldl (fun n d => 64 * n + d) 0
    let byte := fun (n : Nat) => UInt8.ofNat (n % 256)
    match digits.length, group.drop digits.length with
    | 4, _ =>
      let (others, isWhole) := outOfSixBits fuel (text.drop 4)
      (byte (n / 65536) :: byte (n / 256) :: byte n :: others, isWhole)
    | 3, ['='] =>
      let (others, isWhole) := outOfSixBits fuel (text.drop 4)
      (byte (n / 1024) :: byte (n / 4) :: others, isWhole)
    | 2, ['=', '='] =>
      let (others, isWhole) := outOfSixBits fuel (text.drop 4)
      (byte (n / 16) :: others, isWhole)
    | 3, _ => ([byte (n / 1024), byte (n / 4)], false)
    | 2, _ => ([byte (n / 16)], false)
    | _, _ => ([], false)

/-- Writes bytes in the alphabet, or reads them. -/
def base64 : Tool :=
  withOptions
    { tool := "base64", plain := ['d', 'i'], valued := ['w']
      long := [("decode", 'd'), ("ignore-garbage", 'i'), ("wrap", 'w')] } fun o m =>
  match o.operands with
  | _ :: extra :: _ =>
    (1, m.complain ("base64: extra operand ‘" ++ extra ++
      "’\nTry 'base64 --help' for more information."))
  | operands =>
    match gatherNamed operands (complainOf "base64") m with
    | (bytes, 0, m) =>
      if o.has 'd' then
        let text := (decodeUtf8 bytes).filter fun c =>
          c != '\n' && (!o.has 'i' || c == '=' || sixBitSigns.contains c)
        let (found, isWhole) := outOfSixBits (text.length + 1) text
        let m := m.print found
        if isWhole then (0, m) else (1, m.complain "base64: invalid input")
      else
        let text := bytesOf (String.ofList (inSixBits bytes))
        match (o.value? 'w').elim (some 76) String.toNat? with
        | none =>
          (1, m.complain ("base64: invalid wrap size: ‘" ++ (o.value? 'w').getD "" ++ "’"))
        | some 0 => (0, m.print text)
        | some width =>
          (0, if text.isEmpty then m else m.print ((chunks width text).flatMap (· ++ [10])))
    | (_, status, m) => (status, m)

end ProjectCheck.Shell
