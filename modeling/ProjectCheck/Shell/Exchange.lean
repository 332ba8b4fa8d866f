import ProjectCheck.Shell.Pattern
import ProjectCheck.Shell.Reading

/-!
# Bytes for other bytes

`tr` replaces the bytes of its input by others, takes some of them away, or leaves of several that follow
each other only one.  The bytes are listed: one by one, in ranges, in classes that go by names, and in
repeats, which may fill a list up to the length of another.
-/

namespace ProjectCheck.Shell

open ProjectCheck.Number ProjectCheck.Text

/-! ## Escapes -/

/-- The byte that a backslash and what stands behind it mean, and how many characters it takes. -/
def escapedByte (c : Char) (rest : List Char) : UInt8 × Nat :=
  let digits := ((c :: rest).takeWhile fun d => '0' ≤ d && d ≤ '7').take 3
  let digits := if 255 < asciiOctal digits then digits.take 2 else digits
  if !digits.isEmpty then (UInt8.ofNat (asciiOctal digits), digits.length)
  else
    (match c with
      | 'n' => 10
      | 't' => 9
      | 'r' => 13
      | 'a' => 7
      | 'b' => 8
      | 'f' => 12
      | 'v' => 11
      | _ => UInt8.ofNat c.toNat, 1)
where
  /-- The value of digits to the base of eight. -/
  asciiOctal (digits : List Char) : Nat :=
    digits.foldl (fun n d => 8 * n + (d.toNat - 48)) 0

/-- The bytes of a character. -/
def charBytes (c : Char) : List UInt8 :=
  bytesOf (String.singleton c)

/-- The bytes of a list, each with whether it stands for more than itself where it is a sign. -/
def listBytes (s : List Char) : List (UInt8 × Bool) :=
  match s with
  | [] => []
  | '\\' :: c :: rest =>
    if c.toNat < 128 then
      let (b, n) := escapedByte c rest
      (b, false) :: listBytes (rest.drop (n - 1))
    else (charBytes c).map (·, false) ++ listBytes rest
  | c :: rest => (charBytes c).map (·, true) ++ listBytes rest
termination_by s.length

/-! ## Lists -/

/-- A part of a list of bytes. -/
inductive ByteItem where
  | single (b : UInt8)
  | range (first last : UInt8)
  | named (set : CharSet)
  | equal (b : UInt8)
  /-- A byte so many times, or as often as it takes. -/
  | repeated (b : UInt8) (count : Option Nat)
deriving Repr, DecidableEq

/-- Why a text is no list of bytes. -/
inductive ByteListFault where
  | falling (first last : UInt8)
  | noName
  | noEqual
  | badName (name : String)
  | badEqual (text : String)
  | badCount (text : String)
deriving Repr, DecidableEq

/-- A byte as it is shown in what is said of it. -/
def byteShown (b : UInt8) : String :=
  if 32 ≤ b && b < 127 then String.singleton (Char.ofNat b.toNat)
  else
    let digit := fun (n : Nat) => Char.ofNat (48 + n % 8)
    String.ofList ['\\', digit (b.toNat / 64), digit (b.toNat / 8), digit b.toNat]

/-- What is said of a text that is no list of bytes. -/
def ByteListFault.message : ByteListFault → String
  | falling first last => "range-endpoints of '" ++ byteShown first ++ "-" ++ byteShown last ++
    "' are in reverse collating sequence order"
  | noName => "missing character class name '[::]'"
  | noEqual => "missing equivalence class character '[==]'"
  | badName name => "invalid character class " ++ quoted name
  | badEqual text => text ++ ": equivalence class operand must be a single character"
  | badCount text => "invalid repeat count " ++ quoted text ++ " in [c*n] construct"

/-- All bytes. -/
def allBytes : List UInt8 :=
  (List.range 256).map UInt8.ofNat

namespace ByteItem

/-- The bytes of an item; a repeat without a count has none of its own. -/
def bytes : ByteItem → List UInt8
  | single b => [b]
  | range first last => (List.range' first.toNat (last.toNat + 1 - first.toNat)).map UInt8.ofNat
  | named set => allBytes.filter fun b => b < 128 && set.holds (Char.ofNat b.toNat)
  | equal b => [b]
  | repeated b count => List.replicate (count.getD 0) b

/-- Whether an item is a class by the case of letters. -/
def isCase : ByteItem → Bool
  | named set => set = .capitals || set = .smallLetters
  | _ => false

/-- Whether an item is a class. -/
def isNamed : ByteItem → Bool
  | named _ => true
  | _ => false

/-- Whether an item is a repeat without a count. -/
def isFilling : ByteItem → Bool
  | repeated _ none => true
  | _ => false

/-- The bytes in front of a sign and the bracket that closes, and what stands behind it. -/
def upToClose? (sign : UInt8) : List (UInt8 × Bool) → Option (List UInt8 × List (UInt8 × Bool))
  | (a, true) :: (93, true) :: rest => if a == sign then some ([], rest) else none
  | (a, _) :: rest => (upToClose? sign rest).map fun (inner, rest) => (a :: inner, rest)
  | [] => none

/-- The bytes in front of a bracket that closes, and what stands behind it. -/
def upToBracket? : List (UInt8 × Bool) → Option (List UInt8 × List (UInt8 × Bool))
  | (93, true) :: rest => some ([], rest)
  | (a, _) :: rest => (upToBracket? rest).map fun (inner, rest) => (a :: inner, rest)
  | [] => none

/-- How often a byte is repeated, by the digits behind the star; digits with a zero at the front are to the
base of eight, and none, or zero, is as often as it takes. -/
def countOf (digits : List UInt8) : Except ByteListFault (Option Nat) :=
  let chars := digits.map fun b => Char.ofNat b.toNat
  let isOctal := chars.head? == some '0'
  if chars.all fun c => isAsciiDigit c && (!isOctal || c < '8') then
    let n := chars.foldl (fun n c => (if isOctal then 8 else 10) * n + (c.toNat - 48)) 0
    .ok (if n = 0 then none else some n)
  else .error (.badCount (stringOfBytes digits))

/-- The items of a list. -/
def readAll : Nat → List (UInt8 × Bool) → Except ByteListFault (List ByteItem)
  | 0, _ => .ok []
  | fuel + 1, s => do
    let plain := fun (s : List (UInt8 × Bool)) => do
      match s with
      | (a, _) :: (45, true) :: (b, _) :: rest =>
        if b < a then throw (.falling a b)
        return range a b :: (← readAll fuel rest)
      | (a, _) :: rest => return single a :: (← readAll fuel rest)
      | [] => return []
    match s with
    | [] => return []
    | (91, true) :: (sign, true) :: rest =>
      let closed := if sign == 58 || sign == 61 then upToClose? sign rest else none
      let starred := match (sign, true) :: rest with
        | (b, _) :: (42, true) :: rest => (upToBracket? rest).map (b, ·)
        | _ => none
      match closed, starred with
      | some (name, rest), _ =>
        if sign == 58 then
          if name.isEmpty then throw .noName
          match CharSet.names.lookup (stringOfBytes name) with
          | some set => return named set :: (← readAll fuel rest)
          | none => throw (.badName (stringOfBytes name))
        else
          match name with
          | [] => throw .noEqual
          | [b] => return equal b :: (← readAll fuel rest)
          | _ => throw (.badEqual (stringOfBytes name))
      | none, some (b, digits, rest) =>
        let count ← countOf digits
        return repeated b count :: (← readAll fuel rest)
      | none, none => plain s
    | (91, true) :: (b, false) :: (42, true) :: rest =>
      match upToBracket? rest with
      | some (digits, rest) =>
        let count ← countOf digits
        return repeated b count :: (← readAll fuel rest)
      | none => plain s
    | _ => plain s

/-- The items that a text lists. -/
def read (text : String) : Except ByteListFault (List ByteItem) :=
  let bytes := listBytes text.toList
  readAll (bytes.length + 1) bytes

/-- The bytes of items, a repeat without a count filling them up to a length. -/
def bytesUpTo (length : Nat) (items : List ByteItem) : List UInt8 :=
  let own := (items.map fun item => item.bytes.length).foldl (· + ·) 0
  items.flatMap fun item =>
    match item with
    | repeated b none => List.replicate (length - own) b
    | _ => item.bytes

/-- Where in the bytes of items a class by the case of letters begins. -/
def casePlaces (length : Nat) (items : List ByteItem) : List Nat :=
  (items.zipIdx.filter fun (item, _) => item.isCase).map fun (_, i) =>
    (bytesUpTo length (items.take i)).length

end ByteItem

/-! ## Replacing -/

/-- Why bytes cannot be exchanged. -/
inductive ExchangeFault where
  | badList (fault : ByteListFault)
  | fillingFirst
  | twoFillings
  | idleFilling
  | equalSecond
  | namedSecond
  | misaligned
  | emptySecond
  | namedAtEnd
  | manyForOthers
deriving Repr, DecidableEq

/-- What is said of bytes that cannot be exchanged. -/
def ExchangeFault.message : ExchangeFault → String
  | badList fault => fault.message
  | fillingFirst => "the [c*] repeat construct may not appear in string1"
  | twoFillings => "only one [c*] repeat construct may appear in string2"
  | idleFilling => "the [c*] construct may appear in string2 only when translating"
  | equalSecond => "[=c=] expressions may not appear in string2 when translating"
  | namedSecond => "when translating, the only character classes that may appear in\n" ++
    "string2 are 'upper' and 'lower'"
  | misaligned => "misaligned [:upper:] and/or [:lower:] construct"
  | emptySecond => "when not truncating set1, string2 must be non-empty"
  | namedAtEnd => "when translating with string1 longer than string2,\n" ++
    "the latter string must not end with a character class"
  | manyForOthers => "when translating with complemented character classes,\n" ++
    "string2 must map all characters in the domain to one"

/-- The bytes that a text lists, or all others, with its items. -/
def listed? (isOther : Bool) (text : String) : Except ExchangeFault (List UInt8 × List ByteItem) :=
  match ByteItem.read text with
  | .error fault => .error (.badList fault)
  | .ok items =>
    if items.any ByteItem.isFilling then .error .fillingFirst
    else
      let bytes := items.flatMap ByteItem.bytes
      .ok (if isOther then allBytes.filter (!bytes.contains ·) else bytes, items)

/-- The bytes that stand for those of a first list, one for one. -/
def matched (isOther truncates : Bool) (first : List UInt8) (firstItems : List ByteItem) (text : String) :
    Except ExchangeFault (List UInt8) := do
  let items ← match ByteItem.read text with
    | .error fault => throw (.badList fault)
    | .ok items => pure items
  if 1 < (items.filter ByteItem.isFilling).length then throw .twoFillings
  if items.any fun item => match item with | .equal _ => true | _ => false then throw .equalSecond
  if items.any fun item => item.isNamed && !item.isCase then throw .namedSecond
  let second := ByteItem.bytesUpTo first.length items
  let places := if isOther then [] else ByteItem.casePlaces first.length firstItems
  if !(ByteItem.casePlaces first.length items).all places.contains then throw .misaligned
  if truncates || first.length ≤ second.length then return second
  match items.getLast?, second.getLast? with
  | some (.named _), _ => throw .namedAtEnd
  | _, none => throw .emptySecond
  | _, some b =>
    let whole := second ++ List.replicate (first.length - second.length) b
    if isOther && firstItems.any ByteItem.isNamed && whole.any (· != b) then throw .manyForOthers
    return whole

/-- The byte that replaces another: the one at the same place of the second list; of several places the last
one counts. -/
def replacement (first second : List UInt8) (b : UInt8) : UInt8 :=
  (((first.zip second).filter (·.1 == b)).getLast?).elim b (·.2)

/-- Bytes in which no byte of a list follows itself. -/
def squeezed (list : List UInt8) (bytes : List UInt8) : List UInt8 :=
  let isListed := (List.range 256).map fun n => list.contains (UInt8.ofNat n)
  (bytes.foldl (fun kept b =>
    if kept.head? == some b && (isListed[b.toNat]?).getD false then kept else b :: kept) []).reverse

/-- The bytes that are not in a list. -/
def withoutListed (list : List UInt8) (bytes : List UInt8) : List UInt8 :=
  bytes.filter (!list.contains ·)

/-- What is made of bytes, as options ask for it, or why that cannot be done. -/
def exchanged (o : Options) (first : String) (second : Option String) :
    Except ExchangeFault (List UInt8 → List UInt8) := do
  let isOther := o.has 'c' || o.has 'C'
  let (list, items) ← listed? isOther first
  match second with
  | none => return if o.has 'd' then withoutListed list else squeezed list
  | some second =>
    if o.has 'd' then
      match ByteItem.read second with
      | .error fault => throw (.badList fault)
      | .ok others =>
        if others.any ByteItem.isFilling then throw .idleFilling
        return fun bytes => squeezed (others.flatMap ByteItem.bytes) (withoutListed list bytes)
    else
      let onto ← matched isOther (o.has 't') list items second
      let table := allBytes.map (replacement list onto)
      return fun bytes =>
        let replaced := bytes.map fun b => (table[b.toNat]?).getD b
        if o.has 's' then squeezed (onto.take list.length) replaced else replaced

/-- Replaces or removes bytes of the input. -/
def tr : Tool :=
  withOptions
    { tool := "tr", plain := "cCdst".toList
      long := [("complement", 'c'), ("delete", 'd'), ("squeeze-repeats", 's'), ("truncate-set1", 't')] }
    fun o m =>
  let least := if o.has 'd' == o.has 's' then 2 else 1
  let most := if o.has 'd' && !o.has 's' then 1 else 2
  let squeezesToo := o.has 's'
  match o.operands with
  | [] => refuseWith "tr" "missing operand" m
  | first :: others =>
    if others.length + 1 < least then
      refuseWith "tr" ("missing operand after " ++ quoted first ++ "\n" ++
        if squeezesToo then "Two strings must be given when both deleting and squeezing repeats."
        else "Two strings must be given when translating.") m
    else
      match others.drop (most - 1) with
      | extra :: _ =>
        refuseWith "tr" ("extra operand " ++ quoted extra ++
          if others.length = 1 then
            "\nOnly one string may be given when deleting without squeezing repeats."
          else "") m
      | [] =>
        match exchanged o first others.head? with
        | .error fault => (1, m.complain ("tr: " ++ fault.message))
        | .ok use =>
          let bytes := m.input
          (0, m.withoutInput.print (use bytes))

end ProjectCheck.Shell
