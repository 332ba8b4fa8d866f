import ProjectCheck.Shell.Reading

/-!
# Digests

Numbers of a fixed size that stand for the content of a file.  The content is filled up to a multiple
of sixty-four bytes with its length at the end, and each block of sixty-four bytes changes a few words
in a number of rounds.
-/

namespace ProjectCheck.Shell

open ProjectCheck.Text

/-- A word turned to the left. -/
def turnedLeft (w : UInt32) (n : Nat) : UInt32 :=
  (w <<< UInt32.ofNat n) ||| (w >>> UInt32.ofNat (32 - n))

/-- A word turned to the right. -/
def turnedRight (w : UInt32) (n : Nat) : UInt32 :=
  turnedLeft w (32 - n)

/-- The bytes of a number, the smallest part first. -/
def littleBytes (count n : Nat) : List UInt8 :=
  (List.range count).map fun i => UInt8.ofNat (n / Nat.pow 256 i % 256)

/-- A content filled up to whole blocks. -/
def filledUp (isBig : Bool) (bytes : List UInt8) : List UInt8 :=
  let rest := (bytes.length + 9) % 64
  let zeros := if rest = 0 then 0 else 64 - rest
  let length := littleBytes 8 (8 * bytes.length)
  bytes ++ 128 :: List.replicate zeros 0 ++ if isBig then length.reverse else length

/-- The words of a block. -/
def wordsOf (isBig : Bool) (block : List UInt8) : Array UInt32 :=
  ((chunks 4 block).map fun four =>
    UInt32.ofNat ((if isBig then four.reverse else four).foldr (fun b n => 256 * n + b.toNat) 0)).toArray

/-- The bytes of words. -/
def bytesOfWords (isBig : Bool) (words : List UInt32) : List UInt8 :=
  words.flatMap fun w =>
    let bytes := littleBytes 4 w.toNat
    if isBig then bytes.reverse else bytes

/-- Bytes as digits to the base sixteen. -/
def digestShown (bytes : List UInt8) : String :=
  String.ofList (bytes.flatMap fun b => [Nat.digitChar (b.toNat / 16), Nat.digitChar (b.toNat % 16)])

/-- A word of an array, zero behind its end. -/
def wordAt (words : Array UInt32) (i : Nat) : UInt32 :=
  (words[i]?).getD 0

/-! ## Message digest 5 -/

/-- The words that are added in the rounds. -/
def sineWords : Array UInt32 :=
  #[0xd76aa478, 0xe8c7b756, 0x242070db, 0xc1bdceee, 0xf57c0faf, 0x4787c62a, 0xa8304613,
    0xfd469501, 0x698098d8, 0x8b44f7af, 0xffff5bb1, 0x895cd7be, 0x6b901122, 0xfd987193,
    0xa679438e, 0x49b40821, 0xf61e2562, 0xc040b340, 0x265e5a51, 0xe9b6c7aa, 0xd62f105d,
    0x02441453, 0xd8a1e681, 0xe7d3fbc8, 0x21e1cde6, 0xc33707d6, 0xf4d50d87, 0x455a14ed,
    0xa9e3e905, 0xfcefa3f8, 0x676f02d9, 0x8d2a4c8a, 0xfffa3942, 0x8771f681, 0x6d9d6122,
    0xfde5380c, 0xa4beea44, 0x4bdecfa9, 0xf6bb4b60, 0xbebfbc70, 0x289b7ec6, 0xeaa127fa,
    0xd4ef3085, 0x04881d05, 0xd9d4d039, 0xe6db99e5, 0x1fa27cf8, 0xc4ac5665, 0xf4292244,
    0x432aff97, 0xab9423a7, 0xfc93a039, 0x655b59c3, 0x8f0ccc92, 0xffeff47d, 0x85845dd1,
    0x6fa87e4f, 0xfe2ce6e0, 0xa3014314, 0x4e0811a1, 0xf7537e82, 0xbd3af235, 0x2ad7d2bb,
    0xeb86d391]

/-- By how many bits words are turned in the rounds. -/
def turnCounts : Array Nat :=
  #[7, 12, 17, 22, 5, 9, 14, 20, 4, 11, 16, 23, 6, 10, 15, 21]

/-- Four words after a block. -/
def afterSineBlock (state : List UInt32) (block : List UInt8) : List UInt32 :=
  let words := wordsOf false block
  let step := fun (state : UInt32 × UInt32 × UInt32 × UInt32) (i : Nat) =>
    let (a, b, c, d) := state
    let (f, g) :=
      if i < 16 then ((b &&& c) ||| (~~~b &&& d), i)
      else if i < 32 then ((d &&& b) ||| (~~~d &&& c), (5 * i + 1) % 16)
      else if i < 48 then (b ^^^ c ^^^ d, (3 * i + 5) % 16)
      else (c ^^^ (b ||| ~~~d), 7 * i % 16)
    let turned := turnedLeft (a + f + wordAt sineWords i + wordAt words g)
      ((turnCounts[i / 16 * 4 + i % 4]?).getD 0)
    (d, b + turned, b, c)
  match state with
  | [a, b, c, d] =>
    let (a', b', c', d') := (List.range 64).foldl step (a, b, c, d)
    [a + a', b + b', c + c', d + d']
  | _ => state

/-- The digest of sixteen bytes. -/
def digestMd5 (bytes : List UInt8) : List UInt8 :=
  bytesOfWords false ((chunks 64 (filledUp false bytes)).foldl afterSineBlock
    [0x67452301, 0xefcdab89, 0x98badcfe, 0x10325476])

/-! ## Secure hash algorithms -/

/-- The words of a block and those that are made of them for the rounds behind. -/
def spreadWords (next : Array UInt32 → Nat → UInt32) (count : Nat) (block : List UInt8) :
    Array UInt32 :=
  (List.range' 16 (count - 16)).foldl (fun words i => words.push (next words i)) (wordsOf true block)

/-- Five words after a block. -/
def afterShortBlock (state : List UInt32) (block : List UInt8) : List UInt32 :=
  let words := spreadWords (fun w i =>
    turnedLeft (wordAt w (i - 3) ^^^ wordAt w (i - 8) ^^^ wordAt w (i - 14) ^^^ wordAt w (i - 16)) 1)
    80 block
  let step := fun (state : UInt32 × UInt32 × UInt32 × UInt32 × UInt32) (i : Nat) =>
    let (a, b, c, d, e) := state
    let (f, k) : UInt32 × UInt32 :=
      if i < 20 then ((b &&& c) ||| (~~~b &&& d), 0x5a827999)
      else if i < 40 then (b ^^^ c ^^^ d, 0x6ed9eba1)
      else if i < 60 then ((b &&& c) ||| (b &&& d) ||| (c &&& d), 0x8f1bbcdc)
      else (b ^^^ c ^^^ d, 0xca62c1d6)
    (turnedLeft a 5 + f + e + k + wordAt words i, a, turnedLeft b 30, c, d)
  match state with
  | [a, b, c, d, e] =>
    let (a', b', c', d', e') := (List.range 80).foldl step (a, b, c, d, e)
    [a + a', b + b', c + c', d + d', e + e']
  | _ => state

/-- The digest of twenty bytes. -/
def digestSha1 (bytes : List UInt8) : List UInt8 :=
  bytesOfWords true ((chunks 64 (filledUp true bytes)).foldl afterShortBlock
    [0x67452301, 0xefcdab89, 0x98badcfe, 0x10325476, 0xc3d2e1f0])

/-- The words that are added in the rounds. -/
def rootWords : Array UInt32 :=
  #[0x428a2f98, 0x71374491, 0xb5c0fbcf, 0xe9b5dba5, 0x3956c25b, 0x59f111f1, 0x923f82a4,
    0xab1c5ed5, 0xd807aa98, 0x12835b01, 0x243185be, 0x550c7dc3, 0x72be5d74, 0x80deb1fe,
    0x9bdc06a7, 0xc19bf174, 0xe49b69c1, 0xefbe4786, 0x0fc19dc6, 0x240ca1cc, 0x2de92c6f,
    0x4a7484aa, 0x5cb0a9dc, 0x76f988da, 0x983e5152, 0xa831c66d, 0xb00327c8, 0xbf597fc7,
    0xc6e00bf3, 0xd5a79147, 0x06ca6351, 0x14292967, 0x27b70a85, 0x2e1b2138, 0x4d2c6dfc,
    0x53380d13, 0x650a7354, 0x766a0abb, 0x81c2c92e, 0x92722c85, 0xa2bfe8a1, 0xa81a664b,
    0xc24b8b70, 0xc76c51a3, 0xd192e819, 0xd6990624, 0xf40e3585, 0x106aa070, 0x19a4c116,
    0x1e376c08, 0x2748774c, 0x34b0bcb5, 0x391c0cb3, 0x4ed8aa4a, 0x5b9cca4f, 0x682e6ff3,
    0x748f82ee, 0x78a5636f, 0x84c87814, 0x8cc70208, 0x90befffa, 0xa4506ceb, 0xbef9a3f7,
    0xc67178f2]

/-- Eight words after a block. -/
def afterLongBlock (state : List UInt32) (block : List UInt8) : List UInt32 :=
  let words := spreadWords (fun w i =>
    let x := wordAt w (i - 15)
    let y := wordAt w (i - 2)
    wordAt w (i - 16) + (turnedRight x 7 ^^^ turnedRight x 18 ^^^ (x >>> 3)) + wordAt w (i - 7) +
      (turnedRight y 17 ^^^ turnedRight y 19 ^^^ (y >>> 10))) 64 block
  let step := fun (state : List UInt32) (i : Nat) =>
    match state with
    | [a, b, c, d, e, f, g, h] =>
      let first := h + (turnedRight e 6 ^^^ turnedRight e 11 ^^^ turnedRight e 25) +
        ((e &&& f) ^^^ (~~~e &&& g)) + wordAt rootWords i + wordAt words i
      let second := (turnedRight a 2 ^^^ turnedRight a 13 ^^^ turnedRight a 22) +
        ((a &&& b) ^^^ (a &&& c) ^^^ (b &&& c))
      [first + second, a, b, c, d + first, e, f, g]
    | _ => state
  List.zipWith (· + ·) state ((List.range 64).foldl step state)

/-- The digest of thirty-two bytes. -/
def digestSha256 (bytes : List UInt8) : List UInt8 :=
  bytesOfWords true ((chunks 64 (filledUp true bytes)).foldl afterLongBlock
    [0x6a09e667, 0xbb67ae85, 0x3c6ef372, 0xa54ff53a, 0x510e527f, 0x9b05688c, 0x1f83d9ab, 0x5be0cd19])

/-! ## The tools -/

/-- The digest and the name of a line of a list. -/
def listedDigest? (line : List Char) : Option (String × String) :=
  let digest := line.takeWhile (· != ' ')
  match line.drop digest.length with
  | ' ' :: mark :: name =>
    if mark == ' ' || mark == '*' then some (String.ofList digest, String.ofList name) else none
  | _ => none

/-- Compares the files of a list with their digests. -/
def checkDigests (tool : String) (o : Options) (digest : List UInt8 → List UInt8) (list : String) :
    Machine → Nat × Machine := fun m =>
  match bytesNamed m list with
  | .error why => (1, complainOf tool list why m)
  | .ok bytes =>
    let entries := ((byteLines bytes).map fun line => decodeUtf8 (endless line)).filterMap listedDigest?
    let m := afterReading m list
    if entries.isEmpty then
      (1, m.complain (tool ++ ": " ++ (if list == "-" then "'standard input'" else citedIfOdd list) ++
        ": no properly formatted checksum lines found"))
    else
      let (wrong, missing, m) := entries.foldl
        (fun ((wrong : Nat), (missing : Nat), (m : Machine)) (wanted, name) =>
          match bytesNamed m name with
          | .error why =>
            let m := complainOf tool name why m
            (wrong, missing + 1,
              if o.has 's' then m else m.say (name ++ ": FAILED open or read\n"))
          | .ok content =>
            let isRight := digestShown (digest content) == wanted
            let m := if o.has 's' || (isRight && o.has 'q') then m
              else m.say (name ++ (if isRight then ": OK\n" else ": FAILED\n"))
            (if isRight then wrong else wrong + 1, missing, m)) (0, 0, m)
      let plural := fun (n : Nat) (one many : String) => toString n ++ if n = 1 then one else many
      let m := if missing = 0 || o.has 's' then m else
        m.complain (tool ++ ": WARNING: " ++
          plural missing " listed file could not be read" " listed files could not be read")
      let m := if wrong = 0 || o.has 's' then m else
        m.complain (tool ++ ": WARNING: " ++
          plural wrong " computed checksum did NOT match" " computed checksums did NOT match")
      (if wrong + missing = 0 then 0 else 1, m)

/-- Prints digests of files, or compares files with a list of them. -/
def printDigests (tool : String) (digest : List UInt8 → List UInt8) : Tool :=
  withOptions
    { tool, plain := "bctwzqs".toList
      long := [("check", 'c'), ("binary", 'b'), ("text", 't'), ("quiet", 'q'), ("status", 's'),
        ("warn", 'w'), ("zero", 'z')] } fun o m =>
  let names := if o.operands.isEmpty then ["-"] else o.operands
  if o.has 'c' then forEach (checkDigests tool o digest) names m
  else
    overNamed names (complainOf tool) (fun name bytes =>
      bytesOf (digestShown (digest bytes) ++ (if o.has 'b' then " *" else "  ") ++ name ++ "\n")) m

/-- Prints digests of sixteen bytes. -/
def md5sum : Tool := printDigests "md5sum" digestMd5

/-- Prints digests of twenty bytes. -/
def sha1sum : Tool := printDigests "sha1sum" digestSha1

/-- Prints digests of thirty-two bytes. -/
def sha256sum : Tool := printDigests "sha256sum" digestSha256

/-- What is left of a content that is divided by a polynomial, its length behind it. -/
def polynomialRest (bytes : List UInt8) : UInt32 :=
  let lengthBytes := (List.range 8).map (fun i => UInt8.ofNat (bytes.length / Nat.pow 256 i % 256))
  let length := (lengthBytes.reverse.dropWhile (· == 0)).reverse
  let step := fun (rest : UInt32) (b : UInt8) =>
    (List.range 8).foldl (fun (rest : UInt32) _ =>
      if rest &&& 0x80000000 != 0 then (rest <<< 1) ^^^ 0x04c11db7 else rest <<< 1)
      (rest ^^^ (UInt32.ofNat b.toNat <<< 24))
  ~~~((bytes ++ length).foldl step 0)

/-- Prints checksums with sizes. -/
def cksum : Tool := withOptions { tool := "cksum" } fun o m =>
  overNamed o.operands (complainOf "cksum") (fun name bytes =>
    bytesOf (toString (polynomialRest bytes).toNat ++ " " ++ toString bytes.length ++
      (if o.operands.isEmpty then "" else " " ++ name) ++ "\n")) m

end ProjectCheck.Shell
