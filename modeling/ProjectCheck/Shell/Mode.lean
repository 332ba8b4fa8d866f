import ProjectCheck.Text.Cut

/-!
# Permissions

What may be done with a file, as a number: three bits for its owner, three for its group and three
for all others.  Permissions are given as such a number, or as letters that change some of the bits
of the permissions before.
-/

namespace ProjectCheck.Shell

open ProjectCheck.Text

/-- Permissions, as bits of a number. -/
abbrev Mode := Nat

namespace Mode

/-- The permissions of a file that is made without asking for any. -/
def ofFile : Mode := 0o666

/-- The permissions of a directory that is made without asking for any. -/
def ofDirectory : Mode := 0o777

/-- The permissions that new files usually do not get. -/
def usualMask : Mode := 0o022

/-- All permissions. -/
def all : Mode := 0o777

/-- The bits of a number without those of another. -/
def without (mode other : Mode) : Mode :=
  mode - (mode &&& other)

/-- Whether the file may be run by anyone. -/
def isProgram (mode : Mode) : Bool :=
  mode &&& 0o111 != 0

/-- The letters for those who use a file, with the place of their bits. -/
def users : List (Char × Nat) :=
  [('u', 64), ('g', 8), ('o', 1)]

/-- The letters of permissions with their bits. -/
def letters : List (Char × Nat) :=
  [('r', 4), ('w', 2), ('x', 1)]

/-- The bits that a letter means for those at some places; to enter directories and run programs may
be asked for only where someone may do it already. -/
def bitsOf? (isEntered : Bool) (places : List Nat) (letter : Char) : Option Nat :=
  let spread := fun (bit : Nat) => places.foldl (fun n place => n ||| bit * place) 0
  match letter with
  | 'X' => some (if isEntered then spread 1 else 0)
  | 's' => some (places.foldl (fun n place =>
      n ||| (if place = 64 then 0o4000 else if place = 8 then 0o2000 else 0)) 0)
  | 't' => some 0o1000
  | letter => (letters.lookup letter).map spread

/-- Permissions after a sign and letters have been followed for those at some places. -/
def changed (places : List Nat) (sign : Char) (bits mode : Mode) : Mode :=
  match sign with
  | '+' => mode ||| bits
  | '-' => mode.without bits
  | _ => mode.without (places.foldl (fun n place => n ||| 7 * place) 0) ||| bits

/-- Permissions after signs with letters have been followed, one after the other; `hidden` bits are
left alone. -/
def afterSigns? (places : List Nat) (hidden : Mode) (isDirectory : Bool) :
    Nat → List Char → Mode → Option Mode
  | 0, _, mode => some mode
  | _ + 1, [], mode => some mode
  | fuel + 1, sign :: rest, mode =>
    let own := rest.takeWhile fun c => !"+-=".toList.contains c
    if !"+-=".toList.contains sign then none
    else
      match own.mapM (bitsOf? (isDirectory || mode.isProgram) places) with
      | none => none
      | some bits =>
        let bits := without (bits.foldl (· ||| ·) 0) hidden
        afterSigns? places hidden isDirectory fuel (rest.drop own.length)
          (changed places sign bits mode)

/-- Permissions after a part of a text has been followed, which begins with those that it is about.
If it names nobody it is about all, but for the bits of a mask. -/
def afterPart? (mask : Mode) (isDirectory : Bool) (mode : Mode) (part : List Char) : Option Mode :=
  let who := part.takeWhile "ugoa".toList.contains
  let places := users.filterMap fun (letter, place) =>
    if who.isEmpty || who.contains letter || who.contains 'a' then some place else none
  match part.drop who.length with
  | [] => none
  | signs =>
    afterSigns? places (if who.isEmpty then mask else 0) isDirectory (signs.length + 1) signs mode

/-- The number that digits to the base eight mean. -/
def ofDigits? (text : List Char) : Option Mode :=
  if !text.isEmpty && text.all fun c => '0' ≤ c && c ≤ '7' then
    let n := text.foldl (fun n c => 8 * n + (c.toNat - 48)) 0
    if n ≤ 0o7777 then some n else none
  else none

/-- Permissions after a text has been followed. -/
def after? (mask : Mode) (isDirectory : Bool) (text : String) (mode : Mode) : Option Mode :=
  ofDigits? text.toList <|> (pieces ',' text.toList).foldlM (afterPart? mask isDirectory) mode

/-- Permissions in letters. -/
def shown (mode : Mode) : String :=
  let special := [('u', 0o4000, 's'), ('g', 0o2000, 's'), ('o', 0o1000, 't')]
  String.ofList (users.flatMap fun (user, place) =>
    letters.map fun (letter, bit) =>
      let isSet := mode / place % 8 / bit % 2 = 1
      let mark := special.find? fun (owner, bit, _) => owner == user && mode &&& bit != 0
      match letter, mark with
      | 'x', some (_, _, mark) => if isSet then mark else mark.toUpper
      | _, _ => if isSet then letter else '-')

/-- Permissions as digits to the base eight. -/
def digits (mode : Mode) : String :=
  String.ofList (Nat.toDigits 8 mode)

/-- The permissions of each user in letters. -/
def shownByUser (mode : Mode) : String :=
  ",".intercalate (users.map fun (user, place) =>
    String.ofList (user :: '=' :: letters.filterMap fun (letter, bit) =>
      if mode / place % 8 / bit % 2 = 1 then some letter else none))

end Mode

end ProjectCheck.Shell
