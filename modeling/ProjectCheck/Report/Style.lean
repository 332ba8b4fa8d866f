import ProjectCheck.Number.Reading
import ProjectCheck.Table
import ProjectCheck.Text.Class
import ProjectCheck.Text.Cut
import ProjectCheck.Text.Lowercase

/-!
# Styles

A style is spelled by words: attributes, each of which may be negated, a colour, a colour behind the
word `on`, and an address behind the word `link`.  Words may come in any order, some attributes have
a short name too, and later words cover earlier ones of the same kind.  `normalName` is one spelling
of a style for all of them, so that two names can be compared; a text that spells no style is
compared without the blanks around it and in small letters.
-/

namespace ProjectCheck.Report

open ProjectCheck.Text

/-- The attributes of a style in the order in which they are spelled, with their short names. -/
def attributeNames : List (String × List String) :=
  [("bold", ["b"]), ("dim", ["d"]), ("italic", ["i"]), ("underline", ["u"]), ("blink", []),
   ("blink2", []), ("reverse", ["r"]), ("conceal", ["c"]), ("strike", ["s"]),
   ("underline2", ["uu"]), ("frame", []), ("encircle", []), ("overline", ["o"])]

/-- The attribute of a name. -/
def attribute? (name : String) : Option String :=
  (attributeNames.find? fun a => a.1 == name || a.2.contains name).map (·.1)

/-- The colours that have names. -/
def colourNames : List String :=
  ["default", "black", "red", "green", "yellow", "blue", "magenta", "cyan", "white",
   "bright_black", "bright_red", "bright_green", "bright_yellow", "bright_blue", "bright_magenta",
   "bright_cyan", "bright_white", "navy_blue", "dark_blue", "blue3", "blue1", "dark_green",
   "deep_sky_blue4", "dodger_blue3", "dodger_blue2", "green4", "spring_green4", "turquoise4",
   "deep_sky_blue3", "dodger_blue1", "green3", "spring_green3", "dark_cyan", "light_sea_green",
   "deep_sky_blue2", "deep_sky_blue1", "spring_green2", "cyan3", "dark_turquoise", "turquoise2",
   "green1", "spring_green1", "medium_spring_green", "cyan2", "cyan1", "dark_red", "deep_pink4",
   "purple4", "purple3", "blue_violet", "orange4", "medium_purple4", "slate_blue3", "royal_blue1",
   "chartreuse4", "dark_sea_green4", "pale_turquoise4", "steel_blue", "steel_blue3",
   "cornflower_blue", "chartreuse3", "cadet_blue", "sky_blue3", "steel_blue1", "pale_green3",
   "sea_green3", "aquamarine3", "medium_turquoise", "chartreuse2", "sea_green2", "sea_green1",
   "aquamarine1", "dark_slate_gray2", "dark_magenta", "dark_violet", "purple", "light_pink4",
   "plum4", "medium_purple3", "slate_blue1", "yellow4", "wheat4", "light_slate_grey",
   "light_slate_gray", "medium_purple", "light_slate_blue", "dark_olive_green3", "dark_sea_green",
   "light_sky_blue3", "sky_blue2", "dark_sea_green3", "dark_slate_gray3", "sky_blue1",
   "chartreuse1", "light_green", "pale_green1", "dark_slate_gray1", "red3", "medium_violet_red",
   "magenta3", "dark_orange3", "indian_red", "hot_pink3", "medium_orchid3", "medium_orchid",
   "medium_purple2", "dark_goldenrod", "light_salmon3", "rosy_brown", "medium_purple1", "gold3",
   "dark_khaki", "navajo_white3", "light_steel_blue3", "light_steel_blue", "yellow3",
   "dark_sea_green2", "light_cyan3", "light_sky_blue1", "green_yellow", "dark_olive_green2",
   "dark_sea_green1", "pale_turquoise1", "deep_pink3", "magenta2", "hot_pink2", "orchid",
   "medium_orchid1", "orange3", "light_pink3", "pink3", "plum3", "violet", "light_goldenrod3",
   "tan", "misty_rose3", "thistle3", "plum2", "khaki3", "light_goldenrod2", "light_yellow3",
   "light_steel_blue1", "yellow2", "dark_olive_green1", "honeydew2", "light_cyan1", "red1",
   "deep_pink2", "deep_pink1", "magenta1", "orange_red1", "indian_red1", "hot_pink",
   "dark_orange", "salmon1", "light_coral", "pale_violet_red1", "orchid2", "orchid1", "orange1",
   "sandy_brown", "light_salmon1", "light_pink1", "pink1", "plum1", "gold1", "navajo_white1",
   "misty_rose1", "thistle1", "yellow1", "light_goldenrod1", "khaki1", "wheat1", "cornsilk1"]

/-- The shades of grey that have numbers behind their names. -/
def greyShades : List Nat :=
  [0, 3, 7, 11, 15, 19, 23, 27, 30, 35, 37, 39, 42, 46, 50, 53, 54, 58, 62, 63, 66, 69, 70, 74, 78,
   82, 84, 85, 89, 93, 100]

/-- The names of the shades of grey, in both spellings. -/
def greyNames : List String :=
  greyShades.flatMap fun n => ["grey" ++ toString n, "gray" ++ toString n]

/-- What stands between a name with an opening parenthesis in front and a closing one behind. -/
def argument? (name : String) (s : List Char) : Option (List Char) := do
  let rest ← afterPrefix? (name ++ "(").toList s
  if rest.getLast? == some ')' then some rest.dropLast else none

/-- Whether digits are the number of a colour or of a part of it: at most 255. -/
def isColourNumber (digits : List Char) : Bool :=
  match Number.readDigits digits with
  | .ok n => n ≤ 255
  | .error _ => false

/-- Whether a word in small letters spells a colour: by a name, by six digits behind `#`, by its
number, or by the numbers of its three parts. -/
def isColour (word : List Char) : Bool :=
  let byDigits := match word with
    | '#' :: digits =>
      digits.length == 6 && digits.all fun c => ('0' ≤ c && c ≤ '9') || ('a' ≤ c && c ≤ 'f')
    | _ => false
  let byNumber := (argument? "color" word).any fun digits =>
    digits.length ≤ 3 && digits.all (fun c => '0' ≤ c && c ≤ '9') && isColourNumber digits
  let byParts := (argument? "rgb" word).any fun parts =>
    (pieces ',' parts).length == 3 && (pieces ',' parts).all isColourNumber
  colourNames.contains (String.ofList word) || greyNames.contains (String.ofList word) ||
    byDigits || byNumber || byParts

/-- A style. -/
structure Style where
  attributes : Table String Bool := []
  colour : Option String := none
  background : Option String := none
  link : Option String := none
deriving Repr, DecidableEq

namespace Style

/-- A style with words behind it; nothing if they spell no style. -/
def withWords? (style : Style) : List (List Char) → Option Style
  | [] => some style
  | word :: rest =>
    let name := String.ofList (lower word)
    if name == "on" then
      match rest with
      | next :: rest =>
        if isColour (lower next) then
          withWords? { style with background := some (String.ofList (lower next)) } rest
        else none
      | [] => none
    else if name == "not" then
      match rest with
      | next :: rest => do
        let a ← attribute? (String.ofList next)
        withWords? { style with attributes := Table.put a false style.attributes } rest
      | [] => none
    else if name == "link" then
      match rest with
      | next :: rest => withWords? { style with link := some (String.ofList next) } rest
      | [] => none
    else
      match attribute? name with
      | some a => withWords? { style with attributes := Table.put a true style.attributes } rest
      | none =>
        if isColour (lower word) then withWords? { style with colour := some name } rest else none

/-- The words of a style in order. -/
def words (style : Style) : List String :=
  let attributes := attributeNames.filterMap fun (name, _) =>
    (Table.get? name style.attributes).map fun on => if on then name else "not " ++ name
  attributes ++ style.colour.toList ++ (style.background.map ("on " ++ ·)).toList ++
    (style.link.map ("link " ++ ·)).toList

end Style

/-- The words of a text. -/
def wordsOf (s : List Char) : List (List Char) :=
  (s.splitBy fun a b => isBlank a == isBlank b).filter fun part => !part.all isBlank

/-- The name by which styles are compared. -/
def normalName (s : List Char) : List Char :=
  let words := wordsOf s
  let style? := if words == ["none".toList] then some {} else Style.withWords? {} words
  match style? with
  | some style =>
    if style.words.isEmpty then "none".toList else (" ".intercalate style.words).toList
  | none => lower (trim s)

end ProjectCheck.Report
