import Provision.Table
import Provision.Text.Case
import Provision.Text.Integer
import Provision.Text.Lines

/-!
# Names of styles

A style is named by words: attributes, each possibly after `not`, a colour, a colour after `on`,
and an address after `link`. Words of a style may come in any order, and some attributes have a
short name; the normal form makes names of the same style equal. A name that is no style is its
own normal form, in lower case. A colour given by three parts is refused outright when one of
these is no number.
-/

namespace Provision.Display

/-- The attributes, in the order of the normal form, each with the words for it. -/
def attributeWords : List (String × List String) :=
  [("bold", ["bold", "b"]), ("dim", ["dim", "d"]), ("italic", ["italic", "i"]),
    ("underline", ["underline", "u"]), ("blink", ["blink"]), ("blink2", ["blink2"]),
    ("reverse", ["reverse", "r"]), ("conceal", ["conceal", "c"]), ("strike", ["strike", "s"]),
    ("underline2", ["underline2", "uu"]), ("frame", ["frame"]), ("encircle", ["encircle"]),
    ("overline", ["overline", "o"])]

/-- The attribute of a word. -/
def attributeOf? (word : String) : Option String :=
  (attributeWords.find? fun (_, words) => words.contains word).map Prod.fst

/-- The names of colours. -/
def colourNames : List String := Text.words
  "default black red green yellow blue magenta cyan white bright_black bright_red bright_green
  bright_yellow bright_blue bright_magenta bright_cyan bright_white grey0 gray0 navy_blue
  dark_blue blue3 blue1 dark_green deep_sky_blue4 dodger_blue3 dodger_blue2 green4
  spring_green4 turquoise4 deep_sky_blue3 dodger_blue1 green3 spring_green3 dark_cyan
  light_sea_green deep_sky_blue2 deep_sky_blue1 spring_green2 cyan3 dark_turquoise turquoise2
  green1 spring_green1 medium_spring_green cyan2 cyan1 dark_red deep_pink4 purple4 purple3
  blue_violet orange4 grey37 gray37 medium_purple4 slate_blue3 royal_blue1 chartreuse4
  dark_sea_green4 pale_turquoise4 steel_blue steel_blue3 cornflower_blue chartreuse3
  cadet_blue sky_blue3 steel_blue1 pale_green3 sea_green3 aquamarine3 medium_turquoise
  chartreuse2 sea_green2 sea_green1 aquamarine1 dark_slate_gray2 dark_magenta dark_violet
  purple light_pink4 plum4 medium_purple3 slate_blue1 yellow4 wheat4 grey53 gray53
  light_slate_grey light_slate_gray medium_purple light_slate_blue dark_olive_green3
  dark_sea_green light_sky_blue3 sky_blue2 dark_sea_green3 dark_slate_gray3 sky_blue1
  chartreuse1 light_green pale_green1 dark_slate_gray1 red3 medium_violet_red magenta3
  dark_orange3 indian_red hot_pink3 medium_orchid3 medium_orchid medium_purple2 dark_goldenrod
  light_salmon3 rosy_brown grey63 gray63 medium_purple1 gold3 dark_khaki navajo_white3 grey69
  gray69 light_steel_blue3 light_steel_blue yellow3 dark_sea_green2 light_cyan3
  light_sky_blue1 green_yellow dark_olive_green2 dark_sea_green1 pale_turquoise1 deep_pink3
  magenta2 hot_pink2 orchid medium_orchid1 orange3 light_pink3 pink3 plum3 violet
  light_goldenrod3 tan misty_rose3 thistle3 plum2 khaki3 light_goldenrod2 light_yellow3 grey84
  gray84 light_steel_blue1 yellow2 dark_olive_green1 honeydew2 light_cyan1 red1 deep_pink2
  deep_pink1 magenta1 orange_red1 indian_red1 hot_pink dark_orange salmon1 light_coral
  pale_violet_red1 orchid2 orchid1 orange1 sandy_brown light_salmon1 light_pink1 pink1 plum1
  gold1 navajo_white1 misty_rose1 thistle1 yellow1 light_goldenrod1 khaki1 wheat1 cornsilk1
  grey100 gray100 grey3 gray3 grey7 gray7 grey11 gray11 grey15 gray15 grey19 gray19 grey23
  gray23 grey27 gray27 grey30 gray30 grey35 gray35 grey39 gray39 grey42 gray42 grey46 gray46
  grey50 gray50 grey54 gray54 grey58 gray58 grey62 gray62 grey66 gray66 grey70 gray70 grey74
  gray74 grey78 gray78 grey82 gray82 grey85 gray85 grey89 gray89 grey93 gray93"

/-- Whether a text is written with digits only and is at most 255. -/
def isByte (s : String) : Bool := s.toList.all Char.isDigit && s.toNat?.getD 256 ≤ 255

/-- The inside of a word of the form `name(inside)`. -/
def inParentheses? (name word : String) : Option String :=
  let opening := (name ++ "(").toList
  let cs := word.toList
  if opening.isPrefixOf cs && cs.getLast? = some ')' then
    some (String.ofList (cs.drop opening.length).dropLast)
  else none

/-- Why a word is no colour, or words are no style. -/
inductive StyleFault where
  | unknown
  /-- A part of a colour that should be a number. -/
  | number (f : Text.IntegerFault)
deriving DecidableEq, Repr

/-- A number of a colour in three parts. -/
def colourPart (s : String) : Except StyleFault Int := (Text.readInteger s).mapError .number

/-- A word that names a colour by its three parts, which must all be numbers before they can be too
large. -/
def readParts (inside : String) : Except StyleFault Unit := do
  if inside = "" ∨ !inside.toList.all (fun c => c = ',' || (Text.digit? c).isSome) then
    throw .unknown
  match Text.split ',' inside with
  | [red, green, blue] =>
    let parts := [← colourPart red, ← colourPart green, ← colourPart blue]
    if parts.all (· ≤ 255) then pure () else throw .unknown
  | _ => throw .unknown

/-- A word in lower case that is a colour: by name, by number, or by its three parts. -/
def readColour (word : String) : Except StyleFault Unit :=
  let isHex (c : Char) : Bool := c.isDigit || ('a' ≤ c && c ≤ 'f')
  let isNumber :=
    (match word.toList with
      | '#' :: digits => digits.length = 6 && digits.all isHex
      | _ => false) ||
    ((inParentheses? "color" word).map fun n => n ≠ "" && n.length ≤ 3 && isByte n).getD false
  if colourNames.contains word || isNumber then .ok ()
  else match inParentheses? "rgb" word with
    | some inside => readParts inside
    | none => .error .unknown

/-- The parts of a style. -/
structure StyleParts where
  attributes : Table Bool := []
  colour : Option String := none
  background : Option String := none
  link : Option String := none
deriving DecidableEq, Repr

/-- The parts of a style with those of one more word, an attribute or a colour. -/
def StyleParts.add (p : StyleParts) (word : String) : Except StyleFault StyleParts :=
  match attributeOf? word with
  | some a => .ok { p with attributes := p.attributes.set a true }
  | none => (readColour word).map fun _ => { p with colour := some word }

/-- The parts of a style from its words, added to those found so far. -/
def StyleParts.ofWords : List String → StyleParts → Except StyleFault StyleParts
  | [], p => .ok p
  | [word], p => p.add (Text.lower word)
  | word :: next :: words, p =>
    if Text.lower word = "on" then do
      readColour (Text.lower next)
      ofWords words { p with background := some (Text.lower next) }
    else if Text.lower word = "not" then
      match attributeOf? next with
      | some a => ofWords words { p with attributes := p.attributes.set a false }
      | none => .error .unknown
    else if Text.lower word = "link" then ofWords words { p with link := some next }
    else do
      let p ← p.add (Text.lower word)
      ofWords (next :: words) p

/-- The words of a style in the order of the normal form. -/
def StyleParts.words (p : StyleParts) : List String :=
  (attributeWords.filterMap fun (a, _) => (p.attributes.get? a).map fun b =>
    if b then a else "not " ++ a) ++
  p.colour.toList ++ (p.background.map ("on " ++ ·)).toList ++ (p.link.map ("link " ++ ·)).toList

/-- The normal form of the name of a style, unless a colour in it has a part that is no number. -/
def normalStyle (name : String) : Except Text.IntegerFault String :=
  let plain := String.ofList (Text.trim name.toList)
  if plain = "none" then .ok "none"
  else match StyleParts.ofWords (Text.words name) {} with
    | .ok p => .ok (if p.words.isEmpty then "none" else " ".intercalate p.words)
    | .error .unknown => .ok (Text.lower plain)
    | .error (.number f) => .error f

end Provision.Display
