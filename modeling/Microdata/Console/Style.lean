import Microdata.Number.Integer
import Microdata.Pairs
import Microdata.Text.Blank
import Microdata.Text.Lowercase
set_option autoImplicit false

namespace Microdata.Console

/-- What a name lists. Of an attribute that it lists twice the first entry counts. -/
structure Style where
  attributes : List (String × Bool) := []
  foreground : Option String := none
  background : Option String := none
  link : Option String := none

namespace Style

inductive Problem where
  | unknown
  | number (f : Fault)

def attributeNames : List String :=
  ["bold", "dim", "italic", "underline", "blink", "blink2", "reverse", "conceal", "strike",
    "underline2", "frame", "encircle", "overline"]

def attribute? (word : String) : Option String :=
  match word with
  | "b" => some "bold"
  | "d" => some "dim"
  | "i" => some "italic"
  | "u" => some "underline"
  | "r" => some "reverse"
  | "c" => some "conceal"
  | "s" => some "strike"
  | "uu" => some "underline2"
  | "o" => some "overline"
  | word => if attributeNames.contains word then some word else none

def colourNames : String :=
  "black red green yellow blue magenta cyan white bright_black bright_red bright_green
  bright_yellow bright_blue bright_magenta bright_cyan bright_white grey0 gray0 navy_blue
  dark_blue blue3 blue1 dark_green deep_sky_blue4 dodger_blue3 dodger_blue2 green4
  spring_green4 turquoise4 deep_sky_blue3 dodger_blue1 green3 spring_green3 dark_cyan
  light_sea_green deep_sky_blue2 deep_sky_blue1 spring_green2 cyan3 dark_turquoise turquoise2
  green1 spring_green1 medium_spring_green cyan2 cyan1 dark_red deep_pink4 purple4 purple3
  blue_violet orange4 grey37 gray37 medium_purple4 slate_blue3 royal_blue1 chartreuse4
  dark_sea_green4 pale_turquoise4 steel_blue steel_blue3 cornflower_blue chartreuse3
  cadet_blue sky_blue3 steel_blue1 pale_green3 sea_green3 aquamarine3 medium_turquoise
  chartreuse2 sea_green2 sea_green1 aquamarine1 dark_slate_gray2 dark_magenta dark_violet
  purple light_pink4 plum4 medium_purple3 slate_blue1 yellow4 wheat4 grey53 gray53
  light_slate_grey light_slate_gray medium_purple light_slate_blue dark_olive_green3
  dark_sea_green light_sky_blue3 sky_blue2 dark_sea_green3 dark_slate_gray3 sky_blue1
  chartreuse1 light_green pale_green1 dark_slate_gray1 red3 medium_violet_red magenta3
  dark_orange3 indian_red hot_pink3 medium_orchid3 medium_orchid medium_purple2 dark_goldenrod
  light_salmon3 rosy_brown grey63 gray63 medium_purple1 gold3 dark_khaki navajo_white3 grey69
  gray69 light_steel_blue3 light_steel_blue yellow3 dark_sea_green2 light_cyan3
  light_sky_blue1 green_yellow dark_olive_green2 dark_sea_green1 pale_turquoise1 deep_pink3
  magenta2 hot_pink2 orchid medium_orchid1 orange3 light_pink3 pink3 plum3 violet
  light_goldenrod3 tan misty_rose3 thistle3 plum2 khaki3 light_goldenrod2 light_yellow3 grey84
  gray84 light_steel_blue1 yellow2 dark_olive_green1 honeydew2 light_cyan1 red1 deep_pink2
  deep_pink1 magenta1 orange_red1 indian_red1 hot_pink dark_orange salmon1 light_coral
  pale_violet_red1 orchid2 orchid1 orange1 sandy_brown light_salmon1 light_pink1 pink1 plum1
  gold1 navajo_white1 misty_rose1 thistle1 yellow1 light_goldenrod1 khaki1 wheat1 cornsilk1
  grey100 gray100 grey3 gray3 grey7 gray7 grey11 gray11 grey15 gray15 grey19 gray19 grey23
  gray23 grey27 gray27 grey30 gray30 grey35 gray35 grey39 gray39 grey42 gray42 grey46 gray46
  grey50 gray50 grey54 gray54 grey58 gray58 grey62 gray62 grey66 gray66 grey70 gray70 grey74
  gray74 grey78 gray78 grey82 gray82 grey85 gray85 grey89 gray89 grey93 gray93"

def argument? (word : String) (cs : List Char) : Option (List Char) :=
  let front := word.toList ++ ['(']
  if front.isPrefixOf cs && cs.getLast? == some ')' then some (cs.drop front.length).dropLast
  else none

def isHex (c : Char) : Bool := c.isDigit || ('a' ≤ c && c ≤ 'f')

/-- The colour that a word names in small letters: by a name, by six digits, by its number, or by
how much of three colours it has. -/
def colour (word : String) : Except Problem String :=
  let word := Text.lower word
  let cs := word.toList
  let known (b : Bool) : Except Problem String := if b then .ok word else .error .unknown
  if word == "default" || (Text.words colourNames).contains word then .ok word
  else
    match cs, argument? "color" cs, argument? "rgb" cs with
    | '#' :: digits, _, _ => known (digits.length == 6 && digits.all isHex)
    | _, some digits, _ =>
      known (!digits.isEmpty && digits.length ≤ 3 && digits.all Char.isDigit &&
        digits.foldl (fun n d => 10 * n + (d.toNat - 48)) 0 ≤ 255)
    | _, _, some parts =>
      let parts' := Text.split ',' parts
      if parts'.length != 3 || !parts.all fun c => c == ',' || (Text.decimalValue? c).isSome then
        .error .unknown
      else
        match parts'.mapM fun p => Numeric.readInteger 10 (String.ofList p) with
        | .ok ns => known (ns.all fun n => n ≤ 255)
        | .error f => .error (.number f)
    | _, none, none => .error .unknown

def read (s : Style) : List String → Except Problem Style
  | [] => .ok s
  | word :: rest =>
    let small := Text.lower word
    if small == "on" then
      match rest with
      | [] => .error .unknown
      | next :: rest =>
        match colour next with
        | .ok c => read { s with background := some c } rest
        | .error p => .error p
    else if small == "not" then
      match rest with
      | [] => .error .unknown
      | next :: rest =>
        match attribute? next with
        | some a => read { s with attributes := (a, false) :: s.attributes } rest
        | none => .error .unknown
    else if small == "link" then
      match rest with
      | [] => .error .unknown
      | next :: rest => read { s with link := some next } rest
    else
      match attribute? small with
      | some a => read { s with attributes := (a, true) :: s.attributes } rest
      | none =>
        match colour small with
        | .ok c => read { s with foreground := some c } rest
        | .error p => .error p

def text (s : Style) : String :=
  let listed := attributeNames.filterMap fun a => (lookup? a s.attributes).map fun held =>
    if held then a else "not " ++ a
  let words := listed ++ s.foreground.toList ++ (s.background.toList.flatMap fun c => ["on", c]) ++
    (s.link.toList.flatMap fun l => ["link", l])
  if words.isEmpty then "none" else " ".intercalate words

def normal (name : String) : Except Fault String :=
  if Text.strip name == "none" then .ok "none"
  else
    match read {} (Text.words name) with
    | .ok s => .ok s.text
    | .error .unknown => .ok (Text.lower (Text.strip name))
    | .error (.number f) => .error f

end Style
end Microdata.Console
