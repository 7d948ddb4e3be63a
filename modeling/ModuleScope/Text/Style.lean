import ModuleScope.Text.LetterCase
import ModuleScope.Text.Literal
import ModuleScope.Text.Markup

/-!
Styles, as the words in a tag describe them: attributes, a colour, a background and a link. Descriptions
of the same style have one normal form.
-/
namespace ModuleScope.Text

/-- Style attributes, each with its short name, in the order in which a style lists them. -/
def styleAttributes : List (String × String) :=
  [("bold", "b"), ("dim", "d"), ("italic", "i"), ("underline", "u"), ("blink", "blink"),
   ("blink2", "blink2"), ("reverse", "r"), ("conceal", "c"), ("strike", "s"), ("underline2", "uu"),
   ("frame", "frame"), ("encircle", "encircle"), ("overline", "o")]

def styleAttribute? (word : String) : Option String :=
  (styleAttributes.find? fun (long, short) => word == long || word == short).map fun entry => entry.1

def colourNames : List String :=
  ["default", "black", "red", "green", "yellow", "blue", "magenta", "cyan", "white", "bright_black",
   "bright_red", "bright_green", "bright_yellow", "bright_blue", "bright_magenta", "bright_cyan",
   "bright_white", "grey0", "gray0", "navy_blue", "dark_blue", "blue3", "blue1", "dark_green",
   "deep_sky_blue4", "dodger_blue3", "dodger_blue2", "green4", "spring_green4", "turquoise4",
   "deep_sky_blue3", "dodger_blue1", "green3", "spring_green3", "dark_cyan", "light_sea_green",
   "deep_sky_blue2", "deep_sky_blue1", "spring_green2", "cyan3", "dark_turquoise", "turquoise2",
   "green1", "spring_green1", "medium_spring_green", "cyan2", "cyan1", "dark_red", "deep_pink4",
   "purple4", "purple3", "blue_violet", "orange4", "grey37", "gray37", "medium_purple4",
   "slate_blue3", "royal_blue1", "chartreuse4", "dark_sea_green4", "pale_turquoise4", "steel_blue",
   "steel_blue3", "cornflower_blue", "chartreuse3", "cadet_blue", "sky_blue3", "steel_blue1",
   "pale_green3", "sea_green3", "aquamarine3", "medium_turquoise", "chartreuse2", "sea_green2",
   "sea_green1", "aquamarine1", "dark_slate_gray2", "dark_magenta", "dark_violet", "purple",
   "light_pink4", "plum4", "medium_purple3", "slate_blue1", "yellow4", "wheat4", "grey53", "gray53",
   "light_slate_grey", "light_slate_gray", "medium_purple", "light_slate_blue", "dark_olive_green3",
   "dark_sea_green", "light_sky_blue3", "sky_blue2", "dark_sea_green3", "dark_slate_gray3",
   "sky_blue1", "chartreuse1", "light_green", "pale_green1", "dark_slate_gray1", "red3",
   "medium_violet_red", "magenta3", "dark_orange3", "indian_red", "hot_pink3", "medium_orchid3",
   "medium_orchid", "medium_purple2", "dark_goldenrod", "light_salmon3", "rosy_brown", "grey63",
   "gray63", "medium_purple1", "gold3", "dark_khaki", "navajo_white3", "grey69", "gray69",
   "light_steel_blue3", "light_steel_blue", "yellow3", "dark_sea_green2", "light_cyan3",
   "light_sky_blue1", "green_yellow", "dark_olive_green2", "dark_sea_green1", "pale_turquoise1",
   "deep_pink3", "magenta2", "hot_pink2", "orchid", "medium_orchid1", "orange3", "light_pink3",
   "pink3", "plum3", "violet", "light_goldenrod3", "tan", "misty_rose3", "thistle3", "plum2",
   "khaki3", "light_goldenrod2", "light_yellow3", "grey84", "gray84", "light_steel_blue1",
   "yellow2", "dark_olive_green1", "honeydew2", "light_cyan1", "red1", "deep_pink2", "deep_pink1",
   "magenta1", "orange_red1", "indian_red1", "hot_pink", "dark_orange", "salmon1", "light_coral",
   "pale_violet_red1", "orchid2", "orchid1", "orange1", "sandy_brown", "light_salmon1",
   "light_pink1", "pink1", "plum1", "gold1", "navajo_white1", "misty_rose1", "thistle1", "yellow1",
   "light_goldenrod1", "khaki1", "wheat1", "cornsilk1", "grey100", "gray100", "grey3", "gray3",
   "grey7", "gray7", "grey11", "gray11", "grey15", "gray15", "grey19", "gray19", "grey23", "gray23",
   "grey27", "gray27", "grey30", "gray30", "grey35", "gray35", "grey39", "gray39", "grey42",
   "gray42", "grey46", "gray46", "grey50", "gray50", "grey54", "gray54", "grey58", "gray58",
   "grey62", "gray62", "grey66", "gray66", "grey70", "gray70", "grey74", "gray74", "grey78",
   "gray78", "grey82", "gray82", "grey85", "gray85", "grey89", "gray89", "grey93", "gray93"]

def commaParts (text : List Char) : List (List Char) :=
  text.foldr (fun c parts => if c == ',' then [] :: parts else parts.modifyHead (c :: ·)) [[]]

/-- Whether three numbers are a colour. Whatever else stands between the commas is an error of its own. -/
def isTriplet (text : List Char) : Except MarkupError Bool :=
  match commaParts text with
  | [red, green, blue] => do
    let parts ← [red, green, blue].mapM fun part =>
      match natural? part with
      | some amount => .ok amount
      | none => .error (.malformed
          s!"invalid literal for int() with base 10: {quoted (String.ofList part)}")
    return parts.all (· ≤ 255)
  | _ => .ok false

def argument? (name : String) (word : List Char) : Option (List Char) :=
  let inner := word.drop (name.length + 1)
  if (name.toList ++ ['(']).isPrefixOf word && inner.getLast? == some ')' then some inner.dropLast else none

/-- Whether a word in small letters is a colour: by name, by three pairs of hexadecimal digits, by number,
or by the amounts of three others. -/
def isColour (word : String) : Except MarkupError Bool :=
  if colourNames.contains word then .ok true
  else match word.toList with
    | '#' :: digits =>
      .ok (digits.length == 6 && digits.all fun c => c.isDigit || ('a' ≤ c && c ≤ 'f'))
    | letters =>
      match argument? "color" letters, argument? "rgb" letters with
      | some number, _ =>
        .ok (number.length ≤ 3 && number.all Char.isDigit && (natural? number).any (· ≤ 255))
      | none, some amounts =>
        if !amounts.isEmpty && amounts.all fun c => c == ',' || (digit? c).isSome then isTriplet amounts
        else .ok false
      | none, none => .ok false

def blankWords (text : List Char) : List String :=
  let step (parts : List (List Char)) (c : Char) : List (List Char) :=
    if isBlank c then [] :: parts
    else match parts with
      | part :: rest => (c :: part) :: rest
      | [] => [[c]]
  ((text.foldl step [[]]).reverse.filter fun part => !part.isEmpty).map fun part =>
    String.ofList part.reverse

def smallLetters (text : String) : String := String.ofList (text.toList.flatMap small)

structure Style where
  attributes : List (String × Bool) := []
  colour : Option String := none
  background : Option String := none
  link : Option String := none

namespace Style

def set (style : Style) (name : String) (value : Bool) : Style :=
  { style with attributes := (name, value) :: style.attributes }

def withWord (style : Style) (word : String) : OptionT (Except MarkupError) Style := do
  let word := smallLetters word
  match styleAttribute? word with
  | some name => return style.set name true
  | none =>
    guard (← isColour word)
    return { style with colour := some word }

def ofWords (style : Style) : List String → OptionT (Except MarkupError) Style
  | [] => return style
  | [word] => style.withWord word
  | word :: next :: rest =>
    match smallLetters word with
    | "on" => do
      let colour := smallLetters next
      guard (← isColour colour)
      ofWords { style with background := some colour } rest
    | "not" => do
      let some name := styleAttribute? next | failure
      ofWords (style.set name false) rest
    | "link" => ofWords { style with link := some next } rest
    | _ => do ofWords (← style.withWord word) (next :: rest)

def describe (style : Style) : String :=
  let attributes := styleAttributes.filterMap fun (name, _) =>
    (style.attributes.lookup name).map fun value => if value then name else "not " ++ name
  let words := attributes ++ style.colour.toList ++
    (style.background.toList.map fun word => "on " ++ word) ++
    (style.link.toList.map fun word => "link " ++ word)
  if words.isEmpty then "none" else " ".intercalate words

/-- The usual description of a style, or else the words themselves in small letters. -/
def normalForm (text : List Char) : Except MarkupError String := do
  let words := blankWords text
  if words == ["none"] then return "none"
  match ← (ofWords {} words).run with
  | some style => return style.describe
  | none => return smallLetters (String.ofList (trimBoth isBlank text))

end Style

def tagRules : TagRules := ⟨Style.normalForm, Literal.complaint?⟩

def render (markup : String) : Except MarkupError String := renderBy tagRules markup

end ModuleScope.Text
