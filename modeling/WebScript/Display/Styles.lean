import WebScript.Display.Markup
import WebScript.Error
import WebScript.Number.Hex
import WebScript.Text.Word

namespace WebScript.Display

/-- How tags are read: the breakdown that they lead to among the pieces of markup, if any. -/
class Styling where
  fault? : List Piece → Option Breakdown

/-- The text that markup shows, unless its tags break it down. -/
def rendered [Styling] (markup : String) : Except Breakdown String :=
  let ps := pieces (markup.length + 1) [] markup.toList
  match Styling.fault? ps with
  | some b => .error b
  | none => .ok (.ofList (display ps))

def words (text : List Char) : List (List Char) :=
  let step (c : Char) (found : List Char × List (List Char)) : List Char × List (List Char) :=
    if Text.isBlank c then ([], if found.1.isEmpty then found.2 else found.1 :: found.2)
    else (c :: found.1, found.2)
  let (first, later) := text.foldr step ([], [])
  if first.isEmpty then later else first :: later

/-- What a style says, each attribute with whether it is set or unset. -/
structure Style where
  attributes : List (String × Bool) := []
  color : Option String := none
  background : Option String := none
  link : Option String := none

namespace Style

/-- A text is no style, or a number in it is none. -/
inductive Fault where
  | unknown
  | number

def attributeNames : List String :=
  ["bold", "dim", "italic", "underline", "blink", "blink2", "reverse", "conceal", "strike",
   "underline2", "frame", "encircle", "overline"]

def shortNames : List (String × String) :=
  [("b", "bold"), ("d", "dim"), ("i", "italic"), ("u", "underline"), ("r", "reverse"),
   ("c", "conceal"), ("s", "strike"), ("uu", "underline2"), ("o", "overline")]

def attribute? (word : String) : Option String :=
  if attributeNames.contains word then some word else shortNames.lookup word

def colorNames : List String :=
  ["default", "black", "red", "green", "yellow", "blue", "magenta", "cyan", "white", "bright_black",
   "bright_red", "bright_green", "bright_yellow", "bright_blue", "bright_magenta", "bright_cyan",
   "bright_white", "grey0", "gray0", "navy_blue", "dark_blue", "blue3", "blue1", "dark_green",
   "deep_sky_blue4", "dodger_blue3", "dodger_blue2", "green4", "spring_green4", "turquoise4",
   "deep_sky_blue3", "dodger_blue1", "green3", "spring_green3", "dark_cyan", "light_sea_green",
   "deep_sky_blue2", "deep_sky_blue1", "spring_green2", "cyan3", "dark_turquoise", "turquoise2",
   "green1", "spring_green1", "medium_spring_green", "cyan2", "cyan1", "dark_red", "deep_pink4",
   "purple4", "purple3", "blue_violet", "orange4", "grey37", "gray37", "medium_purple4",
   "slate_blue3", "royal_blue1", "chartreuse4", "dark_sea_green4", "pale_turquoise4", "steel_blue",
   "steel_blue3", "cornflower_blue", "chartreuse3", "cadet_blue", "sky_blue3", "steel_blue1",
   "pale_green3", "sea_green3", "aquamarine3", "medium_turquoise", "chartreuse2", "sea_green2",
   "sea_green1", "aquamarine1", "dark_slate_gray2", "dark_magenta", "dark_violet", "purple",
   "light_pink4", "plum4", "medium_purple3", "slate_blue1", "yellow4", "wheat4", "grey53", "gray53",
   "light_slate_grey", "light_slate_gray", "medium_purple", "light_slate_blue", "dark_olive_green3",
   "dark_sea_green", "light_sky_blue3", "sky_blue2", "dark_sea_green3", "dark_slate_gray3",
   "sky_blue1", "chartreuse1", "light_green", "pale_green1", "dark_slate_gray1", "red3",
   "medium_violet_red", "magenta3", "dark_orange3", "indian_red", "hot_pink3", "medium_orchid3",
   "medium_orchid", "medium_purple2", "dark_goldenrod", "light_salmon3", "rosy_brown", "grey63",
   "gray63", "medium_purple1", "gold3", "dark_khaki", "navajo_white3", "grey69", "gray69",
   "light_steel_blue3", "light_steel_blue", "yellow3", "dark_sea_green2", "light_cyan3",
   "light_sky_blue1", "green_yellow", "dark_olive_green2", "dark_sea_green1", "pale_turquoise1",
   "deep_pink3", "magenta2", "hot_pink2", "orchid", "medium_orchid1", "orange3", "light_pink3",
   "pink3", "plum3", "violet", "light_goldenrod3", "tan", "misty_rose3", "thistle3", "plum2",
   "khaki3", "light_goldenrod2", "light_yellow3", "grey84", "gray84", "light_steel_blue1",
   "yellow2", "dark_olive_green1", "honeydew2", "light_cyan1", "red1", "deep_pink2", "deep_pink1",
   "magenta1", "orange_red1", "indian_red1", "hot_pink", "dark_orange", "salmon1", "light_coral",
   "pale_violet_red1", "orchid2", "orchid1", "orange1", "sandy_brown", "light_salmon1",
   "light_pink1", "pink1", "plum1", "gold1", "navajo_white1", "misty_rose1", "thistle1", "yellow1",
   "light_goldenrod1", "khaki1", "wheat1", "cornsilk1", "grey100", "gray100", "grey3", "gray3",
   "grey7", "gray7", "grey11", "gray11", "grey15", "gray15", "grey19", "gray19", "grey23", "gray23",
   "grey27", "gray27", "grey30", "gray30", "grey35", "gray35", "grey39", "gray39", "grey42",
   "gray42", "grey46", "gray46", "grey50", "gray50", "grey54", "gray54", "grey58", "gray58",
   "grey62", "gray62", "grey66", "gray66", "grey70", "gray70", "grey74", "gray74", "grey78",
   "gray78", "grey82", "gray82", "grey85", "gray85", "grey89", "gray89", "grey93", "gray93"]

/-- The shares of red, green and blue, each up to 255. -/
def readShares (shares : List (List Char)) : Except Fault Unit := do
  if shares.length != 3 then throw .unknown
  let numbers ← shares.mapM fun share => match Number.read? share with
    | some n => .ok n
    | none => .error Fault.number
  if numbers.any (255 < ·) then throw .unknown

def readColor (word : List Char) : Except Fault String := do
  let name := Text.lower (.ofList word)
  let word := name.toList
  let inside := word.dropWhile (· != '(') |>.drop 1 |>.dropLast
  if colorNames.contains name then .ok name
  else match Text.afterStart? ['#'] word with
  | some digits =>
    if digits.length = 6 && digits.all (Number.hexValue? · |>.isSome) then .ok name
    else .error .unknown
  | none =>
    if word.getLast? != some ')' || inside.isEmpty then .error .unknown
    else if (Text.afterStart? "color(".toList word).isSome then
      if inside.length ≤ 3 && inside.all Text.isDigitAscii &&
        (Number.read? inside).any (· ≤ 255) then .ok name
      else .error .unknown
    else if (Text.afterStart? "rgb(".toList word).isSome then
      if inside.all fun c => Text.isDecimal c || c == ',' then
        (readShares (Text.pieces ',' inside)).map fun _ => name
      else .error .unknown
    else .error .unknown

def readWords : List (List Char) → Style → Except Fault Style
  | [], s => .ok s
  | word :: rest, s =>
    match Text.lower (.ofList word), rest with
    | "on", color :: rest => do
      let name ← readColor color
      readWords rest { s with background := some name }
    | "not", name :: rest => match attribute? (.ofList name) with
      | some a => readWords rest { s with attributes := (a, false) :: s.attributes }
      | none => .error .unknown
    | "link", address :: rest => readWords rest { s with link := some (.ofList address) }
    | name, rest =>
      if ["on", "not", "link"].contains name then .error .unknown
      else match attribute? name with
      | some a => readWords rest { s with attributes := (a, true) :: s.attributes }
      | none => do
        let name ← readColor word
        readWords rest { s with color := some name }

def read (text : List Char) : Except Fault Style :=
  if Text.trimWhere Text.isBlank text = "none".toList then .ok {} else readWords (words text) {}

/-- The words of a style in a fixed order. -/
def name (s : Style) : String :=
  let attributes := attributeNames.filterMap fun a => match s.attributes.lookup a with
    | some true => some a
    | some false => some ("not " ++ a)
    | none => none
  let background := s.background.toList.flatMap fun color => ["on", color]
  let link := s.link.toList.flatMap fun address => ["link", address]
  let said := attributes ++ s.color.toList ++ background ++ link
  if said.isEmpty then "none" else " ".intercalate said

/-- What identifies a style, also one that is none. -/
def key (text : List Char) : Except Breakdown String :=
  match read text with
  | .ok s => .ok s.name
  | .error .unknown => .ok (Text.lower (.ofList (Text.trimWhere Text.isBlank text)))
  | .error .number => .error (.badValue "")

end Style

mutual

/-- What follows a literal at the start of a text: a whole number, a word, a text without escapes
or literals in brackets. -/
def afterLiteral? : (fuel : Nat) → List Char → Option (List Char)
  | 0, _ => none
  | fuel + 1, text => match text.dropWhile (· == ' ') with
    | '(' :: rest => afterLiterals? fuel rest
    | '-' :: rest | '+' :: rest =>
      if (rest.headD ' ').isDigit then afterLiteral? fuel rest else none
    | '"' :: rest => quotedEnd '"' rest
    | '\'' :: rest => quotedEnd '\'' rest
    | rest =>
      let word := rest.takeWhile Text.isWordAscii
      let number := word.all Text.isDigitAscii && (word.headD '0' != '0' || word.all (· == '0'))
      if !word.isEmpty && (number || ["True", "False", "None"].contains (String.ofList word)) then
        some ((rest.drop word.length).dropWhile (· == ' '))
      else none
where
  quotedEnd (quote : Char) (text : List Char) : Option (List Char) :=
    let inside := text.takeWhile fun c => c != quote && c != '\\' && c != '\n'
    match text.drop inside.length with
    | c :: rest => if c = quote then some (rest.dropWhile (· == ' ')) else none
    | [] => none

/-- What follows literals with commas between them and a closing bracket. -/
def afterLiterals? : (fuel : Nat) → List Char → Option (List Char)
  | 0, _ => none
  | fuel + 1, text => match text.dropWhile (· == ' ') with
    | ')' :: rest => some (rest.dropWhile (· == ' '))
    | text => match afterLiteral? fuel text with
      | some (',' :: rest) => afterLiterals? fuel rest
      | some (')' :: rest) => some (rest.dropWhile (· == ' '))
      | _ => none

end

/-- Whether a text is a literal, or several with commas between them. -/
def isLiteral (text : List Char) : Bool :=
  let enough := 2 * text.length + 4
  match afterLiteral? enough text with
  | some [] => true
  | some (',' :: rest) => afterLiterals? enough (rest ++ [')']) == some []
  | _ => false

/-- Whether the parameters of a handler have a value: the name of a handler, which may be followed
by a literal in brackets, or a literal. -/
def isHandler (parameters : List Char) : Bool :=
  let text := Text.trimWhere Text.isBlank parameters
  match text.dropWhile fun c => Text.isWord c || c == '.' with
  | [] => true
  | '(' :: rest =>
    if rest.getLast? = some ')' && !rest.contains '\n' then isLiteral ('(' :: rest)
    else isLiteral text
  | _ => isLiteral text

/-- A tag that is open, and how much has been shown before it. -/
structure OpenTag where
  name : String
  parameters : Option (List Char)
  start : Nat

def OpenTag.style (t : OpenTag) : List Char :=
  match t.parameters with
  | some parameters => t.name.toList ++ ' ' :: parameters
  | none => t.name.toList

/-- What pieces have come to: the text shown, the open tags with the last one first, and styles with
what they have been laid over. -/
structure Canvas where
  shown : List Char := []
  opened : List OpenTag := []
  painted : List (List Char × List Char) := []

namespace Canvas

def unmatched : Breakdown :=
  .remote "MarkupError" ""

/-- Lays the style of a tag over all that has been shown since it. -/
def paint (t : OpenTag) (canvas : Canvas) : Canvas :=
  { canvas with painted := (t.style, canvas.shown.drop t.start) :: canvas.painted }

/-- Closes a tag; a handler has to have a value. -/
def close (t : OpenTag) (canvas : Canvas) : Except Breakdown Canvas :=
  if t.name.toList.head? = some '@' then
    if t.parameters.all fun ps => ps.isEmpty || isHandler ps then .ok canvas
    else .error unmatched
  else .ok (canvas.paint t)

def step (canvas : Canvas) : Piece → Except Breakdown Canvas
  | .plain text => .ok { canvas with shown := canvas.shown ++ plainText text }
  | .tag inside =>
    let (name, parameters) := match Text.cutAt? ['='] inside with
      | some (name, parameters) => (name, some parameters)
      | none => (inside, none)
    match name with
    | '/' :: style => do
      let style := Text.trimWhere Text.isBlank style
      let key ← Style.key style
      match canvas.opened.find? fun t => style.isEmpty || t.name = key with
      | none => .error unmatched
      | some t =>
        let opened := canvas.opened.eraseP fun t => style.isEmpty || t.name = key
        close t { canvas with opened }
    | name => do
      let name ← Style.key name
      return { canvas with opened := ⟨name, parameters, canvas.shown.length⟩ :: canvas.opened }

/-- What is left to go wrong: a number in a style that is none, where the style is seen. -/
def fault? (canvas : Canvas) : Option Breakdown :=
  let ended := canvas.opened.foldl (fun canvas t => canvas.paint t) canvas
  if ended.painted.any fun (style, text) =>
    text.any (· != '\n') && Style.read style matches .error .number then some (.badValue "")
  else none

end Canvas

/-- The usual reading of tags: they open and close styles and handlers. -/
instance usualStyling : Styling where
  fault? ps := match ps.foldlM Canvas.step {} with
    | .ok canvas => canvas.fault?
    | .error b => some b

end WebScript.Display
