import Std.Data.HashMap
import WebScript.Display.EmojiTable
import WebScript.Text.Blank
import WebScript.Text.Case
import WebScript.Text.Find

namespace WebScript.Display

/-- Words in turn as names and what they stand for. -/
def pairUp : List (List Char) → List (String × List Char)
  | name :: symbol :: rest => (.ofList name, symbol) :: pairUp rest
  | _ => []

def emoji : Std.HashMap String (List Char) :=
  let entries := EmojiTable.lines.flatMap fun line => pairUp (Text.pieces ' ' line.toList)
  entries.foldl (fun m (name, symbol) => m.insert name symbol) ∅

/-- The forms a pictograph may be asked for in, after a hyphen: in colour or as plain text. -/
def emojiForms : List (List Char × List Char) :=
  [("-emoji:".toList, [Char.ofNat 0xFE0F]), ("-text:".toList, [Char.ofNat 0xFE0E])]

/-- A name up to a colon, without white space, what marks the form after it, and the rest. -/
def emojiName? : List Char → Option (List Char × List Char × List Char)
  | [] => none
  | c :: rest =>
    match emojiForms.findSome? fun (word, mark) =>
      (Text.afterStart? word (c :: rest)).map fun rest => (([] : List Char), mark, rest) with
    | some found => some found
    | none =>
      if c = ':' then some ([], [], rest)
      else if Text.isBlank c then none
      else (emojiName? rest).map fun (name, mark, rest) => (c :: name, mark, rest)

/-- The pictograph of a name with a mark, or what is written where the name has none. -/
def emojiOr (written name mark : List Char) : List Char :=
  (emoji[Text.lower (.ofList name)]?.map (· ++ mark)).getD written

/-- Shows names between colons as pictographs, with fuel for every character. -/
def showEmoji : (fuel : Nat) → List Char → List Char
  | 0, text => text
  | _ + 1, [] => []
  | fuel + 1, c :: rest =>
    if c = ':' then
      match emojiName? rest with
      | none => c :: showEmoji fuel rest
      | some (name, mark, after) =>
        emojiOr (c :: rest.take (rest.length - after.length)) name mark ++ showEmoji fuel after
    else c :: showEmoji fuel rest

end WebScript.Display
