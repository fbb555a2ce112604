import WebScript.Html.Reference
import WebScript.Text.Case

namespace WebScript.Html

/-- The parts a page is written in. -/
inductive Token where
  | text (content : List Char)
  | raw (content : List Char)
  | comment (content : List Char)
  | startTag (name : String) (attributes : List (String × Option String)) (selfClosing : Bool)
  | endTag (name : String)
  | doctype
  deriving Repr

namespace Scan

def isSpace (c : Char) : Bool :=
  c == ' ' || c == '\t' || c == '\n' || c == '\x0c' || c == '\r'

/-- A character of content; the null character is not one. -/
def contentChar (c : Char) : Char :=
  if c.toNat == 0 then Char.ofNat 0xFFFD else c

/-- Text with its references replaced. -/
def decode (inAttribute : Bool) : (fuel : Nat) → List Char → List Char
  | 0, _ => []
  | _, [] => []
  | fuel + 1, c :: rest =>
    if c == '&' then match reference? inAttribute rest with
      | some (content, rest) => content ++ decode inAttribute fuel rest
      | none => '&' :: decode inAttribute fuel rest
    else contentChar c :: decode inAttribute fuel rest

def decoded (inAttribute : Bool) (text : List Char) : List Char :=
  decode inAttribute (text.length + 1) text

def nameText (cs : List Char) : String :=
  .ofList (cs.map fun c => contentChar (Text.lowerAscii c))

/-- The value of an attribute after the equals sign, and the rest; none if the page ends before. -/
def attributeValue? (text : List Char) : Option (List Char × List Char) :=
  let quotedBy (q : Char) (body : List Char) : Option (List Char × List Char) :=
    (Text.cutAt? [q] body).map fun (value, rest) => (decoded true value, rest)
  match text.dropWhile isSpace with
  | '"' :: body => quotedBy '"' body
  | '\'' :: body => quotedBy '\'' body
  | body =>
    let isValue (c : Char) : Bool := !isSpace c && c != '>'
    some (decoded true (body.takeWhile isValue), body.dropWhile isValue)

/-- The attributes of a tag, whether it closes itself, and what follows it; none if the page ends
inside the tag. The first of two attributes of one name counts. -/
def attributes? : (fuel : Nat) → List Char → List (String × Option String) →
    Option (List (String × Option String) × Bool × List Char)
  | 0, _, _ => none
  | fuel + 1, text, found =>
    match text.dropWhile isSpace with
    | [] => none
    | '>' :: rest => some (found.reverse, false, rest)
    | '/' :: '>' :: rest => some (found.reverse, true, rest)
    | '/' :: rest => attributes? fuel rest found
    | c :: body =>
      let isName (c : Char) : Bool := !isSpace c && c != '/' && c != '>' && c != '='
      let name := nameText (c :: body.takeWhile isName)
      let rest := body.dropWhile isName
      let add (value : Option String) : List (String × Option String) :=
        if (found.lookup name).isSome then found else (name, value) :: found
      match rest.dropWhile isSpace with
      | '=' :: rest => match attributeValue? rest with
        | some (value, rest) => attributes? fuel rest (add (some (.ofList value)))
        | none => none
      | _ => attributes? fuel rest (add none)

def tagName (text : List Char) : String × List Char :=
  let isName (c : Char) : Bool := !isSpace c && c != '/' && c != '>'
  (nameText (text.takeWhile isName), text.dropWhile isName)

/-- The tag whose name the text begins with; none if the page ends inside it. -/
def tag? (isEnd : Bool) (text : List Char) : Option (Token × List Char) :=
  let (name, rest) := tagName text
  match attributes? (rest.length + 1) rest [] with
  | none => none
  | some (attributes, selfClosing, rest) =>
    some (if isEnd then .endTag name else .startTag name attributes selfClosing, rest)

/-- The content of a comment after its opening, up to two hyphens, perhaps an exclamation mark, and
the closing bracket. -/
def commentContent : List Char → List Char × List Char
  | [] => ([], [])
  | '-' :: '-' :: '>' :: rest => ([], rest)
  | '-' :: '-' :: '!' :: '>' :: rest => ([], rest)
  | '-' :: '-' :: '!' :: [] => ([], [])
  | '-' :: '-' :: [] => ([], [])
  | '-' :: [] => ([], [])
  | c :: rest =>
    let (content, rest) := commentContent rest
    (contentChar c :: content, rest)

/-- A comment whose opening has been read. One that closes at once is empty. -/
def comment (text : List Char) : Token × List Char :=
  match text with
  | '>' :: rest => (.comment [], rest)
  | '-' :: '>' :: rest => (.comment [], rest)
  | text =>
    let (content, rest) := commentContent text
    (.comment content, rest)

/-- What reads as a comment up to the next closing bracket. -/
def bogusComment (text : List Char) : Token × List Char :=
  (.comment ((text.takeWhile (· != '>')).map contentChar), (text.dropWhile (· != '>')).drop 1)

def startsFolded (word : String) (text : List Char) : Bool :=
  (text.take word.length).map Text.lowerAscii == word.toList

/-- A declaration, whose opening bracket and exclamation mark have been read. -/
def declaration (text : List Char) : Token × List Char :=
  match text with
  | '-' :: '-' :: rest => comment rest
  | text =>
    if startsFolded "doctype" text then (.doctype, (text.dropWhile (· != '>')).drop 1)
    else bogusComment text

/-- The kinds of content that is not made of elements. -/
inductive Content where
  | text
  | raw
  | script
  | plain
  deriving DecidableEq, Repr

/-- The kind of content an element has, if not made of elements. -/
def contentOf? (name : String) : Option Content :=
  if ["title", "textarea"].contains name then some .text
  else if ["style", "xmp", "iframe", "noembed", "noframes"].contains name then some .raw
  else if name == "script" then some .script
  else if name == "plaintext" then some .plain
  else none

/-- Whether the end tag of an element, less its opening bracket, begins the text. -/
def isEndTagOf (name : String) (text : List Char) : Bool :=
  match text with
  | '/' :: rest =>
    startsFolded name rest &&
      (rest.drop name.length).head?.any fun c => isSpace c || c == '/' || c == '>'
  | _ => false

/-- Content up to the end tag of its element. -/
def rawContent (name : String) : List Char → List Char × List Char
  | [] => ([], [])
  | c :: rest =>
    if c == '<' && isEndTagOf name rest then ([], c :: rest)
    else
      let (content, rest) := rawContent name rest
      (c :: content, rest)

/-- Where in a script the text stands: a comment hides end tags while a script inside it is open. -/
inductive ScriptMode where
  | plain
  | inComment
  | inInnerScript
  deriving DecidableEq, Repr

def ScriptMode.after (text : List Char) : ScriptMode → ScriptMode
  | .plain => if (Text.afterStart? "<!--".toList text).isSome then .inComment else .plain
  | .inComment =>
    if (Text.afterStart? "-->".toList text).isSome then .plain
    else if text.head? == some '<' && isEndTagOf "script" ('/' :: text.drop 1) then .inInnerScript
    else .inComment
  | .inInnerScript =>
    if (Text.afterStart? "-->".toList text).isSome then .plain
    else if text.head? == some '<' && isEndTagOf "script" (text.drop 1) then .inComment
    else .inInnerScript

/-- The content of a script up to its end tag. -/
def scriptContent : ScriptMode → List Char → List Char × List Char
  | _, [] => ([], [])
  | mode, c :: rest =>
    if c == '<' && mode != .inInnerScript && isEndTagOf "script" rest then ([], c :: rest)
    else
      let (content, rest) := scriptContent (mode.after (c :: rest)) rest
      (c :: content, rest)

/-- The content of an element of a kind, and what follows it. -/
def contentOf (name : String) (text : List Char) : Content → List Token × List Char
  | .text =>
    let (content, rest) := rawContent name text
    ([.raw (decoded false content)], rest)
  | .raw =>
    let (content, rest) := rawContent name text
    ([.raw (content.map contentChar)], rest)
  | .script =>
    let (content, rest) := scriptContent .plain text
    ([.raw (content.map contentChar)], rest)
  | .plain => ([.raw (text.map contentChar)], [])

def scan : (fuel : Nat) → List Char → List Token
  | 0, _ => []
  | _, [] => []
  | fuel + 1, '<' :: rest =>
    match rest with
    | '/' :: c :: more =>
      if c.isAlpha then match tag? true (c :: more) with
        | some (t, rest) => t :: scan fuel rest
        | none => []
      else if c == '>' then scan fuel more
      else
        let (t, rest) := bogusComment (c :: more)
        t :: scan fuel rest
    | '!' :: rest =>
      let (t, rest) := declaration rest
      t :: scan fuel rest
    | '?' :: _ =>
      let (t, rest) := bogusComment rest
      t :: scan fuel rest
    | c :: _ =>
      if c.isAlpha then match tag? false rest with
        | some (.startTag name attributes selfClosing, rest) =>
          let (content, rest) := match contentOf? name with
            | some kind => if selfClosing then ([], rest) else contentOf name rest kind
            | none => ([], rest)
          .startTag name attributes selfClosing :: (content ++ scan fuel rest)
        | some (t, rest) => t :: scan fuel rest
        | none => []
      else .text ['<'] :: scan fuel rest
    | [] => [.text ['<']]
  | fuel + 1, text =>
    .text (decoded false (text.takeWhile (· != '<'))) :: scan fuel (text.dropWhile (· != '<'))

/-- Line ends as line feeds. -/
def unifyLines : List Char → List Char
  | '\r' :: '\n' :: rest => '\n' :: unifyLines rest
  | c :: rest => (if c == '\r' then '\n' else c) :: unifyLines rest
  | [] => []

end Scan

def Token.ofText (page : List Char) : List Token :=
  let page := Scan.unifyLines page
  Scan.scan (page.length + 1) page

end WebScript.Html
