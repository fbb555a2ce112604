import WebScript.Text.Case
import WebScript.Text.Quoted
import WebScript.Url.Host

namespace WebScript.Url

/-- Why an address has no parts. -/
inductive Fault where
  | openBracket
  | badAddress (host : String)
  | dottedInBrackets
  | badLaterAddress
  | hiddenDelimiter (authority : String)
  deriving DecidableEq, Repr

def Fault.message : Fault → String
  | openBracket => "Invalid IPv6 URL"
  | badAddress host => s!"{Text.quoted host} does not appear to be an IPv4 or IPv6 address"
  | dottedInBrackets => "An IPv4 address cannot be in brackets"
  | badLaterAddress => "IPvFuture address is invalid"
  | hiddenDelimiter authority =>
    s!"netloc '{authority}' contains invalid characters under NFKC normalization"

/-- Scheme, authority and path of an address. -/
structure Parts where
  scheme : List Char
  authority : List Char
  path : List Char
  deriving DecidableEq, Repr

def isSchemeChar (c : Char) : Bool :=
  c.isAlphanum || c == '+' || c == '-' || c == '.'

/-- The scheme in small letters and the rest; the scheme is empty where there is none. -/
def splitScheme (url : List Char) : List Char × List Char :=
  match Text.cutAt? [':'] url with
  | some (c :: scheme, rest) =>
    if c.isAlpha && scheme.all isSchemeChar then ((c :: scheme).map Text.lowerAscii, rest)
    else ([], url)
  | _ => ([], url)

def isDelimiter (c : Char) : Bool :=
  c == '/' || c == '?' || c == '#'

/-- Characters whose compatible form holds a delimiter of addresses. -/
def hidesDelimiter (c : Char) : Bool :=
  [0x2047, 0x2048, 0x2049, 0x2100, 0x2101, 0x2105, 0x2106, 0x2A74, 0xFE13, 0xFE16, 0xFE55, 0xFE56,
    0xFE5F, 0xFE6B, 0xFF03, 0xFF0F, 0xFF1A, 0xFF1F, 0xFF20].contains c.toNat

/-- Brackets come in pairs and hold an address. -/
def checkBrackets (authority : List Char) : Except Fault Unit :=
  if authority.contains '[' != authority.contains ']' then .error .openBracket
  else match Text.cutAt? ['['] authority with
    | none => .ok ()
    | some (_, rest) =>
      let host := rest.takeWhile (· != ']')
      if host.head? == some 'v' then
        if isLaterAddress host then .ok () else .error .badLaterAddress
      else if isDotted host then .error .dottedInBrackets
      else if isGroupedAddress host then .ok ()
      else .error (.badAddress (.ofList host))

/-- The parts of an address. Controls and spaces in front do not count, nor do tabs and line breaks
anywhere. -/
def split (url : List Char) : Except Fault Parts := do
  let url := url.dropWhile (·.toNat ≤ 0x20)
  let url := url.filter fun c => c != '\t' && c != '\r' && c != '\n'
  let (scheme, rest) := splitScheme url
  let (authority, rest) := match rest with
    | '/' :: '/' :: rest => (rest.takeWhile (!isDelimiter ·), rest.dropWhile (!isDelimiter ·))
    | rest => ([], rest)
  checkBrackets authority
  if authority.any hidesDelimiter then throw (.hiddenDelimiter (.ofList authority))
  let path := (rest.takeWhile (· != '#')).takeWhile (· != '?')
  return { scheme, authority, path }

def startsWithFolded (start : String) (text : List Char) : Bool :=
  (Text.lower (.ofList text)).startsWith start

/-- Where a form with an action is sent from a page: an absolute web address as it is; otherwise to
the page's own scheme and authority, a rooted action as the path, another in place of the last part
of the page's path. An empty action leads back to the page. -/
def formTarget (page action : String) : Except Fault String :=
  let target := action.toList
  if target.isEmpty then .ok page
  else if startsWithFolded "http://" target || startsWithFolded "https://" target then .ok action
  else do
    let parts ← split page.toList
    let root := parts.scheme ++ [':', '/', '/'] ++ parts.authority
    let path := if parts.path.isEmpty then ['/'] else parts.path
    let base := if target.head? == some '/' then [] else Text.throughLast '/' path
    return .ofList (root ++ base ++ target)

end WebScript.Url
