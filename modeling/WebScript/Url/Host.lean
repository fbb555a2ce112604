import WebScript.Number.Whole
import WebScript.Text.Find

namespace WebScript.Url

def isHex (c : Char) : Bool :=
  c.isDigit || ('a' ≤ c && c ≤ 'f') || ('A' ≤ c && c ≤ 'F')

/-- A part of a dotted address: up to three digits without a leading zero, at most 255. -/
def isOctet (cs : List Char) : Bool :=
  !cs.isEmpty && cs.length ≤ 3 && cs.all Char.isDigit && (cs == ['0'] || cs.head? != some '0') &&
    Number.ofDigits 10 (cs.map fun c => c.toNat - 48) ≤ 255

def isDotted (cs : List Char) : Bool :=
  let parts := Text.pieces '.' cs
  parts.length == 4 && parts.all isOctet

def isGroup (cs : List Char) : Bool :=
  !cs.isEmpty && cs.length ≤ 4 && cs.all isHex

/-- Groups between colons with one gap of at least one group, the gap being two colons. -/
def hasGroups (parts : List (List Char)) : Bool :=
  let inner := (parts.drop 1).dropLast
  match (inner.filter List.isEmpty).length with
  | 0 => parts.length == 8 && parts.all isGroup
  | 1 =>
    let high := 1 + (inner.takeWhile (!List.isEmpty ·)).length
    let front := parts.take high
    let back := parts.drop (high + 1)
    let front := if front == [[]] then [] else front
    let back := if back == [[]] then [] else back
    front.all isGroup && back.all isGroup && front.length + back.length < 8
  | _ => false

/-- An address of eight groups of hexadecimal digits, the last two of which may be dotted; a zone
may follow after a percent sign. -/
def isGroupedAddress (cs : List Char) : Bool :=
  let address := cs.takeWhile (· != '%')
  let zoneOk := match cs.dropWhile (· != '%') with
    | [] => true
    | _ :: zone => !zone.isEmpty && !zone.contains '%'
  let parts := Text.pieces ':' address
  let last := parts.getLast?.getD []
  let dotted := last.contains '.'
  let parts' := if dotted then parts.dropLast ++ [['0'], ['0']] else parts
  zoneOk && !address.isEmpty && parts.length ≥ 3 && parts'.length ≤ 9 &&
    (!dotted || isDotted last) && hasGroups parts'

/-- An address of a later version: `v`, hexadecimal digits, a point and something. -/
def isLaterAddress (cs : List Char) : Bool :=
  match cs with
  | 'v' :: rest =>
    match rest.dropWhile isHex with
    | '.' :: more => !(rest.takeWhile isHex).isEmpty && !more.isEmpty
    | _ => false
  | _ => false

end WebScript.Url
