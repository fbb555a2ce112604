namespace WebScript.Text

/-- White space separates words or lines, or is one of the four information separators. -/
def isBlank (c : Char) : Bool :=
  let n := c.toNat
  (0x09 ≤ n && n ≤ 0x0D) || (0x1C ≤ n && n ≤ 0x20) || n == 0x85 || n == 0xA0 || n == 0x1680 ||
    (0x2000 ≤ n && n ≤ 0x200A) || n == 0x2028 || n == 0x2029 || n == 0x202F || n == 0x205F ||
    n == 0x3000

/-- The text without what `drop` accepts at either end. -/
def trimWhere (drop : Char → Bool) (cs : List Char) : List Char :=
  ((cs.dropWhile drop).reverse.dropWhile drop).reverse

/-- The text without the white space at either end. -/
def trim (s : String) : String :=
  .ofList (trimWhere isBlank s.toList)

/-- A text of white space only, or the empty text. -/
def isAllBlank (s : String) : Bool :=
  s.toList.all isBlank

end WebScript.Text
