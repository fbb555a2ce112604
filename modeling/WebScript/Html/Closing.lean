namespace WebScript.Html

def headings : List String := ["h1", "h2", "h3", "h4", "h5", "h6"]

/-- What may not stand in the head, and so ends it. -/
def bodyOnly : List String :=
  ["a", "abbr", "acronym", "address", "b", "bdo", "big", "blockquote", "body", "br", "center",
   "cite", "code", "dd", "dfn", "dir", "div", "dl", "dt", "em", "fieldset", "font", "form",
   "frameset", "h1", "h2", "h3", "h4", "h5", "h6", "hr", "i", "iframe", "img", "kbd", "li",
   "listing", "map", "menu", "ol", "p", "pre", "q", "s", "samp", "small", "span", "strike",
   "strong", "sub", "sup", "table", "tt", "u", "ul", "var", "xmp"]

def afterParagraph : List String :=
  ["address", "blockquote", "body", "caption", "center", "col", "colgroup", "dd", "dir", "div",
   "dl", "dt", "frameset", "h1", "h2", "h3", "h4", "h5", "h6", "head", "hr", "li", "listing",
   "menu", "multicol", "ol", "p", "pre", "table", "tbody", "td", "tfoot", "th", "title", "tr", "ul",
   "xmp"]

def afterPreformatted : List String :=
  ["dd", "dl", "dt", "fieldset", "form", "li", "table", "ul"]

/-- The start tags that end an open element. -/
def endedBy : List (String × List String) :=
  [("a", ["a", "fieldset", "table", "td", "th"]),
   ("address", ["dd", "dl", "dt", "form", "li", "ul"]),
   ("b", ["center", "p", "td", "th"]),
   ("big", ["p"]),
   ("caption", ["col", "colgroup", "tbody", "tfoot", "thead", "tr"]),
   ("col", ["col", "colgroup", "tbody", "tfoot", "thead", "tr"]),
   ("colgroup", ["colgroup", "tbody", "tfoot", "thead", "tr"]),
   ("dd", ["dt"]),
   ("dir", ["dd", "dl", "dt", "form", "ul"]),
   ("dl", ["form", "li"]),
   ("dt", ["dd", "dl"]),
   ("font", ["center", "td", "th"]),
   ("form", ["form"]),
   ("head", bodyOnly),
   ("hr", ["form"]),
   ("i", ["center"]),
   ("legend", ["fieldset"]),
   ("li", ["li"]),
   ("link", ["body", "frameset"]),
   ("listing", afterPreformatted),
   ("menu", ["dd", "dl", "dt", "form", "ul"]),
   ("ol", ["form"]),
   ("option", ["optgroup", "option"]),
   ("p", afterParagraph),
   ("pre", afterPreformatted),
   ("s", ["p"]),
   ("script", ["noscript"]),
   ("small", ["p"]),
   ("span", ["td", "th"]),
   ("strike", ["p"]),
   ("style", ["body", "frameset"]),
   ("tbody", ["tbody", "tfoot"]),
   ("td", ["tbody", "td", "tfoot", "th", "tr"]),
   ("tfoot", ["tbody"]),
   ("th", ["tbody", "td", "tfoot", "th", "tr"]),
   ("thead", ["tbody", "tfoot"]),
   ("title", ["body", "frameset"]),
   ("tr", ["tbody", "tfoot", "tr"]),
   ("tt", ["p"]),
   ("u", ["p", "td", "th"]),
   ("ul", ["address", "form", "menu", "pre"]),
   ("xmp", afterPreformatted)]

def isEndedBy (tag element : String) : Bool :=
  if headings.contains element then ["fieldset", "form", "li", "p", "table"].contains tag
  else ((endedBy.lookup element).getD []).contains tag

/-- The rank of an element: an end tag ends no element of a higher rank than its own. -/
def endRank (name : String) : Nat :=
  let ranks : List (String × Nat) :=
    [("div", 150), ("td", 160), ("th", 160), ("tr", 170), ("thead", 180), ("tbody", 180),
     ("tfoot", 180), ("table", 190), ("head", 200), ("body", 200), ("html", 220)]
  (ranks.lookup name).getD 100

def voidElements : List String :=
  ["area", "base", "basefont", "br", "col", "frame", "hr", "img", "input", "isindex", "link",
   "meta", "param"]

def booleanAttributes : List String :=
  ["checked", "compact", "declare", "defer", "disabled", "ismap", "multiple", "nohref", "noresize",
   "noshade", "nowrap", "readonly", "selected"]

end WebScript.Html
