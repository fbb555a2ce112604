namespace WebScript.XPath

/-- The directions in which a step goes. -/
inductive Axis where
  | ancestor
  | ancestorOrSelf
  | attribute
  | child
  | descendant
  | descendantOrSelf
  | following
  | followingSibling
  | namespace
  | parent
  | preceding
  | precedingSibling
  | self
  deriving DecidableEq, Repr

def Axis.names : List (String × Axis) :=
  [("ancestor", .ancestor), ("ancestor-or-self", .ancestorOrSelf), ("attribute", .attribute),
   ("child", .child), ("descendant", .descendant), ("descendant-or-self", .descendantOrSelf),
   ("following", .following), ("following-sibling", .followingSibling),
   ("namespace", .namespace), ("parent", .parent), ("preceding", .preceding),
   ("preceding-sibling", .precedingSibling), ("self", .self)]

/-- Which nodes of an axis a step takes. -/
inductive NodeTest where
  | all (space : Option String)
  | name (space : Option String) (name : String)
  | node
  | text
  | comment
  | instruction (name : Option String)
  deriving DecidableEq, Repr

inductive Operator where
  | or
  | and
  | equal
  | notEqual
  | less
  | lessOrEqual
  | greater
  | greaterOrEqual
  | plus
  | minus
  | times
  | div
  | mod
  | union
  deriving DecidableEq, Repr

/-- An expression. A step goes from each node of its base along an axis; the predicates thin out
what it meets, counted from each node anew. A filter counts through all nodes of its base. -/
inductive Expr where
  | number (x : Float)
  | literal (s : String)
  | variable (name : String)
  | call (space : Option String) (name : String) (arguments : List Expr)
  | binary (op : Operator) (a b : Expr)
  | signed (negative : Bool) (e : Expr)
  | root
  | context
  | step (base : Expr) (axis : Axis) (test : NodeTest) (predicates : List Expr)
  | filter (base : Expr) (predicate : Expr)

instance : Inhabited Expr := ⟨.context⟩

end WebScript.XPath
