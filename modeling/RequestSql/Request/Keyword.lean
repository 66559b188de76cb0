import RequestSql.Text.Upper

/-!
# Keywords of a request

The kind of a join and the direction of an ordering. A keyword that is not known goes through in
upper case.
-/

namespace RequestSql

/-- The kind of a join. -/
inductive JoinKind where
  | left | inner | right | full | cross
  | custom (word : String)
  deriving DecidableEq, Repr

namespace JoinKind

def text : JoinKind → String
  | .left => "LEFT"
  | .inner => "INNER"
  | .right => "RIGHT"
  | .full => "FULL"
  | .cross => "CROSS"
  | .custom word => word

def known : List JoinKind := [.left, .inner, .right, .full, .cross]

/-- The kind of a keyword in upper case. -/
def ofWord (word : String) : JoinKind :=
  (known.find? (·.text == word)).getD (.custom word)

/-- Reads a keyword in any letter case; a missing or empty one is a left join. -/
def read : Option String → JoinKind
  | none | some "" => .left
  | some raw => ofWord (Text.upper raw)

end JoinKind

/-- The direction of an ordering. -/
inductive Direction where
  | asc | desc
  | custom (word : String)
  deriving DecidableEq, Repr

namespace Direction

def text : Direction → String
  | .asc => "ASC"
  | .desc => "DESC"
  | .custom word => word

def known : List Direction := [.asc, .desc]

/-- The direction of a keyword in upper case. -/
def ofWord (word : String) : Direction :=
  (known.find? (·.text == word)).getD (.custom word)

/-- Reads a keyword in any letter case; a missing or empty one is ascending. -/
def read : Option String → Direction
  | none | some "" => .asc
  | some raw => ofWord (Text.upper raw)

end Direction

end RequestSql
