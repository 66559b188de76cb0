import RequestSql.Text.Blank

/-!
# Lexemes of statements

A statement is cut into blanks, comments, words, numbers, quoted texts and signs. `Lexeme.next` cuts
the first one off, and `Lexeme.take` cuts off as many as are wanted. What follows a lexeme tells names from
keywords: a word before a bracket or a point is a name.
-/

namespace RequestSql.Layout

/-- What stands beside one another in a group. -/
inductive Kind where
  | number
  | literal
  /-- A name on its own. -/
  | name
  /-- A name in double quotes, which is never called. -/
  | quotedName
  /-- A name with its parts and the name that is given to it. -/
  | identifier
  | parens
  | brackets
  | call
  | choice
  | operation
  | comparison
  | filter
  | dot
  | cast
  | operator
  | comparator
  /-- The word that gives a name. -/
  | naming
  | direction
  | null
  /-- The word that a statement starts with. -/
  | verb
  | keyword
  | separator
  deriving DecidableEq, Repr

/-- Groups with an opening and a closing lexeme. A filter is closed by the word of the next clause,
which is no part of it. -/
inductive Enclosure where
  | parens
  | brackets
  | choice
  | filter
  deriving DecidableEq, Repr

/-- The pieces of a statement. -/
inductive Lexeme where
  | blank
  | comment
  | item (kind : Kind)
  | opening (e : Enclosure)
  | closing (e : Enclosure)
  deriving DecidableEq, Repr

/-- The text after the quote that closes. A doubled quote does not close, nor does one behind a
backslash where backslashes are escapes; if no other quote closes, the last of these does. -/
def afterQuote? (quote : Char) (escapes : Bool) (fallback : Option (List Char)) :
    List Char → Option (List Char)
  | [] => fallback
  | [c] => if c = quote then some [] else fallback
  | c :: d :: cs =>
    if c = quote then
      if d = quote then afterQuote? quote escapes (some (d :: cs)) cs else some (d :: cs)
    else if escapes && c == '\\' && d == quote then afterQuote? quote escapes (some cs) cs
    else afterQuote? quote escapes fallback (d :: cs)

/-- The text after a comment that was opened. -/
def afterComment? : List Char → Option (List Char)
  | '*' :: '/' :: cs => some cs
  | _ :: cs => afterComment? cs
  | [] => none

def afterLine (cs : List Char) : List Char :=
  match cs.dropWhile fun c => c != '\n' && c != '\r' with
  | '\r' :: '\n' :: rest => rest
  | _ :: rest => rest
  | [] => []

def isWordChar (c : Char) : Bool := c.isAlphanum || c == '_' || 0xC0 ≤ c.toNat

def isOperatorChar (c : Char) : Bool := "+-/@#%^&|".toList.contains c

def isComparatorChar (c : Char) : Bool := "<>=~!".toList.contains c

def startsWith (p : Char → Bool) (cs : List Char) : Bool := cs.head?.any p

/-- The text after the power of ten of a number, if it has one. -/
def afterExponent (cs : List Char) : List Char :=
  let digits := match cs.drop 1 with
    | '-' :: ds => ds
    | ds => ds
  if startsWith (fun c => c == 'e' || c == 'E') cs && startsWith Char.isDigit digits then
    digits.dropWhile Char.isDigit
  else cs

/-- The text after a number, unless a letter follows. -/
def afterNumber? (cs : List Char) : Option (List Char) :=
  let rest := afterExponent <| match cs.dropWhile Char.isDigit with
    | '.' :: more => more.dropWhile Char.isDigit
    | rest => rest
  if startsWith isWordChar rest then none else some rest

def startsNumber : List Char → Bool
  | '.' :: c :: _ => c.isDigit
  | c :: _ => c.isDigit
  | [] => false

/-- Words that are keywords whatever follows them. -/
def firmKeywords : List String := ["AS", "CASE", "FROM", "IN", "USING", "VALUES"]

def keywords : List String :=
  ["ALL", "AND", "ANY", "BETWEEN", "BY", "COLLATE", "CROSS", "DISTINCT", "ELSE", "ESCAPE", "EXISTS",
    "FALSE", "FIRST", "FULL", "INNER", "IS", "JOIN", "LAST", "LEFT", "NATURAL", "NULLS", "OFFSET",
    "ON", "OR", "OUTER", "OVER", "PARTITION", "RIGHT", "ROWS", "SET", "SOME", "THEN", "TRUE",
    "WHEN"]

/-- The words that may follow a word and count as one with it. -/
def continuations : String → List (List String)
  | "ORDER" | "GROUP" => [["BY"]]
  | "NOT" => [["NULL"], ["LIKE"], ["ILIKE"], ["RLIKE"], ["REGEXP"]]
  | "UNION" => [["ALL"]]
  | "ASC" | "DESC" => [["NULLS", "FIRST"], ["NULLS", "LAST"]]
  | "LEFT" | "RIGHT" | "FULL" => [["JOIN"], ["INNER", "JOIN"], ["OUTER", "JOIN"]]
  | "INNER" | "OUTER" | "CROSS" | "NATURAL" => [["JOIN"]]
  | _ => []

def afterWords? : List String → List Char → Option (List Char)
  | [], cs => some cs
  | w :: ws, cs =>
    let word := (cs.dropWhile Text.isSpacing).takeWhile isWordChar
    if startsWith Text.isSpacing cs && String.ofList (word.map Char.toUpper) = w then
      afterWords? ws ((cs.dropWhile Text.isSpacing).dropWhile isWordChar)
    else none

/-- The lexeme of a word with the words that count as one with it. -/
def wordLexeme (word : String) (more : List String) : Lexeme :=
  match word with
  | "AS" => .item .naming
  | "CASE" => .opening .choice
  | "END" => .closing .choice
  | "WHERE" => .opening .filter
  | "LIMIT" | "UNION" | "EXCEPT" | "HAVING" | "RETURNING" | "INTO" => .closing .filter
  | "ORDER" | "GROUP" => if more = [] then .item .keyword else .closing .filter
  | "NOT" => if more = [] || more = ["NULL"] then .item .keyword else .item .comparator
  | "LIKE" | "ILIKE" | "RLIKE" | "REGEXP" => .item .comparator
  | "ASC" | "DESC" => .item .direction
  | "NULL" => .item .null
  | "SELECT" | "INSERT" | "UPDATE" | "DELETE" => .item .verb
  | word => if word ∈ firmKeywords || word ∈ keywords then .item .keyword else .item .name

namespace Lexeme

/-- A lexeme that was cut off, its last character, and the text after it. -/
structure Cut where
  lexeme : Lexeme
  last : Char
  rest : List Char

def nextWord (before : Char) (cs : List Char) : Cut :=
  let chars := cs.takeWhile isWordChar
  let rest := cs.dropWhile isWordChar
  let last := chars.getLastD before
  let word := String.ofList (chars.map Char.toUpper)
  let isNamed := before == '.' || startsWith (· == '(') rest ||
    startsWith (· == '.') (rest.dropWhile Text.isSpacing)
  if isNamed && word ∉ firmKeywords then ⟨.item .name, last, rest⟩
  else
    let further := (continuations word).findSome? fun more =>
      (afterWords? more rest).map fun rest => (more, rest)
    match further with
    | some (more, rest) => ⟨wordLexeme word more, last, rest⟩
    | none => ⟨wordLexeme word [], last, rest.dropWhile fun c => c == '$' || c == '#'⟩

/-- Cuts off a sign, or several that count as one. -/
def nextSign (c : Char) (cs : List Char) : Cut :=
  match c, cs with
  | ':', '=' :: rest => ⟨.item .separator, '=', rest⟩
  | ':', ':' :: rest => ⟨.item .cast, ':', rest⟩
  | '-', '>' :: '>' :: rest | '-', '>' :: rest => ⟨.item .dot, '>', rest⟩
  | '#', '>' :: '>' :: rest | '#', '>' :: rest | '@', '>' :: rest => ⟨.item .operator, '>', rest⟩
  | '<', '@' :: rest => ⟨.item .operator, '@', rest⟩
  | '.', rest => ⟨.item .dot, c, rest⟩
  | '-', rest | '*', rest => ⟨.item .operator, c, rest⟩
  | '?', rest => ⟨.item .name, c, rest⟩
  | c, rest =>
    if isComparatorChar c then ⟨.item .comparator, c, rest.dropWhile isComparatorChar⟩
    else if isOperatorChar c then ⟨.item .operator, c, rest.dropWhile isOperatorChar⟩
    else ⟨.item .separator, c, rest⟩

def next (before c : Char) (cs : List Char) : Cut :=
  let quotedAs (kind : Kind) (escapes : Bool) : Cut :=
    match afterQuote? c escapes none cs with
    | some rest => ⟨.item kind, c, rest⟩
    | none => ⟨.item .separator, c, cs⟩
  let number? := match c :: cs with
    | '-' :: rest => if startsNumber rest then afterNumber? rest else none
    | rest => if startsNumber rest then afterNumber? rest else none
  if c == '\r' && startsWith (· == '\n') cs then ⟨.blank, '\n', cs.drop 1⟩
  else if Text.isSpacing c then ⟨.blank, c, cs⟩
  else if c == '\'' then quotedAs .literal true
  else if c == '"' then quotedAs .quotedName true
  else if c == '`' then quotedAs .name false
  else if c == '(' then ⟨.opening .parens, c, cs⟩
  else if c == ')' then ⟨.closing .parens, c, cs⟩
  else if c == ']' then ⟨.closing .brackets, c, cs⟩
  else if c == '[' then
    let isIndex := isWordChar before || before == ']' || before == ')'
    match cs.dropWhile fun c => c != '[' && c != ']' with
    | ']' :: rest =>
      if isIndex || startsWith (· == ']') cs then ⟨.opening .brackets, c, cs⟩
      else ⟨.item .name, ']', rest⟩
    | _ => ⟨.opening .brackets, c, cs⟩
  else if (c == '-' && startsWith (· == '-') cs) || (c == '#' && startsWith (· == ' ') cs) then
    ⟨.comment, '\n', afterLine cs⟩
  else if c == '/' && startsWith (· == '*') cs then
    match afterComment? (cs.drop 1) with
    | some rest => ⟨.comment, c, rest⟩
    | none => ⟨.item .operator, c, cs⟩
  else match number? with
    | some rest => ⟨.item .number, '0', rest⟩
    | none => if isWordChar c then nextWord before (c :: cs) else nextSign c cs

/-- The first lexemes of a text, as many as the bound allows. -/
def take (bound : Nat) (before : Char) (cs : List Char) : List Lexeme :=
  match bound, cs with
  | 0, _ | _, [] => []
  | bound + 1, c :: cs =>
    let cut := next before c cs
    cut.lexeme :: take bound cut.last cut.rest

end Lexeme

example : Lexeme.take 9 ' ' "t.order-1 NOT  LIKE [a]".toList =
    [.item .name, .item .dot, .item .name, .item .number, .blank, .item .comparator, .blank,
      .item .name] := by
  decide +kernel

end RequestSql.Layout
