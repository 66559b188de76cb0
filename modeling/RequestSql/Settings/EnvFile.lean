import RequestSql.Fields
import RequestSql.Text.Blank

/-!
# Files of variables

A file of lines `NAME=value`. A value may stand in single or double quotes, and then span lines; a
comment starts at a number sign after a blank; `${NAME}` and `${NAME:-fallback}` refer to variables
set before, in the file or outside. A line that cannot be read is skipped.
-/

namespace RequestSql.EnvFile

/-- The text with every end of a line as a line feed: a carriage return ends a line, and a line feed
after it belongs to the same end. -/
def unifyLineEnds : List Char → List Char
  | [] => []
  | '\r' :: '\n' :: cs => '\n' :: unifyLineEnds cs
  | '\r' :: cs => '\n' :: unifyLineEnds cs
  | c :: cs => c :: unifyLineEnds cs

/-- A blank that does not end a line. -/
def isInline (c : Char) : Bool := Text.isSpacing c && c != '\n'

/-- A character that does not end a line. -/
def isInLine (c : Char) : Bool := c != '\n'

def dropLine (cs : List Char) : List Char := (cs.dropWhile isInLine).drop 1

def dropComment (cs : List Char) : List Char :=
  match cs.dropWhile isInline with
  | '#' :: rest => rest.dropWhile isInLine
  | _ => cs

/-- What a step read and the text after it, or the place where it stopped. -/
abbrev Step (α : Type) := Except (List Char) (α × List Char)

def lineEnd (cs : List Char) : Step Unit :=
  match cs.dropWhile isInline with
  | [] => .ok ((), [])
  | '\n' :: rest => .ok ((), rest)
  | _ => .error cs

/-- Drops the word `export` with the blanks after it. -/
def dropExport (cs : List Char) : List Char :=
  match cs with
  | 'e' :: 'x' :: 'p' :: 'o' :: 'r' :: 't' :: c :: rest =>
    if isInline c then rest.dropWhile isInline else cs
  | _ => cs

/-- The name of a variable, plain or in single quotes. A comment has none. -/
def name (cs : List Char) : Step (Option (List Char)) :=
  match cs with
  | '#' :: _ => .ok (none, cs)
  | '\'' :: rest =>
    match rest.span (· != '\'') with
    | (c :: key, _ :: after) => .ok (some (c :: key), after)
    | _ => .error cs
  | _ =>
    match cs.span fun c => c != '=' && c != '#' && !Text.isSpacing c with
    | ([], _) => .error cs
    | (key, after) => .ok (some key, after)

/-- The text up to the closing quote, and the text after it. A backslash takes the character after it
along, so no quote behind one closes. -/
def untilQuote (quote : Char) : List Char → Option (List Char × List Char)
  | [] => none
  | '\\' :: c :: rest =>
    (untilQuote quote rest).map fun (body, after) => ('\\' :: c :: body, after)
  | c :: rest =>
    if c = quote then some ([], rest)
    else (untilQuote quote rest).map fun (body, after) => (c :: body, after)

/-- The characters that escapes in double quotes stand for. -/
def doubleEscapes : List (Char × Char) :=
  [('\\', '\\'), ('\'', '\''), ('"', '"'), ('a', '\x07'), ('b', '\x08'), ('f', '\x0c'),
    ('n', '\n'), ('r', '\r'), ('t', '\t'), ('v', '\x0b')]

/-- The characters that escapes in single quotes stand for. -/
def singleEscapes : List (Char × Char) := [('\\', '\\'), ('\'', '\'')]

/-- Resolves the escapes of a table and leaves other backslashes alone. -/
def unescape (table : List (Char × Char)) : List Char → List Char
  | [] => []
  | '\\' :: c :: rest =>
    match table.lookup c with
    | some e => e :: unescape table rest
    | none => '\\' :: unescape table (c :: rest)
  | c :: rest => c :: unescape table rest

/-- Ends a plain value before the blanks that lead to a number sign. -/
def cutComment : List Char → List Char
  | [] => []
  | c :: cs =>
    if Text.isSpacing c && ((c :: cs).dropWhile Text.isSpacing).head? == some '#' then []
    else c :: cutComment cs

/-- A value, after blanks in quotes or else plain. -/
def value (cs : List Char) : Step (List Char) :=
  let inner := cs.dropWhile isInline
  let inQuotes (quote : Char) (table : List (Char × Char)) (rest : List Char) : Step (List Char) :=
    match untilQuote quote rest with
    | some (body, after) => .ok (unescape table body, after)
    | none => .error inner
  match inner with
  | '\'' :: rest => inQuotes '\'' singleEscapes rest
  | '"' :: rest => inQuotes '"' doubleEscapes rest
  | _ =>
    let (line, after) := cs.span isInLine
    .ok (Text.trim Text.isSpacing (cutComment line), after)

/-- One line: a name with its value, a name alone, or a comment. -/
def line (cs : List Char) :
    Except (List Char) (Option (List Char × Option (List Char)) × List Char) := do
  let (key, cs) ← name (dropExport cs)
  let (v, cs) ← match cs.dropWhile isInline with
    | '=' :: rest => (value rest).map fun (v, after) => (some v, after)
    | cs => .ok (none, cs)
  let (_, cs) ← lineEnd (dropComment cs)
  return (key.map fun k => (k, v), cs)

/-- The lines of a file; the first argument bounds their number. -/
def lines : Nat → List Char → List (List Char × Option (List Char))
  | 0, _ => []
  | bound + 1, cs =>
    match cs.dropWhile Text.isSpacing with
    | [] => []
    | cs => match line cs with
      | .ok (entry, rest) => entry.toList ++ lines bound rest
      | .error rest => lines bound (dropLine rest)

/-- A reference after its opening brace: the name, the fallback, and the text after the closing
brace. -/
def reference? (cs : List Char) : Option (List Char × List Char × List Char) :=
  match cs.span fun c => c != '\x7d' && c != ':' with
  | (key, '\x7d' :: rest) => some (key, [], rest)
  | (key, ':' :: '-' :: rest) =>
    match rest.span (· != '\x7d') with
    | (fallback, _ :: after) => some (key, fallback, after)
    | _ => none
  | _ => none

/-- Resolves references; the first argument bounds the steps. A variable without a value is empty. -/
def expand (lookup : String → Option (Option String)) : Nat → List Char → List Char
  | 0, cs => cs
  | _, [] => []
  | bound + 1, c :: cs =>
    let plain := c :: expand lookup bound cs
    match c, cs with
    | '$', '\x7b' :: rest => match reference? rest with
      | some (key, fallback, after) =>
        let text := match lookup (String.ofList key) with
          | none => fallback
          | some none => []
          | some (some v) => v.toList
        text ++ expand lookup bound after
      | none => plain
    | _, _ => plain

/-- The text of a file without the mark of its encoding. -/
def withoutMark : List Char → List Char
  | '\ufeff' :: cs => cs
  | cs => cs

/-- The variables that a file sets, given the ones set outside. The file comes first when names are
looked up. -/
def read (outside : Fields String) (file : String) : Fields (Option String) :=
  let cs := unifyLineEnds (withoutMark file.toList)
  (lines (cs.length + 1) cs).foldl (fun known (key, v) =>
    let lookup (n : String) := (known.get? n).or ((outside.get? n).map some)
    known.insert (String.ofList key)
      (v.map fun cs => String.ofList (expand lookup (cs.length + 1) cs))) .empty

end RequestSql.EnvFile
