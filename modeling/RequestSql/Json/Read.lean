import RequestSql.Json.Lexeme

/-!
# Reading JSON

`Json.read` reads a whole text as one value. A repeated name keeps its first place and its last
value. Integers are exact, other numbers are the nearest doubles.
-/

namespace RequestSql.Json

/-- How deep lists and maps may be nested. This is a limit of the stack: bodies are read by
recursion with 1000 calls in all, of which the server around the reader takes about 60. The exact
number depends on that server. -/
def maxNesting : Nat := 940

/-- Reads a separator or the end of a list or map, and says whether it was the end. -/
def separator (close : Char) (cs : List Char) : Step Bool :=
  match skip cs with
  | c :: rest =>
    if c = close then .ok (true, rest)
    else if c = ',' then .ok (false, skip rest)
    else .error (.malformed .expectedComma (c :: rest))
  | [] => .error (.malformed .expectedComma [])

/-- Reads the name of an entry with the colon after it. -/
def entryName (block : Text.HalfBlock) (cs : List Char) : Step String :=
  match cs with
  | '"' :: rest =>
    match string block cs [] rest with
    | .error e => .error e
    | .ok (name, rest) =>
      match skip rest with
      | ':' :: rest => .ok (name, skip rest)
      | rest => .error (.malformed .expectedColon rest)
  | _ => .error (.malformed .expectedName cs)

mutual

/-- Reads a value. The first number bounds the steps and the second the nesting. -/
def value (block : Text.HalfBlock) : Nat → Nat → List Char → Step Value
  | 0, _, _ => .error .tooDeep
  | bound + 1, depth, cs =>
    match cs with
    | '"' :: rest => (string block cs [] rest).map fun (s, rest) => (.text s, rest)
    | '[' :: rest =>
      match depth, skip rest with
      | 0, _ => .error .tooDeep
      | _, ']' :: rest => .ok (.list [], rest)
      | depth + 1, rest => items block bound depth [] rest
    | '\x7b' :: rest =>
      match depth, skip rest with
      | 0, _ => .error .tooDeep
      | _, '\x7d' :: rest => .ok (.map [], rest)
      | depth + 1, rest => entries block bound depth [] rest
    | cs => atom cs

/-- Reads the items of a list from one on, given the ones before it, backwards. -/
def items (block : Text.HalfBlock) : Nat → Nat → List Value → List Char → Step Value
  | 0, _, _, _ => .error .tooDeep
  | bound + 1, depth, found, cs =>
    match value block bound depth cs with
    | .error e => .error e
    | .ok (v, rest) =>
      match separator ']' rest with
      | .error e => .error e
      | .ok (true, rest) => .ok (.list (v :: found).reverse, rest)
      | .ok (false, rest) => items block bound depth (v :: found) rest

/-- Reads the entries of a map from one on, given the ones before it. -/
def entries (block : Text.HalfBlock) :
    Nat → Nat → List (Value × Value) → List Char → Step Value
  | 0, _, _, _ => .error .tooDeep
  | bound + 1, depth, found, cs =>
    match entryName block cs with
    | .error e => .error e
    | .ok (name, rest) =>
      match value block bound depth rest with
      | .error e => .error e
      | .ok (v, rest) =>
        let found := Value.putEntry (.text name) v found
        match separator '\x7d' rest with
        | .error e => .error e
        | .ok (true, rest) => .ok (.map found, rest)
        | .ok (false, rest) => entries block bound depth found rest

end

/-- Reads a text as one value. The block stands in for halves of pairs. Every two steps pass over a
character at least, so the bound on the steps is never met. -/
def read (block : Text.HalfBlock) (cs : List Char) : Except Failure Value :=
  match value block (2 * cs.length + 2) maxNesting (skip cs) with
  | .error e => .error e
  | .ok (v, rest) =>
    match skip rest with
    | [] => .ok v
    | rest => .error (.malformed .extraData rest)

/-- The place of a fault, counted in characters. -/
def position (cs rest : List Char) : Nat := cs.length - rest.length

end RequestSql.Json
