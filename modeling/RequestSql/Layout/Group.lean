import RequestSql.Layout.Lexeme

/-!
# Groups of lexemes

Lexemes are put in groups: brackets, choices and filters by what opens and closes them, and then,
inside each of these, the neighbours that belong together. A `Rule` says which neighbours do. Only
the height of a group is kept, which counts the groups inside one another, itself among them.
-/

namespace RequestSql.Layout

/-- A lexeme, whose height is nothing, or a group. -/
structure Item where
  kind : Kind
  height : Nat := 0
  deriving DecidableEq, Repr

/-- Which neighbours make a group. -/
structure Rule where
  /-- What comes first. -/
  first : Kind → Bool
  /-- What stands between the two, if anything does. -/
  link : Option (Kind → Bool) := none
  /-- What comes second. -/
  second : Kind → Bool
  /-- What the group is. -/
  result : Kind
  /-- A first one that is such a group itself takes the others in. -/
  grows : Bool := true

namespace Rule

def group (r : Rule) (a b : Item) : Item where
  kind := r.result
  height :=
    if r.grows && a.kind = r.result then max a.height (b.height + 1) else max a.height b.height + 1

/-- Items in groups, from the left. The first argument is the item before and the second one the
kind that it ends with. -/
def groupFrom (r : Rule) (a : Item) (last : Kind) : List Item → List Item
  | [] => [a]
  | [b] =>
    if r.link.isNone && r.first last && r.second b.kind then [r.group a b] else [a, b]
  | b :: c :: rest =>
    match r.link with
    | none =>
      if r.first last && r.second b.kind then groupFrom r (r.group a b) r.result (c :: rest)
      else a :: groupFrom r b b.kind (c :: rest)
    | some link =>
      if r.first last && link b.kind && r.second c.kind then groupFrom r (r.group a c) c.kind rest
      else a :: groupFrom r b b.kind (c :: rest)

def apply (r : Rule) : List Item → List Item
  | [] => []
  | a :: rest => groupFrom r a a.kind rest

end Rule

/-- A name and the parentheses after it. -/
def calls : Rule where
  first := (· = .name)
  second := (· = .parens)
  result := .call

/-- A name and its parts. -/
def parts : Rule where
  first := (· ∈ [.name, .quotedName, .identifier, .brackets, .call])
  link := some (· = .dot)
  second := (· ∈ [.name, .quotedName, .brackets, .call, .operator, .literal])
  result := .identifier

/-- A name and its indices. -/
def indices : Rule where
  first := (· ∈ [.name, .quotedName, .identifier, .brackets, .call])
  second := (· = .brackets)
  result := .identifier

/-- A name and the direction of an ordering. -/
def directions : Rule where
  first := (· ∈ [.identifier, .number])
  second := (· = .direction)
  result := .identifier
  grows := false

/-- A value and the type that it is taken as. -/
def casts : Rule where
  first := fun _ => true
  link := some (· = .cast)
  second := fun _ => true
  result := .identifier

/-- The kinds that operators join. -/
def operands : List Kind :=
  [.number, .literal, .identifier, .parens, .brackets, .call, .operation]

/-- The two sides of an operator. -/
def operations : Rule where
  first := (· ∈ operands)
  link := some (· = .operator)
  second := (· ∈ operands)
  result := .operation
  grows := false

/-- The kinds that are compared. -/
def compared : List Kind := [.number, .literal, .identifier, .parens, .call, .operation, .null]

/-- The two sides of a comparison. -/
def comparisons : Rule where
  first := (· ∈ compared)
  link := some (· = .comparator)
  second := (· ∈ compared)
  result := .comparison
  grows := false

/-- A value and the name that a word gives to it. -/
def namings : Rule where
  first := (· ∉ [.keyword, .verb, .direction, .naming])
  link := some (· = .naming)
  second := (· ≠ .verb)
  result := .identifier

/-- A value and the name that follows it. -/
def shortNames : Rule where
  first := (· ∈ [.number, .identifier, .parens, .call, .choice, .operation, .comparison])
  second := (· = .identifier)
  result := .identifier

/-- A name is a group of its own. -/
def Item.named (i : Item) : Item :=
  if i.kind = .name || i.kind = .quotedName then ⟨.identifier, 1⟩ else i

/-- The height of the highest of some items, once neighbours are put in groups. Indices belong to
names only outside of all other groups. -/
def height (outermost : Bool) (items : List Item) : Nat :=
  let named := parts.apply (calls.apply items)
  let indexed := if outermost then indices.apply named else named
  let grouped := [directions, casts, operations, comparisons, namings, shortNames].foldl
    (fun items r => r.apply items) (indexed.map Item.named)
  (grouped.map Item.height).foldl max 0

def Enclosure.kind : Enclosure → Kind
  | .parens => .parens
  | .brackets => .brackets
  | .choice => .choice
  | .filter => .filter

/-- The items of the innermost open group, the last one first, and those of the others with what
opened the group inside. -/
structure Open where
  items : List Item := []
  outer : List (Enclosure × List Item) := []

namespace Open

def put (o : Open) (i : Item) : Open := { o with items := i :: o.items }

/-- The group of the items that come last. -/
def groupOf (e : Enclosure) (items : List Item) : Item where
  kind := e.kind
  height := height false items.reverse + 1

/-- Closes a group, and the filters in it. A choice in it that is still open is none. -/
def close? (e : Enclosure) (items : List Item) : List (Enclosure × List Item) → Option Open
  | [] => none
  | (opened, before) :: outer =>
    if opened = e then some ⟨groupOf e items :: before, outer⟩
    else match opened with
      | .filter => close? e (groupOf .filter items :: before) outer
      | .choice => close? e (items ++ ⟨.keyword, 0⟩ :: before) outer
      | .parens | .brackets => none

/-- Closes a group, if it was opened. -/
def closed (o : Open) (e : Enclosure) : Option Open := close? e o.items o.outer

def last? (o : Open) : Option Enclosure := o.outer.head?.map Prod.fst

/-- Takes one lexeme. What closes nothing is an item like others. -/
def step (o : Open) : Lexeme → Open
  | .blank => o
  | .comment => o.put ⟨.separator, 1⟩
  | .item kind => o.put ⟨kind, 0⟩
  | .opening .filter =>
    if o.last? = some .filter then o.put ⟨.keyword, 0⟩ else ⟨[], (.filter, o.items) :: o.outer⟩
  | .opening e => ⟨[], (e, o.items) :: o.outer⟩
  | .closing .filter =>
    let o' := if o.last? = some .filter then (o.closed .filter).getD o else o
    o'.put ⟨.keyword, 0⟩
  | .closing e => (o.closed e).getD (o.put ⟨.separator, 0⟩)

/-- All items when the text ends. Only filters need not be closed. -/
def finish (items : List Item) : List (Enclosure × List Item) → List Item
  | [] => items.reverse
  | (.filter, before) :: outer => finish (groupOf .filter items :: before) outer
  | (_, before) :: outer => finish (items ++ ⟨.separator, 0⟩ :: before) outer

end Open

def depth (ls : List Lexeme) : Nat :=
  let o := ls.foldl Open.step {}
  height true (Open.finish o.items o.outer)

end RequestSql.Layout
