import RequestSql.Text.Half
import RequestSql.Value.Display

/-!
# Halves of pairs in values

The texts of a value are searched for halves in the order in which they are written, keys before
what stands under them.
-/

namespace RequestSql.Value

mutual

/-- The halves of pairs in the first text of a value that has any. -/
def halves? (block : Text.HalfBlock) : Value → Option Text.Halves
  | .text s => Text.Halves.of? block s.toList
  | .list vs | .tuple vs => halvesOfItems? block vs
  | .map es => halvesOfEntries? block es
  | _ => none

def halvesOfItems? (block : Text.HalfBlock) : List Value → Option Text.Halves
  | [] => none
  | v :: vs => (halves? block v).or (halvesOfItems? block vs)

def halvesOfEntries? (block : Text.HalfBlock) : List (Value × Value) → Option Text.Halves
  | [] => none
  | (k, v) :: es => ((halves? block k).or (halves? block v)).or (halvesOfEntries? block es)

end

/-- A list or a map with halves becomes its display, in which halves are escaped. A text may keep
them. -/
def fileHalves (block : Text.HalfBlock) (v : Value) : Value :=
  match v with
  | .list _ | .map _ =>
    if (v.halves? block).isSome then .text (String.ofList (block.shown v.shown)) else v
  | v => v

end RequestSql.Value
