import RequestSql.Text.UpperTable

/-!
# Upper case

The full upper-case mapping of text: each character by its own entry of the table, with
expansions such as `ß` to `SS`. The mapping looks at no neighbours.
-/

namespace RequestSql.Text

/-- The upper case of one character: its expansion, its shifted code point, or itself. -/
def upperChar (c : Char) : List Char :=
  match upperExpansions.lookup c.toNat with
  | some cs => cs.map Char.ofNat
  | none =>
    match upperRuns.find? (·.holds c.toNat) with
    | some r => [Char.ofNat (c.toNat + r.shift).toNat]
    | none => [c]

def upperChars (cs : List Char) : List Char := cs.flatMap upperChar

def upper (s : String) : String := String.ofList (upperChars s.toList)

@[simp] theorem toList_upper (s : String) : (upper s).toList = upperChars s.toList := by
  simp [upper]

end RequestSql.Text
