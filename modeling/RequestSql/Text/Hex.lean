/-!
# Hexadecimal digits

Written in lower case, read in either letter case.
-/

namespace RequestSql.Text

/-- The hexadecimal digits of a number in lower case, filled up with zeros to a width. -/
def hex (width n : Nat) : List Char :=
  let ds := Nat.toDigits 16 n
  List.replicate (width - ds.length) '0' ++ ds

def hexValue? (c : Char) : Option Nat :=
  if '0' ≤ c ∧ c ≤ '9' then some (c.toNat - '0'.toNat)
  else if 'a' ≤ c ∧ c ≤ 'f' then some (c.toNat - 'a'.toNat + 10)
  else if 'A' ≤ c ∧ c ≤ 'F' then some (c.toNat - 'A'.toNat + 10)
  else none

example : hex 4 0xE9 = ['0', '0', 'e', '9'] := by decide
example : ['0', '9', 'a', 'F', 'g'].map hexValue? = [some 0, some 9, some 10, some 15, none] := by
  decide

end RequestSql.Text
