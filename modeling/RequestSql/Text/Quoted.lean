import RequestSql.Text.Hex
import RequestSql.Text.Printable

/-!
# Text shown in quotes

The display of a text or of bytes inside a larger value: in single quotes, or in double quotes when
the content has single quotes and no double ones, with everything that cannot be shown escaped.
-/

namespace RequestSql.Text

/-- The quote for content that has a single quote or not, and a double quote or not. -/
def quoteFor (hasSingle hasDouble : Bool) : Char :=
  if hasSingle && !hasDouble then '"' else '\''

/-- The escapes that have a letter. -/
def letterEscape (c : Char) : Option (List Char) :=
  if c = '\n' then some ['\\', 'n']
  else if c = '\r' then some ['\\', 'r']
  else if c = '\t' then some ['\\', 't']
  else if c = '\\' then some ['\\', '\\']
  else none

def escapeChar (quote c : Char) : List Char :=
  if c = quote then ['\\', c]
  else match letterEscape c with
    | some cs => cs
    | none =>
      if isPrintable c then [c]
      else if c.toNat < 0x100 then '\\' :: 'x' :: hex 2 c.toNat
      else if c.toNat < 0x10000 then '\\' :: 'u' :: hex 4 c.toNat
      else '\\' :: 'U' :: hex 8 c.toNat

def quoted (cs : List Char) : List Char :=
  let quote := quoteFor (cs.contains '\'') (cs.contains '"')
  quote :: (cs.flatMap (escapeChar quote) ++ [quote])

/-- One byte of quoted bytes: only the visible ASCII characters stand for themselves. -/
def escapeByte (quote : Char) (b : UInt8) : List Char :=
  let c := Char.ofNat b.toNat
  if c = quote then ['\\', c]
  else match letterEscape c with
    | some cs => cs
    | none => if 0x20 ≤ b && b < 0x7F then [c] else '\\' :: 'x' :: hex 2 b.toNat

/-- Bytes in quotes, after the mark `b`. -/
def quotedBytes (bs : List UInt8) : List Char :=
  let quote := quoteFor (bs.contains 0x27) (bs.contains 0x22)
  'b' :: quote :: (bs.flatMap (escapeByte quote) ++ [quote])

end RequestSql.Text
