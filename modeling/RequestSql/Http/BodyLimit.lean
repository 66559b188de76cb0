import RequestSql.Decimal.Basic
import RequestSql.Http.Message

/-!
# The limit on bodies

A body may have 2^20 bytes. A declared length over the limit is refused before any byte is read;
otherwise the bytes of the chunks are counted, and reading stops at the chunk that goes over. The
limit is met exactly when all chunks together keep it (`collect_eq_none_iff`).
-/

namespace RequestSql.Http.BodyLimit

def maxBytes : Nat := 1048576

/-- The digits of the one-byte character set that are not decimal. -/
def isRaisedDigit (c : Char) : Bool := c == '¹' || c == '²' || c == '³'

/-- A digit of the one-byte character set. -/
def isDigit (c : Char) : Bool := c.isDigit || isRaisedDigit c

/-- The length that a header declares: none if the header is not all digits. -/
def declaredLength (header : String) : Except Crash (Option Nat) :=
  let cs := header.toList
  if cs.isEmpty || !cs.all isDigit then .ok none
  else
    let (decimal, rest) := Decimal.spanDigits cs
    if Decimal.maxDigits < decimal.length then .error (.longLength decimal.length)
    else if rest.isEmpty then .ok (some (Decimal.ofDigits decimal))
    else .error (.unreadableLength header)

/-- The methods whose bodies are read and counted. -/
def readsBody (method : String) : Bool := method ∈ ["POST", "PUT", "PATCH"]

/-- Collects chunks as long as they stay within the limit. -/
def collect (found : ByteArray) : List ByteArray → Option ByteArray
  | [] => some found
  | chunk :: chunks =>
    if maxBytes < found.size + chunk.size then none else collect (found ++ chunk) chunks

/-- The body that a request is handled with, or none if the request is over the limit. A body that
is not read is empty. -/
def accept (r : Request) : Except Crash (Option ByteArray) :=
  match (r.header? "content-length").elim (.ok none) declaredLength with
  | .error e => .error e
  | .ok length =>
    if length.any (maxBytes < ·) then .ok none
    else if readsBody r.method then .ok (collect .empty r.chunks)
    else .ok (some .empty)

/-- The reply to a body over the limit. It is made before the clock starts. -/
def tooLarge : Reply where
  status := 413
  content := .json (.map [
    (.text "success", .bool false),
    (.text "error", .map [
      (.text "code", .text "PAYLOAD_TOO_LARGE"),
      (.text "message", .text "Request body too large (max 1 MB)")])])
  timed := false

def totalSize : List ByteArray → Nat
  | [] => 0
  | chunk :: chunks => chunk.size + totalSize chunks

/-- Chunks are refused exactly when all of them together are over the limit. -/
theorem collect_eq_none_iff {chunks : List ByteArray} {found : ByteArray}
    (h : found.size ≤ maxBytes) :
    collect found chunks = none ↔ maxBytes < found.size + totalSize chunks := by
  induction chunks generalizing found with
  | nil => simp [collect, totalSize, h]
  | cons chunk chunks ih =>
    by_cases hc : maxBytes < found.size + chunk.size
    · simp only [collect, hc, if_true, totalSize, true_iff]
      omega
    · have hs : (found ++ chunk).size ≤ maxBytes := by
        rw [ByteArray.size_append]; omega
      simp only [collect, hc, if_false, ih hs, totalSize, ByteArray.size_append]
      omega

end RequestSql.Http.BodyLimit
