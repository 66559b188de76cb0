import Mathlib.Data.List.TakeWhile
import RequestSql.Proofs.Http.BodyLimit

/-!
# Declared lengths that are not read

A header for the length that is not all digits counts for nothing: the message is handled as if the
header were missing. The digits that pass for digits are more than those that numerals are read
from, and a numeral is not read at all if it is too long. Such a header ends the message before any
byte of it is counted.
-/

namespace RequestSql.Http

namespace BodyLimit

variable {header : String}

/-- The header passes for digits and is not read as a numeral. -/
structure IsUnreadable (header : String) : Prop where
  nonempty : header.toList ≠ []
  digits : ∀ c ∈ header.toList, isDigit c = true
  unread : (∃ c ∈ header.toList, isRaisedDigit c = true) ∨ 4300 < header.toList.length

theorem isDigit_eq_false_of_isRaisedDigit {c : Char} (h : isRaisedDigit c = true) :
    c.isDigit = false := by
  simp only [isRaisedDigit, Bool.or_eq_true, beq_iff_eq] at h
  rcases h with (rfl | rfl) | rfl <;> rfl

/-- What ends a message with an unreadable header: too many decimal digits at its start, or a digit
that is not decimal after them. -/
def unreadable (header : String) : Crash :=
  let decimal := header.toList.takeWhile Char.isDigit
  if 4300 < decimal.length then .longLength decimal.length else .unreadableLength header

theorem declaredLength_of_isUnreadable (h : IsUnreadable header) :
    declaredLength header = .error (unreadable header) := by
  have hdigits : (header.toList.isEmpty || !header.toList.all isDigit) = false := by
    rw [List.isEmpty_eq_false_iff.mpr h.nonempty, List.all_eq_true.mpr h.digits]
    rfl
  have hspan : Decimal.spanDigits header.toList =
      (header.toList.takeWhile Char.isDigit, header.toList.dropWhile Char.isDigit) :=
    List.span_eq_takeWhile_dropWhile _ _
  simp only [declaredLength, unreadable, hdigits, hspan, Decimal.maxDigits, Bool.false_eq_true,
    if_false]
  split
  · rfl
  · rename_i hshort
    refine if_neg fun hrest => ?_
    have hall : header.toList.takeWhile Char.isDigit = header.toList :=
      List.takeWhile_eq_self_iff.mpr
        (List.dropWhile_eq_nil_iff.mp (List.isEmpty_iff.mp hrest))
    rcases h.unread with ⟨c, hc, hraised⟩ | hlong
    · have hdecimal := List.takeWhile_eq_self_iff.mp hall c hc
      rw [isDigit_eq_false_of_isRaisedDigit hraised] at hdecimal
      cases hdecimal
    · rw [hall] at hshort
      exact hshort hlong

/-- A header is not all digits, or is a numeral of a length that is read, or is unreadable. -/
theorem header_cases (header : String) :
    (header.toList = [] ∨ ∃ c ∈ header.toList, isDigit c = false) ∨
      (IsNumeral header ∧ header.toList.length ≤ 4300) ∨ IsUnreadable header := by
  by_cases hother : header.toList = [] ∨ ∃ c ∈ header.toList, isDigit c = false
  · exact .inl hother
  obtain ⟨hnonempty, hdigits⟩ := not_or.mp hother
  have hdigits (c : Char) (hc : c ∈ header.toList) : isDigit c = true :=
    (Bool.not_eq_false _).mp fun h => hdigits ⟨c, hc, h⟩
  by_cases hunread : (∃ c ∈ header.toList, isRaisedDigit c = true) ∨ 4300 < header.toList.length
  · exact .inr (.inr ⟨hnonempty, hdigits, hunread⟩)
  obtain ⟨hraised, hshort⟩ := not_or.mp hunread
  refine .inr (.inl ⟨⟨hnonempty, fun c hc => ?_⟩, Nat.not_lt.mp hshort⟩)
  exact (Bool.or_eq_true_iff.mp (hdigits c hc)).resolve_right fun h => hraised ⟨c, hc, h⟩

end BodyLimit

namespace Request

open BodyLimit (IsNumeral IsUnreadable totalSize)

variable {r : Request} {name other header : String}

/-- The message without the headers of a name. -/
def without (r : Request) (name : String) : Request :=
  { r with headers := r.headers.filter fun h => h.1.map Char.toLower != name }

@[simp] theorem header?_without (r : Request) (name : String) :
    (r.without name).header? name = none := by
  simp [header?, without, List.find?_filter]

theorem header?_without_of_ne (h : other ≠ name) :
    (r.without name).header? other = r.header? other := by
  rw [header?, header?, without, List.find?_filter]
  congr 2
  funext e
  by_cases he : e.1.map Char.toLower = other <;> simp [he, h]

theorem HasReadableLength.not_isUnreadable (h : r.HasReadableLength)
    (hheader : r.header? "content-length" = some header) : ¬ IsUnreadable header := by
  intro hunreadable
  cases h with
  | absent h => cases h.symm.trans hheader
  | other h hother =>
    obtain rfl := Option.some.inj (h.symm.trans hheader)
    rcases hother with hempty | ⟨c, hc, hdigit⟩
    · exact hunreadable.nonempty hempty
    · rw [hunreadable.digits c hc] at hdigit
      cases hdigit
  | numeral h hnumeral hshort =>
    obtain rfl := Option.some.inj (h.symm.trans hheader)
    rcases hunreadable.unread with ⟨c, hc, hraised⟩ | hlong
    · have hdecimal := hnumeral.digits c hc
      rw [BodyLimit.isDigit_eq_false_of_isRaisedDigit hraised] at hdecimal
      cases hdecimal
    · omega

theorem hasReadableLength_iff : r.HasReadableLength ↔
    ∀ header, r.header? "content-length" = some header → ¬ IsUnreadable header := by
  refine ⟨fun h header hheader => h.not_isUnreadable hheader, fun h => ?_⟩
  cases hheader : r.header? "content-length" with
  | none => exact .absent hheader
  | some header =>
    rcases BodyLimit.header_cases header with hother | ⟨hnumeral, hshort⟩ | hunreadable
    · exact .other hheader hother
    · exact .numeral hheader hnumeral hshort
    · exact absurd hunreadable (h header hheader)

/-- Where no numeral stands for the length, only the bytes are counted. -/
theorem isOverLimit_of_not_isNumeral
    (h : ∀ header, r.header? "content-length" = some header → ¬ IsNumeral header) :
    r.IsOverLimit ↔ r.method ∈ ["POST", "PUT", "PATCH"] ∧ 1048576 < totalSize r.chunks := by
  refine or_iff_right ?_
  rintro ⟨header, hheader, hnumeral, -⟩
  exact h header hheader hnumeral

end Request

open BodyLimit (IsNumeral IsUnreadable totalSize)

variable {s : Service} {r : Request} {name : String} {body : ByteArray}

/-- A route reads no headers but the type of the body and the host. -/
theorem dispatch_without (htype : "content-type" ≠ name) (hhost : "host" ≠ name) :
    dispatch s (r.without name) body = dispatch s r body := by
  have hlocation (path : String) : location (r.without name) path = location r path := by
    simp only [location, Request.host, Request.header?_without_of_ne hhost]
    rfl
  have hcompile : compile s (r.without name) body = compile s r body := by
    simp only [compile, Request.header?_without_of_ne htype]
    rfl
  have hroute : Route.of (r.without name).method (r.without name).path =
      Route.of r.method r.path := rfl
  unfold dispatch
  rw [hroute]
  cases Route.of r.method r.path with
  | found e =>
    cases e with
    | compile => exact hcompile
    | dialects | health => rfl
  | elsewhere path => simp only [hlocation]
  | wrongMethod | missing => rfl

/-- What holds of a message if its header for the length never ends it: the limit comes to a
decision, a numeral over the limit is refused, and for a header that is no numeral the bytes are
counted and the reply is the one to the message without the header. -/
structure ToleratesLength (s : Service) (r : Request) : Prop where
  decided : ∃ body, BodyLimit.accept r = .ok body
  refused : r.DeclaresOver → serve s r = .ok BodyLimit.tooLarge
  ignored : ∀ header, r.header? "content-length" = some header → ¬ IsNumeral header →
    (serve s r = .ok BodyLimit.tooLarge ↔
      r.method ∈ ["POST", "PUT", "PATCH"] ∧ 1048576 < totalSize r.chunks) ∧
    serve s r = serve s (r.without "content-length")

theorem serve_eq_tooLarge_iff (h : r.HasReadableLength) :
    serve s r = .ok BodyLimit.tooLarge ↔ r.IsOverLimit := by
  rcases serve_of_readable (s := s) h with ⟨hover, hserve⟩ | ⟨hover, hserve⟩
  · exact iff_of_true hserve hover
  · refine iff_of_false (fun htooLarge => ?_) hover
    exact (isOwn_dispatch (hserve.symm.trans htooLarge)).ne_tooLarge rfl

theorem serve_without_length (h : r.HasReadableLength)
    (hother : ∀ header, r.header? "content-length" = some header → ¬ IsNumeral header) :
    serve s r = serve s (r.without "content-length") := by
  have hnone := r.header?_without "content-length"
  have hsame : (r.without "content-length").IsOverLimit ↔ r.IsOverLimit :=
    (Request.isOverLimit_of_not_isNumeral (by simp [hnone])).trans
      (Request.isOverLimit_of_not_isNumeral hother).symm
  rcases serve_of_readable (s := s) h with ⟨hover, hserve⟩ | ⟨hover, hserve⟩
  · rcases serve_of_readable (s := s) (.absent hnone) with ⟨-, hwithout⟩ | ⟨hpasses, -⟩
    · rw [hserve, hwithout]
    · exact absurd (hsame.mpr hover) hpasses
  · rcases serve_of_readable (s := s) (.absent hnone) with ⟨hrefused, -⟩ | ⟨-, hwithout⟩
    · exact absurd (hsame.mp hrefused) hover
    · rw [hserve, hwithout, dispatch_without (by decide) (by decide)]
      rfl

theorem toleratesLength_of_readable (h : r.HasReadableLength) : ToleratesLength s r where
  decided := by
    rcases h.accept with ⟨-, haccept⟩ | ⟨-, haccept⟩
    · exact ⟨_, haccept⟩
    · exact ⟨_, haccept⟩
  refused hover := (serve_eq_tooLarge_iff h).mpr (.inl hover)
  ignored header hheader hother := by
    have hnumeral (header' : String) (h' : r.header? "content-length" = some header') :
        ¬ IsNumeral header' := by
      obtain rfl := Option.some.inj (hheader.symm.trans h')
      exact hother
    exact ⟨(serve_eq_tooLarge_iff h).trans (Request.isOverLimit_of_not_isNumeral hnumeral),
      serve_without_length h hnumeral⟩

theorem accept_of_isUnreadable {header : String} (hheader : r.header? "content-length" = some header)
    (h : IsUnreadable header) : BodyLimit.accept r = .error (BodyLimit.unreadable header) := by
  rw [BodyLimit.accept, hheader, Option.elim_some, BodyLimit.declaredLength_of_isUnreadable h]

theorem serve_of_isUnreadable {header : String} (hheader : r.header? "content-length" = some header)
    (h : IsUnreadable header) : serve s r = .error (BodyLimit.unreadable header) := by
  rw [serve, accept_of_isUnreadable hheader h]

/-- The header for the length is tolerated exactly if it is not unreadable. An unreadable one ends
every message that has it, whatever else is in the message. -/
theorem toleratesLength_iff (s : Service) (r : Request) :
    (ToleratesLength s r ↔
      ∀ header, r.header? "content-length" = some header → ¬ IsUnreadable header) ∧
    ∀ header, r.header? "content-length" = some header → IsUnreadable header →
      serve s r = .error (BodyLimit.unreadable header) ∧ (sent (serve s r)).status = 500 := by
  refine ⟨⟨fun h header hheader hunreadable => ?_, fun h => ?_⟩, fun header hheader h => ?_⟩
  · obtain ⟨body, hbody⟩ := h.decided
    cases hbody.symm.trans (accept_of_isUnreadable hheader hunreadable)
  · exact toleratesLength_of_readable (Request.hasReadableLength_iff.mpr h)
  · have hserve := serve_of_isUnreadable (s := s) hheader h
    rw [hserve]
    exact ⟨rfl, rfl⟩

/-- A one with a raised two after it is no numeral, and it ends a message that is answered without
it. -/
theorem raised_digit_ends_message :
    ∃ r : Request, r = { method := "GET", path := "/health", headers := [("content-length", "1²")] } ∧
      r.header? "content-length" = some "1²" ∧ ¬ IsNumeral "1²" ∧
      serve {} r = .error (.unreadableLength "1²") ∧
      (sent (serve {} (r.without "content-length"))).status = 200 ∧ ¬ ToleratesLength {} r := by
  let r : Request := { method := "GET", path := "/health", headers := [("content-length", "1²")] }
  have hheader : r.header? "content-length" = some "1²" := by decide +kernel
  have hraised : ∃ c ∈ "1²".toList, BodyLimit.isRaisedDigit c = true := ⟨'²', by decide, rfl⟩
  have hdigits : "1²".toList.all BodyLimit.isDigit = true := by decide
  have hunreadable : IsUnreadable "1²" :=
    ⟨List.cons_ne_nil _ _, List.all_eq_true.mp hdigits, .inl hraised⟩
  have hnumeral : ¬ IsNumeral "1²" := fun h => absurd (h.digits '²' (by decide)) (by decide)
  have hheaders : (r.without "content-length").headers = [] := by decide +kernel
  refine ⟨r, rfl, hheader, hnumeral, serve_of_isUnreadable hheader hunreadable, ?_, fun h => ?_⟩
  · have hwithout : r.without "content-length" = { method := "GET", path := "/health" } :=
      congrArg (fun headers => ({ method := "GET", path := "/health", headers } : Request)) hheaders
    rw [hwithout]
    rfl
  · obtain ⟨body, hbody⟩ := h.decided
    cases hbody.symm.trans (accept_of_isUnreadable hheader hunreadable)

end RequestSql.Http
