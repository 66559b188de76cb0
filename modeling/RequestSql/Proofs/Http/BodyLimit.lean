import Mathlib.Data.List.TakeDrop
import Mathlib.Data.List.TakeWhile
import RequestSql.Http.Serve

/-!
# What the limit lets through

A message is refused for the length that it declares or for the bytes that it has, and nothing else
gets the reply to a refused one. Any other message is handled with its chunks as one body, so how
the body was split is not to be seen in the reply. A refusal and a crash come from outside the
clock, and all replies of the application itself from inside.
-/

namespace RequestSql.Http

/-- All bytes of the body. -/
def Request.bytes (r : Request) : ByteArray := r.chunks.foldl (· ++ ·) .empty

namespace BodyLimit

/-- Chunks that stay within the limit are joined. -/
theorem collect_eq_some {chunks : List ByteArray} {found : ByteArray}
    (h : found.size + totalSize chunks ≤ maxBytes) :
    collect found chunks = some (chunks.foldl (· ++ ·) found) := by
  -- what was found before the chunks counts towards the limit
  induction chunks generalizing found with
  | nil => rfl
  | cons chunk chunks ih =>
    rw [totalSize] at h
    have hchunk : ¬ maxBytes < found.size + chunk.size := by omega
    have hrest : (found ++ chunk).size + totalSize chunks ≤ maxBytes := by
      rw [ByteArray.size_append]
      omega
    rw [collect, if_neg hchunk, ih hrest, List.foldl_cons]

theorem size_foldl_append (chunks : List ByteArray) (found : ByteArray) :
    (chunks.foldl (· ++ ·) found).size = found.size + totalSize chunks := by
  induction chunks generalizing found with
  | nil => rfl
  | cons chunk chunks ih =>
    rw [List.foldl_cons, ih, ByteArray.size_append, totalSize, Nat.add_assoc]

theorem size_bytes (r : Request) : r.bytes.size = totalSize r.chunks :=
  (size_foldl_append r.chunks .empty).trans (Nat.zero_add _)

/-- The header is decimal digits and nothing else. -/
structure IsNumeral (header : String) : Prop where
  nonempty : header.toList ≠ []
  digits : ∀ c ∈ header.toList, c.isDigit = true

theorem declaredLength_of_isNumeral {header : String} (h : IsNumeral header)
    (hshort : header.toList.length ≤ Decimal.maxDigits) :
    declaredLength header = .ok (some (Decimal.ofDigits header.toList)) := by
  have hall : header.toList.all isDigit = true := by
    refine List.all_eq_true.mpr fun c hc => ?_
    rw [isDigit, h.digits c hc, Bool.true_or]
  have hspan : Decimal.spanDigits header.toList = (header.toList, []) := by
    rw [Decimal.spanDigits, List.span_eq_takeWhile_dropWhile,
      List.takeWhile_eq_self_iff.mpr h.digits, List.dropWhile_eq_nil_iff.mpr h.digits]
  simp only [declaredLength, hall, hspan, if_neg (Nat.not_lt.mpr hshort),
    List.isEmpty_eq_false_iff.mpr h.nonempty]
  rfl

theorem declaredLength_of_other {header : String}
    (h : header.toList = [] ∨ ∃ c ∈ header.toList, isDigit c = false) :
    declaredLength header = .ok none := by
  have hother : (header.toList.isEmpty || !header.toList.all isDigit) = true := by
    rcases h with h | ⟨c, hc, hdigit⟩
    · rw [h]
      rfl
    · have hall : header.toList.all isDigit = false :=
        List.all_eq_false.mpr ⟨c, hc, Bool.eq_false_iff.mp hdigit⟩
      rw [hall, Bool.not_false, Bool.or_true]
  exact if_pos hother

end BodyLimit

namespace Request

open BodyLimit (IsNumeral isDigit maxBytes totalSize)

variable {r : Request}

/-- The header for the length is missing, or is not all digits, or is a numeral of a length that is
read. -/
inductive HasReadableLength (r : Request) : Prop
  | absent (h : r.header? "content-length" = none)
  | other {header : String} (h : r.header? "content-length" = some header)
      (hother : header.toList = [] ∨ ∃ c ∈ header.toList, isDigit c = false)
  | numeral {header : String} (h : r.header? "content-length" = some header)
      (hnumeral : IsNumeral header) (hshort : header.toList.length ≤ 4300)

/-- The header declares more than 2^20 bytes. -/
def DeclaresOver (r : Request) : Prop :=
  ∃ header, r.header? "content-length" = some header ∧ IsNumeral header ∧
    1048576 < Decimal.ofDigits header.toList

/-- The message declares more than 2^20 bytes, or has them where they are counted. -/
def IsOverLimit (r : Request) : Prop :=
  r.DeclaresOver ∨ r.method ∈ ["POST", "PUT", "PATCH"] ∧ 1048576 < totalSize r.chunks

theorem HasReadableLength.declared (h : r.HasReadableLength) :
    ∃ length, (r.header? "content-length").elim (.ok none) BodyLimit.declaredLength = .ok length ∧
      (length.any (maxBytes < ·) = true ↔ r.DeclaresOver) := by
  cases h with
  | absent h =>
    refine ⟨none, by rw [h]; rfl, by simp [DeclaresOver, h]⟩
  | @other header h hother =>
    refine ⟨none, ?_, ?_⟩
    · rw [h]
      exact BodyLimit.declaredLength_of_other hother
    · refine iff_of_false (by decide) ?_
      rintro ⟨header', h', hnumeral, -⟩
      obtain rfl := Option.some.inj (h.symm.trans h')
      rcases hother with hempty | ⟨c, hc, hdigit⟩
      · exact hnumeral.nonempty hempty
      · simp [isDigit, hnumeral.digits c hc] at hdigit
  | @numeral header h hnumeral hshort =>
    refine ⟨some (Decimal.ofDigits header.toList), ?_, ?_⟩
    · rw [h]
      exact BodyLimit.declaredLength_of_isNumeral hnumeral hshort
    · rw [Option.any_some, decide_eq_true_iff]
      constructor
      · exact fun hover => ⟨header, h, hnumeral, hover⟩
      · rintro ⟨header', h', -, hover⟩
        obtain rfl := Option.some.inj (h.symm.trans h')
        exact hover

/-- The limit decides, and what it lets through comes with all bytes if they were read. -/
theorem HasReadableLength.accept (h : r.HasReadableLength) :
    (r.IsOverLimit ∧ BodyLimit.accept r = .ok none) ∨
      ¬ r.IsOverLimit ∧ BodyLimit.accept r =
        .ok (some (if r.method ∈ ["POST", "PUT", "PATCH"] then r.bytes else .empty)) := by
  obtain ⟨length, hlength, hdeclared⟩ := h.declared
  have haccept : BodyLimit.accept r =
      if length.any (maxBytes < ·) then .ok none
      else if BodyLimit.readsBody r.method then .ok (BodyLimit.collect .empty r.chunks)
      else .ok (some .empty) := by
    rw [BodyLimit.accept, hlength]
  by_cases hover : r.DeclaresOver
  · exact .inl ⟨.inl hover, haccept.trans (if_pos (hdeclared.mpr hover))⟩
  rw [if_neg (mt hdeclared.mp hover)] at haccept
  by_cases hreads : r.method ∈ ["POST", "PUT", "PATCH"]
  · have hreads' : BodyLimit.readsBody r.method = true := decide_eq_true hreads
    rw [if_pos hreads'] at haccept
    by_cases hcount : 1048576 < totalSize r.chunks
    · refine .inl ⟨.inr ⟨hreads, hcount⟩, haccept.trans (congrArg Except.ok ?_)⟩
      refine (BodyLimit.collect_eq_none_iff (by decide)).mpr ?_
      rw [ByteArray.size_empty, Nat.zero_add]
      exact hcount
    · refine .inr ⟨fun h => h.elim hover fun h => hcount h.2, haccept.trans (congrArg Except.ok ?_)⟩
      rw [if_pos hreads]
      refine BodyLimit.collect_eq_some ?_
      rw [ByteArray.size_empty, Nat.zero_add]
      exact Nat.not_lt.mp hcount
  · have hreads' : ¬ BodyLimit.readsBody r.method = true := mt of_decide_eq_true hreads
    refine .inr ⟨fun h => h.elim hover fun h => hreads h.1, haccept.trans ?_⟩
    rw [if_neg hreads', if_neg hreads]

end Request

/-- The statuses of the replies that an application makes itself. -/
def ownStatuses : List Nat := [200, 307, 400, 404, 405, 422]

/-- The reply is one of the application, and tells how long it took. -/
structure Reply.IsOwn (reply : Reply) : Prop where
  timed : reply.timed = true
  status : reply.status ∈ ownStatuses

variable {s : Service} {r : Request} {block : Option Text.HalfBlock} {reply : Reply}

theorem Reply.IsOwn.ne_tooLarge (h : reply.IsOwn) : reply ≠ BodyLimit.tooLarge := by
  rintro rfl
  exact absurd h.status (by decide)

theorem Crash.reply_ne_tooLarge : Crash.reply ≠ BodyLimit.tooLarge :=
  fun h => absurd (congrArg Reply.status h) (by decide)

theorem isOwn_encodedReply {status : Nat} {v : Value}
    (hstatus : status ∈ ownStatuses) (h : encodedReply block status v = .ok reply) : reply.IsOwn := by
  unfold encodedReply at h
  split at h
  · cases h
  · split at h
    · cases h
    · obtain rfl := Except.ok.inj h
      exact ⟨rfl, hstatus⟩

theorem isOwn_resultReply {format : Formatter} {pretty : Bool} {result : Pipeline.Result}
    (h : resultReply format block pretty result = .ok reply) : reply.IsOwn := by
  unfold resultReply at h
  split at h
  · cases h
  · dsimp only at h
    split at h
    · cases h
    · obtain rfl := Except.ok.inj h
      exact ⟨rfl, (by decide : 200 ∈ ownStatuses)⟩

theorem isOwn_compileReply {tools : Tools} {registry : Registry} {engine : Engine}
    {options : Options} {q : RequestSql.Request}
    (h : compileReply tools block registry engine options q = .ok reply) : reply.IsOwn := by
  unfold compileReply at h
  dsimp only at h
  split at h
  · exact isOwn_resultReply h
  · exact isOwn_encodedReply (by decide) h
  · exact isOwn_encodedReply (by decide) h
  · exact isOwn_encodedReply (by decide) h

theorem isOwn_compile {bytes : ByteArray} (h : compile s r bytes = .ok reply) : reply.IsOwn := by
  unfold compile at h
  split at h
  · obtain rfl := Except.ok.inj h
    rename_i e hread
    cases e with
    | malformed => exact ⟨rfl, (by decide : 422 ∈ ownStatuses)⟩
    | unreadable => exact ⟨rfl, (by decide : 400 ∈ ownStatuses)⟩
  · split at h
    · cases h
    · dsimp only at h
      split at h
      · exact isOwn_encodedReply (by decide) h
      · exact isOwn_compileReply h

theorem isOwn_dispatch {bytes : ByteArray} (h : dispatch s r bytes = .ok reply) : reply.IsOwn := by
  unfold dispatch at h
  cases hroute : Route.of r.method r.path with
  | found e =>
    rw [hroute] at h
    cases e with
    | compile => exact isOwn_compile h
    | dialects | health =>
      obtain rfl := Except.ok.inj h
      exact ⟨rfl, (by decide : 200 ∈ ownStatuses)⟩
  | wrongMethod =>
    rw [hroute] at h
    obtain rfl := Except.ok.inj h
    exact ⟨rfl, (by decide : 405 ∈ ownStatuses)⟩
  | elsewhere =>
    rw [hroute] at h
    obtain rfl := Except.ok.inj h
    exact ⟨rfl, (by decide : 307 ∈ ownStatuses)⟩
  | missing =>
    rw [hroute] at h
    obtain rfl := Except.ok.inj h
    exact ⟨rfl, (by decide : 404 ∈ ownStatuses)⟩

theorem sent_dispatch_ne_tooLarge (s : Service) (r : Request) (bytes : ByteArray) :
    sent (dispatch s r bytes) ≠ BodyLimit.tooLarge := by
  cases h : dispatch s r bytes with
  | ok reply => exact (isOwn_dispatch h).ne_tooLarge
  | error crash => exact Crash.reply_ne_tooLarge

/-- A run comes to a refusal, a reply of the application, or a crash. -/
theorem serve_cases (s : Service) (r : Request) :
    serve s r = .ok BodyLimit.tooLarge ∨ (∃ reply, serve s r = .ok reply ∧ reply.IsOwn) ∨
      ∃ crash, serve s r = .error crash := by
  unfold serve
  cases BodyLimit.accept r with
  | error crash => exact .inr (.inr ⟨crash, rfl⟩)
  | ok body =>
    cases body with
    | none => exact .inl rfl
    | some bytes =>
      cases hreply : dispatch s r bytes with
      | error crash => exact .inr (.inr ⟨crash, hreply⟩)
      | ok reply => exact .inr (.inl ⟨reply, hreply, isOwn_dispatch hreply⟩)

/-- Refusals, crashes and replies of the application are told apart by their statuses, and only the
last ones tell their time. -/
theorem sent_status (s : Service) (r : Request) :
    ((sent (serve s r)).status = 413 ↔ sent (serve s r) = BodyLimit.tooLarge) ∧
      ((sent (serve s r)).status = 500 ↔ ∃ crash, serve s r = .error crash) ∧
      ((sent (serve s r)).timed = true ↔ sent (serve s r) ≠ BodyLimit.tooLarge ∧
        ¬ ∃ crash, serve s r = .error crash) := by
  rcases serve_cases s r with h | ⟨reply, h, hown⟩ | ⟨crash, h⟩
  · rw [h]
    simp [sent, BodyLimit.tooLarge]
  · have hrefused : reply.status ≠ 413 := fun h => absurd (h ▸ hown.status) (by decide)
    have hcrashed : reply.status ≠ 500 := fun h => absurd (h ▸ hown.status) (by decide)
    rw [h]
    simp [sent, hrefused, hcrashed, hown.ne_tooLarge, hown.timed]
  · have hcrashed : Crash.reply.status = 500 := rfl
    have htimed : Crash.reply.timed = false := rfl
    rw [h]
    simp [sent, hcrashed, htimed, Crash.reply_ne_tooLarge]

theorem serve_of_readable (h : r.HasReadableLength) :
    (r.IsOverLimit ∧ serve s r = .ok BodyLimit.tooLarge) ∨
      ¬ r.IsOverLimit ∧ serve s r =
        dispatch s r (if r.method ∈ ["POST", "PUT", "PATCH"] then r.bytes else .empty) := by
  rcases h.accept with ⟨hover, haccept⟩ | ⟨hover, haccept⟩
  · exact .inl ⟨hover, by rw [serve, haccept]⟩
  · exact .inr ⟨hover, by rw [serve, haccept]⟩

/-- The limit counts bytes, so it does not see where one chunk ends and the next begins. -/
theorem isOverLimit_chunks {chunks : List ByteArray}
    (h : ({ r with chunks } : Request).bytes = r.bytes) :
    ({ r with chunks } : Request).IsOverLimit ↔ r.IsOverLimit := by
  have hsize : BodyLimit.totalSize chunks = BodyLimit.totalSize r.chunks := by
    rw [← BodyLimit.size_bytes r, ← h]
    exact (BodyLimit.size_bytes { r with chunks }).symm
  have hcounted : 1048576 < BodyLimit.totalSize chunks ↔ 1048576 < BodyLimit.totalSize r.chunks := by
    rw [hsize]
  exact or_congr Iff.rfl (and_congr Iff.rfl hcounted)

theorem Request.HasReadableLength.chunks (h : r.HasReadableLength) (chunks : List ByteArray) :
    ({ r with chunks } : Request).HasReadableLength := by
  cases h with
  | absent h => exact .absent h
  | other h hother => exact .other h hother
  | numeral h hnumeral hshort => exact .numeral h hnumeral hshort

/-- A message is refused exactly if it is over the limit. If it is not, its chunks are handled as
one body; the same bytes in other chunks get the same reply. The time is told in all replies but
those to a refusal and to a crash. -/
theorem serve_limits {s : Service} {r : Request} (h : r.HasReadableLength) :
    (sent (serve s r) = BodyLimit.tooLarge ↔ r.IsOverLimit) ∧
      (¬ r.IsOverLimit → r.method ∈ ["POST", "PUT", "PATCH"] →
        serve s r = dispatch s r r.bytes) ∧
      (∀ chunks, ({ r with chunks } : Request).bytes = r.bytes →
        serve s { r with chunks } = serve s r) ∧
      ((sent (serve s r)).status = 413 ↔ sent (serve s r) = BodyLimit.tooLarge) ∧
      ((sent (serve s r)).status = 500 ↔ ∃ crash, serve s r = .error crash) ∧
      ((sent (serve s r)).timed = true ↔ sent (serve s r) ≠ BodyLimit.tooLarge ∧
        ¬ ∃ crash, serve s r = .error crash) := by
  have hstatus := sent_status s r
  refine ⟨?refused, ?handled, ?chunks, hstatus⟩
  case refused =>
    rcases serve_of_readable h with ⟨hover, hserve⟩ | ⟨hover, hserve⟩
    · exact iff_of_true (by rw [hserve]; rfl) hover
    · refine iff_of_false ?_ hover
      rw [hserve]
      exact sent_dispatch_ne_tooLarge s r _
  case handled =>
    intro hover hreads
    rcases serve_of_readable h with ⟨hover', -⟩ | ⟨-, hserve⟩
    · exact absurd hover' hover
    · rw [hserve, if_pos hreads]
  case chunks =>
    intro chunks hbytes
    have hsame := isOverLimit_chunks hbytes
    rcases serve_of_readable (s := s) h with ⟨hover, hserve⟩ | ⟨hover, hserve⟩
    · rcases serve_of_readable (s := s) (h.chunks chunks) with ⟨-, hother⟩ | ⟨hover', -⟩
      · rw [hother, hserve]
      · exact absurd (hsame.mpr hover) hover'
    · rcases serve_of_readable (s := s) (h.chunks chunks) with ⟨hover', -⟩ | ⟨-, hother⟩
      · exact absurd (hsame.mp hover') hover
      · rw [hother, hserve, hbytes]
        rfl

/-- A body of exactly 2^20 bytes passes. One more byte in front of it is refused, though the message
declares seven bytes. -/
theorem serve_limits_at_boundary :
    ∃ full one kept refused, full = ⟨Array.replicate 1048576 32⟩ ∧ one = ⟨#[32]⟩ ∧
      kept = ({ method := "PUT", path := "/compile", chunks := [.empty, full] } : Request) ∧
      refused = { kept with
        headers := [("Content-Length", "7")], chunks := [one, .empty, full] } ∧
      kept.HasReadableLength ∧ refused.HasReadableLength ∧
      serve {} kept = dispatch {} kept kept.bytes ∧
      serve {} { kept with chunks := [full] } = serve {} kept ∧
      sent (serve {} refused) = BodyLimit.tooLarge ∧
      (sent (serve {} refused)).timed = false := by
  let full : ByteArray := ⟨Array.replicate 1048576 32⟩
  let one : ByteArray := ⟨#[32]⟩
  let kept : Request := { method := "PUT", path := "/compile", chunks := [.empty, full] }
  let refused : Request :=
    { kept with headers := [("Content-Length", "7")], chunks := [one, .empty, full] }
  have hfull : full.size = 1048576 := Array.size_replicate
  have hone : one.size = 1 := rfl
  have hkept : kept.HasReadableLength := .absent rfl
  have hheader : refused.header? "content-length" = some "7" := by decide +kernel
  have hdigits : "7".toList.all Char.isDigit = true := by decide +kernel
  have hrefused : refused.HasReadableLength :=
    .numeral hheader ⟨List.cons_ne_nil _ _, List.all_eq_true.mp hdigits⟩ (by decide)
  have hpasses : ¬ kept.IsOverLimit := by
    rintro (⟨header, h, -⟩ | ⟨-, hcount⟩)
    · cases h
    · simp [kept, BodyLimit.totalSize, hfull] at hcount
  have hover : refused.IsOverLimit := by
    refine .inr ⟨by decide, ?_⟩
    change 1048576 < one.size + (0 + (full.size + 0))
    omega
  have hjoined : ({ kept with chunks := [full] } : Request).bytes = kept.bytes := by
    change .empty ++ full = .empty ++ .empty ++ full
    simp only [ByteArray.empty_append]
  obtain ⟨-, hhandled, hchunks, -⟩ := serve_limits (s := {}) hkept
  obtain ⟨hsent, -⟩ := serve_limits (s := {}) hrefused
  have hreply := hsent.mpr hover
  refine ⟨full, one, kept, refused, rfl, rfl, rfl, rfl, hkept, hrefused,
    hhandled hpasses (by decide), hchunks [full] hjoined, hreply, ?_⟩
  rw [hreply]
  rfl

end RequestSql.Http
