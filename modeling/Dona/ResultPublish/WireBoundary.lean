import Dona.Library.Fallible
import Dona.Library.Search
import Mathlib.Algebra.Order.Ring.Nat

/-!
# The framing of requests on the wire

`WireRequestBoundary` of `job-result-publish-transport.ts`: it follows the framing of the requests
on a connection, chunk by chunk, and keeps no more than an unfinished header or line.
-/

namespace Dona.ResultPublish

open Fallible

abbrev Bytes := List UInt8

/-- The bytes of an ASCII text. -/
def ascii (text : String) : Bytes := text.toList.map fun c ↦ c.toNat.toUInt8

def crlf : Bytes := [13, 10]

/-- `Number.MAX_SAFE_INTEGER` -/
def maxSafeInteger : ℕ := 2 ^ 53 - 1

/-! ### Patterns -/

/-- `\s`, in Latin-1. -/
def isSpace (byte : UInt8) : Bool := [9, 10, 11, 12, 13, 32, 160].contains byte

def isDigit (byte : UInt8) : Bool := 48 ≤ byte ∧ byte ≤ 57

def lower (byte : UInt8) : UInt8 := if 65 ≤ byte ∧ byte ≤ 90 then byte + 32 else byte

/-- `[0-9a-f]`, of either case. -/
def isHexDigit (byte : UInt8) : Bool :=
  isDigit byte ∨ (97 ≤ lower byte ∧ lower byte ≤ 102)

def hexValue (byte : UInt8) : ℕ :=
  if isDigit byte then byte.toNat - 48 else (lower byte).toNat - 87

def decimalOf (digits : Bytes) : ℕ := digits.foldl (fun n digit ↦ 10 * n + (digit.toNat - 48)) 0

def hexOf (digits : Bytes) : ℕ := digits.foldl (fun n digit ↦ 16 * n + hexValue digit) 0

/-- What follows a text, if the bytes begin with it. -/
def strip (text bytes : Bytes) : Option Bytes :=
  if text.isPrefixOf bytes then some (bytes.drop text.length) else none

/-- What follows a text of lower case, if the bytes begin with it in any case. -/
def stripLower (text bytes : Bytes) : Option Bytes :=
  strip text (bytes.map lower) |>.map fun _ ↦ bytes.drop text.length

def trim (bytes : Bytes) : Bytes :=
  ((bytes.dropWhile isSpace).reverse.dropWhile isSpace).reverse

def methods : List Bytes :=
  ["GET", "POST", "PUT", "PATCH", "DELETE", "HEAD", "OPTIONS"].map ascii

/-- `/^(?:GET|…|OPTIONS) \S+ HTTP\/1\.[01]\r\n/` -/
def isRequestLine (line : Bytes) : Bool :=
  methods.any fun method ↦ (strip (method ++ ascii " ") line).any fun rest ↦
    let target := rest.takeWhile fun byte ↦ !isSpace byte
    target ≠ [] ∧ [ascii " HTTP/1.0\r\n", ascii " HTTP/1.1\r\n"].any fun version ↦
      version.isPrefixOf (rest.drop target.length)

/-- `\s*(?:\r\n|$)` -/
def endsField (rest : Bytes) : Bool :=
  (List.range ((rest.takeWhile isSpace).length + 1)).any fun i ↦
    rest.drop i = [] ∨ crlf.isPrefixOf (rest.drop i)

/-- `/\r\ntransfer-encoding:\s*chunked\s*(?:\r\n|$)/i` -/
def chunkedCoding (bytes : Bytes) : Option Unit := do
  let value ← stripLower (ascii "\r\ntransfer-encoding:") bytes
  let rest ← stripLower (ascii "chunked") (value.dropWhile isSpace)
  if endsField rest then some () else none

/-- `/\r\ncontent-length:\s*(\d+)/i` -/
def contentLength (bytes : Bytes) : Option ℕ := do
  let value ← stripLower (ascii "\r\ncontent-length:") bytes
  let digits := (value.dropWhile isSpace).takeWhile isDigit
  if digits = [] then none else some (decimalOf digits)

/-! ### The state -/

inductive WireState
  | header | fixed | size | data | dataCrlf | trailer
  deriving DecidableEq

namespace WireState

def isBody (state : WireState) : Bool := state = fixed ∨ state = data

/-- The states in which a header or a line is read. -/
def isLine (state : WireState) : Bool := state = header ∨ state = size ∨ state = trailer

def marker (state : WireState) : Bytes := if state = header then crlf ++ crlf else crlf

def limit (state : WireState) : ℕ := if state = size then 256 else 16384

/-- Outside of a body nothing needs to be remaining. -/
theorem noBody {state : WireState} {remaining : ℕ} (h : state.isBody = false)
    (hbody : state.isBody = true) : 0 < remaining :=
  absurd (h.symm.trans hbody) Bool.false_ne_true

end WireState

/-- Only an unfinished line is pending; a body has bytes remaining; the line end behind a chunk of
a body has been read by half at most. -/
structure WireRequestBoundary where
  state : WireState := .header
  pending : Bytes := []
  remaining : ℕ := 0
  crlfIndex : ℕ := 0
  completed : Bool := false
  unfinished : if state.isLine then pending.length ≤ state.limit ∧
    indexOf state.marker pending = none else pending = []
  remaining_pos : state.isBody = true → 0 < remaining
  crlfIndex_eq : crlfIndex = 0 ∨ (state = .dataCrlf ∧ crlfIndex = 1)

namespace WireRequestBoundary

theorem indexOf_marker_nil (state : WireState) : indexOf state.marker [] = none := by
  cases state <;> rfl

/-- Nothing is pending in the state. -/
theorem unfinished_nil (state : WireState) :
    if state.isLine then ([] : Bytes).length ≤ state.limit ∧ indexOf state.marker [] = none
      else ([] : Bytes) = [] := by
  split_ifs
  · exact ⟨Nat.zero_le _, indexOf_marker_nil state⟩
  · rfl

def fresh : WireRequestBoundary where
  unfinished := unfinished_nil .header
  remaining_pos := nofun
  crlfIndex_eq := .inl rfl

/-- The boundary enters a state. -/
def enter (boundary : WireRequestBoundary) (state : WireState) (remaining : ℕ)
    (hremaining : state.isBody = true → 0 < remaining) : WireRequestBoundary where
  state := state
  remaining := remaining
  completed := boundary.completed
  unfinished := unfinished_nil state
  remaining_pos := hremaining
  crlfIndex_eq := .inl rfl

/-- `finish`: a request is complete. -/
def finish (remaining : ℕ) : WireRequestBoundary where
  remaining := remaining
  completed := true
  unfinished := unfinished_nil .header
  remaining_pos := nofun
  crlfIndex_eq := .inl rfl

/-- Bytes of a body. -/
def consume (boundary : WireRequestBoundary) (consumed : ℕ) : WireRequestBoundary :=
  if h : boundary.remaining - consumed = 0 then
    if boundary.state = .fixed then finish 0 else boundary.enter .dataCrlf 0 nofun
  else boundary.enter boundary.state (boundary.remaining - consumed) fun _ ↦ by omega

/-- A byte of the line end behind a chunk. -/
def acceptCrlf (boundary : WireRequestBoundary) (byte : UInt8) :
    Except String WireRequestBoundary :=
  if byte ≠ (if boundary.crlfIndex = 0 then 13 else 10) then .error "invalid_chunk_framing"
  else if boundary.crlfIndex = 0 then
    .ok { boundary.enter .dataCrlf boundary.remaining nofun with
      crlfIndex := 1
      crlfIndex_eq := .inr ⟨rfl, rfl⟩ }
  else .ok (boundary.enter .size boundary.remaining nofun)

/-- The end of a header. -/
def endHeader (boundary : WireRequestBoundary) (line : Bytes) :
    Except String WireRequestBoundary :=
  if isRequestLine line = false then .error "invalid_wire_header"
  else if (search chunkedCoding line).isSome then
    .ok (boundary.enter .size boundary.remaining nofun)
  else
    let remaining := ((search contentLength line).map (·.2)).getD 0
    if maxSafeInteger < remaining then .error "invalid_wire_length"
    else if h : remaining = 0 then .ok (finish 0)
    else .ok (boundary.enter .fixed remaining fun _ ↦ by omega)

/-- The end of the line that says how long a chunk is. -/
def endSize (boundary : WireRequestBoundary) (line : Bytes) : Except String WireRequestBoundary :=
  let sizeText := trim (line.takeWhile (· ≠ 59))
  if sizeText = [] ∨ sizeText.all isHexDigit = false then .error "invalid_chunk_size"
  else
    let remaining := hexOf sizeText
    if maxSafeInteger < remaining then .error "invalid_chunk_size"
    else if h : remaining = 0 then .ok (boundary.enter .trailer 0 nofun)
    else .ok (boundary.enter .data remaining fun _ ↦ by omega)

def endLine (boundary : WireRequestBoundary) (line : Bytes) : Except String WireRequestBoundary :=
  if boundary.state = .header then boundary.endHeader line
  else if boundary.state = .size then boundary.endSize line
  else if line = [] then .ok (finish boundary.remaining)
  else .ok (boundary.enter .trailer boundary.remaining nofun)

/-- A line is kept that does not end in the chunk. -/
def keep (boundary : WireRequestBoundary) (pending : Bytes)
    (hline : boundary.state.isLine = true) (hlength : pending.length ≤ boundary.state.limit)
    (hnone : indexOf boundary.state.marker pending = none) : WireRequestBoundary :=
  { boundary with
    pending := pending
    unfinished := by
      rw [if_pos hline]
      exact ⟨hlength, hnone⟩ }

/-- The loop of `feed`. -/
def feedLoop (boundary : WireRequestBoundary) (chunk : Bytes) :
    Except String WireRequestBoundary :=
  if hchunk : chunk = [] then .ok boundary
  else if hbody : boundary.state.isBody then
    let consumed := min boundary.remaining chunk.length
    (boundary.consume consumed).feedLoop (chunk.drop consumed)
  else if hline : boundary.state.isLine = false then do
    let next ← boundary.acceptCrlf (chunk.head hchunk)
    next.feedLoop chunk.tail
  else if hlimit : boundary.state.limit ≤ boundary.pending.length then
    .error "oversize_wire_header"
  else
    let copied := min chunk.length (boundary.state.limit - boundary.pending.length)
    let pending := boundary.pending ++ chunk.take copied
    match hend : indexOf boundary.state.marker pending with
    | none =>
        if copied < chunk.length then .error "oversize_wire_header"
        else .ok (boundary.keep pending (by simpa using hline)
          (by simp only [pending, List.length_append, List.length_take, copied]; omega) hend)
    | some length => do
        let next ← boundary.endLine (pending.take length)
        next.feedLoop
          (chunk.drop (length + boundary.state.marker.length - boundary.pending.length))
termination_by chunk.length
decreasing_by
  · have hpos := boundary.remaining_pos hbody
    have hlength := List.length_pos_iff.mpr hchunk
    rw [List.length_drop]
    omega
  · have hlength := List.length_pos_iff.mpr hchunk
    rw [List.length_tail]
    omega
  · have hnone := boundary.unfinished
    rw [if_pos (by simpa using hline)] at hnone
    have hlt := lt_of_indexOf_append hnone.2 hend
    have hlength := List.length_pos_iff.mpr hchunk
    rw [List.length_drop]
    omega

/-- A header has begun behind a complete request. -/
def hasPartialHeader (boundary : WireRequestBoundary) : Bool :=
  boundary.completed ∧ boundary.state = .header ∧ 0 < boundary.pending.length

def feed (boundary : WireRequestBoundary) (chunk : Bytes) :
    Except String (Bool × WireRequestBoundary) := do
  let boundary ← boundary.feedLoop chunk
  .ok (boundary.hasPartialHeader, boundary)

/-- The chunks of a connection, in their order. -/
def feedChunks (boundary : WireRequestBoundary) (chunks : List Bytes) :
    Except String WireRequestBoundary :=
  chunks.foldlM (fun boundary chunk ↦ (·.2) <$> boundary.feed chunk) boundary

/-! ### One round of the loop -/

section

variable {boundary : WireRequestBoundary} {chunk : Bytes}

@[simp] theorem feedLoop_nil (boundary : WireRequestBoundary) :
    boundary.feedLoop [] = .ok boundary := by
  rw [feedLoop, dif_pos rfl]

theorem feedLoop_body (hbody : boundary.state.isBody = true) (hchunk : chunk ≠ []) :
    boundary.feedLoop chunk = (boundary.consume (min boundary.remaining chunk.length)).feedLoop
      (chunk.drop (min boundary.remaining chunk.length)) := by
  rw [feedLoop, dif_neg hchunk, dif_pos hbody]

theorem isLine_of_isBody (hbody : boundary.state.isBody = true) : boundary.state.isLine = false := by
  cases hstate : boundary.state <;> rw [hstate] at hbody <;> first | rfl | cases hbody

theorem feedLoop_crlf {byte : UInt8} (hstate : boundary.state = .dataCrlf) :
    boundary.feedLoop (byte :: chunk) =
      boundary.acceptCrlf byte >>= fun next ↦ next.feedLoop chunk := by
  rw [feedLoop, dif_neg (List.cons_ne_nil _ _), dif_neg (by simp [hstate, WireState.isBody]),
    dif_pos (by simp [hstate, WireState.isLine])]
  rfl

theorem pending_of_isLine (hline : boundary.state.isLine = true) :
    boundary.pending.length ≤ boundary.state.limit ∧
      indexOf boundary.state.marker boundary.pending = none := by
  have hunfinished := boundary.unfinished
  rwa [if_pos hline] at hunfinished

theorem not_isBody_of_isLine (hline : boundary.state.isLine = true) :
    ¬boundary.state.isBody = true := by
  intro hbody
  rw [isLine_of_isBody hbody] at hline
  cases hline

/-- The line does not end in the chunk, and there is room for it. -/
theorem feedLoop_keep (hline : boundary.state.isLine = true)
    (hlength : (boundary.pending ++ chunk).length ≤ boundary.state.limit)
    (hnone : indexOf boundary.state.marker (boundary.pending ++ chunk) = none) :
    boundary.feedLoop chunk = .ok (boundary.keep (boundary.pending ++ chunk) hline hlength hnone) := by
  rw [List.length_append] at hlength
  by_cases hchunk : chunk = []
  · subst hchunk
    rw [feedLoop_nil]
    simp [keep]
  · have hpos := List.length_pos_iff.mpr hchunk
    rw [feedLoop, dif_neg hchunk, dif_neg (not_isBody_of_isLine hline), dif_neg (by simp [hline]),
      dif_neg (by omega)]
    have htake : chunk.take (min chunk.length (boundary.state.limit - boundary.pending.length)) =
        chunk := List.take_of_length_le (by omega)
    simp only [htake]
    split
    · rw [if_neg (by omega)]
    · rename_i hend
      rw [htake, hnone] at hend
      cases hend

/-- There is no room for the line. -/
theorem feedLoop_overflow (hline : boundary.state.isLine = true)
    (hlength : boundary.state.limit < (boundary.pending ++ chunk).length)
    (hnone : indexOf boundary.state.marker
      ((boundary.pending ++ chunk).take boundary.state.limit) = none) :
    boundary.feedLoop chunk = .error "oversize_wire_header" := by
  have hle := (pending_of_isLine hline).1
  rw [List.length_append] at hlength
  have hchunk : chunk ≠ [] := by
    rintro rfl
    simp at hlength
    omega
  rw [feedLoop, dif_neg hchunk, dif_neg (not_isBody_of_isLine hline), dif_neg (by simp [hline])]
  split_ifs with hlimit
  · rfl
  · have hmin : min chunk.length (boundary.state.limit - boundary.pending.length) =
        boundary.state.limit - boundary.pending.length := by omega
    have htake : boundary.pending ++
        chunk.take (boundary.state.limit - boundary.pending.length) =
          (boundary.pending ++ chunk).take boundary.state.limit := by
      rw [List.take_append, List.take_of_length_le hle]
    simp only [hmin, htake]
    split
    · rw [if_pos (by omega)]
    · rename_i hend
      rw [hmin, htake, hnone] at hend
      cases hend

/-- The line ends in the chunk. -/
theorem feedLoop_line {length : ℕ} (hline : boundary.state.isLine = true)
    (hend : indexOf boundary.state.marker (boundary.pending ++ chunk) = some length)
    (hlength : length + boundary.state.marker.length ≤ boundary.state.limit) :
    boundary.feedLoop chunk =
      boundary.endLine ((boundary.pending ++ chunk).take length) >>= fun next ↦ next.feedLoop
        (chunk.drop (length + boundary.state.marker.length - boundary.pending.length)) := by
  have hnone := (pending_of_isLine hline).2
  have hlt := lt_of_indexOf_append hnone hend
  have hle := length_of_indexOf hend
  rw [List.length_append] at hle
  have hchunk : chunk ≠ [] := by
    rintro rfl
    simp at hle
    omega
  have hpending := (pending_of_isLine hline).1
  have htake : boundary.pending ++ chunk.take
      (min chunk.length (boundary.state.limit - boundary.pending.length)) =
        (boundary.pending ++ chunk).take boundary.state.limit := by
    rw [List.take_append, List.take_of_length_le hpending]
    congr 1
    rw [List.take_eq_take_iff]
    omega
  have hfound := indexOf_take hend hlength
  rw [feedLoop, dif_neg hchunk, dif_neg (not_isBody_of_isLine hline), dif_neg (by simp [hline]),
    dif_neg (by omega)]
  simp only [htake]
  split
  · rename_i hmissing
    rw [htake, hfound] at hmissing
    cases hmissing
  · rename_i length' hfound'
    rw [htake, hfound] at hfound'
    obtain rfl := Option.some.inj hfound'
    rw [List.take_take, Nat.min_eq_left (by omega)]

end

end WireRequestBoundary

end Dona.ResultPublish
