import Dona.ResultPublish.WireChunks

/-!
# Requests on the wire

The requests that a worker may send, in the grammar of HTTP, and how the framing follows them: it
accepts every sequence of them, and knows where the last complete one ends.
-/

namespace Dona.ResultPublish

open WireState (noBody)

/-! ### The grammar -/

/-- `tchar` -/
def isTokenByte (byte : UInt8) : Bool :=
  isDigit byte ∨ (97 ≤ lower byte ∧ lower byte ≤ 122) ∨ (ascii "!#$%&'*+-.^_`|~").contains byte

/-- A byte of `OWS`. -/
def isBlankByte (byte : UInt8) : Bool := byte = 32 ∨ byte = 9

structure HeaderField where
  name : Bytes
  value : Bytes
  name_ne : name ≠ []
  name_token : ∀ byte ∈ name, isTokenByte byte = true
  value_text : ∀ byte ∈ value, byte = 9 ∨ (32 ≤ byte ∧ byte ≠ 127)

namespace HeaderField

/-- The field, behind the end of the line before it. -/
def bytes (field : HeaderField) : Bytes := crlf ++ (field.name ++ 58 :: field.value)

def Named (field : HeaderField) (name : String) : Prop := field.name.map lower = ascii name

/-- The value, without the blanks around it. -/
def Holds (field : HeaderField) (content : Bytes) : Prop :=
  ∃ before after, field.value = before ++ content ++ after ∧
    (∀ byte ∈ before, isBlankByte byte = true) ∧ ∀ byte ∈ after, isBlankByte byte = true

end HeaderField

structure RequestHead where
  method : Bytes
  target : Bytes
  version : Bytes
  fields : List HeaderField
  method_mem : method ∈ methods
  target_ne : target ≠ []
  target_visible : ∀ byte ∈ target, 33 ≤ byte ∧ byte ≤ 126
  version_mem : version ∈ [ascii "HTTP/1.0", ascii "HTTP/1.1"]

namespace RequestHead

def requestLine (head : RequestHead) : Bytes :=
  head.method ++ ascii " " ++ (head.target ++ (ascii " " ++ head.version))

/-- The lines of the head, without the two line ends behind them. -/
def lines (head : RequestHead) : Bytes :=
  head.requestLine ++ head.fields.flatMap HeaderField.bytes

def bytes (head : RequestHead) : Bytes := head.lines ++ (crlf ++ crlf)

/-- The body has the length that `Content-Length` says. -/
structure HasLength (head : RequestHead) (length : ℕ) : Prop where
  no_coding : ∀ field ∈ head.fields, ¬field.Named "transfer-encoding"
  exists_length : ∃ field ∈ head.fields, field.Named "content-length"
  length_eq : ∀ field ∈ head.fields, field.Named "content-length" → ∃ digits,
    field.Holds digits ∧ digits ≠ [] ∧ (∀ digit ∈ digits, isDigit digit = true) ∧
      decimalOf digits = length
  safe : length ≤ maxSafeInteger

/-- The body comes in chunks. -/
structure IsChunked (head : RequestHead) : Prop where
  exists_coding : ∃ field ∈ head.fields, field.Named "transfer-encoding"
  coding_eq : ∀ field ∈ head.fields, field.Named "transfer-encoding" → ∃ coding,
    field.Holds coding ∧ coding.map lower = ascii "chunked"

end RequestHead

/-- The line before a chunk: its length, and extensions that have no meaning here. -/
structure SizeLine (length : ℕ) where
  digits : Bytes
  blanks : Bytes
  extension : Bytes
  digits_ne : digits ≠ []
  digits_hex : ∀ digit ∈ digits, isHexDigit digit = true
  digits_eq : hexOf digits = length
  blanks_blank : ∀ byte ∈ blanks, isBlankByte byte = true
  extension_text : ∀ byte ∈ extension, byte ≠ 13
  extension_head : extension = [] ∨ extension.head? = some 59
  length_le : (digits ++ blanks ++ extension).length + 2 ≤ 256

def SizeLine.text {length : ℕ} (line : SizeLine length) : Bytes :=
  line.digits ++ line.blanks ++ line.extension

structure BodyChunk where
  content : Bytes
  content_ne : content ≠ []
  safe : content.length ≤ maxSafeInteger
  size : SizeLine content.length

def BodyChunk.bytes (chunk : BodyChunk) : Bytes :=
  chunk.size.text ++ crlf ++ (chunk.content ++ crlf)

structure TrailerLine where
  text : Bytes
  text_ne : text ≠ []
  no_end : ∀ byte ∈ text, byte ≠ 13
  length_le : text.length + 2 ≤ 16384

inductive RequestBody (head : RequestHead)
  | fixed (content : Bytes) (hlength : head.HasLength content.length)
  | chunked (chunks : List BodyChunk) (last : SizeLine 0) (trailers : List TrailerLine)
      (hchunked : head.IsChunked)

def RequestBody.bytes {head : RequestHead} : RequestBody head → Bytes
  | fixed content _ => content
  | chunked chunks last trailers _ => chunks.flatMap BodyChunk.bytes ++
      (last.text ++ crlf ++ (trailers.flatMap (fun trailer ↦ trailer.text ++ crlf) ++ crlf))

/-- A request within the limits of the framing. -/
structure Request where
  head : RequestHead
  body : RequestBody head
  length_le : head.bytes.length ≤ 16384

def Request.bytes (request : Request) : Bytes := request.head.bytes ++ request.body.bytes

/-! ### Patterns in a head -/

theorem forall_byte {p : UInt8 → Prop} (h : ∀ n : Fin 256, p (.ofFin n)) (byte : UInt8) : p byte :=
  h byte.toFin

/-- What the classes of bytes have to do with each other, by looking at every byte. -/
theorem byte_classes : ∀ byte : UInt8,
    (lower byte = 13 → byte = 13) ∧ (lower byte = 99 → isSpace byte = false) ∧
    (isTokenByte byte = true → byte ≠ 13 ∧ byte ≠ 58 ∧ lower byte ≠ 58) ∧
    (isBlankByte byte = true →
      isSpace byte = true ∧ isDigit byte = false ∧ byte ≠ 13 ∧ byte ≠ 59) ∧
    (isDigit byte = true → isSpace byte = false) ∧
    (isHexDigit byte = true → isSpace byte = false ∧ byte ≠ 13 ∧ byte ≠ 59) ∧
    (33 ≤ byte ∧ byte ≤ 126 → isSpace byte = false ∧ byte ≠ 13) := by
  apply forall_byte
  decide +kernel

theorem lower_eq_thirteen (byte : UInt8) : lower byte = 13 → byte = 13 :=
  (byte_classes byte).1

theorem lower_eq_c (byte : UInt8) : lower byte = 99 → isSpace byte = false :=
  (byte_classes byte).2.1

theorem token_spec (byte : UInt8) : isTokenByte byte = true →
    byte ≠ 13 ∧ byte ≠ 58 ∧ lower byte ≠ 58 :=
  (byte_classes byte).2.2.1

theorem blank_spec (byte : UInt8) : isBlankByte byte = true →
    isSpace byte = true ∧ isDigit byte = false ∧ byte ≠ 13 ∧ byte ≠ 59 :=
  (byte_classes byte).2.2.2.1

theorem digit_spec (byte : UInt8) : isDigit byte = true → isSpace byte = false :=
  (byte_classes byte).2.2.2.2.1

theorem hexDigit_spec (byte : UInt8) : isHexDigit byte = true →
    isSpace byte = false ∧ byte ≠ 13 ∧ byte ≠ 59 :=
  (byte_classes byte).2.2.2.2.2.1

theorem visible_spec (byte : UInt8) : 33 ≤ byte ∧ byte ≤ 126 →
    isSpace byte = false ∧ byte ≠ 13 :=
  (byte_classes byte).2.2.2.2.2.2

/-! ### Patterns in a head -/

section

variable {β : Type} {pattern : Bytes → Option β}

/-- The pattern begins with the end of a line. -/
def BeginsLine (pattern : Bytes → Option β) : Prop :=
  ∀ byte bytes, byte ≠ 13 → pattern (byte :: bytes) = none

/-- A text without line ends holds no match. -/
theorem search_text (hpattern : BeginsLine pattern) {text : Bytes} (htext : ∀ byte ∈ text, byte ≠ 13)
    (rest : Bytes) :
    search pattern (text ++ rest) =
      (search pattern rest).map fun entry ↦ (entry.1 + text.length, entry.2) := by
  apply search_append
  intro i hi
  rw [List.drop_eq_getElem_cons hi, List.cons_append]
  exact hpattern _ _ (htext _ (List.getElem_mem hi))

theorem HeaderField.no_end (field : HeaderField) :
    ∀ byte ∈ 10 :: (field.name ++ 58 :: field.value), byte ≠ 13 := by
  intro byte hbyte
  simp only [List.mem_cons, List.mem_append] at hbyte
  rcases hbyte with rfl | hname | rfl | hvalue
  · decide
  · exact (token_spec byte (field.name_token byte hname)).1
  · decide
  · rintro rfl
    rcases field.value_text 13 hvalue with htab | hvisible
    · cases htab
    · exact absurd hvisible.1 (by decide)

/-- A field at whose beginning there is no match holds none. -/
theorem search_field (hpattern : BeginsLine pattern) (field : HeaderField) {rest : Bytes}
    (hfield : pattern (field.bytes ++ rest) = none) :
    search pattern (field.bytes ++ rest) =
      (search pattern rest).map fun entry ↦ (entry.1 + field.bytes.length, entry.2) := by
  have hcons : field.bytes ++ rest = 13 :: (10 :: (field.name ++ 58 :: field.value) ++ rest) := by
    simp [HeaderField.bytes, crlf]
  rw [hcons] at hfield ⊢
  rw [search, hfield]
  simp only [search_text hpattern field.no_end, Option.map_map]
  congr 1

/-- Fields at whose beginnings there is no match hold none. -/
theorem search_fields (hpattern : BeginsLine pattern) (fields : List HeaderField)
    (hfields : ∀ field ∈ fields, ∀ rest, pattern (field.bytes ++ rest) = none) (rest : Bytes) :
    search pattern (fields.flatMap HeaderField.bytes ++ rest) =
      (search pattern rest).map fun entry ↦
        (entry.1 + (fields.flatMap HeaderField.bytes).length, entry.2) := by
  induction fields with
  | nil => simp
  | cons field fields ih =>
      rw [List.flatMap_cons, List.append_assoc,
        search_field hpattern field (hfields field List.mem_cons_self _),
        ih fun other hother ↦ hfields other (List.mem_cons_of_mem _ hother), Option.map_map]
      congr 1
      funext entry
      simp
      omega

end

/-- What follows a field in a head: nothing, or the end of its line. -/
def Follows (rest : Bytes) : Prop := rest = [] ∨ crlf <+: rest

theorem follows_fields (fields : List HeaderField) :
    Follows (fields.flatMap HeaderField.bytes) := by
  cases fields with
  | nil => exact .inl rfl
  | cons field fields =>
      refine .inr ?_
      rw [List.flatMap_cons, HeaderField.bytes, List.append_assoc, List.append_assoc]
      exact List.prefix_append _ _

/-- A pattern that matches the fields of one name, all alike. -/
theorem search_named {β : Type} {pattern : Bytes → Option β} (hpattern : BeginsLine pattern)
    (name : String) {found : β} {fields : List HeaderField}
    (hother : ∀ field ∈ fields, ¬field.Named name → ∀ rest, pattern (field.bytes ++ rest) = none)
    (hnamed : ∀ field ∈ fields, field.Named name → ∀ rest, Follows rest →
      pattern (field.bytes ++ rest) = some found)
    (hexists : ∃ field ∈ fields, field.Named name) :
    (search pattern (fields.flatMap HeaderField.bytes)).map (·.2) = some found := by
  induction fields with
  | nil =>
      obtain ⟨field, hfield, -⟩ := hexists
      cases hfield
  | cons field fields ih =>
      rw [List.flatMap_cons]
      by_cases hname : field.Named name
      · have hmatch := hnamed field List.mem_cons_self hname _ (follows_fields fields)
        have hsearch : search pattern (field.bytes ++ fields.flatMap HeaderField.bytes) =
            some (0, found) :=
          search_eq_some.mpr ⟨Nat.zero_le _, hmatch, by omega⟩
        rw [hsearch]
        rfl
      · have hnone := hother field List.mem_cons_self hname (fields.flatMap HeaderField.bytes)
        have hrest : ∃ other ∈ fields, other.Named name := by
          obtain ⟨other, hmem, hothername⟩ := hexists
          rcases List.mem_cons.mp hmem with rfl | hmem
          · exact absurd hothername hname
          · exact ⟨other, hmem, hothername⟩
        rw [search_field hpattern field hnone, Option.map_map]
        exact ih (fun other h ↦ hother other (List.mem_cons_of_mem _ h))
          (fun other h ↦ hnamed other (List.mem_cons_of_mem _ h)) hrest

/-! ### The fields that frame a body -/

theorem prefix_colon {name name' tail : Bytes} (hname : ∀ byte ∈ name, byte ≠ 58)
    (hname' : ∀ byte ∈ name', byte ≠ 58) :
    name ++ [58] <+: name' ++ 58 :: tail ↔ name' = name := by
  induction name generalizing name' with
  | nil =>
      cases name' with
      | nil => simp
      | cons byte name' =>
          have hne : byte ≠ 58 := hname' byte List.mem_cons_self
          simp [List.cons_prefix_cons, hne.symm]
  | cons byte name ih =>
      have hne : byte ≠ 58 := hname byte List.mem_cons_self
      cases name' with
      | nil => simp [List.cons_prefix_cons, hne]
      | cons byte' name' =>
          have hrest := @ih name' (fun b hb ↦ hname b (List.mem_cons_of_mem _ hb))
            fun b hb ↦ hname' b (List.mem_cons_of_mem _ hb)
          simp only [List.cons_append, List.cons_prefix_cons, hrest, List.cons.injEq]
          constructor
          · rintro ⟨rfl, rfl⟩
            exact ⟨rfl, rfl⟩
          · rintro ⟨rfl, rfl⟩
            exact ⟨rfl, rfl⟩

/-- The beginning of a field is stripped exactly from the fields of that name. -/
theorem stripLower_field (field : HeaderField) {name : Bytes} (hname : ∀ byte ∈ name, byte ≠ 58)
    (rest : Bytes) :
    stripLower (crlf ++ (name ++ [58])) (field.bytes ++ rest) =
      if field.name.map lower = name then some (field.value ++ rest) else none := by
  have hlower : (field.bytes ++ rest).map lower =
      crlf ++ (field.name.map lower ++ 58 :: (field.value ++ rest).map lower) := by
    simp [HeaderField.bytes, crlf, lower]
  have htoken : ∀ byte ∈ field.name.map lower, byte ≠ 58 := by
    intro byte hbyte
    obtain ⟨original, horiginal, rfl⟩ := List.mem_map.mp hbyte
    exact (token_spec original (field.name_token original horiginal)).2.2
  have hstart : (crlf ++ (name ++ [58])).isPrefixOf ((field.bytes ++ rest).map lower) = true ↔
      field.name.map lower = name := by
    rw [hlower, List.isPrefixOf_iff_prefix, List.prefix_append_right_inj,
      prefix_colon hname htoken]
  unfold stripLower strip
  by_cases hnamed : field.name.map lower = name
  · have hlength : field.name.length = name.length := by
      rw [← hnamed, List.length_map]
    rw [if_pos (hstart.mpr hnamed), if_pos hnamed]
    have hbytes : field.bytes ++ rest = (crlf ++ (field.name ++ [58])) ++ (field.value ++ rest) := by
      simp [HeaderField.bytes]
    rw [Option.map_some, hbytes]
    congr 1
    apply List.drop_left'
    simp [hlength]
  · rw [if_neg (fun h ↦ hnamed (hstart.mp h)), if_neg hnamed]
    rfl

/-- Blanks before a value are passed over. -/
theorem dropWhile_blanks {blanks rest : Bytes} (hblanks : ∀ byte ∈ blanks, isBlankByte byte = true)
    (hrest : rest.dropWhile isSpace = rest) : (blanks ++ rest).dropWhile isSpace = rest := by
  induction blanks with
  | nil => exact hrest
  | cons byte blanks ih =>
      have hspace := (blank_spec byte (hblanks byte List.mem_cons_self)).1
      rw [List.cons_append, List.dropWhile_cons, if_pos hspace]
      exact ih fun b hb ↦ hblanks b (List.mem_cons_of_mem _ hb)

set_option maxRecDepth 4000 in
theorem transferEncoding_eq : ascii "\r\ntransfer-encoding:" =
    crlf ++ (ascii "transfer-encoding" ++ [58]) := by decide

set_option maxRecDepth 4000 in
theorem transferEncoding_no_colon : ∀ byte ∈ ascii "transfer-encoding", byte ≠ 58 := by decide

set_option maxRecDepth 4000 in
theorem contentLength_eq : ascii "\r\ncontent-length:" =
    crlf ++ (ascii "content-length" ++ [58]) := by decide

set_option maxRecDepth 4000 in
theorem contentLength_no_colon : ∀ byte ∈ ascii "content-length", byte ≠ 58 := by decide

theorem stripLower_nil {text : Bytes} (htext : text ≠ []) : stripLower text [] = none := by
  obtain ⟨byte, text, rfl⟩ := List.exists_cons_of_ne_nil htext
  rfl

theorem stripLower_cons_of_ne {byte : UInt8} {text bytes : Bytes} (hbyte : byte ≠ 13) :
    stripLower (crlf ++ text) (byte :: bytes) = none := by
  have hlower : ¬lower byte = 13 := fun h ↦ hbyte (lower_eq_thirteen byte h)
  unfold stripLower strip
  rw [if_neg]
  · rfl
  · simp only [crlf, List.cons_append, List.map_cons, List.isPrefixOf_iff_prefix,
      List.cons_prefix_cons, not_and]
    exact fun h ↦ absurd h.symm hlower

theorem beginsLine_chunkedCoding : BeginsLine chunkedCoding := by
  intro byte bytes hbyte
  rw [chunkedCoding, transferEncoding_eq, stripLower_cons_of_ne hbyte]
  rfl

theorem beginsLine_contentLength : BeginsLine contentLength := by
  intro byte bytes hbyte
  rw [contentLength, contentLength_eq, stripLower_cons_of_ne hbyte]
  rfl

theorem chunkedCoding_of_other {field : HeaderField} (h : ¬field.Named "transfer-encoding")
    (rest : Bytes) : chunkedCoding (field.bytes ++ rest) = none := by
  unfold HeaderField.Named at h
  rw [chunkedCoding, transferEncoding_eq, stripLower_field field transferEncoding_no_colon, if_neg h]
  rfl

theorem contentLength_of_other {field : HeaderField} (h : ¬field.Named "content-length")
    (rest : Bytes) : contentLength (field.bytes ++ rest) = none := by
  unfold HeaderField.Named at h
  rw [contentLength, contentLength_eq, stripLower_field field contentLength_no_colon, if_neg h]
  rfl

theorem takeWhile_append_of_stop {p : UInt8 → Bool} {xs rest : Bytes} (hxs : ∀ x ∈ xs, p x = true)
    (hrest : rest.takeWhile p = []) : (xs ++ rest).takeWhile p = xs := by
  rw [List.takeWhile_append_of_pos hxs, hrest, List.append_nil]

/-- No digit follows a value, with the blanks behind it. -/
theorem takeWhile_isDigit_after {after rest : Bytes}
    (hafter : ∀ byte ∈ after, isBlankByte byte = true) (hrest : Follows rest) :
    (after ++ rest).takeWhile isDigit = [] := by
  cases after with
  | nil =>
      rcases hrest with rfl | ⟨tail, rfl⟩
      · rfl
      · rfl
  | cons byte after =>
      have hdigit := (blank_spec byte (hafter byte List.mem_cons_self)).2.1
      rw [List.cons_append, List.takeWhile_cons, hdigit]
      rfl

theorem contentLength_of_named {field : HeaderField} (h : field.Named "content-length")
    {digits rest : Bytes} (hholds : field.Holds digits) (hne : digits ≠ [])
    (hdigits : ∀ digit ∈ digits, isDigit digit = true) (hrest : Follows rest) :
    contentLength (field.bytes ++ rest) = some (decimalOf digits) := by
  obtain ⟨before, after, hvalue, hbefore, hafter⟩ := hholds
  unfold HeaderField.Named at h
  rw [contentLength, contentLength_eq, stripLower_field field contentLength_no_colon, if_pos h]
  have hdrop : (field.value ++ rest).dropWhile isSpace = digits ++ (after ++ rest) := by
    rw [hvalue, List.append_assoc, List.append_assoc]
    apply dropWhile_blanks hbefore
    obtain ⟨digit, digits, rfl⟩ := List.exists_cons_of_ne_nil hne
    have hspace := digit_spec digit (hdigits digit List.mem_cons_self)
    rw [List.cons_append, List.dropWhile_cons, hspace]
    rfl
  have htake : (digits ++ (after ++ rest)).takeWhile isDigit = digits :=
    takeWhile_append_of_stop hdigits (takeWhile_isDigit_after hafter hrest)
  simp only [Option.bind_eq_bind, Option.bind_some, hdrop, htake, if_neg hne]

/-- The line ends behind a value and its blanks. -/
theorem endsField_after {after rest : Bytes} (hafter : ∀ byte ∈ after, isBlankByte byte = true)
    (hrest : Follows rest) : endsField (after ++ rest) = true := by
  have hspaces : ∀ byte ∈ after, isSpace byte = true :=
    fun byte hbyte ↦ (blank_spec byte (hafter byte hbyte)).1
  have hlength : after.length < ((after ++ rest).takeWhile isSpace).length + 1 := by
    rw [List.takeWhile_append_of_pos hspaces, List.length_append]
    omega
  refine List.any_eq_true.mpr ⟨after.length, List.mem_range.mpr hlength, ?_⟩
  rw [List.drop_left]
  rcases hrest with rfl | hcrlf
  · simp
  · simp [List.isPrefixOf_iff_prefix.mpr hcrlf]

theorem chunkedCoding_of_named {field : HeaderField} (h : field.Named "transfer-encoding")
    {coding rest : Bytes} (hholds : field.Holds coding) (hcoding : coding.map lower = ascii "chunked")
    (hrest : Follows rest) : chunkedCoding (field.bytes ++ rest) = some () := by
  obtain ⟨before, after, hvalue, hbefore, hafter⟩ := hholds
  unfold HeaderField.Named at h
  rw [chunkedCoding, transferEncoding_eq, stripLower_field field transferEncoding_no_colon, if_pos h]
  have hdrop : (field.value ++ rest).dropWhile isSpace = coding ++ (after ++ rest) := by
    rw [hvalue, List.append_assoc, List.append_assoc]
    apply dropWhile_blanks hbefore
    cases coding with
    | nil => cases hcoding
    | cons byte coding =>
        have hfirst : lower byte = 99 := (List.cons.inj hcoding).1
        rw [List.cons_append, List.dropWhile_cons, lower_eq_c byte hfirst]
        rfl
  have hstrip : stripLower (ascii "chunked") (coding ++ (after ++ rest)) = some (after ++ rest) := by
    have hstart : (ascii "chunked").isPrefixOf ((coding ++ (after ++ rest)).map lower) = true := by
      rw [List.map_append, hcoding, List.isPrefixOf_iff_prefix]
      exact List.prefix_append _ _
    have hlength : (ascii "chunked").length = coding.length := by
      rw [← hcoding, List.length_map]
    unfold stripLower strip
    rw [if_pos hstart, Option.map_some, hlength, List.drop_left]
  simp only [Option.bind_eq_bind, Option.bind_some, hdrop, hstrip,
    if_pos (endsField_after hafter hrest)]

/-! ### Heads -/

namespace RequestHead

variable {head : RequestHead}

set_option maxRecDepth 4000 in
theorem requestLine_no_end (head : RequestHead) : ∀ byte ∈ head.requestLine, byte ≠ 13 := by
  have hmethods : ∀ method ∈ methods, ∀ byte ∈ method, byte ≠ 13 := by decide
  have hversions : ∀ version ∈ [ascii "HTTP/1.0", ascii "HTTP/1.1"], ∀ byte ∈ version,
      byte ≠ 13 := by decide
  have hspace : ∀ byte ∈ ascii " ", byte ≠ 13 := by decide
  intro byte hbyte
  simp only [requestLine, List.mem_append] at hbyte
  rcases hbyte with (hmethod | hblank) | htarget | hblank | hversion
  · exact hmethods _ head.method_mem byte hmethod
  · exact hspace byte hblank
  · exact (visible_spec byte (head.target_visible byte htarget)).2
  · exact hspace byte hblank
  · exact hversions _ head.version_mem byte hversion

theorem crlf_prefix_fields {fields : List HeaderField} (hfields : fields ≠ []) :
    crlf <+: fields.flatMap HeaderField.bytes := by
  rcases follows_fields fields with hnil | hstart
  · obtain ⟨field, rest, rfl⟩ := List.exists_cons_of_ne_nil hfields
    simp [HeaderField.bytes, crlf] at hnil
  · exact hstart

/-- The request line of a head is one. -/
theorem isRequestLine_lines (hfields : head.fields ≠ []) : isRequestLine head.lines = true := by
  obtain ⟨tail, htail⟩ := crlf_prefix_fields hfields
  have hlines : head.lines = head.method ++ ascii " " ++
      (head.target ++ (ascii " " ++ head.version ++ crlf ++ tail)) := by
    rw [lines, ← htail, requestLine]
    simp only [List.append_assoc]
  have hstrip : strip (head.method ++ ascii " ") head.lines =
      some (head.target ++ (ascii " " ++ head.version ++ crlf ++ tail)) := by
    unfold strip
    rw [hlines, if_pos (List.isPrefixOf_iff_prefix.mpr (List.prefix_append _ _)), List.drop_left]
  have htarget : (head.target ++ (ascii " " ++ head.version ++ crlf ++ tail)).takeWhile
      (fun byte ↦ !isSpace byte) = head.target := by
    apply takeWhile_append_of_stop
    · intro byte hbyte
      rw [(visible_spec byte (head.target_visible byte hbyte)).1]
      rfl
    · rfl
  have hversion : ascii " " ++ head.version ++ crlf ∈
      [ascii " HTTP/1.0\r\n", ascii " HTTP/1.1\r\n"] := by
    have hmem := head.version_mem
    generalize head.version = version at hmem
    revert version
    decide
  refine List.any_eq_true.mpr ⟨head.method, head.method_mem, ?_⟩
  rw [hstrip, Option.any_some]
  simp only [htarget, List.drop_left]
  refine decide_eq_true ⟨head.target_ne, ?_⟩
  refine List.any_eq_true.mpr ⟨_, hversion, ?_⟩
  exact List.isPrefixOf_iff_prefix.mpr (List.prefix_append _ _)

/-- The two line ends behind a head are the first ones. -/
theorem indexOf_bytes (head : RequestHead) (rest : Bytes) :
    indexOf (crlf ++ crlf) (head.bytes ++ rest) = some head.lines.length := by
  have hbegins : BeginsLine fun bytes ↦
      if (crlf ++ crlf).isPrefixOf bytes then some () else none := by
    intro byte bytes hbyte
    simp [crlf, List.cons_prefix_cons, Ne.symm hbyte]
  have hfields : ∀ field ∈ head.fields, ∀ rest,
      (if (crlf ++ crlf).isPrefixOf (field.bytes ++ rest) then some () else none) = none := by
    intro field _ rest
    obtain ⟨byte, name, hname⟩ := List.exists_cons_of_ne_nil field.name_ne
    have hbyte : byte ≠ 13 :=
      (token_spec byte (field.name_token byte (hname ▸ List.mem_cons_self))).1
    rw [if_neg]
    simp [HeaderField.bytes, crlf, hname, List.cons_prefix_cons, Ne.symm hbyte]
  have hbytes : head.bytes ++ rest = head.requestLine ++
      (head.fields.flatMap HeaderField.bytes ++ (crlf ++ crlf ++ rest)) := by
    simp only [bytes, lines, List.append_assoc]
  have hend : search (fun bytes ↦ if (crlf ++ crlf).isPrefixOf bytes then some () else none)
      (crlf ++ crlf ++ rest) = some (0, ()) := by
    refine search_eq_some.mpr ⟨Nat.zero_le _, ?_, by omega⟩
    rw [List.drop_zero, if_pos (List.isPrefixOf_iff_prefix.mpr (List.prefix_append _ _))]
  unfold indexOf
  rw [hbytes, search_text hbegins head.requestLine_no_end, search_fields hbegins _ hfields, hend]
  simp only [Option.map_some, lines, List.length_append]
  congr 1
  omega

theorem search_lines {β : Type} {pattern : Bytes → Option β} (hpattern : BeginsLine pattern) :
    (search pattern head.lines).map (·.2) =
      (search pattern (head.fields.flatMap HeaderField.bytes)).map (·.2) := by
  rw [lines, search_text hpattern head.requestLine_no_end, Option.map_map]
  rfl

theorem isSome_of_map {α β : Type} {x : Option α} {f : α → β} {b : β} (h : x.map f = some b) :
    x.isSome = true := by
  cases x with
  | none => cases h
  | some a => rfl

/-- The end of a head whose body comes in chunks. -/
theorem endHeader_chunked (hchunked : head.IsChunked) (boundary : WireRequestBoundary) :
    boundary.endHeader head.lines =
      .ok (boundary.enter .size boundary.remaining (noBody rfl)) := by
  have hcoding : (search chunkedCoding head.lines).map (·.2) = some () := by
    rw [search_lines beginsLine_chunkedCoding]
    apply search_named beginsLine_chunkedCoding "transfer-encoding"
    · exact fun field _ hother rest ↦ chunkedCoding_of_other hother rest
    · intro field hfield hnamed rest hrest
      obtain ⟨coding, hholds, hcoding⟩ := hchunked.coding_eq field hfield hnamed
      exact chunkedCoding_of_named hnamed hholds hcoding hrest
    · exact hchunked.exists_coding
  obtain ⟨field, hfield, -⟩ := hchunked.exists_coding
  unfold WireRequestBoundary.endHeader
  rw [if_neg (by simp [isRequestLine_lines (List.ne_nil_of_mem hfield)]),
    if_pos (isSome_of_map hcoding)]

/-- The end of a head that says the length of its body. -/
theorem endHeader_fixed {length : ℕ} (hlength : head.HasLength length)
    (boundary : WireRequestBoundary) :
    boundary.endHeader head.lines = .ok (if h : length = 0 then .finish 0
      else boundary.enter .fixed length fun _ ↦ by omega) := by
  have hcoding : search chunkedCoding head.lines = none := by
    rw [← Option.map_eq_none_iff (f := Prod.snd), search_lines beginsLine_chunkedCoding]
    have hnone := search_fields beginsLine_chunkedCoding head.fields
      (fun field hfield rest ↦ chunkedCoding_of_other (hlength.no_coding field hfield) rest) []
    rw [List.append_nil] at hnone
    rw [hnone]
    rfl
  have hfound : (search contentLength head.lines).map (·.2) = some length := by
    rw [search_lines beginsLine_contentLength]
    apply search_named beginsLine_contentLength "content-length"
    · exact fun field _ hother rest ↦ contentLength_of_other hother rest
    · intro field hfield hnamed rest hrest
      obtain ⟨digits, hholds, hne, hdigits, rfl⟩ := hlength.length_eq field hfield hnamed
      exact contentLength_of_named hnamed hholds hne hdigits hrest
    · exact hlength.exists_length
  obtain ⟨field, hfield, -⟩ := hlength.exists_length
  have hsafe := hlength.safe
  unfold WireRequestBoundary.endHeader
  rw [if_neg (by simp [isRequestLine_lines (List.ne_nil_of_mem hfield)]), if_neg (by simp [hcoding])]
  simp only [hfound, Option.getD_some]
  rw [if_neg (by omega)]
  split_ifs <;> rfl

end RequestHead

end Dona.ResultPublish
