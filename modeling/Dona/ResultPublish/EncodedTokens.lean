import Dona.Library.TextLines

/-!
# Encoded tokens

The encodings in which a token of a published text is also looked for: base32, the digits of bytes
in base sixteen, and base64url. Bytes are read as ASCII or as UTF-8.
-/

namespace Dona.ResultPublish

/-! ### Bytes as text -/

/-- `buffer.toString("ascii")` -/
def asciiText (bytes : List UInt8) : Text := bytes.map fun byte ↦ .ofNat (byte.toNat % 128)

/-- The trailing bytes of one UTF-8 sequence: the first of them lies in a range of its own. -/
def trailingBytes : ℕ → UInt8 → UInt8 → ℕ → List UInt8 → Option (ℕ × List UInt8)
  | 0, _, _, value, bytes => some (value, bytes)
  | _ + 1, _, _, _, [] => none
  | count + 1, low, high, value, byte :: bytes =>
      if low ≤ byte ∧ byte ≤ high then
        trailingBytes count 0x80 0xbf (value * 64 + byte.toNat % 64) bytes
      else none

theorem length_of_trailingBytes {count value point : ℕ} {low high : UInt8}
    {bytes rest : List UInt8} (h : trailingBytes count low high value bytes = some (point, rest)) :
    rest.length ≤ bytes.length := by
  induction count generalizing low high value bytes with
  | zero =>
      cases h
      exact le_rfl
  | succ count ih =>
      cases bytes with
      | nil => cases h
      | cons byte bytes =>
          rw [trailingBytes] at h
          split_ifs at h
          exact (ih h).trans (Nat.le_succ _)

def codePoint : List UInt8 → Option (ℕ × List UInt8)
  | [] => none
  | byte :: bytes =>
      if byte < 0x80 then some (byte.toNat, bytes)
      else if 0xc2 ≤ byte ∧ byte ≤ 0xdf then
        trailingBytes 1 0x80 0xbf (byte.toNat % 32) bytes
      else if 0xe0 ≤ byte ∧ byte ≤ 0xef then
        trailingBytes 2 (if byte = 0xe0 then 0xa0 else 0x80) (if byte = 0xed then 0x9f else 0xbf)
          (byte.toNat % 16) bytes
      else if 0xf0 ≤ byte ∧ byte ≤ 0xf4 then
        trailingBytes 3 (if byte = 0xf0 then 0x90 else 0x80) (if byte = 0xf4 then 0x8f else 0xbf)
          (byte.toNat % 8) bytes
      else none

theorem length_of_codePoint {bytes rest : List UInt8} {point : ℕ}
    (h : codePoint bytes = some (point, rest)) : rest.length < bytes.length := by
  cases bytes with
  | nil => cases h
  | cons byte bytes =>
      rw [codePoint] at h
      split_ifs at h
      · cases h
        exact Nat.lt_succ_self _
      all_goals exact Nat.lt_succ_of_le (length_of_trailingBytes h)

def fromCodePoint (point : ℕ) : Text :=
  if point < 0x10000 then [.ofNat point]
  else [.ofNat (0xd800 + (point - 0x10000) / 1024), .ofNat (0xdc00 + (point - 0x10000) % 1024)]

def decodeCodePoints (bytes : List UInt8) : Option Text :=
  if bytes = [] then some []
  else
    match _hpoint : codePoint bytes with
    | none => none
    | some (point, rest) => (decodeCodePoints rest).map (fromCodePoint point ++ ·)
termination_by bytes.length
decreasing_by exact length_of_codePoint _hpoint

/-- `new TextDecoder("utf-8", { fatal: true }).decode(bytes)`, which skips a byte order mark. -/
def decodeUtf8 (bytes : List UInt8) : Option Text :=
  decodeCodePoints (if bytes.take 3 = [0xef, 0xbb, 0xbf] then bytes.drop 3 else bytes)

/-! ### Digits -/

def isUpper (unit : UInt16) : Bool := 65 ≤ unit && unit ≤ 90

def isLower (unit : UInt16) : Bool := 97 ≤ unit && unit ≤ 122

/-- `[0-9a-f]`, with the flag `i`. -/
def isHexUnit (unit : UInt16) : Bool :=
  Decimals.isDigit unit || (65 ≤ unit && unit ≤ 70) || (97 ≤ unit && unit ≤ 102)

def hexDigit (unit : UInt16) : ℕ :=
  if Decimals.isDigit unit then unit.toNat - 48
  else if isUpper unit then unit.toNat - 55
  else unit.toNat - 87

/-- `Buffer.from(text, "hex")`, for a text of such digits. -/
def fromHex : Text → List UInt8
  | high :: low :: rest => .ofNat (16 * hexDigit high + hexDigit low) :: fromHex rest
  | _ => []

def base64Digit (unit : UInt16) : ℕ :=
  if isUpper unit then unit.toNat - 65
  else if isLower unit then unit.toNat - 71
  else if Decimals.isDigit unit then unit.toNat + 4
  else if unit = 45 then 62
  else 63

def base64Unit (digit : ℕ) : UInt16 :=
  if digit < 26 then .ofNat (65 + digit)
  else if digit < 52 then .ofNat (71 + digit)
  else if digit < 62 then .ofNat (digit - 4)
  else if digit = 62 then 45
  else 95

/-- `Buffer.from(text, "base64url")`, for a text of that alphabet. -/
def fromBase64url : Text → List UInt8
  | first :: second :: third :: fourth :: rest =>
      let value := ((base64Digit first * 64 + base64Digit second) * 64 + base64Digit third) * 64 +
        base64Digit fourth
      .ofNat (value / 65536) :: .ofNat (value / 256) :: .ofNat value :: fromBase64url rest
  | [first, second, third] =>
      let value := (base64Digit first * 64 + base64Digit second) * 64 + base64Digit third
      [.ofNat (value / 1024), .ofNat (value / 4)]
  | [first, second] => [.ofNat ((base64Digit first * 64 + base64Digit second) / 16)]
  | _ => []

/-- `buffer.toString("base64url")` -/
def toBase64url : List UInt8 → Text
  | first :: second :: third :: rest =>
      let value := (first.toNat * 256 + second.toNat) * 256 + third.toNat
      base64Unit (value / 262144) :: base64Unit (value / 4096 % 64) ::
        base64Unit (value / 64 % 64) :: base64Unit (value % 64) :: toBase64url rest
  | [first, second] =>
      let value := first.toNat * 256 + second.toNat
      [base64Unit (value / 1024), base64Unit (value / 16 % 64), base64Unit (value * 4 % 64)]
  | [first] => [base64Unit (first.toNat / 4), base64Unit (first.toNat * 16 % 64)]
  | [] => []

/-! ### Base32 -/

/-- `[A-Z2-7]`, with the flag `i`. -/
def isBase32Unit (unit : UInt16) : Bool :=
  isUpper unit || isLower unit || (50 ≤ unit && unit ≤ 55)

def base32Digit (unit : UInt16) : Option ℕ :=
  if isUpper unit then some (unit.toNat - 65)
  else if isLower unit then some (unit.toNat - 97)
  else if 50 ≤ unit && unit ≤ 55 then some (unit.toNat - 24)
  else none

structure Base32State where
  bits : ℕ
  value : ℕ
  bytes : List UInt8

def Base32State.push (state : Base32State) (digit : ℕ) : Base32State :=
  let value := state.value * 32 + digit
  let bits := state.bits + 5
  if 8 ≤ bits then
    { bits := bits - 8
      value := value % 1 <<< (bits - 8)
      bytes := state.bytes ++ [.ofNat (value >>> (bits - 8))] }
  else { state with bits, value }

def jobResultEnvelopeMaxBytes : ℕ := 1048576

def decodeBase32Token (encoded : Text) : Option Text := do
  let digits ← (encoded.rdropWhile (· == 61)).mapM base32Digit
  let state := digits.foldl Base32State.push ⟨0, 0, []⟩
  if state.value ≠ 0 ∨ state.bytes.length < 1 ∨
      jobResultEnvelopeMaxBytes < state.bytes.length then none
  else decodeUtf8 state.bytes

/-- `([A-Z2-7]{69}={0,3})(?=$|[^A-Z2-7=])`, at the head of a text, and what follows it. The look
ahead leaves no choice in the number of signs. -/
def matchBase32 (text : Text) : Option (Text × Text) :=
  let digits := text.take 69
  let padding := ((text.drop 69).take 3).takeWhile (· == 61)
  let rest := (text.drop 69).drop padding.length
  if digits.length = 69 ∧ digits.all isBase32Unit ∧
      rest.head?.all (fun unit ↦ !isBase32Unit unit && unit != 61) then
    some (digits ++ padding, rest)
  else none

theorem length_of_matchBase32 {text token rest : Text}
    (h : matchBase32 text = some (token, rest)) : rest.length < text.length := by
  rw [matchBase32] at h
  split_ifs at h with htoken
  have hlong : 69 ≤ text.length := by
    have hdigits := htoken.1
    rw [List.length_take] at hdigits
    omega
  cases h
  rw [List.length_drop, List.length_drop]
  omega

/-- `value.matchAll(/(?:^|[^A-Z2-7])([A-Z2-7]{69}={0,3})(?=$|[^A-Z2-7=])/gi)`: the groups, from a
place that is the start of the text or not. -/
def base32Tokens (start : Bool) (text : Text) : List Text :=
  match _hfirst : if start then matchBase32 text else none with
  | some (token, rest) => token :: base32Tokens false rest
  | none =>
      match text with
      | [] => []
      | unit :: more =>
          match _hnext : if isBase32Unit unit then none else matchBase32 more with
          | some (token, rest) => token :: base32Tokens false rest
          | none => base32Tokens false more
termination_by text.length
decreasing_by
  · split_ifs at _hfirst
    exact length_of_matchBase32 _hfirst
  · split_ifs at _hnext
    exact (length_of_matchBase32 _hnext).trans (Nat.lt_succ_self _)
  · exact Nat.lt_succ_self _

end Dona.ResultPublish
