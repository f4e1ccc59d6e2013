import Dona.IntegerNumber
import Dona.Library.JsonValue

/-!
# Strict JSON

`json.ts` of the scheduler. A scan of the text walks through the document before it is parsed: it
bounds the size and the depth, and refuses a second member of one name and a number that is no
safe integer. It accepts exactly the documents without any of these.
-/

namespace Dona.Scheduler

open Json

variable {N : Type}

/-- `JSON.parse(text)`, where `numeral` is `Number` of a numeral. -/
def jsonParse (numeral : Text → N) (text : Text) : Option (Json N) :=
  (parse text).map (toValue numeral)

/-- `Buffer.byteLength(text)`: what is not half of a pair of surrogates is replaced. -/
def byteLength : Text → ℕ
  | [] => 0
  | unit :: rest =>
      if unit < 0x80 then 1 + byteLength rest
      else if unit < 0x800 then 2 + byteLength rest
      else if isHighSurrogate unit && rest.head?.any isLowSurrogate then
        4 + byteLength rest.tail
      else 3 + byteLength rest
termination_by text => text.length
decreasing_by
  all_goals simp only [List.length_cons, List.length_tail]
  all_goals omega

/-! ### The scan -/

/-- The loop over a string, from behind its opening quote: what it passes over, the closing quote
included, and what follows. -/
def passString : Text → Option (Text × Text)
  | [] => none
  | ch :: rest =>
      if ch = 92 then
        match rest with
        | [] => none
        | mark :: rest => (passString rest).map fun passed ↦ (92 :: mark :: passed.1, passed.2)
      else if ch = 34 then some ([34], rest)
      else (passString rest).map fun passed ↦ (ch :: passed.1, passed.2)

/-- `string()`, behind the opening quote: the string, and what follows it. -/
def scanString (text : Text) : Option (Text × Text) := do
  let (passed, rest) ← passString text
  match parse (34 :: passed) with
  | some (.string value) => some (value, rest)
  | _ => none

/-- `^(?:true|false|null|-?(?:0|[1-9]\d*))`, and what follows it. -/
def matchToken (text : Text) : Option (Text × Text) :=
  match afterWord (unitsOf "true") text with
  | some rest => some (unitsOf "true", rest)
  | none =>
      match afterWord (unitsOf "false") text with
      | some rest => some (unitsOf "false", rest)
      | none =>
          match afterWord (unitsOf "null") text with
          | some rest => some (unitsOf "null", rest)
          | none => matchInteger text

/-- `^-?\d` -/
def startsNumber (token : Text) : Bool :=
  match token with
  | [] => false
  | unit :: rest => if unit = 45 then rest.head?.any Decimals.isDigit else Decimals.isDigit unit

def scanToken (text : Text) : Option Text := do
  let (token, rest) ← matchToken text
  if startsNumber token && !(toNumber token).isSafe then none else some rest

def closing (ch : UInt16) : UInt16 := if ch = 123 then 125 else 93

/-- The name of a member: the names so far, and what follows the colon. -/
def scanKey (keys : List Text) (text : Text) : Option (List Text × Text) := do
  let quoted ← expect 34 text
  let (key, stop) ← scanString quoted
  if keys.contains key then none
  else do
    let value ← expect 58 stop
    some (key :: keys, value)

mutual

/-- `value(depth)`: what follows the value. -/
def scanValue : ℕ → ℕ → Text → Option Text
  | 0, _, _ => none
  | fuel + 1, depth, text =>
      if 32 < depth then none
      else
        match skipBlanks text with
        | [] => none
        | ch :: rest =>
            if ch = 34 then (scanString rest).map (·.2)
            else if ch = 123 ∨ ch = 91 then
              match expect (closing ch) rest with
              | some after => some after
              | none => scanEntries fuel depth ch [] rest
            else scanToken (ch :: rest)

/-- The loop over the members or items of a container, where `keys` are the names so far. -/
def scanEntries : ℕ → ℕ → UInt16 → List Text → Text → Option Text
  | 0, _, _, _, _ => none
  | fuel + 1, depth, ch, keys, text => do
      let (keys, start) ← if ch = 123 then scanKey keys text else some (keys, text)
      let stop ← scanValue fuel (depth + 1) start
      match expect (closing ch) stop with
      | some rest => some rest
      | none => do
          let next ← expect 44 stop
          scanEntries fuel depth ch keys next

end

/-- `none` is the error `invalid_json`. -/
def parseStrictJson (numeral : Text → N) (text : Text) : Option (Json N) :=
  if 65536 < byteLength text then none
  else do
    let stop ← scanValue (2 * text.length) 0 text
    if skipBlanks stop = [] then jsonParse numeral text else none

/-! ### Strings -/

section Strings

variable {text passed rest more string : Text} {ch : UInt16}

theorem passString_escape (mark : UInt16) (rest : Text) :
    passString (92 :: mark :: rest) =
      (passString rest).map fun passed ↦ (92 :: mark :: passed.1, passed.2) := by
  rw [passString.eq_def]
  simp only [if_true]

theorem passString_close (rest : Text) : passString (34 :: rest) = some ([34], rest) := by
  rw [passString.eq_def]
  simp only [if_neg (show (34 : UInt16) ≠ 92 by decide), if_true]

theorem passString_plain (hescape : ch ≠ 92) (hquote : ch ≠ 34) (rest : Text) :
    passString (ch :: rest) = (passString rest).map fun passed ↦ (ch :: passed.1, passed.2) := by
  rw [passString.eq_def]
  simp only [if_neg hescape, if_neg hquote]

/-- The loop passes over a part of the text, and over all of that part alone. -/
theorem passString_eq_some (h : passString text = some (passed, rest)) :
    passed ++ rest = text ∧ passString passed = some (passed, []) := by
  induction text using passString.induct generalizing passed with
  | case1 => cases h
  | case2 =>
      rw [passString.eq_def] at h
      cases h
  | case3 mark inside ih =>
      rw [passString_escape] at h
      obtain ⟨⟨passed', rest'⟩, hpass, hpair⟩ := Option.map_eq_some_iff.mp h
      cases hpair
      obtain ⟨happend, hself⟩ := ih hpass
      rw [passString_escape, hself, List.cons_append, List.cons_append, happend]
      exact ⟨rfl, rfl⟩
  | case4 inside _ =>
      rw [passString_close] at h
      cases h
      exact ⟨rfl, passString_close []⟩
  | case5 ch inside hescape hquote ih =>
      rw [passString_plain hescape hquote] at h
      obtain ⟨⟨passed', rest'⟩, hpass, hpair⟩ := Option.map_eq_some_iff.mp h
      cases hpair
      obtain ⟨happend, hself⟩ := ih hpass
      rw [passString_plain hescape hquote, hself, List.cons_append, happend]
      exact ⟨rfl, rfl⟩

theorem hexDigit?_ne {digit : ℕ} (h : hexDigit? ch = some digit) : ch ≠ 92 ∧ ch ≠ 34 := by
  constructor
  · rintro rfl
    cases h
  · rintro rfl
    cases h

theorem hexValue?_ne {first second third fourth value : UInt16}
    (h : hexValue? first second third fourth = some value) :
    ∀ ch ∈ [first, second, third, fourth], ch ≠ 92 ∧ ch ≠ 34 := by
  simp only [hexValue?, Option.bind_eq_bind, Option.bind_eq_some_iff] at h
  obtain ⟨a, ha, b, hb, c, hc, d, hd, -⟩ := h
  simp only [List.forall_mem_cons]
  exact ⟨hexDigit?_ne ha, hexDigit?_ne hb, hexDigit?_ne hc, hexDigit?_ne hd, fun _ h ↦ by cases h⟩

/-- The loop passes over the string that is read, and what it passes over is that string. -/
theorem exists_passString (h : ReadsString rest text string) :
    ∃ passed, passString text = some (passed, rest) ∧ readUnits passed = some (string, []) := by
  induction h with
  | close => exact ⟨[34], passString_close rest, readUnits_close []⟩
  | @unicode first second third fourth value text string hvalue _ ih =>
      obtain ⟨passed, hpass, hself⟩ := ih
      have hplain := hexValue?_ne hvalue
      simp only [List.forall_mem_cons] at hplain
      obtain ⟨⟨h₁, h₁'⟩, ⟨h₂, h₂'⟩, ⟨h₃, h₃'⟩, ⟨h₄, h₄'⟩, -⟩ := hplain
      refine ⟨92 :: 117 :: first :: second :: third :: fourth :: passed, ?_, ?_⟩
      · rw [passString_escape, passString_plain h₁ h₁', passString_plain h₂ h₂',
          passString_plain h₃ h₃', passString_plain h₄ h₄', hpass]
        rfl
      · rw [readUnits_unicode, hvalue, hself]
        rfl
  | @mark mark value text string hmark hvalue _ ih =>
      obtain ⟨passed, hpass, hself⟩ := ih
      refine ⟨92 :: mark :: passed, ?_, ?_⟩
      · rw [passString_escape, hpass]
        rfl
      · rw [readUnits_of_mark hmark, hvalue, hself]
        rfl
  | @plain ch text string hquote hescape hcontrol _ ih =>
      obtain ⟨passed, hpass, hself⟩ := ih
      refine ⟨ch :: passed, ?_, ?_⟩
      · rw [passString_plain hescape hquote, hpass]
        rfl
      · rw [readUnits_of_plain hquote hescape hcontrol, hself]
        rfl

/-- A text that begins with a quote is a document if it is the text of a string. -/
theorem parse_quote : parse (34 :: text) = some (.string string) ↔
    ∃ stop, readUnits text = some (string, stop) ∧ Blanks [] stop := by
  rw [parse_eq_some_iff]
  constructor
  · rintro ⟨start, stop, hstart, hvalue, hstop⟩
    cases hstart with
    | nil =>
        obtain ⟨string', hstring, hread⟩ := readUnits_of_readsValue hvalue
        cases hstring
        exact ⟨stop, hread, hstop⟩
    | cons hblank => cases hblank
  · rintro ⟨stop, hread, hstop⟩
    exact ⟨_, stop, .nil, .string hread, hstop⟩

/-- The scan of a string reads it. -/
theorem scanString_eq_some_iff :
    scanString text = some (string, rest) ↔ readUnits text = some (string, rest) := by
  constructor
  · intro h
    simp only [scanString, Option.bind_eq_bind, Option.bind_eq_some_iff] at h
    obtain ⟨⟨passed, rest'⟩, hpass, h⟩ := h
    dsimp only at h
    split at h
    · rename_i value hparse
      cases h
      obtain ⟨stop, hread, -⟩ := parse_quote.mp hparse
      obtain ⟨happend, hself⟩ := passString_eq_some hpass
      -- the string is read to the quote at which the loop stopped
      have hspelled := readsString_of_readUnits hread
      obtain ⟨passed', hpass', -⟩ := exists_passString hspelled
      rw [hself] at hpass'
      cases hpass'
      rw [← happend]
      exact hspelled.readUnits_append _
    · cases h
  · intro h
    obtain ⟨passed, hpass, hread⟩ := exists_passString (readsString_of_readUnits h)
    have hparse : parse (34 :: passed) = some (.string string) :=
      parse_quote.mpr ⟨[], hread, .nil⟩
    simp only [scanString, hpass, hparse, Option.bind_eq_bind, Option.bind_some]

theorem scanString_eq (text : Text) : scanString text = readUnits text :=
  Option.ext fun _ ↦ scanString_eq_some_iff

end Strings

/-! ### Strict documents -/

/-- The document is strict where `depth` containers are around it. -/
structure IsStrict (depth : ℕ) (document : Json Text) : Prop where
  nesting : depth + document.nesting ≤ 32
  unique : document.UniqueKeys
  integers : ∀ token ∈ document.numbers, IsInteger token ∧ (toNumber token).isSafe = true

section Strict

variable {depth : ℕ} {token : Text} {items : List (Json Text)} {members : List (Text × Json Text)}

theorem IsStrict.depth_le {document : Json Text} (h : IsStrict depth document) : depth ≤ 32 :=
  (Nat.le_add_right _ _).trans h.nesting

/-- The documents that are no containers. -/
def IsScalar : Json Text → Prop
  | .array _ => False
  | .object _ => False
  | _ => True

theorem isStrict_scalar {document : Json Text} (hscalar : IsScalar document) (hdepth : depth ≤ 32)
    (hnumbers : ∀ token ∈ document.numbers, IsInteger token ∧ (toNumber token).isSafe = true) :
    IsStrict depth document := by
  refine ⟨?_, ?_, hnumbers⟩
  · cases document with
    | array => exact hscalar.elim
    | object => exact hscalar.elim
    | null => exact hdepth
    | bool => exact hdepth
    | number => exact hdepth
    | string => exact hdepth
  · intro members hmembers
    cases hmembers with
    | self => exact hscalar.elim
    | item => exact hscalar.elim
    | member => exact hscalar.elim

theorem isStrict_array (hdepth : depth ≤ 32) :
    IsStrict depth (.array items) ↔ ∀ item ∈ items, IsStrict (depth + 1) item := by
  have hnesting : depth + (Json.array items).nesting ≤ 32 ↔
      ∀ item ∈ items, depth + 1 + item.nesting ≤ 32 := by
    rw [nesting, ← Nat.le_sub_iff_add_le' hdepth, nestingOfItems_le]
    refine forall₂_congr fun item _ ↦ ?_
    omega
  constructor
  · rintro ⟨hdeep, hunique, hintegers⟩ item hitem
    exact ⟨hnesting.mp hdeep item hitem, everyObject_array.mp hunique item hitem,
      fun token htoken ↦ hintegers token (mem_numbersOfItems.mpr ⟨item, hitem, htoken⟩)⟩
  · intro h
    refine ⟨hnesting.mpr fun item hitem ↦ (h item hitem).nesting,
      everyObject_array.mpr fun item hitem ↦ (h item hitem).unique, fun token htoken ↦ ?_⟩
    obtain ⟨item, hitem, htoken⟩ := mem_numbersOfItems.mp htoken
    exact (h item hitem).integers token htoken

theorem isStrict_object (hdepth : depth ≤ 32) :
    IsStrict depth (.object members) ↔
      (members.map (·.1)).Nodup ∧ ∀ member ∈ members, IsStrict (depth + 1) member.2 := by
  have hnesting : depth + (Json.object members).nesting ≤ 32 ↔
      ∀ member ∈ members, depth + 1 + member.2.nesting ≤ 32 := by
    rw [nesting, ← Nat.le_sub_iff_add_le' hdepth, nestingOfMembers_le]
    refine forall₂_congr fun member _ ↦ ?_
    omega
  constructor
  · rintro ⟨hdeep, hunique, hintegers⟩
    obtain ⟨hnames, hvalues⟩ := everyObject_object.mp hunique
    refine ⟨hnames, fun member hmember ↦ ⟨hnesting.mp hdeep member hmember,
      hvalues member hmember, fun token htoken ↦ ?_⟩⟩
    exact hintegers token (mem_numbersOfMembers.mpr ⟨member, hmember, htoken⟩)
  · rintro ⟨hnames, h⟩
    refine ⟨hnesting.mpr fun member hmember ↦ (h member hmember).nesting,
      everyObject_object.mpr ⟨hnames, fun member hmember ↦ (h member hmember).unique⟩,
      fun token htoken ↦ ?_⟩
    obtain ⟨member, hmember, htoken⟩ := mem_numbersOfMembers.mp htoken
    exact (h member hmember).integers token htoken

end Strict

/-! ### What the scan accepts -/

section Scan

variable {depth fuel : ℕ} {text start rest token : Text} {keys : List Text}

theorem isNumber_of_isInteger (h : IsInteger token) : IsNumber token := by
  have hnumber := IsNumber.mk h .none .none
  rwa [List.append_nil, List.append_nil] at hnumber

theorem startsNumber_of_isInteger (h : IsInteger token) : startsNumber token = true := by
  have hnatural {digits : Text} (h : IsNatural digits) :
      ∃ unit more, digits = unit :: more ∧ Decimals.isDigit unit = true := by
    cases h with
    | zero => exact ⟨_, _, rfl, rfl⟩
    | positive _ hunit => exact ⟨_, _, rfl, hunit⟩
  cases h with
  | natural h =>
      obtain ⟨unit, more, rfl, hunit⟩ := hnatural h
      rw [startsNumber]
      split_ifs with hsign
      · rw [hsign] at hunit
        cases hunit
      · exact hunit
  | negative h =>
      obtain ⟨unit, more, rfl, hunit⟩ := hnatural h
      exact hunit

theorem reads_of_scanToken (hdepth : depth ≤ 32) (h : scanToken text = some rest) :
    ∃ value, ReadsValue text value rest ∧ IsStrict depth value := by
  have hscalar (value : Json Text) (hvalue : IsScalar value) (hnone : value.numbers = []) :
      IsStrict depth value := by
    refine isStrict_scalar hvalue hdepth ?_
    rw [hnone]
    exact List.forall_mem_nil _
  simp only [scanToken, Option.bind_eq_bind, Option.bind_eq_some_iff] at h
  obtain ⟨⟨token, rest'⟩, hmatch, h⟩ := h
  dsimp only at h
  split_ifs at h with hsafe
  cases h
  rw [matchToken] at hmatch
  split at hmatch
  · rename_i htrue
    cases hmatch
    exact ⟨.bool true, afterWord_eq_some.mp htrue ▸ .true _, hscalar _ trivial rfl⟩
  split at hmatch
  · rename_i hfalse
    cases hmatch
    exact ⟨.bool false, afterWord_eq_some.mp hfalse ▸ .false _, hscalar _ trivial rfl⟩
  split at hmatch
  · rename_i hnull
    cases hmatch
    exact ⟨.null, afterWord_eq_some.mp hnull ▸ .null _, hscalar _ trivial rfl⟩
  · obtain ⟨hinteger, rfl⟩ := isInteger_of_matchInteger hmatch
    rw [startsNumber_of_isInteger hinteger, Bool.true_and, Bool.not_eq_true'] at hsafe
    refine ⟨.number token, .number _ (isNumber_of_isInteger hinteger),
      isStrict_scalar trivial hdepth fun other hother ↦ ?_⟩
    rw [numbers, List.mem_singleton] at hother
    rw [hother]
    exact ⟨hinteger, (Bool.not_eq_false _).mp hsafe⟩

theorem reads_of_scanKey {keys' : List Text} (h : scanKey keys text = some (keys', start)) :
    ∃ key, keys' = key :: keys ∧ key ∉ keys ∧ ReadsKey text key (skipBlanks start) := by
  simp only [scanKey, scanString_eq, Option.bind_eq_bind, Option.bind_eq_some_iff] at h
  obtain ⟨quoted, hquoted, ⟨key, stop⟩, hread, h⟩ := h
  dsimp only at h
  split_ifs at h with hkey
  rw [List.contains_iff_mem] at hkey
  simp only [Option.bind_eq_some_iff] at h
  obtain ⟨value, hvalue, hpair⟩ := h
  cases hpair
  exact ⟨key, rfl, hkey, .mk (blanks_of_expect hquoted) hread (blanks_of_expect hvalue)
    (blanks_skipBlanks _)⟩

/-- What the scan passes over is a strict value, or the items or members of one. -/
theorem reads_of_scan (fuel : ℕ) :
    (∀ {depth text rest}, scanValue fuel depth text = some rest →
      ∃ value, ReadsValue (skipBlanks text) value rest ∧ IsStrict depth value) ∧
    (∀ {depth keys text rest}, scanEntries fuel depth 91 keys text = some rest →
      ∃ items, ReadsItems text items rest ∧ ∀ item ∈ items, IsStrict (depth + 1) item) ∧
    (∀ {depth keys text rest}, scanEntries fuel depth 123 keys text = some rest →
      ∃ members, ReadsMembers text members rest ∧ (members.map (·.1)).Nodup ∧
        (∀ key ∈ members.map (·.1), key ∉ keys) ∧
        ∀ member ∈ members, IsStrict (depth + 1) member.2) := by
  induction fuel with
  | zero =>
      refine ⟨?_, ?_, ?_⟩
      · intro depth text rest h
        rw [scanValue] at h
        cases h
      · intro depth keys text rest h
        rw [scanEntries] at h
        cases h
      · intro depth keys text rest h
        rw [scanEntries] at h
        cases h
  | succ fuel ih =>
      obtain ⟨ihValue, ihItems, ihMembers⟩ := ih
      refine ⟨?_, ?_, ?_⟩
      · intro depth text rest h
        rw [scanValue] at h
        split_ifs at h with hdeep
        have hdepth : depth ≤ 32 := Nat.not_lt.mp hdeep
        split at h
        · cases h
        rename_i ch inside hskip
        rw [hskip]
        split_ifs at h with hquote hopen
        · rw [scanString_eq] at h
          obtain ⟨⟨string, rest'⟩, hread, hpair⟩ := Option.map_eq_some_iff.mp h
          cases hpair
          rw [hquote]
          exact ⟨_, .string hread, isStrict_scalar trivial hdepth (List.forall_mem_nil _)⟩
        · rcases hopen with rfl | rfl
          · split at h
            · rename_i hclose
              cases h
              exact ⟨_, .emptyObject (blanks_of_expect hclose),
                (isStrict_object hdepth).mpr ⟨List.nodup_nil, List.forall_mem_nil _⟩⟩
            · obtain ⟨members, hmembers, hnames, -, hvalues⟩ := ihMembers h
              exact ⟨_, .object hmembers, (isStrict_object hdepth).mpr ⟨hnames, hvalues⟩⟩
          · split at h
            · rename_i hclose
              cases h
              exact ⟨_, .emptyArray (blanks_of_expect hclose),
                (isStrict_array hdepth).mpr (List.forall_mem_nil _)⟩
            · obtain ⟨items, hitems, hstrict⟩ := ihItems h
              exact ⟨_, .array hitems, (isStrict_array hdepth).mpr hstrict⟩
        · exact reads_of_scanToken hdepth h
      · intro depth keys text rest h
        rw [scanEntries, if_neg (by decide)] at h
        simp only [Option.bind_eq_bind, Option.bind_some, Option.bind_eq_some_iff] at h
        obtain ⟨stop, hvalue, h⟩ := h
        obtain ⟨item, hitem, hstrict⟩ := ihValue hvalue
        split at h
        · rename_i hclose
          cases h
          exact ⟨[item], .last (blanks_skipBlanks text) hitem (blanks_of_expect hclose),
            List.forall_mem_singleton.mpr hstrict⟩
        · obtain ⟨next, hcomma, h⟩ := Option.bind_eq_some_iff.mp h
          obtain ⟨items, hitems, hmore⟩ := ihItems h
          exact ⟨item :: items,
            .cons (blanks_skipBlanks text) hitem (blanks_of_expect hcomma) hitems,
            List.forall_mem_cons.mpr ⟨hstrict, hmore⟩⟩
      · intro depth keys text rest h
        rw [scanEntries, if_pos rfl] at h
        simp only [Option.bind_eq_bind, Option.bind_eq_some_iff] at h
        obtain ⟨⟨keys', start⟩, hkey, stop, hvalue, h⟩ := h
        obtain ⟨key, rfl, hnew, hname⟩ := reads_of_scanKey hkey
        obtain ⟨value, hread, hstrict⟩ := ihValue hvalue
        dsimp only at h
        split at h
        · rename_i hclose
          cases h
          refine ⟨[(key, value)], .last hname hread (blanks_of_expect hclose),
            List.nodup_singleton _, List.forall_mem_singleton.mpr hnew,
            List.forall_mem_singleton.mpr hstrict⟩
        · obtain ⟨next, hcomma, h⟩ := Option.bind_eq_some_iff.mp h
          obtain ⟨members, hmembers, hnames, hfresh, hmore⟩ := ihMembers h
          refine ⟨(key, value) :: members, .cons hname hread (blanks_of_expect hcomma) hmembers,
            ?_, ?_, List.forall_mem_cons.mpr ⟨hstrict, hmore⟩⟩
          · exact List.nodup_cons.mpr ⟨fun hmem ↦ hfresh key hmem List.mem_cons_self, hnames⟩
          · exact List.forall_mem_cons.mpr ⟨hnew, fun other hother hmem ↦
              hfresh other hother (List.mem_cons_of_mem _ hmem)⟩

theorem scanToken_of_isInteger (h : IsInteger token) (hsafe : (toNumber token).isSafe = true)
    (hrest : EndsNumber rest) : scanToken (token ++ rest) = some rest := by
  have hnumber := isNumber_of_isInteger h
  have hmatch := matchInteger_of_isInteger h fun unit hunit ↦ (hrest unit hunit).1
  simp only [scanToken, matchToken, afterWord_of_isNumber (List.mem_cons_self) hnumber,
    afterWord_of_isNumber (List.mem_cons_of_mem _ List.mem_cons_self) hnumber,
    afterWord_of_isNumber
      (List.mem_cons_of_mem _ (List.mem_cons_of_mem _ List.mem_cons_self)) hnumber,
    hmatch, hsafe, Option.bind_eq_bind, Option.bind_some, Bool.not_true, Bool.and_false]
  rfl

theorem closing_bracket : closing 91 = 93 := rfl

theorem closing_brace : closing 123 = 125 := rfl

theorem scanKey_of_reads {key : Text} (h : ReadsKey text key start) (hkey : key ∉ keys) :
    ∃ start', scanKey keys text = some (key :: keys, start') ∧ Blanks start start' ∧
      start'.length < text.length := by
  cases h with
  | mk hopen hread hcolon hstart =>
      have hquoted := hopen.length_le
      have hstop := (readsString_of_readUnits hread).length_lt
      have hvalue' := hcolon.length_le
      have hnew : ¬keys.contains key = true := mt List.contains_iff_mem.mp hkey
      rw [List.length_cons] at hquoted hvalue'
      refine ⟨_, ?_, hstart, by omega⟩
      simp only [scanKey, scanString_eq, expect_of_blanks hopen rfl, hread, if_neg hnew,
        expect_of_blanks hcolon rfl, Option.bind_eq_bind, Option.bind_some]

mutual

/-- A strict value that is spelled in the text is passed over, with fuel for its units. -/
theorem scanValue_of_reads {fuel depth : ℕ} {text start rest : Text} {value : Json Text}
    (h : ReadsValue start value rest) (hstart : Blanks start text) (hrest : EndsNumber rest)
    (hstrict : IsStrict depth value) (hfuel : 2 * text.length ≤ fuel) :
    scanValue fuel depth text = some rest := by
  have hlength := hstart.length_le
  have hlength' := h.length_lt
  have hdepth := hstrict.depth_le
  obtain ⟨fuel, rfl⟩ : ∃ more, fuel = more + 1 := Nat.exists_eq_add_of_le' (by omega)
  rw [scanValue, if_neg (Nat.not_lt.mpr hdepth), skipBlanks_of_readsValue hstart h]
  cases h with
  | null => rfl
  | true => rfl
  | false => rfl
  | @number token _ hnumber =>
      obtain ⟨hinteger, hsafe⟩ := hstrict.integers token (List.mem_singleton.mpr rfl)
      have htoken := scanToken_of_isInteger hinteger hsafe hrest
      obtain ⟨unit, more, rfl, hhead⟩ := hnumber.exists_head
      have hquote : unit ≠ 34 := by
        rintro rfl
        exact absurd hhead (by decide)
      have hopen : ¬(unit = 123 ∨ unit = 91) := by
        rintro (rfl | rfl) <;> exact absurd hhead (by decide)
      rw [List.cons_append]
      dsimp only
      rw [if_neg hquote, if_neg hopen]
      exact htoken
  | string hread =>
      dsimp only
      rw [if_pos rfl, scanString_eq, hread]
      rfl
  | emptyArray hclose =>
      dsimp only
      rw [if_neg (by decide), if_pos (.inr rfl)]
      rw [closing_bracket, expect_of_blanks hclose rfl]
  | array hitems =>
      rw [List.length_cons] at hlength
      dsimp only
      rw [if_neg (by decide), if_pos (.inr rfl)]
      rw [closing_bracket, expect_of_readsItems hitems]
      exact scanEntries_of_readsItems hitems ((isStrict_array hdepth).mp hstrict) (by omega)
  | emptyObject hclose =>
      dsimp only
      rw [if_neg (by decide), if_pos (.inl rfl)]
      rw [closing_brace, expect_of_blanks hclose rfl]
  | object hmembers =>
      rw [List.length_cons] at hlength
      obtain ⟨hnames, hvalues⟩ := (isStrict_object hdepth).mp hstrict
      dsimp only
      rw [if_neg (by decide), if_pos (.inl rfl)]
      rw [closing_brace, expect_of_readsMembers hmembers]
      exact scanEntries_of_readsMembers hmembers hnames (fun _ _ ↦ List.not_mem_nil) hvalues
        (by omega)

theorem scanEntries_of_readsItems {fuel depth : ℕ} {text rest : Text} {items : List (Json Text)}
    {keys : List Text} (h : ReadsItems text items rest)
    (hstrict : ∀ item ∈ items, IsStrict (depth + 1) item)
    (hfuel : 2 * text.length + 1 ≤ fuel) : scanEntries fuel depth 91 keys text = some rest := by
  obtain ⟨fuel, rfl⟩ : ∃ more, fuel = more + 1 := Nat.exists_eq_add_of_le' (by omega)
  rw [scanEntries, if_neg (by decide)]
  simp only [Option.bind_eq_bind, Option.bind_some]
  cases h with
  | last hstart hitem hclose =>
      have hends := endsNumber_of_mem (by decide) hclose
      rw [scanValue_of_reads hitem hstart hends (hstrict _ List.mem_cons_self) (by omega),
        Option.bind_some, closing_bracket, expect_of_blanks hclose rfl]
  | cons hstart hitem hcomma hitems =>
      have hlength := hstart.length_le
      have hlength' := hitem.length_lt
      have hlength'' := hcomma.length_le
      rw [List.length_cons] at hlength''
      have hends := endsNumber_of_mem (by decide) hcomma
      rw [scanValue_of_reads hitem hstart hends (hstrict _ List.mem_cons_self) (by omega),
        Option.bind_some, closing_bracket, expect_eq_none hcomma rfl (by decide)]
      dsimp only
      rw [expect_of_blanks hcomma rfl, Option.bind_some]
      exact scanEntries_of_readsItems hitems
        (fun other hother ↦ hstrict other (List.mem_cons_of_mem _ hother)) (by omega)

theorem scanEntries_of_readsMembers {fuel depth : ℕ} {text rest : Text}
    {members : List (Text × Json Text)} {keys : List Text} (h : ReadsMembers text members rest)
    (hnames : (members.map (·.1)).Nodup) (hfresh : ∀ key ∈ members.map (·.1), key ∉ keys)
    (hstrict : ∀ member ∈ members, IsStrict (depth + 1) member.2)
    (hfuel : 2 * text.length + 1 ≤ fuel) : scanEntries fuel depth 123 keys text = some rest := by
  obtain ⟨fuel, rfl⟩ : ∃ more, fuel = more + 1 := Nat.exists_eq_add_of_le' (by omega)
  rw [scanEntries, if_pos rfl]
  cases h with
  | last hkey hvalue hclose =>
      have hends := endsNumber_of_mem (by decide) hclose
      obtain ⟨start', hscan, hblanks, hlength⟩ :=
        scanKey_of_reads hkey (hfresh _ List.mem_cons_self)
      have hpass : scanValue fuel (depth + 1) start' = some _ :=
        scanValue_of_reads hvalue hblanks hends (hstrict _ List.mem_cons_self) (by omega)
      simp only [hscan, hpass, Option.bind_eq_bind, Option.bind_some]
      rw [closing_brace, expect_of_blanks hclose rfl]
  | cons hkey hvalue hcomma hmembers =>
      have hends := endsNumber_of_mem (by decide) hcomma
      have hlength' := hvalue.length_lt
      have hlength'' := hcomma.length_le
      rw [List.length_cons] at hlength''
      obtain ⟨start', hscan, hblanks, hlength⟩ :=
        scanKey_of_reads hkey (hfresh _ List.mem_cons_self)
      have hstart := hblanks.length_le
      have hpass : scanValue fuel (depth + 1) start' = some _ :=
        scanValue_of_reads hvalue hblanks hends (hstrict _ List.mem_cons_self) (by omega)
      rw [List.map_cons, List.nodup_cons] at hnames
      simp only [hscan, hpass, Option.bind_eq_bind, Option.bind_some]
      rw [closing_brace, expect_eq_none hcomma rfl (by decide)]
      dsimp only
      rw [expect_of_blanks hcomma rfl, Option.bind_some]
      refine scanEntries_of_readsMembers hmembers hnames.2 ?_
        (fun other hother ↦ hstrict other (List.mem_cons_of_mem _ hother)) (by omega)
      intro other hother hmem
      rcases List.mem_cons.mp hmem with rfl | hmem
      · exact hnames.1 hother
      · exact hfresh other (List.mem_cons_of_mem _ hother) hmem

end

/-- The scan accepts exactly the strict documents. -/
theorem parseStrictJson_eq_some_iff {numeral : Text → N} {value : Json N} :
    parseStrictJson numeral text = some value ↔
      byteLength text ≤ 65536 ∧ ∃ document, Reads text document ∧ IsStrict 0 document ∧
        toValue numeral document = value := by
  rw [parseStrictJson]
  constructor
  · intro h
    split_ifs at h with hsize
    simp only [Option.bind_eq_bind, Option.bind_eq_some_iff] at h
    obtain ⟨stop, hscan, h⟩ := h
    split_ifs at h with hend
    obtain ⟨document, hread, hstrict⟩ := (reads_of_scan _).1 hscan
    have hstop := blanks_skipBlanks stop
    rw [hend] at hstop
    have hreads : Reads text document := ⟨_, stop, blanks_skipBlanks text, hread, hstop⟩
    rw [jsonParse, parse_eq_some_iff.mpr hreads] at h
    exact ⟨Nat.not_lt.mp hsize, document, hreads, hstrict, Option.some.inj h⟩
  · rintro ⟨hsize, document, hreads, hstrict, rfl⟩
    obtain ⟨start, stop, hstart, hvalue, hstop⟩ := id hreads
    have hends : EndsNumber stop := by
      refine EndsNumber.blanks ?_ hstop
      rintro unit ⟨⟩
    have hscan : scanValue (2 * text.length) 0 text = some stop :=
      scanValue_of_reads hvalue hstart hends hstrict le_rfl
    rw [if_neg (Nat.not_lt.mpr hsize)]
    simp only [hscan, skipBlanks_of_blanks_nil hstop, if_true, jsonParse,
      parse_eq_some_iff.mpr hreads, Option.bind_eq_bind, Option.bind_some, Option.map_some]

end Scan

end Dona.Scheduler
