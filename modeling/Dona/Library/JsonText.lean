import Dona.Library.Json
import Mathlib.Data.List.Forall2

/-!
# Texts of JSON documents

How strings and documents are spelled. A spelled string says where it ends and what it stands for,
and a document can be read off its text.
-/

namespace Json

/-! ### Strings -/

def isSurrogate (unit : UInt16) : Bool := 0xd800 ≤ unit && unit < 0xe000

def isHighSurrogate (unit : UInt16) : Bool := 0xd800 ≤ unit && unit < 0xdc00

def isLowSurrogate (unit : UInt16) : Bool := 0xdc00 ≤ unit && unit < 0xe000

/-- The units with an escape of their own, and the unit that names them in it. -/
def shortEscapes : List (UInt16 × UInt16) :=
  [(34, 34), (92, 92), (8, 98), (12, 102), (10, 110), (13, 114), (9, 116)]

def hexUnit (digit : ℕ) : UInt16 := .ofNat (if digit < 10 then 48 + digit else 87 + digit)

def unicodeEscape (unit : UInt16) : Text :=
  [92, 117, hexUnit (unit.toNat / 4096), hexUnit (unit.toNat / 256 % 16),
    hexUnit (unit.toNat / 16 % 16), hexUnit (unit.toNat % 16)]

def escapeUnit (unit : UInt16) : Text :=
  match shortEscapes.lookup unit with
  | some mark => [92, mark]
  | none => if unit < 32 || isSurrogate unit then unicodeEscape unit else [unit]

/-- The spelling of a string: pairs of surrogates as they are, a surrogate alone escaped. -/
def quoteUnits : Text → Text
  | [] => []
  | [unit] => escapeUnit unit
  | unit :: next :: rest =>
      if isHighSurrogate unit && isLowSurrogate next then unit :: next :: quoteUnits rest
      else escapeUnit unit ++ quoteUnits (next :: rest)

def quote (text : Text) : Text := 34 :: (quoteUnits text ++ [34])

/-! ### Reading a string -/

def hexDigit? (unit : UInt16) : Option ℕ :=
  if 48 ≤ unit ∧ unit ≤ 57 then some (unit.toNat - 48)
  else if 97 ≤ unit ∧ unit ≤ 102 then some (unit.toNat - 87)
  else if 65 ≤ unit ∧ unit ≤ 70 then some (unit.toNat - 55)
  else none

def hexValue? (first second third fourth : UInt16) : Option UInt16 := do
  let a ← hexDigit? first
  let b ← hexDigit? second
  let c ← hexDigit? third
  let d ← hexDigit? fourth
  return .ofNat (4096 * a + 256 * b + 16 * c + d)

/-- What the unit behind a backslash stands for. -/
def unescape? (mark : UInt16) : Option UInt16 :=
  [(34, 34), (92, 92), (47, 47), (98, 8), (102, 12), (110, 10), (114, 13), (116, 9)].lookup mark

/-- The string up to its closing quote, and what follows the quote. -/
def readUnits : Text → Option (Text × Text)
  | [] => none
  | unit :: rest =>
      if unit = 34 then some ([], rest)
      else if unit = 92 then
        match rest with
        | [] => none
        | mark :: rest =>
            if mark = 117 then
              match rest with
              | first :: second :: third :: fourth :: rest => do
                  let value ← hexValue? first second third fourth
                  (readUnits rest).map (Prod.map (List.cons value) id)
              | _ => none
            else do
              let value ← unescape? mark
              (readUnits rest).map (Prod.map (List.cons value) id)
      else if unit < 32 then none
      else (readUnits rest).map (Prod.map (List.cons unit) id)

theorem hexDigit?_hexUnit : ∀ digit < 16, hexDigit? (hexUnit digit) = some digit := by decide

theorem hexValue?_hexUnit (unit : UInt16) :
    hexValue? (hexUnit (unit.toNat / 4096)) (hexUnit (unit.toNat / 256 % 16))
      (hexUnit (unit.toNat / 16 % 16)) (hexUnit (unit.toNat % 16)) = some unit := by
  have hlt := unit.toNat_lt
  have hvalue : 4096 * (unit.toNat / 4096) + 256 * (unit.toNat / 256 % 16) +
      16 * (unit.toNat / 16 % 16) + unit.toNat % 16 = unit.toNat := by omega
  rw [hexValue?, hexDigit?_hexUnit _ (by omega), hexDigit?_hexUnit _ (by omega),
    hexDigit?_hexUnit _ (by omega), hexDigit?_hexUnit _ (by omega)]
  simp only [Option.bind_eq_bind, Option.bind_some, hvalue, UInt16.ofNat_toNat]
  rfl

theorem readUnits_close (rest : Text) : readUnits (34 :: rest) = some ([], rest) := by
  rw [readUnits.eq_def]
  simp only [if_true]

theorem readUnits_of_plain {unit : UInt16} (hquote : unit ≠ 34) (hescape : unit ≠ 92)
    (hcontrol : ¬unit < 32) (rest : Text) :
    readUnits (unit :: rest) = (readUnits rest).map (Prod.map (List.cons unit) id) := by
  rw [readUnits.eq_def]
  simp only [if_neg hquote, if_neg hescape, if_neg hcontrol]

theorem readUnits_of_mark {mark : UInt16} (hmark : mark ≠ 117) (rest : Text) :
    readUnits (92 :: mark :: rest) =
      (unescape? mark).bind fun value ↦ (readUnits rest).map (Prod.map (List.cons value) id) := by
  rw [readUnits.eq_def]
  simp only [if_neg (show (92 : UInt16) ≠ 34 by decide), if_true, if_neg hmark]
  rfl

theorem readUnits_unicode (first second third fourth : UInt16) (rest : Text) :
    readUnits (92 :: 117 :: first :: second :: third :: fourth :: rest) =
      (hexValue? first second third fourth).bind fun value ↦
        (readUnits rest).map (Prod.map (List.cons value) id) := by
  rw [readUnits.eq_def]
  simp only [if_neg (show (92 : UInt16) ≠ 34 by decide), if_true]
  rfl

theorem unescape?_shortEscape {pair : UInt16 × UInt16} (h : pair ∈ shortEscapes) :
    pair.2 ≠ 117 ∧ unescape? pair.2 = some pair.1 := by
  have hall : shortEscapes.all (fun pair ↦ pair.2 ≠ 117 ∧ unescape? pair.2 = some pair.1) := by
    decide
  exact of_decide_eq_true (List.all_eq_true.mp hall pair h)

/-- A unit is read back from its spelling. -/
theorem readUnits_escapeUnit (unit : UInt16) (rest : Text) :
    readUnits (escapeUnit unit ++ rest) = (readUnits rest).map (Prod.map (List.cons unit) id) := by
  unfold escapeUnit
  split
  · rename_i mark hmark
    obtain ⟨before, after, heq, -⟩ := List.lookup_eq_some_iff.mp hmark
    obtain ⟨hunicode, hvalue⟩ := @unescape?_shortEscape (unit, mark) (by simp [heq])
    rw [List.cons_append, List.cons_append, List.nil_append, readUnits_of_mark hunicode, hvalue]
    rfl
  · rename_i hnone
    split_ifs with hplain
    · simp only [unicodeEscape, List.cons_append, List.nil_append]
      rw [readUnits_unicode, hexValue?_hexUnit]
      rfl
    · have hcontrol : ¬unit < 32 := fun h ↦ hplain (by simp [h])
      apply readUnits_of_plain _ _ hcontrol
      · rintro rfl
        cases hnone
      · rintro rfl
        cases hnone

/-- A string is read back from its spelling, whatever follows. -/
theorem readUnits_quoteUnits (text rest : Text) :
    readUnits (quoteUnits text ++ 34 :: rest) = some (text, rest) := by
  induction text using quoteUnits.induct with
  | case1 => exact readUnits_close rest
  | case2 unit =>
      rw [quoteUnits, readUnits_escapeUnit, readUnits_close]
      rfl
  | case3 unit next text hpair ih =>
      rw [quoteUnits, if_pos hpair, List.cons_append, List.cons_append]
      simp only [isHighSurrogate, isLowSurrogate, Bool.and_eq_true, decide_eq_true_eq] at hpair
      obtain ⟨⟨hunit, -⟩, hnext, -⟩ := hpair
      have hplain : ∀ {u : UInt16}, 0xd800 ≤ u → u ≠ 34 ∧ u ≠ 92 ∧ ¬u < 32 := by
        intro u hu
        rw [UInt16.le_iff_toNat_le] at hu
        refine ⟨?_, ?_, ?_⟩
        · rintro rfl
          exact absurd hu (by decide)
        · rintro rfl
          exact absurd hu (by decide)
        · rw [UInt16.lt_iff_toNat_lt]
          exact fun hlt ↦ absurd (hu.trans_lt hlt) (by decide)
      obtain ⟨hquote, hescape, hcontrol⟩ := hplain hunit
      obtain ⟨hquote', hescape', hcontrol'⟩ :=
        hplain (le_trans (show 0xd800 ≤ 0xdc00 by decide) hnext)
      rw [readUnits_of_plain hquote hescape hcontrol, readUnits_of_plain hquote' hescape' hcontrol',
        ih]
      rfl
  | case4 unit next text hpair ih =>
      rw [quoteUnits, if_neg hpair, List.append_assoc, readUnits_escapeUnit, ih]
      rfl

theorem quote_inj {text text' rest rest' : Text} (h : quote text ++ rest = quote text' ++ rest') :
    text = text' ∧ rest = rest' := by
  simp only [quote, List.cons_append, List.append_assoc, List.cons.injEq, true_and,
    List.nil_append] at h
  have hread := congrArg readUnits h
  rw [readUnits_quoteUnits, readUnits_quoteUnits] at hread
  exact Prod.mk.inj (Option.some.inj hread)

/-! ### Documents -/

/-- Texts with commas between them. -/
def join : List Text → Text
  | [] => []
  | [text] => text
  | text :: next :: rest => text ++ 44 :: join (next :: rest)

/-- The units that numbers are written with. -/
def numeralUnits : Text := unitsOf "0123456789+-.e"

/-- A spelling of numbers. -/
structure Numerals (N : Type) where
  text : N → Text
  text_injective : Function.Injective text
  text_ne (value : N) : text value ≠ []
  text_units (value : N) : ∀ unit ∈ text value, unit ∈ numeralUnits

variable {N : Type}

mutual

/-- The text of a document, with its members in their order. -/
def render (numerals : Numerals N) : Json N → Text
  | .null => unitsOf "null"
  | .bool true => unitsOf "true"
  | .bool false => unitsOf "false"
  | .number value => numerals.text value
  | .string value => quote value
  | .array items => 91 :: (join (renderItems numerals items) ++ [93])
  | .object members => 123 :: (join (renderMembers numerals members) ++ [125])

def renderItems (numerals : Numerals N) : List (Json N) → List Text
  | [] => []
  | item :: items => render numerals item :: renderItems numerals items

def renderMembers (numerals : Numerals N) : List (Text × Json N) → List Text
  | [] => []
  | (key, value) :: members =>
      (quote key ++ 58 :: render numerals value) :: renderMembers numerals members

end

def renderMember (numerals : Numerals N) (member : Text × Json N) : Text :=
  quote member.1 ++ 58 :: render numerals member.2

theorem renderItems_eq (numerals : Numerals N) (items : List (Json N)) :
    renderItems numerals items = items.map (render numerals) := by
  induction items with
  | nil => rfl
  | cons item items ih => rw [renderItems, ih, List.map_cons]

theorem renderMembers_eq (numerals : Numerals N) (members : List (Text × Json N)) :
    renderMembers numerals members = members.map (renderMember numerals) := by
  induction members with
  | nil => rfl
  | cons member members ih =>
      rw [renderMembers, ih, List.map_cons]
      rfl

/-! ### Reading a document -/

/-- No numeral goes on in the text. -/
def Ends (rest : Text) : Prop := ∀ unit ∈ rest.head?, unit ∉ numeralUnits

theorem ends_cons {unit : UInt16} (h : unit ∉ numeralUnits) (rest : Text) :
    Ends (unit :: rest) := by
  rintro other ⟨⟩
  exact h

/-- A numeral ends where its units do. -/
theorem numeral_inj {text text' rest rest' : Text} (htext : ∀ unit ∈ text, unit ∈ numeralUnits)
    (htext' : ∀ unit ∈ text', unit ∈ numeralUnits) (hrest : Ends rest) (hrest' : Ends rest')
    (h : text ++ rest = text' ++ rest') : text = text' ∧ rest = rest' := by
  induction text generalizing text' with
  | nil =>
      cases text' with
      | nil => exact ⟨rfl, h⟩
      | cons unit text' =>
          rw [List.nil_append] at h
          exact absurd (htext' unit List.mem_cons_self) (hrest unit (by simp [h]))
  | cons unit text ih =>
      cases text' with
      | nil =>
          rw [List.nil_append] at h
          exact absurd (htext unit List.mem_cons_self) (hrest' unit (by simp [← h]))
      | cons unit' text' =>
          obtain ⟨rfl, htail⟩ := List.cons.inj h
          obtain ⟨rfl, hends⟩ := ih (fun u hu ↦ htext u (List.mem_cons_of_mem _ hu))
            (fun u hu ↦ htext' u (List.mem_cons_of_mem _ hu)) htail
          exact ⟨rfl, hends⟩

theorem join_cons (text : Text) (texts : List Text) (rest : Text) :
    join (text :: texts) ++ rest =
      text ++ (if texts = [] then rest else 44 :: (join texts ++ rest)) := by
  cases texts with
  | nil => rfl
  | cons next texts =>
      rw [join, if_neg (List.cons_ne_nil _ _), List.append_assoc, List.cons_append]

/-- A list is read off the texts of its items, each of which says where it ends. -/
theorem join_inj {α : Type} {write : α → Text} {close : UInt16} (hclose : close ∉ numeralUnits)
    (hcomma : close ≠ 44) (hopen : ∀ item rest rest', write item ++ rest ≠ close :: rest')
    {items items' : List α} {rest rest' : Text}
    (hitems : ∀ item ∈ items, ∀ item' rest rest', Ends rest → Ends rest' →
      write item ++ rest = write item' ++ rest' → item = item' ∧ rest = rest')
    (h : join (items.map write) ++ close :: rest = join (items'.map write) ++ close :: rest') :
    items = items' ∧ rest = rest' := by
  have hends : ∀ (texts : List Text) (rest : Text),
      Ends (if texts = [] then close :: rest else 44 :: (join texts ++ close :: rest)) := by
    intro texts rest
    split_ifs
    · exact ends_cons hclose rest
    · exact ends_cons (by decide) _
  induction items generalizing items' with
  | nil =>
      cases items' with
      | nil => exact ⟨rfl, (List.cons.inj h).2⟩
      | cons item' items' =>
          rw [List.map_cons, join_cons] at h
          exact absurd h.symm (hopen item' _ _)
  | cons item items ih =>
      cases items' with
      | nil =>
          rw [List.map_cons, join_cons] at h
          exact absurd h (hopen item _ _)
      | cons item' items' =>
          rw [List.map_cons, List.map_cons, join_cons, join_cons] at h
          obtain ⟨rfl, htail⟩ :=
            hitems item List.mem_cons_self item' _ _ (hends _ _) (hends _ _) h
          simp only [List.map_eq_nil_iff] at htail
          by_cases hnil : items = [] <;> by_cases hnil' : items' = []
          · subst hnil hnil'
            exact ⟨rfl, (List.cons.inj htail).2⟩
          · rw [if_pos hnil, if_neg hnil'] at htail
            exact absurd (List.cons.inj htail).1 hcomma
          · rw [if_neg hnil, if_pos hnil'] at htail
            exact absurd (List.cons.inj htail).1.symm hcomma
          · rw [if_neg hnil, if_neg hnil'] at htail
            obtain ⟨rfl, hrest⟩ :=
              ih (fun other hother ↦ hitems other (List.mem_cons_of_mem _ hother))
                (List.cons.inj htail).2
            exact ⟨rfl, hrest⟩

/-- The kinds of documents. -/
inductive Kind
  | null
  | bool
  | number
  | string
  | array
  | object
deriving DecidableEq

def kind : Json N → Kind
  | .null => .null
  | .bool _ => .bool
  | .number _ => .number
  | .string _ => .string
  | .array _ => .array
  | .object _ => .object

/-- The kind of document that begins with the unit. -/
def kindOf (unit : UInt16) : Option Kind :=
  if unit = 110 then some .null
  else if unit = 116 ∨ unit = 102 then some .bool
  else if unit = 34 then some .string
  else if unit = 91 then some .array
  else if unit = 123 then some .object
  else if unit ∈ numeralUnits then some .number
  else none

theorem kindOf_numeral {unit : UInt16} (h : unit ∈ numeralUnits) : kindOf unit = some .number := by
  have hall : numeralUnits.all fun unit ↦ kindOf unit = some .number := by decide
  exact of_decide_eq_true (List.all_eq_true.mp hall unit h)

theorem kindOf_render (numerals : Numerals N) (document : Json N) :
    ∃ unit rest, render numerals document = unit :: rest ∧ kindOf unit = some document.kind := by
  cases document with
  | null => exact ⟨_, _, rfl, rfl⟩
  | bool value => cases value <;> exact ⟨_, _, rfl, rfl⟩
  | number value =>
      obtain ⟨unit, rest, htext⟩ := List.exists_cons_of_ne_nil (numerals.text_ne value)
      have hunit := numerals.text_units value unit (by simp [htext])
      exact ⟨unit, rest, htext, kindOf_numeral hunit⟩
  | string value => exact ⟨_, _, rfl, rfl⟩
  | array items => exact ⟨_, _, rfl, rfl⟩
  | object members => exact ⟨_, _, rfl, rfl⟩

/-- A unit that begins no document does not begin a text. -/
theorem render_append_ne (numerals : Numerals N) {close : UInt16} (hclose : kindOf close = none)
    (document : Json N) (rest rest' : Text) :
    render numerals document ++ rest ≠ close :: rest' := by
  obtain ⟨unit, tail, htext, hkind⟩ := kindOf_render numerals document
  rw [htext, List.cons_append]
  rintro h
  rw [(List.cons.inj h).1, hclose] at hkind
  cases hkind

theorem kind_eq_of_render (numerals : Numerals N) {document document' : Json N} {rest rest' : Text}
    (h : render numerals document ++ rest = render numerals document' ++ rest') :
    document.kind = document'.kind := by
  obtain ⟨unit, tail, htext, hkind⟩ := kindOf_render numerals document
  obtain ⟨unit', tail', htext', hkind'⟩ := kindOf_render numerals document'
  rw [htext, htext', List.cons_append, List.cons_append] at h
  rw [(List.cons.inj h).1, hkind'] at hkind
  exact (Option.some.inj hkind).symm

/-- A document is read off its text, whatever follows that is no part of a numeral. -/
theorem render_append_inj (numerals : Numerals N) (document : Json N) :
    ∀ (document' : Json N) (rest rest' : Text), Ends rest → Ends rest' →
      render numerals document ++ rest = render numerals document' ++ rest' →
      document = document' ∧ rest = rest' := by
  induction document using Json.induction with
  | null =>
      intro document' rest rest' _ _ h
      have hkind := kind_eq_of_render numerals h
      cases document' with
      | null => exact ⟨rfl, List.append_cancel_left h⟩
      | _ => cases hkind
  | bool value =>
      intro document' rest rest' _ _ h
      have hkind := kind_eq_of_render numerals h
      cases document' with
      | bool value' =>
          cases value <;> cases value'
          · exact ⟨rfl, List.append_cancel_left h⟩
          · cases h
          · cases h
          · exact ⟨rfl, List.append_cancel_left h⟩
      | _ => cases hkind
  | number value =>
      intro document' rest rest' hrest hrest' h
      have hkind := kind_eq_of_render numerals h
      cases document' with
      | number value' =>
          obtain ⟨htext, hends⟩ := numeral_inj (numerals.text_units value)
            (numerals.text_units value') hrest hrest' h
          rw [numerals.text_injective htext]
          exact ⟨rfl, hends⟩
      | _ => cases hkind
  | string value =>
      intro document' rest rest' _ _ h
      have hkind := kind_eq_of_render numerals h
      cases document' with
      | string value' =>
          obtain ⟨rfl, hends⟩ := quote_inj h
          exact ⟨rfl, hends⟩
      | _ => cases hkind
  | array items ih =>
      intro document' rest rest' _ _ h
      have hkind := kind_eq_of_render numerals h
      cases document' with
      | array items' =>
          simp only [render, renderItems_eq, List.cons_append, List.append_assoc, List.cons.injEq,
            true_and, List.nil_append] at h
          have hopen := fun item ↦ @render_append_ne N numerals 93 (by decide) item
          obtain ⟨rfl, hends⟩ := join_inj (by decide) (by decide) hopen ih h
          exact ⟨rfl, hends⟩
      | _ => cases hkind
  | object members ih =>
      intro document' rest rest' _ _ h
      have hkind := kind_eq_of_render numerals h
      cases document' with
      | object members' =>
          simp only [render, renderMembers_eq, List.cons_append, List.append_assoc, List.cons.injEq,
            true_and, List.nil_append] at h
          have hopen : ∀ (member : Text × Json N) (rest rest' : Text),
              renderMember numerals member ++ rest ≠ 125 :: rest' := by
            intro member rest rest' heq
            cases (List.cons.inj heq).1
          obtain ⟨rfl, hends⟩ := join_inj (by decide) (by decide) hopen (by
            rintro ⟨key, value⟩ hmember ⟨key', value'⟩ rest rest' hrest hrest' heq
            simp only [renderMember, List.append_assoc, List.cons_append] at heq
            obtain ⟨rfl, hvalues⟩ := quote_inj heq
            obtain ⟨rfl, hends⟩ :=
              ih (key, value) hmember value' _ _ hrest hrest' (List.cons.inj hvalues).2
            exact ⟨rfl, hends⟩) h
          exact ⟨rfl, hends⟩
      | _ => cases hkind

/-- Different documents have different texts. -/
theorem render_injective (numerals : Numerals N) : Function.Injective (render numerals) := by
  intro document document' h
  have hends : Ends [] := nofun
  refine (render_append_inj numerals document document' [] [] hends hends ?_).1
  rw [h]

end Json
