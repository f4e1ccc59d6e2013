import Dona.Library.Decimals
import Dona.Library.JsonText
import Mathlib.Data.List.TakeWhile

/-!
# The grammar of JSON

Which texts are documents, and of what. The grammar is stated over what is left of a text: a
production takes the spelling of a value off the front and says what follows it. A number stands
for its own spelling, as the grammar gives numbers no value.
-/

namespace Json

open Decimals (isDigit span_append)

/-! ### Blanks -/

/-- Tab, line feed, carriage return and space. -/
def isBlank (unit : UInt16) : Bool := unit == 9 || unit == 10 || unit == 13 || unit == 32

/-- Only blanks stand before `rest`. -/
inductive Blanks (rest : Text) : Text → Prop
  | nil : Blanks rest rest
  | cons {unit : UInt16} {text : Text} :
      isBlank unit = true → Blanks rest text → Blanks rest (unit :: text)

/-! ### Numbers -/

/-- `0|[1-9]\d*` -/
inductive IsNatural : Text → Prop
  | zero : IsNatural [48]
  | positive {unit : UInt16} {digits : Text} : unit ≠ 48 → isDigit unit = true →
      (∀ digit ∈ digits, isDigit digit = true) → IsNatural (unit :: digits)

/-- `-?(0|[1-9]\d*)` -/
inductive IsInteger : Text → Prop
  | natural {digits : Text} : IsNatural digits → IsInteger digits
  | negative {digits : Text} : IsNatural digits → IsInteger (45 :: digits)

/-- `(\.\d+)?` -/
inductive IsFraction : Text → Prop
  | none : IsFraction []
  | some {digits : Text} : digits ≠ [] → (∀ digit ∈ digits, isDigit digit = true) →
      IsFraction (46 :: digits)

/-- `([eE][+-]?\d+)?` -/
inductive IsExponent : Text → Prop
  | none : IsExponent []
  | some {mark : UInt16} {sign digits : Text} : mark = 101 ∨ mark = 69 →
      sign ∈ [[], [43], [45]] → digits ≠ [] → (∀ digit ∈ digits, isDigit digit = true) →
      IsExponent (mark :: (sign ++ digits))

inductive IsNumber : Text → Prop
  | mk {integer fraction exponent : Text} : IsInteger integer → IsFraction fraction →
      IsExponent exponent → IsNumber (integer ++ (fraction ++ exponent))

/-! ### Documents -/

/-- A name and its colon, up to the value. -/
inductive ReadsKey : Text → Text → Text → Prop
  | mk {text quoted key stop value start : Text} : Blanks (34 :: quoted) text →
      readUnits quoted = some (key, stop) → Blanks (58 :: value) stop → Blanks start value →
      ReadsKey text key start

mutual

/-- A value is spelled before `rest`. -/
inductive ReadsValue : Text → Json Text → Text → Prop
  | null (rest : Text) : ReadsValue (unitsOf "null" ++ rest) .null rest
  | true (rest : Text) : ReadsValue (unitsOf "true" ++ rest) (.bool true) rest
  | false (rest : Text) : ReadsValue (unitsOf "false" ++ rest) (.bool false) rest
  | number {lexeme : Text} (rest : Text) : IsNumber lexeme →
      ReadsValue (lexeme ++ rest) (.number lexeme) rest
  | string {text value rest : Text} : readUnits text = some (value, rest) →
      ReadsValue (34 :: text) (.string value) rest
  | emptyArray {text rest : Text} : Blanks (93 :: rest) text →
      ReadsValue (91 :: text) (.array []) rest
  | array {text rest : Text} {items : List (Json Text)} : ReadsItems text items rest →
      ReadsValue (91 :: text) (.array items) rest
  | emptyObject {text rest : Text} : Blanks (125 :: rest) text →
      ReadsValue (123 :: text) (.object []) rest
  | object {text rest : Text} {members : List (Text × Json Text)} : ReadsMembers text members rest →
      ReadsValue (123 :: text) (.object members) rest

/-- Items, and the bracket that closes them. -/
inductive ReadsItems : Text → List (Json Text) → Text → Prop
  | last {text start stop rest : Text} {item : Json Text} : Blanks start text →
      ReadsValue start item stop → Blanks (93 :: rest) stop → ReadsItems text [item] rest
  | cons {text start stop next rest : Text} {item : Json Text} {items : List (Json Text)} :
      Blanks start text → ReadsValue start item stop → Blanks (44 :: next) stop →
      ReadsItems next items rest → ReadsItems text (item :: items) rest

/-- Members, and the brace that closes them. -/
inductive ReadsMembers : Text → List (Text × Json Text) → Text → Prop
  | last {text start stop rest : Text} {member : Text × Json Text} : ReadsKey text member.1 start →
      ReadsValue start member.2 stop → Blanks (125 :: rest) stop → ReadsMembers text [member] rest
  | cons {text start stop next rest : Text} {member : Text × Json Text}
      {members : List (Text × Json Text)} : ReadsKey text member.1 start →
      ReadsValue start member.2 stop → Blanks (44 :: next) stop →
      ReadsMembers next members rest → ReadsMembers text (member :: members) rest

end

/-- The text is a document, which it spells. -/
def Reads (text : Text) (document : Json Text) : Prop :=
  ∃ start stop, Blanks start text ∧ ReadsValue start document stop ∧ Blanks [] stop

/-! ### The numbers of a document -/

variable {N : Type}

mutual

/-- The numbers of a document, in the order of its text. -/
def numbers : Json N → List N
  | .number value => [value]
  | .array items => numbersOfItems items
  | .object members => numbersOfMembers members
  | _ => []

def numbersOfItems : List (Json N) → List N
  | [] => []
  | item :: items => item.numbers ++ numbersOfItems items

def numbersOfMembers : List (Text × Json N) → List N
  | [] => []
  | (_, value) :: members => value.numbers ++ numbersOfMembers members

end

/-! ### The longest number -/

/-- `-?(?:0|[1-9]\d*)`, at the head of a text, and what follows it. -/
def matchInteger : Text → Option (Text × Text)
  | [] => none
  | unit :: rest =>
      if unit = 45 then (matchNatural rest).map (Prod.map (List.cons 45) id)
      else matchNatural (unit :: rest)
where
  matchNatural : Text → Option (Text × Text)
    | [] => none
    | unit :: rest =>
        if unit = 48 then some ([48], rest)
        else if isDigit unit then some (unit :: rest.takeWhile isDigit, rest.dropWhile isDigit)
        else none

/-- `(?:\.\d+)?` -/
def matchFraction : Text → Text × Text
  | [] => ([], [])
  | unit :: rest =>
      if unit = 46 ∧ rest.takeWhile isDigit ≠ [] then
        (46 :: rest.takeWhile isDigit, rest.dropWhile isDigit)
      else ([], unit :: rest)

/-- `[+-]?` -/
def matchSign : Text → Text × Text
  | [] => ([], [])
  | unit :: rest => if unit = 43 ∨ unit = 45 then ([unit], rest) else ([], unit :: rest)

/-- `(?:[eE][+-]?\d+)?` -/
def matchExponent : Text → Text × Text
  | [] => ([], [])
  | unit :: rest =>
      let (sign, digits) := matchSign rest
      if (unit = 101 ∨ unit = 69) ∧ digits.takeWhile isDigit ≠ [] then
        (unit :: (sign ++ digits.takeWhile isDigit), digits.dropWhile isDigit)
      else ([], unit :: rest)

/-- `-?(?:0|[1-9]\d*)(?:\.\d+)?(?:[eE][+-]?\d+)?` -/
def matchNumber (text : Text) : Option (Text × Text) := do
  let (integer, rest) ← matchInteger text
  let (fraction, rest) := matchFraction rest
  let (exponent, rest) := matchExponent rest
  some (integer ++ (fraction ++ exponent), rest)

/-- No number goes on in the text. -/
def EndsNumber (rest : Text) : Prop :=
  ∀ unit ∈ rest.head?, isDigit unit = false ∧ unit ∉ ([43, 45, 46, 69, 101] : Text)

theorem endsNumber_cons {unit : UInt16} (hdigit : isDigit unit = false)
    (hmark : unit ∉ ([43, 45, 46, 69, 101] : Text)) (rest : Text) : EndsNumber (unit :: rest) := by
  rintro other ⟨⟩
  exact ⟨hdigit, hmark⟩

theorem isBlank_iff {unit : UInt16} :
    isBlank unit = true ↔ unit ∈ ([9, 10, 13, 32] : Text) := by
  simp [isBlank, or_assoc]

theorem EndsNumber.blanks {rest text : Text} (hrest : EndsNumber rest) (h : Blanks rest text) :
    EndsNumber text := by
  cases h with
  | nil => exact hrest
  | cons hblank =>
      rw [isBlank_iff] at hblank
      simp only [List.mem_cons, List.not_mem_nil, or_false] at hblank
      rcases hblank with rfl | rfl | rfl | rfl <;> exact endsNumber_cons (by decide) (by decide) _

section Match

variable {text digits rest integer fraction exponent : Text}

theorem matchNatural_of_isNatural (h : IsNatural digits)
    (hrest : ∀ unit ∈ rest.head?, isDigit unit = false) :
    matchInteger.matchNatural (digits ++ rest) = some (digits, rest) := by
  cases h with
  | zero => rfl
  | @positive unit digits hzero hunit hdigits =>
      obtain ⟨htake, hdrop⟩ := span_append hdigits hrest
      rw [List.cons_append, matchInteger.matchNatural, if_neg hzero, if_pos hunit, htake, hdrop]

theorem IsNatural.head_ne (h : IsNatural digits) :
    ∃ unit rest, digits = unit :: rest ∧ unit ≠ 45 := by
  cases h with
  | zero => exact ⟨48, [], rfl, by decide⟩
  | @positive unit digits hzero hunit hdigits =>
      refine ⟨unit, digits, rfl, ?_⟩
      rintro rfl
      cases hunit

theorem matchInteger_of_isInteger (h : IsInteger integer)
    (hrest : ∀ unit ∈ rest.head?, isDigit unit = false) :
    matchInteger (integer ++ rest) = some (integer, rest) := by
  cases h with
  | natural hnatural =>
      have hmatch := matchNatural_of_isNatural hnatural hrest
      obtain ⟨unit, digits, rfl, hunit⟩ := hnatural.head_ne
      rw [List.cons_append, matchInteger, if_neg hunit]
      exact hmatch
  | negative hnatural =>
      rw [List.cons_append, matchInteger, if_pos rfl, matchNatural_of_isNatural hnatural hrest]
      rfl

theorem matchFraction_of_isFraction (h : IsFraction fraction)
    (hrest : ∀ unit ∈ rest.head?, isDigit unit = false ∧ unit ≠ 46) :
    matchFraction (fraction ++ rest) = (fraction, rest) := by
  cases h with
  | none =>
      cases rest with
      | nil => rfl
      | cons unit rest =>
          rw [List.nil_append, matchFraction, if_neg]
          exact fun hdot ↦ (hrest unit rfl).2 hdot.1
  | some hne hdigits =>
      obtain ⟨htake, hdrop⟩ := span_append hdigits fun unit hunit ↦ (hrest unit hunit).1
      rw [List.cons_append, matchFraction, htake, hdrop, if_pos ⟨rfl, hne⟩]

theorem matchSign_append {sign : Text} (h : sign ∈ ([[], [43], [45]] : List Text))
    (hne : digits ≠ []) (hdigits : ∀ digit ∈ digits, isDigit digit = true) :
    matchSign (sign ++ (digits ++ rest)) = (sign, digits ++ rest) := by
  obtain ⟨digit, digits, rfl⟩ := List.exists_cons_of_ne_nil hne
  have hdigit := hdigits digit List.mem_cons_self
  have hsign : ¬(digit = 43 ∨ digit = 45) := by
    rintro (rfl | rfl) <;> cases hdigit
  simp only [List.mem_cons, List.not_mem_nil, or_false] at h
  rcases h with rfl | rfl | rfl
  · rw [List.nil_append, List.cons_append, matchSign, if_neg hsign]
  · rfl
  · rfl

theorem matchExponent_of_isExponent (h : IsExponent exponent)
    (hrest : ∀ unit ∈ rest.head?, isDigit unit = false ∧ unit ≠ 101 ∧ unit ≠ 69) :
    matchExponent (exponent ++ rest) = (exponent, rest) := by
  cases h with
  | none =>
      cases rest with
      | nil => rfl
      | cons unit rest =>
          rw [List.nil_append, matchExponent]
          dsimp only
          rw [if_neg]
          rintro ⟨rfl | rfl, -⟩
          · exact (hrest _ rfl).2.1 rfl
          · exact (hrest _ rfl).2.2 rfl
  | some hmark hsign hne hdigits =>
      obtain ⟨htake, hdrop⟩ := span_append hdigits fun unit hunit ↦ (hrest unit hunit).1
      rw [List.cons_append, matchExponent, List.append_assoc, matchSign_append hsign hne hdigits]
      dsimp only
      rw [htake, hdrop, if_pos ⟨hmark, hne⟩]

theorem IsNumber.exists_head {lexeme : Text} (h : IsNumber lexeme) :
    ∃ unit more, lexeme = unit :: more ∧ (unit = 45 ∨ isDigit unit = true) := by
  obtain @⟨integer, fraction, exponent, hinteger, -, -⟩ := h
  cases hinteger with
  | natural hnatural =>
      cases hnatural with
      | zero => exact ⟨48, _, rfl, .inr rfl⟩
      | positive hzero hdigit => exact ⟨_, _, rfl, .inr hdigit⟩
  | negative => exact ⟨45, _, rfl, .inl rfl⟩

/-- A number is matched to its end. -/
theorem matchNumber_of_isNumber {lexeme : Text} (h : IsNumber lexeme) (hrest : EndsNumber rest) :
    matchNumber (lexeme ++ rest) = some (lexeme, rest) := by
  obtain @⟨integer, fraction, exponent, hinteger, hfraction, hexponent⟩ := h
  have hends : ∀ unit ∈ rest.head?,
      isDigit unit = false ∧ unit ≠ 46 ∧ unit ≠ 101 ∧ unit ≠ 69 := by
    intro unit hunit
    obtain ⟨hdigit, hmem⟩ := hrest unit hunit
    refine ⟨hdigit, ?_, ?_, ?_⟩ <;> rintro rfl <;> exact hmem (by decide)
  have hexponentEnds : ∀ unit ∈ (exponent ++ rest).head?, isDigit unit = false ∧ unit ≠ 46 := by
    cases hexponent with
    | none => exact fun unit hunit ↦ ⟨(hends unit hunit).1, (hends unit hunit).2.1⟩
    | some hmark =>
        rintro unit ⟨⟩
        rcases hmark with rfl | rfl <;> decide
  have hfractionEnds : ∀ unit ∈ (fraction ++ (exponent ++ rest)).head?, isDigit unit = false := by
    cases hfraction with
    | none => exact fun unit hunit ↦ (hexponentEnds unit hunit).1
    | some =>
        rintro unit ⟨⟩
        decide
  have hexponentMatch := matchExponent_of_isExponent hexponent
    fun unit hunit ↦ ⟨(hends unit hunit).1, (hends unit hunit).2.2⟩
  rw [matchNumber, List.append_assoc, List.append_assoc,
    matchInteger_of_isInteger hinteger hfractionEnds]
  simp only [Option.bind_eq_bind, Option.bind_some,
    matchFraction_of_isFraction hfraction hexponentEnds, hexponentMatch]

theorem isNatural_of_matchNatural (h : matchInteger.matchNatural text = some (digits, rest)) :
    IsNatural digits ∧ digits ++ rest = text := by
  cases text with
  | nil => cases h
  | cons unit text =>
      rw [matchInteger.matchNatural] at h
      split_ifs at h with hzero hdigit
      · obtain ⟨rfl, rfl⟩ := Prod.mk.inj (Option.some.inj h)
        exact ⟨.zero, by rw [hzero]; rfl⟩
      · obtain ⟨rfl, rfl⟩ := Prod.mk.inj (Option.some.inj h)
        refine ⟨.positive hzero hdigit fun digit hmem ↦ List.mem_takeWhile_imp hmem, ?_⟩
        rw [List.cons_append, List.takeWhile_append_dropWhile]

theorem isInteger_of_matchInteger (h : matchInteger text = some (integer, rest)) :
    IsInteger integer ∧ integer ++ rest = text := by
  cases text with
  | nil => cases h
  | cons unit text =>
      rw [matchInteger] at h
      split_ifs at h with hsign
      · obtain ⟨⟨digits, rest'⟩, hdigits, hpair⟩ := Option.map_eq_some_iff.1 h
        obtain ⟨rfl, rfl⟩ := Prod.mk.inj hpair
        obtain ⟨hnatural, rfl⟩ := isNatural_of_matchNatural hdigits
        exact ⟨.negative hnatural, by rw [hsign]; rfl⟩
      · obtain ⟨hnatural, happend⟩ := isNatural_of_matchNatural h
        exact ⟨.natural hnatural, happend⟩

theorem IsInteger.ne_nil (h : IsInteger integer) : integer ≠ [] := by
  cases h with
  | natural hnatural =>
      obtain ⟨unit, digits, rfl, -⟩ := hnatural.head_ne
      exact List.cons_ne_nil _ _
  | negative => exact List.cons_ne_nil _ _

/-- `/^-?(?:0|[1-9]\d*)$/` -/
def testInteger (text : Text) : Bool := (matchInteger text).any (·.2 = [])

theorem testInteger_iff : testInteger text = true ↔ IsInteger text := by
  constructor
  · intro h
    rw [testInteger, Option.any_eq_true] at h
    obtain ⟨⟨integer, rest⟩, hmatch, hrest⟩ := h
    obtain ⟨hinteger, rfl⟩ := isInteger_of_matchInteger hmatch
    obtain rfl : rest = [] := of_decide_eq_true hrest
    rwa [List.append_nil]
  · intro h
    have hmatch := @matchInteger_of_isInteger [] text h (by simp)
    rw [List.append_nil] at hmatch
    rw [testInteger, hmatch]
    rfl

theorem matchFraction_append (text : Text) :
    (matchFraction text).1 ++ (matchFraction text).2 = text := by
  cases text with
  | nil => rfl
  | cons unit text =>
      rw [matchFraction]
      split_ifs with hfraction
      · rw [hfraction.1, List.cons_append, List.takeWhile_append_dropWhile]
      · rfl

theorem matchSign_append_eq (text : Text) : (matchSign text).1 ++ (matchSign text).2 = text := by
  cases text with
  | nil => rfl
  | cons unit text =>
      rw [matchSign]
      split_ifs <;> rfl

theorem matchExponent_append (text : Text) :
    (matchExponent text).1 ++ (matchExponent text).2 = text := by
  cases text with
  | nil => rfl
  | cons unit text =>
      rw [matchExponent]
      dsimp only
      split_ifs
      · rw [List.cons_append, List.append_assoc, List.takeWhile_append_dropWhile,
          matchSign_append_eq]
      · rfl

/-- A match is a part of the text, and not empty. -/
theorem append_of_matchNumber {lexeme : Text} (h : matchNumber text = some (lexeme, rest)) :
    lexeme ≠ [] ∧ lexeme ++ rest = text := by
  simp only [matchNumber, Option.bind_eq_bind, Option.bind_eq_some_iff] at h
  obtain ⟨⟨integer, rest₁⟩, hmatch, h⟩ := h
  obtain ⟨hinteger, rfl⟩ := isInteger_of_matchInteger hmatch
  obtain ⟨rfl, rfl⟩ := Prod.mk.inj (Option.some.inj h)
  refine ⟨fun hnil ↦ hinteger.ne_nil (List.append_eq_nil_iff.1 hnil).1, ?_⟩
  rw [List.append_assoc, List.append_assoc, matchExponent_append, matchFraction_append]

end Match

end Json
