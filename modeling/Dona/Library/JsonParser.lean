import Dona.Library.JsonGrammar

/-!
# Parsing JSON

A parser that reads a value off the front of a text, and the proof that it accepts the texts of the
grammar: what it reads is spelled there, and what is spelled there it reads, with fuel for every
unit of the text. A text has then at most one document.
-/

namespace Json

open Decimals (isDigit)

/-! ### The parser -/

def skipBlanks (text : Text) : Text := text.dropWhile isBlank

/-- What follows the unit, which blanks may precede. -/
def expect (unit : UInt16) (text : Text) : Option Text :=
  if (skipBlanks text).head? = some unit then some (skipBlanks text).tail else none

/-- What follows a word. -/
def afterWord (word text : Text) : Option Text :=
  if text.take word.length = word then some (text.drop word.length) else none

def parseScalar (text : Text) : Option (Json Text × Text) :=
  match afterWord (unitsOf "null") text with
  | some rest => some (.null, rest)
  | none =>
      match afterWord (unitsOf "true") text with
      | some rest => some (.bool true, rest)
      | none =>
          match afterWord (unitsOf "false") text with
          | some rest => some (.bool false, rest)
          | none => (matchNumber text).map fun token ↦ (.number token.1, token.2)

def parseKey (text : Text) : Option (Text × Text) := do
  let quoted ← expect 34 text
  let (key, stop) ← readUnits quoted
  let value ← expect 58 stop
  some (key, skipBlanks value)

mutual

def parseValue : ℕ → Text → Option (Json Text × Text)
  | 0, _ => none
  | _ + 1, [] => none
  | fuel + 1, unit :: rest =>
      if unit = 34 then (readUnits rest).map fun string ↦ (.string string.1, string.2)
      else if unit = 91 then
        match expect 93 rest with
        | some after => some (.array [], after)
        | none => (parseItems fuel rest).map fun items ↦ (.array items.1, items.2)
      else if unit = 123 then
        match expect 125 rest with
        | some after => some (.object [], after)
        | none => (parseMembers fuel rest).map fun members ↦ (.object members.1, members.2)
      else parseScalar (unit :: rest)

def parseItems : ℕ → Text → Option (List (Json Text) × Text)
  | 0, _ => none
  | fuel + 1, text => do
      let (item, stop) ← parseValue fuel (skipBlanks text)
      match expect 93 stop with
      | some rest => some ([item], rest)
      | none => do
          let next ← expect 44 stop
          let (items, rest) ← parseItems fuel next
          some (item :: items, rest)

def parseMembers : ℕ → Text → Option (List (Text × Json Text) × Text)
  | 0, _ => none
  | fuel + 1, text => do
      let (key, start) ← parseKey text
      let (value, stop) ← parseValue fuel start
      match expect 125 stop with
      | some rest => some ([(key, value)], rest)
      | none => do
          let next ← expect 44 stop
          let (members, rest) ← parseMembers fuel next
          some ((key, value) :: members, rest)

end

/-- The document that the text spells. -/
def parse (text : Text) : Option (Json Text) := do
  let (document, stop) ← parseValue (2 * text.length) (skipBlanks text)
  if skipBlanks stop = [] then some document else none

/-! ### Blanks and words -/

variable {text rest start stop word lexeme : Text} {unit : UInt16}

theorem blanks_skipBlanks (text : Text) : Blanks (skipBlanks text) text := by
  induction text with
  | nil => exact .nil
  | cons unit text ih =>
      rw [skipBlanks, List.dropWhile_cons]
      split_ifs with hblank
      · exact .cons hblank ih
      · exact .nil

/-- The blanks before anything else are skipped to the last. -/
theorem skipBlanks_of_blanks (h : Blanks (unit :: rest) text) (hunit : isBlank unit = false) :
    skipBlanks text = unit :: rest := by
  induction h with
  | nil => rw [skipBlanks, List.dropWhile_cons_of_neg (by rw [hunit]; decide)]
  | cons hblank _ ih =>
      rw [skipBlanks, List.dropWhile_cons_of_pos hblank]
      exact ih

theorem skipBlanks_of_blanks_nil (h : Blanks [] text) : skipBlanks text = [] := by
  induction h with
  | nil => rfl
  | cons hblank _ ih =>
      rw [skipBlanks, List.dropWhile_cons_of_pos hblank]
      exact ih

theorem Blanks.length_le (h : Blanks rest text) : rest.length ≤ text.length := by
  induction h with
  | nil => exact le_rfl
  | cons _ _ ih => exact ih.trans (Nat.le_succ _)

theorem blanks_of_expect (h : expect unit text = some rest) : Blanks (unit :: rest) text := by
  rw [expect] at h
  split_ifs at h with hhead
  have hskip := blanks_skipBlanks text
  cases hcase : skipBlanks text with
  | nil =>
      rw [hcase] at hhead
      cases hhead
  | cons head tail =>
      rw [hcase] at hhead h hskip
      cases hhead
      cases h
      exact hskip

theorem expect_of_blanks (h : Blanks (unit :: rest) text) (hunit : isBlank unit = false) :
    expect unit text = some rest := by
  rw [expect, skipBlanks_of_blanks h hunit, if_pos List.head?_cons, List.tail_cons]

theorem expect_eq_none {other : UInt16} (h : Blanks (unit :: rest) text)
    (hunit : isBlank unit = false) (hne : unit ≠ other) : expect other text = none := by
  rw [expect, skipBlanks_of_blanks h hunit, if_neg]
  rintro ⟨⟩
  exact hne rfl

theorem afterWord_eq_some : afterWord word text = some rest ↔ text = word ++ rest := by
  rw [afterWord]
  constructor
  · intro h
    split_ifs at h with hword
    cases h
    calc text = text.take word.length ++ text.drop word.length := (List.take_append_drop _ _).symm
      _ = word ++ text.drop word.length := by rw [hword]
  · rintro rfl
    rw [List.take_left, if_pos rfl, List.drop_left]

theorem afterWord_eq_none {head : UInt16} (hne : unit ≠ head) (word more : Text) :
    afterWord (head :: word) (unit :: more) = none := by
  rw [afterWord, if_neg]
  intro htake
  rw [List.length_cons, List.take_succ_cons] at htake
  exact hne (List.cons.inj htake).1

/-! ### What is read -/

theorem isFraction_matchFraction (text : Text) : IsFraction (matchFraction text).1 := by
  cases text with
  | nil => exact .none
  | cons unit rest =>
      rw [matchFraction]
      split_ifs with hfraction
      · obtain ⟨rfl, hdigits⟩ := hfraction
        exact .some hdigits fun digit hmem ↦ List.mem_takeWhile_imp hmem
      · exact .none

theorem matchSign_mem (text : Text) :
    (matchSign text).1 ∈ ([[], [43], [45]] : List Text) := by
  cases text with
  | nil => exact List.mem_cons_self
  | cons unit rest =>
      rw [matchSign]
      split_ifs with hsign
      · rcases hsign with rfl | rfl
        · exact List.mem_cons_of_mem _ List.mem_cons_self
        · exact List.mem_cons_of_mem _ (List.mem_cons_of_mem _ List.mem_cons_self)
      · exact List.mem_cons_self

theorem isExponent_matchExponent (text : Text) : IsExponent (matchExponent text).1 := by
  cases text with
  | nil => exact .none
  | cons unit rest =>
      have hsign := matchSign_mem rest
      rw [matchExponent]
      dsimp only
      split_ifs with hexponent
      · exact .some hexponent.1 hsign hexponent.2 fun digit hmem ↦ List.mem_takeWhile_imp hmem
      · exact .none

theorem isNumber_of_matchNumber (h : matchNumber text = some (lexeme, rest)) :
    IsNumber lexeme ∧ lexeme ++ rest = text := by
  refine ⟨?_, (append_of_matchNumber h).2⟩
  simp only [matchNumber, Option.bind_eq_bind, Option.bind_eq_some_iff] at h
  obtain ⟨⟨integer, rest'⟩, hmatch, h⟩ := h
  cases h
  exact .mk (isInteger_of_matchInteger hmatch).1 (isFraction_matchFraction _)
    (isExponent_matchExponent _)

theorem readsValue_of_parseScalar {value : Json Text} (h : parseScalar text = some (value, rest)) :
    ReadsValue text value rest := by
  rw [parseScalar] at h
  split at h
  · rename_i hnull
    cases h
    rw [afterWord_eq_some.mp hnull]
    exact .null rest
  split at h
  · rename_i htrue
    cases h
    rw [afterWord_eq_some.mp htrue]
    exact .true rest
  split at h
  · rename_i hfalse
    cases h
    rw [afterWord_eq_some.mp hfalse]
    exact .false rest
  · obtain ⟨⟨lexeme, rest'⟩, hmatch, hpair⟩ := Option.map_eq_some_iff.mp h
    cases hpair
    obtain ⟨hnumber, rfl⟩ := isNumber_of_matchNumber hmatch
    exact .number _ hnumber

theorem readsKey_of_parseKey {key : Text} (h : parseKey text = some (key, start)) :
    ReadsKey text key start := by
  simp only [parseKey, Option.bind_eq_bind, Option.bind_eq_some_iff] at h
  obtain ⟨quoted, hquoted, ⟨key', stop⟩, hread, value, hvalue, hpair⟩ := h
  cases hpair
  exact .mk (blanks_of_expect hquoted) hread (blanks_of_expect hvalue) (blanks_skipBlanks value)

/-- What is read with some fuel is spelled in the text. -/
theorem reads_of_parse (fuel : ℕ) :
    (∀ {text value rest}, parseValue fuel text = some (value, rest) → ReadsValue text value rest) ∧
    (∀ {text items rest}, parseItems fuel text = some (items, rest) → ReadsItems text items rest) ∧
    (∀ {text members rest}, parseMembers fuel text = some (members, rest) →
      ReadsMembers text members rest) := by
  induction fuel with
  | zero =>
      refine ⟨?_, ?_, ?_⟩
      · intro text value rest h
        rw [parseValue] at h
        cases h
      · intro text items rest h
        rw [parseItems] at h
        cases h
      · intro text members rest h
        rw [parseMembers] at h
        cases h
  | succ fuel ih =>
      obtain ⟨ihValue, ihItems, ihMembers⟩ := ih
      refine ⟨?_, ?_, ?_⟩
      · intro text value rest h
        cases text with
        | nil =>
            rw [parseValue] at h
            cases h
        | cons unit inside =>
            rw [parseValue] at h
            split_ifs at h with hquote hbracket hbrace
            · obtain ⟨⟨string, rest'⟩, hread, hpair⟩ := Option.map_eq_some_iff.mp h
              cases hpair
              rw [hquote]
              exact .string hread
            · rw [hbracket]
              split at h
              · rename_i hclose
                cases h
                exact .emptyArray (blanks_of_expect hclose)
              · obtain ⟨⟨items, rest'⟩, hitems, hpair⟩ := Option.map_eq_some_iff.mp h
                cases hpair
                exact .array (ihItems hitems)
            · rw [hbrace]
              split at h
              · rename_i hclose
                cases h
                exact .emptyObject (blanks_of_expect hclose)
              · obtain ⟨⟨members, rest'⟩, hmembers, hpair⟩ := Option.map_eq_some_iff.mp h
                cases hpair
                exact .object (ihMembers hmembers)
            · exact readsValue_of_parseScalar h
      · intro text items rest h
        rw [parseItems] at h
        simp only [Option.bind_eq_bind, Option.bind_eq_some_iff] at h
        obtain ⟨⟨item, stop⟩, hitem, h⟩ := h
        have hread := ihValue hitem
        dsimp only at h
        split at h
        · rename_i hclose
          cases h
          exact .last (blanks_skipBlanks text) hread (blanks_of_expect hclose)
        · simp only [Option.bind_eq_some_iff] at h
          obtain ⟨next, hcomma, ⟨items', rest'⟩, hitems, hpair⟩ := h
          cases hpair
          exact .cons (blanks_skipBlanks text) hread (blanks_of_expect hcomma) (ihItems hitems)
      · intro text members rest h
        rw [parseMembers] at h
        simp only [Option.bind_eq_bind, Option.bind_eq_some_iff] at h
        obtain ⟨⟨key, start⟩, hkey, ⟨value, stop⟩, hvalue, h⟩ := h
        have hname := readsKey_of_parseKey hkey
        have hread := ihValue hvalue
        dsimp only at h
        split at h
        · rename_i hclose
          cases h
          exact .last hname hread (blanks_of_expect hclose)
        · simp only [Option.bind_eq_some_iff] at h
          obtain ⟨next, hcomma, ⟨members', rest'⟩, hmembers, hpair⟩ := h
          cases hpair
          exact .cons hname hread (blanks_of_expect hcomma) (ihMembers hmembers)

/-! ### What is spelled -/

/-- The string is spelled, with its closing quote, before `rest`. -/
inductive ReadsString (rest : Text) : Text → Text → Prop
  | close : ReadsString rest (34 :: rest) []
  | unicode {first second third fourth value : UInt16} {text string : Text} :
      hexValue? first second third fourth = some value → ReadsString rest text string →
      ReadsString rest (92 :: 117 :: first :: second :: third :: fourth :: text) (value :: string)
  | mark {mark value : UInt16} {text string : Text} : mark ≠ 117 → unescape? mark = some value →
      ReadsString rest text string → ReadsString rest (92 :: mark :: text) (value :: string)
  | plain {unit : UInt16} {text string : Text} : unit ≠ 34 → unit ≠ 92 → ¬unit < 32 →
      ReadsString rest text string → ReadsString rest (unit :: text) (unit :: string)

theorem readsString_of_readUnits {string : Text} (h : readUnits text = some (string, rest)) :
    ReadsString rest text string := by
  induction text using readUnits.induct generalizing string with
  | case1 => cases h
  | case2 =>
      rw [readUnits_close] at h
      cases h
      exact .close
  | case3 =>
      rw [readUnits.eq_def] at h
      cases h
  | case4 first second third fourth inside _ ih =>
      rw [readUnits_unicode, Option.bind_eq_some_iff] at h
      obtain ⟨value, hvalue, h⟩ := h
      obtain ⟨⟨string', rest'⟩, hread, hpair⟩ := Option.map_eq_some_iff.mp h
      cases hpair
      exact .unicode hvalue (ih hread)
  | case5 inside hshort =>
      rw [readUnits.eq_def] at h
      simp only [if_neg (show (92 : UInt16) ≠ 34 by decide), if_true] at h
      cases h
  | case6 mark inside hmark _ ih =>
      rw [readUnits_of_mark hmark, Option.bind_eq_some_iff] at h
      obtain ⟨value, hvalue, h⟩ := h
      obtain ⟨⟨string', rest'⟩, hread, hpair⟩ := Option.map_eq_some_iff.mp h
      cases hpair
      exact .mark hmark hvalue (ih hread)
  | case7 unit inside hquote hescape hcontrol =>
      rw [readUnits.eq_def] at h
      simp only [if_neg hquote, if_neg hescape, if_pos hcontrol] at h
      cases h
  | case8 unit inside hquote hescape hcontrol ih =>
      rw [readUnits_of_plain hquote hescape hcontrol] at h
      obtain ⟨⟨string', rest'⟩, hread, hpair⟩ := Option.map_eq_some_iff.mp h
      cases hpair
      exact .plain hquote hescape hcontrol (ih hread)

theorem ReadsString.length_lt {string : Text} (h : ReadsString rest text string) :
    rest.length < text.length := by
  induction h with
  | close => exact Nat.lt_succ_self _
  | unicode _ _ ih =>
      simp only [List.length_cons]
      omega
  | mark _ _ _ ih =>
      simp only [List.length_cons]
      omega
  | plain _ _ _ _ ih => exact ih.trans (Nat.lt_succ_self _)

/-- What is read of a text does not depend on what follows it. -/
theorem ReadsString.readUnits_append {string : Text} (h : ReadsString rest text string)
    (more : Text) : readUnits (text ++ more) = some (string, rest ++ more) := by
  induction h with
  | close => rw [List.cons_append, readUnits_close]
  | unicode hvalue _ ih =>
      simp only [List.cons_append]
      rw [readUnits_unicode, hvalue, ih]
      rfl
  | mark hmark hvalue _ ih =>
      rw [List.cons_append, List.cons_append, readUnits_of_mark hmark, hvalue, ih]
      rfl
  | plain hquote hescape hcontrol _ ih =>
      rw [List.cons_append, readUnits_of_plain hquote hescape hcontrol, ih]
      rfl

theorem length_lt_append (h : word ≠ []) : rest.length < (word ++ rest).length := by
  rw [List.length_append]
  exact Nat.lt_add_of_pos_left (List.length_pos_iff.mpr h)

theorem ReadsKey.length_lt {key : Text} (h : ReadsKey text key start) :
    start.length < text.length := by
  cases h with
  | mk hopen hread hcolon hstart =>
      have hquoted := hopen.length_le
      have hstop := (readsString_of_readUnits hread).length_lt
      have hvalue := hcolon.length_le
      have hrest := hstart.length_le
      rw [List.length_cons] at hquoted hvalue
      omega

mutual

theorem ReadsValue.length_lt {text rest : Text} {value : Json Text}
    (h : ReadsValue text value rest) : rest.length < text.length := by
  cases h with
  | null => exact length_lt_append (by decide)
  | true => exact length_lt_append (by decide)
  | false => exact length_lt_append (by decide)
  | number _ hnumber =>
      obtain ⟨unit, more, rfl, -⟩ := hnumber.exists_head
      exact length_lt_append (List.cons_ne_nil _ _)
  | string hread => exact (readsString_of_readUnits hread).length_lt.trans (Nat.lt_succ_self _)
  | emptyArray hclose => exact Nat.lt_succ_of_le ((Nat.le_succ _).trans hclose.length_le)
  | array hitems => exact hitems.length_lt.trans (Nat.lt_succ_self _)
  | emptyObject hclose => exact Nat.lt_succ_of_le ((Nat.le_succ _).trans hclose.length_le)
  | object hmembers => exact hmembers.length_lt.trans (Nat.lt_succ_self _)

theorem ReadsItems.length_lt {text rest : Text} {items : List (Json Text)}
    (h : ReadsItems text items rest) : rest.length < text.length := by
  cases h with
  | last hstart hitem hclose =>
      have hitem' := hitem.length_lt
      have hstart' := hstart.length_le
      have hclose' := hclose.length_le
      rw [List.length_cons] at hclose'
      omega
  | cons hstart hitem hcomma hitems =>
      have hitem' := hitem.length_lt
      have hstart' := hstart.length_le
      have hcomma' := hcomma.length_le
      have hitems' := hitems.length_lt
      rw [List.length_cons] at hcomma'
      omega

theorem ReadsMembers.length_lt {text rest : Text} {members : List (Text × Json Text)}
    (h : ReadsMembers text members rest) : rest.length < text.length := by
  cases h with
  | last hkey hvalue hclose =>
      have hkey' := hkey.length_lt
      have hvalue' := hvalue.length_lt
      have hclose' := hclose.length_le
      rw [List.length_cons] at hclose'
      omega
  | cons hkey hvalue hcomma hmembers =>
      have hkey' := hkey.length_lt
      have hvalue' := hvalue.length_lt
      have hcomma' := hcomma.length_le
      have hmembers' := hmembers.length_lt
      rw [List.length_cons] at hcomma'
      omega

end

/-- A value begins with a unit that is no blank and closes nothing. -/
theorem exists_head_of_readsValue {value : Json Text} (h : ReadsValue text value rest) :
    ∃ unit tail, text = unit :: tail ∧ isBlank unit = false ∧ unit ≠ 93 := by
  cases h with
  | null => exact ⟨_, _, rfl, rfl, by decide⟩
  | true => exact ⟨_, _, rfl, rfl, by decide⟩
  | false => exact ⟨_, _, rfl, rfl, by decide⟩
  | number _ hnumber =>
      obtain ⟨unit, more, rfl, hhead⟩ := hnumber.exists_head
      refine ⟨unit, _, rfl, ?_, ?_⟩
      · rw [Bool.eq_false_iff, Ne, isBlank_iff]
        intro hmem
        simp only [List.mem_cons, List.not_mem_nil, or_false] at hmem
        rcases hmem with rfl | rfl | rfl | rfl <;> exact absurd hhead (by decide)
      · rintro rfl
        exact absurd hhead (by decide)
  | string => exact ⟨_, _, rfl, rfl, by decide⟩
  | emptyArray => exact ⟨_, _, rfl, rfl, by decide⟩
  | array => exact ⟨_, _, rfl, rfl, by decide⟩
  | emptyObject => exact ⟨_, _, rfl, rfl, by decide⟩
  | object => exact ⟨_, _, rfl, rfl, by decide⟩

/-- After a quote there is a string. -/
theorem readUnits_of_readsValue {value : Json Text} (h : ReadsValue (34 :: text) value rest) :
    ∃ string, value = .string string ∧ readUnits text = some (string, rest) := by
  generalize hwhole : 34 :: text = whole at h
  cases h with
  | null => cases hwhole
  | true => cases hwhole
  | false => cases hwhole
  | number _ hnumber =>
      obtain ⟨unit, more, rfl, hhead⟩ := hnumber.exists_head
      rw [← (List.cons.inj hwhole).1] at hhead
      exact absurd hhead (by decide)
  | string hread =>
      cases hwhole
      exact ⟨_, rfl, hread⟩
  | emptyArray => cases hwhole
  | array => cases hwhole
  | emptyObject => cases hwhole
  | object => cases hwhole

theorem skipBlanks_of_readsValue {value : Json Text} (hstart : Blanks start text)
    (h : ReadsValue start value rest) : skipBlanks text = start := by
  obtain ⟨unit, tail, rfl, hblank, -⟩ := exists_head_of_readsValue h
  exact skipBlanks_of_blanks hstart hblank

/-- Items are no bracket that closes an array at once. -/
theorem expect_of_readsItems {items : List (Json Text)} (h : ReadsItems text items rest) :
    expect 93 text = none := by
  have hitem {start stop : Text} {item : Json Text} (hstart : Blanks start text)
      (hread : ReadsValue start item stop) : expect 93 text = none := by
    obtain ⟨unit, tail, rfl, hblank, hne⟩ := exists_head_of_readsValue hread
    exact expect_eq_none hstart hblank hne
  cases h with
  | last hstart hread => exact hitem hstart hread
  | cons hstart hread => exact hitem hstart hread

theorem expect_of_readsMembers {members : List (Text × Json Text)}
    (h : ReadsMembers text members rest) : expect 125 text = none := by
  have hkey {key start : Text} (hkey : ReadsKey text key start) : expect 125 text = none := by
    cases hkey with
    | mk hopen => exact expect_eq_none hopen rfl (by decide)
  cases h with
  | last hmember => exact hkey hmember
  | cons hmember => exact hkey hmember

theorem parseKey_of_reads {key : Text} {value : Json Text} (h : ReadsKey text key start)
    (hvalue : ReadsValue start value rest) : parseKey text = some (key, start) := by
  cases h with
  | mk hopen hread hcolon hstart =>
      simp only [parseKey, expect_of_blanks hopen rfl, hread, expect_of_blanks hcolon rfl,
        skipBlanks_of_readsValue hstart hvalue, Option.bind_eq_bind, Option.bind_some]

/-- No word begins like a number. -/
theorem afterWord_of_isNumber (hword : word ∈ [unitsOf "null", unitsOf "true", unitsOf "false"])
    (h : IsNumber lexeme) : afterWord word (lexeme ++ rest) = none := by
  obtain ⟨unit, more, rfl, hhead⟩ := h.exists_head
  simp only [List.mem_cons, List.not_mem_nil, or_false] at hword
  rcases hword with rfl | rfl | rfl
  all_goals
    apply afterWord_eq_none
    rintro rfl
    exact absurd hhead (by decide)

theorem parseScalar_of_isNumber (h : IsNumber lexeme) (hrest : EndsNumber rest) :
    parseScalar (lexeme ++ rest) = some (.number lexeme, rest) := by
  rw [parseScalar, afterWord_of_isNumber (by simp) h, afterWord_of_isNumber (by simp) h,
    afterWord_of_isNumber (by simp) h, matchNumber_of_isNumber h hrest]
  rfl

/-- What a value is followed by in a document ends a number. -/
theorem endsNumber_of_mem (hunit : unit ∈ ([93, 125, 44] : Text)) (h : Blanks (unit :: rest) stop) :
    EndsNumber stop := by
  refine EndsNumber.blanks ?_ h
  simp only [List.mem_cons, List.not_mem_nil, or_false] at hunit
  rcases hunit with rfl | rfl | rfl <;> exact endsNumber_cons (by decide) (by decide) _

theorem parseScalar_of_word {value : Json Text}
    (h : word = unitsOf "null" ∧ value = .null ∨ word = unitsOf "true" ∧ value = .bool true ∨
      word = unitsOf "false" ∧ value = .bool false) :
    parseScalar (word ++ rest) = some (value, rest) := by
  rcases h with ⟨rfl, rfl⟩ | ⟨rfl, rfl⟩ | ⟨rfl, rfl⟩ <;> rfl

mutual

/-- What is spelled in the text is read, with fuel for its units. -/
theorem parseValue_of_reads {fuel : ℕ} {text rest : Text} {value : Json Text}
    (h : ReadsValue text value rest) (hrest : EndsNumber rest) (hfuel : 2 * text.length ≤ fuel) :
    parseValue fuel text = some (value, rest) := by
  obtain ⟨fuel, rfl⟩ : ∃ more, fuel = more + 1 :=
    Nat.exists_eq_add_of_le' (by have := h.length_lt; omega)
  cases h with
  | null => exact parseScalar_of_word (.inl ⟨rfl, rfl⟩)
  | true => exact parseScalar_of_word (.inr (.inl ⟨rfl, rfl⟩))
  | false => exact parseScalar_of_word (.inr (.inr ⟨rfl, rfl⟩))
  | number _ hnumber =>
      have hscalar := parseScalar_of_isNumber hnumber hrest
      obtain ⟨unit, more, rfl, hhead⟩ := hnumber.exists_head
      have hquote : unit ≠ 34 := by
        rintro rfl
        exact absurd hhead (by decide)
      have hbracket : unit ≠ 91 := by
        rintro rfl
        exact absurd hhead (by decide)
      have hbrace : unit ≠ 123 := by
        rintro rfl
        exact absurd hhead (by decide)
      rw [List.cons_append, parseValue, if_neg hquote, if_neg hbracket, if_neg hbrace]
      exact hscalar
  | string hread =>
      rw [parseValue, if_pos rfl, hread]
      rfl
  | emptyArray hclose =>
      rw [parseValue, if_neg (by decide), if_pos rfl, expect_of_blanks hclose rfl]
  | array hitems =>
      rw [List.length_cons] at hfuel
      rw [parseValue, if_neg (by decide), if_pos rfl, expect_of_readsItems hitems,
        parseItems_of_reads hitems (by omega)]
      rfl
  | emptyObject hclose =>
      rw [parseValue, if_neg (by decide), if_neg (by decide), if_pos rfl,
        expect_of_blanks hclose rfl]
  | object hmembers =>
      rw [List.length_cons] at hfuel
      rw [parseValue, if_neg (by decide), if_neg (by decide), if_pos rfl,
        expect_of_readsMembers hmembers, parseMembers_of_reads hmembers (by omega)]
      rfl

theorem parseItems_of_reads {fuel : ℕ} {text rest : Text} {items : List (Json Text)}
    (h : ReadsItems text items rest) (hfuel : 2 * text.length + 1 ≤ fuel) :
    parseItems fuel text = some (items, rest) := by
  obtain ⟨fuel, rfl⟩ : ∃ more, fuel = more + 1 := Nat.exists_eq_add_of_le' (by omega)
  cases h with
  | last hstart hitem hclose =>
      have hlength := hstart.length_le
      have hread : parseValue fuel _ = some (_, _) := parseValue_of_reads hitem
        (endsNumber_of_mem (by decide) hclose) (by omega)
      rw [parseItems, skipBlanks_of_readsValue hstart hitem]
      simp only [hread, Option.bind_eq_bind, Option.bind_some, expect_of_blanks hclose rfl]
  | cons hstart hitem hcomma hitems =>
      have hlength := hstart.length_le
      have hlength' := hitem.length_lt
      have hlength'' := hcomma.length_le
      rw [List.length_cons] at hlength''
      have hread : parseValue fuel _ = some (_, _) := parseValue_of_reads hitem
        (endsNumber_of_mem (by decide) hcomma) (by omega)
      have hmore : parseItems fuel _ = some (_, rest) := parseItems_of_reads hitems (by omega)
      rw [parseItems, skipBlanks_of_readsValue hstart hitem]
      simp only [hread, hmore, Option.bind_eq_bind, Option.bind_some,
        expect_of_blanks hcomma rfl, expect_eq_none hcomma rfl (show (44 : UInt16) ≠ 93 by decide)]

theorem parseMembers_of_reads {fuel : ℕ} {text rest : Text} {members : List (Text × Json Text)}
    (h : ReadsMembers text members rest) (hfuel : 2 * text.length + 1 ≤ fuel) :
    parseMembers fuel text = some (members, rest) := by
  obtain ⟨fuel, rfl⟩ : ∃ more, fuel = more + 1 := Nat.exists_eq_add_of_le' (by omega)
  cases h with
  | last hkey hvalue hclose =>
      have hlength := hkey.length_lt
      have hread : parseValue fuel _ = some (_, _) := parseValue_of_reads hvalue
        (endsNumber_of_mem (by decide) hclose) (by omega)
      rw [parseMembers, parseKey_of_reads hkey hvalue]
      simp only [hread, Option.bind_eq_bind, Option.bind_some, expect_of_blanks hclose rfl]
  | cons hkey hvalue hcomma hmembers =>
      have hlength := hkey.length_lt
      have hlength' := hvalue.length_lt
      have hlength'' := hcomma.length_le
      rw [List.length_cons] at hlength''
      have hread : parseValue fuel _ = some (_, _) := parseValue_of_reads hvalue
        (endsNumber_of_mem (by decide) hcomma) (by omega)
      have hmore : parseMembers fuel _ = some (_, rest) := parseMembers_of_reads hmembers (by omega)
      rw [parseMembers, parseKey_of_reads hkey hvalue]
      simp only [hread, hmore, Option.bind_eq_bind, Option.bind_some,
        expect_of_blanks hcomma rfl, expect_eq_none hcomma rfl (show (44 : UInt16) ≠ 125 by decide)]

end

/-- The parser accepts the texts of documents, and gives the document. -/
theorem parse_eq_some_iff {document : Json Text} :
    parse text = some document ↔ Reads text document := by
  constructor
  · intro h
    simp only [parse, Option.bind_eq_bind, Option.bind_eq_some_iff] at h
    obtain ⟨⟨value, stop⟩, hvalue, h⟩ := h
    dsimp only at h
    split_ifs at h with hend
    cases h
    have hstop := blanks_skipBlanks stop
    rw [hend] at hstop
    exact ⟨_, stop, blanks_skipBlanks text, (reads_of_parse _).1 hvalue, hstop⟩
  · rintro ⟨start, stop, hstart, hvalue, hstop⟩
    have hends : EndsNumber stop := by
      refine EndsNumber.blanks ?_ hstop
      rintro unit ⟨⟩
    have hlength := hstart.length_le
    have hread : parseValue (2 * text.length) start = some (document, stop) :=
      parseValue_of_reads hvalue hends (by omega)
    rw [parse, skipBlanks_of_readsValue hstart hvalue]
    simp only [hread, Option.bind_eq_bind, Option.bind_some, skipBlanks_of_blanks_nil hstop,
      if_true]

theorem Reads.eq {document document' : Json Text} (h : Reads text document)
    (h' : Reads text document') : document = document' :=
  Option.some.inj ((parse_eq_some_iff.mpr h).symm.trans (parse_eq_some_iff.mpr h'))

end Json
