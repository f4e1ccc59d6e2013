import Dona.IntegerNumber
import Dona.Library.Fallible
import Dona.Library.JsonGrammar

/-!
# The numbers of a published result

`JSON.parse` forgets how a number is written, so that two requests could be parsed into one
document and share its digest. A scan of the text refuses a number with a fraction or an exponent,
and an integer that is not safe. The scan knows of strings and escapes, and of nothing else; over
the text of a document it meets the numbers, each of them once and as a whole.
-/

namespace Dona

open Decimals (isDigit)
open Fallible Json

/-- The loop over a text: `visit` sees the number matched at each digit or minus sign outside of
strings, and the loop goes on behind it. -/
def scanNumbers {ε : Type} (visit : Text → Except ε Unit) (quoted escaped : Bool) :
    Text → Except ε Unit
  | [] => .ok ()
  | char :: rest =>
      if quoted then
        if escaped then scanNumbers visit quoted false rest
        else if char = 92 then scanNumbers visit quoted true rest
        else if char = 34 then scanNumbers visit false escaped rest
        else scanNumbers visit quoted escaped rest
      else if char = 34 then scanNumbers visit true escaped rest
      else if char ≠ 45 ∧ isDigit char = false then scanNumbers visit quoted escaped rest
      else
        match _hmatch : matchNumber (char :: rest) with
        | none => scanNumbers visit quoted escaped rest
        | some (token, rest') => do
            visit token
            scanNumbers visit quoted escaped rest'
termination_by text => text.length
decreasing_by
  all_goals simp only [List.length_cons]
  all_goals first | omega | skip
  have happend := append_of_matchNumber _hmatch
  have hlength := congrArg List.length happend.2
  have hne := List.length_pos_iff.2 happend.1
  rw [List.length_append, List.length_cons] at hlength
  omega

/-- A number must be a safe integer, written as one. -/
def assertExactNumber (token : Text) : Except String Unit :=
  throwIf (testInteger token = false ∨ (toNumber token).isSafe = false) "invalid_request"

def assertExactJsonNumbers (source : Text) : Except String Unit :=
  scanNumbers assertExactNumber false false source

/-! ### What the scan does -/

section Scan

variable {ε : Type} {visit : Text → Except ε Unit} {char : UInt16} {text rest token : Text}

theorem scanNumbers_quote (rest : Text) :
    scanNumbers visit false false (34 :: rest) = scanNumbers visit true false rest := by
  rw [scanNumbers.eq_def]
  rfl

theorem scanNumbers_close (rest : Text) :
    scanNumbers visit true false (34 :: rest) = scanNumbers visit false false rest := by
  rw [scanNumbers.eq_def]
  rfl

/-- A backslash hides the unit behind it, whichever that is. -/
theorem scanNumbers_escape (mark : UInt16) (rest : Text) :
    scanNumbers visit true false (92 :: mark :: rest) = scanNumbers visit true false rest := by
  rw [scanNumbers.eq_def]
  dsimp only
  rw [if_pos rfl, if_neg (by decide), if_pos rfl, scanNumbers.eq_def]
  rfl

theorem scanNumbers_plain (hquote : char ≠ 34) (hescape : char ≠ 92) (rest : Text) :
    scanNumbers visit true false (char :: rest) = scanNumbers visit true false rest := by
  rw [scanNumbers.eq_def]
  dsimp only
  rw [if_pos rfl, if_neg (by decide), if_neg hescape, if_neg hquote]

/-- No string and no number begins with the unit. -/
def IsInert (char : UInt16) : Prop := char ≠ 34 ∧ char ≠ 45 ∧ isDigit char = false

instance (char : UInt16) : Decidable (IsInert char) := inferInstanceAs (Decidable (_ ∧ _))

theorem isInert_of_isBlank (h : isBlank char = true) : IsInert char := by
  rw [isBlank_iff] at h
  simp only [List.mem_cons, List.not_mem_nil, or_false] at h
  rcases h with rfl | rfl | rfl | rfl <;> decide

theorem scanNumbers_inert (h : IsInert char) (rest : Text) :
    scanNumbers visit false false (char :: rest) = scanNumbers visit false false rest := by
  obtain ⟨hquote, hsign, hdigit⟩ := h
  rw [scanNumbers.eq_def]
  dsimp only
  rw [if_neg (by decide), if_neg hquote, if_pos ⟨hsign, hdigit⟩]

theorem scanNumbers_inerts (h : text.all (fun char ↦ decide (IsInert char)) = true) (rest : Text) :
    scanNumbers visit false false (text ++ rest) = scanNumbers visit false false rest := by
  induction text with
  | nil => rfl
  | cons char text ih =>
      rw [List.all_cons, Bool.and_eq_true, decide_eq_true_iff] at h
      rw [List.cons_append, scanNumbers_inert h.1, ih h.2]

theorem scanNumbers_number (hnumber : IsNumber token) (hrest : EndsNumber rest) :
    scanNumbers visit false false (token ++ rest) =
      visit token >>= fun _ ↦ scanNumbers visit false false rest := by
  have hmatch := matchNumber_of_isNumber hnumber hrest
  obtain ⟨char, more, htoken, hhead⟩ := hnumber.exists_head
  have hquote : char ≠ 34 := by
    rintro rfl
    rcases hhead with hsign | hdigit
    · cases hsign
    · cases hdigit
  have hnumeral : ¬(char ≠ 45 ∧ isDigit char = false) := by
    rintro ⟨hsign, hdigit⟩
    rcases hhead with hsign' | hdigit'
    · exact hsign hsign'
    · rw [hdigit] at hdigit'
      cases hdigit'
  rw [htoken, List.cons_append] at hmatch ⊢
  rw [scanNumbers.eq_def]
  dsimp only
  rw [if_neg (by decide), if_neg hquote, if_neg hnumeral]
  split
  · rename_i hnone
    rw [hmatch] at hnone
    cases hnone
  · rename_i token' rest' hsome
    rw [hmatch] at hsome
    obtain ⟨rfl, rfl⟩ := Prod.mk.inj (Option.some.inj hsome)
    rfl

theorem scanNumbers_blanks (h : Blanks rest text) :
    scanNumbers visit false false text = scanNumbers visit false false rest := by
  induction h with
  | nil => rfl
  | @cons unit text hblank _ ih =>
      rw [scanNumbers_inert (isInert_of_isBlank hblank)]
      exact ih

theorem ne_of_hexDigit? {digit : ℕ} (h : hexDigit? char = some digit) : char ≠ 34 ∧ char ≠ 92 := by
  constructor
  · rintro rfl
    cases h
  · rintro rfl
    cases h

/-- A string is passed over to its closing quote. -/
theorem scanNumbers_units {value : Text} (h : readUnits text = some (value, rest)) :
    scanNumbers visit true false text = scanNumbers visit false false rest := by
  induction text using readUnits.induct generalizing value with
  | case1 => cases h
  | case2 text =>
      rw [readUnits_close] at h
      obtain ⟨-, rfl⟩ := Prod.mk.inj (Option.some.inj h)
      exact scanNumbers_close _
  | case3 => cases h
  | case4 first second third fourth text _ ih =>
      rw [readUnits_unicode] at h
      obtain ⟨unit, hunit, hread⟩ := Option.bind_eq_some_iff.1 h
      obtain ⟨⟨value', rest'⟩, hread', hpair⟩ := Option.map_eq_some_iff.1 hread
      obtain ⟨rfl, rfl⟩ := Prod.mk.inj hpair
      simp only [hexValue?, Option.bind_eq_bind, Option.bind_eq_some_iff] at hunit
      obtain ⟨_, hfirst, _, hsecond, _, hthird, _, hfourth, -⟩ := hunit
      obtain ⟨hquote₁, hescape₁⟩ := ne_of_hexDigit? hfirst
      obtain ⟨hquote₂, hescape₂⟩ := ne_of_hexDigit? hsecond
      obtain ⟨hquote₃, hescape₃⟩ := ne_of_hexDigit? hthird
      obtain ⟨hquote₄, hescape₄⟩ := ne_of_hexDigit? hfourth
      rw [scanNumbers_escape, scanNumbers_plain hquote₁ hescape₁,
        scanNumbers_plain hquote₂ hescape₂, scanNumbers_plain hquote₃ hescape₃,
        scanNumbers_plain hquote₄ hescape₄]
      exact ih hread'
  | case5 text hshort =>
      rw [readUnits.eq_def] at h
      simp only [if_neg (show (92 : UInt16) ≠ 34 by decide), if_true] at h
      cases h
  | case6 mark text hmark _ ih =>
      rw [readUnits_of_mark hmark] at h
      obtain ⟨unit, -, hread⟩ := Option.bind_eq_some_iff.1 h
      obtain ⟨⟨value', rest'⟩, hread', hpair⟩ := Option.map_eq_some_iff.1 hread
      obtain ⟨rfl, rfl⟩ := Prod.mk.inj hpair
      rw [scanNumbers_escape]
      exact ih hread'
  | case7 unit text hquote hescape hcontrol =>
      rw [readUnits.eq_def] at h
      simp only [if_neg hquote, if_neg hescape, if_pos hcontrol] at h
      cases h
  | case8 unit text hquote hescape hcontrol ih =>
      rw [readUnits_of_plain hquote hescape hcontrol] at h
      obtain ⟨⟨value', rest'⟩, hread', hpair⟩ := Option.map_eq_some_iff.1 h
      obtain ⟨rfl, rfl⟩ := Prod.mk.inj hpair
      rw [scanNumbers_plain hquote hescape]
      exact ih hread'

theorem scanNumbers_string {value : Text} (h : readUnits text = some (value, rest)) :
    scanNumbers visit false false (34 :: text) = scanNumbers visit false false rest := by
  rw [scanNumbers_quote, scanNumbers_units h]

theorem scanNumbers_key {key : Text} (h : ReadsKey text key rest) :
    scanNumbers visit false false text = scanNumbers visit false false rest := by
  cases h with
  | mk hquote hread hcolon hstart =>
      rw [scanNumbers_blanks hquote, scanNumbers_string hread, scanNumbers_blanks hcolon,
        scanNumbers_inert (by decide), scanNumbers_blanks hstart]

/-! ### The scan of a document -/

theorem endsNumber_close (char : UInt16) (hchar : char ∈ ([44, 93, 125] : Text))
    (h : Blanks (char :: rest) text) : EndsNumber text := by
  refine EndsNumber.blanks ?_ h
  simp only [List.mem_cons, List.not_mem_nil, or_false] at hchar
  rcases hchar with rfl | rfl | rfl <;> exact endsNumber_cons (by decide) (by decide) _

/-- What the scan makes of numbers before it goes on. -/
def visitThen (visit : Text → Except ε Unit) (tokens : List Text) (next : Except ε Unit) :
    Except ε Unit := forM tokens visit >>= fun _ ↦ next

theorem visitThen_append (tokens tokens' : List Text) (next : Except ε Unit) :
    visitThen visit (tokens ++ tokens') next =
      visitThen visit tokens (visitThen visit tokens' next) := by
  simp only [visitThen, List.forM_append, bind_assoc]

mutual

theorem scanNumbers_value {text rest : Text} {value : Json Text} (h : ReadsValue text value rest)
    (hrest : EndsNumber rest) : scanNumbers visit false false text =
      visitThen visit value.numbers (scanNumbers visit false false rest) := by
  cases h with
  | null => exact scanNumbers_inerts (by decide) rest
  | true => exact scanNumbers_inerts (by decide) rest
  | false => exact scanNumbers_inerts (by decide) rest
  | number _ hnumber =>
      rw [scanNumbers_number hnumber hrest, numbers, visitThen, List.forM_cons, List.forM_nil,
        bind_assoc]
      rfl
  | string hread => exact scanNumbers_string hread
  | emptyArray hclose =>
      rw [scanNumbers_inert (by decide), scanNumbers_blanks hclose, scanNumbers_inert (by decide)]
      rfl
  | array hitems =>
      rw [scanNumbers_inert (by decide)]
      exact scanNumbers_items hitems
  | emptyObject hclose =>
      rw [scanNumbers_inert (by decide), scanNumbers_blanks hclose, scanNumbers_inert (by decide)]
      rfl
  | object hmembers =>
      rw [scanNumbers_inert (by decide)]
      exact scanNumbers_members hmembers

theorem scanNumbers_items {text rest : Text} {items : List (Json Text)}
    (h : ReadsItems text items rest) : scanNumbers visit false false text =
      visitThen visit (numbersOfItems items) (scanNumbers visit false false rest) := by
  cases h with
  | last hstart hitem hclose =>
      have hends := endsNumber_close 93 (by decide) hclose
      rw [scanNumbers_blanks hstart, scanNumbers_value hitem hends, scanNumbers_blanks hclose,
        scanNumbers_inert (by decide), numbersOfItems, numbersOfItems, List.append_nil]
  | cons hstart hitem hcomma hitems =>
      have hends := endsNumber_close 44 (by decide) hcomma
      rw [scanNumbers_blanks hstart, scanNumbers_value hitem hends, scanNumbers_blanks hcomma,
        scanNumbers_inert (by decide), scanNumbers_items hitems, numbersOfItems, visitThen_append]

theorem scanNumbers_members {text rest : Text} {members : List (Text × Json Text)}
    (h : ReadsMembers text members rest) : scanNumbers visit false false text =
      visitThen visit (numbersOfMembers members) (scanNumbers visit false false rest) := by
  cases h with
  | last hkey hvalue hclose =>
      have hends := endsNumber_close 125 (by decide) hclose
      rw [scanNumbers_key hkey, scanNumbers_value hvalue hends,
        scanNumbers_blanks hclose, scanNumbers_inert (by decide), numbersOfMembers,
        numbersOfMembers, List.append_nil]
  | cons hkey hvalue hcomma hmembers =>
      have hends := endsNumber_close 44 (by decide) hcomma
      rw [scanNumbers_key hkey, scanNumbers_value hvalue hends,
        scanNumbers_blanks hcomma, scanNumbers_inert (by decide), scanNumbers_members hmembers,
        numbersOfMembers, visitThen_append]

end

/-- Over a document, the scan visits its numbers, in their order and to their ends. -/
theorem scanNumbers_document {source : Text} {document : Json Text} (h : Reads source document) :
    scanNumbers visit false false source = forM document.numbers visit := by
  obtain ⟨start, stop, hstart, hvalue, hstop⟩ := h
  have hends : EndsNumber stop := by
    refine EndsNumber.blanks ?_ hstop
    rintro unit ⟨⟩
  rw [scanNumbers_blanks hstart, scanNumbers_value hvalue hends, scanNumbers_blanks hstop,
    scanNumbers.eq_def]
  exact bind_pure_unit

end Scan

/-! ### Which documents pass -/

theorem forM_eq_ok {visit : Text → Except String Unit} {tokens : List Text} :
    forM tokens visit = .ok () ↔ ∀ token ∈ tokens, visit token = .ok () := by
  induction tokens with
  | nil => exact ⟨fun _ _ hmem ↦ absurd hmem List.not_mem_nil, fun _ ↦ rfl⟩
  | cons token tokens ih =>
      rw [List.forM_cons, bind_eq_ok, List.forall_mem_cons, ih]
      exact ⟨fun ⟨_, htoken, hrest⟩ ↦ ⟨htoken, hrest⟩, fun ⟨htoken, hrest⟩ ↦ ⟨(), htoken, hrest⟩⟩

theorem assertExactNumber_eq_ok {token : Text} :
    assertExactNumber token = .ok () ↔
      IsInteger token ∧ (writtenInteger token).isSafe = true := by
  rw [assertExactNumber, throwIf_eq_ok, not_or, Bool.not_eq_false, Bool.not_eq_false,
    testInteger_iff, isSafe_toNumber]

/-- A document passes exactly if each of its numbers is a safe integer, written as one; the numbers
of the document that is parsed are then the written ones. Whatever is done with a number of the
text, it is done with those of the document, in their order. -/
theorem exact_numbers {source : Text} {document : Json Text} (h : Reads source document) :
    (assertExactJsonNumbers source = .ok () ↔
      ∀ token ∈ document.numbers, IsInteger token ∧ (writtenInteger token).isSafe = true) ∧
    (∀ {ε : Type} (visit : Text → Except ε Unit),
      scanNumbers visit false false source = forM document.numbers visit) ∧
    (assertExactJsonNumbers source = .ok () →
      ∀ token ∈ document.numbers, toNumber token = writtenInteger token) := by
  have hpasses : assertExactJsonNumbers source = .ok () ↔
      ∀ token ∈ document.numbers, IsInteger token ∧ (writtenInteger token).isSafe = true := by
    rw [assertExactJsonNumbers, scanNumbers_document h, forM_eq_ok]
    simp only [assertExactNumber_eq_ok]
  refine ⟨hpasses, fun visit ↦ scanNumbers_document h, fun hok token htoken ↦ ?_⟩
  exact toNumber_of_isSafe (hpasses.1 hok token htoken).2

/-- The text `["\"7",-12]`. -/
theorem exact_numbers_quoted :
    assertExactJsonNumbers [91, 34, 92, 34, 55, 34, 44, 45, 49, 50, 93] = .ok () := by
  have hinteger : IsInteger [45, 49, 50] := .negative (.positive (by decide) rfl
    (List.forall_mem_singleton.mpr rfl))
  have hnumber : IsNumber [45, 49, 50] := (IsNumber.mk hinteger .none .none :)
  have hreads : Reads [91, 34, 92, 34, 55, 34, 44, 45, 49, 50, 93]
      (.array [.string [34, 55], .number [45, 49, 50]]) :=
    ⟨_, _, .nil, .array (.cons .nil (.string rfl) .nil (.last .nil (.number _ hnumber) .nil)), .nil⟩
  refine (exact_numbers hreads).1.2 fun token htoken ↦ ?_
  simp only [numbers, numbersOfItems, List.nil_append, List.append_nil,
    List.mem_singleton] at htoken
  subst htoken
  exact ⟨hinteger, rfl⟩

end Dona
