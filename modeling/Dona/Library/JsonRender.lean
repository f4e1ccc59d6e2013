import Dona.Library.JsonValue

/-!
# Texts are documents

The text of a document spells the document, with its numbers as they are written. A natural number
is written as a decimal numeral.
-/

namespace Json

open Decimals (isDigit)

variable {N : Type} {numerals : Numerals N}

/-! ### Natural numbers -/

theorem isNatural_render (n : ℕ) : IsNatural (Decimals.render n) := by
  induction n using Decimals.render.induct with
  | case1 n hlt =>
      rw [Decimals.render, if_pos hlt]
      by_cases hzero : n = 0
      · rw [hzero]
        exact .zero
      · refine .positive ?_ (Decimals.digitUnit_spec n hlt).1 (List.forall_mem_nil _)
        intro hunit
        have hdigit := (Decimals.digitUnit_spec n hlt).2
        rw [hunit] at hdigit
        exact hzero hdigit.symm
  | case2 n hge ih =>
      rw [Decimals.render, if_neg hge]
      have hdigit := (Decimals.digitUnit_spec (n % 10) (Nat.mod_lt n (by decide))).1
      generalize hhead : Decimals.render (n / 10) = digits at ih
      cases ih with
      | zero =>
          have hvalue := Decimals.value_render (n / 10)
          rw [hhead] at hvalue
          have hzero : n / 10 = 0 := hvalue.symm
          omega
      | positive hne hunit hdigits =>
          refine .positive hne hunit fun digit hmem ↦ ?_
          rcases List.mem_append.mp hmem with hmem | hmem
          · exact hdigits digit hmem
          · rw [List.mem_singleton.mp hmem]
            exact hdigit

theorem digitUnit_mem : ∀ digit < 10, Decimals.digitUnit digit ∈ numeralUnits := by decide

/-- Natural numbers, in decimal. -/
def decimals : Numerals ℕ where
  text := Decimals.render
  text_injective n n' h := by
    rw [← Decimals.value_render n, h, Decimals.value_render]
  text_ne := Decimals.render_ne_nil
  text_units n unit hunit := by
    obtain ⟨digit, hdigit, rfl⟩ := Decimals.exists_digit_of_mem_render hunit
    exact digitUnit_mem digit hdigit

/-! ### Documents -/

/-- The numbers are written as JSON writes them. -/
def Numerals.Lawful (numerals : Numerals N) : Prop := ∀ value, IsNumber (numerals.text value)

theorem readsKey_quote (key start : Text) : ReadsKey (quote key ++ 58 :: start) key start := by
  have hquote : quote key ++ 58 :: start = 34 :: (quoteUnits key ++ 34 :: 58 :: start) := by
    rw [quote, List.cons_append, List.append_assoc]
    rfl
  rw [hquote]
  exact .mk .nil (readUnits_quoteUnits key _) .nil .nil

/-- What is written between brackets is read as items. -/
theorem readsItems_join {items : List (Json N)} {item : Json N} {rest : Text}
    (h : ∀ other ∈ item :: items, ∀ rest, ReadsValue (render numerals other ++ rest)
      (other.mapNumbers numerals.text) rest) :
    ReadsItems (join ((item :: items).map (render numerals)) ++ 93 :: rest)
      ((item :: items).map (mapNumbers numerals.text)) rest := by
  induction items generalizing item with
  | nil => exact .last .nil (h item List.mem_cons_self _) .nil
  | cons next items ih =>
      rw [List.map_cons, List.map_cons, join_cons, if_neg (List.cons_ne_nil _ _)]
      exact .cons .nil (h item List.mem_cons_self _) .nil
        (ih fun other hother ↦ h other (List.mem_cons_of_mem _ hother))

theorem readsMembers_join {members : List (Text × Json N)} {member : Text × Json N} {rest : Text}
    (h : ∀ other ∈ member :: members, ∀ rest, ReadsValue (render numerals other.2 ++ rest)
      (other.2.mapNumbers numerals.text) rest) :
    ReadsMembers (join ((member :: members).map (renderMember numerals)) ++ 125 :: rest)
      ((member :: members).map fun other ↦ (other.1, other.2.mapNumbers numerals.text)) rest := by
  have hkey (other : Text × Json N) (rest : Text) :
      ReadsKey (renderMember numerals other ++ rest) other.1 (render numerals other.2 ++ rest) := by
    rw [renderMember, List.append_assoc, List.cons_append]
    exact readsKey_quote _ _
  induction members generalizing member with
  | nil => exact .last (hkey member _) (h member List.mem_cons_self _) .nil
  | cons next members ih =>
      rw [List.map_cons, List.map_cons, join_cons, if_neg (List.cons_ne_nil _ _)]
      exact .cons (hkey member _) (h member List.mem_cons_self _) .nil
        (ih fun other hother ↦ h other (List.mem_cons_of_mem _ hother))

theorem readsValue_render (hlawful : numerals.Lawful) (document : Json N) (rest : Text) :
    ReadsValue (render numerals document ++ rest) (document.mapNumbers numerals.text) rest := by
  induction document using Json.induction generalizing rest with
  | null => exact .null rest
  | bool value =>
      cases value with
      | true => exact .true rest
      | false => exact .false rest
  | number value => exact .number rest (hlawful value)
  | string value =>
      rw [render, quote, List.cons_append, List.append_assoc]
      exact .string (readUnits_quoteUnits value rest)
  | array items ih =>
      rw [render, mapNumbers, renderItems_eq, mapItems_eq, List.cons_append, List.append_assoc]
      cases items with
      | nil => exact .emptyArray .nil
      | cons item items => exact .array (readsItems_join fun other hother ↦ ih other hother)
  | object members ih =>
      rw [render, mapNumbers, renderMembers_eq, mapMembers_eq, List.cons_append, List.append_assoc]
      cases members with
      | nil => exact .emptyObject .nil
      | cons member members =>
          exact .object (readsMembers_join fun other hother ↦ ih other hother)

/-! ### Lengths -/

theorem length_escapeUnit_le (unit : UInt16) : (escapeUnit unit).length ≤ 6 := by
  unfold escapeUnit
  split
  · exact Nat.le_of_ble_eq_true rfl
  · split_ifs
    · exact le_rfl
    · exact Nat.le_of_ble_eq_true rfl

theorem length_quoteUnits_le (text : Text) : (quoteUnits text).length ≤ 6 * text.length := by
  induction text using quoteUnits.induct with
  | case1 => exact Nat.zero_le _
  | case2 unit => exact length_escapeUnit_le unit
  | case3 unit next text hpair ih =>
      rw [quoteUnits, if_pos hpair]
      simp only [List.length_cons]
      omega
  | case4 unit next text hpair ih =>
      have hunit := length_escapeUnit_le unit
      rw [quoteUnits, if_neg hpair, List.length_append]
      simp only [List.length_cons] at ih ⊢
      omega

mutual

/-- A bound of the length of the text of a document. -/
def weight : Json ℕ → ℕ
  | .null => 4
  | .bool _ => 5
  | .number value => value + 1
  | .string value => 6 * value.length + 2
  | .array items => weightOfItems items + 2
  | .object members => weightOfMembers members + 2

def weightOfItems : List (Json ℕ) → ℕ
  | [] => 0
  | item :: items => item.weight + 1 + weightOfItems items

def weightOfMembers : List (Text × Json ℕ) → ℕ
  | [] => 0
  | (key, value) :: members => 6 * key.length + value.weight + 4 + weightOfMembers members

end

theorem length_quote_le (text : Text) : (quote text).length ≤ 6 * text.length + 2 := by
  have hunits := length_quoteUnits_le text
  rw [quote, List.length_cons, List.length_append, List.length_singleton]
  omega

theorem length_join_le {α : Type} {write : α → Text} {bound : α → ℕ} {items : List α}
    (h : ∀ item ∈ items, (write item).length ≤ bound item) :
    (join (items.map write)).length ≤ (items.map fun item ↦ bound item + 1).foldr Nat.add 0 := by
  induction items with
  | nil => exact Nat.zero_le _
  | cons item items ih =>
      rw [List.forall_mem_cons] at h
      have hitem := h.1
      have hrest := ih h.2
      have hjoin := congrArg List.length (join_cons (write item) (items.map write) [])
      rw [List.append_nil] at hjoin
      rw [List.map_cons, hjoin, List.map_cons, List.foldr_cons, Nat.add_eq, List.length_append]
      split_ifs
      · rw [List.length_nil]
        omega
      · rw [List.length_cons, List.append_nil]
        omega

theorem length_render_le (document : Json ℕ) :
    (render decimals document).length ≤ document.weight := by
  induction document using Json.induction with
  | null => exact le_rfl
  | bool value => cases value <;> exact Nat.le_of_ble_eq_true rfl
  | number value => exact Decimals.length_render_le value
  | string value => exact length_quote_le value
  | array items ih =>
      have hitems := length_join_le ih
      have hsum : (items.map fun item ↦ item.weight + 1).foldr Nat.add 0 = weightOfItems items := by
        clear ih hitems
        induction items with
        | nil => rfl
        | cons item items ih => rw [List.map_cons, List.foldr_cons, ih, weightOfItems, Nat.add_eq]
      rw [render, renderItems_eq, weight, List.length_cons, List.length_append,
        List.length_singleton, ← hsum]
      omega
  | object members ih =>
      have hmember : ∀ member ∈ members, (renderMember decimals member).length ≤
          6 * member.1.length + member.2.weight + 3 := by
        intro member hmember
        have hkey := length_quote_le member.1
        have hvalue := ih member hmember
        rw [renderMember, List.length_append, List.length_cons]
        omega
      have hmembers := length_join_le hmember
      have hsum : (members.map fun member ↦ 6 * member.1.length + member.2.weight + 3 + 1).foldr
          Nat.add 0 = weightOfMembers members := by
        clear ih hmember hmembers
        induction members with
        | nil => rfl
        | cons member members ih => rw [List.map_cons, List.foldr_cons, ih, weightOfMembers, Nat.add_eq]
      rw [render, renderMembers_eq, weight, List.length_cons, List.length_append,
        List.length_singleton, ← hsum]
      omega

end Json
