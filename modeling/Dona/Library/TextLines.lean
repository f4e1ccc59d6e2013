import Dona.Library.Decimals
import Mathlib.Data.List.DropRight
import Mathlib.Data.List.TakeWhile

/-!
# Lines and columns of a text

White space as JavaScript has it, the lines of a trimmed text, and lines of columns of digits.
-/

namespace TextLines

open Decimals (isDigit span_append)

/-- `\s`: the white space and the line terminators of JavaScript. -/
def isSpace (unit : UInt16) : Bool :=
  ([9, 10, 11, 12, 13, 32, 160, 5760, 8232, 8233, 8239, 8287, 12288, 65279] : Text).contains unit ||
    (8192 ≤ unit && unit ≤ 8202)

/-- `text.trim()` -/
def trim (text : Text) : Text := (text.dropWhile isSpace).rdropWhile isSpace

/-- `text.trim().split("\n")` -/
def lines (text : Text) : List Text := (trim text).splitOn 10

/-- `texts.join("\n")` -/
def unlines (texts : List Text) : Text := [10].intercalate texts

/-- `(\d+)`, at the head of a text, and what follows it. -/
def matchDigits (text : Text) : Option (Text × Text) :=
  if text.takeWhile isDigit = [] then none
  else some (text.takeWhile isDigit, text.dropWhile isDigit)

/-- `\s+` -/
def matchSpaces (text : Text) : Option Text :=
  if text.takeWhile isSpace = [] then none else some (text.dropWhile isSpace)

/-- `(\d+)\s*$` -/
def matchLast (text : Text) : Option Text := do
  let (digits, rest) ← matchDigits text
  if rest.dropWhile isSpace = [] then some digits else none

/-- `(\d+)\s+`, and what follows. -/
def matchColumn (text : Text) : Option (Text × Text) := do
  let (digits, rest) ← matchDigits text
  let rest ← matchSpaces rest
  some (digits, rest)

variable {text rest digits spaces : Text} {unit : UInt16}

theorem isSpace_of_visible (hlow : 33 ≤ unit) (hhigh : unit ≤ 126) : isSpace unit = false := by
  rw [isSpace, Bool.or_eq_false_iff]
  constructor
  · rw [Bool.eq_false_iff]
    intro hmem
    simp only [List.contains_iff_mem, List.mem_cons, List.not_mem_nil, or_false] at hmem
    have hvisible := And.intro hlow hhigh
    rcases hmem with rfl | rfl | rfl | rfl | rfl | rfl | rfl | rfl | rfl | rfl | rfl | rfl | rfl |
      rfl <;> exact absurd hvisible (by decide)
  · rw [Bool.and_eq_false_iff]
    refine .inl (decide_eq_false fun hle ↦ ?_)
    exact absurd (UInt16.le_trans hle hhigh) (by decide)

theorem isSpace_of_isDigit (h : isDigit unit = true) : isSpace unit = false := by
  simp only [isDigit, Bool.and_eq_true, decide_eq_true_eq] at h
  exact isSpace_of_visible (UInt16.le_trans (by decide) h.1) (UInt16.le_trans h.2 (by decide))

theorem isDigit_of_isSpace (h : isSpace unit = true) : isDigit unit = false := by
  by_contra hdigit
  rw [isSpace_of_isDigit ((Bool.not_eq_false _).mp hdigit)] at h
  cases h

/-- A column: at least one digit, and nothing else. -/
def IsDigits (digits : Text) : Prop := digits ≠ [] ∧ ∀ digit ∈ digits, isDigit digit = true

theorem IsDigits.head (h : IsDigits digits) (rest : Text) :
    ∀ unit ∈ (digits ++ rest).head?, isSpace unit = false := by
  obtain ⟨hne, hdigits⟩ := h
  obtain ⟨digit, digits, rfl⟩ := List.exists_cons_of_ne_nil hne
  rintro unit ⟨⟩
  exact isSpace_of_isDigit (hdigits digit List.mem_cons_self)

theorem matchDigits_append (hdigits : IsDigits digits)
    (hrest : ∀ unit ∈ rest.head?, isDigit unit = false) :
    matchDigits (digits ++ rest) = some (digits, rest) := by
  obtain ⟨htake, hdrop⟩ := span_append hdigits.2 hrest
  rw [matchDigits, htake, hdrop, if_neg hdigits.1]

theorem matchDigits_eq_some (h : matchDigits text = some (digits, rest)) :
    IsDigits digits ∧ text = digits ++ rest := by
  unfold matchDigits at h
  split_ifs at h with hnil
  obtain ⟨rfl, rfl⟩ := Prod.mk.inj (Option.some.inj h)
  exact ⟨⟨hnil, fun digit hmem ↦ List.mem_takeWhile_imp hmem⟩,
    List.takeWhile_append_dropWhile.symm⟩

/-- White space, and nothing else. -/
def IsSpaces (spaces : Text) : Prop := ∀ unit ∈ spaces, isSpace unit = true

theorem IsSpaces.head (h : IsSpaces spaces) :
    ∀ unit ∈ spaces.head?, isDigit unit = false := by
  intro unit hunit
  exact isDigit_of_isSpace (h unit (List.mem_of_mem_head? hunit))

theorem dropWhile_isSpaces (h : IsSpaces spaces) : spaces.dropWhile isSpace = [] :=
  List.dropWhile_eq_nil_iff.2 h

theorem matchLast_eq_some_iff :
    matchLast text = some digits ↔
      ∃ trail, IsSpaces trail ∧ IsDigits digits ∧ text = digits ++ trail := by
  constructor
  · intro h
    simp only [matchLast, Option.bind_eq_bind, Option.bind_eq_some_iff, Prod.exists] at h
    obtain ⟨digits', trail, hmatch, hlast⟩ := h
    split_ifs at hlast with htrail
    obtain rfl := Option.some.inj hlast
    obtain ⟨hdigits, htext⟩ := matchDigits_eq_some hmatch
    exact ⟨trail, List.dropWhile_eq_nil_iff.1 htrail, hdigits, htext⟩
  · rintro ⟨trail, htrail, hdigits, rfl⟩
    simp only [matchLast, matchDigits_append hdigits htrail.head, Option.bind_eq_bind,
      Option.bind_some, dropWhile_isSpaces htrail, if_true]

theorem matchColumn_append {gap : Text} (hdigits : IsDigits digits) (hgap : IsSpaces gap)
    (hne : gap ≠ []) (hrest : ∀ unit ∈ rest.head?, isSpace unit = false) :
    matchColumn (digits ++ (gap ++ rest)) = some (digits, rest) := by
  have hhead : ∀ unit ∈ (gap ++ rest).head?, isDigit unit = false := by
    obtain ⟨blank, gap, rfl⟩ := List.exists_cons_of_ne_nil hne
    rintro unit ⟨⟩
    exact isDigit_of_isSpace (hgap blank List.mem_cons_self)
  obtain ⟨htake, hdrop⟩ := span_append hgap hrest
  simp only [matchColumn, matchDigits_append hdigits hhead, matchSpaces, htake, hdrop,
    Option.bind_eq_bind, Option.bind_some, if_neg hne]

theorem matchColumn_eq_some (h : matchColumn text = some (digits, rest)) :
    ∃ gap, IsSpaces gap ∧ gap ≠ [] ∧ IsDigits digits ∧ text = digits ++ (gap ++ rest) := by
  simp only [matchColumn, matchSpaces, Option.bind_eq_bind, Option.bind_eq_some_iff,
    Prod.exists] at h
  obtain ⟨digits', behind, hmatch, rest', hspaces, hpair⟩ := h
  obtain ⟨rfl, rfl⟩ := Prod.mk.inj (Option.some.inj hpair)
  split_ifs at hspaces with hnil
  obtain rfl := Option.some.inj hspaces
  obtain ⟨hdigits, rfl⟩ := matchDigits_eq_some hmatch
  refine ⟨behind.takeWhile isSpace, fun unit hmem ↦ List.mem_takeWhile_imp hmem, hnil, hdigits, ?_⟩
  rw [List.takeWhile_append_dropWhile]

/-! ### Lines that are joined -/

theorem lines_ne_nil (text : Text) : lines text ≠ [] := List.splitOn_ne_nil 10 (trim text)

theorem trim_of_ends (hhead : ∀ unit ∈ text.head?, isSpace unit = false)
    (hlast : ∀ unit ∈ text.getLast?, isSpace unit = false) : trim text = text := by
  have hdrop : text.dropWhile isSpace = text := (@span_append isSpace [] text (by simp) hhead).2
  rw [trim, hdrop, List.rdropWhile_eq_self_iff]
  intro hne hspace
  rw [hlast _ (List.getLast?_eq_some_getLast hne)] at hspace
  cases hspace

theorem head?_unlines (texts : List Text) (htext : text ≠ []) :
    (unlines (text :: texts)).head? = text.head? := by
  obtain ⟨unit, more, rfl⟩ := List.exists_cons_of_ne_nil htext
  cases texts <;> rfl

theorem getLast?_unlines (texts : List Text) (htext : text ≠ []) :
    (unlines (texts ++ [text])).getLast? = text.getLast? := by
  induction texts with
  | nil => rw [List.nil_append, unlines, List.intercalate_singleton]
  | cons first texts ih =>
      have hne : unlines (texts ++ [text]) ≠ [] := by
        intro hnil
        rw [hnil] at ih
        exact htext (List.getLast?_eq_none_iff.1 ih.symm)
      have hunlines : unlines (first :: (texts ++ [text])) =
          first ++ [10] ++ unlines (texts ++ [text]) :=
        List.intercalate_cons_of_ne_nil (by simp)
      rw [List.cons_append, hunlines, List.getLast?_append_of_ne_nil _ hne]
      exact ih

/-- Joined lines are split again. -/
theorem lines_unlines {texts : List Text} (hne : texts ≠ [])
    (htexts : ∀ text ∈ texts, text ≠ [] ∧ 10 ∉ text ∧
      (∀ unit ∈ text.head?, isSpace unit = false) ∧
      ∀ unit ∈ text.getLast?, isSpace unit = false) : lines (unlines texts) = texts := by
  have htrim : trim (unlines texts) = unlines texts := by
    apply trim_of_ends
    · obtain ⟨text, rest, rfl⟩ := List.exists_cons_of_ne_nil hne
      obtain ⟨htext, -, hhead, -⟩ := htexts text List.mem_cons_self
      rw [head?_unlines rest htext]
      exact hhead
    · obtain ⟨before, text, rfl⟩ := (List.eq_nil_or_concat' texts).resolve_left hne
      obtain ⟨htext, -, -, hlast⟩ := htexts text (by simp)
      rw [getLast?_unlines before htext]
      exact hlast
  rw [lines, htrim]
  exact List.splitOn_intercalate 10 (fun text htext ↦ (htexts text htext).2.1) hne

end TextLines
