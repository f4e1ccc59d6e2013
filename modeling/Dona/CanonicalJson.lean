import Dona.Library.JsonText
import Mathlib.Data.List.Sort

/-!
# Canonical JSON

The text that payloads are compared by: members sorted by the collation of the locale. It says
which document it is the text of, and it does not depend on the order of members as long as the
collation tells the names apart.
-/

namespace Dona

open Json

/-- How `localeCompare` compares texts: a total preorder. -/
structure Collation where
  localeCompare : Text → Text → ℤ
  swap (left right : Text) : localeCompare left right < 0 ↔ 0 < localeCompare right left
  trans {first second third : Text} : localeCompare first second ≤ 0 →
    localeCompare second third ≤ 0 → localeCompare first third ≤ 0

theorem Collation.total (collation : Collation) (left right : Text) :
    collation.localeCompare left right ≤ 0 ∨ collation.localeCompare right left ≤ 0 := by
  have hswap := collation.swap right left
  omega

/-! ### Objects -/

def decimalText (n : ℕ) : Text := (Nat.toDigits 10 n).map fun digit ↦ digit.toNat.toUInt16

/-- The number that a name spells, if it is an array index. -/
def arrayIndex? (key : Text) : Option ℕ :=
  let index := key.foldl (fun value unit ↦ 10 * value + (unit.toNat - 48)) 0
  if decimalText index = key ∧ index < 4294967295 then some index else none

theorem arrayIndex?_inj {key key' : Text} {index : ℕ} (h : arrayIndex? key = some index)
    (h' : arrayIndex? key' = some index) : key = key' := by
  unfold arrayIndex? at h h'
  simp only [Option.ite_none_right_eq_some, Option.some.injEq] at h h'
  obtain ⟨⟨hkey, -⟩, hindex⟩ := h
  obtain ⟨⟨hkey', -⟩, hindex'⟩ := h'
  rw [← hkey, ← hkey', hindex, hindex']

/-- Array indices come before the other names, in ascending order. -/
def indexFirst (key key' : Text) : Bool :=
  match arrayIndex? key, arrayIndex? key' with
  | some index, some index' => index ≤ index'
  | none, some _ => false
  | _, none => true

variable {α : Type}

/-- `Object.entries`: the members under array indices first, then the others as they were added. -/
def entries (members : List (Text × α)) : List (Text × α) :=
  members.insertionSort fun left right ↦ indexFirst left.1 right.1

/-- The entries as `sort` leaves them, which keeps the order of those that compare equal. -/
def sortedEntries (collation : Collation) (members : List (Text × α)) : List (Text × α) :=
  (entries members).insertionSort fun left right ↦ collation.localeCompare left.1 right.1 ≤ 0

/-! ### Texts -/

variable {N : Type}

mutual

/-- The text of a document with the members of its objects sorted. The members are turned into
texts before they are sorted, which looks at their names alone. -/
def sortedText (collation : Collation) (numerals : Numerals N) : Json N → Text
  | .null => unitsOf "null"
  | .bool true => unitsOf "true"
  | .bool false => unitsOf "false"
  | .number value => numerals.text value
  | .string value => quote value
  | .array items => 91 :: (join (sortedTexts collation numerals items) ++ [93])
  | .object members =>
      123 :: (join ((sortedEntries collation (memberTexts collation numerals members)).map
        fun entry ↦ quote entry.1 ++ 58 :: entry.2) ++ [125])

def sortedTexts (collation : Collation) (numerals : Numerals N) : List (Json N) → List Text
  | [] => []
  | item :: items => sortedText collation numerals item :: sortedTexts collation numerals items

def memberTexts (collation : Collation) (numerals : Numerals N) :
    List (Text × Json N) → List (Text × Text)
  | [] => []
  | (key, child) :: members =>
      (key, sortedText collation numerals child) :: memberTexts collation numerals members

end

def Dispatcher.stableStringify (collation : Collation) (numerals : Numerals N) (value : Json N) :
    Text :=
  sortedText collation numerals value

def Updater.canonicalJson (collation : Collation) (numerals : Numerals N) (value : Json N) : Text :=
  sortedText collation numerals value

/-! ### Sorts -/

/-- What comes before in a sorted list, where `p` says what came before in the list. -/
def Ahead (r p : α → α → Prop) (first second : α) : Prop :=
  r first second ∧ (r second first → p first second)

theorem pairwise_orderedInsert {r p : α → α → Prop} [DecidableRel r]
    (htotal : ∀ a b, r a b ∨ r b a) (htrans : ∀ a b c, r a b → r b c → r a c) {item : α}
    {sorted : List α} (hsorted : sorted.Pairwise (Ahead r p)) (hitem : ∀ b ∈ sorted, p item b) :
    (sorted.orderedInsert r item).Pairwise (Ahead r p) := by
  induction sorted with
  | nil => exact List.pairwise_singleton _ _
  | cons head sorted ih =>
      obtain ⟨hhead, htail⟩ := List.pairwise_cons.mp hsorted
      by_cases hfirst : r item head
      · rw [List.orderedInsert_cons_of_le _ _ hfirst, List.pairwise_cons]
        refine ⟨fun other hother ↦ ⟨?_, fun _ ↦ hitem other hother⟩, hsorted⟩
        rcases List.mem_cons.mp hother with rfl | hmem
        · exact hfirst
        · exact htrans _ _ _ hfirst (hhead other hmem).1
      · rw [List.orderedInsert_of_not_le _ _ hfirst, List.pairwise_cons]
        refine ⟨fun other hother ↦ ?_, ih htail fun b hb ↦ hitem b (List.mem_cons_of_mem _ hb)⟩
        rcases (List.mem_orderedInsert r).mp hother with rfl | hmem
        · exact ⟨(htotal _ _).resolve_left hfirst, fun h ↦ absurd h hfirst⟩
        · exact hhead other hmem

/-- A sort leaves those that compare equal in their order. -/
theorem pairwise_insertionSort_of_pairwise {r p : α → α → Prop} [DecidableRel r]
    (htotal : ∀ a b, r a b ∨ r b a) (htrans : ∀ a b c, r a b → r b c → r a c) {items : List α}
    (hitems : items.Pairwise p) : (items.insertionSort r).Pairwise (Ahead r p) := by
  induction items with
  | nil => exact List.Pairwise.nil
  | cons item items ih =>
      obtain ⟨hitem, htail⟩ := List.pairwise_cons.mp hitems
      apply pairwise_orderedInsert htotal htrans (ih htail)
      intro other hother
      exact hitem other ((List.mem_insertionSort r).mp hother)

theorem indexFirst_total (key key' : Text) : indexFirst key key' ∨ indexFirst key' key := by
  unfold indexFirst
  cases arrayIndex? key <;> cases arrayIndex? key' <;> simp [le_total]

theorem indexFirst_trans (first second third : Text) (h : indexFirst first second)
    (h' : indexFirst second third) : indexFirst first third := by
  unfold indexFirst at *
  cases hfirst : arrayIndex? first <;> cases hsecond : arrayIndex? second <;>
    cases hthird : arrayIndex? third <;> simp_all
  omega

theorem pairwise_entries (members : List (Text × α)) :
    (entries members).Pairwise fun left right ↦ indexFirst left.1 right.1 := by
  have hpairwise : (entries members).Pairwise
      (Ahead (fun left right ↦ indexFirst left.1 right.1 = true) fun _ _ ↦ True) :=
    pairwise_insertionSort_of_pairwise (fun left right ↦ indexFirst_total left.1 right.1)
      (fun first second third ↦ indexFirst_trans first.1 second.1 third.1)
      (List.pairwise_of_forall fun _ _ ↦ trivial)
  exact hpairwise.imp fun h ↦ h.1

theorem perm_sortedEntries (collation : Collation) (members : List (Text × α)) :
    (sortedEntries collation members).Perm members :=
  (List.perm_insertionSort _ _).trans (List.perm_insertionSort _ _)

/-- The two names compare equal, and neither is an array index. -/
def Tie (collation : Collation) (key key' : Text) : Prop :=
  collation.localeCompare key key' = 0 ∧ arrayIndex? key = none ∧ arrayIndex? key' = none

theorem Tie.symm {collation : Collation} {key key' : Text} (h : Tie collation key key') :
    Tie collation key' key := by
  obtain ⟨hcompare, hkey, hkey'⟩ := h
  have hswap := collation.swap key key'
  have hswap' := collation.swap key' key
  exact ⟨by omega, hkey', hkey⟩

/-- Some two of the names are different and tie. -/
def Tied (collation : Collation) (keys : List Text) : Prop :=
  ∃ key ∈ keys, ∃ key' ∈ keys, key ≠ key' ∧ Tie collation key key'

/-- Without ties the order of the members does not matter. -/
theorem sortedEntries_eq_of_perm {collation : Collation} {members members' : List (Text × α)}
    (hperm : members.Perm members') (hnodup : (members.map (·.1)).Nodup)
    (hties : ¬Tied collation (members.map (·.1))) :
    sortedEntries collation members = sortedEntries collation members' := by
  have hpairwise : ∀ members : List (Text × α), (sortedEntries collation members).Pairwise
      (Ahead (fun left right ↦ collation.localeCompare left.1 right.1 ≤ 0)
        fun left right ↦ indexFirst left.1 right.1) := by
    intro members
    exact pairwise_insertionSort_of_pairwise
      (r := fun left right ↦ collation.localeCompare left.1 right.1 ≤ 0)
      (fun left right ↦ collation.total left.1 right.1) (fun _ _ _ ↦ collation.trans)
      (pairwise_entries members)
  refine List.Perm.eq_of_pairwise ?_ (hpairwise members) (hpairwise members')
    ((perm_sortedEntries collation members).trans
      (hperm.trans (perm_sortedEntries collation members').symm))
  intro left right hleft hright hahead hahead'
  have hleft := (perm_sortedEntries collation members).mem_iff.mp hleft
  have hright := hperm.mem_iff.mpr ((perm_sortedEntries collation members').mem_iff.mp hright)
  refine List.inj_on_of_nodup_map hnodup hleft hright ?_
  by_contra hne
  have hindex := hahead.2 hahead'.1
  have hindex' := hahead'.2 hahead.1
  have hzero : collation.localeCompare left.1 right.1 = 0 := by
    have hswap := collation.swap left.1 right.1
    have hle := hahead.1
    have hle' := hahead'.1
    omega
  unfold indexFirst at hindex hindex'
  cases hkey : arrayIndex? left.1 with
  | none =>
      cases hkey' : arrayIndex? right.1 with
      | none =>
          exact hties ⟨left.1, List.mem_map_of_mem hleft, right.1, List.mem_map_of_mem hright, hne,
            hzero, hkey, hkey'⟩
      | some index' => simp [hkey, hkey'] at hindex
  | some index =>
      cases hkey' : arrayIndex? right.1 with
      | none => simp [hkey, hkey'] at hindex'
      | some index' =>
          simp only [hkey, hkey', decide_eq_true_eq] at hindex hindex'
          obtain rfl := le_antisymm hindex hindex'
          exact hne (arrayIndex?_inj hkey hkey')

/-- Members that tie stay in their order. -/
theorem sublist_sortedEntries {collation : Collation} {members : List (Text × α)}
    {left right : Text × α} (htie : Tie collation left.1 right.1)
    (h : [left, right].Sublist members) :
    [left, right].Sublist (sortedEntries collation members) := by
  obtain ⟨hzero, hleft, hright⟩ := htie
  have : Std.Total fun left right : Text × α ↦ (indexFirst left.1 right.1 : Prop) :=
    ⟨fun left right ↦ indexFirst_total left.1 right.1⟩
  have : IsTrans (Text × α) fun left right ↦ (indexFirst left.1 right.1 : Prop) :=
    ⟨fun first second third ↦ indexFirst_trans first.1 second.1 third.1⟩
  have : Std.Total fun left right : Text × α ↦ collation.localeCompare left.1 right.1 ≤ 0 :=
    ⟨fun left right ↦ collation.total left.1 right.1⟩
  have : IsTrans (Text × α) fun left right ↦ collation.localeCompare left.1 right.1 ≤ 0 :=
    ⟨fun _ _ _ ↦ collation.trans⟩
  have hfirst : indexFirst left.1 right.1 := by simp [indexFirst, hleft, hright]
  have hentries : [left, right].Sublist (entries members) :=
    List.pair_sublist_insertionSort hfirst h
  exact List.pair_sublist_insertionSort
    (r := fun left right ↦ collation.localeCompare left.1 right.1 ≤ 0) hzero.le hentries

/-- In a list without duplicates a pair stands in one order only. -/
theorem not_sublist_swap {items : List α} (hnodup : items.Nodup) {left right : α}
    (h : [left, right].Sublist items) : ¬[right, left].Sublist items := by
  induction items with
  | nil => cases h
  | cons item items ih =>
      obtain ⟨hitem, hitems⟩ := List.nodup_cons.mp hnodup
      intro h'
      cases h with
      | cons _ h =>
          cases h' with
          | cons _ h' => exact ih hitems h h'
          | cons_cons _ h' => exact hitem (h.subset (by simp))
      | cons_cons _ h =>
          cases h' with
          | cons _ h' => exact hitem (h'.subset (by simp))
          | cons_cons _ h' => exact hitem (h.subset (by simp))

theorem sortedEntries_reverse_ne {collation : Collation} {members : List (Text × α)}
    (hnodup : (members.map (·.1)).Nodup) (hties : Tied collation (members.map (·.1))) :
    sortedEntries collation members ≠ sortedEntries collation members.reverse := by
  have hsorted : (sortedEntries collation members).Nodup :=
    (perm_sortedEntries collation members).nodup_iff.mpr (List.Nodup.of_map _ hnodup)
  have hpair : ∀ left right : Text × α, [left, right].Sublist members →
      Tie collation left.1 right.1 →
      sortedEntries collation members ≠ sortedEntries collation members.reverse := by
    intro left right hsublist htie heq
    have hswapped : [right, left].Sublist members.reverse := List.Sublist.reverse hsublist
    have hswapped := sublist_sortedEntries htie.symm hswapped
    rw [← heq] at hswapped
    exact not_sublist_swap hsorted (sublist_sortedEntries htie hsublist) hswapped
  obtain ⟨key, hkey, key', hkey', hne, htie⟩ := hties
  obtain ⟨left, hleft, rfl⟩ := List.mem_map.mp hkey
  obtain ⟨right, hright, rfl⟩ := List.mem_map.mp hkey'
  obtain ⟨before, after, rfl⟩ := List.append_of_mem hleft
  rw [List.mem_append, List.mem_cons] at hright
  rcases hright with hbefore | rfl | hafter
  · apply hpair right left _ htie.symm
    exact (List.singleton_sublist.mpr hbefore).append (List.singleton_sublist.mpr (by simp))
  · exact absurd rfl hne
  · apply hpair left right _ htie
    apply List.Sublist.trans _ (List.sublist_append_right before _)
    exact (List.singleton_sublist.mpr hafter).cons_cons left

/-! ### Sorted documents -/

mutual

/-- The document that the sorted text spells. -/
def sorted (collation : Collation) : Json N → Json N
  | .null => .null
  | .bool value => .bool value
  | .number value => .number value
  | .string value => .string value
  | .array items => .array (sortedItems collation items)
  | .object members => .object (sortedEntries collation (sortedMembers collation members))

def sortedItems (collation : Collation) : List (Json N) → List (Json N)
  | [] => []
  | item :: items => sorted collation item :: sortedItems collation items

def sortedMembers (collation : Collation) : List (Text × Json N) → List (Text × Json N)
  | [] => []
  | (key, child) :: members => (key, sorted collation child) :: sortedMembers collation members

end

variable {collation : Collation} {numerals : Numerals N}

theorem sortedItems_eq (items : List (Json N)) :
    sortedItems collation items = items.map (sorted collation) := by
  induction items with
  | nil => rfl
  | cons item items ih => rw [sortedItems, ih, List.map_cons]

theorem sortedMembers_eq (members : List (Text × Json N)) :
    sortedMembers collation members = members.map (Prod.map id (sorted collation)) := by
  induction members with
  | nil => rfl
  | cons member members ih =>
      rw [sortedMembers, ih, List.map_cons]
      rfl

theorem sortedTexts_eq (items : List (Json N)) :
    sortedTexts collation numerals items = items.map (sortedText collation numerals) := by
  induction items with
  | nil => rfl
  | cons item items ih => rw [sortedTexts, ih, List.map_cons]

theorem memberTexts_eq (members : List (Text × Json N)) :
    memberTexts collation numerals members =
      members.map (Prod.map id (sortedText collation numerals)) := by
  induction members with
  | nil => rfl
  | cons member members ih =>
      rw [memberTexts, ih, List.map_cons]
      rfl

theorem sortedEntries_map {β : Type} (f : α → β) (members : List (Text × α)) :
    sortedEntries collation (members.map (Prod.map id f)) =
      (sortedEntries collation members).map (Prod.map id f) := by
  unfold sortedEntries entries
  rw [← List.map_insertionSort (fun left right ↦ indexFirst left.1 right.1) _ (Prod.map id f)
    members fun _ _ _ _ ↦ Iff.rfl]
  exact (List.map_insertionSort (fun left right ↦ collation.localeCompare left.1 right.1 ≤ 0)
    (fun left right ↦ collation.localeCompare left.1 right.1 ≤ 0) (Prod.map id f) _
    fun _ _ _ _ ↦ Iff.rfl).symm

theorem map_fst_sortedMembers (members : List (Text × Json N)) :
    (members.map (Prod.map id (sorted collation))).map (·.1) = members.map (·.1) := by
  rw [List.map_map]
  rfl

theorem sortedText_eq (collation : Collation) (numerals : Numerals N) (document : Json N) :
    sortedText collation numerals document = render numerals (sorted collation document) := by
  induction document using Json.induction with
  | null => rfl
  | bool value => cases value <;> rfl
  | number value => rfl
  | string value => rfl
  | array items ih =>
      rw [sortedText, sorted, render, renderItems_eq, sortedTexts_eq, sortedItems_eq, List.map_map,
        List.map_congr_left ih]
      rfl
  | object members ih =>
      rw [sortedText, sorted, render, renderMembers_eq, memberTexts_eq, sortedMembers_eq,
        sortedEntries_map, sortedEntries_map, List.map_map, List.map_map]
      congr 3
      apply List.map_congr_left
      intro entry hentry
      have hmember := (perm_sortedEntries collation members).mem_iff.mp hentry
      simp only [Function.comp_apply, Prod.map_snd, Prod.map_fst, id_eq, renderMember,
        ih entry hmember]

/-- Sorting changes nothing but the order of members. -/
theorem same_sorted (collation : Collation) (document : Json N) :
    Same document (sorted collation document) := by
  induction document using Json.induction with
  | null => exact .refl _
  | bool value => exact .refl _
  | number value => exact .refl _
  | string value => exact .refl _
  | array items ih =>
      rw [sorted, sortedItems_eq]
      apply Same.array
      rw [List.forall₂_map_right_iff, List.forall₂_same]
      exact ih
  | object members ih =>
      rw [sorted, sortedMembers_eq]
      refine Same.trans (Same.object ?_) (Same.order (perm_sortedEntries collation _).symm)
      rw [List.forall₂_map_right_iff, List.forall₂_same]
      exact fun member hmember ↦ ⟨rfl, ih member hmember⟩

/-- Equal texts are texts of the same document. -/
theorem same_of_sortedText {a b : Json N}
    (h : sortedText collation numerals a = sortedText collation numerals b) : Same a b := by
  rw [sortedText_eq, sortedText_eq] at h
  have hsorted := render_injective numerals h
  have hsame := same_sorted collation a
  rw [hsorted] at hsame
  exact hsame.trans (same_sorted collation b).symm

/-! ### Ties -/

/-- Some object of the document has two names that tie. -/
def HasTies (collation : Collation) (document : Json N) : Prop :=
  ∃ members, Within (.object members) document ∧ Tied collation (members.map (·.1))

theorem not_hasTies_iff {document : Json N} :
    ¬HasTies collation document ↔ document.EveryObject fun keys ↦ ¬Tied collation keys := by
  unfold HasTies EveryObject
  push Not
  rfl

theorem tied_of_perm {keys keys' : List Text} (hperm : keys.Perm keys')
    (h : ¬Tied collation keys) : ¬Tied collation keys' := by
  rintro ⟨key, hkey, key', hkey', hrest⟩
  exact h ⟨key, hperm.mem_iff.mpr hkey, key', hperm.mem_iff.mpr hkey', hrest⟩

/-- Without ties, documents that are the same are sorted alike. -/
theorem sorted_eq_of_same {a b : Json N} (h : Same a b) (ha : a.UniqueKeys)
    (hties : ¬HasTies collation a) : sorted collation a = sorted collation b := by
  rw [not_hasTies_iff] at hties
  induction h with
  | refl => rfl
  | trans hfirst _ ih ih' =>
      have hties' := hfirst.everyObject (fun _ _ ↦ tied_of_perm) hties
      exact (ih ha hties).trans (ih' (hfirst.uniqueKeys ha) hties')
  | item before after _ ih =>
      have ha := everyObject_array.mp ha
      rw [everyObject_array] at hties
      have hitem := ih (ha _ (by simp)) (hties _ (by simp))
      simp only [sorted, sortedItems_eq, List.map_append, List.map_cons, hitem]
  | member before key after _ ih =>
      have ha := (everyObject_object.mp ha).2
      have hties := (everyObject_object.mp hties).2
      have hvalue := ih (ha (key, _) (by simp)) (hties (key, _) (by simp))
      simp only [sorted, sortedMembers_eq, List.map_append, List.map_cons, Prod.map_apply, hvalue]
  | order hperm =>
      rw [sorted, sorted, sortedMembers_eq, sortedMembers_eq]
      congr 1
      apply sortedEntries_eq_of_perm (hperm.map _)
      · rw [map_fst_sortedMembers]
        exact (everyObject_object.mp ha).1
      · rw [map_fst_sortedMembers]
        exact (everyObject_object.mp hties).1

/-- With ties, some order of the members is sorted otherwise. -/
theorem exists_sorted_ne {a b : Json N} (h : Within b a) (ha : a.UniqueKeys) {c : Json N}
    (hsame : Same b c) (hne : sorted collation b ≠ sorted collation c) :
    ∃ a', Same a a' ∧ sorted collation a ≠ sorted collation a' := by
  induction h with
  | self => exact ⟨c, hsame, hne⟩
  | @item item items hitem _ ih =>
      obtain ⟨item', hsame', hne'⟩ := ih (everyObject_array.mp ha item hitem)
      obtain ⟨before, after, rfl⟩ := List.append_of_mem hitem
      refine ⟨_, .item before after hsame', fun heq ↦ hne' ?_⟩
      simp only [sorted, sortedItems_eq, List.map_append, List.map_cons, array.injEq] at heq
      exact (List.cons.inj (List.append_cancel_left heq)).1
  | @member member members hmember _ ih =>
      obtain ⟨hnodup, hvalues⟩ := everyObject_object.mp ha
      obtain ⟨value', hsame', hne'⟩ := ih (hvalues member hmember)
      obtain ⟨before, after, rfl⟩ := List.append_of_mem hmember
      obtain ⟨key, value⟩ := member
      refine ⟨_, .member before key after hsame', fun heq ↦ hne' ?_⟩
      simp only [sorted, sortedMembers_eq, object.injEq] at heq
      -- The name is there once, so that both sorted objects have one value under it.
      have hmem : (key, sorted collation value') ∈
          (before ++ (key, value) :: after).map (Prod.map id (sorted collation)) := by
        rw [← (perm_sortedEntries collation _).mem_iff, heq, (perm_sortedEntries _ _).mem_iff]
        simp
      obtain ⟨other, hother, hvalue⟩ := List.mem_map.mp hmem
      obtain ⟨hkey, hvalue⟩ := Prod.mk.inj hvalue
      have hthe : other = (key, value) :=
        List.inj_on_of_nodup_map hnodup hother hmember hkey
      rw [hthe] at hvalue
      exact hvalue

theorem exists_sortedText_ne {a : Json N} (ha : a.UniqueKeys) (hties : HasTies collation a) :
    ∃ b, Same a b ∧ sortedText collation numerals a ≠ sortedText collation numerals b := by
  obtain ⟨members, hwithin, htied⟩ := hties
  have hnodup := ha members hwithin
  have hne : sorted collation (.object members) ≠ sorted collation (.object members.reverse) := by
    simp only [sorted, sortedMembers_eq, List.map_reverse, ne_eq, object.injEq]
    apply sortedEntries_reverse_ne
    · rwa [map_fst_sortedMembers]
    · rwa [map_fst_sortedMembers]
  obtain ⟨b, hsame, hsorted⟩ :=
    exists_sorted_ne hwithin ha (.order (List.reverse_perm members).symm) hne
  refine ⟨b, hsame, fun htext ↦ hsorted ?_⟩
  rw [sortedText_eq, sortedText_eq] at htext
  exact render_injective numerals htext

end Dona
