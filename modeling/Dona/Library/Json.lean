import Mathlib.Data.List.Infix
import Mathlib.Data.List.Nodup
import Mathlib.Data.List.Perm.Basic

/-!
# JSON documents

Documents over UTF-16 texts and any type of numbers, their parts, and when two of them are the same
up to the order of members. The spelling of a string and the text of a document say what they are
the texts of.
-/

/-- A text, as JavaScript has it: UTF-16 code units, surrogates paired or not. -/
abbrev Text := List UInt16

/-- The units of an ASCII text. -/
def unitsOf (text : String) : Text := text.toList.map fun c ↦ c.toNat.toUInt16

inductive Json (N : Type)
  | null
  | bool (value : Bool)
  | number (value : N)
  | string (value : Text)
  | array (items : List (Json N))
  | object (members : List (Text × Json N))

namespace Json

variable {N : Type}

/-! ### Parts -/

/-- Induction over the parts of documents. -/
@[elab_as_elim]
theorem induction {motive : Json N → Prop} (null : motive .null)
    (bool : ∀ value, motive (.bool value)) (number : ∀ value, motive (.number value))
    (string : ∀ value, motive (.string value))
    (array : ∀ items, (∀ item ∈ items, motive item) → motive (.array items))
    (object : ∀ members, (∀ member ∈ members, motive member.2) → motive (.object members)) :
    ∀ document, motive document := by
  intro document
  refine Json.rec (motive_1 := motive) (motive_2 := fun items ↦ ∀ item ∈ items, motive item)
    (motive_3 := fun members ↦ ∀ member ∈ members, motive member.2)
    (motive_4 := fun member ↦ motive member.2) null bool number string array object ?_ ?_ ?_ ?_ ?_
    document
  · exact nofun
  · intro item items hitem hitems
    exact List.forall_mem_cons.mpr ⟨hitem, hitems⟩
  · exact nofun
  · intro member members hmember hmembers
    exact List.forall_mem_cons.mpr ⟨hmember, hmembers⟩
  · exact fun _ _ hvalue ↦ hvalue

/-- The first document is a part of the second. -/
inductive Within : Json N → Json N → Prop
  | self (document : Json N) : Within document document
  | item {document item : Json N} {items : List (Json N)} :
      item ∈ items → Within document item → Within document (.array items)
  | member {document : Json N} {member : Text × Json N} {members : List (Text × Json N)} :
      member ∈ members → Within document member.2 → Within document (.object members)

/-- The names of every object in the document are as `p` says. -/
def EveryObject (p : List Text → Prop) (document : Json N) : Prop :=
  ∀ members, Within (.object members) document → p (members.map (·.1))

/-- No object has two members of one name. -/
def UniqueKeys (document : Json N) : Prop := document.EveryObject List.Nodup

variable {p : List Text → Prop}

theorem everyObject_array {items : List (Json N)} :
    (array items).EveryObject p ↔ ∀ item ∈ items, item.EveryObject p := by
  constructor
  · intro h item hitem members hmembers
    exact h members (.item hitem hmembers)
  · intro h members hmembers
    cases hmembers with
    | item hitem hwithin => exact h _ hitem members hwithin

theorem everyObject_object {members : List (Text × Json N)} :
    (object members).EveryObject p ↔
      p (members.map (·.1)) ∧ ∀ member ∈ members, member.2.EveryObject p := by
  constructor
  · intro h
    refine ⟨h members (.self _), fun member hmember others hothers ↦ ?_⟩
    exact h others (.member hmember hothers)
  · rintro ⟨hmembers, h⟩ others hothers
    cases hothers with
    | self => exact hmembers
    | member hmember hwithin => exact h _ hmember others hwithin

/-! ### The order of members -/

/-- The documents are equal up to the order of the members of their objects. -/
inductive Same : Json N → Json N → Prop
  | refl (document : Json N) : Same document document
  | trans {a b c : Json N} : Same a b → Same b c → Same a c
  | item (before : List (Json N)) {a b : Json N} (after : List (Json N)) :
      Same a b → Same (.array (before ++ a :: after)) (.array (before ++ b :: after))
  | member (before : List (Text × Json N)) (key : Text) {a b : Json N}
      (after : List (Text × Json N)) :
      Same a b →
      Same (.object (before ++ (key, a) :: after)) (.object (before ++ (key, b) :: after))
  | order {members members' : List (Text × Json N)} :
      members.Perm members' → Same (.object members) (.object members')

theorem Same.symm {a b : Json N} (h : Same a b) : Same b a := by
  induction h with
  | refl document => exact .refl document
  | trans _ _ ih ih' => exact ih'.trans ih
  | item before after _ ih => exact .item before after ih
  | member before key after _ ih => exact .member before key after ih
  | order h => exact .order h.symm

/-- Arrays with the same items are the same. -/
theorem Same.array {items items' : List (Json N)} (h : List.Forall₂ Same items items') :
    Same (.array items) (.array items') := by
  suffices ∀ before, Same (.array (before ++ items)) (.array (before ++ items')) from this []
  induction h with
  | nil => exact fun before ↦ .refl _
  | @cons item item' items items' hitem _ ih =>
      intro before
      have hrest := ih (before ++ [item'])
      rw [List.append_assoc, List.append_assoc] at hrest
      exact (Same.item before items hitem).trans hrest

/-- Objects with the same members are the same. -/
theorem Same.object {members members' : List (Text × Json N)}
    (h : List.Forall₂ (fun member member' ↦ member.1 = member'.1 ∧ Same member.2 member'.2)
      members members') : Same (.object members) (.object members') := by
  suffices ∀ before, Same (.object (before ++ members)) (.object (before ++ members')) from this []
  induction h with
  | nil => exact fun before ↦ .refl _
  | @cons member member' members members' hmember _ ih =>
      intro before
      obtain ⟨key, value⟩ := member
      obtain ⟨key', value'⟩ := member'
      obtain ⟨rfl, hvalue⟩ := hmember
      have hrest := ih (before ++ [(key, value')])
      rw [List.append_assoc, List.append_assoc] at hrest
      exact (Same.member before key members hvalue).trans hrest

/-- What permuted names keep, the order of members keeps. -/
theorem Same.everyObject (hp : ∀ keys keys', keys.Perm keys' → p keys → p keys') {a b : Json N}
    (h : Same a b) (ha : a.EveryObject p) : b.EveryObject p := by
  induction h with
  | refl => exact ha
  | trans _ _ ih ih' => exact ih' (ih ha)
  | item before after _ ih =>
      rw [everyObject_array, List.forall_mem_append, List.forall_mem_cons] at ha ⊢
      exact ⟨ha.1, ih ha.2.1, ha.2.2⟩
  | member before key after _ ih =>
      rw [everyObject_object, List.forall_mem_append, List.forall_mem_cons] at ha ⊢
      obtain ⟨hkeys, hbefore, hvalue, hafter⟩ := ha
      rw [List.map_append, List.map_cons] at hkeys ⊢
      exact ⟨hkeys, hbefore, ih hvalue, hafter⟩
  | order hperm =>
      rw [everyObject_object] at ha ⊢
      refine ⟨hp _ _ (hperm.map _) ha.1, fun member hmember ↦ ?_⟩
      exact ha.2 member (hperm.mem_iff.mpr hmember)

theorem Same.uniqueKeys {a b : Json N} (h : Same a b) (ha : a.UniqueKeys) : b.UniqueKeys :=
  h.everyObject (fun _ _ hperm hnodup ↦ hperm.nodup_iff.mp hnodup) ha

end Json
