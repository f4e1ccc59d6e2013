import Dona.Library.JsonParser

/-!
# What JSON documents are taken for

The depth of a document, and the value that it stands for: names of an object that are given twice
leave the later value in the earlier place.
-/

namespace Json

variable {N M α : Type}

/-! ### Depth -/

mutual

/-- The number of containers around the innermost value. -/
def nesting : Json N → ℕ
  | .array items => nestingOfItems items
  | .object members => nestingOfMembers members
  | _ => 0

def nestingOfItems : List (Json N) → ℕ
  | [] => 0
  | item :: items => max (item.nesting + 1) (nestingOfItems items)

def nestingOfMembers : List (Text × Json N) → ℕ
  | [] => 0
  | (_, value) :: members => max (value.nesting + 1) (nestingOfMembers members)

end

theorem nestingOfItems_le {items : List (Json N)} {limit : ℕ} :
    nestingOfItems items ≤ limit ↔ ∀ item ∈ items, item.nesting + 1 ≤ limit := by
  induction items with
  | nil => simp [nestingOfItems]
  | cons item items ih => rw [nestingOfItems, Nat.max_le, ih, List.forall_mem_cons]

theorem nestingOfMembers_le {members : List (Text × Json N)} {limit : ℕ} :
    nestingOfMembers members ≤ limit ↔ ∀ member ∈ members, member.2.nesting + 1 ≤ limit := by
  induction members with
  | nil => simp [nestingOfMembers]
  | cons member members ih => rw [nestingOfMembers, Nat.max_le, ih, List.forall_mem_cons]

theorem mem_numbersOfItems {items : List (Json N)} {number : N} :
    number ∈ numbersOfItems items ↔ ∃ item ∈ items, number ∈ item.numbers := by
  induction items with
  | nil => simp [numbersOfItems]
  | cons item items ih => rw [numbersOfItems, List.mem_append, ih, List.exists_mem_cons_iff]

theorem mem_numbersOfMembers {members : List (Text × Json N)} {number : N} :
    number ∈ numbersOfMembers members ↔ ∃ member ∈ members, number ∈ member.2.numbers := by
  induction members with
  | nil => simp [numbersOfMembers]
  | cons member members ih => rw [numbersOfMembers, List.mem_append, ih, List.exists_mem_cons_iff]

/-! ### Values -/

/-- `object[member.1] = member.2` -/
def assign (members : List (Text × α)) (member : Text × α) : List (Text × α) :=
  if member.1 ∈ members.map (·.1) then
    members.map fun other ↦ if other.1 = member.1 then member else other
  else members ++ [member]

mutual

/-- The value of a document, where `numeral` says what numbers are. -/
def toValue (numeral : N → M) : Json N → Json M
  | .null => .null
  | .bool value => .bool value
  | .number value => .number (numeral value)
  | .string value => .string value
  | .array items => .array (toValues numeral items)
  | .object members => .object ((toMembers numeral members).foldl assign [])

def toValues (numeral : N → M) : List (Json N) → List (Json M)
  | [] => []
  | item :: items => item.toValue numeral :: toValues numeral items

def toMembers (numeral : N → M) : List (Text × Json N) → List (Text × Json M)
  | [] => []
  | (key, value) :: members => (key, value.toValue numeral) :: toMembers numeral members

end

mutual

/-- The document with its numbers replaced. -/
def mapNumbers (f : N → M) : Json N → Json M
  | .null => .null
  | .bool value => .bool value
  | .number value => .number (f value)
  | .string value => .string value
  | .array items => .array (mapItems f items)
  | .object members => .object (mapMembers f members)

def mapItems (f : N → M) : List (Json N) → List (Json M)
  | [] => []
  | item :: items => item.mapNumbers f :: mapItems f items

def mapMembers (f : N → M) : List (Text × Json N) → List (Text × Json M)
  | [] => []
  | (key, value) :: members => (key, value.mapNumbers f) :: mapMembers f members

end

variable {f : N → M}

theorem mapItems_eq (items : List (Json N)) : mapItems f items = items.map (mapNumbers f) := by
  induction items with
  | nil => rfl
  | cons item items ih => rw [mapItems, ih, List.map_cons]

theorem mapMembers_eq (members : List (Text × Json N)) :
    mapMembers f members = members.map fun member ↦ (member.1, member.2.mapNumbers f) := by
  induction members with
  | nil => rfl
  | cons member members ih => rw [mapMembers, ih, List.map_cons]

theorem nesting_mapNumbers (document : Json N) :
    (document.mapNumbers f).nesting = document.nesting := by
  induction document using Json.induction with
  | null => rfl
  | bool => rfl
  | number => rfl
  | string => rfl
  | array items ih =>
      rw [mapNumbers, nesting, nesting]
      induction items with
      | nil => rfl
      | cons item items ih' =>
          rw [List.forall_mem_cons] at ih
          rw [mapItems, nestingOfItems, nestingOfItems, ih.1, ih' ih.2]
  | object members ih =>
      rw [mapNumbers, nesting, nesting]
      induction members with
      | nil => rfl
      | cons member members ih' =>
          rw [List.forall_mem_cons] at ih
          rw [mapMembers, nestingOfMembers, nestingOfMembers, ih.1, ih' ih.2]

theorem numbers_mapNumbers (document : Json N) :
    (document.mapNumbers f).numbers = document.numbers.map f := by
  induction document using Json.induction with
  | null => rfl
  | bool => rfl
  | number => rfl
  | string => rfl
  | array items ih =>
      rw [mapNumbers, numbers, numbers]
      induction items with
      | nil => rfl
      | cons item items ih' =>
          rw [List.forall_mem_cons] at ih
          rw [mapItems, numbersOfItems, numbersOfItems, ih.1, ih' ih.2, List.map_append]
  | object members ih =>
      rw [mapNumbers, numbers, numbers]
      induction members with
      | nil => rfl
      | cons member members ih' =>
          rw [List.forall_mem_cons] at ih
          rw [mapMembers, numbersOfMembers, numbersOfMembers, ih.1, ih' ih.2, List.map_append]

theorem uniqueKeys_mapNumbers {document : Json N} (h : document.UniqueKeys) :
    (document.mapNumbers f).UniqueKeys := by
  have hscalar (value : Json M) (hvalue : ∀ members, ¬Within (.object members) value) :
      value.UniqueKeys := fun members hmembers ↦ absurd hmembers (hvalue members)
  induction document using Json.induction with
  | null => exact hscalar _ fun _ h ↦ by cases h
  | bool => exact hscalar _ fun _ h ↦ by cases h
  | number => exact hscalar _ fun _ h ↦ by cases h
  | string => exact hscalar _ fun _ h ↦ by cases h
  | array items ih =>
      rw [mapNumbers, mapItems_eq]
      refine everyObject_array.mpr fun item hitem ↦ ?_
      obtain ⟨item, hmem, rfl⟩ := List.mem_map.mp hitem
      exact ih item hmem (everyObject_array.mp h item hmem)
  | object members ih =>
      obtain ⟨hnames, hvalues⟩ := everyObject_object.mp h
      rw [mapNumbers, mapMembers_eq]
      refine everyObject_object.mpr ⟨?_, fun member hmember ↦ ?_⟩
      · rw [List.map_map]
        exact hnames
      · obtain ⟨member, hmem, rfl⟩ := List.mem_map.mp hmember
        exact ih member hmem (hvalues member hmem)

/-- New names are added behind the others. -/
theorem foldl_assign {members added : List (Text × α)}
    (hnames : ((members ++ added).map (·.1)).Nodup) :
    added.foldl assign members = members ++ added := by
  induction added generalizing members with
  | nil => rw [List.foldl_nil, List.append_nil]
  | cons member added ih =>
      have hnew : member.1 ∉ members.map (·.1) := by
        rw [List.map_append, List.map_cons] at hnames
        exact fun hmem ↦ (List.nodup_append.mp hnames).2.2 _ hmem _ List.mem_cons_self rfl
      rw [List.foldl_cons, assign, if_neg hnew, ih, List.append_assoc]
      · rfl
      · rw [List.append_assoc]
        exact hnames

/-- Without a name that is given twice, the value is the document. -/
theorem toValue_of_uniqueKeys {document : Json N} (h : document.UniqueKeys) :
    document.toValue f = document.mapNumbers f := by
  induction document using Json.induction with
  | null => rfl
  | bool => rfl
  | number => rfl
  | string => rfl
  | array items ih =>
      have hitems := everyObject_array.mp h
      rw [toValue, mapNumbers]
      clear h
      induction items with
      | nil => rfl
      | cons item items ih' =>
          rw [List.forall_mem_cons] at ih hitems
          have hrest := ih' ih.2 hitems.2
          rw [Json.array.injEq] at hrest
          rw [toValues, mapItems, ih.1 hitems.1, hrest]
  | object members ih =>
      obtain ⟨hnames, hvalues⟩ := everyObject_object.mp h
      have hmembers : toMembers f members = mapMembers f members := by
        clear h hnames
        induction members with
        | nil => rfl
        | cons member members ih' =>
            rw [List.forall_mem_cons] at ih hvalues
            rw [toMembers, mapMembers, ih.1 hvalues.1, ih' ih.2 hvalues.2]
      rw [toValue, mapNumbers, hmembers, foldl_assign, List.nil_append]
      rw [List.nil_append, mapMembers_eq, List.map_map]
      exact hnames

theorem mapNumbers_mapNumbers {K : Type} (g : M → K) (document : Json N) :
    (document.mapNumbers f).mapNumbers g = document.mapNumbers (g ∘ f) := by
  induction document using Json.induction with
  | null => rfl
  | bool => rfl
  | number => rfl
  | string => rfl
  | array items ih =>
      rw [mapNumbers, mapNumbers, mapNumbers, mapItems_eq, mapItems_eq, mapItems_eq, List.map_map]
      exact congrArg _ (List.map_congr_left ih)
  | object members ih =>
      rw [mapNumbers, mapNumbers, mapNumbers, mapMembers_eq, mapMembers_eq, mapMembers_eq,
        List.map_map]
      refine congrArg _ (List.map_congr_left fun member hmember ↦ ?_)
      rw [Function.comp_apply, ih member hmember]

theorem mapNumbers_congr {g : N → M} {document : Json N} (h : ∀ n ∈ document.numbers, f n = g n) :
    document.mapNumbers f = document.mapNumbers g := by
  induction document using Json.induction with
  | null => rfl
  | bool => rfl
  | number value => exact congrArg _ (h value (List.mem_singleton.mpr rfl))
  | string => rfl
  | array items ih =>
      rw [mapNumbers, mapNumbers, mapItems_eq, mapItems_eq]
      refine congrArg _ (List.map_congr_left fun item hitem ↦ ih item hitem fun n hn ↦ ?_)
      exact h n (mem_numbersOfItems.mpr ⟨item, hitem, hn⟩)
  | object members ih =>
      rw [mapNumbers, mapNumbers, mapMembers_eq, mapMembers_eq]
      refine congrArg _ (List.map_congr_left fun member hmember ↦ ?_)
      rw [ih member hmember fun n hn ↦ h n (mem_numbersOfMembers.mpr ⟨member, hmember, hn⟩)]

theorem mapNumbers_id (document : Json N) : document.mapNumbers id = document := by
  induction document using Json.induction with
  | null => rfl
  | bool => rfl
  | number => rfl
  | string => rfl
  | array items ih =>
      rw [mapNumbers, mapItems_eq, List.map_congr_left ih]
      exact congrArg _ (List.map_id _)
  | object members ih =>
      rw [mapNumbers, mapMembers_eq]
      refine congrArg _ ((List.map_congr_left fun member hmember ↦ ?_).trans (List.map_id _))
      rw [ih member hmember]
      rfl

/-! ### Checking names -/

mutual

def hasUniqueKeys : Json N → Bool
  | .array items => itemsHaveUniqueKeys items
  | .object members => decide (members.map (·.1)).Nodup && membersHaveUniqueKeys members
  | _ => true

def itemsHaveUniqueKeys : List (Json N) → Bool
  | [] => true
  | item :: items => item.hasUniqueKeys && itemsHaveUniqueKeys items

def membersHaveUniqueKeys : List (Text × Json N) → Bool
  | [] => true
  | (_, value) :: members => value.hasUniqueKeys && membersHaveUniqueKeys members

end

theorem uniqueKeys_of_check {document : Json N} (h : document.hasUniqueKeys = true) :
    document.UniqueKeys := by
  induction document using Json.induction with
  | null => exact fun _ h ↦ by cases h
  | bool => exact fun _ h ↦ by cases h
  | number => exact fun _ h ↦ by cases h
  | string => exact fun _ h ↦ by cases h
  | array items ih =>
      rw [hasUniqueKeys] at h
      refine everyObject_array.mpr ?_
      induction items with
      | nil => exact List.forall_mem_nil _
      | cons item items ih' =>
          rw [itemsHaveUniqueKeys, Bool.and_eq_true] at h
          rw [List.forall_mem_cons] at ih ⊢
          exact ⟨ih.1 h.1, ih' ih.2 h.2⟩
  | object members ih =>
      rw [hasUniqueKeys, Bool.and_eq_true, decide_eq_true_iff] at h
      refine everyObject_object.mpr ⟨h.1, ?_⟩
      have hvalues := h.2
      clear h
      induction members with
      | nil => exact List.forall_mem_nil _
      | cons member members ih' =>
          rw [membersHaveUniqueKeys, Bool.and_eq_true] at hvalues
          rw [List.forall_mem_cons] at ih ⊢
          exact ⟨ih.1 hvalues.1, ih' ih.2 hvalues.2⟩

end Json
