import Dona.Library.Closure
import Dona.Library.Doubles
import Dona.Library.Fallible
import Dona.Library.TextLines
import Mathlib.Data.List.Sort
import Mathlib.Data.Set.Card

/-!
# The processes of a worker

The process tree below a root, read from a sample of the process table, and the process groups of
the tree. The table is what the operating system says it is: parents may be missing, links may form
cycles, and one process may be listed twice.
-/

namespace Dona

open Closure Doubles Fallible Relation TextLines

/-- `/^\s*(\d+)\s+(\d+)\s*$/` -/
def matchPair (line : Text) : Option (Text × Text) := do
  let (pid, rest) ← matchColumn (line.dropWhile isSpace)
  let parent ← matchLast rest
  some (pid, parent)

/-- `/^\s*(\d+)\s+(\d+)\s+(\d+)\s*$/` -/
def matchTriple (line : Text) : Option (Text × Text × Text) := do
  let (pid, rest) ← matchColumn (line.dropWhile isSpace)
  let (parent, rest) ← matchColumn rest
  let group ← matchLast rest
  some (pid, parent, group)

structure ProcessRow where
  pid : Number
  parent : Number

/-- The row of a line, if the line is well formed. -/
def processRow? (line : Text) : Option ProcessRow :=
  (matchPair line).map fun columns ↦
    ⟨.ofNat (Decimals.value columns.1), .ofNat (Decimals.value columns.2)⟩

/-- The link from a parent to its child. -/
def ProcessRow.edge (row : ProcessRow) : Number × Number := (row.parent, row.pid)

def processTree (sample : Text) (root : Number) : Except String (List Number) := do
  let rows ← (lines sample).mapM fun line ↦ orThrow (processRow? line) "process_inventory_invalid"
  throwIf (rows.any (·.pid = root) = false) "process_root_missing"
  let ids := closure (rows.map ProcessRow.edge) [root]
  throwIf (512 < ids.length) "process_inventory_too_large"
  .ok (ids.insertionSort (· ≤ ·))

/-- A process whose numbers are safe integers. -/
structure GroupRow where
  pid : ℕ
  parent : ℕ
  group : ℕ

/-- The row of a line, if the line is well formed and its numbers are safe. -/
def groupRow? (line : Text) : Option GroupRow := do
  let (pid, parent, group) ← matchTriple line
  let pid := round (Decimals.value pid)
  let parent := round (Decimals.value parent)
  let group := round (Decimals.value group)
  if [pid, parent, group].all isSafe then
    some ⟨← pid, ← parent, ← group⟩
  else none

/-- `${row.pid} ${row.parent}` -/
def GroupRow.line (row : GroupRow) : Text :=
  Decimals.render row.pid ++ 32 :: Decimals.render row.parent

def GroupRow.isIn (row : GroupRow) (ids : List Number) : Bool := .finite row.pid ∈ ids

structure ProcessGroups where
  processIds : List Number
  processGroups : List ℕ

def processGroups (sample : Text) (root : Number) : Except String ProcessGroups := do
  let rows ← (lines sample).mapM fun line ↦ orThrow (groupRow? line) "process_inventory_invalid"
  let ids ← processTree (unlines (rows.map GroupRow.line)) root
  let groups := ((rows.filter (·.isIn ids)).map (·.group)).eraseDups
  throwIf (groups.any (· ≤ 1) = true) "process_group_invalid"
  throwIf (rows.any (fun row ↦ groups.contains row.group ∧ row.isIn ids = false) = true)
    "process_group_shared"
  .ok ⟨ids, groups.insertionSort (· ≤ ·)⟩

/-! ### Lines -/

/-- The line is two columns of digits, with white space around and between them. -/
def IsPairLine (line first second : Text) : Prop :=
  ∃ lead gap trail, IsSpaces lead ∧ IsSpaces gap ∧ gap ≠ [] ∧ IsSpaces trail ∧ IsDigits first ∧
    IsDigits second ∧ line = lead ++ (first ++ (gap ++ (second ++ trail)))

theorem matchPair_eq_some_iff {line first second : Text} :
    matchPair line = some (first, second) ↔ IsPairLine line first second := by
  constructor
  · intro h
    simp only [matchPair, Option.bind_eq_bind, Option.bind_eq_some_iff, Prod.exists] at h
    obtain ⟨pid, rest, hcolumn, parent, hlast, hpair⟩ := h
    obtain ⟨rfl, rfl⟩ := Prod.mk.inj (Option.some.inj hpair)
    obtain ⟨gap, hgap, hne, hpid, hline⟩ := matchColumn_eq_some hcolumn
    obtain ⟨trail, htrail, hparent, rfl⟩ := matchLast_eq_some_iff.1 hlast
    refine ⟨line.takeWhile isSpace, gap, trail, fun unit hmem ↦ List.mem_takeWhile_imp hmem, hgap,
      hne, htrail, hpid, hparent, ?_⟩
    rw [← hline, List.takeWhile_append_dropWhile]
  · rintro ⟨lead, gap, trail, hlead, hgap, hne, htrail, hfirst, hsecond, rfl⟩
    have hdrop := (Decimals.span_append hlead (hfirst.head (gap ++ (second ++ trail)))).2
    have hlast : matchLast (second ++ trail) = some second :=
      matchLast_eq_some_iff.2 ⟨trail, htrail, hsecond, rfl⟩
    simp only [matchPair, hdrop, matchColumn_append hfirst hgap hne (hsecond.head trail), hlast,
      Option.bind_eq_bind, Option.bind_some]

theorem processRow?_eq_none_iff {line : Text} :
    processRow? line = none ↔ ∀ first second, ¬IsPairLine line first second := by
  rw [processRow?, Option.map_eq_none_iff]
  constructor
  · intro hnone first second hline
    rw [matchPair_eq_some_iff.2 hline] at hnone
    cases hnone
  · intro hall
    cases hmatch : matchPair line with
    | none => rfl
    | some columns => exact absurd (matchPair_eq_some_iff.1 hmatch) (hall columns.1 columns.2)

/-! ### The tree -/

/-- The processes that a sample lists. -/
def listed (sample : Text) : List ProcessRow := (lines sample).filterMap processRow?

/-- `pid` is a process with the parent. -/
def IsChild (rows : List ProcessRow) (parent pid : Number) : Prop :=
  ∃ row ∈ rows, row.parent = parent ∧ row.pid = pid

/-- The processes of the tree: the root, and what child links lead to from it. -/
def Descends (rows : List ProcessRow) (root pid : Number) : Prop :=
  ReflTransGen (IsChild rows) root pid

variable {sample : Text} {root pid : Number} {rows : List ProcessRow} {ids : List Number}

theorem edge_iff (a b : Number) : Edge (rows.map ProcessRow.edge) a b ↔ IsChild rows a b := by
  rw [Edge, List.mem_map]
  constructor
  · rintro ⟨row, hrow, hedge⟩
    exact ⟨row, hrow, congrArg Prod.fst hedge, congrArg Prod.snd hedge⟩
  · rintro ⟨row, hrow, rfl, rfl⟩
    exact ⟨row, hrow, rfl⟩

theorem mem_closure_root :
    pid ∈ closure (rows.map ProcessRow.edge) [root] ↔ Descends rows root pid := by
  have hedges : Edge (rows.map ProcessRow.edge) = IsChild rows := by
    funext a b
    exact propext (edge_iff a b)
  rw [mem_closure_edges, hedges]
  constructor
  · rintro ⟨a, ha, hreach⟩
    rw [List.mem_singleton] at ha
    exact ha ▸ hreach
  · exact fun hreach ↦ ⟨root, List.mem_singleton_self root, hreach⟩

/-- The tree has as many processes as its closure has numbers. -/
theorem encard_descends : Set.encard {pid | Descends rows root pid} =
    (closure (rows.map ProcessRow.edge) [root]).length := by
  have hnodup : (closure (rows.map ProcessRow.edge) [root]).Nodup :=
    closure_nodup (List.nodup_singleton root)
  have hset : {pid | Descends rows root pid} =
      ((closure (rows.map ProcessRow.edge) [root]).toFinset : Set Number) := by
    ext pid
    rw [Set.mem_ofPred_eq, Finset.mem_coe, List.mem_toFinset, mem_closure_root]
  rw [hset, Set.encard_coe_eq_coe_finsetCard, List.toFinset_card_of_nodup hnodup]

theorem all_isSome_iff {α β : Type} {f : α → Option β} {as : List α} :
    (as.all fun a ↦ (f a).isSome) = true ↔ ¬∃ a ∈ as, f a = none := by
  simp [Option.isSome_iff_ne_none]

theorem processTree_eq (sample : Text) (root : Number) : processTree sample root =
    if ∃ line ∈ lines sample, processRow? line = none then .error "process_inventory_invalid"
    else if ∀ row ∈ listed sample, row.pid ≠ root then .error "process_root_missing"
    else if 512 < (closure ((listed sample).map ProcessRow.edge) [root]).length then
      .error "process_inventory_too_large"
    else .ok ((closure ((listed sample).map ProcessRow.edge) [root]).insertionSort (· ≤ ·)) := by
  rw [processTree, mapM_orThrow]
  by_cases hmalformed : ∃ line ∈ lines sample, processRow? line = none
  · rw [if_pos hmalformed, if_neg fun hall ↦ all_isSome_iff.1 hall hmalformed]
    rfl
  rw [if_neg hmalformed, if_pos (all_isSome_iff.2 hmalformed), ok_bind,
    show (lines sample).filterMap processRow? = listed sample from rfl]
  have hmissing : (listed sample).any (·.pid = root) = false ↔
      ∀ row ∈ listed sample, row.pid ≠ root := by
    simp
  by_cases hroot : ∀ row ∈ listed sample, row.pid ≠ root
  · rw [if_pos hroot, throwIf, if_pos (hmissing.2 hroot)]
    rfl
  rw [if_neg hroot, throwIf, if_neg fun hany ↦ hroot (hmissing.1 hany), ok_bind]
  dsimp only [throwIf]
  split_ifs <;> rfl

theorem processTree_throws_iff : (∃ e, processTree sample root = .error e) ↔
    (∃ line ∈ lines sample, ∀ first second, ¬IsPairLine line first second) ∨
      (∀ row ∈ listed sample, row.pid ≠ root) ∨
      512 < Set.encard {pid | Descends (listed sample) root pid} := by
  have hlarge : 512 < Set.encard {pid | Descends (listed sample) root pid} ↔
      512 < (closure ((listed sample).map ProcessRow.edge) [root]).length := by
    rw [encard_descends]
    exact Nat.cast_lt (α := ℕ∞)
  simp only [processTree_eq, hlarge, ← processRow?_eq_none_iff]
  by_cases hmalformed : ∃ line ∈ lines sample, processRow? line = none
  · simp only [if_pos hmalformed, Except.error.injEq, exists_eq', true_iff]
    exact .inl hmalformed
  by_cases hroot : ∀ row ∈ listed sample, row.pid ≠ root
  · simp only [if_neg hmalformed, if_pos hroot, Except.error.injEq, exists_eq', true_iff]
    exact .inr (.inl hroot)
  rw [or_iff_right hmalformed, or_iff_right hroot]
  simp only [if_neg hmalformed, if_neg hroot]
  constructor
  · rintro ⟨e, he⟩
    split_ifs at he with hcount
    exact hcount
  · intro hcount
    exact ⟨_, if_pos hcount⟩

theorem processTree_eq_ok (h : processTree sample root = .ok ids) :
    ids.Pairwise (· < ·) ∧ ∀ pid, pid ∈ ids ↔ Descends (listed sample) root pid := by
  rw [processTree_eq] at h
  split_ifs at h
  obtain rfl := Except.ok.inj h
  constructor
  · have hnodup : (closure ((listed sample).map ProcessRow.edge) [root]).Nodup :=
      closure_nodup (List.nodup_singleton root)
    have hsorted := List.pairwise_insertionSort (· ≤ ·)
      (closure ((listed sample).map ProcessRow.edge) [root])
    exact hsorted.imp₂ (fun _ _ hle hne ↦ lt_of_le_of_ne hle hne)
      ((List.perm_insertionSort _ _).nodup_iff.2 hnodup)
  · intro pid
    rw [List.mem_insertionSort, mem_closure_root]

/-! ### The groups -/

/-- The processes that a sample lists with their groups. -/
def grouped (sample : Text) : List GroupRow := (lines sample).filterMap groupRow?

/-- The row without its group. -/
def GroupRow.process (row : GroupRow) : ProcessRow := ⟨.finite row.pid, .finite row.parent⟩

theorem groupRow_isSafe {line : Text} {row : GroupRow} (h : groupRow? line = some row) :
    row.pid ≤ maxSafe ∧ row.parent ≤ maxSafe := by
  simp only [groupRow?, Option.bind_eq_bind, Option.bind_eq_some_iff, Prod.exists] at h
  obtain ⟨first, second, third, -, h⟩ := h
  split_ifs at h with hsafe
  simp only [Option.bind_eq_some_iff] at h
  obtain ⟨pid, hpid, parent, hparent, group, hgroup, hrow⟩ := h
  obtain rfl := Option.some.inj hrow
  simp only [hpid, hparent, List.all_cons, Bool.and_eq_true, isSafe, Option.any_some,
    decide_eq_true_eq] at hsafe
  exact ⟨hsafe.1, hsafe.2.1⟩

theorem isDigits_render (n : ℕ) : IsDigits (Decimals.render n) :=
  ⟨Decimals.render_ne_nil n, fun _ hmem ↦ Decimals.isDigit_of_mem_render hmem⟩

/-- A safe row is read back from its line. -/
theorem processRow?_line {row : GroupRow} (h : row.pid ≤ maxSafe ∧ row.parent ≤ maxSafe) :
    processRow? row.line = some row.process := by
  have hline : IsPairLine row.line (Decimals.render row.pid) (Decimals.render row.parent) := by
    refine ⟨[], [32], [], ?_, ?_, List.cons_ne_nil _ _, ?_, isDigits_render _, isDigits_render _,
      ?_⟩
    · intro unit hmem
      cases hmem
    · intro unit hmem
      rw [List.mem_singleton] at hmem
      rw [hmem]
      decide
    · intro unit hmem
      cases hmem
    · rw [List.nil_append, List.append_nil]
      rfl
  rw [processRow?, matchPair_eq_some_iff.2 hline, Option.map_some, Decimals.value_render,
    Decimals.value_render, Number.ofNat, Number.ofNat, round_of_le h.1, round_of_le h.2]
  rfl

/-- The line of a row is trimmed, and one line. -/
theorem line_ends (row : GroupRow) : row.line ≠ [] ∧ 10 ∉ row.line ∧
    (∀ unit ∈ row.line.head?, isSpace unit = false) ∧
    ∀ unit ∈ row.line.getLast?, isSpace unit = false := by
  refine ⟨List.append_ne_nil_of_left_ne_nil (Decimals.render_ne_nil _) _, ?_,
    (isDigits_render row.pid).head _, ?_⟩
  · intro hmem
    rw [GroupRow.line, List.mem_append, List.mem_cons] at hmem
    rcases hmem with hpid | hblank | hparent
    · exact absurd (Decimals.isDigit_of_mem_render hpid) (by decide)
    · exact absurd hblank (by decide)
    · exact absurd (Decimals.isDigit_of_mem_render hparent) (by decide)
  · intro unit hunit
    have hparent : Decimals.render row.parent ≠ [] := Decimals.render_ne_nil _
    rw [GroupRow.line, List.getLast?_append_of_ne_nil _ (List.cons_ne_nil _ _),
      List.getLast?_cons_of_ne_nil hparent] at hunit
    exact isSpace_of_isDigit (Decimals.isDigit_of_mem_render (List.mem_of_mem_getLast? hunit))

theorem listed_unlines {rows : List GroupRow} (hne : rows ≠ [])
    (hsafe : ∀ row ∈ rows, row.pid ≤ maxSafe ∧ row.parent ≤ maxSafe) :
    listed (unlines (rows.map GroupRow.line)) = rows.map GroupRow.process := by
  have hlines : lines (unlines (rows.map GroupRow.line)) = rows.map GroupRow.line := by
    refine lines_unlines (by simpa using hne) fun text htext ↦ ?_
    obtain ⟨row, -, rfl⟩ := List.mem_map.1 htext
    exact line_ends row
  rw [listed, hlines, List.filterMap_map]
  clear hlines hne
  induction rows with
  | nil => rfl
  | cons row rows ih =>
      rw [List.forall_mem_cons] at hsafe
      have hrow : (processRow? ∘ GroupRow.line) row = some row.process :=
        processRow?_line hsafe.1
      rw [List.filterMap_cons_some hrow, ih hsafe.2, List.map_cons]

variable {found : ProcessGroups}

/-- The processes found are those of the tree, and the groups are theirs alone. -/
theorem processGroups_eq_ok (h : processGroups sample root = .ok found) :
    (∀ pid, pid ∈ found.processIds ↔
      Descends ((grouped sample).map GroupRow.process) root pid) ∧
    (∀ group, group ∈ found.processGroups ↔
      ∃ row ∈ grouped sample, row.isIn found.processIds = true ∧ row.group = group) ∧
    (∀ group ∈ found.processGroups, 1 < group) ∧
    ∀ row ∈ grouped sample, row.group ∈ found.processGroups →
      row.isIn found.processIds = true := by
  simp only [processGroups, mapM_orThrow, bind_eq_ok, throwIf_eq_ok, Except.ok.injEq] at h
  obtain ⟨rows, hrows, ids, htree, _, hlarge, _, hshared, rfl⟩ := h
  split_ifs at hrows with hall
  obtain rfl := Except.ok.inj hrows
  rw [show (lines sample).filterMap groupRow? = grouped sample from rfl] at *
  have hne : grouped sample ≠ [] := by
    obtain ⟨line, rest, hlines⟩ := List.exists_cons_of_ne_nil (lines_ne_nil sample)
    rw [hlines, List.all_cons, Bool.and_eq_true] at hall
    obtain ⟨row, hrow⟩ := Option.isSome_iff_exists.1 hall.1
    rw [grouped, hlines, List.filterMap_cons_some hrow]
    exact List.cons_ne_nil _ _
  have hsafe : ∀ row ∈ grouped sample, row.pid ≤ maxSafe ∧ row.parent ≤ maxSafe := by
    intro row hrow
    obtain ⟨line, -, hline⟩ := List.mem_filterMap.1 hrow
    exact groupRow_isSafe hline
  obtain ⟨-, hmem⟩ := processTree_eq_ok htree
  rw [listed_unlines hne hsafe] at hmem
  have hgroups : ∀ group, group ∈ (((grouped sample).filter (·.isIn ids)).map
      (·.group)).eraseDups ↔ ∃ row ∈ grouped sample, row.isIn ids = true ∧ row.group = group := by
    intro group
    rw [List.mem_eraseDups, List.mem_map]
    simp only [List.mem_filter, and_assoc]
  refine ⟨hmem, fun group ↦ ?_, fun group hgroup ↦ ?_, fun row hrow hgroup ↦ ?_⟩
  · rw [List.mem_insertionSort, hgroups]
  · rw [List.mem_insertionSort] at hgroup
    by_contra hle
    exact hlarge (List.any_eq_true.2 ⟨group, hgroup, decide_eq_true (not_lt.1 hle)⟩)
  · rw [List.mem_insertionSort] at hgroup
    by_contra hout
    refine hshared (List.any_eq_true.2 ⟨row, hrow, decide_eq_true ⟨?_, ?_⟩⟩)
    · rwa [List.contains_iff_mem]
    · rwa [Bool.not_eq_true] at hout

/-- The process tree of a sample is what child links lead to from the root, and its groups are kept
apart from every other process of the sample. -/
theorem process_tree_closure (sample : Text) (root : Number) :
    ((∃ e, processTree sample root = .error e) ↔
      (∃ line ∈ lines sample, ∀ first second, ¬IsPairLine line first second) ∨
        (∀ row ∈ listed sample, row.pid ≠ root) ∨
        512 < Set.encard {pid | Descends (listed sample) root pid}) ∧
    (∀ ids, processTree sample root = .ok ids →
      ids.Pairwise (· < ·) ∧ ∀ pid, pid ∈ ids ↔ Descends (listed sample) root pid) ∧
    ∀ found, processGroups sample root = .ok found →
      (∀ pid, pid ∈ found.processIds ↔
        Descends ((grouped sample).map GroupRow.process) root pid) ∧
      (∀ group, group ∈ found.processGroups ↔
        ∃ row ∈ grouped sample, row.isIn found.processIds = true ∧ row.group = group) ∧
      (∀ group ∈ found.processGroups, 1 < group) ∧
      ∀ row ∈ grouped sample, row.group ∈ found.processGroups →
        row.isIn found.processIds = true :=
  ⟨processTree_throws_iff, fun _ hok ↦ processTree_eq_ok hok,
    fun _ hok ↦ processGroups_eq_ok hok⟩

end Dona
