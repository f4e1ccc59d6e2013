import Dona.Dispatcher.NotificationResults
import Dona.Library.Positions

/-!
# Delivered notices

What a report of the agent says when it counts as a delivery: an authorization, a check of the
access, a second authorization, and right behind it the only post.
-/

namespace Dona

namespace DeliveryContext

variable {context : DeliveryContext} {body : String} {actions : List ResultAction}
  {evidence : JobNotificationEvidence}

/-- The actions of a report taken apart. Entries that are no objects may stand anywhere but
between the second authorization and the post. -/
structure PostReport (context : DeliveryContext) (body : String) (actions : List ResultAction) where
  before : List ResultAction
  authorization : ResultAction
  checking : List ResultAction
  access : ResultAction
  waiting : List ResultAction
  reauthorization : ResultAction
  post : ResultAction
  after : List ResultAction
  actions_eq : actions =
    before ++ authorization :: (checking ++ access :: (waiting ++ reauthorization :: post :: after))
  /-- The first authorization of the event, -/
  authorization_isObject : authorization.isObject = true
  isAuthorization : context.isAuthorization authorization = true
  first_authorization : ∀ action ∈ before, action.isObject = true →
    context.isAuthorization action = false
  /-- the first check of the access behind it, -/
  access_isObject : access.isObject = true
  isAccess : context.isAccess access = true
  first_access : ∀ action ∈ checking, action.isObject = true → context.isAccess action = false
  /-- the first authorization behind that with a verified receipt, -/
  reauthorization_isObject : reauthorization.isObject = true
  isReauthorization : context.isReauthorization reauthorization = true
  first_reauthorization : ∀ action ∈ waiting, action.isObject = true →
    context.isReauthorization action = false
  /-- and the post, the only one. -/
  post_isObject : post.isObject = true
  validPost : context.validPost body access.workspace post = true
  only_post : ∀ action ∈ before ++ authorization :: (checking ++ access :: (waiting ++
    reauthorization :: after)), action.isObject = true → action.isPost = false
  allowed : ∀ action ∈ actions, action.isObject = true →
    context.allowedAction access.workspace action = true

/-! ### Taking a report apart -/

/-- The objects among the entries, with their positions. -/
theorem find?_objects (p : ResultAction → Bool) (reported : List ResultAction) :
    ((reported.zipIdx.filter (·.1.isObject)).find? fun entry ↦ p entry.1) =
      reported.zipIdx.find? fun entry ↦ entry.1.isObject && p entry.1 := by
  rw [List.find?_filter]
  apply Positions.find?_eq_of_forall
  intro entry _
  rw [Bool.decide_and, Bool.decide_eq_true, Bool.decide_eq_true]

theorem firstAfter_objects (p : ResultAction → Bool) (reported : List ResultAction) (start : ℕ) :
    firstAfter (reported.zipIdx.filter (·.1.isObject)) (some start) p =
      reported.zipIdx.find? fun entry ↦
        start < entry.2 ∧ (entry.1.isObject && p entry.1) = true := by
  rw [firstAfter, Option.bind_some, List.find?_filter]
  congr 1
  funext entry
  simp only [Bool.and_eq_true, Bool.decide_and, Bool.decide_eq_true]
  exact Bool.and_left_comm ..

theorem exists_of_firstAfter {entries : List (ResultAction × ℕ)} {position : Option ℕ}
    {p : ResultAction → Bool} {entry : ResultAction × ℕ}
    (h : firstAfter entries position p = some entry) : ∃ start, position = some start := by
  cases position with
  | none => cases h
  | some start => exact ⟨start, rfl⟩

/-- The first object that satisfies `p`. -/
theorem find?_objects_eq_some {p : ResultAction → Bool} {reported : List ResultAction}
    {action : ResultAction} {i : ℕ} :
    ((reported.zipIdx.filter (·.1.isObject)).find? fun entry ↦ p entry.1) = some (action, i) ↔
      ∃ before after, reported = before ++ action :: after ∧ i = before.length ∧
        (action.isObject = true ∧ p action = true) ∧
        ∀ other ∈ before, other.isObject = true → p other = false := by
  rw [find?_objects,
    @Positions.find?_zipIdx_eq_some _ fun action ↦ action.isObject && p action]
  simp only [Nat.zero_add, Bool.and_eq_true, Bool.and_eq_false_imp]

/-- The first object behind a position that satisfies `p`. -/
theorem firstAfter_eq_some {p : ResultAction → Bool} {before after : List ResultAction}
    {other action : ResultAction} {i : ℕ} :
    firstAfter ((before ++ other :: after).zipIdx.filter (·.1.isObject)) (some before.length) p =
        some (action, i) ↔
      ∃ middle rest, after = middle ++ action :: rest ∧ i = before.length + 1 + middle.length ∧
        (action.isObject = true ∧ p action = true) ∧
        ∀ a ∈ middle, a.isObject = true → p a = false := by
  rw [firstAfter_objects,
    @Positions.find?_behind_eq_some _ (fun action ↦ action.isObject && p action)]
  simp only [Bool.and_eq_true, Bool.and_eq_false_imp]

theorem length_posts (reported : List ResultAction) :
    ((reported.zipIdx.filter (·.1.isObject)).filter (·.1.isPost)).length =
      reported.countP fun action ↦ action.isPost && action.isObject := by
  rw [List.filter_filter, ← List.countP_eq_length_filter]
  have hmap := @List.countP_map _ _ (fun action : ResultAction ↦ action.isPost && action.isObject)
    Prod.fst reported.zipIdx
  rw [List.zipIdx_map_fst] at hmap
  exact hmap.symm

theorem getElem?_of_mem_objects {reported : List ResultAction} {entry : ResultAction × ℕ}
    (h : entry ∈ reported.zipIdx.filter (·.1.isObject)) :
    reported[entry.2]? = some entry.1 ∧ entry.1.isObject = true := by
  obtain ⟨hmem, hobject⟩ := List.mem_filter.mp h
  exact ⟨List.mem_zipIdx_iff_getElem?.mp hmem, hobject⟩

theorem others_of_countP {p : ResultAction → Bool} {before after : List ResultAction}
    {action : ResultAction} (h : (before ++ action :: after).countP p = 1)
    (haction : p action = true) : ∀ other ∈ before ++ after, p other = false := by
  rw [List.countP_append, List.countP_cons, haction, if_pos rfl] at h
  have hnone : (before ++ after).countP p = 0 := by
    rw [List.countP_append]
    omega
  intro other hother
  exact Bool.eq_false_iff.mpr (List.countP_eq_zero.mp hnone other hother)

namespace PostReport

variable (report : PostReport context body actions)

/-- The actions up to the post. -/
def prior : List ResultAction :=
  report.before ++ report.authorization ::
    (report.checking ++ report.access :: (report.waiting ++ [report.reauthorization]))

theorem actions_eq_prior : actions = report.prior ++ report.post :: report.after := by
  simp [prior, report.actions_eq]

theorem length_prior : report.prior.length =
    report.before.length + 1 + report.checking.length + 1 + report.waiting.length + 1 := by
  simp only [prior, List.length_append, List.length_cons, List.length_nil]
  omega

theorem getElem?_post : actions[report.prior.length]? = some report.post := by
  have h : (report.prior ++ report.post :: report.after)[report.prior.length]? =
      some report.post := by
    simp
  rw [← report.actions_eq_prior] at h
  exact h

theorem only_post' {action : ResultAction} (h : action ∈ report.prior ++ report.after)
    (hobject : action.isObject = true) : action.isPost = false := by
  refine report.only_post action ?_ hobject
  simpa [prior, or_assoc] using h

theorem isPost : report.post.isPost = true := by
  have hvalid := report.validPost
  simp only [DeliveryContext.validPost, decide_eq_true_eq] at hvalid
  rw [ResultAction.isPost, hvalid.1]
  rfl

theorem countP_posts (report : PostReport context body actions) :
    (actions.countP fun action ↦ action.isPost && action.isObject) = 1 := by
  have hothers : (report.prior ++ report.after).countP
      (fun action ↦ action.isPost && action.isObject) = 0 := by
    rw [List.countP_eq_zero]
    intro action haction hpost
    rw [Bool.and_eq_true] at hpost
    rw [report.only_post' haction hpost.2] at hpost
    cases hpost.1
  rw [List.countP_append] at hothers
  have hcount : (report.prior ++ report.post :: report.after).countP
      (fun action ↦ action.isPost && action.isObject) = 1 := by
    rw [List.countP_append, List.countP_cons, report.isPost, report.post_isObject]
    simp only [Bool.and_self, if_true]
    omega
  rw [← report.actions_eq_prior] at hcount
  exact hcount

/-- The objects of a list with one of them, in terms of its length. -/
theorem posts_eq (report : PostReport context body actions) :
    (actions.zipIdx.filter (·.1.isObject)).filter (·.1.isPost) =
      [(report.post, report.prior.length)] := by
  have hlength := length_posts actions
  rw [report.countP_posts, List.length_eq_one_iff] at hlength
  obtain ⟨entry, hentry⟩ := hlength
  have hmem : (report.post, report.prior.length) ∈
      (actions.zipIdx.filter (·.1.isObject)).filter (·.1.isPost) := by
    refine List.mem_filter.mpr ⟨List.mem_filter.mpr ⟨?_, report.post_isObject⟩, report.isPost⟩
    exact List.mem_zipIdx_iff_getElem?.mpr report.getElem?_post
  rw [hentry, List.mem_singleton] at hmem
  rw [hentry, hmem]

theorem authorized_eq (report : PostReport context body actions) :
    ((actions.zipIdx.filter (·.1.isObject)).find? fun entry ↦ context.isAuthorization entry.1) =
      some (report.authorization, report.before.length) :=
  find?_objects_eq_some.mpr ⟨report.before, _, report.actions_eq, rfl,
    ⟨report.authorization_isObject, report.isAuthorization⟩, report.first_authorization⟩

theorem access_eq (report : PostReport context body actions) :
    firstAfter (actions.zipIdx.filter (·.1.isObject)) (some report.before.length)
        context.isAccess =
      some (report.access, report.before.length + 1 + report.checking.length) := by
  have h := @firstAfter_eq_some context.isAccess report.before _ report.authorization _ _ |>.mpr
    ⟨report.checking, report.waiting ++ report.reauthorization :: report.post :: report.after, rfl,
      rfl, ⟨report.access_isObject, report.isAccess⟩,
      report.first_access⟩
  rw [← report.actions_eq] at h
  exact h

theorem reauthorized_eq (report : PostReport context body actions) :
    firstAfter (actions.zipIdx.filter (·.1.isObject))
        (some (report.before.length + 1 + report.checking.length)) context.isReauthorization =
      some (report.reauthorization, report.before.length + 1 + report.checking.length + 1 +
        report.waiting.length) := by
  have hactions : (report.before ++ report.authorization :: report.checking) ++ report.access ::
      (report.waiting ++ report.reauthorization :: report.post :: report.after) = actions := by
    apply Eq.trans _ report.actions_eq.symm
    simp
  have hlength : (report.before ++ report.authorization :: report.checking).length =
      report.before.length + 1 + report.checking.length := by
    simp only [List.length_append, List.length_cons]
    omega
  have h := @firstAfter_eq_some context.isReauthorization
    (report.before ++ report.authorization :: report.checking) _ report.access _ _ |>.mpr
    ⟨report.waiting, report.post :: report.after, rfl, rfl, ⟨report.reauthorization_isObject, report.isReauthorization⟩,
      report.first_reauthorization⟩
  rw [hactions, hlength] at h
  exact h

end PostReport


/-- A report whose searches succeed can be taken apart. -/
theorem exists_postReport {authorized access reauthorized post : ResultAction × ℕ}
    (hauthorized : ((actions.zipIdx.filter (·.1.isObject)).find? fun entry ↦
      context.isAuthorization entry.1) = some authorized)
    (haccess : firstAfter (actions.zipIdx.filter (·.1.isObject)) (some authorized.2)
      context.isAccess = some access)
    (hreauthorized : firstAfter (actions.zipIdx.filter (·.1.isObject)) (some access.2)
      context.isReauthorization = some reauthorized)
    (hpost : post ∈ (actions.zipIdx.filter (·.1.isObject)).filter (·.1.isPost))
    (hlength : ((actions.zipIdx.filter (·.1.isObject)).filter (·.1.isPost)).length = 1)
    (hposition : reauthorized.2 + 1 = post.2)
    (hvalid : context.validPost body access.1.workspace post.1 = true)
    (hallowed : ∀ entry ∈ actions.zipIdx.filter (·.1.isObject),
      context.allowedAction access.1.workspace entry.1 = true) :
    ∃ report : PostReport context body actions, report.post = post.1 := by
  obtain ⟨before, rest₁, rfl, hi, ⟨hobject₁, hfirst₁⟩, hbefore⟩ :=
    find?_objects_eq_some.mp hauthorized
  rw [hi] at haccess
  obtain ⟨checking, rest₂, rfl, hj, ⟨hobject₂, hfirst₂⟩, hchecking⟩ :=
    firstAfter_eq_some.mp haccess
  have hactions : before ++ authorized.1 :: (checking ++ access.1 :: rest₂) =
      (before ++ authorized.1 :: checking) ++ access.1 :: rest₂ := by
    simp
  have hlength₂ : access.2 = (before ++ authorized.1 :: checking).length := by
    simp only [List.length_append, List.length_cons]
    omega
  rw [hlength₂, hactions] at hreauthorized
  obtain ⟨waiting, rest₃, rfl, hk, ⟨hobject₃, hfirst₃⟩, hwaiting⟩ :=
    firstAfter_eq_some.mp hreauthorized
  obtain ⟨hentry, hisPost⟩ := List.mem_filter.mp hpost
  obtain ⟨hget, hobject⟩ := getElem?_of_mem_objects hentry
  have hprior : before ++ authorized.1 :: (checking ++ access.1 :: (waiting ++ reauthorized.1 ::
      rest₃)) = (before ++ authorized.1 :: (checking ++ access.1 :: (waiting ++
        [reauthorized.1]))) ++ rest₃ := by
    simp
  have hlength₃ : post.2 = (before ++ authorized.1 :: (checking ++ access.1 :: (waiting ++
      [reauthorized.1]))).length := by
    simp only [List.length_append, List.length_cons, List.length_nil]
    omega
  rw [hprior, hlength₃, List.getElem?_append_right (Nat.le_refl _), Nat.sub_self] at hget
  obtain ⟨after, rfl⟩ : ∃ after, rest₃ = post.1 :: after := by
    cases rest₃ with
    | nil => cases hget
    | cons head after => exact ⟨after, by rw [Option.some.inj hget]⟩
  rw [length_posts, hprior] at hlength
  have hothers := others_of_countP hlength (by rw [hisPost, hobject]; rfl)
  refine ⟨{
    before := before
    authorization := authorized.1
    checking := checking
    access := access.1
    waiting := waiting
    reauthorization := reauthorized.1
    post := post.1
    after := after
    actions_eq := rfl
    authorization_isObject := hobject₁
    isAuthorization := hfirst₁
    first_authorization := hbefore
    access_isObject := hobject₂
    isAccess := hfirst₂
    first_access := hchecking
    reauthorization_isObject := hobject₃
    isReauthorization := hfirst₃
    first_reauthorization := hwaiting
    post_isObject := hobject
    validPost := hvalid
    only_post := ?_
    allowed := ?_ }, rfl⟩
  · intro action haction hactionObject
    have hnot := hothers action (by simpa [or_assoc] using haction)
    rw [hactionObject, Bool.and_true] at hnot
    exact hnot
  · intro action haction hactionObject
    obtain ⟨i, hi⟩ := List.mem_iff_getElem?.mp haction
    exact hallowed (action, i)
      (List.mem_filter.mpr ⟨List.mem_zipIdx_iff_getElem?.mpr hi, hactionObject⟩)

/-- The report counts as a delivery exactly if it can be taken apart, and the evidence is about its
post. -/
theorem postDelivered_iff :
    Db.postDelivered context body actions evidence = true ↔
      ∃ report : PostReport context body actions,
        context.receiptValid body report.post.messageTs evidence = true := by
  constructor
  · intro h
    unfold Db.postDelivered at h
    extract_lets entries authorized access reauthorized workspace posts found at h
    simp only [Bool.decide_and, Bool.and_eq_true, decide_eq_true_eq] at h
    obtain ⟨hreceipt, hallowed, hlength, -, hfound⟩ := h
    obtain ⟨post, hpost⟩ := Option.isSome_iff_exists.mp hfound
    have hpred := List.find?_some hpost
    simp only [Bool.decide_and, Bool.and_eq_true, decide_eq_true_eq, Option.map_eq_some_iff]
      at hpred
    obtain ⟨⟨last, hreauthorized, hposition⟩, hvalid⟩ := hpred
    obtain ⟨start₂, hstart₂⟩ := exists_of_firstAfter hreauthorized
    obtain ⟨middle, haccess, rfl⟩ := Option.map_eq_some_iff.mp hstart₂
    obtain ⟨start₁, hstart₁⟩ := exists_of_firstAfter haccess
    obtain ⟨first, hauthorized, rfl⟩ := Option.map_eq_some_iff.mp hstart₁
    have hworkspace : workspace = middle.1.workspace := by
      simp only [workspace, haccess, Option.bind_some]
    rw [hworkspace] at hvalid hallowed
    rw [hpost, Option.bind_some] at hreceipt
    have haccess' : firstAfter entries (some first.2) context.isAccess = some middle := by
      rw [← hstart₁]
      exact haccess
    have hreauthorized' : firstAfter entries (some middle.2) context.isReauthorization =
        some last := by
      rw [← hstart₂]
      exact hreauthorized
    obtain ⟨report, hreport⟩ := exists_postReport hauthorized haccess' hreauthorized'
      (List.mem_of_find?_eq_some hpost) hlength hposition hvalid
      fun entry hentry ↦ List.all_eq_true.mp hallowed entry hentry
    rw [← hreport] at hreceipt
    exact ⟨report, hreceipt⟩
  · rintro ⟨report, hreceipt⟩
    unfold Db.postDelivered
    simp only [report.authorized_eq, Option.map_some, report.access_eq, report.reauthorized_eq,
      Option.bind_some, report.posts_eq]
    have hfound : ([(report.post, report.prior.length)].find? fun entry ↦
        some (report.before.length + 1 + report.checking.length + 1 + report.waiting.length + 1) =
          some entry.2 ∧ context.validPost body report.access.workspace entry.1) =
        some (report.post, report.prior.length) := by
      rw [List.find?_cons_of_pos]
      simp only [report.length_prior, report.validPost, and_self, decide_true]
    rw [hfound]
    have hnotAmbiguous : report.post.ambiguous ≠ some true := by
      have hvalid := report.validPost
      simp only [DeliveryContext.validPost, decide_eq_true_eq] at hvalid
      exact hvalid.2.2.2.2.2.2.2.2.2.1
    have hallowed : ((actions.zipIdx.filter (·.1.isObject)).all fun entry ↦
        context.allowedAction report.access.workspace entry.1) = true := by
      rw [List.all_eq_true]
      intro entry hentry
      obtain ⟨hget, hobject⟩ := getElem?_of_mem_objects hentry
      exact report.allowed entry.1 (List.mem_of_getElem? hget) hobject
    simp [hreceipt, hallowed, hnotAmbiguous]

end DeliveryContext

end Dona
