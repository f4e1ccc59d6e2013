import Dona.ResultPublish.WireBoundary

/-!
# Chunks on the wire

How a connection is cut into chunks does not matter for the framing of its requests.
-/

namespace Dona.ResultPublish

open Fallible

namespace WireRequestBoundary

variable {boundary : WireRequestBoundary} {xs ys : Bytes}

/-! ### Bodies -/

/-- Bytes of a body may be consumed one part after the other. -/
theorem consume_consume {n m : ℕ} (hn : n < boundary.remaining) :
    (boundary.consume n).consume m = boundary.consume (n + m) := by
  have hfirst : boundary.consume n =
      boundary.enter boundary.state (boundary.remaining - n) fun _ ↦ by omega := by
    rw [consume, dif_neg (by omega)]
  have hsub : boundary.remaining - n - m = boundary.remaining - (n + m) := by omega
  rw [hfirst]
  unfold consume
  simp only [enter, hsub]
  rfl

theorem consume_of_lt {n : ℕ} (hn : n < boundary.remaining) :
    (boundary.consume n).state = boundary.state ∧
      (boundary.consume n).remaining = boundary.remaining - n := by
  rw [consume, dif_neg (by omega)]
  exact ⟨rfl, rfl⟩

/-- A part of a body that does not end it. -/
theorem feedLoop_part (hbody : boundary.state.isBody = true) (hxs : xs ≠ [])
    (hlt : xs.length < boundary.remaining) (ys : Bytes) :
    boundary.feedLoop (xs ++ ys) = (boundary.consume xs.length).feedLoop ys := by
  obtain ⟨hstate, hremaining⟩ := consume_of_lt hlt
  by_cases hys : ys = []
  · subst hys
    rw [List.append_nil, feedLoop_nil, feedLoop_body hbody hxs, Nat.min_eq_right hlt.le,
      List.drop_length, feedLoop_nil]
  · have happend : xs ++ ys ≠ [] := by simp [hys]
    have hbody' : (boundary.consume xs.length).state.isBody = true := by rw [hstate]; exact hbody
    have hmin : min boundary.remaining (xs ++ ys).length =
        xs.length + min (boundary.remaining - xs.length) ys.length := by
      rw [List.length_append]
      omega
    rw [feedLoop_body hbody happend, feedLoop_body hbody' hys, consume_consume hlt, hremaining,
      hmin, List.drop_append, List.drop_of_length_le (by omega), List.nil_append,
      Nat.add_sub_cancel_left]

/-! ### Lines -/

theorem endLine_keep {pending line : Bytes} (hline : boundary.state.isLine = true)
    (hlength : pending.length ≤ boundary.state.limit)
    (hnone : indexOf boundary.state.marker pending = none) :
    (boundary.keep pending hline hlength hnone).endLine line = boundary.endLine line := rfl

/-- A part of a line that does not end it. -/
theorem feedLoop_unfinished (hline : boundary.state.isLine = true)
    (hlength : (boundary.pending ++ xs).length ≤ boundary.state.limit)
    (hnone : indexOf boundary.state.marker (boundary.pending ++ xs) = none) (ys : Bytes) :
    boundary.feedLoop (xs ++ ys) =
      (boundary.keep (boundary.pending ++ xs) hline hlength hnone).feedLoop ys := by
  have hassoc : boundary.pending ++ (xs ++ ys) = boundary.pending ++ xs ++ ys :=
    (List.append_assoc _ _ _).symm
  set kept := boundary.keep (boundary.pending ++ xs) hline hlength hnone with hkept
  have hpending : kept.pending = boundary.pending ++ xs := rfl
  have hstate : kept.state = boundary.state := rfl
  have hline' : kept.state.isLine = true := hline
  cases hend : indexOf boundary.state.marker
      ((boundary.pending ++ xs ++ ys).take boundary.state.limit) with
  | some length =>
      obtain ⟨hfound, hle⟩ := indexOf_of_take hend
      have hlt := lt_of_indexOf_append hnone hfound
      rw [List.length_append] at hlt
      have hwhole := @feedLoop_line boundary (xs ++ ys) _ hline (by rw [hassoc]; exact hfound) hle
      have hrest := @feedLoop_line kept ys _ hline' hfound hle
      rw [hwhole, hrest, hassoc, hpending, hstate, hkept, endLine_keep]
      congr 1
      funext next
      congr 1
      rw [List.drop_append, List.drop_of_length_le (by omega), List.nil_append, List.length_append]
      congr 1
      omega
  | none =>
      by_cases hroom : (boundary.pending ++ xs ++ ys).length ≤ boundary.state.limit
      · rw [List.take_of_length_le hroom] at hend
        have hwhole := @feedLoop_keep boundary (xs ++ ys) hline (by rw [hassoc]; exact hroom)
          (by rw [hassoc]; exact hend)
        have hrest := @feedLoop_keep kept ys hline' hroom hend
        rw [hwhole, hrest]
        simp only [keep, hkept, hassoc]
      · have hwhole := @feedLoop_overflow boundary (xs ++ ys) hline (by rw [hassoc]; omega)
          (by rw [hassoc]; exact hend)
        have hrest := @feedLoop_overflow kept ys hline'
          (by rw [hpending, hstate]; omega) hend
        rw [hwhole, hrest]

/-! ### The loop -/

/-- The loop may be cut anywhere. -/
theorem feedLoop_append (boundary : WireRequestBoundary) (xs ys : Bytes) :
    boundary.feedLoop (xs ++ ys) = boundary.feedLoop xs >>= fun next ↦ next.feedLoop ys := by
  induction hn : xs.length using Nat.strong_induction_on generalizing boundary xs with
  | _ n ih =>
    subst hn
    by_cases hxs : xs = []
    · subst hxs
      rw [feedLoop_nil]
      rfl
    have hpos := List.length_pos_iff.mpr hxs
    by_cases hbody : boundary.state.isBody = true
    · have hremaining := boundary.remaining_pos hbody
      rcases Nat.lt_or_ge xs.length boundary.remaining with hlt | hge
      · have hpart := feedLoop_part hbody hxs hlt []
        rw [List.append_nil, feedLoop_nil] at hpart
        rw [feedLoop_part hbody hxs hlt, hpart]
        rfl
      · have hmin : min boundary.remaining (xs ++ ys).length = boundary.remaining := by
          rw [List.length_append]
          omega
        rw [feedLoop_body hbody (by simp [hxs]), feedLoop_body hbody hxs, hmin,
          Nat.min_eq_left hge, List.drop_append_of_le_length hge]
        refine ih _ ?_ _ _ rfl
        rw [List.length_drop]
        omega
    by_cases hline : boundary.state.isLine = true
    · have hassoc : boundary.pending ++ (xs ++ ys) = boundary.pending ++ xs ++ ys :=
        (List.append_assoc _ _ _).symm
      have hpending := (pending_of_isLine hline).1
      cases hend : indexOf boundary.state.marker
          ((boundary.pending ++ xs).take boundary.state.limit) with
      | some length =>
          obtain ⟨hfound, hle⟩ := indexOf_of_take hend
          have hlt := lt_of_indexOf_append (pending_of_isLine hline).2 hfound
          have hend' := length_of_indexOf hfound
          rw [List.length_append] at hend'
          have hwhole := @feedLoop_line boundary (xs ++ ys) length hline
            (by rw [hassoc]; exact indexOf_append hfound) hle
          rw [hwhole, feedLoop_line hline hfound hle, hassoc, bind_assoc,
            List.take_append_of_le_length (by rw [List.length_append]; omega),
            List.drop_append_of_le_length (by omega)]
          congr 1
          funext next
          refine ih _ ?_ _ _ rfl
          rw [List.length_drop]
          omega
      | none =>
          by_cases hroom : (boundary.pending ++ xs).length ≤ boundary.state.limit
          · rw [List.take_of_length_le hroom] at hend
            rw [feedLoop_unfinished hline hroom hend, feedLoop_keep hline hroom hend]
            rfl
          · have htake : (boundary.pending ++ xs ++ ys).take boundary.state.limit =
                (boundary.pending ++ xs).take boundary.state.limit :=
              List.take_append_of_le_length (by omega)
            have hlength : boundary.state.limit < (boundary.pending ++ (xs ++ ys)).length := by
              rw [hassoc, List.length_append]
              omega
            rw [feedLoop_overflow hline (by omega) hend,
              feedLoop_overflow hline hlength (by rw [hassoc, htake]; exact hend)]
            rfl
    · obtain ⟨byte, xs, rfl⟩ := List.exists_cons_of_ne_nil hxs
      have hstate : boundary.state = .dataCrlf := by
        cases hstate : boundary.state <;> simp_all [WireState.isBody, WireState.isLine]
      rw [List.cons_append, feedLoop_crlf hstate, feedLoop_crlf hstate, bind_assoc]
      congr 1
      funext next
      exact ih xs.length (by simp) next xs rfl

/-- Chunks are framed as the bytes that they make up. -/
theorem feedChunks_eq (boundary : WireRequestBoundary) (chunks : List Bytes) :
    boundary.feedChunks chunks = boundary.feedLoop chunks.flatten := by
  induction chunks generalizing boundary with
  | nil =>
      rw [List.flatten_nil, feedLoop_nil]
      rfl
  | cons chunk chunks ih =>
      rw [List.flatten_cons, feedLoop_append, feedChunks, List.foldlM_cons]
      have hfirst : (·.2) <$> boundary.feed chunk = boundary.feedLoop chunk := by
        unfold feed
        cases boundary.feedLoop chunk <;> rfl
      rw [hfirst]
      congr 1
      funext next
      exact ih next

end WireRequestBoundary

end Dona.ResultPublish
