import Mathlib.Order.Basic
import Mathlib.Tactic.Ring

/-!
# Stored timestamps

The two renderings of an instant that the dispatcher stores, `YYYY-MM-DDTHH:MM:SSZ` and
`YYYY-MM-DDTHH:MM:SS.mmmZ`, with the order of their texts, and the
milliseconds of a `Date`, an `Int`. In one second the rendering without a fraction is the
greatest, because `.` is smaller than `Z`.
-/

namespace Dona

structure Timestamp where
  sec : Int
  ms : Option (Fin 1000)
  deriving DecidableEq

namespace Timestamp

/-- The rank of a rendering among all renderings in text order. -/
def rank (t : Timestamp) : Int :=
  t.sec * 1001 + match t.ms with
    | some m => (m.val : Int)
    | none => 1000

theorem rank_injective : Function.Injective rank := by
  rintro ⟨s, m⟩ ⟨s', m'⟩ h
  cases m with
  | none =>
      cases m' with
      | none =>
          have hs : s = s' := by simp only [rank] at h; omega
          rw [hs]
      | some b => have := b.isLt; simp only [rank] at h; omega
  | some a =>
      have ha := a.isLt
      cases m' with
      | none => simp only [rank] at h; omega
      | some b =>
          have hb := b.isLt
          have hs : s = s' := by simp only [rank] at h; omega
          have hab : a = b := Fin.ext (by simp only [rank] at h; omega)
          rw [hs, hab]

instance : LinearOrder Timestamp := LinearOrder.lift' rank rank_injective

/-- `Date.parse` -/
def millis (t : Timestamp) : Int :=
  t.sec * 1000 + match t.ms with
    | some m => (m.val : Int)
    | none => 0

/-- `new Date(millis).toISOString()` -/
def toIso (millis : Int) : Timestamp where
  sec := millis / 1000
  ms := some ⟨(millis % 1000).toNat, by omega⟩

/-- `toISOString().replace(".000Z", "Z")` -/
def dropZeroFraction (t : Timestamp) : Timestamp :=
  if t.ms = some 0 then ⟨t.sec, none⟩ else t

def add (t : Timestamp) (seconds : Int) : Timestamp :=
  dropZeroFraction (toIso (t.millis + seconds * 1000))

/-- The timestamp at the start of a second. -/
def ofSeconds (sec : Int) : Timestamp := ⟨sec, none⟩

/-- The whole second of a date: `toISOString().replace(".000Z", "Z")` after `Math.floor`. -/
def floorSecond (date : Int) : Timestamp := ofSeconds (date / 1000)

/-- `[t, ...ts].sort().at(-1)` -/
def latest (t : Timestamp) (ts : List Timestamp) : Timestamp := ts.foldl max t

/-- Without fractions the text order is the order of the instants. -/
theorem millis_lt_millis {t u : Timestamp} (ht : t.ms = none) (hu : u.ms = none) (h : t < u) :
    t.millis < u.millis := by
  have hrank : t.rank < u.rank := h
  simp only [rank, millis, ht, hu] at hrank ⊢
  omega

@[simp] theorem millis_toIso (millis : Int) : (toIso millis).millis = millis := by
  simp only [toIso, Timestamp.millis]
  omega

theorem sec_add (t : Timestamp) (seconds : Int) :
    (t.add seconds).sec = (t.millis + seconds * 1000) / 1000 := by
  unfold add dropZeroFraction
  split_ifs <;> rfl

theorem sec_le_sec {t u : Timestamp} (h : t ≤ u) : t.sec ≤ u.sec := by
  have hrank : t.rank ≤ u.rank := h
  obtain ⟨s, _ | m⟩ := t <;> obtain ⟨s', _ | m'⟩ := u <;>
    simp only [rank] at hrank ⊢ <;> omega

theorem le_latest (t : Timestamp) (ts : List Timestamp) : t ≤ latest t ts := by
  induction ts generalizing t with
  | nil => exact le_refl t
  | cons u ts ih => exact (le_max_left t u).trans (ih (max t u))

end Timestamp

end Dona
