/-
  SensorFusion.Clock — millisecond timestamps and the two settable clocks.

  Timestamps count milliseconds since an arbitrary origin. Adding to one stops at the
  largest timestamp; the time left until a deadline that has passed is zero.
-/

namespace SensorFusion

abbrev Timestamp := UInt64

namespace Timestamp

def limit : Nat := 18446744073709551615

def later (t : Timestamp) (ms : UInt64) : Timestamp := UInt64.ofNat (min (t.toNat + ms.toNat) limit)

/-- Milliseconds from `now` until `deadline`, zero once it has passed. -/
def remaining (now deadline : Timestamp) : UInt64 := if deadline ≤ now then 0 else deadline - now

theorem toNat_later (t : Timestamp) (ms : UInt64) : (later t ms).toNat = min (t.toNat + ms.toNat) limit :=
  UInt64.toNat_ofNat_of_lt' (by simp only [limit, UInt64.size]; omega)

theorem toNat_remaining (now deadline : Timestamp) :
    (remaining now deadline).toNat = deadline.toNat - now.toNat := by
  unfold remaining
  split
  · rename_i h
    have := UInt64.le_iff_toNat_le.mp h
    simp; omega
  · rename_i h
    exact UInt64.toNat_sub_of_le _ _ (UInt64.le_of_lt (UInt64.not_le.mp h))

theorem le_later (t : Timestamp) (ms : UInt64) : t ≤ later t ms := by
  rw [UInt64.le_iff_toNat_le, toNat_later]
  have := t.toNat_lt
  simp only [limit]; omega

theorem toNat_max (a b : UInt64) : (max a b).toNat = max a.toNat b.toNat := by
  show (if a ≤ b then b else a).toNat = max a.toNat b.toNat
  simp only [UInt64.le_iff_toNat_le]
  split <;> omega

theorem lt_later {t : Timestamp} {ms : UInt64} (hms : 0 < ms.toNat) (hroom : t.toNat + ms.toNat ≤ limit) : t < later t ms := by
  rw [UInt64.lt_iff_toNat_lt, toNat_later]
  omega

theorem later_mono {t t' : Timestamp} {ms ms' : UInt64} (h : t ≤ t') (hms : ms ≤ ms') : later t ms ≤ later t' ms' := by
  rw [UInt64.le_iff_toNat_le] at *
  rw [toNat_later, toNat_later]
  omega

end Timestamp

/-- A clock that stands still until told otherwise. -/
inductive Clock where
  /-- Set freely, also to earlier times. -/
  | fixed (now : Timestamp)
  /-- Never goes back. -/
  | manual (now : Timestamp)

namespace Clock

def now : Clock → Timestamp
  | fixed t => t
  | manual t => t

/-- Jump to `t`; a manual clock ignores earlier times. -/
def set : Clock → Timestamp → Clock
  | fixed _, t => fixed t
  | manual n, t => if t > n then manual t else manual n

def advance : Clock → UInt64 → Clock
  | fixed n, ms => fixed (n.later ms)
  | manual n, ms => manual (n.later ms)

theorem now_le_advance (c : Clock) (ms : UInt64) : c.now ≤ (c.advance ms).now := by
  cases c <;> exact Timestamp.le_later _ _

end Clock

end SensorFusion
