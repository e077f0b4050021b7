import Mathlib.Algebra.Group.Nat.Defs
import Mathlib.Data.Nat.Basic

/-! # A timer that wraps

`shown` is what a 32-bit timer shows.  The difference of two readings is the
time between them as long as less than a lap has passed; `watched` and
`watched_again` keep it so for a stamp whose age is compared with a limit at
least once a period. -/
set_option autoImplicit false
namespace Ioniq5Ecan.Library

def lap : Nat := 2 ^ 32

def shown (time : Nat) : UInt32 := UInt32.ofNat time

section Timer
variable {stamp time later lastCheck period limit : Nat}

theorem mod_difference (order : stamp ≤ time) {size : Nat} (near : time < stamp + size) :
    (size - stamp % size + time % size) % size = time - stamp := by
  have positive : 0 < size := by omega
  have room : stamp % size < size := Nat.mod_lt _ positive
  have whole : stamp = size * (stamp / size) + stamp % size := (Nat.div_add_mod ..).symm
  calc (size - stamp % size + time % size) % size
      = (size - stamp % size + time) % size := Nat.add_mod_mod ..
    _ = (time - stamp + size * (stamp / size + 1)) % size := by
        congr 1
        rw [Nat.mul_add, Nat.mul_one]
        omega
    _ = (time - stamp) % size := Nat.add_mul_mod_self_left ..
    _ = time - stamp := Nat.mod_eq_of_lt (by omega)

theorem shown_difference (order : stamp ≤ time) (near : time < stamp + lap) :
    (shown time - shown stamp).toNat = time - stamp := by
  unfold shown
  rw [UInt32.toNat_sub, UInt32.toNat_ofNat', UInt32.toNat_ofNat']
  exact mod_difference order near

theorem age_le_of_later (order : stamp ≤ time) (passes : time ≤ later) (near : later < stamp + lap)
    {age : UInt32} (small : shown later - shown stamp ≤ age) :
    shown time - shown stamp ≤ age := by
  rw [UInt32.le_iff_toNat_le, shown_difference (Nat.le_trans order passes) near] at small
  rw [UInt32.le_iff_toNat_le, shown_difference order (by omega)]
  omega

/-- The stamp will not be a lap old before the next check is due. -/
def Watched (stamp lastCheck period : Nat) : Prop := lastCheck + period < stamp + lap

theorem watched (fresh : lastCheck ≤ stamp) (short : period < lap) :
    Watched stamp lastCheck period := by
  unfold Watched
  omega

theorem Watched.near (watched : Watched stamp lastCheck period)
    (due : time ≤ lastCheck + period) : time < stamp + lap :=
  Nat.lt_of_le_of_lt due watched

/-- A check in time that finds the stamp within its limit watches on. -/
theorem watched_again (watched : Watched stamp lastCheck period) (order : stamp ≤ time)
    (due : time ≤ lastCheck + period) (short : limit + period < lap)
    (within : (shown time - shown stamp).toNat ≤ limit) : Watched stamp time period := by
  rw [shown_difference order (watched.near due)] at within
  unfold Watched
  omega

end Timer
end Ioniq5Ecan.Library
