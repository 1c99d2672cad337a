/-
# MediaTransport.Proofs.Packet.Sequence.Places -- numbers on the wire and places in a stream

The packets of a stream have places, integers without end, of which the wire carries the
lowest 16 bits (`onWire`).  How far one packet is ahead of another, modulo 2^16, is all that
two numbers tell of their places (`toNat_distance_onWire`).

`isAfter` depends on that distance alone, but for the distance of half the number space
(`isAfter_iff`).  So within a window of 32767 places it orders numbers as their places are
ordered (`isAfter_onWire`), wherever the window lies.
-/
import Mathlib.Algebra.Ring.Int.Defs
import Mathlib.Algebra.Ring.Nat
import MediaTransport.Packet.Sequence

namespace MediaTransport.Packet.Sequence

set_option autoImplicit false

/-- A number is after another if it is less than half the number space ahead; of two numbers
that are opposite to each other, the smaller one is. -/
theorem isAfter_iff (a b : UInt16) :
    isAfter a b = true ↔
      (0 < (distance b a).toNat ∧ (distance b a).toNat < halfSpace) ∨
        ((distance b a).toNat = halfSpace ∧ a.toNat < b.toNat) := by
  have ha := a.toNat_lt
  have hb := b.toNat_lt
  have ahead : (distance b a).toNat = (2 ^ 16 - b.toNat + a.toNat) % 2 ^ 16 := by
    rw [distance, UInt16.toNat_sub]
  rw [ahead, isAfter, beq_iff_eq, compare]
  by_cases same : a = b
  · subst same
    simp only [if_true, reduceCtorEq, false_iff, halfSpace]
    omega
  · have differ : a.toNat ≠ b.toNat := fun equal => same (UInt16.toNat_inj.1 equal)
    simp only [if_neg same, UInt16.lt_iff_toNat_lt, halfSpace]
    by_cases larger : b.toNat < a.toNat
    · by_cases near : a.toNat - b.toNat < 32768 <;>
        simp only [larger, near, if_true, if_false, reduceCtorEq, true_iff, false_iff] <;> omega
    · by_cases near : b.toNat - a.toNat < 32768 <;>
        simp only [larger, near, if_true, if_false, reduceCtorEq, true_iff, false_iff] <;> omega

/-! ## Places -/

/-- The number that a packet at some place of its stream carries on the wire. -/
def onWire (place : Int) : UInt16 :=
  UInt16.ofInt place

theorem toNat_onWire (place : Int) : ((onWire place).toNat : Int) = place % 2 ^ 16 := by
  have small : (place % 2 ^ 16).toNat < 2 ^ 16 := by omega
  rw [onWire, UInt16.ofInt, UInt16.toNat_ofNat', Nat.mod_eq_of_lt small]
  omega

theorem toNat_distance_onWire (first later : Int) :
    ((distance (onWire first) (onWire later)).toNat : Int) = (later - first) % 2 ^ 16 := by
  have from_first := toNat_onWire first
  have from_later := toNat_onWire later
  rw [distance, UInt16.toNat_sub]
  omega

/-- Packets that are less than half the number space apart are ordered by their numbers. -/
theorem isAfter_onWire {a b : Int} (near : (a - b).natAbs ≤ 32767) :
    isAfter (onWire a) (onWire b) = decide (b < a) := by
  have ahead := toNat_distance_onWire b a
  rw [Bool.eq_iff_iff, isAfter_iff, decide_eq_true_eq, halfSpace]
  omega

end MediaTransport.Packet.Sequence
