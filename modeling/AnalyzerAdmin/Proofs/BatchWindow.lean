import AnalyzerAdmin.Batch
import Mathlib.Order.Basic

/-!
# The window of batch metrics

Both ends of a window are known exactly: the end is the time since the epoch, the beginning lies a
span before it, and the difference is cut off at the epoch and never wraps. Only the two numbers of
milliseconds lose their high bits, and no time that occurs has any.
-/

namespace AnalyzerAdmin.Window

variable {now later : Int} {span : Nat}

theorem toNat_milliseconds (nanoseconds : Nat) :
    (milliseconds nanoseconds).toNat = nanoseconds / 1000000 % 2 ^ 64 := by
  rw [milliseconds, UInt64.toNat_ofNat']

theorem toNat_stop (now : Int) (span : Nat) :
    (ending now span).stop.toNat = now.toNat / 1000000 % 2 ^ 64 :=
  toNat_milliseconds now.toNat

theorem toNat_start (now : Int) (span : Nat) :
    (ending now span).start.toNat = (ending now span).stop.toNat - span / 1000000 % 2 ^ 64 := by
  rw [← toNat_milliseconds span]
  simp only [ending]
  split_ifs with h
  · exact UInt64.toNat_sub_of_le _ _ h
  · have hlt : (milliseconds now.toNat).toNat < (milliseconds span).toNat :=
      UInt64.lt_iff_toNat_lt.mp (UInt64.not_le.mp h)
    rw [UInt64.toNat_zero]
    omega

theorem toNat_stop_of_lt (h : now.toNat / 1000000 < 2 ^ 64) :
    (ending now span).stop.toNat = now.toNat / 1000000 := by
  rw [toNat_stop, Nat.mod_eq_of_lt h]

theorem ending_of_neg (h : now < 0) : ending now span = ⟨0, 0⟩ := by
  have hnow : now.toNat = 0 := Int.toNat_of_nonpos (Int.le_of_lt h)
  have hstop : (ending now span).stop.toNat = 0 := by rw [toNat_stop, hnow]
  have hstart : (ending now span).start.toNat = 0 := by rw [toNat_start, hstop, Nat.zero_sub]
  generalize ending now span = w at hstop hstart
  cases w
  simp only at hstop hstart
  rw [UInt64.toNat_inj.mp (hstop.trans UInt64.toNat_zero.symm),
    UInt64.toNat_inj.mp (hstart.trans UInt64.toNat_zero.symm)]

theorem ending_mono (hle : now ≤ later) (hlater : later.toNat / 1000000 < 2 ^ 64) :
    (ending now span).start ≤ (ending later span).start ∧
      (ending now span).stop ≤ (ending later span).stop := by
  have hnanoseconds : now.toNat ≤ later.toNat := Int.toNat_le_toNat hle
  have hmilliseconds : now.toNat / 1000000 ≤ later.toNat / 1000000 :=
    Nat.div_le_div_right hnanoseconds
  have hstop : (ending now span).stop.toNat ≤ (ending later span).stop.toNat := by
    rw [toNat_stop_of_lt hlater, toNat_stop_of_lt (by omega)]
    exact hmilliseconds
  refine ⟨UInt64.le_iff_toNat_le.mpr ?_, UInt64.le_iff_toNat_le.mpr hstop⟩
  rw [toNat_start, toNat_start]
  omega

theorem milliseconds_parts {seconds nanoseconds : Nat} (hseconds : seconds < 2 ^ 64)
    (hnanoseconds : nanoseconds < 1000000000) :
    seconds * 1000 + nanoseconds / 1000000 < 2 ^ 128 ∧
      milliseconds (seconds * 1000000000 + nanoseconds) =
        UInt64.ofNat (seconds * 1000 + nanoseconds / 1000000) := by
  refine ⟨by omega, congrArg UInt64.ofNat ?_⟩
  omega

/-- A window begins no later than it ends, and its length is the span or reaches back to the epoch.
Times before the epoch have the empty window there. While both numbers of milliseconds fit 64 bits,
the ends are exact, and a later time moves neither of them back. Nothing on the way wraps: 128 bits
hold the milliseconds of every span, and the difference stops at zero. -/
theorem ending_well_formed (now : Int) (span : Nat) :
    (ending now span).start ≤ (ending now span).stop ∧
      (ending now span).stop.toNat - (ending now span).start.toNat =
        min (ending now span).stop.toNat (span / 1000000 % 2 ^ 64) ∧
      (now < 0 → ending now span = ⟨0, 0⟩) ∧
      (now.toNat / 1000000 < 2 ^ 64 → span / 1000000 < 2 ^ 64 →
        (ending now span).stop.toNat = now.toNat / 1000000 ∧
        ((ending now span).start.toNat : Int) =
          max 0 (((now.toNat / 1000000 : Nat) : Int) - (span / 1000000 : Nat))) ∧
      (∀ later, now ≤ later → later.toNat / 1000000 < 2 ^ 64 →
        (ending now span).start ≤ (ending later span).start ∧
        (ending now span).stop ≤ (ending later span).stop) ∧
      ((ending now span).start.toNat : Int) =
        max 0 (((ending now span).stop.toNat : Int) - (span / 1000000 % 2 ^ 64 : Nat)) ∧
      ∀ seconds nanoseconds, seconds < 2 ^ 64 → nanoseconds < 1000000000 →
        seconds * 1000 + nanoseconds / 1000000 < 2 ^ 128 ∧
        milliseconds (seconds * 1000000000 + nanoseconds) =
          UInt64.ofNat (seconds * 1000 + nanoseconds / 1000000) := by
  have hstart := toNat_start now span
  refine ⟨UInt64.le_iff_toNat_le.mpr (by omega), by omega, ending_of_neg, fun hnow hspan => ?_,
    fun later hle hlater => ending_mono hle hlater, by omega,
    fun _ _ hseconds hnanoseconds => milliseconds_parts hseconds hnanoseconds⟩
  have hstop : (ending now span).stop.toNat = now.toNat / 1000000 := toNat_stop_of_lt hnow
  rw [Nat.mod_eq_of_lt hspan, hstop] at hstart
  exact ⟨hstop, by omega⟩

theorem ending_well_formed_three_minutes :
    ending (-1000000000) length = ⟨0, 0⟩ ∧ ending 180000000000 length = ⟨0, 180000⟩ ∧
      ending 1000000000000 length = ⟨820000, 1000000⟩ ∧
      (ending (-1000000000) length).start ≤ (ending 1000000000000 length).start ∧
      (ending 1000000000000 length).stop.toNat = 1000000 ∧
      18446744073709551615 * 1000 + 999999999 / 1000000 < 2 ^ 128 := by
  obtain ⟨-, -, hbefore, -, hlater, -, hparts⟩ := ending_well_formed (-1000000000) length
  obtain ⟨-, -, -, hexact, -⟩ := ending_well_formed 1000000000000 length
  refine ⟨hbefore (by decide), by decide, by decide, ?_, ?_, ?_⟩
  · exact (hlater 1000000000000 (by decide) (by decide)).1
  · exact (hexact (by decide) (by decide)).1
  · exact (hparts 18446744073709551615 999999999 (by decide) (by decide)).1

end AnalyzerAdmin.Window
