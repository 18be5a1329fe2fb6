import Mathlib.Algebra.BigOperators.Fin
import RS2ServerFix.Lib.Words
import RS2ServerFix.Reporting.Types

namespace RS2ServerFix.Reporting

open Lib

def durationFrequencyMax : Nat := 204963823041217240

inductive DurationClass
  | pumpForward | pumpManagement | builderForward | builderProbe
  deriving DecidableEq, Repr

/-- The counters of one class; the buckets are at most 10us, 100us, 1ms, 5ms and
50ms, and above. -/
structure DurationCounters where
  calls : Nat
  elapsedTicks : Nat
  maximumTicks : Nat
  overFiveMilliseconds : Nat
  buckets : Fin 6 → Nat

def DurationCounters.zero : DurationCounters := ⟨0, 0, 0, 0, fun _ => 0⟩

def atMostMicroseconds (ticks frequency micros : Nat) : Bool :=
  let whole := frequency / 1000000
  let rest := frequency % 1000000
  decide (ticks ≤ whole * micros + rest * micros / 1000000)

def atMostMicrosecondsWords (ticks frequency micros : UInt64) : Exactly Bool := do
  let whole ← Words.mul (frequency / 1000000) micros
  let rest ← Words.mul (frequency % 1000000) micros
  let limit ← Words.add whole (rest / 1000000)
  return decide (ticks ≤ limit)

def incrementCounter (value amount : Nat) : Option Nat := if uint64Max - value < amount then none else some (value + amount)

def durationLimits : List Nat := [10, 100, 1000, 5000, 50000]

def durationBucket (elapsed frequency : Nat) : Fin 6 :=
  ⟨durationLimits.findIdx (atMostMicroseconds elapsed frequency), Nat.lt_succ_of_le List.findIdx_le_length⟩

def countOverrun (overFiveMilliseconds elapsed frequency : Nat) : Option Nat :=
  if atMostMicroseconds elapsed frequency 5000 then some overFiveMilliseconds else incrementCounter overFiveMilliseconds 1

def accountDuration (c : DurationCounters) (elapsed frequency : Nat) : Option DurationCounters := do
  if frequency = 0 ∨ durationFrequencyMax < frequency then none
  else
    let bucket := durationBucket elapsed frequency
    let calls ← incrementCounter c.calls 1
    let elapsedTicks ← incrementCounter c.elapsedTicks elapsed
    let count ← incrementCounter (c.buckets bucket) 1
    let overrun ← countOverrun c.overFiveMilliseconds elapsed frequency
    some ⟨calls, elapsedTicks, max c.maximumTicks elapsed, overrun, Function.update c.buckets bucket count⟩

theorem atMostMicroseconds_exact (ticks frequency micros : Nat) :
    atMostMicroseconds ticks frequency micros = decide (ticks * 1000000 ≤ micros * frequency) := by
  have hsplit : frequency / 1000000 * micros + frequency % 1000000 * micros / 1000000 = micros * frequency / 1000000 := by
    have hfrequency := Nat.div_add_mod frequency 1000000
    have hproduct : micros * frequency = 1000000 * (frequency / 1000000 * micros) + frequency % 1000000 * micros := by
      calc micros * frequency = micros * (1000000 * (frequency / 1000000) + frequency % 1000000) := by rw [hfrequency]
        _ = 1000000 * (frequency / 1000000 * micros) + frequency % 1000000 * micros := by ring
    rw [hproduct, Nat.mul_add_div (by decide)]
  unfold atMostMicroseconds
  dsimp only
  rw [hsplit, decide_eq_decide, Nat.le_div_iff_mul_le (by decide)]

/-- No product and no sum of the comparison wraps. -/
theorem atMostMicrosecondsWords_exact {ticks frequency micros : UInt64} (hfrequency : frequency.toNat ≤ durationFrequencyMax)
    (hmicros : micros.toNat ≤ 50000) : atMostMicrosecondsWords ticks frequency micros =
      .ok (decide (ticks.toNat * 1000000 ≤ micros.toNat * frequency.toNat)) := by
  have hmillion : (1000000 : UInt64).toNat = 1000000 := by decide
  have hdiv : (frequency / 1000000).toNat = frequency.toNat / 1000000 := by rw [UInt64.toNat_div, hmillion]
  have hmod : (frequency % 1000000).toNat = frequency.toNat % 1000000 := by rw [UInt64.toNat_mod, hmillion]
  have hmax : durationFrequencyMax = 204963823041217240 := rfl
  have hwholeLe : frequency.toNat / 1000000 ≤ 204963823041 := by omega
  have hrestLe : frequency.toNat % 1000000 ≤ 999999 := by omega
  have hfirst := Nat.mul_le_mul hwholeLe hmicros
  have hsecond := Nat.mul_le_mul hrestLe hmicros
  obtain ⟨whole, hwhole, hwholeValue⟩ := Words.mul_exact (a := frequency / 1000000) (b := micros) (by rw [hdiv]; omega)
  obtain ⟨rest, hrest, hrestValue⟩ := Words.mul_exact (a := frequency % 1000000) (b := micros) (by rw [hmod]; omega)
  rw [hdiv] at hwholeValue
  rw [hmod] at hrestValue
  have hpart : (rest / 1000000).toNat = rest.toNat / 1000000 := by rw [UInt64.toNat_div, hmillion]
  obtain ⟨limit, hlimit, hlimitValue⟩ := Words.add_exact (a := whole) (b := rest / 1000000) (by omega)
  have hle : decide (ticks ≤ limit) = atMostMicroseconds ticks.toNat frequency.toNat micros.toNat := by
    rw [atMostMicroseconds, decide_eq_decide, UInt64.le_iff_toNat_le, hlimitValue, hwholeValue, hpart, hrestValue]
  unfold atMostMicrosecondsWords
  rw [hwhole, Words.ok_bind, hrest, Words.ok_bind, hlimit, Words.ok_bind, hle, atMostMicroseconds_exact]
  rfl

theorem incrementCounter_some {value amount : Nat} (h : value + amount ≤ uint64Max) :
    incrementCounter value amount = some (value + amount) := if_neg (by omega)

structure Tallied (frequency : Nat) (ds : List Nat) (c : DurationCounters) : Prop where
  calls : c.calls = ds.length
  elapsedTicks : c.elapsedTicks = ds.sum
  maximumTicks : c.maximumTicks = ds.foldr max 0
  overFiveMilliseconds : c.overFiveMilliseconds = ds.countP fun d => decide (5000 * frequency < d * 1000000)
  buckets : ∀ i, c.buckets i = ds.countP fun d => decide (durationBucket d frequency = i)

variable {frequency elapsed : Nat} {c : DurationCounters} {ds : List Nat}

theorem Tallied.zero (frequency : Nat) : Tallied frequency [] .zero := ⟨rfl, rfl, rfl, rfl, fun _ => rfl⟩

/-- The counters that the checks of a stage leave room in take the duration. -/
theorem accountDuration_tallied (h : Tallied frequency ds c) (hfrequency : 0 < frequency ∧ frequency ≤ durationFrequencyMax)
    (hcalls : c.calls < uint64Max) (helapsed : c.elapsedTicks + elapsed ≤ uint64Max) :
    ∃ c', accountDuration c elapsed frequency = some c' ∧ Tallied frequency (elapsed :: ds) c' := by
  have hlength := h.calls
  have hcount : c.buckets (durationBucket elapsed frequency) ≤ c.calls := by
    rw [h.buckets, hlength]
    exact List.countP_le_length
  have hover : c.overFiveMilliseconds ≤ c.calls := by
    rw [h.overFiveMilliseconds, hlength]
    exact List.countP_le_length
  have hovers : countOverrun c.overFiveMilliseconds elapsed frequency =
      some ((elapsed :: ds).countP fun d => decide (5000 * frequency < d * 1000000)) := by
    rw [countOverrun, atMostMicroseconds_exact, List.countP_cons, ← h.overFiveMilliseconds]
    by_cases hle : elapsed * 1000000 ≤ 5000 * frequency
    · rw [if_pos (decide_eq_true hle), if_neg (by simpa using hle), Nat.add_zero]
    · rw [if_neg (by simpa using hle), if_pos (by simpa using hle), incrementCounter_some (by omega)]
  unfold accountDuration
  rw [if_neg (by omega)]
  dsimp only
  rw [incrementCounter_some (by omega), incrementCounter_some helapsed, incrementCounter_some (by omega), hovers]
  refine ⟨_, rfl, ?_, ?_, ?_, rfl, fun i => ?_⟩
  · rw [List.length_cons, ← hlength]
  · rw [List.sum_cons, ← h.elapsedTicks]
    exact Nat.add_comm _ _
  · rw [List.foldr_cons, ← h.maximumTicks]
    exact Nat.max_comm _ _
  · dsimp only
    rw [List.countP_cons, ← h.buckets i]
    by_cases hi : durationBucket elapsed frequency = i
    · subst hi
      simp
    · simp [hi, Function.update_of_ne (Ne.symm hi)]

/-- The sums and bounds among the counters of a class. -/
structure DurationCounters.Sound (c : DurationCounters) : Prop where
  buckets : ∑ i, c.buckets i = c.calls
  overruns : c.overFiveMilliseconds ≤ c.calls
  maximum : c.maximumTicks ≤ c.elapsedTicks

theorem Tallied.sound (h : Tallied frequency ds c) : c.Sound where
  buckets := by
    rw [Finset.sum_congr rfl fun i _ => h.buckets i, h.calls]
    clear h
    induction ds with
    | nil => simp
    | cons d ds ih =>
        simp only [List.countP_cons, decide_eq_true_eq, Finset.sum_add_distrib, ih, List.length_cons]
        simp
  overruns := by
    rw [h.overFiveMilliseconds, h.calls]
    exact List.countP_le_length
  maximum := by
    rw [h.maximumTicks, h.elapsedTicks]
    clear h
    induction ds with
    | nil => exact le_rfl
    | cons d ds ih =>
        rw [List.foldr_cons, List.sum_cons]
        omega

end RS2ServerFix.Reporting
