import RS2ServerFix.Lib.Words
import RS2ServerFix.Reporting.Format

namespace RS2ServerFix.Reporting

open Lib

def perSecond : UInt64 := 10000000

def uint64Top : UInt64 := 0xffffffffffffffff

def scaledTicks (delta frequency : UInt64) : Exactly (Option UInt64) := do
  let seconds ← Words.div delta frequency
  if uint64Top / perSecond < seconds then return none
  let rest ← Words.mod delta frequency
  let fraction ← Words.udiv128 (Words.umul128 rest perSecond).1 (Words.umul128 rest perSecond).2 frequency
  let ticks ← Words.mul seconds perSecond
  if uint64Top - ticks < fraction.1 then return none
  let ticks ← Words.add ticks fraction.1
  return some ticks

def distance (a b : UInt64) : Exactly UInt64 := if b ≤ a then Words.sub a b else Words.sub b a

def shiftedTime (positive : Bool) (filetime ticks : UInt64) : Exactly (Bool × UInt64) :=
  if positive && uint64Top - filetime < ticks || !positive && filetime ≤ ticks then .ok (false, 0)
  else do
    let utc ← if positive then Words.add filetime ticks else Words.sub filetime ticks
    return (true, utc)

/-- The derivation on the words of the source: whether there is a time, and the
time, or a fault of the arithmetic on the way. -/
def deriveUtcFiletimeWords (log : LogIdentity) (frequency sourceQpc : UInt64) : Exactly (Bool × UInt64) := do
  if frequency = 0 || sourceQpc = 0 || log.utcFiletime = 0 || log.calibrationQpcBefore = 0 ||
      log.calibrationQpcAfter < log.calibrationQpcBefore then return (false, 0)
  let span ← Words.sub log.calibrationQpcAfter log.calibrationQpcBefore
  let midpoint ← Words.add log.calibrationQpcBefore (span / 2)
  let delta ← distance sourceQpc midpoint
  match ← scaledTicks delta frequency with
  | none => return (false, 0)
  | some ticks => shiftedTime (midpoint ≤ sourceQpc) log.utcFiletime ticks

def utcTicks (frequency delta : Nat) : Nat := delta * 10000000 / frequency

def exactUtc (log : LogIdentity) (frequency sourceQpc : Nat) : Int :=
  let m := calibrationMidpoint log
  if m ≤ sourceQpc then (log.utcFiletime.toNat : Int) + utcTicks frequency (sourceQpc - m)
  else (log.utcFiletime.toNat : Int) - utcTicks frequency (m - sourceQpc)

theorem utcTicks_split {frequency : Nat} (h : 0 < frequency) (delta : Nat) :
    utcTicks frequency delta = delta / frequency * 10000000 + delta % frequency * 10000000 / frequency := by
  have hsplit : delta * 10000000 = frequency * (delta / frequency * 10000000) + delta % frequency * 10000000 := by
    calc delta * 10000000 = (frequency * (delta / frequency) + delta % frequency) * 10000000 := by rw [Nat.div_add_mod]
      _ = frequency * (delta / frequency * 10000000) + delta % frequency * 10000000 := by ring
  rw [utcTicks, hsplit, Nat.mul_add_div h]

theorem utcTicks_mono (frequency : Nat) {delta delta' : Nat} (h : delta ≤ delta') :
    utcTicks frequency delta ≤ utcTicks frequency delta' :=
  Nat.div_le_div_right (Nat.mul_le_mul_right _ h)

section Exact

variable {log : LogIdentity} {frequency sourceQpc : UInt64}

theorem scaledTicks_exact (delta : UInt64) (hfrequency : frequency ≠ 0) : ∃ r, scaledTicks delta frequency = .ok r ∧
    (utcTicks frequency.toNat delta.toNat < 2 ^ 64 →
      ∃ ticks, r = some ticks ∧ ticks.toNat = utcTicks frequency.toNat delta.toNat) ∧
    (2 ^ 64 ≤ utcTicks frequency.toNat delta.toNat → r = none) := by
  have hpositive : 0 < frequency.toNat := Nat.pos_of_ne_zero fun h => hfrequency (UInt64.toNat_inj.mp h)
  have hfactor : perSecond.toNat = 10000000 := by decide
  obtain ⟨seconds, hseconds, hsecondsValue⟩ := Words.div_exact (a := delta) hfrequency
  obtain ⟨rest, hrest, hrestValue⟩ := Words.mod_exact (a := delta) hfrequency
  have hrestLt : rest.toNat < frequency.toNat := hrestValue ▸ Nat.mod_lt _ hpositive
  obtain ⟨fraction, remainder, hfraction, hfractionValue⟩ := Words.muldiv_exact (b := perSecond) hrestLt
  have hsplit : utcTicks frequency.toNat delta.toNat = seconds.toNat * 10000000 + fraction.toNat := by
    rw [utcTicks_split hpositive, hsecondsValue, hfractionValue, hrestValue, hfactor]
  have hfractionLt := fraction.toNat_lt
  have hbound : (uint64Top / perSecond).toNat = 1844674407370 := by decide
  have htop : uint64Top.toNat = 18446744073709551615 := by decide
  by_cases hmany : uint64Top / perSecond < seconds
  · have hmany' := UInt64.lt_iff_toNat_lt.mp hmany
    refine ⟨none, ?_, fun h => ?_, fun _ => rfl⟩
    · unfold scaledTicks
      rw [hseconds, Words.ok_bind, if_pos hmany]
      rfl
    · omega
  · have hfew := UInt64.le_iff_toNat_le.mp (UInt64.not_lt.mp hmany)
    obtain ⟨whole, hwhole, hwholeValue⟩ := Words.mul_exact (a := seconds) (b := perSecond) (by rw [hfactor]; omega)
    rw [hfactor] at hwholeValue
    have hroom : (uint64Top - whole).toNat = uint64Top.toNat - whole.toNat :=
      UInt64.toNat_sub_of_le _ _ (UInt64.le_iff_toNat_le.mpr (by omega))
    by_cases hfull : uint64Top - whole < fraction
    · have hfull' := UInt64.lt_iff_toNat_lt.mp hfull
      refine ⟨none, ?_, fun h => ?_, fun _ => rfl⟩
      · unfold scaledTicks
        rw [hseconds, Words.ok_bind, if_neg hmany, hrest, Words.ok_bind, hfraction, Words.ok_bind, hwhole,
          Words.ok_bind, if_pos hfull]
        rfl
      · omega
    · have hfits := UInt64.le_iff_toNat_le.mp (UInt64.not_lt.mp hfull)
      obtain ⟨ticks, hticks, hticksValue⟩ := Words.add_exact (a := whole) (b := fraction) (by omega)
      refine ⟨some ticks, ?_, fun _ => ⟨ticks, rfl, by omega⟩, fun h => by omega⟩
      unfold scaledTicks
      rw [hseconds, Words.ok_bind, if_neg hmany, hrest, Words.ok_bind, hfraction, Words.ok_bind, hwhole, Words.ok_bind,
        if_neg hfull, hticks]
      rfl

theorem distance_exact (a b : UInt64) : ∃ c, distance a b = .ok c ∧
    c.toNat = if b ≤ a then a.toNat - b.toNat else b.toNat - a.toNat := by
  unfold distance
  by_cases h : b ≤ a
  · rw [if_pos h, if_pos h]
    exact Words.sub_exact (UInt64.le_iff_toNat_le.mp h)
  · rw [if_neg h, if_neg h]
    exact Words.sub_exact (Nat.le_of_lt (UInt64.lt_iff_toNat_lt.mp (UInt64.not_le.mp h)))

def timeOf (v : Int) : Bool × UInt64 := if 0 < v ∧ v < 2 ^ 64 then (true, v.toNat.toUInt64) else (false, 0)

theorem timeOf_word {utc : UInt64} {v : Int} (hv : (utc.toNat : Int) = v) (hpos : 0 < v) : timeOf v = (true, utc) := by
  have hlt := utc.toNat_lt
  rw [timeOf, if_pos ⟨hpos, by omega⟩, ← hv, Int.toNat_natCast]
  exact congrArg _ (UInt64.toNat_inj.mp (UInt64.toNat_ofNat_of_lt' hlt))

theorem shiftedTime_exact (positive : Bool) {filetime ticks : UInt64} (hfiletime : filetime ≠ 0) :
    shiftedTime positive filetime ticks =
      .ok (timeOf (if positive then filetime.toNat + ticks.toNat else filetime.toNat - ticks.toNat)) := by
  have htop : uint64Top.toNat = 18446744073709551615 := by decide
  have hfiletimeLt := filetime.toNat_lt
  have hroom : (uint64Top - filetime).toNat = uint64Top.toNat - filetime.toNat :=
    UInt64.toNat_sub_of_le _ _ (UInt64.le_iff_toNat_le.mpr (by omega))
  have hpositive : 0 < filetime.toNat := Nat.pos_of_ne_zero fun h => hfiletime (UInt64.toNat_inj.mp h)
  unfold shiftedTime
  cases positive with
  | true =>
      by_cases hfull : uint64Top - filetime < ticks
      · have hfull' := UInt64.lt_iff_toNat_lt.mp hfull
        rw [if_pos (by simpa using hfull), if_pos rfl, timeOf, if_neg (by omega)]
      · have hfits := UInt64.le_iff_toNat_le.mp (UInt64.not_lt.mp hfull)
        obtain ⟨utc, hutc, hvalue⟩ := Words.add_exact (a := filetime) (b := ticks) (by omega)
        have htime : timeOf ((filetime.toNat : Int) + ticks.toNat) = (true, utc) := timeOf_word (by omega) (by omega)
        rw [if_neg (by simpa using hfull), if_pos rfl, if_pos rfl, hutc, htime]
        rfl
  | false =>
      by_cases hearly : filetime ≤ ticks
      · have hearly' := UInt64.le_iff_toNat_le.mp hearly
        rw [if_pos (by simpa using hearly), if_neg Bool.false_ne_true, timeOf, if_neg (by omega)]
      · have hlate := UInt64.lt_iff_toNat_lt.mp (UInt64.not_le.mp hearly)
        obtain ⟨utc, hutc, hvalue⟩ := Words.sub_exact (Nat.le_of_lt hlate)
        have htime : timeOf ((filetime.toNat : Int) - ticks.toNat) = (true, utc) := timeOf_word (by omega) (by omega)
        rw [if_neg (by simpa using hearly), if_neg Bool.false_ne_true, if_neg Bool.false_ne_true, hutc, htime]
        rfl

theorem timeOf_outside {v : Int} (h : ¬(0 < v ∧ v < 2 ^ 64)) : timeOf v = (false, 0) := if_neg h

/-- No sum, difference or product on the way leaves the words, the division does
not trap, and the result is the one over the integers wherever that is a time. -/
theorem deriveUtcFiletimeWords_exact (hfrequency : frequency ≠ 0) (hsource : sourceQpc ≠ 0) (hutc : log.utcFiletime ≠ 0)
    (hbefore : log.calibrationQpcBefore ≠ 0) (hafter : log.calibrationQpcBefore ≤ log.calibrationQpcAfter) :
    deriveUtcFiletimeWords log frequency sourceQpc = .ok (timeOf (exactUtc log frequency.toNat sourceQpc.toNat)) := by
  have hguard : ¬(frequency = 0 || sourceQpc = 0 || log.utcFiletime = 0 || log.calibrationQpcBefore = 0 ||
      log.calibrationQpcAfter < log.calibrationQpcBefore) = true := by
    simp [hfrequency, hsource, hutc, hbefore, hafter]
  have hle := UInt64.le_iff_toNat_le.mp hafter
  have hafterLt := log.calibrationQpcAfter.toNat_lt
  have hutcLt := log.utcFiletime.toNat_lt
  obtain ⟨span, hspan, hspanValue⟩ := Words.sub_exact hle
  have hhalf : (span / 2).toNat = span.toNat / 2 := UInt64.toNat_div span 2
  obtain ⟨midpoint, hmidpoint, hmidpointValue⟩ := Words.add_exact (a := log.calibrationQpcBefore) (b := span / 2) (by omega)
  have hmid : midpoint.toNat = calibrationMidpoint log := by
    rw [hmidpointValue, hhalf, hspanValue]
    rfl
  obtain ⟨delta, hdelta, hdeltaValue⟩ := distance_exact sourceQpc midpoint
  obtain ⟨ticks, hticks, hfits, hmany⟩ := scaledTicks_exact delta hfrequency
  have hvalue : exactUtc log frequency.toNat sourceQpc.toNat =
      if midpoint ≤ sourceQpc then (log.utcFiletime.toNat : Int) + utcTicks frequency.toNat delta.toNat
      else (log.utcFiletime.toNat : Int) - utcTicks frequency.toNat delta.toNat := by
    simp only [exactUtc, ← hmid, UInt64.le_iff_toNat_le, hdeltaValue]
    split
    · rfl
    · rfl
  unfold deriveUtcFiletimeWords
  rw [if_neg hguard]
  rw [hspan, Words.ok_bind, hmidpoint, Words.ok_bind, hdelta, Words.ok_bind, hticks, Words.ok_bind]
  by_cases hlt : utcTicks frequency.toNat delta.toNat < 2 ^ 64
  · obtain ⟨word, rfl, hword⟩ := hfits hlt
    change shiftedTime (decide (midpoint ≤ sourceQpc)) log.utcFiletime word = _
    rw [shiftedTime_exact _ hutc, hvalue, hword]
    simp only [decide_eq_true_eq]
  · obtain rfl := hmany (Nat.le_of_not_lt hlt)
    rw [timeOf_outside]
    · rfl
    · rw [hvalue]
      split
      · omega
      · omega

theorem exactUtc_mono (log : LogIdentity) (frequency : Nat) {source source' : Nat} (h : source ≤ source') :
    exactUtc log frequency source ≤ exactUtc log frequency source' := by
  have hlater := fun m => utcTicks_mono frequency (Nat.sub_le_sub_right h m)
  have hearlier := fun m => utcTicks_mono frequency (Nat.sub_le_sub_left h m)
  have hm := hlater (calibrationMidpoint log)
  have hm' := hearlier (calibrationMidpoint log)
  simp only [exactUtc]
  split
  · rw [if_pos (by omega)]
    omega
  · split
    · omega
    · omega

/-- The derivation that the formatter is stated with is the one on words. -/
theorem deriveUtcFiletime_exact (hfrequency : frequency ≠ 0) (hsource : sourceQpc ≠ 0) (hutc : log.utcFiletime ≠ 0)
    (hbefore : log.calibrationQpcBefore ≠ 0) (hafter : log.calibrationQpcBefore ≤ log.calibrationQpcAfter) :
    deriveUtcFiletimeWords log frequency sourceQpc =
      .ok ((deriveUtcFiletime log frequency.toNat sourceQpc.toNat).elim (false, 0) fun v => (true, v.toUInt64)) := by
  rw [deriveUtcFiletimeWords_exact hfrequency hsource hutc hbefore hafter]
  have hpositive : 0 < frequency.toNat := Nat.pos_of_ne_zero fun h => hfrequency (UInt64.toNat_inj.mp h)
  have hsourceNe : sourceQpc.toNat ≠ 0 := fun h => hsource (UInt64.toNat_inj.mp h)
  have hguard : ¬(frequency.toNat = 0 ∨ sourceQpc.toNat = 0 ∨ log.utcFiletime = 0 ∨ log.calibrationQpcBefore = 0 ∨
      log.calibrationQpcAfter < log.calibrationQpcBefore) := by
    simp only [not_or, UInt64.not_lt]
    exact ⟨hpositive.ne', hsourceNe, hutc, hbefore, hafter⟩
  have hutcPos : 0 < log.utcFiletime.toNat := Nat.pos_of_ne_zero fun h => hutc (UInt64.toNat_inj.mp h)
  have hutcLt := log.utcFiletime.toNat_lt
  have hmax : uint64Max = 18446744073709551615 := rfl
  have htime : ∀ {n : Nat} {v : Int}, (n : Int) = v → 0 < v → v < 2 ^ 64 → timeOf v = (true, n.toUInt64) := by
    rintro n _ rfl hpos hlt
    rw [timeOf, if_pos ⟨hpos, hlt⟩, Int.toNat_natCast]
  unfold deriveUtcFiletime exactUtc
  rw [if_neg hguard]
  dsimp only
  congr 1
  split
  · rename_i hlate
    have hsplit := utcTicks_split hpositive (sourceQpc.toNat - calibrationMidpoint log)
    generalize utcTicks frequency.toNat (sourceQpc.toNat - calibrationMidpoint log) = ticks at hsplit ⊢
    generalize (sourceQpc.toNat - calibrationMidpoint log) / frequency.toNat = seconds at hsplit ⊢
    generalize (sourceQpc.toNat - calibrationMidpoint log) % frequency.toNat * 10000000 / frequency.toNat = fraction
      at hsplit ⊢
    split
    · rw [timeOf_outside (by omega)]
      rfl
    · split
      · rw [timeOf_outside (by omega)]
        rfl
      · split
        · rw [timeOf_outside (by omega)]
          rfl
        · exact htime (by omega) (by omega) (by omega)
  · rename_i hearly
    have hsplit := utcTicks_split hpositive (calibrationMidpoint log - sourceQpc.toNat)
    generalize utcTicks frequency.toNat (calibrationMidpoint log - sourceQpc.toNat) = ticks at hsplit ⊢
    generalize (calibrationMidpoint log - sourceQpc.toNat) / frequency.toNat = seconds at hsplit ⊢
    generalize (calibrationMidpoint log - sourceQpc.toNat) % frequency.toNat * 10000000 / frequency.toNat = fraction
      at hsplit ⊢
    split
    · rw [timeOf_outside (by omega)]
      rfl
    · split
      · rw [timeOf_outside (by omega)]
        rfl
      · split
        · rw [timeOf_outside (by omega)]
          rfl
        · exact htime (by omega) (by omega) (by omega)

/-- The derived time is exact, whenever it is a time at all, and no later source
has an earlier one. -/
theorem derive_utc_exact (hfrequency : frequency ≠ 0) (hsource : sourceQpc ≠ 0) (hutc : log.utcFiletime ≠ 0)
    (hbefore : log.calibrationQpcBefore ≠ 0) (hafter : log.calibrationQpcBefore ≤ log.calibrationQpcAfter) :
    ∃ done utc, deriveUtcFiletimeWords log frequency sourceQpc = .ok (done, utc) ∧
      (done = true ↔ 0 < exactUtc log frequency.toNat sourceQpc.toNat ∧
        exactUtc log frequency.toNat sourceQpc.toNat < 2 ^ 64) ∧
      (done = true → (utc.toNat : Int) = exactUtc log frequency.toNat sourceQpc.toNat) ∧ (done = false → utc = 0) ∧
      ∀ sourceQpc' utc', sourceQpc ≤ sourceQpc' → done = true →
        deriveUtcFiletimeWords log frequency sourceQpc' = .ok (true, utc') → utc ≤ utc' := by
  have hvalue : ∀ {v : Int} {utc : UInt64}, timeOf v = (true, utc) → 0 < v ∧ v < 2 ^ 64 ∧ (utc.toNat : Int) = v := by
    intro v utc h
    by_cases hv : 0 < v ∧ v < 2 ^ 64
    · rw [timeOf, if_pos hv] at h
      obtain ⟨-, rfl⟩ := Prod.mk.inj h
      have hsize : UInt64.size = 2 ^ 64 := rfl
      have hword : v.toNat.toUInt64.toNat = v.toNat := UInt64.toNat_ofNat_of_lt' (by omega)
      rw [hword]
      exact ⟨hv.1, hv.2, by omega⟩
    · rw [timeOf_outside hv] at h
      cases h
  have hexact := deriveUtcFiletimeWords_exact hfrequency hsource hutc hbefore hafter
  refine ⟨(timeOf _).1, (timeOf _).2, hexact, ?_, fun h => ?_, fun h => ?_, fun source' utc' hle h h' => ?_⟩
  · constructor
    · intro h
      exact ⟨(hvalue (Prod.ext h rfl)).1, (hvalue (Prod.ext h rfl)).2.1⟩
    · intro h
      rw [timeOf, if_pos h]
  · exact (hvalue (Prod.ext h rfl)).2.2
  · by_cases hv : 0 < exactUtc log frequency.toNat sourceQpc.toNat ∧
        exactUtc log frequency.toNat sourceQpc.toNat < 2 ^ 64
    · rw [timeOf, if_pos hv] at h
      cases h
    · rw [timeOf_outside hv]
  · have hle' := UInt64.le_iff_toNat_le.mp hle
    have hsource' : source' ≠ 0 := by
      intro hzero
      rw [hzero] at hle'
      exact hsource (UInt64.toNat_inj.mp (Nat.le_zero.mp hle'))
    have hlater := deriveUtcFiletimeWords_exact hfrequency hsource' hutc hbefore hafter
    have hvalue' := (hvalue (Except.ok.inj (hlater.symm.trans h'))).2.2
    have hvalue : ((timeOf (exactUtc log frequency.toNat sourceQpc.toNat)).2.toNat : Int) =
        exactUtc log frequency.toNat sourceQpc.toNat := (hvalue (Prod.ext h rfl)).2.2
    have hmono := exactUtc_mono log frequency.toNat hle'
    exact UInt64.le_iff_toNat_le.mpr (by omega)

def calibratedLog (utcFiletime calibrationQpcBefore calibrationQpcAfter : UInt64) : LogIdentity where
  volumeSerial := 0
  fileId := Vector.replicate 16 0
  initialEOF := 0
  pathChars := 0
  prefixMode := 0
  transportKind := 0
  durability := 0
  utcFiletime := utcFiletime
  calibrationQpcBefore := calibrationQpcBefore
  calibrationQpcAfter := calibrationQpcAfter
  initialAtLineBoundary := 0
  path := Vector.replicate 1024 0

/-- One second after a calibration of no width, the file time is ten million ticks
later. -/
theorem derive_utc_exact_sample :
    ∃ done utc, deriveUtcFiletimeWords (calibratedLog 5 7 7) 10 17 = .ok (done, utc) ∧ done = true ∧ utc = 10000005 := by
  obtain ⟨done, utc, hdone, hiff, hvalue, -⟩ :=
    @derive_utc_exact (calibratedLog 5 7 7) 10 17 (by decide) (by decide) (by decide) (by decide) (by decide)
  have htrue := hiff.mpr (by decide)
  refine ⟨done, utc, hdone, htrue, UInt64.toNat_inj.mp ?_⟩
  have hutc := hvalue htrue
  have hexact : exactUtc (calibratedLog 5 7 7) (10 : UInt64).toNat (17 : UInt64).toNat = 10000005 := by decide
  rw [hexact] at hutc
  exact Int.ofNat_inj.mp hutc

end Exact

end RS2ServerFix.Reporting
