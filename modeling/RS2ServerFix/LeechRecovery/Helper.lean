import RS2ServerFix.LeechRecovery.Value

namespace RS2ServerFix.LeechRecovery

open Reporting

def helperInitial (p : ReportRecoveryPayload) : Bool :=
  p.phase = 1 && p.flags = 1 && p.operationSequence = 0 && p.transitionSequence = 1

def helperRequired : UInt64 := 2097665
def helperAllowed : UInt64 := 3146241

def helperRetry (p : ReportRecoveryPayload) : Bool :=
  0 < p.operationSequence && p.operationSequence < 0xffffffffffffffff && 1 < p.transitionSequence &&
    p.transitionSequence < 0xffffffffffffffff && p.phase = 10 && p.flags &&& helperRequired = helperRequired &&
    p.flags &&& ~~~helperAllowed = 0 && p.nativeStage = 0 && p.resourcePhase = 0 && p.exceptionCode = 0 &&
    p.callbackResult = 0 && (p.outcome = 1 || p.outcome = 4) && 0 < p.reason && p.reason < 83 && p.reason ≠ 2 &&
    p.reason ≠ 26

namespace RecoveryValue

variable {v : RecoveryValue}

/-- A retryable value as the owner releases it passes the helper. -/
theorem helperRetry_payload (h : v.Valid) (hr : v.flags.preflightRetryable = true)
    (ho : v.operationSequence < uint64Max) (ht : 2 ≤ v.transitionSequence) (ht' : v.transitionSequence < uint64Max)
    (hreason : v.reason ≠ .none ∧ v.reason ≠ .invalidRequest ∧ v.reason ≠ .clockFault) :
    helperRetry v.payload = true := by
  obtain ⟨hphase, hoperation, houtcome, hflags, hstage, hresource, hexception, -, -, hresult, -⟩ := h.retryable hr
  have hlt : ∀ {n m : Nat}, n ≤ uint64Max → m ≤ uint64Max → n < m → n.toUInt64 < m.toUInt64 := fun {n m} hn hm hnm => by
    rwa [UInt64.lt_iff_toNat_lt, toNat_toUInt64 hn, toNat_toUInt64 hm]
  have hop : 0 < v.payload.operationSequence ∧ v.payload.operationSequence < 0xffffffffffffffff :=
    ⟨hlt (Nat.zero_le _) ho.le (Nat.pos_of_ne_zero hoperation), hlt ho.le le_rfl ho⟩
  have htr : 1 < v.payload.transitionSequence ∧ v.payload.transitionSequence < 0xffffffffffffffff :=
    ⟨hlt (by decide) ht'.le ht, hlt ht'.le le_rfl ht'⟩
  have hmask : ∀ c : Bool, (let f := { Flags.zero with
        permissionEnabled := true, terminal := true, consoleRequested := c, preflightRetryable := true }
      f.word &&& helperRequired = helperRequired ∧ f.word &&& ~~~helperAllowed = 0) := by decide
  have hbits := hmask v.flags.consoleRequested
  rw [← hflags] at hbits
  have hcode : 0 < v.payload.reason ∧ v.payload.reason < 83 ∧ v.payload.reason ≠ 2 ∧ v.payload.reason ≠ 26 := by
    have hall : ∀ r : RecoveryReason, r ≠ .none → r ≠ .invalidRequest → r ≠ .clockFault →
        0 < r.ctorIdx.toUInt64 ∧ r.ctorIdx.toUInt64 < 83 ∧ r.ctorIdx.toUInt64 ≠ 2 ∧ r.ctorIdx.toUInt64 ≠ 26 := by
      intro r
      cases r <;> decide
    exact hall v.reason hreason.1 hreason.2.1 hreason.2.2
  have hword : v.payload.outcome = 1 ∨ v.payload.outcome = 4 := by
    rcases houtcome with hc | hc
    · exact .inl (congrArg (fun o : RecoveryOutcome => o.ctorIdx.toUInt64) hc)
    · exact .inr (congrArg (fun o : RecoveryOutcome => o.ctorIdx.toUInt64) hc)
  simp only [helperRetry, Bool.and_eq_true, Bool.or_eq_true, decide_eq_true_eq]
  refine ⟨⟨⟨⟨⟨⟨⟨⟨⟨⟨⟨⟨⟨⟨⟨hop.1, hop.2⟩, htr.1⟩, htr.2⟩, ?_⟩, hbits.1⟩, hbits.2⟩, ?_⟩, ?_⟩, ?_⟩, ?_⟩, hword⟩, hcode.1⟩,
    hcode.2.1⟩, hcode.2.2.1⟩, hcode.2.2.2⟩
  · exact congrArg (fun p : RecoveryPhase => p.ctorIdx.toUInt64) hphase
  · exact congrArg (fun p : NativeStage => p.ctorIdx.toUInt64) hstage
  · exact congrArg (fun p : ResourcePhase => p.ctorIdx.toUInt64) hresource
  · exact congrArg UInt32.toUInt64 hexception
  · exact congrArg (fun p : CallbackResult => p.ctorIdx.toUInt64) hresult

theorem retryable_of_helperRetry (h : helperRetry v.payload = true) : v.flags.preflightRetryable = true := by
  simp only [helperRetry, Bool.and_eq_true, decide_eq_true_eq] at h
  have hmask := h.1.1.1.1.1.1.1.1.1.1.2
  exact (v.flags.word_and_eq_self helperRequired).mp hmask 21 (by decide) (by decide)

theorem operation_of_helperInitial (h : helperInitial v.payload = true) (ho : v.operationSequence ≤ uint64Max) :
    v.operationSequence = 0 := by
  simp only [helperInitial, Bool.and_eq_true, decide_eq_true_eq] at h
  exact (toUInt64_eq_iff ho (Nat.zero_le _)).mp h.1.2

theorem restart_of_helperInitial (h : helperInitial v.payload = true) : v.flags.restartRequired = false := by
  simp only [helperInitial, Bool.and_eq_true, decide_eq_true_eq] at h
  have hword : v.flags.word = 1 := h.1.1.2
  have hmask : v.flags.word &&& 4 = 0 := by
    rw [hword]
    decide
  exact (v.flags.word_and_eq_zero _).mp hmask 2 (by decide) (by decide)

end RecoveryValue

end RS2ServerFix.LeechRecovery
