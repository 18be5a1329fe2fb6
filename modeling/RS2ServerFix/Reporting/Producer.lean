import RS2ServerFix.Reporting.State

namespace RS2ServerFix.Reporting

def Int64Range (v : Int) : Prop := int64Min ≤ v ∧ v ≤ int64Max

inductive ProducerCall
  | setEpoch (source binding : Nat)
  | invalidate
  | canStage (now : Int)
  | recordStaged (stagedQpc : Int) (bots maximum : Nat) (readBack : ProducerSample) (readBackValid : Bool)
  | observe (sample : ProducerSample)
  | readFresh (now : Int) (currentOuter : NativeCounts) (gameBots : Nat)
  deriving DecidableEq, Repr

def ProducerCall.Typed : ProducerCall → Prop
  | .setEpoch _ _ | .invalidate => True
  | .canStage now | .readFresh now _ _ => Int64Range now
  | .recordStaged stagedQpc _ _ readBack _ => Int64Range stagedQpc ∧ Int64Range readBack.qpc
  | .observe sample => Int64Range sample.qpc

/-- The call on a state: `none` is a signed overflow in one of its expressions. -/
def ProducerCall.run (s : ProducerState) : ProducerCall → Option (ProducerState × Reason × FreshTuple)
  | .setEpoch source binding =>
      let r := setProducerEpoch s source binding
      some (r.1, r.2, .empty)
  | .invalidate => some (invalidateProducer s, .none, .empty)
  | .canStage now => (canStageRequest s now).map (fun r => (r.1, r.2, .empty))
  | .recordStaged stagedQpc bots maximum readBack valid =>
      (recordStagedRequest s stagedQpc bots maximum readBack valid).map (fun r => (r.1, r.2, .empty))
  | .observe sample => (observeProducer s sample).map (fun r => (r.1, r.2, .empty))
  | .readFresh now outer bots => readFreshTuple s now outer bots

/-- Every clock the state keeps was accepted by `clock`, and no later one is
below it. -/
structure ProducerState.Bounded (s : ProducerState) : Prop where
  frequency : s.fault = .none → 0 < s.frequency ∧ s.frequency ≤ int64Max / kFreshnessSeconds
  faultClear : s.fault ≠ .none → s.pending.active = false ∧ s.fresh.valid = false
  clock : s.haveClock = true → 0 ≤ s.lastQpc ∧ s.lastQpc ≤ int64Max
  request : s.haveRequest = true → s.haveClock = true ∧ 0 ≤ s.lastRequestQpc ∧ s.lastRequestQpc ≤ s.lastQpc
  pending : s.pending.active = true → s.haveRequest = true ∧ s.pending.sequence = s.requestSequence ∧
    s.pending.stagedQpc = s.lastRequestQpc
  previous : s.pending.active = true → s.pending.previousSet = true →
    s.pending.stagedQpc ≤ s.pending.previousSetQpc ∧ s.pending.previousSetQpc ≤ s.lastQpc
  fresh : s.fresh.valid = true → s.haveClock = true ∧ 0 ≤ s.fresh.lowerBoundQpc ∧ s.fresh.lowerBoundQpc ≤ s.lastQpc

/-- The claims of a state can only be dropped on the way to another: nothing
is staged, sampled or witnessed. -/
structure ProducerState.Shrinks (s s' : ProducerState) : Prop where
  frequency : s'.frequency = s.frequency
  fault : s'.fault = .none → s.fault = .none
  faultClear : s'.fault = s.fault ∨ s'.pending.active = false ∧ s'.fresh.valid = false
  clock : s'.haveClock = s.haveClock ∧ s'.lastQpc = s.lastQpc ∨
    s'.haveClock = true ∧ 0 ≤ s'.lastQpc ∧ s'.lastQpc ≤ int64Max ∧ (s.haveClock = true → s.lastQpc ≤ s'.lastQpc)
  request : s'.haveRequest = s.haveRequest ∧ s'.lastRequestQpc = s.lastRequestQpc
  requestSequence : s'.requestSequence = s.requestSequence
  witnessSequence : s'.witnessSequence = s.witnessSequence
  pending : s'.pending = s.pending ∨ s'.pending.active = false
  fresh : s'.fresh = s.fresh ∨ s'.fresh.valid = false

namespace ProducerState.Shrinks

variable {s s' t : ProducerState}

theorem refl (s : ProducerState) : Shrinks s s :=
  ⟨rfl, id, .inl rfl, .inl ⟨rfl, rfl⟩, ⟨rfl, rfl⟩, rfl, rfl, .inl rfl, .inl rfl⟩

theorem lastQpc_le (h : Shrinks s s') (hc : s.haveClock = true) : s'.haveClock = true ∧ s.lastQpc ≤ s'.lastQpc := by
  rcases h.clock with ⟨ha, hq⟩ | ⟨ha, _, _, hq⟩
  · exact ⟨ha.trans hc, hq.ge⟩
  · exact ⟨ha, hq hc⟩

theorem trans (h : Shrinks s t) (h' : Shrinks t s') : Shrinks s s' := by
  refine ⟨h'.frequency.trans h.frequency, h.fault ∘ h'.fault, ?_, ?_,
    ⟨h'.request.1.trans h.request.1, h'.request.2.trans h.request.2⟩,
    h'.requestSequence.trans h.requestSequence, h'.witnessSequence.trans h.witnessSequence, ?_, ?_⟩
  · rcases h'.faultClear with hf | hf
    · rcases h.faultClear with hf' | ⟨hp, hv⟩
      · exact .inl (hf.trans hf')
      · refine .inr ⟨?_, ?_⟩
        · rcases h'.pending with hp' | hp'
          · exact hp' ▸ hp
          · exact hp'
        · rcases h'.fresh with hv' | hv'
          · exact hv' ▸ hv
          · exact hv'
    · exact .inr hf
  · rcases h'.clock with ⟨ha, hq⟩ | ⟨ha, hl, hu, hq⟩
    · rw [ha, hq]; exact h.clock
    · exact .inr ⟨ha, hl, hu, fun hc => (h.lastQpc_le hc).2.trans (hq (h.lastQpc_le hc).1)⟩
  · rcases h'.pending with hp | hp
    · rw [hp]; exact h.pending
    · exact .inr hp
  · rcases h'.fresh with hp | hp
    · rw [hp]; exact h.fresh
    · exact .inr hp

theorem bounded (h : Shrinks s s') (hs : s.Bounded) : s'.Bounded := by
  refine ⟨fun hf => h.frequency ▸ hs.frequency (h.fault hf), ?_, ?_, ?_, ?_, ?_, ?_⟩
  · intro hf
    rcases h.faultClear with he | he
    · obtain ⟨hp, hv⟩ := hs.faultClear (he ▸ hf)
      refine ⟨?_, ?_⟩
      · rcases h.pending with hp' | hp'
        · exact hp' ▸ hp
        · exact hp'
      · rcases h.fresh with hv' | hv'
        · exact hv' ▸ hv
        · exact hv'
    · exact he
  · intro hc
    rcases h.clock with ⟨ha, hq⟩ | ⟨_, hl, hu, _⟩
    · rw [hq]; exact hs.clock (ha ▸ hc)
    · exact ⟨hl, hu⟩
  · intro hr
    obtain ⟨hc, hl, hu⟩ := hs.request (h.request.1 ▸ hr)
    exact ⟨(h.lastQpc_le hc).1, h.request.2 ▸ hl, h.request.2 ▸ hu.trans (h.lastQpc_le hc).2⟩
  · intro ha
    rcases h.pending with hp | hp
    · rw [hp] at ha ⊢
      rw [h.request.1, h.request.2, h.requestSequence]
      exact hs.pending ha
    · exact absurd ha (by simp [hp])
  · intro ha hset
    rcases h.pending with hp | hp
    · rw [hp] at ha hset ⊢
      have hc := (hs.request (hs.pending ha).1).1
      exact ⟨(hs.previous ha hset).1, (hs.previous ha hset).2.trans (h.lastQpc_le hc).2⟩
    · exact absurd ha (by simp [hp])
  · intro hv
    rcases h.fresh with hp | hp
    · rw [hp] at hv ⊢
      obtain ⟨hc, hl, hu⟩ := hs.fresh hv
      exact ⟨(h.lastQpc_le hc).1, hl, hu.trans (h.lastQpc_le hc).2⟩
    · exact absurd hv (by simp [hp])

theorem faulted (s : ProducerState) (reason : Reason) : Shrinks s (s.faulted reason) := by
  refine ⟨rfl, ?_, .inr ⟨rfl, rfl⟩, .inl ⟨rfl, rfl⟩, ⟨rfl, rfl⟩, rfl, rfl, .inr rfl, .inr rfl⟩
  intro h
  by_cases hf : s.fault = .none
  · exact hf
  · simp [ProducerState.faulted, hf] at h

theorem invalidate (s : ProducerState) : Shrinks s (invalidateProducer s) :=
  ⟨rfl, id, .inl rfl, .inl ⟨rfl, rfl⟩, ⟨rfl, rfl⟩, rfl, rfl, .inr rfl, .inr rfl⟩

theorem dropPending (s : ProducerState) : Shrinks s { s with pending := .empty } :=
  ⟨rfl, id, .inl rfl, .inl ⟨rfl, rfl⟩, ⟨rfl, rfl⟩, rfl, rfl, .inr rfl, .inl rfl⟩

theorem dropFresh (s : ProducerState) : Shrinks s { s with fresh := .empty } :=
  ⟨rfl, id, .inl rfl, .inl ⟨rfl, rfl⟩, ⟨rfl, rfl⟩, rfl, rfl, .inl rfl, .inr rfl⟩

end ProducerState.Shrinks

def ProducerState.ticked (s : ProducerState) (now : Int) : ProducerState :=
  { s with lastQpc := now, haveClock := true }

structure ProducerState.Ticking (s : ProducerState) (now : Int) : Prop where
  fault : s.fault = .none
  frequency : 0 < s.frequency ∧ s.frequency ≤ int64Max / kFreshnessSeconds
  lower : 0 ≤ now
  upper : now ≤ int64Max
  later : s.haveClock = true → s.lastQpc ≤ now

theorem ProducerState.Ticking.shrinks {s : ProducerState} {now : Int} (h : s.Ticking now) :
    s.Shrinks (s.ticked now) :=
  ⟨rfl, id, .inl rfl, .inr ⟨rfl, h.lower, h.upper, h.later⟩, ⟨rfl, rfl⟩, rfl, rfl, .inl rfl, .inl rfl⟩

theorem faulted_fault (s : ProducerState) {reason : Reason} (hr : reason ≠ .none) :
    (s.faulted reason).fault ≠ .none := by
  by_cases hf : s.fault = .none <;> simp [ProducerState.faulted, hf, hr]

theorem clock_cases {s : ProducerState} (hs : s.Bounded) {now : Int} (hn : Int64Range now) :
    (∃ s' r, s.clock now = (s', r) ∧ r ≠ .none ∧ s.Shrinks s' ∧ s'.pending.active = false) ∨
      s.clock now = (s.ticked now, .none) ∧ s.Ticking now := by
  by_cases hf : s.fault = .none
  · by_cases hc : s.frequency ≤ 0 ∨ now < 0 ∨ (s.haveClock ∧ now < s.lastQpc)
    · exact .inl ⟨_, _, by rw [ProducerState.clock, if_neg (not_not.mpr hf), if_pos hc],
        faulted_fault s (by simp), .faulted s _, rfl⟩
    · refine .inr ⟨by rw [ProducerState.clock, if_neg (not_not.mpr hf), if_neg hc]; rfl, hf, hs.frequency hf, ?_, hn.2, ?_⟩
      · exact not_lt.mp fun h => hc (.inr (.inl h))
      · exact fun hh => not_lt.mp fun h => hc (.inr (.inr ⟨hh, h⟩))
  · exact .inl ⟨s, s.fault, by rw [ProducerState.clock, if_pos hf], hf, .refl s, (hs.faultClear hf).1⟩

theorem int64_age {now from_ : Int} (hn : 0 ≤ now ∧ now ≤ int64Max) (hf : 0 ≤ from_) (hle : from_ ≤ now) :
    int64 (now - from_) = some (now - from_) := by
  refine int64_of_range ?_ (by omega)
  have : int64Min ≤ 0 := by decide
  omega

theorem int64_seconds {frequency n : Int} (hf : 0 < frequency ∧ frequency ≤ int64Max / kFreshnessSeconds)
    (hn : 0 ≤ n ∧ n ≤ kFreshnessSeconds) : int64 (frequency * n) = some (frequency * n) := by
  have hle : frequency * n ≤ int64Max / kFreshnessSeconds * kFreshnessSeconds :=
    mul_le_mul hf.2 hn.2 hn.1 (hf.1.le.trans hf.2)
  have hdiv : int64Max / kFreshnessSeconds * kFreshnessSeconds ≤ int64Max := by decide
  have hmin : int64Min ≤ 0 := by decide
  exact int64_of_range (hmin.trans (mul_nonneg hf.1.le hn.1)) (hle.trans hdiv)

/-- A claim that lasts is younger than the freshness limit. -/
theorem expirePending_ticked {s : ProducerState} (hs : s.Bounded) {now : Int} (h : s.Ticking now) :
    (expirePending (s.ticked now) now = some (s.ticked now) ∧
        (s.pending.active = true → now - s.pending.stagedQpc < s.frequency * kFreshnessSeconds)) ∨
      expirePending (s.ticked now) now = some { s.ticked now with pending := .empty } := by
  unfold expirePending
  by_cases ha : (s.ticked now).pending.active = true
  · obtain ⟨hr, _, hq⟩ := hs.pending ha
    obtain ⟨hc, hl, hu⟩ := hs.request hr
    have hage := int64_age ⟨h.lower, h.upper⟩ (hq ▸ hl) ((hq ▸ hu).trans (h.later hc))
    have hlim := int64_seconds h.frequency (n := kFreshnessSeconds) (by decide)
    rw [if_pos ha]
    change (int64 (now - s.pending.stagedQpc)).bind (fun age =>
      (int64 (s.frequency * kFreshnessSeconds)).bind fun limit =>
        some (if limit ≤ age then { s.ticked now with pending := .empty } else s.ticked now)) = _ ∧ _ ∨
      (int64 (now - s.pending.stagedQpc)).bind (fun age =>
        (int64 (s.frequency * kFreshnessSeconds)).bind fun limit =>
          some (if limit ≤ age then { s.ticked now with pending := .empty } else s.ticked now)) = _
    rw [hage, hlim, Option.bind_some, Option.bind_some]
    by_cases hexp : s.frequency * kFreshnessSeconds ≤ now - s.pending.stagedQpc
    · exact .inr (by rw [if_pos hexp])
    · exact .inl ⟨by rw [if_neg hexp], fun _ => not_le.mp hexp⟩
  · exact .inl ⟨if_neg ha, fun hp => absurd hp ha⟩

/-- What one call does to the claims of a state. -/
inductive ProducerEffect (s : ProducerState) (c : ProducerCall) (s' : ProducerState) : Prop
  | shrinks (h : s.Shrinks s')
      (observed : ∀ sample, c = .observe sample → s.pending.active = true → s'.pending.active = false)
  | staged (stagedQpc bots maximum readBack valid) (u : ProducerState)
      (call : c = .recordStaged stagedQpc bots maximum readBack valid) (before : s.Shrinks u)
      (fault : u.fault = .none) (clear : u.pending.active = false) (at_ : s.Ticking stagedQpc) (clock : u.lastQpc = stagedQpc ∧ u.haveClock = true)
      (epochs : u.sourceEpoch = s.sourceEpoch ∧ u.bindingEpoch = s.bindingEpoch)
      (floor : s.haveRequest = true → s.frequency * kRequestFloorSeconds ≤ stagedQpc - s.lastRequestQpc)
      (after : (stagedState u stagedQpc bots maximum).Shrinks s' ∨
        readBack.requested = true ∧ ∃ v, (stagedState u stagedQpc bots maximum).Shrinks v ∧
          v.pending = (stagedState u stagedQpc bots maximum).pending ∧
          v.lastQpc = readBack.qpc ∧ v.haveClock = true ∧ s' = sampleSet v readBack)
  | sampled (sample) (call : c = .observe sample) (active : s.pending.active = true)
      (requested : sample.requested = true) (at_ : s.Ticking sample.qpc)
      (result : s' = sampleSet (s.ticked sample.qpc) sample)
  | witnessed (sample) (call : c = .observe sample) (active : s.pending.active = true)
      (set : s.pending.previousSet = true) (clear : sample.requested = false) (at_ : s.Ticking sample.qpc)
      (epochs : s.pending.sourceEpoch = s.sourceEpoch ∧ s.pending.bindingEpoch = s.bindingEpoch)
      (unexpired : sample.qpc - s.pending.stagedQpc < s.frequency * kFreshnessSeconds)
      (result : s' = { s.ticked sample.qpc with
        pending := .empty
        witnessSequence := s.witnessSequence + 1
        fresh := ⟨sample.outer, s.witnessSequence + 1, s.pending.sequence, s.sourceEpoch, s.bindingEpoch,
          s.pending.previousSetQpc, true⟩ })

theorem requestEarly_some {s : ProducerState} {now : Int} (hn : 0 ≤ now ∧ now ≤ int64Max)
    (hfreq : 0 < s.frequency ∧ s.frequency ≤ int64Max / kFreshnessSeconds)
    (hreq : s.haveRequest = true → 0 ≤ s.lastRequestQpc ∧ s.lastRequestQpc ≤ now) :
    ∃ early, requestEarly s now = some early ∧ (early = false → s.haveRequest = true →
      s.frequency * kRequestFloorSeconds ≤ now - s.lastRequestQpc) := by
  unfold requestEarly
  by_cases hr : s.haveRequest = true
  · refine ⟨decide (now - s.lastRequestQpc < s.frequency * kRequestFloorSeconds), ?_, ?_⟩
    · rw [if_pos hr, int64_age hn (hreq hr).1 (hreq hr).2,
        int64_seconds hfreq (n := kRequestFloorSeconds) (by decide)]
      rfl
    · intro h _
      simpa using h
  · exact ⟨false, if_neg hr, fun _ h => absurd h hr⟩

theorem stageFloor_cases {s : ProducerState} {now : Int} (hn : 0 ≤ now ∧ now ≤ int64Max)
    (hfreq : 0 < s.frequency ∧ s.frequency ≤ int64Max / kFreshnessSeconds)
    (hreq : s.haveRequest = true → 0 ≤ s.lastRequestQpc ∧ s.lastRequestQpc ≤ now) :
    ∃ s' r, stageFloor s now = some (s', r) ∧ s.Shrinks s' ∧
      (r = .none → s' = s ∧ s.pending.active = false ∧
        (s.haveRequest = true → s.frequency * kRequestFloorSeconds ≤ now - s.lastRequestQpc)) := by
  unfold stageFloor
  by_cases ha : s.pending.active = true
  · exact ⟨s, .pending, if_pos ha, .refl s, by simp⟩
  · obtain ⟨early, he, hfloor⟩ := requestEarly_some hn hfreq hreq
    rw [if_neg ha, he, Option.bind_eq_bind, Option.bind_some]
    cases early with
    | true => exact ⟨s, .requestFloor, rfl, .refl s, by simp⟩
    | false =>
        by_cases hmax : s.requestSequence = uint64Max
        · exact ⟨_, _, by rw [if_neg (by simp), if_pos hmax]; rfl, .faulted s _,
            fun h => absurd h (faulted_fault s (by simp))⟩
        · exact ⟨s, .none, by rw [if_neg (by simp), if_neg hmax]; rfl, .refl s,
            fun _ => ⟨rfl, by simpa using ha, hfloor rfl⟩⟩

/-- Admission never stages: it either passes or only drops claims. -/
theorem canStageRequest_cases {s : ProducerState} (hs : s.Bounded) {now : Int} (hn : Int64Range now) :
    ∃ u r, canStageRequest s now = some (u, r) ∧ s.Shrinks u ∧
      (r = .none → s.Ticking now ∧ u.fault = .none ∧ u.pending.active = false ∧ u.lastQpc = now ∧
        u.haveClock = true ∧ u.sourceEpoch = s.sourceEpoch ∧ u.bindingEpoch = s.bindingEpoch ∧
        (s.haveRequest = true → s.frequency * kRequestFloorSeconds ≤ now - s.lastRequestQpc)) := by
  unfold canStageRequest
  rcases clock_cases hs hn with ⟨u, r, hc, hr, hu, _⟩ | ⟨hc, ht⟩
  · rw [hc]
    cases r with
    | none => exact absurd rfl hr
    | _ => exact ⟨u, _, rfl, hu, by simp⟩
  · rw [hc]
    dsimp only
    by_cases hm : (s.ticked now).mode ≠ .repair
    · exact ⟨_, _, if_pos hm, ht.shrinks, by simp⟩
    · rw [if_neg hm]
      split
      · exact ⟨_, _, rfl, ht.shrinks, by simp⟩
      · have hreq : s.haveRequest = true → 0 ≤ s.lastRequestQpc ∧ s.lastRequestQpc ≤ now := fun h =>
          ⟨(hs.request h).2.1, (hs.request h).2.2.trans (ht.later (hs.request h).1)⟩
        rcases expirePending_ticked hs ht with ⟨he, -⟩ | he
        · obtain ⟨u, r, hst, hu, hnone⟩ := stageFloor_cases (s := s.ticked now) ⟨ht.lower, ht.upper⟩ ht.frequency hreq
          refine ⟨u, r, by rw [he]; exact hst, ht.shrinks.trans hu, fun h => ?_⟩
          obtain ⟨rfl, hp, hf⟩ := hnone h
          exact ⟨ht, ht.fault, hp, rfl, rfl, rfl, rfl, hf⟩
        · obtain ⟨u, r, hst, hu, hnone⟩ :=
            stageFloor_cases (s := { s.ticked now with pending := .empty }) ⟨ht.lower, ht.upper⟩ ht.frequency hreq
          refine ⟨u, r, by rw [he]; exact hst, (ht.shrinks.trans (.dropPending _)).trans hu, fun h => ?_⟩
          obtain ⟨rfl, hp, hf⟩ := hnone h
          exact ⟨ht, ht.fault, hp, rfl, rfl, rfl, rfl, hf⟩

theorem stagedState_bounded {s u : ProducerState} (hu : u.Bounded) {q : Int} (h : s.Ticking q)
    (hf : u.fault = .none) (hc : u.lastQpc = q ∧ u.haveClock = true) (bots maximum : Nat) :
    (stagedState u q bots maximum).Bounded := by
  refine ⟨hu.frequency, fun h' => absurd hf h', hu.clock, ?_, ?_, ?_, hu.fresh⟩
  · exact fun _ => ⟨hc.2, h.lower, hc.1.ge⟩
  · exact fun _ => ⟨rfl, rfl, rfl⟩
  · exact fun _ hset => absurd hset (by simp [stagedState])

theorem readBackStaged_cases {s : ProducerState} (hs : s.Bounded) {readBack : ProducerSample}
    (hn : Int64Range readBack.qpc) (valid : Bool) :
    ∃ s' r, readBackStaged s readBack valid = some (s', r) ∧
      (s.Shrinks s' ∨ readBack.requested = true ∧ ∃ v, s.Shrinks v ∧ v.pending = s.pending ∧
        v.lastQpc = readBack.qpc ∧ v.haveClock = true ∧ s' = sampleSet v readBack) := by
  unfold readBackStaged
  rcases clock_cases hs hn with ⟨u, r, hc, hr, hu, _⟩ | ⟨hc, ht⟩
  · rw [hc]
    cases r with
    | none => exact absurd rfl hr
    | _ => exact ⟨u, _, rfl, .inl hu⟩
  · rw [hc]
    dsimp only
    rcases expirePending_ticked hs ht with ⟨he, -⟩ | he
    · rw [he, Option.bind_eq_bind, Option.bind_some]
      split
      · exact ⟨_, _, rfl, .inl ht.shrinks⟩
      · split
        · exact ⟨_, _, rfl, .inl ht.shrinks⟩
        · rename_i hreq
          simp only [not_or, Bool.not_eq_true, Bool.not_eq_false'] at hreq
          exact ⟨_, _, rfl, .inr ⟨hreq.2.1, _, ht.shrinks, rfl, rfl, rfl, rfl⟩⟩
    · rw [he, Option.bind_eq_bind, Option.bind_some]
      exact ⟨_, _, by rw [if_pos (by rfl)]; rfl, .inl (ht.shrinks.trans (.dropPending _))⟩

theorem recordStaged_effect {s : ProducerState} (hs : s.Bounded) {q : Int} {readBack : ProducerSample}
    (hq : Int64Range q) (hn : Int64Range readBack.qpc) (bots maximum : Nat) (valid : Bool) :
    ∃ s' r, recordStagedRequest s q bots maximum readBack valid = some (s', r) ∧
      ProducerEffect s (.recordStaged q bots maximum readBack valid) s' := by
  obtain ⟨u, r, hcan, hu, hnone⟩ := canStageRequest_cases hs hq
  unfold recordStagedRequest
  rw [hcan, Option.bind_eq_bind, Option.bind_some]
  cases r with
  | none =>
      obtain ⟨ht, hfault, hp, hl, hc, hsrc, hbind, hfloor⟩ := hnone rfl
      dsimp only
      by_cases hcounts : 255 < maximum ∨ maximum < bots
      · exact ⟨_, _, if_pos hcounts, .shrinks (hu.trans (.faulted u _)) (by simp)⟩
      · rw [if_neg hcounts]
        obtain ⟨s', r, hr, ha⟩ := readBackStaged_cases
          (stagedState_bounded (hu.bounded hs) ht hfault ⟨hl, hc⟩ bots maximum) hn valid
        exact ⟨s', r, hr, .staged q bots maximum readBack valid u rfl hu hfault hp ht ⟨hl, hc⟩ ⟨hsrc, hbind⟩ hfloor ha⟩
  | _ => exact ⟨u, _, rfl, .shrinks hu (by simp)⟩

theorem observe_effect {s : ProducerState} (hs : s.Bounded) {sample : ProducerSample}
    (hn : Int64Range sample.qpc) :
    ∃ s' r, observeProducer s sample = some (s', r) ∧ ProducerEffect s (.observe sample) s' ∧
      (r ≠ .none → r ≠ .pending → s.pending.active = true →
        s'.pending.active = false ∧ s'.witnessSequence = s.witnessSequence) := by
  unfold observeProducer
  rcases clock_cases hs hn with ⟨u, r, hc, hr, hu, hp⟩ | ⟨hc, ht⟩
  · rw [hc]
    cases r with
    | none => exact absurd rfl hr
    | _ => exact ⟨u, _, rfl, .shrinks hu fun _ _ _ => hp, fun _ _ _ => ⟨hp, hu.witnessSequence⟩⟩
  · rw [hc]
    dsimp only
    rcases expirePending_ticked hs ht with ⟨he, hyoung⟩ | he
    · rw [he, Option.bind_eq_bind, Option.bind_some]
      by_cases ha : s.pending.active = true
      · rw [if_neg (by simpa [ProducerState.ticked] using ha)]
        refine ⟨(observePending (s.ticked sample.qpc) sample).1, (observePending (s.ticked sample.qpc) sample).2,
          rfl, ?_⟩
        unfold observePending
        by_cases hep : (s.ticked sample.qpc).pending.sourceEpoch ≠ (s.ticked sample.qpc).sourceEpoch ∨
            (s.ticked sample.qpc).pending.bindingEpoch ≠ (s.ticked sample.qpc).bindingEpoch
        · rw [if_pos hep]
          exact ⟨.shrinks (ht.shrinks.trans (.invalidate _)) fun _ _ _ => rfl, fun _ _ _ => ⟨rfl, rfl⟩⟩
        · rw [if_neg hep]
          by_cases htimer : (!timer sample.timer) = true
          · rw [if_pos htimer]
            exact ⟨.shrinks (ht.shrinks.trans (.invalidate _)) fun _ _ _ => rfl, fun _ _ _ => ⟨rfl, rfl⟩⟩
          · rw [if_neg htimer]
            by_cases hreq : sample.requested = true
            · rw [if_pos hreq]
              exact ⟨.sampled sample rfl ha hreq ht rfl, fun _ h => absurd rfl h⟩
            · rw [if_neg hreq]
              unfold retirePending
              dsimp only
              split
              · exact ⟨.shrinks ((ht.shrinks.trans (.dropPending _)).trans (.dropFresh _)) fun _ _ _ => rfl,
                  fun _ _ _ => ⟨rfl, rfl⟩⟩
              · rename_i hcons
                split
                · exact ⟨.shrinks (((ht.shrinks.trans (.dropPending _)).trans (.dropFresh _)).trans (.faulted _ _))
                    fun _ _ _ => rfl, fun _ _ _ => ⟨rfl, rfl⟩⟩
                · have hset : s.pending.previousSet = true := by
                    simp only [consumed, Bool.not_eq_true', Bool.not_eq_false, Bool.and_eq_true] at hcons
                    exact hcons.1.1.1.1.1.1
                  simp only [ne_eq, not_or, not_not] at hep
                  exact ⟨.witnessed sample rfl ha hset (by simpa using hreq) ht hep (hyoung ha) rfl, fun h => absurd rfl h⟩
      · rw [if_pos (by simpa [ProducerState.ticked] using ha)]
        exact ⟨_, _, rfl, .shrinks ht.shrinks fun _ _ h => absurd h ha, fun _ _ h => absurd h ha⟩
    · rw [he, Option.bind_eq_bind, Option.bind_some]
      exact ⟨_, _, by rw [if_pos (by rfl)]; rfl, .shrinks (ht.shrinks.trans (.dropPending _)) fun _ _ _ => rfl,
        fun _ _ _ => ⟨rfl, rfl⟩⟩

structure ReturnsFresh (s : ProducerState) (now : Int) (outer : NativeCounts) (bots : Nat) (t : FreshTuple) : Prop where
  tuple : t = s.fresh
  valid : s.fresh.valid = true
  epochs : t.sourceEpoch = s.sourceEpoch ∧ t.bindingEpoch = s.bindingEpoch
  age : now - t.lowerBoundQpc ≤ s.frequency * kFreshnessSeconds
  counts : outer = t.counts ∧ bots = t.counts.bots

theorem readFresh_cases {s : ProducerState} (hs : s.Bounded) {now : Int} (hn : Int64Range now)
    (outer : NativeCounts) (bots : Nat) :
    ∃ s' r t, readFreshTuple s now outer bots = some (s', r, t) ∧ s.Shrinks s' ∧
      (r = .none → ReturnsFresh s now outer bots t) := by
  unfold readFreshTuple
  rcases clock_cases hs hn with ⟨u, r, hc, hr, hu, _⟩ | ⟨hc, ht⟩
  · rw [hc]
    cases r with
    | none => exact absurd rfl hr
    | _ => exact ⟨u, _, _, rfl, hu, by simp⟩
  · rw [hc]
    dsimp only
    split
    · exact ⟨_, _, _, rfl, ht.shrinks, by simp⟩
    · rename_i hvalid
      split
      · exact ⟨_, _, _, rfl, ht.shrinks.trans (.invalidate _), by simp⟩
      · rename_i hep
        simp only [ne_eq, not_or, not_not, Bool.not_eq_true, Bool.not_eq_false'] at hvalid hep
        have hv : s.fresh.valid = true := hvalid.2
        obtain ⟨hclk, hl, hu⟩ := hs.fresh hv
        change ∃ s' r t, (int64 (now - s.fresh.lowerBoundQpc)).bind _ = some (s', r, t) ∧ _
        rw [int64_age ⟨ht.lower, ht.upper⟩ hl (hu.trans (ht.later hclk)), Option.bind_some]
        change ∃ s' r t, (int64 (s.frequency * kFreshnessSeconds)).bind _ = some (s', r, t) ∧ _
        rw [int64_seconds ht.frequency (n := kFreshnessSeconds) (by decide), Option.bind_some]
        split
        · exact ⟨_, _, _, rfl, ht.shrinks.trans (.dropFresh _), by simp⟩
        · rename_i hage
          split
          · exact ⟨_, _, _, rfl, ht.shrinks, by simp⟩
          · rename_i hcounts
            simp only [not_or, not_not, ne_eq] at hcounts
            exact ⟨_, _, _, rfl, ht.shrinks, fun _ => ⟨rfl, hv, hep, not_lt.mp hage, hcounts.2⟩⟩

theorem setProducerEpoch_shrinks (s : ProducerState) (source binding : Nat) :
    s.Shrinks (setProducerEpoch s source binding).1 := by
  unfold setProducerEpoch
  split
  · exact .refl s
  · split
    · exact .invalidate s
    · split
      · exact .faulted s _
      · have h : ∀ u : ProducerState, s.Shrinks u →
            s.Shrinks { u with sourceEpoch := source, bindingEpoch := binding, epochReady := true } :=
          fun u hu => hu.trans ⟨rfl, id, .inl rfl, .inl ⟨rfl, rfl⟩, ⟨rfl, rfl⟩, rfl, rfl, .inl rfl, .inl rfl⟩
        dsimp only
        split
        · exact h _ (.invalidate s)
        · exact h _ (.refl s)

/-- No call on a bounded state overflows, and each has one of the four effects. -/
theorem ProducerCall.run_effect {s : ProducerState} (hs : s.Bounded) {c : ProducerCall} (hc : c.Typed) :
    ∃ s' r t, c.run s = some (s', r, t) ∧ ProducerEffect s c s' ∧
      (∀ now outer bots, c = .readFresh now outer bots → r = .none → ReturnsFresh s now outer bots t) ∧
      (∀ sample, c = .observe sample → r ≠ .none → r ≠ .pending → s.pending.active = true →
        s'.pending.active = false ∧ s'.witnessSequence = s.witnessSequence) := by
  cases c with
  | setEpoch source binding =>
      exact ⟨_, _, _, rfl, .shrinks (setProducerEpoch_shrinks s source binding) (by simp), by simp, by simp⟩
  | invalidate => exact ⟨_, _, _, rfl, .shrinks (.invalidate s) (by simp), by simp, by simp⟩
  | canStage now =>
      obtain ⟨u, r, h, hu, _⟩ := canStageRequest_cases hs hc
      exact ⟨u, r, .empty, by simp [ProducerCall.run, h], .shrinks hu (by simp), by simp, by simp⟩
  | recordStaged q bots maximum readBack valid =>
      obtain ⟨u, r, h, he⟩ := recordStaged_effect hs hc.1 hc.2 bots maximum valid
      exact ⟨u, r, .empty, by simp [ProducerCall.run, h], he, by simp, by simp⟩
  | observe sample =>
      obtain ⟨u, r, h, he, hdrop⟩ := observe_effect hs hc
      refine ⟨u, r, .empty, by simp [ProducerCall.run, h], he, by simp, ?_⟩
      rintro _ ⟨⟩
      exact hdrop
  | readFresh now outer bots =>
      obtain ⟨u, r, t, h, hu, hret⟩ := readFresh_cases hs hc outer bots
      refine ⟨u, r, t, h, .shrinks hu (by simp), ?_, by simp⟩
      rintro _ _ _ ⟨⟩ hr
      exact hret hr

theorem sampleSet_bounded {v : ProducerState} (hv : v.Bounded) {sample : ProducerSample}
    (hq : v.lastQpc = sample.qpc) (hp : v.pending.active = true → v.pending.stagedQpc ≤ sample.qpc) :
    (sampleSet v sample).Bounded :=
  ⟨hv.frequency, hv.faultClear, hv.clock, hv.request, hv.pending,
    fun ha _ => ⟨hp ha, hq.ge⟩, hv.fresh⟩

theorem ProducerEffect.bounded {s s' : ProducerState} {c : ProducerCall} (h : ProducerEffect s c s')
    (hs : s.Bounded) : s'.Bounded := by
  cases h with
  | shrinks h => exact h.bounded hs
  | staged q bots maximum readBack valid u call before hfault clear at_ clock epochs floor after =>
      have hst := stagedState_bounded (before.bounded hs) at_ hfault clock bots maximum
      rcases after with h | ⟨_, v, hv, hp, hq, hc, rfl⟩
      · exact h.bounded hst
      · refine sampleSet_bounded (hv.bounded hst) hq fun _ => ?_
        have hle := (hv.lastQpc_le clock.2).2
        rw [hp, ← hq]
        exact clock.1.symm.le.trans hle
  | sampled sample call active requested at_ result =>
      subst result
      refine sampleSet_bounded (at_.shrinks.bounded hs) rfl fun _ => ?_
      obtain ⟨hr, _, hq⟩ := hs.pending active
      obtain ⟨hc, _, hu⟩ := hs.request hr
      exact (hq.le.trans hu).trans (at_.later hc)
  | witnessed sample call active set clear at_ epochs unexpired result =>
      subst result
      have ht := at_.shrinks.bounded hs
      refine ⟨ht.frequency, fun hf => absurd at_.fault hf, ht.clock, ht.request, by simp [PendingRequest.empty],
        by simp [PendingRequest.empty], fun _ => ⟨rfl, ?_, ?_⟩⟩
      · obtain ⟨hr, _, hq⟩ := hs.pending active
        exact ((hs.request hr).2.1.trans hq.ge).trans (hs.previous active set).1
      · obtain ⟨hr, _, hq⟩ := hs.pending active
        exact (hs.previous active set).2.trans (at_.later (hs.request hr).1)

theorem initializeProducer_bounded (mode : Mode) (frequency : Int) :
    (initializeProducer mode frequency).1.Bounded := by
  have hb : ∀ s : ProducerState, (s.fault = .none → 0 < s.frequency ∧ s.frequency ≤ int64Max / kFreshnessSeconds) →
      s.haveClock = false → s.haveRequest = false → s.pending = .empty → s.fresh = .empty → s.Bounded := by
    intro s hf hc hr hp hv
    exact ⟨hf, fun _ => by simp [hp, hv, PendingRequest.empty, FreshTuple.empty], by simp [hc], by simp [hr],
      by simp [hp, PendingRequest.empty], by simp [hp, PendingRequest.empty], by simp [hv, FreshTuple.empty]⟩
  unfold initializeProducer
  dsimp only
  split
  · exact hb _ (fun h => absurd h (faulted_fault _ (by simp))) rfl rfl rfl rfl
  · rename_i hfreq
    simp only [not_or, not_le, not_lt] at hfreq
    split
    · exact hb _ (fun h => absurd h (faulted_fault _ (by simp))) rfl rfl rfl rfl
    · exact hb _ (fun _ => hfreq) rfl rfl rfl rfl

end RS2ServerFix.Reporting
