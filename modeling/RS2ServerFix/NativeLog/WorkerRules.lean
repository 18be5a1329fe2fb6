import RS2ServerFix.NativeLog.ChunkInvariance
import RS2ServerFix.NativeLog.ReceiptLines
import RS2ServerFix.NativeLog.Worker

namespace RS2ServerFix.NativeLog

open Reporting Lib

variable {κ : Type} {ops : NativeHashOps κ}

/-- The worker's side of the world, which nobody else writes. -/
structure Untouched (w w' : WorkerWorld κ) : Prop where
  worker : w'.worker = w.worker
  start : w'.start = w.start
  published : w'.published = w.published ∧ w'.workerSequence = w.workerSequence
  log : w.around.log <+: w'.around.log
  owner : w.native.published <+: w'.native.published
  receipts : w'.pipeline.observedSequence = w.pipeline.observedSequence ∧
    w'.pipeline.preparedSequence = w.pipeline.preparedSequence

def recordLossBit (s : StatusWords) : UInt64 := s.lossReasons &&& reasonMask .recordLoss

/-- A change of the status that is no transport fault and no loss of a record. -/
def Mild (s s' : StatusWords) : Prop :=
  s'.fatalTransportReason = s.fatalTransportReason ∧ recordLossBit s' = recordLossBit s

theorem mild_revoke (s : StatusWords) (reason : Reason) : Mild s (revokeStatus s reason) := ⟨rfl, rfl⟩

theorem mild_pauseReason (s : StatusWords) (n : Nat) : Mild s { s with workerPauseReason := n } := ⟨rfl, rfl⟩

theorem or_and (a b c : UInt64) : (a ||| b) &&& c = a &&& c ||| b &&& c := by
  apply UInt64.toBitVec_inj.mp
  ext i
  simp [Bool.and_or_distrib_right]

theorem mild_counterOverflow (s : StatusWords) : Mild s (loseStatus s .counterOverflow) := by
  refine ⟨rfl, ?_⟩
  have hmask : reasonMask .counterOverflow &&& reasonMask .recordLoss = 0 := by decide
  simp only [recordLossBit, loseStatus, revokeStatus, or_and, hmask, UInt64.or_zero]

def Pending (bytes : List UInt8) (w : WorkerWorld κ) : Prop :=
  bytes <+: w.around.log.drop (w.worker.scanner.offset - w.start)

theorem pending_nil (w : WorkerWorld κ) : Pending [] w := List.nil_prefix

theorem Pending.same {bytes : List UInt8} {w w' : WorkerWorld κ} (h : Pending bytes w)
    (hoffset : w'.worker.scanner.offset = w.worker.scanner.offset) (hstart : w'.start = w.start)
    (hlog : w.around.log <+: w'.around.log) : Pending bytes w' := by
  obtain ⟨more, hmore⟩ := hlog
  unfold Pending at h ⊢
  rw [hoffset, hstart, ← hmore, List.drop_append]
  exact h.trans (List.prefix_append _ _)

/-- What the disposition of a call says about where it ended. -/
theorem scanReceiptChunk_outcome {σ : Type} (match_ : ReceiptMatchOps σ) (s : ReceiptScanner) (m : σ)
    (bytes : List UInt8) {s' : ReceiptScanner} {m' : σ} {r : ReceiptScanResult}
    (h : scanReceiptChunk match_ s m bytes = (s', m', r)) :
    (r.disposition = .gap ∨ r.disposition = .corrupt → s'.failed = true) ∧
      (r.disposition = .ignored ∨ r.disposition = .accepted → r.consumed = bytes.length) := by
  by_cases hlive : s.Live
  · cases scanReceiptChunk_end match_ [] bytes m hlive h with
    | through hd hn _ _ => exact ⟨fun hbad => by rcases hd with hd | hd <;> simp [hd] at hbad, fun _ => hn⟩
    | parked hd _ _ => exact ⟨fun hbad => by simp [hd] at hbad, fun hgood => by simp [hd] at hgood⟩
    | faulted hd hf _ => exact ⟨fun _ => hf, fun hgood => by rcases hd with hd | hd <;> simp [hd] at hgood⟩
  · rw [scanReceiptChunk] at h
    split at h
    · rename_i hfailed
      cases h
      exact ⟨fun _ => hfailed, fun hgood => by simp at hgood⟩
    · rename_i hfailed
      split at h
      · cases h
        exact ⟨fun hbad => by simp at hbad, fun hgood => by simp at hgood⟩
      · rename_i hawaiting
        split at h
        · cases h
          exact ⟨fun _ => rfl, fun hgood => by simp at hgood⟩
        · rename_i hcarried
          exact absurd ⟨by simpa using hfailed, by simpa using hawaiting, not_lt.mp hcarried⟩ hlive

/-- A result of the reading loop that closes the status has its cause. -/
def Caused (Faults : TransportReason → Prop) (reason : TransportReason) (w : WorkerWorld κ) : Prop :=
  TransportReason.receiptGap.value ≤ reason.value → Faults reason ∨ w.worker.scanner.failed = true

def Shown (input : WorkerTransport) (w : WorkerWorld κ) : Prop :=
  input.observedSequence = w.pipeline.observedSequence ∧ input.preparedSequence = w.pipeline.preparedSequence

/-- The copy of the owner's blocks is a published one and no older than what
the worker observed. -/
def Covered (owner : OwnerSnapshotV3) (w : WorkerWorld κ) : Prop :=
  owner ∈ w.native.published ∧ w.pipeline.observedSequence ≤ owner.submittedSequence

theorem Covered.later {owner : OwnerSnapshotV3} {w w' : WorkerWorld κ} (h : Covered owner w) (hu : Untouched w w') :
    Covered owner w' :=
  ⟨hu.owner.subset h.1, hu.receipts.1.trans_le h.2⟩

/-- What every single step of the worker has to keep for a whole cycle to keep
it, whatever the others do between the steps. -/
structure CycleRules (ops : NativeHashOps κ) (others guarantee : WorkerWorld κ → WorkerWorld κ → Prop)
    (Faults : TransportReason → Prop) (I : WorkerWorld κ → Prop) : Prop where
  stable : Stable others I
  untouched : ∀ w w', I w → others w w' → Untouched w w'
  cursor : ∀ w, I w → w.start ≤ w.worker.scanner.offset
  initialized : ∀ w, I w → w.pipeline.initialized = true
  covered : ∀ w o, I w → w.native.published.getLast? = some o → Covered o w
  quiet : ∀ w, I w → w.worker.counters.pauseReason.value < TransportReason.receiptGap.value
  faults : ∀ w, I w → Faults w.around.readFault ∨ w.around.readFault.value < TransportReason.receiptGap.value
  change : ∀ w v status, I w → v.scanner = w.worker.scanner →
    v.counters.pauseReason.value < TransportReason.receiptGap.value → Mild w.channel.status status →
    guarantee w ((w.setWorker v).setStatus status) ∧ I ((w.setWorker v).setStatus status)
  latch : ∀ w reason, I w → TransportReason.receiptGap.value ≤ reason.value →
    Faults reason ∨ w.worker.scanner.failed = true →
    guarantee w (w.setStatus (latchTransportFault w.channel.status reason).1) ∧
      I (w.setStatus (latchTransportFault w.channel.status reason).1)
  store : ∀ w input owner, I w → Shown input w → Covered owner w →
    guarantee w (storeWorkerStep input owner w).2 ∧ I (storeWorkerStep input owner w).2
  prepare : ∀ w qpc, I w → guarantee w (prepareStep ops qpc w).2 ∧ I (prepareStep ops qpc w).2
  acknowledge : ∀ w owner qpc, I w → owner ∈ w.native.published →
    guarantee w (acknowledgeStep owner qpc w).2 ∧ I (acknowledgeStep owner qpc w).2
  scan : ∀ w bytes, I w → Pending bytes w → guarantee w (scanBytesStep ops bytes w).2 ∧ I (scanBytesStep ops bytes w).2

/-- What a private change of the worker beside its scanner cannot break. -/
structure Beside (others : WorkerWorld κ → WorkerWorld κ → Prop) (I K : WorkerWorld κ → Prop) : Prop where
  stable : Stable others fun w => I w ∧ K w
  worker : ∀ w v, K w → v.scanner = w.worker.scanner → K (w.setWorker v)
  status : ∀ w status, K w → K (w.setStatus status)

namespace CycleRules

variable {K : WorkerWorld κ → Prop} {others guarantee : WorkerWorld κ → WorkerWorld κ → Prop} {Faults : TransportReason → Prop}
  {I : WorkerWorld κ → Prop} {α : Type} {bytes : List UInt8} {reason : TransportReason} {input : WorkerTransport}
  {owner : OwnerSnapshotV3}

theorem worker (R : CycleRules ops others guarantee Faults I) (w : WorkerWorld κ) (v : NativeReceiptWorker) (h : I w)
    (hscan : v.scanner = w.worker.scanner) (hquiet : v.counters.pauseReason.value < TransportReason.receiptGap.value) :
    guarantee w (w.setWorker v) ∧ I (w.setWorker v) :=
  R.change w v w.channel.status h hscan hquiet ⟨rfl, rfl⟩

theorem status (R : CycleRules ops others guarantee Faults I) (w : WorkerWorld κ) (status : StatusWords) (h : I w)
    (hmild : Mild w.channel.status status) : guarantee w (w.setStatus status) ∧ I (w.setStatus status) :=
  R.change w w.worker status h rfl (R.quiet w h) hmild

theorem stay (R : CycleRules ops others guarantee Faults I) (w : WorkerWorld κ) (h : I w) : guarantee w w :=
  (R.worker w w.worker h rfl (R.quiet w h)).1

theorem stable_and (R : CycleRules ops others guarantee Faults I)
    (h : ∀ w w', K w → Untouched w w' → K w') : Stable others fun w => I w ∧ K w :=
  fun w w' hw he => ⟨R.stable w w' hw.1 he, h w w' hw.2 (R.untouched w w' hw.1 he)⟩

theorem stable_pending (R : CycleRules ops others guarantee Faults I) (bytes : List UInt8) :
    Stable others fun w => I w ∧ Pending bytes w :=
  R.stable_and fun _ _ h hu => h.same (by rw [hu.worker]) hu.start hu.log

theorem stable_caused (R : CycleRules ops others guarantee Faults I) (reason : TransportReason) :
    Stable others fun w => I w ∧ Caused Faults reason w := by
  refine R.stable_and fun w w' h hu => ?_
  unfold Caused at h ⊢
  rw [hu.worker]
  exact h

theorem stable_shown (R : CycleRules ops others guarantee Faults I) (input : WorkerTransport) :
    Stable others fun w => I w ∧ Shown input w :=
  R.stable_and fun _ _ h hu => ⟨h.1.trans hu.receipts.1.symm, h.2.trans hu.receipts.2.symm⟩

theorem stable_owner (R : CycleRules ops others guarantee Faults I) (B : Beside others I K)
    (o : Option OwnerSnapshotV3) :
    Stable others fun w => (I w ∧ K w) ∧ ∀ owner, o = some owner → Covered owner w :=
  fun w w' h he => ⟨B.stable w w' h.1 he, fun owner ho => (h.2 owner ho).later (R.untouched w w' h.1.1 he)⟩

theorem read (R : CycleRules ops others guarantee Faults I) {P : WorkerWorld κ → Prop} {Q : α → WorkerWorld κ → Prop}
    {f : WorkerWorld κ → α} (pre : Stable others P) (post : ∀ a, Stable others (Q a)) (hi : ∀ w, P w → I w)
    (h : ∀ w, P w → Q (f w) w) : Triple others guarantee P (.read f) Q :=
  .act pre post fun w hw => ⟨R.stay w (hi w hw), h w hw⟩

theorem beside_pending (R : CycleRules ops others guarantee Faults I) (bytes : List UInt8) :
    Beside others I (Pending bytes) where
  stable := R.stable_pending bytes
  worker _ _ h hscan := h.same (congrArg ReceiptScanner.offset hscan) rfl List.prefix_rfl
  status _ _ h := h

theorem beside_caused (R : CycleRules ops others guarantee Faults I) (reason : TransportReason) :
    Beside others I (Caused Faults reason) where
  stable := R.stable_caused reason
  worker _ _ h hscan hlarge := by
    rcases h hlarge with hfault | hfailed
    · exact .inl hfault
    · exact .inr ((congrArg ReceiptScanner.failed hscan).trans hfailed)
  status _ _ h := h

theorem beside_shown (R : CycleRules ops others guarantee Faults I) (input : WorkerTransport) :
    Beside others I (Shown input) where
  stable := R.stable_shown input
  worker _ _ h _ := h
  status _ _ h := h

theorem beside_true (R : CycleRules ops others guarantee Faults I) : Beside others I fun _ => True where
  stable := R.stable.and fun _ _ _ _ => trivial
  worker _ _ _ _ := trivial
  status _ _ _ := trivial

theorem worker_beside (R : CycleRules ops others guarantee Faults I) (B : Beside others I K) {w : WorkerWorld κ}
    (h : I w ∧ K w) {v : NativeReceiptWorker} (hscan : v.scanner = w.worker.scanner)
    (hquiet : v.counters.pauseReason.value < TransportReason.receiptGap.value) :
    guarantee w (w.setWorker v) ∧ I (w.setWorker v) ∧ K (w.setWorker v) := by
  obtain ⟨hg, hi⟩ := R.worker w v h.1 hscan hquiet
  exact ⟨hg, hi, B.worker w v h.2 hscan⟩

theorem status_beside (R : CycleRules ops others guarantee Faults I) (B : Beside others I K) {w : WorkerWorld κ}
    (h : I w ∧ K w) {status : StatusWords} (hmild : Mild w.channel.status status) :
    guarantee w (w.setStatus status) ∧ I (w.setStatus status) ∧ K (w.setStatus status) := by
  obtain ⟨hg, hi⟩ := R.status w status h.1 hmild
  exact ⟨hg, hi, B.status w status h.2⟩

/-- A sample that fails closes the clock and the status. -/
theorem sampleClock (R : CycleRules ops others guarantee Faults I) (B : Beside others I K) :
    Triple others guarantee (fun w => I w ∧ K w) sampleClock fun _ w => I w ∧ K w := by
  refine .act B.stable (fun _ => B.stable) fun w h => ?_
  obtain ⟨hg, hi⟩ := R.change w { w.worker with clockFailed := true } _ h.1 rfl (R.quiet w h.1)
    (mild_revoke w.channel.status .clockFailed)
  have hk := B.status _ (revokeStatus w.channel.status .clockFailed)
    (B.worker w { w.worker with clockFailed := true } h.2 rfl)
  have hfail := And.intro hg (And.intro hi hk)
  split
  · exact hfail
  · split
    · exact hfail
    · exact R.worker_beside B h rfl (R.quiet w h.1)

theorem addCounter (R : CycleRules ops others guarantee Faults I) (B : Beside others I K)
    {get : WorkerTransport → Nat} {set : WorkerTransport → Nat → WorkerTransport}
    (hset : ∀ c n, (set c n).pauseReason = c.pauseReason) (amount : Nat) :
    Triple others guarantee (fun w => I w ∧ K w) (addCounter get set amount) fun _ w => I w ∧ K w := by
  refine .act B.stable (fun _ => B.stable) fun w h => ?_
  dsimp only
  split
  · exact R.status_beside B h (mild_counterOverflow _)
  · exact R.worker_beside B h rfl (by rw [hset]; exact R.quiet w h.1)

theorem plain {p : WorkerProg κ α}
    (h : Triple others guarantee (fun w => I w ∧ True) p fun _ w => I w ∧ True) :
    Triple others guarantee I p fun _ => I := h.conseq (fun _ h => ⟨h, trivial⟩) fun _ _ h => h.1

theorem setStatus (R : CycleRules ops others guarantee Faults I) {f : StatusWords → StatusWords}
    (hf : ∀ s, Mild s (f s)) : Triple others guarantee I (.modify fun w => w.setStatus (f w.channel.status)) fun _ => I :=
  .act R.stable (fun _ => R.stable) fun w h => R.status w _ h (hf _)

theorem readOwner (R : CycleRules ops others guarantee Faults I) (B : Beside others I K) :
    Triple others guarantee (fun w => I w ∧ K w) readOwner fun o w =>
      (I w ∧ K w) ∧ ∀ owner, o = some owner → Covered owner w := by
  refine R.read B.stable (R.stable_owner B) (fun w h => h.1) fun w h => ⟨h, fun owner ho => ?_⟩
  split at ho
  · cases ho
  · exact R.covered w owner h.1 ho

theorem storeAdverse (R : CycleRules ops others guarantee Faults I) (B : Beside others I K)
    (reason : TransportReason) :
    Triple others guarantee (fun w => I w ∧ K w) (storeAdverse reason) fun _ w => I w ∧ K w := by
  rw [NativeLog.storeAdverse]
  split
  · exact .act B.stable (fun _ => B.stable) fun w h => R.status_beside B h (mild_pauseReason _ _)
  · exact .done B.stable fun _ h => h

theorem storeCoherent (R : CycleRules ops others guarantee Faults I) (input : WorkerTransport) :
    Triple others guarantee (fun w => I w ∧ Shown input w) (storeCoherent input) fun _ => I := by
  have B := R.beside_shown input
  rw [NativeLog.storeCoherent]
  simp only [Prog.bind_def, Prog.pure_def]
  refine Triple.bind (R.readOwner B) fun o => ?_
  cases o with
  | none => exact .done R.stable fun w h => h.1.1
  | some owner =>
      refine Triple.bind (Q := fun _ => I) ?_ fun stored => ?_
      · exact .act (R.stable_owner B (some owner)) (fun _ => R.stable)
          fun w h => R.store w input owner h.1.1 h.1.2 (h.2 owner rfl)
      · split
        · exact R.setStatus (f := fun s => { s with workerPauseReason := TransportReason.none.value })
            fun s => mild_pauseReason s _
        · exact .done R.stable fun _ h => h

theorem publishWorker (R : CycleRules ops others guarantee Faults I) (input : WorkerTransport) :
    Triple others guarantee (fun w => I w ∧ Shown input w) (publishWorker input) fun _ => I := by
  have hshown := R.stable_shown input
  rw [NativeLog.publishWorker]
  simp only [Prog.bind_def]
  split
  · exact .act hshown (fun _ => R.stable) fun w h => R.status w _ h.1 (mild_revoke _ _)
  · exact Triple.bind (R.storeAdverse (R.beside_shown input) input.pauseReason) fun _ => R.storeCoherent input

theorem refreshed_shown (R : CycleRules ops others guarantee Faults I) {w : WorkerWorld κ} (h : I w) :
    Shown (refreshed w) w ∧ (refreshed w).pauseReason = w.worker.counters.pauseReason := by
  rw [refreshed]
  dsimp only
  rw [if_pos (R.initialized w h)]
  exact ⟨⟨rfl, rfl⟩, rfl⟩

theorem publish (R : CycleRules ops others guarantee Faults I) : Triple others guarantee I publish fun _ => I := by
  rw [NativeLog.publish]
  simp only [Prog.bind_def]
  refine Triple.bind (Q := fun input w => I w ∧ Shown input w) ?_ R.publishWorker
  refine .act R.stable R.stable_shown fun w h => ?_
  obtain ⟨hshown, hreason⟩ := R.refreshed_shown h
  obtain ⟨hg, hi⟩ := R.worker w { w.worker with counters := refreshed w } h rfl (by rw [hreason]; exact R.quiet w h)
  exact ⟨hg, hi, hshown⟩

theorem changePause (R : CycleRules ops others guarantee Faults I)
    (hsmall : reason.value < TransportReason.receiptGap.value) (qpc : Nat) :
    Triple others guarantee I (changePause reason qpc) fun _ => I := by
  rw [NativeLog.changePause]
  simp only [Prog.bind_def, Prog.pure_def]
  refine Triple.bind (Q := fun _ => I) ?_ fun added => ?_
  · rw [addPauseCondition]
    refine plain (R.addCounter R.beside_true ?_ 1)
    exact fun _ _ => rfl
  split
  · refine Triple.bind (Q := fun _ => I) ?_ fun _ => R.publish
    exact .act R.stable (fun _ => R.stable) fun w h => R.worker w _ h rfl hsmall
  · exact .done R.stable fun _ h => h

theorem pause (R : CycleRules ops others guarantee Faults I) (reason : TransportReason) (qpc : Nat) :
    Triple others guarantee (fun w => I w ∧ Caused Faults reason w) (pause reason qpc) fun _ => I := by
  have hcaused := R.stable_caused reason
  rw [NativeLog.pause]
  simp only [Prog.bind_def]
  split
  · rename_i hlarge
    refine Triple.bind (Q := fun _ => I) ?_ fun _ => R.publish
    exact .act hcaused (fun _ => R.stable) fun w h => R.latch w reason h.1 hlarge (h.2 hlarge)
  · rename_i hsmall
    refine Triple.bind (Q := fun _ => I) (R.read hcaused (fun _ => R.stable) (fun w h => h.1) fun w h => h.1) fun before => ?_
    split
    · refine Triple.bind (Q := fun _ => I) ?_ fun _ => R.changePause (not_le.mp hsmall) qpc
      exact plain (R.storeAdverse R.beside_true reason)
    · exact R.publish

theorem acknowledgeStep_offset (owner : OwnerSnapshotV3) (qpc : Nat) (w : WorkerWorld κ) :
    (acknowledgeStep owner qpc w).2.worker.scanner.offset = w.worker.scanner.offset ∧
      (acknowledgeStep owner qpc w).2.start = w.start ∧ (acknowledgeStep owner qpc w).2.around = w.around := by
  rw [acknowledgeStep]
  split
  · exact ⟨rfl, rfl, rfl⟩
  · dsimp only
    split
    · exact ⟨rfl, rfl, rfl⟩
    · rename_i scanner hresume
      refine ⟨?_, rfl, rfl⟩
      rw [resumeReceiptScanner] at hresume
      split at hresume
      · cases hresume
      · injection hresume with hscan
        rw [← hscan]
        rfl

theorem ack (R : CycleRules ops others guarantee Faults I) (bytes : List UInt8) (qpc : Nat) :
    Triple others guarantee (fun w => I w ∧ Pending bytes w) (ack qpc) fun _ w => I w ∧ Pending bytes w := by
  have hpending := R.stable_pending bytes
  rw [NativeLog.ack]
  simp only [Prog.bind_def, Prog.pure_def]
  refine Triple.bind (R.read hpending (fun _ => hpending) (fun _ h => h.1) fun _ h => h) fun held => ?_
  split
  · exact .done hpending fun _ h => h
  · refine Triple.bind (R.readOwner (R.beside_pending bytes)) fun o => ?_
    cases o with
    | none => exact .done hpending fun _ h => h.1
    | some owner =>
        refine .act (R.stable_owner (R.beside_pending bytes) (some owner)) (fun _ => hpending) fun w h => ?_
        obtain ⟨hg, hi⟩ := R.acknowledge w owner qpc h.1.1 (h.2 owner rfl).1
        obtain ⟨hoffset, hstart, haround⟩ := acknowledgeStep_offset owner qpc w
        exact ⟨hg, hi, h.1.2.same hoffset hstart (haround ▸ List.prefix_rfl)⟩

theorem ack_plain (R : CycleRules ops others guarantee Faults I) (qpc : Nat) :
    Triple others guarantee I (NativeLog.ack qpc) fun _ => I :=
  (R.ack [] qpc).conseq (fun w h => ⟨h, pending_nil w⟩) fun _ _ h => h.1

theorem frontAgeStep_wait (owner : OwnerSnapshotV3) (now : Nat) (w : WorkerWorld κ) :
    (frontAgeStep owner now w).1.value < TransportReason.receiptGap.value ∧
      ∃ v, (frontAgeStep owner now w).2 = w.setWorker v ∧ v.scanner = w.worker.scanner ∧
        v.counters = w.worker.counters := by
  have hreason (c : Prop) [Decidable c] :
      (if c then TransportReason.receiptOverdue else .none).value < TransportReason.receiptGap.value := by
    split <;> decide
  rw [frontAgeStep]
  dsimp only
  cases frontSubmitted owner (w.pipeline.ledger.get w.pipeline.ledgerRead).sequence with
  | false => exact ⟨hreason False, _, rfl, rfl, rfl⟩
  | true =>
      refine ⟨hreason _, _, rfl, ?_⟩
      split <;> exact ⟨rfl, rfl⟩

theorem frontAge (R : CycleRules ops others guarantee Faults I) (owner : OwnerSnapshotV3) (now : Nat) :
    Triple others guarantee I (frontAge owner now) fun reason w => I w ∧ Caused Faults reason w := by
  refine .act R.stable R.stable_caused fun w h => ?_
  obtain ⟨hsmall, v, hout, hscan, hcounters⟩ := frontAgeStep_wait owner now w
  rw [hout]
  obtain ⟨hg, hi⟩ := R.worker w v h hscan (by rw [hcounters]; exact R.quiet w h)
  exact ⟨hg, hi, fun hlarge => absurd hlarge (not_le.mpr hsmall)⟩

theorem receiptAge (R : CycleRules ops others guarantee Faults I) (now : Nat) :
    Triple others guarantee I (receiptAge now) fun reason w => I w ∧ Caused Faults reason w := by
  rw [NativeLog.receiptAge]
  simp only [Prog.bind_def, Prog.pure_def]
  refine Triple.bind (Q := fun _ => I) ?_ fun idle => ?_
  · refine .act R.stable (fun _ => R.stable) fun w h => ?_
    split
    · exact R.worker w _ h rfl (R.quiet w h)
    · exact ⟨R.stay w h, h⟩
  · split
    · exact .done (R.stable_caused _) fun w h => ⟨h, fun hlarge => absurd hlarge (by decide)⟩
    · refine Triple.bind (Q := fun _ => I) ?_ fun o => ?_
      · exact R.read R.stable (fun _ => R.stable) (fun _ h => h) fun _ h => h
      · cases o with
        | none =>
            exact R.read R.stable R.stable_caused (fun _ h => h) fun w h =>
              ⟨h, fun hlarge => absurd hlarge (not_le.mpr (R.quiet w h))⟩
        | some owner => exact R.frontAge owner now

theorem caused_none (w : WorkerWorld κ) : Caused Faults .none w := fun hlarge => absurd hlarge (by decide)

theorem readLog (R : CycleRules ops others guarantee Faults I) (wanted : Nat) :
    Triple others guarantee I (readLog wanted) fun got w => (I w ∧ Pending got.2 w) ∧ Caused Faults got.1 w := by
  have hstable (got : TransportReason × List UInt8) :
      Stable others fun w => (I w ∧ Pending got.2 w) ∧ Caused Faults got.1 w := by
    intro w w' h he
    exact ⟨R.stable_pending got.2 w w' h.1 he, (R.stable_caused got.1 w w' ⟨h.1.1, h.2⟩ he).2⟩
  refine .act R.stable hstable fun w h => ?_
  obtain ⟨hg, hi⟩ := R.worker w { w.worker with
    counters := { w.worker.counters with lastReadError := w.around.lastError } } h rfl (R.quiet w h)
  refine ⟨hg, ?_⟩
  dsimp only
  split
  · exact ⟨⟨hi, List.nil_prefix⟩, fun hlarge => absurd hlarge (by decide)⟩
  · split
    · refine ⟨⟨hi, List.nil_prefix⟩, fun hlarge => ?_⟩
      rcases R.faults w h with hfault | hsmall
      · exact .inl hfault
      · exact absurd hlarge (not_le.mpr hsmall)
    · exact ⟨⟨hi, List.take_prefix _ _⟩, caused_none _⟩

/-- The bytes that a scan leaves are the next ones behind its cursor. -/
theorem scanStep (R : CycleRules ops others guarantee Faults I) (bytes : List UInt8) :
    Triple others guarantee (fun w => I w ∧ Pending bytes w) (scanStep ops bytes) fun scan w =>
      (I w ∧ Pending (bytes.drop scan.consumed) w) ∧
        (scan.disposition = .gap ∨ scan.disposition = .corrupt → w.worker.scanner.failed = true) ∧
        (scan.disposition = .ignored ∨ scan.disposition = .accepted → scan.consumed = bytes.length) := by
  refine .act (R.stable_pending bytes) (fun scan w w' h he => ⟨R.stable_pending _ w w' h.1 he, ?_⟩) fun w h => ?_
  · rw [(R.untouched w w' h.1.1 he).worker]
    exact h.2
  obtain ⟨hg, hi⟩ := R.scan w bytes h.1 h.2
  have hconsumed := scanReceiptChunk_consumed (pipelineMatchOps ops) w.worker.scanner w.channel bytes
  have hcursor := R.cursor w h.1
  rw [scanBytesStep] at hg hi ⊢
  cases hscan : scanReceiptChunk (pipelineMatchOps ops) w.worker.scanner w.channel bytes with
  | mk scanner rest =>
      obtain ⟨c, result⟩ := rest
      rw [hscan] at hg hi hconsumed
      refine ⟨hg, ⟨hi, ?_⟩, scanReceiptChunk_outcome _ _ _ _ hscan⟩
      obtain ⟨more, hmore⟩ := h.2
      have hdrop : bytes.drop result.consumed <+: (bytes ++ more).drop result.consumed := by
        rw [List.drop_append]
        exact List.prefix_append _ _
      rw [hmore, List.drop_drop] at hdrop
      show bytes.drop result.consumed <+: w.around.log.drop (scanner.offset - w.start)
      rw [hconsumed]
      dsimp only
      rwa [Nat.sub_add_comm hcursor]

def EndCaused (Faults : TransportReason → Prop) : LoopEnd → WorkerWorld κ → Prop
  | .stop reason, w => Caused Faults reason w
  | .abort, _ => True

theorem stable_end (R : CycleRules ops others guarantee Faults I) (stop : LoopEnd) :
    Stable others fun w => I w ∧ EndCaused Faults stop w := by
  cases stop with
  | stop reason => exact R.stable_caused reason
  | abort => exact R.stable.and fun _ _ _ _ => trivial

theorem scanBytes (R : CycleRules ops others guarantee Faults I) (fuel : Nat) (bytes : List UInt8) :
    Triple others guarantee (fun w => I w ∧ Pending bytes w) (scanBytes ops fuel bytes) fun stop w =>
      I w ∧ EndCaused Faults stop w := by
  induction fuel generalizing bytes with
  | zero => exact .done (R.stable_end _) fun w h => ⟨h.1, caused_none w⟩
  | succ fuel ih =>
      rw [NativeLog.scanBytes]
      split
      · exact .done (R.stable_end _) fun w h => ⟨h.1, caused_none w⟩
      rename_i hbytes
      simp only [Prog.bind_def, Prog.pure_def]
      refine Triple.bind (R.scanStep bytes) fun scan => ?_
      have onward : Triple others guarantee (fun w => (I w ∧ Pending (bytes.drop scan.consumed) w) ∧
          scan.consumed = bytes.length)
          (if scan.consumed = 0 then .done (.stop .receiptCorrupt) else NativeLog.scanBytes ops fuel
            (bytes.drop scan.consumed)) fun stop w => I w ∧ EndCaused Faults stop w := by
        split
        · rename_i hzero
          refine .done (R.stable_end _) fun w h => absurd ?_ hbytes
          exact List.length_eq_zero_iff.mp (h.2.symm.trans hzero)
        · exact (ih _).conseq (fun _ h => h.1) fun _ _ h => h
      cases hd : scan.disposition with
      | gap => exact .done (R.stable_end _) fun w h => ⟨h.1.1, fun _ => .inr (h.2.1 (.inl rfl))⟩
      | corrupt => exact .done (R.stable_end _) fun w h => ⟨h.1.1, fun _ => .inr (h.2.1 (.inr rfl))⟩
      | awaitingSubmission =>
          refine Triple.bind ((R.sampleClock (R.beside_pending (bytes.drop scan.consumed))).conseq (fun _ h => h.1) fun _ _ h => h)
            fun clock => ?_
          cases clock with
          | none => exact .done (R.stable_end _) fun w h => ⟨h.1, trivial⟩
          | some qpc =>
              refine Triple.bind (R.ack (bytes.drop scan.consumed) qpc) fun acknowledged => ?_
              split
              · exact ih _
              · exact .done (R.stable_end _) fun w h => ⟨h.1, caused_none w⟩
      | ignored => exact onward.conseq (fun w h => ⟨h.1, h.2.2 (.inl rfl)⟩) fun _ _ h => h
      | accepted => exact onward.conseq (fun w h => ⟨h.1, h.2.2 (.inr rfl)⟩) fun _ _ h => h

theorem readLoop (R : CycleRules ops others guarantee Faults I) (fuel budget : Nat) :
    Triple others guarantee I (readLoop ops fuel budget) fun out w => I w ∧ EndCaused Faults out.1 w := by
  have stopped (budget : Nat) : Triple others guarantee I (.done (LoopEnd.stop .none, budget)) fun out w =>
      I w ∧ EndCaused Faults out.1 w := .done (R.stable_end _) fun w h => ⟨h, caused_none w⟩
  induction fuel generalizing budget with
  | zero => exact stopped budget
  | succ fuel ih =>
      rw [NativeLog.readLoop]
      split
      · exact stopped budget
      simp only [Prog.bind_def, Prog.pure_def]
      refine Triple.bind (R.readLog _) fun got => ?_
      split
      · exact .done (R.stable_end _) fun w h => ⟨h.1.1, h.2⟩
      split
      · exact (stopped budget).conseq (fun w h => h.1.1) fun _ _ h => h
      have hadd : Triple others guarantee (fun w => (I w ∧ Pending got.2 w) ∧ Caused Faults got.1 w)
          (addReadBytes got.2.length) fun _ w => I w ∧ Pending got.2 w := by
        refine (R.addCounter (R.beside_pending got.2) ?_ got.2.length).conseq (fun w h => h.1) fun _ _ h => h
        exact fun _ _ => rfl
      refine Triple.bind hadd fun added => ?_
      split
      · refine Triple.bind (R.scanBytes got.2.length got.2) fun stop => ?_
        cases stop with
        | abort => exact .done (R.stable_end _) fun w h => h
        | stop reason =>
            have hcaused := R.stable_caused reason
            refine Triple.bind (R.read hcaused (fun _ => hcaused) (fun w h => h.1) fun w h => h) fun awaiting => ?_
            split
            · exact .done (R.stable_end _) fun w h => h
            · exact (ih _).conseq (fun w h => h.1) fun _ _ h => h
      · exact .done (R.stable_end _) fun w h => ⟨h.1, trivial⟩

theorem prepareOpen (R : CycleRules ops others guarantee Faults I) (qpc : Nat) :
    Triple others guarantee I (prepareOpen ops qpc) fun _ => I := by
  rw [NativeLog.prepareOpen]
  simp only [Prog.bind_def, Prog.pure_def]
  refine Triple.bind (R.read R.stable (fun _ => R.stable) (fun _ h => h) fun _ h => h) fun revoked => ?_
  split
  · exact .done R.stable fun _ h => h
  · exact .act R.stable (fun _ => R.stable) fun w h => R.prepare w qpc h

theorem pauseAge (R : CycleRules ops others guarantee Faults I) (qpc : Nat) :
    Triple others guarantee I ((NativeLog.receiptAge qpc).bind fun age => NativeLog.pause age qpc) fun _ => I :=
  Triple.bind (R.receiptAge qpc) fun age => R.pause age qpc

theorem addReceiptTicks (R : CycleRules ops others guarantee Faults I) (B : Beside others I K) (amount : Nat) :
    Triple others guarantee (fun w => I w ∧ K w) (addReceiptTicks amount) fun _ w => I w ∧ K w := by
  refine R.addCounter B ?_ amount
  exact fun _ _ => rfl

theorem finishCycle (R : CycleRules ops others guarantee Faults I) (reason : TransportReason)
    (budget afterFormat : Nat) : Triple others guarantee (fun w => I w ∧ Caused Faults reason w)
      (finishCycle reason budget afterFormat) fun _ => I := by
  have B := R.beside_caused reason
  rw [NativeLog.finishCycle]
  simp only [Prog.bind_def, Prog.pure_def]
  refine Triple.bind (R.sampleClock B) fun clock => ?_
  cases clock with
  | none => exact .done R.stable fun _ h => h.1
  | some stop =>
      refine Triple.bind (R.addReceiptTicks B _) fun added => ?_
      split
      · split
        · exact R.pause reason stop
        · refine Triple.bind (R.read B.stable (fun _ => R.stable) (fun _ h => h.1) fun _ h => h.1) fun behind => ?_
          split
          · exact (R.pause .readerBehind stop).conseq (fun w h => ⟨h, fun hlarge => absurd hlarge (by decide)⟩)
              fun _ _ h => h
          · exact R.pauseAge stop
      · exact .done R.stable fun _ h => h.1

theorem receiveCycle (R : CycleRules ops others guarantee Faults I) (afterFormat : Nat) :
    Triple others guarantee I (receiveCycle ops afterFormat) fun _ => I := by
  rw [NativeLog.receiveCycle]
  simp only [Prog.bind_def, Prog.pure_def]
  refine Triple.bind (R.ack_plain afterFormat) fun acknowledged => ?_
  split
  · refine Triple.bind (R.readLoop _ _) fun out => ?_
    obtain ⟨stop, budget⟩ := out
    cases stop with
    | abort => exact .done R.stable fun _ h => h.1
    | stop reason => exact R.finishCycle reason budget afterFormat
  · exact R.pauseAge afterFormat

theorem formatCycle (R : CycleRules ops others guarantee Faults I) (start : Nat) :
    Triple others guarantee I (formatCycle ops start) fun _ => I := by
  have hread (f : WorkerWorld κ → Nat) : Triple others guarantee I (.read f) fun _ => I :=
    R.read R.stable (fun _ => R.stable) (fun _ h => h) fun _ h => h
  rw [NativeLog.formatCycle]
  simp only [Prog.bind_def, Prog.pure_def]
  refine Triple.bind (hread _) fun before => Triple.bind (R.prepareOpen start) fun ready => ?_
  split
  · refine Triple.bind (plain (R.sampleClock R.beside_true)) fun clock => ?_
    cases clock with
    | none => exact .done R.stable fun _ h => h
    | some afterFormat =>
        have hcalls (amount : Nat) : Triple others guarantee I (addFormatCalls amount) fun _ => I := by
          refine plain (R.addCounter R.beside_true ?_ amount)
          exact fun _ _ => rfl
        have hticks (amount : Nat) : Triple others guarantee I (addFormatTicks amount) fun _ => I := by
          refine plain (R.addCounter R.beside_true ?_ amount)
          exact fun _ _ => rfl
        refine Triple.bind (hread _) fun after => Triple.bind (hcalls _) fun counted => ?_
        split
        · refine Triple.bind (hticks _) fun timed => ?_
          split
          · exact R.receiveCycle afterFormat
          · exact .done R.stable fun _ h => h
        · exact .done R.stable fun _ h => h
  · exact R.publish

theorem cycle_guarantee (R : CycleRules ops others guarantee Faults I) :
    Triple others guarantee I (cycleNativeReceipts ops) fun _ => I := by
  rw [cycleNativeReceipts]
  simp only [Prog.bind_def, Prog.pure_def]
  refine Triple.bind (Q := fun v w => I w ∧ v.counters.pauseReason.value < TransportReason.receiptGap.value) ?_
    fun v => ?_
  · exact R.read R.stable (fun v => R.stable.and (.const _)) (fun _ h => h) fun w h => ⟨h, R.quiet w h⟩
  split
  · exact .done R.stable fun _ h => h.1
  · refine Triple.bind ((plain (R.sampleClock R.beside_true)).conseq (fun _ h => h.1) fun _ _ h => h) fun clock => ?_
    cases clock with
    | none => exact .done R.stable fun _ h => h
    | some start =>
        dsimp only
        split
        · refine Triple.bind (Q := fun _ => I) ?_ fun _ => ?_
          · exact .act R.stable (fun _ => R.stable) fun w h => R.worker w _ h rfl (R.quiet w h)
          · refine Triple.bind (Q := fun _ => I) ?_ fun counted => ?_
            · refine plain (R.addCounter R.beside_true ?_ 1)
              exact fun _ _ => rfl
            · split
              · exact R.formatCycle start
              · exact .done R.stable fun _ h => h
        · exact .done R.stable fun _ h => h

theorem within (R : CycleRules ops others guarantee Faults I) : CycleRules ops others (Within I guarantee) Faults I where
  stable := R.stable
  untouched := R.untouched
  cursor := R.cursor
  initialized := R.initialized
  covered := R.covered
  quiet := R.quiet
  faults := R.faults
  change w v status h hscan hquiet hmild := by
    obtain ⟨hg, hi⟩ := R.change w v status h hscan hquiet hmild
    exact ⟨fun _ => ⟨hg, hi⟩, hi⟩
  latch w reason h hlarge hcause := by
    obtain ⟨hg, hi⟩ := R.latch w reason h hlarge hcause
    exact ⟨fun _ => ⟨hg, hi⟩, hi⟩
  store w input owner h hshown hcovered := by
    obtain ⟨hg, hi⟩ := R.store w input owner h hshown hcovered
    exact ⟨fun _ => ⟨hg, hi⟩, hi⟩
  prepare w qpc h := by
    obtain ⟨hg, hi⟩ := R.prepare w qpc h
    exact ⟨fun _ => ⟨hg, hi⟩, hi⟩
  acknowledge w owner qpc h ho := by
    obtain ⟨hg, hi⟩ := R.acknowledge w owner qpc h ho
    exact ⟨fun _ => ⟨hg, hi⟩, hi⟩
  scan w bytes h pending := by
    obtain ⟨hg, hi⟩ := R.scan w bytes h pending
    exact ⟨fun _ => ⟨hg, hi⟩, hi⟩

/-- A whole cycle keeps what every step of it keeps. -/
theorem cycle (R : CycleRules ops others guarantee Faults I) :
    Triple others (Within I guarantee) I (cycleNativeReceipts ops) fun _ => I := R.within.cycle_guarantee

end CycleRules

end RS2ServerFix.NativeLog
