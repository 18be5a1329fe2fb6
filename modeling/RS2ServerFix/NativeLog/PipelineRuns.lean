import RS2ServerFix.NativeLog.PipelineInvariant

namespace RS2ServerFix.NativeLog

open Reporting Lib

variable {κ : Type} {ops : NativeHashOps κ}

/-- The channel with what the owner keeps on its side: the frame it was last
shown, its watermarks, and every snapshot it published so far. -/
structure NativeSystem (κ : Type) where
  channel : NativeChannel κ
  peeked : Option NativeReadyFrame
  startupSubmitted : Bool
  submittedSequence : Nat
  generatedSequence : Nat
  published : List OwnerSnapshotV3

inductive NativeAction
  | enqueue (r : ReportRecordV3)
  | peek
  | submit
  | release
  | publish
  | prepare (qpc : Nat)
  | receipt (bytes : List UInt8)
  | acknowledge (o : OwnerSnapshotV3)
  | latch (status : StatusWords)

namespace NativeSystem

variable (s : NativeSystem κ)

def FrameSubmitted (f : NativeReadyFrame) : Prop :=
  s.startupSubmitted = true ∧ f.sequence ≤ s.submittedSequence

def frameDue (f : NativeReadyFrame) : Bool :=
  validMessage f.message f.chars &&
    if f.sequence = 0 then !s.startupSubmitted
    else s.startupSubmitted && decide (s.submittedSequence ≠ uint64Max) &&
      decide (f.sequence = s.submittedSequence + 1) && decide (f.sequence ≤ s.generatedSequence)

def submit (f : NativeReadyFrame) : NativeSystem κ :=
  if !s.frameDue f then { s with channel := s.channel.lose .recordLoss }
  else if f.sequence = 0 then { s with startupSubmitted := true }
  else { s with submittedSequence := f.sequence }

def snapshot : OwnerSnapshotV3 :=
  ⟨2 * (s.published.length + 1), s.startupSubmitted, s.submittedSequence, s.generatedSequence⟩

end NativeSystem

/-- The protocol of the two parties: the owner enqueues on credit, submits a
frame it was shown once and releases it after that; the worker acknowledges
with a snapshot the owner published. -/
def NativeAction.Allowed (s : NativeSystem κ) : NativeAction → Prop
  | .enqueue _ => s.generatedSequence < s.channel.pipeline.observedSequence + kReportRecordCapacity
  | .submit => ∃ f, s.peeked = some f ∧ ¬ s.FrameSubmitted f
  | .release => ∃ f, s.peeked = some f ∧ s.FrameSubmitted f
  | .acknowledge o => o ∈ s.published
  | _ => True

def NativeSystem.next (ops : NativeHashOps κ) (s : NativeSystem κ) : NativeAction → NativeSystem κ
  | .enqueue r =>
      match enqueueReport s.channel.status s.channel.ring s.channel.ring.ownerThreadId r with
      | (status, ring, result, accepted) =>
          { s with
            channel := { s.channel with status := status, ring := ring }
            generatedSequence := if result = .accepted then accepted else s.generatedSequence }
  | .peek => { s with channel := (peekNativeFrame s.channel).1, peeked := (peekNativeFrame s.channel).2 }
  | .submit =>
      match s.peeked with
      | none => s
      | some f => s.submit f
  | .release =>
      match s.peeked with
      | none => s
      | some f => { s with channel := (releaseNativeFrame s.channel f.ticket).1, peeked := none }
  | .publish => { s with published := s.published ++ [s.snapshot] }
  | .prepare qpc => { s with channel := (prepareNativeFrames ops s.channel qpc).1 }
  | .receipt bytes => { s with channel := (matchNativeReceipt ops s.channel bytes).2 }
  | .acknowledge o => { s with channel := (acknowledgeNativeReceipt s.channel o).1 }
  | .latch status => { s with channel := { s.channel with status := status } }

theorem NativeSystem.next_prepare (s : NativeSystem κ) (qpc : Nat) :
    (s.next ops (.prepare qpc)).channel = (prepareNativeFrames ops s.channel qpc).1 := rfl

def enqueueAll (status : StatusWords) (ring : ReportRingV3) : List ReportRecordV3 → StatusWords × ReportRingV3
  | [] => (status, ring)
  | r :: records =>
      let next := enqueueReport status ring ring.ownerThreadId r
      enqueueAll next.1 next.2.1 records

/-- The state in which the worker has just initialised the pipeline, after at
most a ring full of records. -/
def NativeSystem.InitialAfter (records : List ReportRecordV3) (s : NativeSystem κ) : Prop :=
  ∃ status owner hashContext oldHash context old qpc, records.length ≤ kReportRecordCapacity ∧
    let early := enqueueAll status (initializeReportRing owner) records
    initializeNativePipeline ⟨early.1, early.2, .zeroed oldHash old⟩ context hashContext qpc = (s.channel, .none) ∧
      s.peeked = none ∧ s.startupSubmitted = false ∧ s.submittedSequence = 0 ∧
      s.generatedSequence = early.2.reportWriteSequence ∧ s.published = [⟨2, false, 0, 0⟩]

def NativeSystem.Initial (s : NativeSystem κ) : Prop := ∃ records, s.InitialAfter records

inductive NativeRun (ops : NativeHashOps κ) : NativeSystem κ → Prop
  | init {s : NativeSystem κ} (h : s.Initial) : NativeRun ops s
  | step {s : NativeSystem κ} {a : NativeAction} (h : NativeRun ops s) (allowed : a.Allowed s) :
      NativeRun ops (s.next ops a)

def NativeSystem.submittedFrames (s : NativeSystem κ) : Nat :=
  if s.startupSubmitted then s.submittedSequence + 1 else 0

theorem enqueueAll_inv (status : StatusWords) {ring : ReportRingV3} (h : RingInv ring) (records : List ReportRecordV3)
    (hread : ring.reportReadSequence = 0) (hlen : ring.reportWriteSequence + records.length ≤ kReportRecordCapacity) :
    RingInv (enqueueAll status ring records).2 ∧ (enqueueAll status ring records).2.reportReadSequence = 0 := by
  induction records generalizing status ring with
  | nil => exact ⟨h, hread⟩
  | cons r records ih =>
      rw [List.length_cons] at hlen
      have hroom : ring.reportWriteSequence < ring.reportReadSequence + kReportRecordCapacity := by omega
      have hkeep : ring.reportWriteSequence + records.length ≤ kReportRecordCapacity := by omega
      rw [enqueueAll]
      rcases enqueueReport_spec h status hroom r with ⟨_, he⟩ | ⟨_, he⟩ | ⟨_, he⟩ | ⟨hh, hr, hmax, he⟩
      · rw [he]
        exact ih _ h hread hkeep
      · rw [he]
        exact ih _ h hread hkeep
      · rw [he]
        exact ih _ h hread hkeep
      · rw [he]
        refine ih _ (pushReport_inv h hroom hh hr hmax) hread ?_
        simp only [pushReport]
        omega

structure NativeInv (s : NativeSystem κ) : Prop where
  channel : ChannelInv s.channel
  generated : s.generatedSequence = s.channel.ring.reportWriteSequence
  unsubmitted : s.startupSubmitted = false → s.submittedSequence = 0
  shown : ∀ f, s.peeked = some f → s.channel.pipeline.readyRead < s.channel.pipeline.readyWrite ∧
    f = s.channel.pipeline.ready.get s.channel.pipeline.readyRead
  submitted : s.submittedFrames = s.channel.pipeline.readyRead ∨
    s.submittedFrames = s.channel.pipeline.readyRead + 1 ∧ s.peeked.isSome
  published : ∀ o ∈ s.published, (o.startupSubmitted = true → s.startupSubmitted = true) ∧
    o.submittedSequence ≤ s.submittedSequence
  receipts : s.channel.pipeline.ledgerRead ≤ s.submittedFrames

namespace NativeInv

variable {s : NativeSystem κ}

theorem ofChannel (h : NativeInv s) {c : NativeChannel κ} (hc : ChannelInv c)
    (hread : c.pipeline.readyRead = s.channel.pipeline.readyRead)
    (hwrite : s.channel.pipeline.readyWrite ≤ c.pipeline.readyWrite)
    (hfront : s.channel.pipeline.readyRead < s.channel.pipeline.readyWrite →
      c.pipeline.ready.get s.channel.pipeline.readyRead =
        s.channel.pipeline.ready.get s.channel.pipeline.readyRead)
    (hgen : c.ring.reportWriteSequence = s.channel.ring.reportWriteSequence)
    (hledger : c.pipeline.ledgerRead ≤ s.submittedFrames) : NativeInv { s with channel := c } := by
  refine ⟨hc, h.generated.trans hgen.symm, h.unsubmitted, ?_, ?_, h.published, hledger⟩
  · intro f hf
    obtain ⟨hlt, he⟩ := h.shown f hf
    dsimp only
    rw [hread]
    exact ⟨hlt.trans_le hwrite, he.trans (hfront hlt).symm⟩
  · dsimp only
    rw [hread]
    exact h.submitted

theorem ofStatus (h : NativeInv s) (status : StatusWords) :
    NativeInv { s with channel := { s.channel with status := status } } :=
  h.ofChannel (h.channel.ofStatus status) rfl le_rfl (fun _ => rfl) rfl h.receipts

theorem front (h : NativeInv s) {f : NativeReadyFrame} (hf : s.peeked = some f) :
    f.sequence = s.channel.pipeline.readyRead ∧ f.ticket = s.channel.pipeline.readyRead + 1 ∧
      validMessage f.message f.chars = true := by
  obtain ⟨hlt, rfl⟩ := h.shown f hf
  obtain ⟨hticket, hseq, _, hvalid⟩ := h.channel.frames _ le_rfl hlt
  exact ⟨hseq, hticket, hvalid⟩

theorem frameSubmitted_iff (h : NativeInv s) {f : NativeReadyFrame} (hf : s.peeked = some f) :
    s.FrameSubmitted f ↔ s.submittedFrames = s.channel.pipeline.readyRead + 1 := by
  obtain ⟨hseq, _, _⟩ := h.front hf
  have hsub := h.submitted
  unfold NativeSystem.FrameSubmitted NativeSystem.submittedFrames at *
  rw [hseq]
  constructor
  · rintro ⟨hs, hle⟩
    rw [if_pos hs] at hsub ⊢
    omega
  · intro he
    by_cases hs : s.startupSubmitted = true
    · rw [if_pos hs] at he
      exact ⟨hs, by omega⟩
    · rw [if_neg hs] at he
      omega

/-- Records and frames are counted by one number, in the order the claim of
the pipeline gives. -/
theorem order (h : NativeInv s) : s.channel.pipeline.observedSequence ≤ s.submittedSequence ∧
    s.submittedSequence ≤ s.channel.pipeline.preparedSequence ∧
    s.channel.pipeline.preparedSequence ≤ s.channel.ring.reportReadSequence ∧
    s.channel.ring.reportReadSequence ≤ s.generatedSequence := by
  have hc := h.channel
  have hobs := hc.observed_le
  have hobserved := hc.observed
  have hun := hc.unobserved
  have hprep := hc.prepared
  have hqueue := hc.queue
  have hord := hc.queueOrder
  have hring := hc.ring.order
  have hgen := h.generated
  have hsub := h.submitted
  have hrec := h.receipts
  have hunsub := h.unsubmitted
  have hread : s.submittedFrames ≤ s.channel.pipeline.readyWrite := by
    rcases hsub with he | ⟨he, hp⟩
    · omega
    · obtain ⟨f, hf⟩ := Option.isSome_iff_exists.mp hp
      have := (h.shown f hf).1
      omega
  unfold NativeSystem.submittedFrames at hrec hread
  refine ⟨?_, ?_, hobs.2, by omega⟩
  · by_cases ho : s.channel.pipeline.startupObserved = true
    · rw [if_pos ho] at hobserved
      by_cases hs : s.startupSubmitted = true
      · rw [if_pos hs] at hrec
        omega
      · rw [if_neg hs] at hrec
        omega
    · have := hun (by simpa using ho)
      omega
  · by_cases hs : s.startupSubmitted = true
    · rw [if_pos hs] at hread
      omega
    · have := hunsub (by simpa using hs)
      omega

theorem enqueue (h : NativeInv s) {r : ReportRecordV3}
    (credit : s.generatedSequence < s.channel.pipeline.observedSequence + kReportRecordCapacity) :
    NativeInv (s.next ops (.enqueue r)) := by
  have hobs := h.channel.observed_le
  have hgen := h.generated
  have hroom : s.channel.ring.reportWriteSequence <
      s.channel.ring.reportReadSequence + kReportRecordCapacity := by omega
  rcases enqueueReport_spec h.channel.ring s.channel.status hroom r with
    ⟨hadm, he⟩ | ⟨_, he⟩ | ⟨_, he⟩ | ⟨hh, hr, hmax, he⟩
  · simp only [NativeSystem.next, he, if_neg hadm]
    exact h.ofStatus _
  · simp only [NativeSystem.next, he]
    exact h.ofStatus _
  · simp only [NativeSystem.next, he]
    exact h.ofStatus _
  · simp only [NativeSystem.next, he, if_true]
    have hc := h.channel.push s.channel.status (by omega) hh hr hmax
    exact ⟨hc, rfl, h.unsubmitted, h.shown, h.submitted, h.published, h.receipts⟩

theorem peek (h : NativeInv s) : NativeInv (s.next ops .peek) := by
  simp only [NativeSystem.next, peekNativeFrame_eq h.channel]
  have hord := h.channel.queueOrder
  refine ⟨h.channel, h.generated, h.unsubmitted, ?_, ?_, h.published, h.receipts⟩
  · intro f hf
    dsimp only at hf
    split at hf
    · cases hf
    · injection hf with hf
      have hlt : s.channel.pipeline.readyRead < s.channel.pipeline.readyWrite := by omega
      exact ⟨hlt, hf.symm⟩
  · rcases h.submitted with he | ⟨he, hp⟩
    · exact .inl he
    · obtain ⟨f, hf⟩ := Option.isSome_iff_exists.mp hp
      have hlt := (h.shown f hf).1
      exact .inr ⟨he, by rw [if_neg hlt.ne']; rfl⟩

theorem next_peek (h : NativeInv s) (hlt : s.channel.pipeline.readyRead < s.channel.pipeline.readyWrite) :
    s.next ops .peek = { s with peeked := some (s.channel.pipeline.ready.get s.channel.pipeline.readyRead) } := by
  simp only [NativeSystem.next, peekNativeFrame_eq h.channel, if_neg hlt.ne']

theorem frameDue (h : NativeInv s) {f : NativeReadyFrame} (hf : s.peeked = some f) (hnew : ¬ s.FrameSubmitted f) :
    s.frameDue f = true := by
  obtain ⟨hseq, _, hvalid⟩ := h.front hf
  obtain ⟨hlt, _⟩ := h.shown f hf
  have hiff := h.frameSubmitted_iff hf
  have hsub : s.submittedFrames = s.channel.pipeline.readyRead := by
    rcases h.submitted with he | ⟨he, _⟩
    · exact he
    · exact absurd (hiff.mpr he) hnew
  have hcounter := h.channel.counter
  have hord := h.channel.ledgerOrder
  have hqueue := h.channel.queue
  have hdrained := h.channel.drained
  have hring := h.channel.ring.order
  have hgen := h.generated
  unfold NativeSystem.submittedFrames at hsub
  simp only [NativeSystem.frameDue, hvalid, Bool.true_and, hseq]
  by_cases hs : s.startupSubmitted = true
  · rw [if_pos hs] at hsub
    rw [if_neg (by omega)]
    simp only [hs, Bool.true_and, Bool.and_eq_true, decide_eq_true_eq]
    omega
  · rw [if_neg hs] at hsub
    rw [if_pos hsub.symm]
    simpa using hs

theorem submit (h : NativeInv s) {f : NativeReadyFrame} (hf : s.peeked = some f) (hnew : ¬ s.FrameSubmitted f) :
    NativeInv (s.submit f) ∧ (s.submit f).channel = s.channel := by
  obtain ⟨hseq, _, _⟩ := h.front hf
  have hiff := h.frameSubmitted_iff hf
  have hun := h.unsubmitted
  have hrec := h.receipts
  have hsub : s.submittedFrames = s.channel.pipeline.readyRead := by
    rcases h.submitted with he | ⟨he, _⟩
    · exact he
    · exact absurd (hiff.mpr he) hnew
  have hsome : s.peeked.isSome = true := by rw [hf]; rfl
  rw [NativeSystem.submit, if_neg (by simp [h.frameDue hf hnew])]
  unfold NativeSystem.submittedFrames at hsub hrec
  by_cases hzero : f.sequence = 0
  · rw [if_pos hzero]
    have hs : s.startupSubmitted = false := by
      by_contra hc
      rw [if_pos (by simpa using hc)] at hsub
      omega
    have hnone := hun hs
    refine ⟨⟨h.channel, h.generated, fun hh => absurd hh (by simp), h.shown, .inr ⟨?_, hsome⟩, ?_, ?_⟩, rfl⟩
    · change s.submittedSequence + 1 = s.channel.pipeline.readyRead + 1
      omega
    · exact fun o ho => ⟨fun _ => rfl, (h.published o ho).2⟩
    · change s.channel.pipeline.ledgerRead ≤ s.submittedSequence + 1
      rw [if_neg (by simp [hs])] at hrec
      omega
  · rw [if_neg hzero]
    have hs : s.startupSubmitted = true := by
      by_contra hc
      rw [if_neg hc] at hsub
      omega
    rw [if_pos hs] at hsub hrec
    refine ⟨⟨h.channel, h.generated, fun hh => absurd hh (by simp [hs]), h.shown, .inr ⟨?_, hsome⟩, ?_, ?_⟩, rfl⟩
    · simp only [NativeSystem.submittedFrames, hs, if_true]
      omega
    · exact fun o ho => ⟨(h.published o ho).1, (h.published o ho).2.trans (by dsimp only; omega)⟩
    · simp only [NativeSystem.submittedFrames, hs, if_true]
      omega

theorem submit_frame (h : NativeInv s) {f : NativeReadyFrame} (hf : s.peeked = some f) (hnew : ¬ s.FrameSubmitted f) :
    (s.submit f).FrameSubmitted f ∧ (s.submit f).peeked = some f ∧
      (s.submit f).generatedSequence = s.generatedSequence := by
  have hdue := h.frameDue hf hnew
  rw [NativeSystem.submit, if_neg (by simp [hdue])]
  by_cases hzero : f.sequence = 0
  · rw [if_pos hzero]
    exact ⟨⟨rfl, by rw [hzero]; exact Nat.zero_le _⟩, hf, rfl⟩
  · rw [if_neg hzero]
    simp only [NativeSystem.frameDue, Bool.and_eq_true] at hdue
    rw [if_neg hzero] at hdue
    simp only [Bool.and_eq_true] at hdue
    exact ⟨⟨hdue.2.1.1.1, le_rfl⟩, hf, rfl⟩

theorem release (h : NativeInv s) {f : NativeReadyFrame} (hf : s.peeked = some f) (hdone : s.FrameSubmitted f) :
    NativeInv (s.next ops .release) ∧ (s.next ops .release).channel.status = s.channel.status := by
  obtain ⟨_, hticket, _⟩ := h.front hf
  obtain ⟨hlt, _⟩ := h.shown f hf
  have hsub := (h.frameSubmitted_iff hf).mp hdone
  simp only [NativeSystem.next, hf, hticket, releaseNativeFrame_eq h.channel hlt]
  exact ⟨⟨releaseFrame_inv h.channel hlt, h.generated, h.unsubmitted, by simp, .inl hsub, h.published,
    h.receipts⟩, rfl⟩

theorem publish (h : NativeInv s) : NativeInv (s.next ops .publish) := by
  refine ⟨h.channel, h.generated, h.unsubmitted, h.shown, h.submitted, ?_, h.receipts⟩
  exact List.forall_mem_append.mpr ⟨h.published, List.forall_mem_singleton.mpr ⟨id, le_rfl⟩⟩

theorem ofPrepares (h : NativeInv s) {qpc : Nat} {c : NativeChannel κ} (hrun : Prepares ops qpc s.channel c) :
    NativeInv { s with channel := c } := by
  have hframe := Prepares.frame hrun h.channel
  exact h.ofChannel (Prepares.inv hrun h.channel) hframe.readyRead hframe.readyWrite
    (fun hlt => hframe.frames _ le_rfl hlt) hframe.written.1 (hframe.ledgerRead.le.trans h.receipts)

theorem rendered_inv {c : NativeChannel κ} (h : ChannelInv c) (r : ReportRecordV3) :
    ChannelInv { c with pipeline := (renderRecord ops c.pipeline r).1 } := by
  obtain ⟨detail, context, hp⟩ := renderRecord_eq ops c.pipeline r
  rw [hp]
  exact ⟨h.1, h.2, h.3, h.4, h.5, h.6, h.7, h.8, h.9, h.10, h.11, h.12, h.13, h.14, h.15, h.16⟩

theorem prepare (h : NativeInv s) (qpc : Nat) : NativeInv (s.next ops (.prepare qpc)) := by
  by_cases hq : qpc = 0
  · simp only [NativeSystem.next, prepareNativeFrames, hq, or_true, if_true]
    exact h
  · obtain ⟨c, hrun, hstatus, ⟨he, _⟩ | ⟨he, _⟩ | ⟨r, _, _, _, he⟩⟩ := prepareNativeFrames_spec ops h.channel hq
    · simp only [NativeSystem.next, he]
      exact h.ofPrepares hrun
    · simp only [NativeSystem.next, he]
      exact (h.ofPrepares hrun).ofStatus _
    · simp only [NativeSystem.next, he]
      have hc := h.ofPrepares hrun
      obtain ⟨detail, context, hp⟩ := renderRecord_eq ops c.pipeline r
      refine ((hc.ofChannel (rendered_inv hc.channel r) ?_ ?_ ?_ rfl ?_).ofStatus _ : _)
      all_goals
        dsimp only
        rw [hp]
      · exact fun _ => rfl
      · exact hc.receipts

theorem receipt (h : NativeInv s) (bytes : List UInt8) : NativeInv (s.next ops (.receipt bytes)) := by
  have keep : ∀ context, NativeInv { s with channel := rehashed s.channel context } := fun context =>
    h.ofChannel (rehashed_inv h.channel context) rfl le_rfl (fun _ => rfl) rfl h.receipts
  simp only [NativeSystem.next]
  rcases matchNativeReceipt_spec ops h.channel bytes with ⟨he, _⟩ | ⟨_, hlt, context, out, _, hres⟩
  · rw [he]
    exact h
  · rcases hres with ⟨_, he⟩ | ⟨digest, _, ⟨_, he⟩ | ⟨t, _, _, he⟩ | ⟨_, he⟩⟩
    · rw [he]
      exact (keep context).ofStatus _
    · rw [he]
      exact keep context
    · rw [he]
      exact keep context
    · rw [he]
      exact h.ofChannel (holdFront_inv h.channel hlt context) rfl le_rfl (fun _ => rfl) rfl h.receipts

theorem acknowledge (h : NativeInv s) {o : OwnerSnapshotV3} (ho : o ∈ s.published) :
    NativeInv (s.next ops (.acknowledge o)) ∧ (s.next ops (.acknowledge o)).channel.status = s.channel.status := by
  simp only [NativeSystem.next]
  rcases acknowledgeNativeReceipt_spec h.channel o with ⟨he, _⟩ | ⟨he, hheld, hcover⟩
  · rw [he]
    exact ⟨h, rfl⟩
  · rw [he]
    refine ⟨h.ofChannel (acknowledged_inv h.channel hheld) rfl le_rfl (fun _ => rfl) rfl ?_, rfl⟩
    obtain ⟨hstart, hle⟩ := h.published o ho
    have hrec := h.receipts
    change s.channel.pipeline.ledgerRead + 1 ≤ s.submittedFrames
    unfold OwnerSnapshotV3.Covers at hcover
    unfold NativeSystem.submittedFrames at hrec ⊢
    by_cases hs : s.startupSubmitted = true
    · rw [if_pos hs]
      split at hcover
      · omega
      · omega
    · have hzero := h.unsubmitted (by simpa using hs)
      split at hcover
      · exact absurd (hstart hcover) hs
      · omega

theorem init (h : s.Initial) : NativeInv s := by
  obtain ⟨records, status, owner, hashContext, oldHash, context, old, qpc, hlen, hinit, hpeek, hstart, hsub, hgen, hpub⟩ := h
  obtain ⟨hring, hread⟩ := enqueueAll_inv status (initializeReportRing_inv owner) records rfl (by simpa [initializeReportRing] using hlen)
  obtain ⟨hc, _, hr, hready, hledger, _⟩ := initializeNativePipeline_inv hring hread hinit
  refine ⟨hc, by rw [hgen, hr], fun _ => hsub, ?_, .inl ?_, ?_, ?_⟩
  · simp [hpeek]
  · simp [NativeSystem.submittedFrames, hstart, hready]
  · simp [hpub]
  · rw [hledger]
    exact Nat.zero_le _

/-- The step lemma: every action either party may take keeps the invariant. -/
theorem next (h : NativeInv s) {a : NativeAction} (allowed : a.Allowed s) : NativeInv (s.next ops a) := by
  cases a with
  | enqueue r => exact h.enqueue allowed
  | peek => exact h.peek
  | submit =>
      obtain ⟨f, hf, hnew⟩ := allowed
      simp only [NativeSystem.next, hf]
      exact (h.submit hf hnew).1
  | release =>
      obtain ⟨f, hf, hdone⟩ := allowed
      exact (h.release hf hdone).1
  | publish => exact h.publish
  | prepare qpc => exact h.prepare qpc
  | receipt bytes => exact h.receipt bytes
  | acknowledge o => exact (h.acknowledge allowed).1
  | latch status => exact h.ofStatus status

end NativeInv

theorem NativeRun.inv {s : NativeSystem κ} (h : NativeRun ops s) : NativeInv s := by
  induction h with
  | init h => exact .init h
  | step _ allowed ih => exact ih.next allowed

/-- Every way an action of the protocol can close the status: none of them is
a cursor, an entry or a frame out of place. -/
inductive NativeAction.Latches (ops : NativeHashOps κ) (s : NativeSystem κ) : NativeAction → StatusWords → Prop
  | latch (status : StatusWords) : Latches ops s (.latch status) status
  | invalid {r : ReportRecordV3} (h : (validHeader r.header && validRecovery r) = false) :
      Latches ops s (.enqueue r) (loseStatus s.channel.status .recordLoss)
  | unrendered {qpc : Nat} {c : NativeChannel κ} {r : ReportRecordV3} (run : Prepares ops qpc s.channel c)
      (pending : c.pipeline.nextFormat < c.pipeline.ledgerWrite)
      (body : (c.pipeline.ledger.get c.pipeline.nextFormat).body = .scalar r)
      (fails : (renderRecord ops c.pipeline r).2 = none) :
      Latches ops s (.prepare qpc) (loseStatus s.channel.status .recordLoss)
  | undigested {bytes : List UInt8} (fails : (ops.digest s.channel.pipeline.hashContext bytes).2 = none) :
      Latches ops s (.receipt bytes) (loseStatus s.channel.status .recordLoss)
  | numbersExhausted {r : ReportRecordV3} (h : uint64Max ≤ s.generatedSequence + 1) :
      Latches ops s (.enqueue r) (loseStatus s.channel.status .counterOverflow)
  | ticketsExhausted {qpc : Nat} (h : uint64Max ≤ s.generatedSequence + 1) :
      Latches ops s (.prepare qpc) (loseStatus s.channel.status .counterOverflow)

namespace NativeInv

variable {s : NativeSystem κ}

theorem enqueue_status (h : NativeInv s) {r : ReportRecordV3}
    (credit : s.generatedSequence < s.channel.pipeline.observedSequence + kReportRecordCapacity) :
    (s.next ops (.enqueue r)).channel.status = s.channel.status ∨
      (NativeAction.enqueue r).Latches ops s (s.next ops (.enqueue r)).channel.status := by
  have hobs := h.channel.observed_le
  have hgen := h.generated
  rcases enqueueReport_spec h.channel.ring s.channel.status (by omega) r with
    ⟨_, he⟩ | ⟨hinvalid, he⟩ | ⟨hmax, he⟩ | ⟨_, _, _, he⟩
  · simp only [NativeSystem.next, he, true_or]
  · simp only [NativeSystem.next, he]
    exact .inr (.invalid hinvalid)
  · simp only [NativeSystem.next, he]
    exact .inr (.numbersExhausted (by omega))
  · simp only [NativeSystem.next, he, true_or]

theorem prepare_status (h : NativeInv s) (qpc : Nat) :
    (s.next ops (.prepare qpc)).channel.status = s.channel.status ∨
      (NativeAction.prepare qpc).Latches ops s (s.next ops (.prepare qpc)).channel.status := by
  by_cases hq : qpc = 0
  · simp only [NativeSystem.next, prepareNativeFrames, hq, or_true, if_true, true_or]
  · obtain ⟨c, hrun, hstatus, ⟨he, _⟩ | ⟨he, hmax⟩ | ⟨r, hbody, hpending, hnone, he⟩⟩ :=
      prepareNativeFrames_spec ops h.channel hq
    · simp only [NativeSystem.next, he]
      exact .inl hstatus
    · simp only [NativeSystem.next, he, NativeChannel.lose, hstatus]
      have hc := Prepares.inv hrun h.channel
      have hring := hc.ring.order
      have hwritten := (Prepares.frame hrun h.channel).written.1
      have hdrained := hc.drained
      have hqueue := hc.queue
      have hord := hc.ledgerOrder
      have hgen := h.generated
      refine .inr (.ticketsExhausted ?_)
      omega
    · simp only [NativeSystem.next, he, NativeChannel.lose, hstatus]
      exact .inr (.unrendered hrun hpending hbody hnone)

theorem receipt_status (h : NativeInv s) (bytes : List UInt8) :
    (s.next ops (.receipt bytes)).channel.status = s.channel.status ∨
      (NativeAction.receipt bytes).Latches ops s (s.next ops (.receipt bytes)).channel.status := by
  simp only [NativeSystem.next]
  rcases matchNativeReceipt_spec ops h.channel bytes with ⟨he, _⟩ | ⟨_, _, context, out, hd, hres⟩
  · exact .inl (by rw [he])
  · rcases hres with ⟨hnone, he⟩ | ⟨digest, _, ⟨_, he⟩ | ⟨t, _, _, he⟩ | ⟨_, he⟩⟩
    · rw [he]
      exact .inr (.undigested (by rw [hd, hnone]))
    · exact .inl (by rw [he]; rfl)
    · exact .inl (by rw [he]; rfl)
    · exact .inl (by rw [he]; rfl)

theorem status (h : NativeInv s) {a : NativeAction} (allowed : a.Allowed s) :
    (s.next ops a).channel.status = s.channel.status ∨ a.Latches ops s (s.next ops a).channel.status := by
  cases a with
  | enqueue r => exact h.enqueue_status allowed
  | peek => exact .inl (by simp only [NativeSystem.next, peekNativeFrame_eq h.channel])
  | submit =>
      obtain ⟨f, hf, hnew⟩ := allowed
      simp only [NativeSystem.next, hf]
      exact .inl (congrArg NativeChannel.status (h.submit hf hnew).2)
  | release =>
      obtain ⟨f, hf, hdone⟩ := allowed
      exact .inl (h.release hf hdone).2
  | publish => exact .inl rfl
  | prepare qpc => exact h.prepare_status qpc
  | receipt bytes => exact h.receipt_status bytes
  | acknowledge o => exact .inl (h.acknowledge allowed).2
  | latch status => exact .inr (.latch status)

theorem peeked (h : NativeInv s) {a : NativeAction} (ha : a ≠ .release) {f : NativeReadyFrame}
    (hf : s.peeked = some f) : (s.next ops a).peeked = some f := by
  cases a with
  | peek =>
      obtain ⟨hlt, he⟩ := h.shown f hf
      simp only [NativeSystem.next, peekNativeFrame_eq h.channel]
      rw [if_neg hlt.ne', he]
  | release => exact absurd rfl ha
  | submit =>
      simp only [NativeSystem.next, hf]
      unfold NativeSystem.submit
      split
      · exact hf
      · split
        · exact hf
        · exact hf
  | enqueue r => exact hf
  | publish => exact hf
  | prepare qpc => exact hf
  | receipt bytes => exact hf
  | acknowledge o => exact hf
  | latch status => exact hf

end NativeInv

end RS2ServerFix.NativeLog
