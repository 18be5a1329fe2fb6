import RS2ServerFix.NativeLog.PipelineTexts

namespace RS2ServerFix.NativeLog

open Reporting Lib

variable {κ : Type} {ops : NativeHashOps κ}

/-- The cursors of the pipeline and the entries and frames between them. -/
structure PipelineOrder (s : NativeSystem κ) : Prop where
  ledger : s.channel.pipeline.ledgerRead ≤ s.channel.pipeline.nextFormat ∧
    s.channel.pipeline.nextFormat ≤ s.channel.pipeline.ledgerWrite ∧
    s.channel.pipeline.ledgerWrite - s.channel.pipeline.ledgerRead ≤ kNativeLedgerCapacity
  unacknowledged :
    let first := if s.channel.pipeline.startupObserved then s.channel.pipeline.observedSequence + 1 else 0
    (List.range' s.channel.pipeline.ledgerRead (s.channel.pipeline.ledgerWrite - s.channel.pipeline.ledgerRead)).map
        (fun ticket => (s.channel.pipeline.ledger.get ticket).sequence) =
      List.range' first (s.channel.ring.reportReadSequence + 1 - first)
  prepared : ∀ ticket, s.channel.pipeline.ledgerRead ≤ ticket → ticket < s.channel.pipeline.nextFormat →
    (s.channel.pipeline.ledger.get ticket).state = .ready ∨ (s.channel.pipeline.ledger.get ticket).state = .matched
  scalar : ∀ ticket, s.channel.pipeline.nextFormat ≤ ticket → ticket < s.channel.pipeline.ledgerWrite →
    (s.channel.pipeline.ledger.get ticket).state = .scalar
  queue : s.channel.pipeline.readyRead ≤ s.channel.pipeline.readyWrite ∧
    s.channel.pipeline.readyWrite - s.channel.pipeline.readyRead ≤ kNativeReadyCapacity
  watermarks : s.channel.pipeline.observedSequence ≤ s.submittedSequence ∧
    s.submittedSequence ≤ s.channel.pipeline.preparedSequence ∧
    s.channel.pipeline.preparedSequence ≤ s.channel.ring.reportReadSequence ∧
    s.channel.ring.reportReadSequence ≤ s.generatedSequence
  shown : ∀ f, s.peeked = some f → s.channel.pipeline.ready.get s.channel.pipeline.readyRead = f

theorem NativeInv.pipelineOrder {s : NativeSystem κ} (h : NativeInv s) : PipelineOrder s := by
  have hc := h.channel
  obtain ⟨hrn, hnw, hcap⟩ := hc.ledgerOrder
  refine ⟨⟨hrn, hnw, by omega⟩, ?_, ?_, ?_, ?_, h.order, fun f hf => (h.shown f hf).2.symm⟩
  · dsimp only
    rw [← hc.observed, ← hc.drained]
    refine (List.map_congr_left fun ticket ht => ?_).trans (List.map_id _)
    obtain ⟨h1, h2⟩ := List.mem_range'_1.mp ht
    by_cases hlt : ticket < s.channel.pipeline.nextFormat
    · exact (hc.preparedEntries ticket h1 hlt).1
    · exact (hc.scalarEntries ticket (not_lt.mp hlt) (by omega)).1
  · intro ticket h1 h2
    obtain ⟨-, hstate⟩ := hc.preparedEntries ticket h1 h2
    split at hstate
    · exact .inr hstate
    · exact .inl hstate
  · exact fun ticket h1 h2 => (hc.scalarEntries ticket h1 h2).2.1
  · have := hc.queueOrder
    omega

/-- In every run the pipeline is in order, a frame shown to the owner stays as
it was shown until its release, and no step finds anything out of place. -/
theorem pipeline_order {s : NativeSystem κ} (h : NativeRun ops s) : PipelineOrder s ∧
    ∀ a : NativeAction, a.Allowed s →
      ((s.next ops a).channel.status = s.channel.status ∨ a.Latches ops s (s.next ops a).channel.status) ∧
        (a ≠ .release → ∀ f, s.peeked = some f → (s.next ops a).peeked = some f) :=
  ⟨h.inv.pipelineOrder, fun _ allowed => ⟨h.inv.status allowed, fun ha _ hf => h.inv.peeked ha hf⟩⟩

def constantOps : NativeHashOps Unit := ⟨fun _ _ => ((), some (Vector.replicate 32 0))⟩

def sampleFormat : NativeFormatContext :=
  { header :=
      ⟨kStatusMagic, kStatusSchemaV3, kStatusWireBytes, kReportingArtifactVersionV3, Mode.repair.value, 7,
        completeHeaderIdentity, 1, 10, Vector.replicate 16 1, Vector.replicate 32 2⟩
    log := ⟨1, Vector.replicate 16 3, 0, 1, 0, 1, 0, 1000, 100, 100, 1, (Vector.replicate 1024 0).set 0 65⟩
    config := ⟨.repair, .normal⟩
    identities := ⟨Vector.replicate 32 2, Vector.replicate 32 4, Vector.replicate 32 5⟩
    startup := ⟨0, 0, 0, 0, 0, 0, 0, 0, 0⟩ }

def sampleChannel : NativeChannel Unit × TransportReason :=
  initializeNativePipeline ⟨.clear, initializeReportRing 9, .zeroed () sampleFormat⟩ sampleFormat () 1

def NativeSystem.fresh {κ : Type} (c : NativeChannel κ) : NativeSystem κ := ⟨c, none, false, 0, 0, [⟨2, false, 0, 0⟩]⟩

theorem NativeSystem.fresh_channel {κ : Type} (c : NativeChannel κ) : (NativeSystem.fresh c).channel = c := rfl

theorem NativeSystem.fresh_initial {κ : Type} {c : NativeChannel κ} {status : StatusWords} {owner : UInt32}
    {context old : NativeFormatContext} {hashContext oldHash : κ} {qpc : Nat}
    (h : initializeNativePipeline ⟨status, initializeReportRing owner, .zeroed oldHash old⟩ context hashContext qpc =
      (c, .none)) : (NativeSystem.fresh c).InitialAfter [] :=
  ⟨status, owner, hashContext, oldHash, context, old, qpc, Nat.zero_le _, h, rfl, rfl, rfl, rfl, rfl⟩

theorem NativeSystem.fresh_spec {κ : Type} {c : NativeChannel κ} {status : StatusWords} {owner : UInt32}
    {context old : NativeFormatContext} {hashContext oldHash : κ} {qpc : Nat}
    (h : initializeNativePipeline ⟨status, initializeReportRing owner, .zeroed oldHash old⟩ context hashContext qpc =
      (c, .none)) : c.status = status ∧ c.pipeline.format = context ∧ c.pipeline.nextFormat = 1 ∧
        c.pipeline.readyRead = 0 ∧ c.pipeline.ledgerRead = 0 ∧ c.pipeline.heldMatch = false := by
  obtain ⟨hc, hstatus, hring, hready, hledger, hformat, hheld⟩ :=
    initializeNativePipeline_inv (initializeReportRing_inv owner) rfl h
  have hdrained := hc.drained
  have hprepared := hc.prepared
  have hord := hc.ledgerOrder
  have hread : c.ring.reportReadSequence = 0 := by rw [hring]; rfl
  exact ⟨hstatus, hformat, by omega, hready, hledger, hheld⟩

def sampleSystem : NativeSystem Unit := .fresh sampleChannel.1

theorem sampleSystem_channel : sampleSystem.channel = sampleChannel.1 := NativeSystem.fresh_channel _

def sampleRecord : ReportRecordV3 :=
  ⟨{ (default : ReportHeader) with qpc := 100, kind := RecordKindV3.request.code }, default⟩

theorem sampleRecord_timed : (NativeAction.enqueue sampleRecord).Timed sampleFormat := by
  rw [NativeAction.Timed]
  decide

theorem sampleChannel_ready : sampleChannel.2 = .none := by decide +kernel

theorem pair_eq {α β : Type} {p : α × β} {b : β} (h : p.2 = b) : p = (p.1, b) := by
  subst h
  rfl

theorem sampleChannel_eq : initializeNativePipeline ⟨.clear, initializeReportRing 9, .zeroed () sampleFormat⟩
    sampleFormat () 1 = (sampleChannel.1, .none) := by
  have h := pair_eq sampleChannel_ready
  rw [sampleChannel] at h ⊢
  exact h

theorem sampleSystem_initial : sampleSystem.InitialAfter [] := NativeSystem.fresh_initial sampleChannel_eq

theorem sampleSystem_run : NativeRun constantOps sampleSystem := .init ⟨[], sampleSystem_initial⟩

def constantDigest : List UInt8 → Sha256Digest := fun _ => Vector.replicate 32 0

theorem constantOps_digests : constantOps.Digests constantDigest := fun _ _ _ h => (Option.some.inj h).symm

theorem constantOps_isSome (context : Unit) (bytes : List UInt8) : (constantOps.digest context bytes).2.isSome := rfl

/-- Everything generated so far is prepared and observed, apart from `due`
frames that wait for the owner. -/
structure Settled (n due : Nat) (s : NativeSystem Unit) : Prop where
  run : NativeRun constantOps s
  status : s.channel.status = .clear
  texts : ∃ texts, RenderableTexts constantDigest sampleFormat texts s
  generated : s.generatedSequence = n
  formatted : s.channel.pipeline.nextFormat = n + 1
  released : s.channel.pipeline.readyRead + due = n + 1
  receipts : s.channel.pipeline.ledgerRead + due = n + 1
  peeked : s.peeked = none
  free : s.channel.pipeline.heldMatch = false

namespace Settled

variable {n : Nat} {s : NativeSystem Unit}

/-- The owner is shown the frame that is due. -/
theorem shown (h : Settled n 1 s) : ∃ f, NativeRun constantOps { s with peeked := some f } ∧
    s.channel.pipeline.readyRead < s.channel.pipeline.readyWrite := by
  have hinv := h.run.inv
  have hread := h.released
  have hqueue := hinv.channel.queue
  have hnext := h.formatted
  have hlt : s.channel.pipeline.readyRead < s.channel.pipeline.readyWrite := by omega
  have hrun : NativeRun constantOps (s.next constantOps .peek) := .step h.run trivial
  rw [hinv.next_peek hlt] at hrun
  exact ⟨_, hrun, hlt⟩

/-- The owner is shown the frame that is due, submits it and gives it back. -/
theorem hand (h : Settled n 1 s) : ∃ s', NativeRun constantOps s' ∧ s'.channel = releaseFrame s.channel ∧
    s'.submittedFrames = n + 1 ∧ s'.generatedSequence = n ∧ s'.peeked = none := by
  have hinv := h.run.inv
  have hread := h.released
  obtain ⟨f, hrun, hlt⟩ := h.shown
  obtain ⟨shown, hshown⟩ : ∃ t, t = { s with peeked := some f } := ⟨_, rfl⟩
  rw [← hshown] at hrun
  have hsome : shown.peeked = some f := by rw [hshown]
  have hchannel : shown.channel = s.channel := by rw [hshown]
  have hframes : shown.submittedFrames = s.channel.pipeline.readyRead := by
    rcases hinv.submitted with he | ⟨_, hsome⟩
    · rw [hshown]
      exact he
    · rw [h.peeked] at hsome
      cases hsome
  have hnew : ¬ shown.FrameSubmitted f := by
    rw [hrun.inv.frameSubmitted_iff hsome, hframes, hchannel]
    exact Nat.ne_of_lt (Nat.lt_succ_self _)
  obtain ⟨hsub, hsame⟩ := hrun.inv.submit hsome hnew
  obtain ⟨hdone, hkept, hgen⟩ := hrun.inv.submit_frame hsome hnew
  have hsubmit : shown.next constantOps .submit = shown.submit f := by simp only [NativeSystem.next, hsome]
  have hrun' : NativeRun constantOps (shown.submit f) := hsubmit ▸ .step hrun ⟨f, hsome, hnew⟩
  rw [hchannel] at hsame
  have hticket := (hsub.front hkept).2.1
  have hcount := (hsub.frameSubmitted_iff hkept).mp hdone
  rw [hsame] at hticket hcount
  have hrelease : (shown.submit f).next constantOps .release =
      { shown.submit f with channel := releaseFrame s.channel, peeked := none } := by
    simp only [NativeSystem.next, hkept, hsame, hticket, releaseNativeFrame_eq hinv.channel hlt]
  refine ⟨_, .step hrun' (a := .release) ⟨f, hkept, hdone⟩, ?_, ?_, ?_, ?_⟩
  · rw [hrelease]
  · rw [hrelease]
    exact hcount.trans (by omega)
  · rw [hrelease]
    exact hgen.trans (by rw [hshown]; exact h.generated)
  · rw [hrelease]

/-- The worker reads the frame back with a snapshot that shows its submission. -/
theorem deliver (h : Settled n 1 s) : ∃ s', Settled n 0 s' := by
  obtain ⟨texts, ht⟩ := h.texts
  obtain ⟨s', hrun, hchannel, hframes, hgen, hpeeked⟩ := h.hand
  have hledger := h.receipts
  have hnext := h.formatted
  have hread := h.released
  have hlt : s.channel.pipeline.ledgerRead < s.channel.pipeline.nextFormat := by omega
  have hrunp : NativeRun constantOps (s'.next constantOps .publish) := .step hrun trivial
  have htexts : NativeTexts constantDigest sampleFormat texts (s'.next constantOps .publish) := by
    refine ⟨hrunp.inv, ?_, ?_⟩
    all_goals
      simp only [NativeSystem.next, hchannel]
    · exact ht.native.sameFormat
    · exact ht.native.texts.releaseFrame
  have hrecords : RecordsInv (Renderable sampleFormat) (s'.next constantOps .publish).channel := by
    simp only [NativeSystem.next, hchannel]
    exact ht.records.releaseFrame
  have hrecords' := RenderableTexts.receipt_records constantOps ⟨htexts, hrecords⟩
    (texts s.channel.pipeline.ledgerRead)
  have hsame : (s'.next constantOps .publish).channel = releaseFrame s.channel := hchannel
  obtain ⟨context, hmatch⟩ := htexts.receipt_front constantOps_digests constantOps_isSome
    (by rw [hsame]; exact h.free) (by rw [hsame]; exact hlt)
  rw [hsame] at hmatch
  have hreceipt : ((s'.next constantOps .publish).next constantOps (.receipt
      (texts s.channel.pipeline.ledgerRead))).channel = holdFront (releaseFrame s.channel) context := by
    simp only [NativeSystem.next, hchannel]
    exact congrArg Prod.snd hmatch
  have hrunr : NativeRun constantOps ((s'.next constantOps .publish).next constantOps (.receipt
      (texts s.channel.pipeline.ledgerRead))) := .step hrunp trivial
  have hmem : s'.snapshot ∈ ((s'.next constantOps .publish).next constantOps (.receipt
      (texts s.channel.pipeline.ledgerRead))).published := List.mem_append_right _ (List.mem_singleton_self _)
  have hruna := NativeRun.step hrunr (a := .acknowledge s'.snapshot) hmem
  have hcover : s'.snapshot.Covers s.channel.pipeline.ledgerRead := by
    unfold OwnerSnapshotV3.Covers
    unfold NativeSystem.submittedFrames at hframes
    split at hframes
    · rename_i hs
      split
      · exact hs
      · change s.channel.pipeline.ledgerRead ≤ s'.submittedSequence
        omega
    · omega
  have hack : acknowledgeNativeReceipt (holdFront (releaseFrame s.channel) context) s'.snapshot =
      (acknowledged (holdFront (releaseFrame s.channel) context), true) := by
    have hinv := hrunr.inv.channel
    rw [hreceipt] at hinv
    rcases acknowledgeNativeReceipt_spec hinv s'.snapshot with ⟨_, hno⟩ | ⟨he, _⟩
    · refine absurd hcover (hno rfl ?_ ?_)
      · simp only [NativeSystem.snapshot]
        omega
      · simp only [NativeSystem.snapshot]
        omega
    · exact he
  have hlast : (((s'.next constantOps .publish).next constantOps (.receipt
      (texts s.channel.pipeline.ledgerRead))).next constantOps (.acknowledge s'.snapshot)).channel =
        acknowledged (holdFront (releaseFrame s.channel) context) := by
    exact (congrArg (fun c => (acknowledgeNativeReceipt c s'.snapshot).1) hreceipt).trans (congrArg Prod.fst hack)
  have hlastRecords := RenderableTexts.acknowledge_records constantOps ⟨htexts.receipt _, hrecords'⟩ s'.snapshot
  refine ⟨_, hruna, ?_, ⟨texts, (htexts.receipt _).acknowledge hmem, hlastRecords⟩, hgen, ?_, ?_, ?_, hpeeked, ?_⟩
  all_goals rw [hlast]
  · exact h.status
  · exact hnext
  · exact hread
  · exact hledger
  · rfl

theorem accepted (h : Settled n 0 s) (hroom : n + 2 ≤ uint64Max) :
    (s.next constantOps (.enqueue sampleRecord)).channel =
        { s.channel with ring := pushReport s.channel.ring sampleRecord } ∧
      (s.next constantOps (.enqueue sampleRecord)).generatedSequence = n + 1 ∧
      (NativeAction.enqueue sampleRecord).Allowed s := by
  have hinv := h.run.inv
  have hgen := hinv.generated
  have hobserved := hinv.channel.observed
  have hread := h.receipts
  have hn := h.generated
  have hobs := hinv.channel.observed_le
  have hcredit : s.generatedSequence < s.channel.pipeline.observedSequence + kReportRecordCapacity := by
    split at hobserved
    · simp only [kReportRecordCapacity]
      omega
    · omega
  have hadmission : admission s.channel.status = .accepted := by rw [h.status]; rfl
  have hvalid : (validHeader sampleRecord.header && validRecovery sampleRecord) = true := by decide
  rcases enqueueReport_spec hinv.channel.ring s.channel.status (by omega) sampleRecord with
    ⟨hadm, _⟩ | ⟨hbad, _⟩ | ⟨hmax, _⟩ | ⟨_, _, _, he⟩
  · exact absurd hadmission hadm
  · rw [hvalid] at hbad
    cases hbad
  · omega
  · simp only [NativeSystem.next, he, if_true]
    exact ⟨trivial, by omega, hcredit⟩

theorem preparing (h : Settled n 0 s) (hroom : n + 2 ≤ uint64Max) :
    NativeRun constantOps (s.next constantOps (.enqueue sampleRecord)) ∧
      ∃ texts, RenderableTexts constantDigest sampleFormat texts (s.next constantOps (.enqueue sampleRecord)) := by
  obtain ⟨_, _, hallowed⟩ := h.accepted hroom
  obtain ⟨texts, ht⟩ := h.texts
  obtain ⟨texts', _, ht'⟩ := ht.next constantOps_digests hallowed sampleRecord_timed
  exact ⟨.step h.run hallowed, texts', ht'⟩

theorem prepared (h : Settled n 0 s) (hroom : n + 2 ≤ uint64Max) :
    let s' := (s.next constantOps (.enqueue sampleRecord)).next constantOps (.prepare 1)
    (s'.channel.status = .clear ∧ s'.channel.pipeline.nextFormat = n + 2 ∧ n + 2 ≠ uint64Max ∧
        s'.channel.pipeline.ledgerRead = n + 1 ∧ s'.channel.pipeline.readyRead = n + 1 ∧
        s'.channel.pipeline.heldMatch = false) ∨
      s'.channel.status = loseStatus .clear .counterOverflow ∧ n + 2 = uint64Max := by
  intro s'
  obtain ⟨hchannel, hgenerated, _⟩ := h.accepted hroom
  obtain ⟨hrun, texts, ht⟩ := h.preparing hroom
  have hc := hrun.inv.channel
  have hledger : (s.next constantOps (.enqueue sampleRecord)).channel.pipeline.ledgerRead = n + 1 := by
    rw [hchannel]
    exact h.receipts
  have hready : (s.next constantOps (.enqueue sampleRecord)).channel.pipeline.readyRead = n + 1 := by
    rw [hchannel]
    exact h.released
  have hheld : (s.next constantOps (.enqueue sampleRecord)).channel.pipeline.heldMatch = false := by
    rw [hchannel]
    exact h.free
  have hstatus : (s.next constantOps (.enqueue sampleRecord)).channel.status = .clear := by
    rw [hchannel]
    exact h.status
  have hbefore : (s.next constantOps (.enqueue sampleRecord)).channel.pipeline.nextFormat = n + 1 := by
    rw [hchannel]
    exact h.formatted
  have hgen := hrun.inv.generated
  have hdrained := hc.drained
  have hord := hc.ledgerOrder
  obtain ⟨c, hsteps, hkept, hres⟩ := prepareNativeFrames_spec constantOps hc Nat.one_ne_zero
  have hframe := Prepares.frame hsteps hc
  have hci := Prepares.inv hsteps hc
  have hwritten := hframe.written.1
  have hread := hci.drained
  have hreadOrder := hci.ring.order
  have hledger' := hframe.ledgerRead
  have hready' := hframe.readyRead
  have hqueue := hci.queue
  have hcap : kReportBatchLimit = 32 := rfl
  have hlcap : kNativeLedgerCapacity = 256 := rfl
  have hrcap : kNativeReadyCapacity = 8 := rfl
  have hord' := hci.ledgerOrder
  rcases hres with ⟨he, hstop, hfull⟩ | ⟨he, hmax⟩ | ⟨r, hbody, hpending, hnone, _⟩
  · have hlast : s'.channel = c := (NativeSystem.next_prepare _ _).trans (congrArg Prod.fst he)
    rw [hlast]
    refine .inl ⟨hkept.trans hstatus, ?_, ?_, hledger'.trans hledger, hready'.trans hready, hframe.receipts.2.2.trans hheld⟩
    · omega
    · omega
  · have hlast : s'.channel = c.lose .counterOverflow := (NativeSystem.next_prepare _ _).trans (congrArg Prod.fst he)
    rw [hlast]
    refine .inr ⟨congrArg (loseStatus · .counterOverflow) (hkept.trans hstatus), ?_⟩
    omega
  · have hformat := hframe.format.1.trans ht.native.sameFormat
    have hrender := (Prepares.records hsteps hc ht.records).scalars _ le_rfl hpending _ hbody
    exact absurd hnone (renderRecord_renders (hformat ▸ by decide) (hformat ▸ hrender) constantOps_isSome)

/-- One more record is recorded and prepared, as long as the counter has room. -/
theorem record (h : Settled n 0 s) (hroom : n + 2 < uint64Max) : ∃ s', Settled (n + 1) 1 s' := by
  obtain ⟨hrun, texts, ht⟩ := h.preparing hroom.le
  obtain ⟨texts', _, ht'⟩ := ht.next constantOps_digests (a := .prepare 1) trivial trivial
  rcases h.prepared hroom.le with ⟨hstatus, hnext, _, hledger, hready, hheld⟩ | ⟨_, hmax⟩
  · obtain ⟨_, hgen, _⟩ := h.accepted hroom.le
    refine ⟨_, .step hrun (a := .prepare 1) trivial, hstatus, ⟨texts', ht'⟩, hgen, hnext, ?_, ?_, ?_, hheld⟩
    · rw [hready]
    · rw [hledger]
    · exact h.peeked
  · omega

end Settled

theorem settled_initial : Settled 0 1 sampleSystem := by
  have ht : RenderableTexts constantDigest _ _ _ :=
    RenderableTexts.init sampleSystem_initial (fun _ hr => absurd hr (by simp))
  obtain ⟨hstatus, hformat, hnext, hready, hledger, hheld⟩ := NativeSystem.fresh_spec sampleChannel_eq
  rw [← sampleSystem_channel] at hstatus hformat hnext hready hledger hheld
  rw [hformat] at ht
  exact ⟨sampleSystem_run, hstatus, ⟨_, ht⟩, rfl, hnext, by rw [hready], by rw [hledger], rfl, hheld⟩

theorem settled_all (n : Nat) (hn : n + 2 ≤ uint64Max) : ∃ s, Settled n 0 s := by
  induction n with
  | zero => exact settled_initial.deliver
  | succ n ih =>
      obtain ⟨s, hs⟩ := ih (by omega)
      obtain ⟨s', hs'⟩ := hs.record (by omega)
      exact hs'.deliver

/-- Two records are behind the pipeline and the owner looks at a third one. -/
theorem pipeline_order_sample : ∃ (s : NativeSystem Unit) (f : NativeReadyFrame), NativeRun constantOps s ∧
    s.generatedSequence = 3 ∧ s.channel.pipeline.ledgerRead = 3 ∧ s.channel.pipeline.nextFormat = 4 ∧
    s.peeked = some f ∧ PipelineOrder s ∧ (s.next constantOps (.prepare 1)).peeked = some f := by
  obtain ⟨s, hs⟩ := settled_all 2 (by decide)
  obtain ⟨s', hs'⟩ := hs.record (by decide)
  obtain ⟨f, hrun, -⟩ := hs'.shown
  obtain ⟨horder, hsteps⟩ := pipeline_order hrun
  exact ⟨_, f, hrun, hs'.generated, Nat.succ.inj hs'.receipts, hs'.formatted, rfl, horder,
    (hsteps (.prepare 1) trivial).2 (by simp) f rfl⟩

/-- Nothing but the end of the counter is wrong: an open pipeline in order that
the next preparation closes. -/
theorem counter_overflow_reached : ∃ s : NativeSystem Unit, NativeRun constantOps s ∧
    s.channel.status = .clear ∧ (s.next constantOps (.prepare 1)).channel.status = loseStatus .clear .counterOverflow := by
  obtain ⟨s, hs⟩ := settled_all (uint64Max - 2) (by decide)
  have hroom : uint64Max - 2 + 2 ≤ uint64Max := by decide
  obtain ⟨hrun, _⟩ := hs.preparing hroom
  obtain ⟨hchannel, _⟩ := hs.accepted hroom
  rcases hs.prepared hroom with ⟨_, _, hne, _⟩ | ⟨hlost, _⟩
  · exact absurd rfl hne
  · refine ⟨_, hrun, ?_, hlost⟩
    rw [hchannel]
    exact hs.status

end RS2ServerFix.NativeLog
