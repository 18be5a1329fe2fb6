import Mathlib.Logic.Relation
import RS2ServerFix.NativeLog.Pipeline

namespace RS2ServerFix.NativeLog

open Reporting Lib

variable {κ : Type} {ops : NativeHashOps κ} {c c' : NativeChannel κ} {qpc : Nat}

/-- The entry of a prepared frame: ready, or matched when it is the held front. -/
def PreparedEntry (p : NativePipeline κ) (t : Nat) (e : NativeLedgerEntry) : Prop :=
  e.sequence = t ∧ e.state = if t = p.ledgerRead ∧ p.heldMatch = true then .matched else .ready

def ScalarEntry (t : Nat) (e : NativeLedgerEntry) : Prop :=
  e.sequence = t ∧ e.state = .scalar ∧ ∃ r, e.body = .scalar r ∧ r.header.sequence.toNat = t

def QueuedFrame (t : Nat) (f : NativeReadyFrame) : Prop :=
  f.ticket = t + 1 ∧ f.sequence = t ∧ f.ledgerIndex = t % kNativeLedgerCapacity ∧
    validMessage f.message f.chars = true

structure RingInv (ring : ReportRingV3) : Prop where
  ready : ring.ready = true
  order : ring.reportReadSequence ≤ ring.reportWriteSequence
  room : ring.reportWriteSequence ≤ ring.reportReadSequence + kReportRecordCapacity
  counter : ring.reportWriteSequence ≤ uint64Max
  records : ring.slots.Holds ring.reportReadSequence ring.reportWriteSequence fun k r => slotReadable ring k r = true

/-- Record `n` of the ring is ticket `n` of the ledger and frame `n` of the
ready queue, so one number runs through all three. -/
structure ChannelInv (c : NativeChannel κ) : Prop where
  initialized : c.pipeline.initialized = true
  ring : RingInv c.ring
  drained : c.pipeline.ledgerWrite = c.ring.reportReadSequence + 1
  credit : c.ring.reportWriteSequence ≤ c.pipeline.observedSequence + kReportRecordCapacity
  ledgerOrder : c.pipeline.ledgerRead ≤ c.pipeline.nextFormat ∧ c.pipeline.nextFormat ≤ c.pipeline.ledgerWrite ∧
    c.pipeline.ledgerWrite ≤ c.pipeline.ledgerRead + kNativeLedgerCapacity
  counter : c.pipeline.ledgerWrite ≤ uint64Max
  preparedEntries : c.pipeline.ledger.Holds c.pipeline.ledgerRead c.pipeline.nextFormat (PreparedEntry c.pipeline)
  scalarEntries : c.pipeline.ledger.Holds c.pipeline.nextFormat c.pipeline.ledgerWrite ScalarEntry
  freeEntries : c.pipeline.ledger.Holds c.pipeline.ledgerWrite (c.pipeline.ledgerRead + kNativeLedgerCapacity)
    fun _ e => e = .clear
  held : c.pipeline.heldMatch = true → c.pipeline.ledgerRead < c.pipeline.nextFormat
  prepared : c.pipeline.preparedSequence + 1 = c.pipeline.nextFormat
  queue : c.pipeline.readyWrite = c.pipeline.nextFormat
  queueOrder : c.pipeline.readyRead ≤ c.pipeline.readyWrite ∧
    c.pipeline.readyWrite ≤ c.pipeline.readyRead + kNativeReadyCapacity
  frames : c.pipeline.ready.Holds c.pipeline.readyRead c.pipeline.readyWrite QueuedFrame
  observed : c.pipeline.ledgerRead = if c.pipeline.startupObserved then c.pipeline.observedSequence + 1 else 0
  unobserved : c.pipeline.startupObserved = false → c.pipeline.observedSequence = 0

namespace ChannelInv

theorem ledgerValid (h : ChannelInv c) : ledgerValid c.pipeline = true := by
  obtain ⟨h1, h2, h3⟩ := h.ledgerOrder
  simp only [NativeLog.ledgerValid, Bool.and_eq_true, decide_eq_true_eq]
  omega

theorem queueStateValid (h : ChannelInv c) : queueStateValid c.pipeline = true := by
  obtain ⟨h1, h2⟩ := h.queueOrder
  simp only [NativeLog.queueStateValid, Bool.and_eq_true, decide_eq_true_eq]
  omega

theorem observed_le (h : ChannelInv c) : c.pipeline.observedSequence ≤ c.pipeline.preparedSequence ∧
    c.pipeline.preparedSequence ≤ c.ring.reportReadSequence := by
  have h1 := h.observed
  have h2 := h.unobserved
  have h3 := h.prepared
  have h4 := h.drained
  obtain ⟨h5, h6, _⟩ := h.ledgerOrder
  by_cases hs : c.pipeline.startupObserved = true
  · rw [if_pos hs] at h1
    omega
  · have := h2 (by simpa using hs)
    omega

theorem ofStatus (h : ChannelInv c) (status : StatusWords) : ChannelInv { c with status := status } := by
  cases c
  exact ⟨h.1, h.2, h.3, h.4, h.5, h.6, h.7, h.8, h.9, h.10, h.11, h.12, h.13, h.14, h.15, h.16⟩

end ChannelInv

def popReport (ring : ReportRingV3) : ReportRingV3 :=
  { ring with
    slots := ring.slots.set ring.reportReadSequence default
    reportReadSequence := ring.reportReadSequence + 1 }

theorem dequeue_empty {ring : ReportRingV3} (h : RingInv ring) (status : StatusWords)
    (he : ring.reportReadSequence = ring.reportWriteSequence) : dequeueReport status ring = (status, ring, .empty) := by
  rw [dequeueReport, if_neg (by simp [h.ready])]
  dsimp only
  rw [if_neg (by omega), if_pos he]

theorem dequeue_record {ring : ReportRingV3} (h : RingInv ring) (status : StatusWords)
    (hlt : ring.reportReadSequence < ring.reportWriteSequence) :
    dequeueReport status ring = (status, popReport ring, .record (ring.slots.get ring.reportReadSequence)) := by
  have hroom := h.room
  have hslot := h.records _ le_rfl hlt
  rw [dequeueReport, if_neg (by simp [h.ready])]
  dsimp only
  rw [if_neg (by omega), if_neg hlt.ne, if_neg (by simp [hslot])]
  rfl

theorem popReport_inv {ring : ReportRingV3} (h : RingInv ring)
    (hlt : ring.reportReadSequence < ring.reportWriteSequence) : RingInv (popReport ring) := by
  have hroom := h.room
  refine ⟨h.ready, hlt, hroom.trans (by simp only [popReport]; omega), h.counter, ?_⟩
  intro k hk hk'
  have hk' : k < ring.reportWriteSequence := hk'
  have hk : ring.reportReadSequence + 1 ≤ k := hk
  simp only [kReportRecordCapacity] at hroom
  have hne := ring.slots.get_set_ne (i := ring.reportReadSequence) (j := k) default (by omega) (by omega) (by omega)
  have hold := h.records k (by omega) hk'
  rw [← hne] at hold
  exact hold

/-- One record moves: from the ring to its ledger home, or from there to a
ready slot. Every preparation is a run of these. -/
inductive PrepareStep (ops : NativeHashOps κ) (qpc : Nat) : NativeChannel κ → NativeChannel κ → Prop
  | drain {c : NativeChannel κ} (room : c.pipeline.ledgerWrite < c.pipeline.ledgerRead + kNativeLedgerCapacity)
      (below : c.pipeline.ledgerWrite < uint64Max)
      (pending : c.ring.reportReadSequence < c.ring.reportWriteSequence) :
      PrepareStep ops qpc c (storeDrained c (popReport c.ring) (c.ring.slots.get c.ring.reportReadSequence))
  | format {c : NativeChannel κ} (room : c.pipeline.readyWrite < c.pipeline.readyRead + kNativeReadyCapacity)
      (pending : c.pipeline.nextFormat < c.pipeline.ledgerWrite) {r : ReportRecordV3} {p : NativePipeline κ}
      {text : List UInt8} {wide : List UInt16} {digest : Sha256Digest}
      (body : (c.pipeline.ledger.get c.pipeline.nextFormat).body = .scalar r)
      (render : renderRecord ops c.pipeline r = (p, some (text, wide, digest))) :
      PrepareStep ops qpc c (storeFormatted c p qpc text wide digest)

/-- Rendering only moves the formatting detail and the digest provider. -/
theorem renderRecord_eq (ops : NativeHashOps κ) (p : NativePipeline κ) (r : ReportRecordV3) :
    ∃ detail context, (renderRecord ops p r).1 = { p with detail := detail, hashContext := context } := by
  unfold renderRecord
  dsimp only
  split
  · exact ⟨_, _, rfl⟩
  · exact ⟨_, _, rfl⟩

theorem renderRecord_some {p q : NativePipeline κ} {r : ReportRecordV3} {text : List UInt8} {wide : List UInt16}
    {digest : Sha256Digest} (h : renderRecord ops p r = (q, some (text, wide, digest))) :
    formatNativeRecord p.format r (kMessageLimit + 1) (recoveryDetail p.format.config p.detail r).1 = some text ∧
      prepareMessage text (kMessageLimit + 1) = some wide ∧ (ops.digest p.hashContext text).2 = some digest := by
  unfold renderRecord at h
  dsimp only at h
  split at h
  · cases h
  · rename_i t ht
    simp only [Prod.mk.injEq, Option.bind_eq_some_iff, Option.map_eq_some_iff] at h
    obtain ⟨_, d, hd, w, hw, rfl, rfl, rfl⟩ := h
    exact ⟨ht, hw, hd⟩

theorem prepareMessage_valid {text : List UInt8} {capacity : Nat} {wide : List UInt16}
    (h : prepareMessage text capacity = some wide) : validMessage wide text.length = true := by
  unfold prepareMessage at h
  split at h
  · cases h
  · rename_i hlen
    simp only [not_or, not_lt, not_le] at hlen
    split at h
    · rename_i hp
      injection h with h
      subst h
      simp only [validMessage, Bool.and_eq_true, decide_eq_true_eq]
      refine ⟨⟨⟨⟨hlen.1, hlen.2.1⟩, by simp⟩, ?_⟩, ?_⟩
      · rw [List.take_append_of_le_length (by simp), List.take_of_length_le (by simp), List.all_map]
        have hall := List.all_eq_true.mp hp.1
        refine List.all_eq_true.mpr fun b hb => ?_
        have hb' := hall b hb
        simp only [printable, Bool.and_eq_true, decide_eq_true_eq, UInt8.le_iff_toNat_le] at hb'
        simp only [Function.comp_apply, Bool.and_eq_true, decide_eq_true_eq, UInt16.le_iff_toNat_le,
          UInt8.toNat_toUInt16]
        exact hb'
      · rw [List.take_append_of_le_length (by simpa using hlen.1), ← List.map_take, hp.2]
    · cases h

theorem storeDrained_inv (h : ChannelInv c)
    (room : c.pipeline.ledgerWrite < c.pipeline.ledgerRead + kNativeLedgerCapacity)
    (below : c.pipeline.ledgerWrite < uint64Max)
    (pending : c.ring.reportReadSequence < c.ring.reportWriteSequence) :
    ChannelInv (storeDrained c (popReport c.ring) (c.ring.slots.get c.ring.reportReadSequence)) := by
  have hslot := h.ring.records _ le_rfl pending
  simp only [slotReadable, Bool.and_eq_true, decide_eq_true_eq] at hslot
  have hseq : (c.ring.slots.get c.ring.reportReadSequence).header.sequence.toNat = c.pipeline.ledgerWrite :=
    hslot.1.1.1.1.1.trans h.drained.symm
  obtain ⟨hrn, hnw, hcap⟩ := h.ledgerOrder
  have hcredit := h.credit
  have hobs := h.observed_le
  refine ⟨h.initialized, popReport_inv h.ring pending, ?_, h.credit, ⟨hrn, hnw.trans (Nat.le_succ _), room⟩, below, ?_, ?_, ?_,
    h.held, h.prepared, h.queue, h.queueOrder, h.frames, h.observed, h.unobserved⟩
  · exact congrArg (· + 1) h.drained
  · exact h.preparedEntries.update (hrn.trans hnw) room (hnw.trans hcap) (fun hlt => absurd hlt (by omega))
  · exact h.scalarEntries.push hnw (by simp only [kNativeLedgerCapacity] at room; omega) ⟨hseq, rfl, _, rfl, hseq⟩
  · intro t ht ht'
    have ht : c.pipeline.ledgerWrite + 1 ≤ t := ht
    have ht' : t < c.pipeline.ledgerRead + kNativeLedgerCapacity := ht'
    simp only [kNativeLedgerCapacity] at ht'
    have hold := h.freeEntries t (by omega) ht'
    change (c.pipeline.ledger.set c.pipeline.ledgerWrite _).get t = _
    rw [Slots.get_set_ne _ _ (by omega) (by omega) (by omega)]
    exact hold

theorem storeFormatted_inv (h : ChannelInv c)
    (room : c.pipeline.readyWrite < c.pipeline.readyRead + kNativeReadyCapacity)
    (pending : c.pipeline.nextFormat < c.pipeline.ledgerWrite) {r : ReportRecordV3} {p : NativePipeline κ}
    {text : List UInt8} {wide : List UInt16} {digest : Sha256Digest}
    (render : renderRecord ops c.pipeline r = (p, some (text, wide, digest))) :
    ChannelInv (storeFormatted c p qpc text wide digest) := by
  obtain ⟨detail, context, hp⟩ := renderRecord_eq ops c.pipeline r
  rw [render] at hp
  dsimp only at hp
  subst hp
  obtain ⟨-, hwide, -⟩ := renderRecord_some render
  obtain ⟨hrn, hnw, hcap⟩ := h.ledgerOrder
  obtain ⟨hseq, -, -⟩ := h.scalarEntries _ le_rfl pending
  refine ⟨h.initialized, h.ring, h.drained, h.credit,
    ⟨hrn.trans (Nat.le_succ _), pending, hcap⟩, h.counter, ?_, ?_, ?_, fun hh => (h.held hh).trans (Nat.lt_succ_self _), ?_, ?_, ⟨?_, room⟩,
    ?_, h.observed, h.unobserved⟩
  · refine h.preparedEntries.push hrn ?_ ⟨hseq, ?_⟩
    · simp only [kNativeLedgerCapacity] at hcap
      omega
    · exact (if_neg fun hh => absurd (h.held hh.2) (by omega)).symm
  · refine (h.scalarEntries.mono (Nat.le_succ _) le_rfl).imp_get fun t ht ht' => ?_
    simp only [kNativeLedgerCapacity] at hcap
    exact c.pipeline.ledger.get_set_ne (i := c.pipeline.nextFormat) _ (by omega) (by omega) (by omega)
  · refine h.freeEntries.imp_get fun t ht ht' => ?_
    simp only [kNativeLedgerCapacity] at ht'
    exact c.pipeline.ledger.get_set_ne (i := c.pipeline.nextFormat) _ (by omega) (by omega) (by omega)
  · exact congrArg (· + 1) hseq
  · exact congrArg (· + 1) h.queue
  · exact h.queueOrder.1.trans (Nat.le_succ _)
  · refine h.frames.push h.queueOrder.1 room ⟨rfl, ?_, ?_, prepareMessage_valid hwide⟩
    · exact hseq.trans h.queue.symm
    · exact congrArg (· % kNativeLedgerCapacity) h.queue.symm

theorem PrepareStep.inv (hs : PrepareStep ops qpc c c') (h : ChannelInv c) : ChannelInv c' := by
  cases hs with
  | drain room below pending => exact storeDrained_inv h room below pending
  | format room pending body render => exact storeFormatted_inv h room pending render

abbrev Prepares (ops : NativeHashOps κ) (qpc : Nat) : NativeChannel κ → NativeChannel κ → Prop :=
  Relation.ReflTransGen (PrepareStep ops qpc)

theorem Prepares.inv (hs : Prepares ops qpc c c') (h : ChannelInv c) : ChannelInv c' := by
  induction hs with
  | refl => exact h
  | tail _ step ih => exact step.inv ih

/-- What a preparation leaves alone: the marks of the owner and of the
receipts, the entries and frames that were there, and the writing side of the
ring. -/
structure PrepareFrame (c c' : NativeChannel κ) : Prop where
  readyRead : c'.pipeline.readyRead = c.pipeline.readyRead
  readyWrite : c.pipeline.readyWrite ≤ c'.pipeline.readyWrite
  frames : ∀ t, c.pipeline.readyRead ≤ t → t < c.pipeline.readyWrite → c'.pipeline.ready.get t = c.pipeline.ready.get t
  ledgerRead : c'.pipeline.ledgerRead = c.pipeline.ledgerRead
  entries : ∀ t, c.pipeline.ledgerRead ≤ t → t < c.pipeline.nextFormat →
    c'.pipeline.ledger.get t = c.pipeline.ledger.get t
  receipts : c'.pipeline.observedSequence = c.pipeline.observedSequence ∧
    c'.pipeline.startupObserved = c.pipeline.startupObserved ∧ c'.pipeline.heldMatch = c.pipeline.heldMatch
  written : c'.ring.reportWriteSequence = c.ring.reportWriteSequence ∧ c'.ring.ownerThreadId = c.ring.ownerThreadId
  format : c'.pipeline.format = c.pipeline.format ∧ c'.pipeline.bootstrap = c.pipeline.bootstrap

theorem PrepareFrame.refl (c : NativeChannel κ) : PrepareFrame c c :=
  ⟨rfl, le_rfl, fun _ _ _ => rfl, rfl, fun _ _ _ => rfl, ⟨rfl, rfl, rfl⟩, ⟨rfl, rfl⟩, ⟨rfl, rfl⟩⟩

theorem PrepareStep.frame (hs : PrepareStep ops qpc c c') (h : ChannelInv c) : PrepareFrame c c' := by
  obtain ⟨hrn, hnw, hcap⟩ := h.ledgerOrder
  cases hs with
  | drain room below pending =>
      refine ⟨rfl, le_rfl, fun _ _ _ => rfl, rfl, fun t ht ht' => ?_, ⟨rfl, rfl, rfl⟩, ⟨rfl, rfl⟩, ⟨rfl, rfl⟩⟩
      simp only [kNativeLedgerCapacity] at room
      exact c.pipeline.ledger.get_set_ne (i := c.pipeline.ledgerWrite) _ (by omega) (by omega) (by omega)
  | @format room pending r p text wide digest body render =>
      obtain ⟨detail, context, hp⟩ := renderRecord_eq ops c.pipeline r
      rw [render] at hp
      dsimp only at hp
      subst hp
      refine ⟨rfl, Nat.le_succ _, fun t ht ht' => ?_, rfl, fun t ht ht' => ?_, ⟨rfl, rfl, rfl⟩, ⟨rfl, rfl⟩, ⟨rfl, rfl⟩⟩
      · simp only [kNativeReadyCapacity] at room
        exact c.pipeline.ready.get_set_ne (i := c.pipeline.readyWrite) _ (by omega) (by omega) (by omega)
      · simp only [kNativeLedgerCapacity] at hcap
        exact c.pipeline.ledger.get_set_ne (i := c.pipeline.nextFormat) _ (by omega) (by omega) (by omega)

theorem PrepareFrame.trans {a b : NativeChannel κ} (h : PrepareFrame c a) (h' : PrepareFrame a b)
    (hc : c.pipeline.nextFormat ≤ a.pipeline.nextFormat) : PrepareFrame c b := by
  refine ⟨h'.readyRead.trans h.readyRead, h.readyWrite.trans h'.readyWrite, fun t ht ht' => ?_,
    h'.ledgerRead.trans h.ledgerRead, fun t ht ht' => ?_,
    ⟨h'.receipts.1.trans h.receipts.1, h'.receipts.2.1.trans h.receipts.2.1, h'.receipts.2.2.trans h.receipts.2.2⟩,
    ⟨h'.written.1.trans h.written.1, h'.written.2.trans h.written.2⟩,
    ⟨h'.format.1.trans h.format.1, h'.format.2.trans h.format.2⟩⟩
  · rw [h'.frames t (h.readyRead ▸ ht) (ht'.trans_le h.readyWrite), h.frames t ht ht']
  · rw [h'.entries t (h.ledgerRead ▸ ht) (ht'.trans_le hc), h.entries t ht ht']

theorem Prepares.frame (hs : Prepares ops qpc c c') (h : ChannelInv c) : PrepareFrame c c' := by
  induction hs with
  | refl => exact .refl c
  | @tail a b hrun step ih =>
      have ha := Prepares.inv hrun h
      exact ih.trans (step.frame ha) (by rw [← h.queue, ← ha.queue]; exact ih.readyWrite)

/-- Draining stops at a full ledger, an empty ring or its batch limit; only
the end of the counter makes it fail. -/
theorem drainReports_spec (ops : NativeHashOps κ) (qpc count : Nat) (h : ChannelInv c) :
    ∃ c', Prepares ops qpc c c' ∧ c'.status = c.status ∧
      (drainReports count c = (c', true) ∧
          (c'.pipeline.ledgerRead + kNativeLedgerCapacity ≤ c'.pipeline.ledgerWrite ∨
            c'.ring.reportReadSequence = c'.ring.reportWriteSequence ∧ c'.pipeline.ledgerWrite ≠ uint64Max ∨
            c.ring.reportReadSequence + count ≤ c'.ring.reportReadSequence) ∨
        drainReports count c = (c'.lose .counterOverflow, false) ∧ c'.pipeline.ledgerWrite = uint64Max) := by
  induction count generalizing c with
  | zero => exact ⟨c, .refl, rfl, .inl ⟨rfl, .inr (.inr le_rfl)⟩⟩
  | succ count ih =>
      have hcap := h.ledgerOrder
      rw [drainReports]
      dsimp only
      by_cases hfull : kNativeLedgerCapacity ≤ c.pipeline.ledgerWrite - c.pipeline.ledgerRead
      · refine ⟨c, .refl, rfl, .inl ⟨if_pos hfull, .inl ?_⟩⟩
        omega
      · rw [if_neg hfull]
        by_cases hmax : c.pipeline.ledgerWrite = uint64Max
        · exact ⟨c, .refl, rfl, .inr ⟨if_pos hmax, hmax⟩⟩
        · have hroom : c.pipeline.ledgerWrite < c.pipeline.ledgerRead + kNativeLedgerCapacity := by omega
          have hfree := h.freeEntries _ le_rfl hroom
          rw [if_neg hmax, if_neg (by simp [hfree, NativeLedgerEntry.clear])]
          by_cases hempty : c.ring.reportReadSequence = c.ring.reportWriteSequence
          · rw [dequeue_empty h.ring _ hempty]
            have hsame : c.setEntry c.pipeline.ledgerWrite .clear = c := by
              rw [← hfree, NativeChannel.setEntry, Slots.set_get]
            exact ⟨c, .refl, rfl, .inl ⟨congrArg (·, true) hsame, .inr (.inl ⟨hempty, hmax⟩)⟩⟩
          · have hlt : c.ring.reportReadSequence < c.ring.reportWriteSequence := lt_of_le_of_ne h.ring.order hempty
            rw [dequeue_record h.ring _ hlt]
            have hstep : PrepareStep ops qpc c (storeDrained c (popReport c.ring)
                (c.ring.slots.get c.ring.reportReadSequence)) := .drain hroom (lt_of_le_of_ne h.counter hmax) hlt
            obtain ⟨c', hrun, hstatus, hres⟩ := ih (hstep.inv h)
            refine ⟨c', .head hstep hrun, hstatus, ?_⟩
            rcases hres with ⟨hd, hstop⟩ | hover
            · refine .inl ⟨hd, ?_⟩
              have hread : (storeDrained c (popReport c.ring)
                (c.ring.slots.get c.ring.reportReadSequence)).ring.reportReadSequence =
                  c.ring.reportReadSequence + 1 := rfl
              rw [hread] at hstop
              omega
            · exact .inr hover

/-- One round of formatting under the invariant. -/
theorem formatNext_spec (ops : NativeHashOps κ) (qpc : Nat) (h : ChannelInv c)
    (pending : c.pipeline.nextFormat < c.pipeline.ledgerWrite) :
    formatNext ops c qpc = .full c ∧ c.pipeline.readyRead + kNativeReadyCapacity ≤ c.pipeline.readyWrite ∨
      formatNext ops c qpc = .lost (c.lose .counterOverflow) ∧ c.pipeline.readyWrite = uint64Max ∨
      ∃ r, (c.pipeline.ledger.get c.pipeline.nextFormat).body = .scalar r ∧
        (formatNext ops c qpc =
            .lost ({ c with pipeline := (renderRecord ops c.pipeline r).1 }.lose .recordLoss) ∧
          (renderRecord ops c.pipeline r).2 = none ∨
        ∃ c', formatNext ops c qpc = .next c' ∧ PrepareStep ops qpc c c' ∧ c'.status = c.status ∧ c'.ring = c.ring ∧
          c'.pipeline.nextFormat = c.pipeline.nextFormat + 1 ∧ c'.pipeline.ledgerWrite = c.pipeline.ledgerWrite) := by
  have hqueue := h.queueOrder
  have hcap := h.ledgerOrder
  obtain ⟨hseq, hstate, r, hbody, _⟩ := h.scalarEntries _ le_rfl pending
  rw [formatNext]
  dsimp only
  rw [if_neg (by simp [h.queueStateValid])]
  by_cases hfull : c.pipeline.readyWrite - c.pipeline.readyRead = kNativeReadyCapacity
  · refine .inl ⟨if_pos hfull, ?_⟩
    omega
  · rw [if_neg hfull]
    by_cases hmax : c.pipeline.readyWrite = uint64Max
    · exact .inr (.inl ⟨if_pos hmax, hmax⟩)
    · rw [if_neg hmax, hstate, hbody]
      refine .inr (.inr ⟨r, rfl, ?_⟩)
      dsimp only
      have hprep := h.prepared
      have hq := h.queue
      have hcounter := h.counter
      rw [if_neg (by rw [hseq]; omega)]
      cases hr : renderRecord ops c.pipeline r with
      | mk p out =>
          cases out with
          | none => exact .inl ⟨rfl, rfl⟩
          | some v =>
              obtain ⟨text, wide, digest⟩ := v
              obtain ⟨detail, context, hp⟩ := renderRecord_eq ops c.pipeline r
              rw [hr] at hp
              dsimp only at hp
              refine .inr ⟨_, rfl, .format ?_ pending hbody hr, rfl, rfl, ?_, ?_⟩
              · omega
              · rw [hp]; rfl
              · rw [hp]; rfl

/-- Formatting stops at a full ready queue or when every drained record has
its frame. -/
theorem formatReports_spec (ops : NativeHashOps κ) (qpc count : Nat) (h : ChannelInv c)
    (hcount : c.pipeline.ledgerWrite - c.pipeline.nextFormat = count) :
    ∃ c', Prepares ops qpc c c' ∧ c'.status = c.status ∧ c'.ring = c.ring ∧
      c'.pipeline.ledgerWrite = c.pipeline.ledgerWrite ∧
      (formatReports ops qpc count c = (c', true) ∧
          (c'.pipeline.nextFormat = c'.pipeline.ledgerWrite ∨
            c'.pipeline.readyRead + kNativeReadyCapacity ≤ c'.pipeline.readyWrite) ∨
        formatReports ops qpc count c = (c'.lose .counterOverflow, false) ∧ c'.pipeline.readyWrite = uint64Max ∨
        ∃ r, (c'.pipeline.ledger.get c'.pipeline.nextFormat).body = .scalar r ∧
          c'.pipeline.nextFormat < c'.pipeline.ledgerWrite ∧ (renderRecord ops c'.pipeline r).2 = none ∧
          formatReports ops qpc count c =
            ({ c' with pipeline := (renderRecord ops c'.pipeline r).1 }.lose .recordLoss, false)) := by
  induction count generalizing c with
  | zero =>
      refine ⟨c, .refl, rfl, rfl, rfl, .inl ⟨rfl, .inl ?_⟩⟩
      have := h.ledgerOrder
      omega
  | succ count ih =>
      have pending : c.pipeline.nextFormat < c.pipeline.ledgerWrite := by omega
      rw [formatReports]
      rcases formatNext_spec ops qpc h pending with ⟨hf, hfull⟩ | ⟨hf, hmax⟩ | ⟨r, hbody, ⟨hf, hnone⟩ | ⟨u, hf, hstep, hstatus, hring, hnext, hwrite⟩⟩
      · exact ⟨c, .refl, rfl, rfl, rfl, .inl ⟨by rw [hf], .inr hfull⟩⟩
      · exact ⟨c, .refl, rfl, rfl, rfl, .inr (.inl ⟨by rw [hf], hmax⟩)⟩
      · exact ⟨c, .refl, rfl, rfl, rfl, .inr (.inr ⟨r, hbody, pending, hnone, by rw [hf]⟩)⟩
      · obtain ⟨c', hrun, hst, hring', hwrite', hres⟩ := ih (hstep.inv h) (by omega)
        rw [hf]
        exact ⟨c', .head hstep hrun, hst.trans hstatus, hring'.trans hring, hwrite'.trans hwrite, hres⟩

/-- What a preparation comes to: a run of steps that stopped with nothing left
to drain or to format within its bounds, or failed for one of two reasons. -/
theorem prepareNativeFrames_spec (ops : NativeHashOps κ) (h : ChannelInv c) (hq : qpc ≠ 0) :
    ∃ c', Prepares ops qpc c c' ∧ c'.status = c.status ∧
      (prepareNativeFrames ops c qpc = (c', true) ∧
          (c'.pipeline.ledgerRead + kNativeLedgerCapacity ≤ c'.pipeline.ledgerWrite ∨
            c'.ring.reportReadSequence = c'.ring.reportWriteSequence ∧ c'.pipeline.ledgerWrite ≠ uint64Max ∨
            c.ring.reportReadSequence + kReportBatchLimit ≤ c'.ring.reportReadSequence) ∧
          (c'.pipeline.nextFormat = c'.pipeline.ledgerWrite ∨
            c'.pipeline.readyRead + kNativeReadyCapacity ≤ c'.pipeline.readyWrite) ∨
        prepareNativeFrames ops c qpc = (c'.lose .counterOverflow, false) ∧
          (c'.pipeline.ledgerWrite = uint64Max ∨ c'.pipeline.readyWrite = uint64Max) ∨
        ∃ r, (c'.pipeline.ledger.get c'.pipeline.nextFormat).body = .scalar r ∧
          c'.pipeline.nextFormat < c'.pipeline.ledgerWrite ∧ (renderRecord ops c'.pipeline r).2 = none ∧
          prepareNativeFrames ops c qpc =
            ({ c' with pipeline := (renderRecord ops c'.pipeline r).1 }.lose .recordLoss, false)) := by
  rw [prepareNativeFrames, if_neg (by simp [h.initialized, hq]), if_neg (by simp [h.ledgerValid])]
  obtain ⟨u, hrun, hstatus, ⟨hd, hdrained⟩ | ⟨hd, hmax⟩⟩ := drainReports_spec ops qpc kReportBatchLimit h
  · have hu := Prepares.inv hrun h
    obtain ⟨c', hrun', hstatus', hring, hwrite, hres⟩ := formatReports_spec ops qpc _ hu rfl
    refine ⟨c', hrun.trans hrun', hstatus'.trans hstatus, ?_⟩
    rw [hd]
    rcases hres with ⟨hf, hformatted⟩ | ⟨hf, hmax⟩ | hloss
    · rw [← hring, ← hwrite, ← (Prepares.frame hrun' hu).ledgerRead] at hdrained
      exact .inl ⟨hf, hdrained, hformatted⟩
    · exact .inr (.inl ⟨hf, .inr hmax⟩)
    · exact .inr (.inr hloss)
  · rw [hd]
    exact ⟨u, hrun, hstatus, .inr (.inl ⟨rfl, .inl hmax⟩)⟩

theorem peekNativeFrame_eq (h : ChannelInv c) : peekNativeFrame c =
    (c, if c.pipeline.readyWrite = c.pipeline.readyRead then none
      else some (c.pipeline.ready.get c.pipeline.readyRead)) := by
  rw [peekNativeFrame]
  dsimp only
  rw [if_neg (by simp [h.initialized]), if_neg (by simp [h.queueStateValid])]
  by_cases he : c.pipeline.readyWrite = c.pipeline.readyRead
  · rw [if_pos he, if_pos he]
  · have hlt : c.pipeline.readyRead < c.pipeline.readyWrite := by
      have := h.queueOrder
      omega
    obtain ⟨hticket, hseq, hindex, hvalid⟩ := h.frames _ le_rfl hlt
    have hsmall : c.pipeline.readyRead % kNativeLedgerCapacity < kNativeLedgerCapacity :=
      Nat.mod_lt _ (by decide)
    have hn : ¬ ((c.pipeline.ready.get c.pipeline.readyRead).ticket ≠ c.pipeline.readyRead + 1 ∨
        kNativeLedgerCapacity ≤ (c.pipeline.ready.get c.pipeline.readyRead).ledgerIndex ∨
        (!validMessage (c.pipeline.ready.get c.pipeline.readyRead).message
          (c.pipeline.ready.get c.pipeline.readyRead).chars) = true) := by
      rw [hindex, hvalid]
      simp [hticket, Nat.not_le.mpr hsmall]
    rw [if_neg he, if_neg he, if_neg hn]

def releaseFrame (c : NativeChannel κ) : NativeChannel κ :=
  { c with pipeline := { c.pipeline with readyRead := c.pipeline.readyRead + 1 } }

theorem releaseNativeFrame_eq (h : ChannelInv c) (hlt : c.pipeline.readyRead < c.pipeline.readyWrite) :
    releaseNativeFrame c (c.pipeline.readyRead + 1) = (releaseFrame c, true) := by
  obtain ⟨hticket, _⟩ := h.frames _ le_rfl hlt
  rw [releaseNativeFrame, peekNativeFrame_eq h, if_neg hlt.ne']
  dsimp only
  rw [if_neg (not_not.mpr hticket)]
  rfl

theorem releaseFrame_inv (h : ChannelInv c) (hlt : c.pipeline.readyRead < c.pipeline.readyWrite) :
    ChannelInv (releaseFrame c) :=
  ⟨h.initialized, h.ring, h.drained, h.credit, h.ledgerOrder, h.counter,
    h.preparedEntries, h.scalarEntries, h.freeEntries, h.held, h.prepared, h.queue,
    ⟨hlt, h.queueOrder.2.trans (by simp only [releaseFrame]; omega)⟩, h.frames.mono (Nat.le_succ _) le_rfl,
    h.observed, h.unobserved⟩

def rehashed (c : NativeChannel κ) (context : κ) : NativeChannel κ :=
  { c with pipeline := { c.pipeline with hashContext := context } }

theorem rehashed_inv (h : ChannelInv c) (context : κ) : ChannelInv (rehashed c context) :=
  ⟨h.1, h.2, h.3, h.4, h.5, h.6, h.7, h.8, h.9, h.10, h.11, h.12, h.13, h.14, h.15, h.16⟩

def holdFront (c : NativeChannel κ) (context : κ) : NativeChannel κ :=
  let p := c.pipeline
  { c with pipeline :=
    { p with
      hashContext := context
      ledger := p.ledger.set p.ledgerRead { p.ledger.get p.ledgerRead with state := .matched }
      heldMatch := true } }

theorem holdFront_inv (h : ChannelInv c) (hlt : c.pipeline.ledgerRead < c.pipeline.nextFormat) (context : κ) :
    ChannelInv (holdFront c context) := by
  obtain ⟨hrn, hnw, hcap⟩ := h.ledgerOrder
  refine ⟨h.initialized, h.ring, h.drained, h.credit, h.ledgerOrder, h.counter,
    ?_, ?_, ?_, fun _ => hlt, h.prepared, h.queue, h.queueOrder, h.frames, h.observed, h.unobserved⟩
  · intro t ht ht'
    have ht : c.pipeline.ledgerRead ≤ t := ht
    have ht' : t < c.pipeline.nextFormat := ht'
    obtain ⟨hseq, hstate⟩ := h.preparedEntries t ht ht'
    by_cases he : c.pipeline.ledgerRead = t
    · subst he
      refine ⟨?_, ?_⟩
      · exact (congrArg NativeLedgerEntry.sequence (Slots.get_set_self _ _ _)).trans hseq
      · exact (congrArg NativeLedgerEntry.state (Slots.get_set_self _ _ _)).trans (if_pos ⟨rfl, rfl⟩).symm
    · simp only [kNativeLedgerCapacity] at hcap
      have hget := c.pipeline.ledger.get_set_ne (i := c.pipeline.ledgerRead) (j := t)
        { c.pipeline.ledger.get c.pipeline.ledgerRead with state := .matched } he (by omega) (by omega)
      refine ⟨(congrArg NativeLedgerEntry.sequence hget).trans hseq, ?_⟩
      refine (congrArg NativeLedgerEntry.state hget).trans (hstate.trans ?_)
      exact (if_neg fun hh => he hh.1.symm).trans (if_neg fun hh => he hh.1.symm).symm
  · refine h.scalarEntries.imp_get fun t ht ht' => ?_
    simp only [kNativeLedgerCapacity] at hcap
    exact c.pipeline.ledger.get_set_ne (i := c.pipeline.ledgerRead) _ (by omega) (by omega) (by omega)
  · refine h.freeEntries.imp_get fun t ht ht' => ?_
    simp only [kNativeLedgerCapacity] at ht'
    exact c.pipeline.ledger.get_set_ne (i := c.pipeline.ledgerRead) _ (by omega) (by omega) (by omega)

/-- What a full line of this run does: it is held when it is the front entry's,
and refused without a trace in the ledger otherwise. -/
theorem matchNativeReceipt_spec (ops : NativeHashOps κ) (h : ChannelInv c) (bytes : List UInt8) :
    (matchNativeReceipt ops c bytes = (.corrupt, c) ∧
        (c.pipeline.heldMatch = true ∨ c.pipeline.ledgerRead = c.pipeline.nextFormat)) ∨
      c.pipeline.heldMatch = false ∧ c.pipeline.ledgerRead < c.pipeline.nextFormat ∧ ∃ context out,
        ops.digest c.pipeline.hashContext bytes = (context, out) ∧
        (out = none ∧ matchNativeReceipt ops c bytes = (.corrupt, (rehashed c context).lose .recordLoss) ∨
        ∃ digest, out = some digest ∧
          (matchingTicket c.pipeline bytes digest = none ∧
              matchNativeReceipt ops c bytes = (.corrupt, rehashed c context) ∨
            (∃ t, matchingTicket c.pipeline bytes digest = some t ∧ t ≠ c.pipeline.ledgerRead ∧
              matchNativeReceipt ops c bytes = (.gap, rehashed c context)) ∨
            matchingTicket c.pipeline bytes digest = some c.pipeline.ledgerRead ∧
              matchNativeReceipt ops c bytes = (.awaitingSubmission, holdFront c context))) := by
  rw [matchNativeReceipt]
  dsimp only
  by_cases hrefuse : c.pipeline.heldMatch = true ∨ c.pipeline.ledgerRead = c.pipeline.nextFormat
  · refine .inl ⟨if_pos ?_, hrefuse⟩
    rcases hrefuse with hh | he
    · exact .inr (.inl hh)
    · exact .inr (.inr (.inr he))
  · have hord := h.ledgerOrder
    simp only [not_or, Bool.not_eq_true] at hrefuse
    refine .inr ⟨hrefuse.1, by omega, ?_⟩
    rw [if_neg (by simp [h.initialized, h.ledgerValid, hrefuse])]
    refine ⟨_, _, rfl, ?_⟩
    cases hd : (ops.digest c.pipeline.hashContext bytes).2 with
    | none => exact .inl ⟨rfl, rfl⟩
    | some digest =>
        refine .inr ⟨digest, rfl, ?_⟩
        dsimp only
        cases hm : matchingTicket c.pipeline bytes digest with
        | none => exact .inl ⟨rfl, rfl⟩
        | some t =>
            dsimp only
            by_cases ht : t = c.pipeline.ledgerRead
            · subst ht
              exact .inr (.inr ⟨rfl, if_neg (not_not.mpr rfl)⟩)
            · exact .inr (.inl ⟨t, rfl, ht, if_pos ht⟩)

/-- The channel whose held match was acknowledged. The front ticket is the
observed sequence, zero for the bootstrap. -/
def acknowledged (c : NativeChannel κ) : NativeChannel κ :=
  let p := c.pipeline
  { c with pipeline :=
    { p with
      startupObserved := true, observedSequence := p.ledgerRead
      ledger := p.ledger.set p.ledgerRead .clear, ledgerRead := p.ledgerRead + 1, heldMatch := false } }

def OwnerSnapshotV3.Covers (o : OwnerSnapshotV3) (ticket : Nat) : Prop :=
  if ticket = 0 then o.startupSubmitted = true else ticket ≤ o.submittedSequence

theorem acknowledgeNativeReceipt_spec (h : ChannelInv c) (o : OwnerSnapshotV3) :
    acknowledgeNativeReceipt c o = (c, false) ∧
        (c.pipeline.heldMatch = true → 2 ≤ o.sequence → o.sequence % 2 = 0 → ¬ o.Covers c.pipeline.ledgerRead) ∨
      acknowledgeNativeReceipt c o = (acknowledged c, true) ∧ c.pipeline.heldMatch = true ∧
        o.Covers c.pipeline.ledgerRead := by
  rw [acknowledgeNativeReceipt]
  dsimp only
  by_cases hrefuse : c.pipeline.heldMatch = false ∨ o.sequence < 2 ∨ o.sequence % 2 = 1
  · refine .inl ⟨if_pos (by rcases hrefuse with hh | hh | hh <;> simp [hh]), fun hh h2 he => ?_⟩
    rcases hrefuse with hf | hf | hf
    · exact absurd hh (by simp [hf])
    · omega
    · omega
  · simp only [not_or, Bool.not_eq_false] at hrefuse
    obtain ⟨hheld, hsmall, hodd⟩ := hrefuse
    have hlt := h.held hheld
    obtain ⟨hseq, hstate⟩ := h.preparedEntries _ le_rfl hlt
    rw [if_pos ⟨rfl, hheld⟩] at hstate
    have hobs := h.observed
    have hun := h.unobserved
    have hcounter := h.counter
    have hord := h.ledgerOrder
    rw [if_neg (by simp [hheld, h.ledgerValid, hsmall, hodd]), if_neg (not_not.mpr hstate), hseq]
    by_cases hzero : c.pipeline.ledgerRead = 0
    · rw [if_pos hzero]
      by_cases hs : o.startupSubmitted = true
      · refine .inr ⟨?_, hheld, (if_pos hzero).mpr hs⟩
        have hstart : c.pipeline.startupObserved = false := by
          by_contra hc
          rw [if_pos (by simpa using hc)] at hobs
          omega
        rw [if_neg (by simp [hs]), acknowledged, hzero, ← hun hstart]
        rfl
      · refine .inl ⟨if_pos (by simp [hs]), fun _ _ _ hc => ?_⟩
        exact hs ((if_pos hzero).mp hc)
    · rw [if_neg hzero]
      have hstart : c.pipeline.startupObserved = true := by
        by_contra hc
        rw [if_neg hc] at hobs
        exact hzero hobs
      rw [if_pos hstart] at hobs
      by_cases hs : o.submittedSequence < c.pipeline.ledgerRead
      · refine .inl ⟨if_pos hs, fun _ _ _ hc => ?_⟩
        have := (if_neg hzero).mp hc
        omega
      · refine .inr ⟨?_, hheld, (if_neg hzero).mpr (not_lt.mp hs)⟩
        have hmax : c.pipeline.observedSequence ≠ uint64Max := by omega
        rw [if_neg hs, if_neg (by simp [hstart, hmax, hobs]), acknowledged, ← hstart]
        rfl

theorem acknowledged_inv (h : ChannelInv c) (hheld : c.pipeline.heldMatch = true) : ChannelInv (acknowledged c) := by
  obtain ⟨hrn, hnw, hcap⟩ := h.ledgerOrder
  have hlt := h.held hheld
  have hobs := h.observed
  have hcredit := h.credit
  have hun := h.unobserved
  refine ⟨h.initialized, h.ring, h.drained, ?_,
    ⟨hlt, hnw, hcap.trans (by simp only [acknowledged]; omega)⟩, h.counter, ?_, ?_, ?_, fun hh => absurd hh (by simp [acknowledged]),
    h.prepared, h.queue, h.queueOrder, h.frames, ?_, ?_⟩
  · simp only [acknowledged]
    split at hobs
    · omega
    · rename_i hs
      have := hun (by simpa using hs)
      omega
  · intro t ht ht'
    have ht : c.pipeline.ledgerRead + 1 ≤ t := ht
    have ht' : t < c.pipeline.nextFormat := ht'
    simp only [kNativeLedgerCapacity] at hcap
    obtain ⟨hseq, hstate⟩ := h.preparedEntries t (by omega) ht'
    have hget := c.pipeline.ledger.get_set_ne (i := c.pipeline.ledgerRead) (j := t) .clear (by omega) (by omega) (by omega)
    refine ⟨(congrArg NativeLedgerEntry.sequence hget).trans hseq, ?_⟩
    refine (congrArg NativeLedgerEntry.state hget).trans (hstate.trans ?_)
    rw [if_neg (by omega), if_neg (by simp [acknowledged])]
  · refine h.scalarEntries.imp_get fun t ht ht' => ?_
    simp only [kNativeLedgerCapacity] at hcap
    exact c.pipeline.ledger.get_set_ne (i := c.pipeline.ledgerRead) _ (by omega) (by omega) (by omega)
  · intro t ht ht'
    have ht : c.pipeline.ledgerWrite ≤ t := ht
    have ht' : t < c.pipeline.ledgerRead + 1 + kNativeLedgerCapacity := ht'
    simp only [kNativeLedgerCapacity] at ht' hcap
    change (c.pipeline.ledger.set c.pipeline.ledgerRead .clear).get t = .clear
    by_cases he : t = c.pipeline.ledgerRead + 256
    · subst he
      rw [Slots.get_add_round, Slots.get_set_self]
    · rw [Slots.get_set_ne _ _ (by omega) (by omega) (by omega)]
      exact h.freeEntries t ht (by simp only [kNativeLedgerCapacity]; omega)
  · simp [acknowledged]
  · intro hh
    exact absurd hh (by simp [acknowledged])

def pushReport (ring : ReportRingV3) (r : ReportRecordV3) : ReportRingV3 :=
  { ring with
    slots := ring.slots.set ring.reportWriteSequence
      (canonicalRecord r (ring.reportWriteSequence + 1).toUInt64 ring.ownerThreadId)
    reportWriteSequence := ring.reportWriteSequence + 1 }

theorem canonicalRecord_recovery (r : ReportRecordV3) (sequence : UInt64) (owner : UInt32) :
    validRecovery (canonicalRecord r sequence owner) = validRecovery r := by
  have hkind : (canonicalRecord r sequence owner).header.kind = r.header.kind := rfl
  unfold validRecovery
  rw [hkind]
  split
  · rename_i hk
    have hcode : RecordKindV3.ofCode r.header.kind = some .recovery := by rw [hk]; rfl
    simp only [canonicalRecord, hcode, Option.map_some, Option.getD_some]
    rfl
  · rfl

theorem canonicalRecord_readable {ring : ReportRingV3} {r : ReportRecordV3} (hh : validHeader r.header = true)
    (hr : validRecovery r = true) (hmax : ring.reportWriteSequence < uint64Max) :
    slotReadable ring ring.reportWriteSequence
      (canonicalRecord r (ring.reportWriteSequence + 1).toUInt64 ring.ownerThreadId) = true := by
  simp only [validHeader, Bool.and_eq_true, decide_eq_true_eq] at hh
  simp only [slotReadable, Bool.and_eq_true, decide_eq_true_eq, canonicalRecord_recovery]
  refine ⟨⟨⟨⟨⟨?_, hh.1.1.2⟩, hh.1.2⟩, hh.2⟩, rfl⟩, hr⟩
  simp only [canonicalRecord, Nat.toUInt64_eq, UInt64.toNat_ofNat']
  apply Nat.mod_eq_of_lt
  simp only [uint64Max] at hmax
  omega

/-- A record with a free slot is accepted, unless the status is closed, the
record is not one the ring takes, or the counter is at its end. -/
theorem enqueueReport_spec {ring : ReportRingV3} (h : RingInv ring) (status : StatusWords)
    (credit : ring.reportWriteSequence < ring.reportReadSequence + kReportRecordCapacity) (r : ReportRecordV3) :
    admission status ≠ .accepted ∧
        enqueueReport status ring ring.ownerThreadId r = (status, ring, admission status, 0) ∨
      (validHeader r.header && validRecovery r) = false ∧ enqueueReport status ring ring.ownerThreadId r =
        (loseStatus status .recordLoss, ring, .lost, 0) ∨
      ring.reportWriteSequence = uint64Max ∧ enqueueReport status ring ring.ownerThreadId r =
        (loseStatus status .counterOverflow, ring, .lost, 0) ∨
      validHeader r.header = true ∧ validRecovery r = true ∧ ring.reportWriteSequence < uint64Max ∧
        enqueueReport status ring ring.ownerThreadId r =
          (status, pushReport ring r, .accepted, ring.reportWriteSequence + 1) := by
  have horder := h.order
  rw [enqueueReport, if_neg (by simp [h.ready]), if_neg (not_not.mpr rfl)]
  by_cases hadm : admission status = .accepted
  · rw [if_neg (not_not.mpr hadm)]
    dsimp only
    by_cases hvalid : (validHeader r.header && validRecovery r) = true
    · rw [Bool.and_eq_true] at hvalid
      rw [if_neg (by simp [hvalid]), if_neg (by omega)]
      by_cases hmax : ring.reportWriteSequence = uint64Max
      · exact .inr (.inr (.inl ⟨hmax, if_pos hmax⟩))
      · refine .inr (.inr (.inr ⟨hvalid.1, hvalid.2, lt_of_le_of_ne h.counter hmax, ?_⟩))
        rw [if_neg hmax, if_neg (by omega)]
        rfl
    · refine .inr (.inl ⟨by simpa using hvalid, ?_⟩)
      have hor : (!validHeader r.header) = true ∨ (!validRecovery r) = true := by
        cases hv : validHeader r.header
        · exact .inl rfl
        · exact .inr (by simpa [hv] using hvalid)
      rw [if_pos hor]
  · exact .inl ⟨hadm, by rw [if_pos hadm]⟩

theorem pushReport_inv {ring : ReportRingV3} (h : RingInv ring)
    (credit : ring.reportWriteSequence < ring.reportReadSequence + kReportRecordCapacity) {r : ReportRecordV3}
    (hh : validHeader r.header = true) (hr : validRecovery r = true) (hmax : ring.reportWriteSequence < uint64Max) :
    RingInv (pushReport ring r) :=
  ⟨h.ready, h.order.trans (Nat.le_succ _), credit, hmax,
    h.records.push h.order credit (canonicalRecord_readable hh hr hmax)⟩

theorem ChannelInv.push (h : ChannelInv c) (status : StatusWords)
    (credit : c.ring.reportWriteSequence < c.pipeline.observedSequence + kReportRecordCapacity) {r : ReportRecordV3}
    (hh : validHeader r.header = true) (hr : validRecovery r = true) (hmax : c.ring.reportWriteSequence < uint64Max) :
    ChannelInv { c with status := status, ring := pushReport c.ring r } := by
  have hobs := h.observed_le
  exact ⟨h.initialized, pushReport_inv h.ring (by omega) hh hr hmax, h.drained, credit, h.ledgerOrder, h.counter,
    h.preparedEntries, h.scalarEntries, h.freeEntries, h.held, h.prepared, h.queue, h.queueOrder, h.frames,
    h.observed, h.unobserved⟩

theorem initializeReportRing_inv (owner : UInt32) : RingInv (initializeReportRing owner) :=
  ⟨rfl, le_rfl, Nat.zero_le _, Nat.zero_le _, .empty _ _ _⟩

theorem initializeNativePipeline_inv {status : StatusWords} {ring : ReportRingV3} {context old : NativeFormatContext}
    {hashContext oldHash : κ} (h : RingInv ring) (hread : ring.reportReadSequence = 0)
    (hinit : initializeNativePipeline ⟨status, ring, .zeroed oldHash old⟩ context hashContext qpc = (c, .none)) :
    ChannelInv c ∧ c.status = status ∧ c.ring = ring ∧ c.pipeline.readyRead = 0 ∧ c.pipeline.ledgerRead = 0 ∧
      c.pipeline.format = context ∧ c.pipeline.heldMatch = false := by
  have hroom := h.room
  rw [initializeNativePipeline] at hinit
  split at hinit
  · cases hinit
  · cases hb : prepareNativeBootstrap context (kMessageLimit + 1) (kMessageLimit + 1) with
    | none => rw [hb] at hinit; cases hinit
    | some v =>
        obtain ⟨text, wide⟩ := v
        rw [hb] at hinit
        injection hinit with hc
        subst hc
        have hledger : 1 ≤ 0 + kNativeLedgerCapacity := by decide
        have hready : 1 ≤ 0 + kNativeReadyCapacity := by decide
        have hcounter : 1 ≤ uint64Max := by decide
        refine ⟨⟨rfl, h, ?_, ?_, ⟨Nat.zero_le _, le_rfl, hledger⟩, hcounter, ?_, ?_, ?_, ?_, rfl, rfl,
          ⟨Nat.zero_le _, hready⟩, ?_, rfl, fun _ => rfl⟩, rfl, rfl, rfl, rfl, rfl, rfl⟩
        · exact congrArg (· + 1) hread.symm
        · dsimp only
          omega
        · intro t ht ht'
          obtain rfl : t = 0 := by have ht' : t < 1 := ht'; omega
          exact ⟨rfl, rfl⟩
        · exact .empty _ _ _
        · intro t ht ht'
          have ht : 1 ≤ t := ht
          have ht' : t < 0 + 256 := ht'
          exact ((Slots.fill NativeLedgerEntry.clear : Slots 256 _).get_set_ne (i := 0) (j := t) _ (by omega)
            (by omega) (by omega))
        · intro hh
          cases hh
        · intro t ht ht'
          obtain rfl : t = 0 := by have ht' : t < 1 := ht'; omega
          simp only [prepareNativeBootstrap, Option.bind_eq_bind, Option.bind_eq_some_iff, Option.pure_def,
            Option.some.injEq, Prod.mk.injEq] at hb
          obtain ⟨a, _, b, hw, rfl, rfl⟩ := hb
          exact ⟨rfl, rfl, rfl, prepareMessage_valid hw⟩

end RS2ServerFix.NativeLog
