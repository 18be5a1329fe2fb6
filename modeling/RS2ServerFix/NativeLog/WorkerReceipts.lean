import RS2ServerFix.NativeLog.PipelineOrder
import RS2ServerFix.NativeLog.WorkerRules

namespace RS2ServerFix.NativeLog

open Reporting Lib

variable {κ : Type} {ops : NativeHashOps κ} {H : List UInt8 → Sha256Digest} {format : NativeFormatContext}
  {w w' : WorkerWorld κ}

def NativeAction.Owner : NativeAction → Prop
  | .prepare _ | .receipt _ | .acknowledge _ => False
  | _ => True

/-- What happens between two steps of the worker: a step of the owner, or any
change around it that leaves the file at least as long as it was. -/
inductive OutsideStep (ops : NativeHashOps κ) : WorkerWorld κ → WorkerWorld κ → Prop
  | owner {w : WorkerWorld κ} {a : NativeAction} (mine : a.Owner) (allowed : a.Allowed w.native) :
      OutsideStep ops w { w with native := w.native.next ops a }
  | around {w : WorkerWorld κ} {a : WorkerSurroundings} (log : w.around.log <+: a.log)
      (room : w.start + a.log.length ≤ uint64Max) : OutsideStep ops w { w with around := a }

namespace WorkerWorld

variable (w : WorkerWorld κ)

def textAt (t : Nat) : List UInt8 := w.texts.getD t []

def consumed : List UInt8 := w.around.log.take (w.worker.scanner.offset - w.start)

def receiptsOf (bytes : List UInt8) : List (Option (List UInt8)) :=
  receipts w.worker.scanner.prefixMode w.worker.scanner.runId bytes

/-- The frames whose receipts were taken, acknowledged or held. -/
def matched : Nat := w.pipeline.ledgerRead + if w.pipeline.heldMatch then 1 else 0

/-- The worker has just qualified its file and initialised the pipeline. -/
structure Initial : Prop where
  native : w.native.Initial
  scanner : ∃ mode, w.worker.scanner =
    initializeReceiptScanner w.start true mode w.pipeline.format.header.runId.toList
  texts : w.texts = [w.pipeline.bootstrap]
  room : w.start + w.around.log.length ≤ uint64Max
  quiet : w.worker.counters.pauseReason.value < TransportReason.receiptGap.value

end WorkerWorld

/-- No message of a receipt in the file shares its digest with a prepared
text other than itself. -/
def NoCollision (H : List UInt8 → Sha256Digest) (w : WorkerWorld κ) : Prop :=
  ∀ t ∈ w.texts, ∀ m, some m ∈ w.receiptsOf w.around.log → H m = H t → m = t

/-- The scanner, the file and the pipeline are in step. -/
structure ReceiptInv (H : List UInt8 → Sha256Digest) (format : NativeFormatContext) (w : WorkerWorld κ) : Prop where
  texts : NativeTexts H format w.textAt w.native
  counted : w.texts.length = w.pipeline.nextFormat
  run : w.worker.scanner.runId = format.header.runId.toList
  cursor : w.start ≤ w.worker.scanner.offset ∧ w.worker.scanner.offset ≤ w.start + w.around.log.length
  room : w.start + w.around.log.length ≤ uint64Max
  scanned : ScannedTo w.worker.scanner w.consumed
  awaiting : w.worker.scanner.awaitingSubmission = w.pipeline.heldMatch
  parked : w.pipeline.heldMatch = true → w.worker.scanner.failed = false ∧ openLine w.consumed = []
  count : (w.receiptsOf w.consumed).length = w.matched + if w.worker.scanner.failed then 1 else 0
  order : NoCollision H w → (w.texts.take w.matched).map some <+: w.receiptsOf w.consumed
  quiet : w.worker.counters.pauseReason.value < TransportReason.receiptGap.value
  last : ∀ o, w.native.published.getLast? = some o → w.pipeline.observedSequence ≤ o.submittedSequence ∧
    ∀ o' ∈ w.native.published, o'.submittedSequence ≤ o.submittedSequence

theorem NoCollision.earlier (h : NoCollision H w') (htexts : w.texts <+: w'.texts)
    (hlog : w.around.log <+: w'.around.log) (hsame : SameScan w.worker.scanner w'.worker.scanner) :
    NoCollision H w := by
  intro t ht m hm he
  refine h t (htexts.subset ht) m ?_ he
  obtain ⟨more, hmore⟩ := hlog
  rw [WorkerWorld.receiptsOf, hsame.mode, hsame.run, ← hmore]
  exact (receipts_append _ _ _ _).subset hm

theorem NativeInv.prepare_frame (ops : NativeHashOps κ) {s : NativeSystem κ} (h : NativeInv s) (qpc : Nat) :
    PrepareFrame s.channel (s.next ops (.prepare qpc)).channel := by
  by_cases hq : qpc = 0
  · simp only [NativeSystem.next, prepareNativeFrames, hq, or_true, if_true]
    exact .refl _
  · obtain ⟨c, hrun, _, ⟨he, _⟩ | ⟨he, _⟩ | ⟨r, _, _, _, he⟩⟩ := prepareNativeFrames_spec ops h.channel hq
    · simp only [NativeSystem.next, he]
      exact Prepares.frame hrun h.channel
    · simp only [NativeSystem.next, he]
      obtain ⟨h1, h2, h3, h4, h5, h6, h7, h8⟩ := Prepares.frame hrun h.channel
      exact ⟨h1, h2, h3, h4, h5, h6, h7, h8⟩
    · obtain ⟨detail, context, hp⟩ := renderRecord_eq ops c.pipeline r
      simp only [NativeSystem.next, he, hp]
      obtain ⟨h1, h2, h3, h4, h5, h6, h7, h8⟩ := Prepares.frame hrun h.channel
      exact ⟨h1, h2, h3, h4, h5, h6, h7, h8⟩

theorem slotText_text {texts : Nat → List UInt8} {t : Nat} {f : NativeReadyFrame} (h : SlotText texts t f) :
    f.text = texts t := by
  obtain ⟨hchars, hmessage⟩ := h
  have hback : (fun b : UInt8 => b.toUInt16.toUInt8) = id := funext fun b => by simp
  rw [NativeReadyFrame.text, hchars, hmessage, List.take_append_of_le_length (by simp), List.take_of_length_le (by simp),
    List.map_map]
  exact (congrArg (List.map · _) hback).trans (List.map_id _)

/-- The texts behind the old ones are what the new slots hold. -/
theorem newTexts_eq {texts : Nat → List UInt8} {p p' : NativePipeline κ}
    (h : p'.ready.Holds p'.readyRead p'.readyWrite (SlotText texts)) (hread : p'.readyRead ≤ p.readyWrite)
    (hwrite : p.readyWrite ≤ p'.readyWrite) :
    newTexts p p' = (List.range' p.readyWrite (p'.readyWrite - p.readyWrite)).map texts := by
  rw [newTexts]
  refine List.map_congr_left fun t ht => ?_
  rw [List.mem_range'_1] at ht
  exact slotText_text (h t (by omega) (by omega))

theorem NativeTexts.congr {texts texts' : Nat → List UInt8} {s : NativeSystem κ} (h : NativeTexts H format texts s)
    (he : ∀ t, t < s.channel.pipeline.nextFormat → texts' t = texts t) : NativeTexts H format texts' s :=
  ⟨h.inv, h.sameFormat, h.texts.congr h.inv.channel he⟩

theorem NativeSystem.next_published (ops : NativeHashOps κ) (s : NativeSystem κ) (a : NativeAction) :
    (s.next ops a).published = s.published ∨
      (s.next ops a).published = s.published ++ [s.snapshot] ∧ (s.next ops a).channel = s.channel := by
  cases a with
  | publish => exact .inr ⟨rfl, rfl⟩
  | submit =>
      refine .inl ?_
      simp only [NativeSystem.next]
      cases s.peeked with
      | none => rfl
      | some f =>
          dsimp only
          rw [NativeSystem.submit]
          split
          · rfl
          · split <;> rfl
  | release =>
      refine .inl ?_
      simp only [NativeSystem.next]
      cases s.peeked <;> rfl
  | enqueue r => exact .inl rfl
  | peek => exact .inl rfl
  | prepare qpc => exact .inl rfl
  | receipt bytes => exact .inl rfl
  | acknowledge o => exact .inl rfl
  | latch status => exact .inl rfl

theorem NativeInv.owner_pipeline (ops : NativeHashOps κ) {s : NativeSystem κ} (h : NativeInv s) {a : NativeAction} (mine : a.Owner)
    (allowed : a.Allowed s) :
    ∃ n, (s.next ops a).channel.pipeline = { s.channel.pipeline with readyRead := n } := by
  cases a with
  | enqueue r => exact ⟨_, rfl⟩
  | peek =>
      simp only [NativeSystem.next, peekNativeFrame_eq h.channel]
      exact ⟨_, rfl⟩
  | submit =>
      obtain ⟨f, hf, hnew⟩ := allowed
      simp only [NativeSystem.next, hf, (h.submit hf hnew).2]
      exact ⟨_, rfl⟩
  | release =>
      obtain ⟨f, hf, _⟩ := allowed
      obtain ⟨_, hticket, _⟩ := h.front hf
      obtain ⟨hlt, _⟩ := h.shown f hf
      simp only [NativeSystem.next, hf, hticket, releaseNativeFrame_eq h.channel hlt]
      exact ⟨_, rfl⟩
  | publish => exact ⟨_, rfl⟩
  | prepare qpc => exact absurd mine id
  | receipt bytes => exact absurd mine id
  | acknowledge o => exact absurd mine id
  | latch status => exact ⟨_, rfl⟩

theorem OutsideStep.untouched (h : ReceiptInv H format w) (he : OutsideStep ops w w') : Untouched w w' := by
  cases he with
  | @owner a mine allowed =>
      obtain ⟨n, hpipeline⟩ := NativeInv.owner_pipeline ops h.texts.inv mine allowed
      refine ⟨rfl, rfl, ⟨rfl, rfl⟩, List.prefix_rfl, ?_, by rw [WorkerWorld.pipeline, hpipeline],
        by rw [WorkerWorld.pipeline, hpipeline]⟩
      rcases NativeSystem.next_published ops w.native a with hp | ⟨hp, _⟩
      · exact hp ▸ List.prefix_rfl
      · exact hp ▸ List.prefix_append _ _
  | around log room => exact ⟨rfl, rfl, ⟨rfl, rfl⟩, log, List.prefix_rfl, rfl, rfl⟩

namespace ReceiptInv

theorem consumed_grown (h : ReceiptInv H format w) {log : List UInt8} (hlog : w.around.log <+: log) :
    log.take (w.worker.scanner.offset - w.start) = w.consumed := by
  obtain ⟨more, rfl⟩ := hlog
  have hcursor := h.cursor
  rw [WorkerWorld.consumed, List.take_append_of_le_length (by omega)]

theorem owner (hd : ops.Digests H) (h : ReceiptInv H format w) {a : NativeAction} (mine : a.Owner)
    (allowed : a.Allowed w.native) : ReceiptInv H format { w with native := w.native.next ops a } := by
  obtain ⟨n, hpipeline⟩ := NativeInv.owner_pipeline ops h.texts.inv mine allowed
  obtain ⟨texts', hsame, ht⟩ := h.texts.next hd allowed
  have hread : (w.native.next ops a).channel.pipeline.ledgerRead = w.pipeline.ledgerRead :=
    by rw [hpipeline]
  have hheld : (w.native.next ops a).channel.pipeline.heldMatch = w.pipeline.heldMatch :=
    by rw [hpipeline]
  have hnext : (w.native.next ops a).channel.pipeline.nextFormat = w.pipeline.nextFormat :=
    by rw [hpipeline]
  have hobserved : (w.native.next ops a).channel.pipeline.observedSequence = w.pipeline.observedSequence :=
    by rw [hpipeline]
  have hmatched : WorkerWorld.matched { w with native := w.native.next ops a } = w.matched := by
    simp only [WorkerWorld.matched, WorkerWorld.pipeline, hread, hheld]
  refine ⟨ht.congr fun t hlt => ?_, h.counted.trans hnext.symm, h.run, h.cursor, h.room, h.scanned, h.awaiting.trans hheld.symm,
    fun hh => h.parked (hheld.symm.trans hh), ?_, ?_, h.quiet, ?_⟩
  · rw [hnext] at hlt
    exact (hsame t hlt).symm
  · rw [hmatched]
    exact h.count
  · rw [hmatched]
    exact h.order
  · rcases NativeSystem.next_published ops w.native a with hp | ⟨hp, hc⟩
    · dsimp only [WorkerWorld.pipeline]
      rw [hp, hobserved]
      exact h.last
    · dsimp only [WorkerWorld.pipeline]
      rw [hp, hobserved]
      intro o ho
      rw [List.getLast?_concat, Option.some.injEq] at ho
      subst ho
      refine ⟨h.texts.inv.order.1, fun o' ho' => ?_⟩
      rw [List.mem_append, List.mem_singleton] at ho'
      rcases ho' with ho' | rfl
      · exact (h.texts.inv.published o' ho').2
      · exact le_rfl

theorem around (h : ReceiptInv H format w) {a : WorkerSurroundings} (log : w.around.log <+: a.log)
    (room : w.start + a.log.length ≤ uint64Max) : ReceiptInv H format { w with around := a } := by
  have hconsumed : WorkerWorld.consumed { w with around := a } = w.consumed := h.consumed_grown log
  have hlength := log.length_le
  have hcursor := h.cursor
  refine ⟨h.texts, h.counted, h.run, ⟨hcursor.1, hcursor.2.trans (by dsimp only; omega)⟩, room, ?_, h.awaiting, ?_, ?_, ?_,
    h.quiet, h.last⟩
  · rw [hconsumed]
    exact h.scanned
  · rw [hconsumed]
    exact h.parked
  · rw [hconsumed]
    exact h.count
  · rw [hconsumed]
    exact fun hno => h.order (hno.earlier List.prefix_rfl log ⟨rfl, rfl⟩)

theorem outside (hd : ops.Digests H) (h : ReceiptInv H format w) (he : OutsideStep ops w w') :
    ReceiptInv H format w' := by
  cases he with
  | owner mine allowed => exact h.owner hd mine allowed
  | around log room => exact h.around log room

theorem change (h : ReceiptInv H format w) {v : NativeReceiptWorker} (status : StatusWords)
    (hscan : v.scanner = w.worker.scanner) (hquiet : v.counters.pauseReason.value < TransportReason.receiptGap.value) :
    ReceiptInv H format ((w.setWorker v).setStatus status) := by
  obtain ⟨htexts, hcounted, hrun, hcursor, hroom, hscanned, hawaiting, hparked, hcount, horder, _, hlast⟩ := h
  obtain ⟨initialized, epoch, handle, frequency, scanner, rest⟩ := v
  dsimp only at hscan
  subst hscan
  exact ⟨⟨htexts.inv.ofStatus status, htexts.sameFormat, htexts.texts.ofStatus status⟩, hcounted, hrun, hcursor, hroom,
    hscanned, hawaiting, hparked, hcount, horder, hquiet, hlast⟩

theorem matched_le (h : ReceiptInv H format w) : w.matched ≤ w.texts.length := by
  have hord : w.pipeline.ledgerRead ≤ w.pipeline.nextFormat := h.texts.inv.channel.ledgerOrder.1
  have hheld : w.pipeline.heldMatch = true → w.pipeline.ledgerRead < w.pipeline.nextFormat := h.texts.inv.channel.held
  rw [WorkerWorld.matched, h.counted]
  split
  · rename_i hh
    exact hheld hh
  · exact hord

theorem prepare (hd : ops.Digests H) (h : ReceiptInv H format w) (qpc : Nat) :
    ReceiptInv H format (prepareStep ops qpc w).2 := by
  obtain ⟨texts', hsame, ht⟩ := h.texts.prepare hd qpc
  have hframe := NativeInv.prepare_frame ops h.texts.inv qpc
  have hqueue : w.pipeline.readyWrite = w.pipeline.nextFormat := h.texts.inv.channel.queue
  have hqueue' := ht.inv.channel.queue
  obtain ⟨hobserved, hstartup, hheld⟩ := hframe.receipts
  obtain ⟨hread, hwrite⟩ := h.texts.inv.channel.queueOrder
  have hnew := newTexts_eq (p := w.pipeline) ht.texts.frames (hframe.readyRead.trans_le hread) hframe.readyWrite
  have hcounted := h.counted
  have hlength : (w.texts ++ newTexts w.pipeline (w.native.next ops (.prepare qpc)).channel.pipeline).length =
      (w.native.next ops (.prepare qpc)).channel.pipeline.nextFormat := by
    have hgrown : w.pipeline.readyWrite ≤ _ := hframe.readyWrite
    rw [hnew, List.length_append, List.length_map, List.length_range']
    omega
  have hmatched : WorkerWorld.matched (prepareStep ops qpc w).2 = w.matched := by
    show (w.native.next ops (.prepare qpc)).channel.pipeline.ledgerRead + _ = _
    rw [hframe.ledgerRead]
    exact congrArg (fun b : Bool => w.pipeline.ledgerRead + if b then 1 else 0) hheld
  have htexts : NativeTexts H format (prepareStep ops qpc w).2.textAt (prepareStep ops qpc w).2.native := by
    refine ht.congr fun t hlt => ?_
    show (w.texts ++ newTexts w.pipeline (w.native.next ops (.prepare qpc)).channel.pipeline).getD t [] = texts' t
    by_cases hold : t < w.texts.length
    · rw [hsame t (hcounted ▸ hold), WorkerWorld.textAt, List.getD_eq_getElem?_getD, List.getD_eq_getElem?_getD,
        List.getElem?_append_left hold]
    · rw [List.getD_eq_getElem?_getD, List.getElem?_append_right (not_lt.mp hold), hnew, List.getElem?_map,
        List.getElem?_range' (by omega), Option.map_some, Option.getD_some]
      congr 1
      omega
  refine ⟨htexts, hlength, h.run, h.cursor, h.room, h.scanned, h.awaiting.trans hheld.symm,
    fun hh => h.parked (hheld.symm.trans hh), ?_, ?_, h.quiet, ?_⟩
  · rw [hmatched]
    exact h.count
  · rw [hmatched]
    intro hno
    have hfit := h.matched_le
    show ((w.texts ++ _).take w.matched).map some <+: _
    rw [List.take_append_of_le_length hfit]
    exact h.order (hno.earlier (List.prefix_append _ _) List.prefix_rfl ⟨rfl, rfl⟩)
  · intro o ho
    obtain ⟨hle, hall⟩ := h.last o ho
    exact ⟨hobserved.trans_le hle, hall⟩

def acknowledgedWorld (w : WorkerWorld κ) (qpc : Nat) : WorkerWorld κ :=
  (w.setChannel (acknowledged w.channel)).setWorker { w.worker with
    scanner := { w.worker.scanner with awaitingSubmission := false }
    counters := { w.worker.counters with lastReceiptQpc := qpc } }

/-- A parked scanner can always be resumed. -/
theorem acknowledgeStep_cases (h : ReceiptInv H format w) (owner : OwnerSnapshotV3) (qpc : Nat) :
    acknowledgeStep owner qpc w = (false, w) ∧ (w.pipeline.heldMatch = true → 2 ≤ owner.sequence →
        owner.sequence % 2 = 0 → ¬ owner.Covers w.pipeline.ledgerRead) ∨
      acknowledgeStep owner qpc w = (true, acknowledgedWorld w qpc) ∧ w.pipeline.heldMatch = true ∧
        owner.Covers w.pipeline.ledgerRead := by
  rcases acknowledgeNativeReceipt_spec h.texts.inv.channel owner with ⟨he, hno⟩ | ⟨he, hheld, hcover⟩
  · refine .inl ⟨?_, hno⟩
    rw [acknowledgeStep, WorkerWorld.channel, he]
    rfl
  · refine .inr ⟨?_, hheld, hcover⟩
    obtain ⟨hfailed, hopen⟩ := h.parked hheld
    have hline := h.scanned.line
    have hover := h.scanned.oversized
    rw [hopen] at hline hover
    have hresume : resumeReceiptScanner w.worker.scanner = ({ w.worker.scanner with awaitingSubmission := false }, true) := by
      rw [resumeReceiptScanner, if_neg]
      simp [hfailed, h.awaiting, hheld, hline, hover]
    rw [acknowledgeStep, WorkerWorld.channel, he]
    dsimp only
    rw [show (w.setChannel (acknowledged w.native.channel)).worker.scanner = w.worker.scanner from rfl, hresume]
    rfl

theorem acknowledge (ops : NativeHashOps κ) (h : ReceiptInv H format w) {owner : OwnerSnapshotV3} (qpc : Nat)
    (ho : owner ∈ w.native.published) : ReceiptInv H format (acknowledgeStep owner qpc w).2 := by
  rcases h.acknowledgeStep_cases owner qpc with ⟨he, _⟩ | ⟨he, hheld, hcover⟩
  · rw [he]
    exact h
  · rw [he]
    have hspec : acknowledgeNativeReceipt w.channel owner = (acknowledged w.channel, true) := by
      rcases acknowledgeNativeReceipt_spec h.texts.inv.channel owner with ⟨hsame, _⟩ | ⟨hack, _⟩
      · rw [acknowledgeStep, WorkerWorld.channel, hsame] at he
        cases he
      · exact hack
    have htexts : NativeTexts H format w.textAt (w.native.next ops (.acknowledge owner)) := h.texts.acknowledge ho
    simp only [NativeSystem.next, hspec] at htexts
    have hmatched : (acknowledgedWorld w qpc).matched = w.matched := by
      show w.pipeline.ledgerRead + 1 + 0 = w.pipeline.ledgerRead + _
      rw [if_pos hheld]
    refine ⟨htexts, h.counted, h.run, h.cursor, h.room, ⟨h.scanned.line, h.scanned.oversized, h.scanned.past⟩, rfl,
      fun hh => absurd hh (by simp [acknowledgedWorld, acknowledged, WorkerWorld.setWorker, WorkerWorld.setChannel]), ?_, ?_,
      h.quiet, ?_⟩
    · rw [hmatched]
      exact h.count
    · rw [hmatched]
      exact h.order
    · intro o hlast
      obtain ⟨_, hall⟩ := h.last o hlast
      refine ⟨?_, hall⟩
      show w.pipeline.ledgerRead ≤ o.submittedSequence
      have hle := hall owner ho
      unfold OwnerSnapshotV3.Covers at hcover
      split at hcover
      · omega
      · exact hcover.trans hle

/-- Before a fault every receipt was the one that was due. -/
theorem exact (h : ReceiptInv H format w) (hno : NoCollision H w) (hopen : w.worker.scanner.failed = false) :
    w.receiptsOf w.consumed = (w.texts.take w.matched).map some := by
  have hcount := h.count
  rw [hopen, if_neg (by simp), Nat.add_zero] at hcount
  refine ((h.order hno).eq_of_length ?_).symm
  rw [List.length_map, List.length_take, hcount, Nat.min_eq_left h.matched_le]

theorem taken (h : ReceiptInv H format w) {bytes : List UInt8} (pending : Pending bytes w) {n : Nat}
    (hn : n ≤ bytes.length) :
    w.around.log.take (w.worker.scanner.offset + n - w.start) = w.consumed ++ bytes.take n ∧
      w.worker.scanner.offset + n ≤ w.start + w.around.log.length := by
  obtain ⟨more, hmore⟩ := pending
  have hcursor := h.cursor
  have hsplit : w.worker.scanner.offset + n - w.start = w.worker.scanner.offset - w.start + n := by omega
  have hlength := congrArg List.length hmore
  rw [List.length_append, List.length_drop] at hlength
  refine ⟨?_, by omega⟩
  rw [hsplit, List.take_add, ← hmore, List.take_append_of_le_length hn]
  rfl

end ReceiptInv

def scannedWorld (w : WorkerWorld κ) (out : ReceiptScanner × NativeChannel κ × ReceiptScanResult) : WorkerWorld κ :=
  (w.setChannel out.2.1).setWorker { w.worker with scanner := out.1 }

theorem matchNativeReceipt_decisive (ops : NativeHashOps κ) : (pipelineMatchOps ops).Decisive := by
  intro c message
  simp only [pipelineMatchOps, matchNativeReceipt]
  split
  · exact ⟨by simp, by simp⟩
  · split
    · exact ⟨by simp, by simp⟩
    · split
      · exact ⟨by simp, by simp⟩
      · split <;> exact ⟨by simp, by simp⟩

/-- A scan is refused by a closed or parked scanner, and stops behind the first
receipt otherwise. -/
inductive ScanOutcome (ops : NativeHashOps κ) (w : WorkerWorld κ) (bytes : List UInt8) :
    ReceiptScanResult × WorkerWorld κ → Prop
  | closed (failed : w.worker.scanner.failed = true) : ScanOutcome ops w bytes (⟨0, .corrupt⟩, w)
  | parked (sound : w.worker.scanner.failed = false) (awaiting : w.worker.scanner.awaitingSubmission = true) :
      ScanOutcome ops w bytes (⟨0, .awaitingSubmission⟩, w)
  | scanned (sound : w.worker.scanner.failed = false) (free : w.pipeline.heldMatch = false)
      {out : ReceiptScanner × NativeChannel κ × ReceiptScanResult}
      (stop : ScanStop (pipelineMatchOps ops) w.worker.scanner w.channel w.consumed bytes 0 .ignored out) :
      ScanOutcome ops w bytes (out.2.2, scannedWorld w out)

theorem ReceiptInv.scan_outcome (h : ReceiptInv H format w) {bytes : List UInt8} (pending : Pending bytes w) :
    ScanOutcome ops w bytes (scanBytesStep ops bytes w) := by
  have hroom := (h.taken pending le_rfl).2
  have hlimit := h.room
  have hline : w.worker.scanner.line.length ≤ kLineLimit := by
    rw [h.scanned.line, List.length_take]
    exact Nat.min_le_left _ _
  by_cases hfailed : w.worker.scanner.failed = true
  · have hscan : scanBytesStep ops bytes w = (⟨0, .corrupt⟩, w) := by
      rw [scanBytesStep, scanReceiptChunk, if_pos hfailed]
      rfl
    exact hscan ▸ .closed hfailed
  · rw [Bool.not_eq_true] at hfailed
    by_cases hawaiting : w.worker.scanner.awaitingSubmission = true
    · have hscan : scanBytesStep ops bytes w = (⟨0, .awaitingSubmission⟩, w) := by
        rw [scanBytesStep, scanReceiptChunk, if_neg (by simp [hfailed]), if_pos hawaiting]
        rfl
      exact hscan ▸ .parked hfailed hawaiting
    · have hstop := scanLoop_stop (matchNativeReceipt_decisive ops) bytes h.scanned w.channel 0 .ignored (by omega)
      have hscan : scanBytesStep ops bytes w =
          ((scanLoop (pipelineMatchOps ops) bytes w.worker.scanner w.channel ⟨0, .ignored⟩).2.2,
            scannedWorld w (scanLoop (pipelineMatchOps ops) bytes w.worker.scanner w.channel ⟨0, .ignored⟩)) := by
        rw [scanBytesStep, scanReceiptChunk, if_neg (by simp [hfailed]), if_neg hawaiting, if_neg (by omega)]
        rfl
      rw [hscan]
      exact .scanned hfailed (h.awaiting.symm.trans (by simpa using hawaiting)) hstop

def FreeOf (H : List UInt8 → Sha256Digest) (texts : Nat → List UInt8) (n : Nat) (m : List UInt8) : Prop :=
  ∀ t, t < n → H m = H (texts t) → m = texts t

/-- The entries that match a message are those of its text. -/
theorem entryMatches_iff {c : NativeChannel κ} {texts : Nat → List UInt8} {m : List UInt8} (hc : ChannelInv c)
    (h : TextsInv H texts c) (hfree : c.pipeline.heldMatch = false) (hm : FreeOf H texts c.pipeline.nextFormat m) {t : Nat}
    (hge : c.pipeline.ledgerRead ≤ t) (hlt : t < c.pipeline.nextFormat) :
    entryMatches c.pipeline (c.pipeline.ledger.get t) m (H m) = true ↔ m = texts t := by
  obtain ⟨hseq, hstate⟩ := hc.preparedEntries t hge hlt
  obtain ⟨hbytes, hbody⟩ := h.entries t hge hlt
  rw [if_neg (by simp [hfree])] at hstate
  rw [entryMatches, hstate, hbytes, hseq]
  by_cases hzero : t = 0
  · subst hzero
    rw [if_neg (not_not.mpr rfl), h.bootstrap]
    constructor
    · intro he
      simp only [decide_true, Bool.true_and, Bool.and_eq_true, decide_eq_true_eq] at he
      exact he.2.2
    · intro he
      simp [he]
  · rw [if_pos hzero, hbody hzero]
    constructor
    · intro he
      simp only [decide_true, Bool.true_and, Bool.and_eq_true, decide_eq_true_eq, LedgerBody.digest.injEq] at he
      exact hm t hlt he.2.symm
    · intro he
      simp [he]

theorem matchingTicket_some {c : NativeChannel κ} {texts : Nat → List UInt8} {m : List UInt8} (hc : ChannelInv c)
    (h : TextsInv H texts c) (hfree : c.pipeline.heldMatch = false) (hm : FreeOf H texts c.pipeline.nextFormat m) {t : Nat}
    (ht : matchingTicket c.pipeline m (H m) = some t) :
    c.pipeline.ledgerRead ≤ t ∧ t < c.pipeline.nextFormat ∧ m = texts t := by
  rw [matchingTicket] at ht
  have hmem := List.mem_of_find?_eq_some ht
  have hmatch := List.find?_some ht
  rw [List.mem_range'_1] at hmem
  exact ⟨hmem.1, by omega, (entryMatches_iff hc h hfree hm hmem.1 (by omega)).mp hmatch⟩

theorem matchingTicket_none {c : NativeChannel κ} {texts : Nat → List UInt8} {m : List UInt8} (hc : ChannelInv c)
    (h : TextsInv H texts c) (hfree : c.pipeline.heldMatch = false) (hm : FreeOf H texts c.pipeline.nextFormat m)
    (hnone : matchingTicket c.pipeline m (H m) = none) {t : Nat} (hge : c.pipeline.ledgerRead ≤ t)
    (hlt : t < c.pipeline.nextFormat) : m ≠ texts t := by
  have hall := List.find?_eq_none.mp hnone t (List.mem_range'_1.mpr (by omega))
  exact fun he => hall ((entryMatches_iff hc h hfree hm hge hlt).mpr he)

namespace ReceiptInv

theorem scanned_inv (h : ReceiptInv H format w) {bytes : List UInt8} (pending : Pending bytes w) {n : Nat}
    (hn : n ≤ bytes.length) {out : ReceiptScanner × NativeChannel κ × ReceiptScanResult}
    (texts : NativeTexts H format w.textAt { w.native with channel := out.2.1 })
    (next : out.2.1.pipeline.nextFormat = w.pipeline.nextFormat)
    (observed : out.2.1.pipeline.observedSequence = w.pipeline.observedSequence)
    (scanned : ScannedTo out.1 (w.consumed ++ bytes.take n)) (same : SameScan w.worker.scanner out.1)
    (offset : out.1.offset = w.worker.scanner.offset + n)
    (awaiting : out.1.awaitingSubmission = out.2.1.pipeline.heldMatch)
    (parked : out.2.1.pipeline.heldMatch = true → out.1.failed = false ∧ openLine (w.consumed ++ bytes.take n) = [])
    (count : (w.receiptsOf (w.consumed ++ bytes.take n)).length =
      (scannedWorld w out).matched + if out.1.failed then 1 else 0)
    (order : NoCollision H w →
      (w.texts.take (scannedWorld w out).matched).map some <+: w.receiptsOf (w.consumed ++ bytes.take n)) :
    ReceiptInv H format (scannedWorld w out) := by
  obtain ⟨htake, hle⟩ := h.taken pending hn
  have hconsumed : (scannedWorld w out).consumed = w.consumed ++ bytes.take n := by
    rw [← htake, ← offset]
    rfl
  have hreceipts (l : List UInt8) : (scannedWorld w out).receiptsOf l = w.receiptsOf l := by
    show receipts out.1.prefixMode out.1.runId l = _
    rw [same.mode, same.run]
    rfl
  have hcursor := h.cursor
  refine ⟨texts, h.counted.trans next.symm, same.run.trans h.run, ?_, h.room, ?_, awaiting, ?_, ?_, ?_, h.quiet, ?_⟩
  · show w.start ≤ out.1.offset ∧ out.1.offset ≤ w.start + w.around.log.length
    omega
  · rw [hconsumed]
    exact scanned
  · rw [hconsumed]
    exact parked
  · rw [hconsumed, hreceipts]
    exact count
  · rw [hconsumed, hreceipts]
    exact fun hno => order (hno.earlier List.prefix_rfl List.prefix_rfl same)
  · intro o ho
    obtain ⟨hle, hall⟩ := h.last o ho
    exact ⟨observed.trans_le hle, hall⟩

theorem scan_passed (h : ReceiptInv H format w) {bytes : List UInt8} (pending : Pending bytes w)
    {s' : ReceiptScanner} (scanned : ScannedTo s' (w.consumed ++ bytes)) (same : SameScan w.worker.scanner s')
    (offset : s'.offset = w.worker.scanner.offset + bytes.length)
    (flags : s'.failed = w.worker.scanner.failed ∧ s'.awaitingSubmission = w.worker.scanner.awaitingSubmission)
    (none : w.receiptsOf (w.consumed ++ bytes) = w.receiptsOf w.consumed) (free : w.pipeline.heldMatch = false)
    (r : ReceiptScanResult) : ReceiptInv H format (scannedWorld w (s', w.channel, r)) := by
  have htake : bytes.take bytes.length = bytes := List.take_length
  refine h.scanned_inv pending le_rfl h.texts rfl rfl (htake.symm ▸ scanned) same offset
    (flags.2.trans h.awaiting) (fun hh => absurd (free.symm.trans hh) (by simp)) ?_ ?_
  · rw [htake, none, flags.1]
    exact h.count
  · rw [htake, none]
    exact h.order

/-- The receipt decided against: the fault is counted, the ledger stays. -/
theorem scan_refused (h : ReceiptInv H format w) {bytes : List UInt8} (pending : Pending bytes w) {n : Nat}
    (hn : n ≤ bytes.length) {out : ReceiptScanner × NativeChannel κ × ReceiptScanResult} {r : Option (List UInt8)}
    (texts : NativeTexts H format w.textAt { w.native with channel := out.2.1 })
    (next : out.2.1.pipeline.nextFormat = w.pipeline.nextFormat)
    (observed : out.2.1.pipeline.observedSequence = w.pipeline.observedSequence)
    (read : out.2.1.pipeline.ledgerRead = w.pipeline.ledgerRead)
    (free : w.pipeline.heldMatch = false) (free' : out.2.1.pipeline.heldMatch = false)
    (sound : w.worker.scanner.failed = false) (failed : out.1.failed = true)
    (awaiting : out.1.awaitingSubmission = w.worker.scanner.awaitingSubmission)
    (scanned : ScannedTo out.1 (w.consumed ++ bytes.take n)) (same : SameScan w.worker.scanner out.1)
    (offset : out.1.offset = w.worker.scanner.offset + n)
    (first : w.receiptsOf (w.consumed ++ bytes.take n) = w.receiptsOf w.consumed ++ [r]) :
    ReceiptInv H format (scannedWorld w out) := by
  have hmatched : (scannedWorld w out).matched = w.matched := by
    show out.2.1.pipeline.ledgerRead + (if out.2.1.pipeline.heldMatch then 1 else 0) = w.pipeline.ledgerRead + _
    rw [read, free', free]
  have hcount := h.count
  rw [sound, if_neg (by simp)] at hcount
  refine h.scanned_inv pending hn texts next observed scanned same offset ?_ (fun hh => absurd (free'.symm.trans hh) (by simp))
    ?_ ?_
  · rw [awaiting, h.awaiting, free, free']
  · rw [first, hmatched, failed, if_pos rfl, List.length_append, hcount]
    rfl
  · rw [first, hmatched]
    exact fun hno => (h.order hno).trans (List.prefix_append _ _)

/-- The receipt that was due is held. -/
theorem scan_held (h : ReceiptInv H format w) {bytes : List UInt8} (pending : Pending bytes w) {n : Nat}
    (hn : n ≤ bytes.length) {s' : ReceiptScanner} {m : List UInt8} {r : ReceiptScanResult} {context : κ}
    (texts : NativeTexts H format w.textAt { w.native with channel := holdFront w.channel context })
    (lt : w.pipeline.ledgerRead < w.pipeline.nextFormat) (free : w.pipeline.heldMatch = false)
    (sound : w.worker.scanner.failed = false) (failed : s'.failed = false) (awaiting : s'.awaitingSubmission = true)
    (closed : openLine (w.consumed ++ bytes.take n) = [])
    (scanned : ScannedTo s' (w.consumed ++ bytes.take n)) (same : SameScan w.worker.scanner s')
    (offset : s'.offset = w.worker.scanner.offset + n)
    (first : w.receiptsOf (w.consumed ++ bytes.take n) = w.receiptsOf w.consumed ++ [some m])
    (right : NoCollision H w → m = w.textAt w.pipeline.ledgerRead) :
    ReceiptInv H format (scannedWorld w (s', holdFront w.channel context, r)) := by
  have hread : w.matched = w.pipeline.ledgerRead := by rw [WorkerWorld.matched, free]; rfl
  have hmatched : (scannedWorld w (s', holdFront w.channel context, r)).matched = w.matched + 1 := by
    rw [hread]
    rfl
  have hcount := h.count
  rw [sound, if_neg (by simp)] at hcount
  refine h.scanned_inv pending hn texts rfl rfl scanned same offset awaiting (fun _ => ⟨failed, closed⟩) ?_ ?_
  · rw [first, hmatched, List.length_append, hcount]
    dsimp only
    rw [failed]
    rfl
  · intro hno
    rw [first, hmatched, h.exact hno sound, hread, right hno, WorkerWorld.textAt, List.getD_eq_getElem?_getD,
      List.getElem?_eq_getElem (h.counted ▸ lt), Option.getD_some, List.take_succ_eq_append_getElem (h.counted ▸ lt),
      List.map_append]
    exact List.prefix_rfl

theorem front_text (hd : ops.Digests H) (h : ReceiptInv H format w) {m : List UInt8} (hno : NoCollision H w) (hmem : some m ∈ w.receiptsOf w.around.log) {context : κ}
    {digest : Sha256Digest} (hdigest : ops.digest w.pipeline.hashContext m = (context, some digest)) :
    digest = H m ∧ FreeOf H w.textAt w.pipeline.nextFormat m := by
  refine ⟨hd _ _ _ (by rw [hdigest]), fun t ht he => hno _ ?_ m hmem he⟩
  rw [← h.counted] at ht
  rw [WorkerWorld.textAt, List.getD_eq_getElem?_getD, List.getElem?_eq_getElem ht]
  exact List.getElem_mem ht

theorem scan_message (hd : ops.Digests H) (h : ReceiptInv H format w) {bytes : List UInt8} (pending : Pending bytes w)
    {n : Nat} (hn : n ≤ bytes.length) {s' : ReceiptScanner} {m : List UInt8} (free : w.pipeline.heldMatch = false)
    (sound : w.worker.scanner.failed = false)
    (scanned : ScannedTo s' (w.consumed ++ bytes.take n)) (same : SameScan w.worker.scanner s')
    (offset : s'.offset = w.worker.scanner.offset + n) (closed : openLine (w.consumed ++ bytes.take n) = [])
    (failed : s'.failed = if (matchNativeReceipt ops w.channel m).1 = .awaitingSubmission then w.worker.scanner.failed
      else true)
    (awaiting : s'.awaitingSubmission = if (matchNativeReceipt ops w.channel m).1 = .awaitingSubmission then true
      else w.worker.scanner.awaitingSubmission)
    (first : w.receiptsOf (w.consumed ++ bytes.take n) = w.receiptsOf w.consumed ++ [some m]) :
    ReceiptInv H format (scannedWorld w (s', (matchNativeReceipt ops w.channel m).2,
      ⟨0 + n, (matchNativeReceipt ops w.channel m).1⟩)) := by
  have htexts : NativeTexts H format w.textAt { w.native with channel := (matchNativeReceipt ops w.channel m).2 } :=
    h.texts.receipt m
  rcases matchNativeReceipt_spec ops h.texts.inv.channel m with ⟨he, _⟩ | ⟨_, hlt, context, out, hdigest, hres⟩
  · rw [he] at failed awaiting ⊢
    exact h.scan_refused pending hn h.texts rfl rfl rfl free free sound failed awaiting scanned same offset first
  · rcases hres with ⟨_, he⟩ | ⟨digest, hout, ⟨_, he⟩ | ⟨t, _, _, he⟩ | ⟨hfront, he⟩⟩
    · rw [he] at failed awaiting htexts ⊢
      exact h.scan_refused pending hn htexts rfl rfl rfl free free sound failed awaiting scanned same offset first
    · rw [he] at failed awaiting htexts ⊢
      exact h.scan_refused pending hn htexts rfl rfl rfl free free sound failed awaiting scanned same offset first
    · rw [he] at failed awaiting htexts ⊢
      exact h.scan_refused pending hn htexts rfl rfl rfl free free sound failed awaiting scanned same offset first
    · rw [he] at failed awaiting htexts ⊢
      refine h.scan_held pending hn htexts hlt free sound (failed.trans sound) awaiting closed scanned same offset first
        fun hno => ?_
      have hmem : some m ∈ w.receiptsOf w.around.log := by
        have hpre : w.consumed ++ bytes.take n <+: w.around.log := by
          rw [← (h.taken pending hn).1]
          exact List.take_prefix _ _
        obtain ⟨more, hmore⟩ := hpre
        refine hmore ▸ (receipts_append _ _ _ more).subset ?_
        show some m ∈ w.receiptsOf (w.consumed ++ bytes.take n)
        rw [first]
        exact List.mem_append_right _ (List.mem_singleton_self _)
      subst hout
      obtain ⟨rfl, hfree⟩ := h.front_text hd hno hmem hdigest
      exact (matchingTicket_some h.texts.inv.channel h.texts.texts free hfree hfront).2.2

/-- A scan of bytes that are next in the file. -/
theorem scan (hd : ops.Digests H) (h : ReceiptInv H format w) {bytes : List UInt8} (pending : Pending bytes w) :
    ReceiptInv H format (scanBytesStep ops bytes w).2 := by
  have hout : ScanOutcome ops w bytes _ := h.scan_outcome pending
  generalize scanBytesStep ops bytes w = result at hout
  cases hout with
  | closed failed => exact h
  | parked sound awaiting => exact h
  | scanned sound free stop =>
      cases stop with
      | passed scanned same offset flags none => exact h.scan_passed pending scanned same offset flags none free _
      | @decided s' n r hn scanned same offset closed failed awaiting first =>
          cases r with
          | none =>
              exact h.scan_refused pending hn.2 h.texts rfl rfl rfl free free sound failed awaiting scanned same offset first
          | some m => exact h.scan_message hd pending hn.2 free sound scanned same offset closed failed awaiting first

end ReceiptInv

/-- What a step of the worker does to the receipts: at most the held one is
acknowledged, and nothing after a fault. -/
structure ReceiptStep (w w' : WorkerWorld κ) : Prop where
  texts : w.texts <+: w'.texts
  acknowledged : w'.pipeline.ledgerRead = w.pipeline.ledgerRead ∨
    w.pipeline.heldMatch = true ∧ w'.pipeline.ledgerRead = w.pipeline.ledgerRead + 1
  closed : w.worker.scanner.failed = true → w'.worker.scanner = w.worker.scanner ∧
    w'.pipeline.ledgerRead = w.pipeline.ledgerRead ∧ w'.pipeline.heldMatch = w.pipeline.heldMatch

namespace ReceiptStep

theorem refl (w : WorkerWorld κ) : ReceiptStep w w := ⟨List.prefix_rfl, .inl rfl, fun _ => ⟨rfl, rfl, rfl⟩⟩

theorem beside (texts : w'.texts = w.texts) (scanner : w'.worker.scanner = w.worker.scanner)
    (pipeline : w'.pipeline = w.pipeline) : ReceiptStep w w' := by
  refine ⟨texts ▸ List.prefix_rfl, .inl ?_, fun _ => ⟨scanner, ?_, ?_⟩⟩
  all_goals rw [pipeline]

theorem store (w : WorkerWorld κ) (input : WorkerTransport) (owner : OwnerSnapshotV3) :
    ReceiptStep w (storeWorkerStep input owner w).2 := by
  rw [storeWorkerStep]
  split
  · exact beside rfl rfl rfl
  · split <;> exact beside rfl rfl rfl

theorem prepare (h : ReceiptInv H format w) (qpc : Nat) : ReceiptStep w (prepareStep ops qpc w).2 := by
  have hframe := NativeInv.prepare_frame ops h.texts.inv qpc
  exact ⟨List.prefix_append _ _, .inl hframe.ledgerRead, fun _ => ⟨rfl, hframe.ledgerRead, hframe.receipts.2.2⟩⟩

theorem acknowledge (h : ReceiptInv H format w) (owner : OwnerSnapshotV3) (qpc : Nat) :
    ReceiptStep w (acknowledgeStep owner qpc w).2 := by
  rcases h.acknowledgeStep_cases owner qpc with ⟨he, _⟩ | ⟨he, hheld, _⟩
  · rw [he]
    exact refl w
  · rw [he]
    exact ⟨List.prefix_rfl, .inr ⟨hheld, rfl⟩, fun hfailed => absurd (h.parked hheld).1 (by simp [hfailed])⟩

theorem matchNativeReceipt_read (hc : ChannelInv w.channel) (m : List UInt8) :
    (matchNativeReceipt ops w.channel m).2.pipeline.ledgerRead = w.pipeline.ledgerRead := by
  rcases matchNativeReceipt_spec ops hc m with ⟨he, _⟩ | ⟨_, _, context, out, _, hres⟩
  · rw [he]
  · rcases hres with ⟨_, he⟩ | ⟨_, _, ⟨_, he⟩ | ⟨_, _, _, he⟩ | ⟨_, he⟩⟩ <;> rw [he] <;> rfl

theorem scan (h : ReceiptInv H format w) {bytes : List UInt8} (pending : Pending bytes w) :
    ReceiptStep w (scanBytesStep ops bytes w).2 := by
  have hout : ScanOutcome ops w bytes _ := h.scan_outcome pending
  generalize scanBytesStep ops bytes w = result at hout
  cases hout with
  | closed failed => exact refl w
  | parked sound awaiting => exact refl w
  | scanned sound free stop =>
      refine ⟨List.prefix_rfl, .inl ?_, fun hfailed => absurd sound (by simp [hfailed])⟩
      cases stop with
      | passed => rfl
      | @decided s' n r =>
          cases r with
          | none => rfl
          | some m => exact matchNativeReceipt_read h.texts.inv.channel m

end ReceiptStep

theorem receiptRules (hd : ops.Digests H) (format : NativeFormatContext) :
    CycleRules ops (OutsideStep ops) ReceiptStep (fun _ => True) (ReceiptInv H format) where
  stable _ _ h he := h.outside hd he
  untouched _ _ h he := he.untouched h
  cursor _ h := h.cursor.1
  initialized _ h := h.texts.inv.channel.initialized
  covered _ o h ho := ⟨List.mem_of_getLast? ho, (h.last o ho).1⟩
  quiet _ h := h.quiet
  faults _ _ := .inl trivial
  change w v status h hscan hquiet _ := ⟨.beside rfl hscan rfl, h.change status hscan hquiet⟩
  latch w reason h _ _ := ⟨.beside rfl rfl rfl, h.change _ rfl h.quiet⟩
  store w input owner h _ _ := by
    refine ⟨.store w input owner, ?_⟩
    rw [storeWorkerStep]
    split
    · exact h.change _ rfl h.quiet
    · split
      · exact h.change _ rfl h.quiet
      · exact ⟨h.1, h.2, h.3, h.4, h.5, h.6, h.7, h.8, h.9, h.10, h.11, h.12⟩
  prepare w qpc h := ⟨.prepare h qpc, h.prepare hd qpc⟩
  acknowledge w owner qpc h ho := ⟨.acknowledge h owner qpc, h.acknowledge ops qpc ho⟩
  scan w bytes h pending := ⟨.scan h pending, h.scan hd pending⟩

end RS2ServerFix.NativeLog
