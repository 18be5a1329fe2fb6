import RS2ServerFix.NativeLog.WorkerReceipts

namespace RS2ServerFix.NativeLog

open Reporting Lib

variable {κ : Type} {ops : NativeHashOps κ} {H : List UInt8 → Sha256Digest} {format : NativeFormatContext}
  {w w' : WorkerWorld κ}

theorem ReceiptInv.init (h : w.Initial) : ReceiptInv H w.pipeline.format w := by
  obtain ⟨hnative, ⟨mode, hscanner⟩, htexts, hroom, hquiet⟩ := h
  have hinit : NativeTexts H _ _ w.native := .init hnative
  obtain ⟨records, status, owner, hashContext, oldHash, context, old, qpc, hlen, hpipeline, _, _, _, _, hpub⟩ := hnative
  obtain ⟨hring, hread⟩ := enqueueAll_inv status (initializeReportRing_inv owner) records rfl
    (by simpa [initializeReportRing] using hlen)
  obtain ⟨hc, _, hr, _, hledger, _, hheld⟩ := initializeNativePipeline_inv hring hread hpipeline
  have hprepared : w.pipeline.preparedSequence + 1 = w.pipeline.nextFormat := hc.prepared
  have hdrained : w.pipeline.ledgerWrite = w.channel.ring.reportReadSequence + 1 := hc.drained
  have hord : w.pipeline.nextFormat ≤ w.pipeline.ledgerWrite := hc.ledgerOrder.2.1
  have hempty : w.channel.ring.reportReadSequence = 0 := (congrArg ReportRingV3.reportReadSequence hr).trans hread
  have hobserved := hc.observed_le.1.trans (hc.observed_le.2.trans hempty.le)
  have hmatched : w.matched = 0 := by
    rw [WorkerWorld.matched, hledger, hheld]
    rfl
  have hconsumed : w.consumed = [] := by
    rw [WorkerWorld.consumed, hscanner]
    show w.around.log.take (w.start - w.start) = []
    rw [Nat.sub_self, List.take_zero]
  refine ⟨hinit.congr fun t ht => ?_, ?_, ?_, ?_, hroom, ?_, ?_, fun hh => absurd hh (by simp [hheld]), ?_, ?_, hquiet, ?_⟩
  · have ht : t < w.pipeline.nextFormat := ht
    obtain rfl : t = 0 := by omega
    rw [WorkerWorld.textAt, htexts]
    rfl
  · rw [htexts, List.length_singleton]
    omega
  · rw [hscanner]
    rfl
  · rw [hscanner]
    exact ⟨le_rfl, Nat.le_add_right _ _⟩
  · rw [hconsumed, hscanner]
    exact ⟨rfl, rfl, rfl⟩
  · rw [hscanner, hheld]
    rfl
  · rw [hconsumed, hmatched, hscanner]
    rfl
  · rw [hmatched]
    exact fun _ => List.nil_prefix
  · rw [hpub]
    intro o ho
    obtain rfl : o = ⟨2, false, 0, 0⟩ := (Option.some.inj ho).symm
    refine ⟨hobserved, fun o' ho' => ?_⟩
    rw [List.mem_singleton] at ho'
    rw [ho']

def NativeHashOps.Total (ops : NativeHashOps κ) : Prop := ∀ context bytes, (ops.digest context bytes).2.isSome

/-- The receipts taken so far are those of the first frames, in their order;
the next one would be the front frame's. -/
structure ReceiptsSound (w : WorkerWorld κ) : Prop where
  taken : w.consumed <+: w.around.log
  observed : w.pipeline.ledgerRead = if w.pipeline.startupObserved then w.pipeline.observedSequence + 1 else 0
  distinct : ∀ i j, i < w.texts.length → j < w.texts.length → w.textAt i = w.textAt j → i = j
  order : (w.texts.take w.matched).map some <+: w.receiptsOf w.consumed
  exact : w.worker.scanner.failed = false → w.receiptsOf w.consumed = (w.texts.take w.matched).map some

structure ScanSound (ops : NativeHashOps κ) (w : WorkerWorld κ) (bytes : List UInt8) (r : Option (List UInt8)) :
    Prop where
  due : w.pipeline.ledgerRead < w.texts.length → r = some (w.textAt w.pipeline.ledgerRead) →
    (scanBytesStep ops bytes w).1.disposition = .awaitingSubmission ∧
      (scanBytesStep ops bytes w).2.worker.scanner.failed = false ∧
      (scanBytesStep ops bytes w).2.pipeline.heldMatch = true
  wrong : ¬ (w.pipeline.ledgerRead < w.texts.length ∧ r = some (w.textAt w.pipeline.ledgerRead)) →
    (scanBytesStep ops bytes w).2.worker.scanner.failed = true ∧
      (scanBytesStep ops bytes w).2.pipeline.heldMatch = false
  later : ∀ t, w.pipeline.ledgerRead < t → t < w.texts.length → r = some (w.textAt t) →
    (scanBytesStep ops bytes w).1.disposition = .gap
  other : (∀ t, w.pipeline.ledgerRead ≤ t → t < w.texts.length → r ≠ some (w.textAt t)) →
    (scanBytesStep ops bytes w).1.disposition = .corrupt

def AckStep (w w' : WorkerWorld κ) : Prop :=
  w'.pipeline.ledgerRead = w.pipeline.ledgerRead ∧ w'.pipeline.startupObserved = w.pipeline.startupObserved ∧
      w'.pipeline.observedSequence = w.pipeline.observedSequence ∨
    w.pipeline.heldMatch = true ∧ w'.pipeline.ledgerRead = w.pipeline.ledgerRead + 1 ∧
      w'.pipeline.startupObserved = true ∧ w'.pipeline.observedSequence = w.pipeline.ledgerRead

/-- Nothing is scanned, matched or acknowledged any more. -/
def ReceiptsClosed (w w' : WorkerWorld κ) : Prop :=
  w'.worker.scanner = w.worker.scanner ∧ w'.pipeline.heldMatch = false ∧
    w'.pipeline.ledgerRead = w.pipeline.ledgerRead ∧ w'.pipeline.observedSequence = w.pipeline.observedSequence

namespace ReceiptInv

theorem sound (h : ReceiptInv H format w) (hno : NoCollision H w) : ReceiptsSound w := by
  refine ⟨List.take_prefix _ _, h.texts.inv.channel.observed, fun i j hi hj he => ?_, h.order hno, h.exact hno⟩
  rw [h.counted] at hi hj
  exact h.texts.texts.distinct h.texts.inv.channel hi hj he

/-- The observed sequence follows the read cursor. -/
theorem ackStep (h : ReceiptInv H format w) (h' : ReceiptInv H format w')
    (hread : w'.pipeline.ledgerRead = w.pipeline.ledgerRead ∨
      w.pipeline.heldMatch = true ∧ w'.pipeline.ledgerRead = w.pipeline.ledgerRead + 1) : AckStep w w' := by
  have ho : w.pipeline.ledgerRead = _ := h.texts.inv.channel.observed
  have ho' : w'.pipeline.ledgerRead = _ := h'.texts.inv.channel.observed
  have hu : w.pipeline.startupObserved = false → w.pipeline.observedSequence = 0 := h.texts.inv.channel.unobserved
  have hu' : w'.pipeline.startupObserved = false → w'.pipeline.observedSequence = 0 := h'.texts.inv.channel.unobserved
  rcases hread with hread | ⟨hheld, hread⟩
  · refine .inl ⟨hread, ?_⟩
    rw [hread, ho] at ho'
    cases hs : w.pipeline.startupObserved <;> cases hs' : w'.pipeline.startupObserved
    · exact ⟨rfl, (hu' hs').trans (hu hs).symm⟩
    · simp [hs, hs'] at ho'
    · simp [hs, hs'] at ho'
    · simp only [hs, hs', if_true, Nat.add_right_cancel_iff] at ho'
      exact ⟨rfl, ho'.symm⟩
  · refine .inr ⟨hheld, hread, ?_⟩
    cases hs' : w'.pipeline.startupObserved with
    | false => simp [hs', hread] at ho'
    | true =>
        rw [hread, hs', if_pos rfl] at ho'
        exact ⟨rfl, (Nat.succ.inj ho').symm⟩

end ReceiptInv

/-- How a message read while nothing is held is decided. -/
theorem matchNativeReceipt_decides {s : NativeSystem κ} {texts : Nat → List UInt8} {m : List UInt8}
    (hd : ops.Digests H) (htotal : ops.Total) (h : NativeTexts H format texts s)
    (hheld : s.channel.pipeline.heldMatch = false) (hm : FreeOf H texts s.channel.pipeline.nextFormat m) :
    (s.channel.pipeline.ledgerRead < s.channel.pipeline.nextFormat → m = texts s.channel.pipeline.ledgerRead →
        (matchNativeReceipt ops s.channel m).1 = .awaitingSubmission ∧
          (matchNativeReceipt ops s.channel m).2.pipeline.heldMatch = true) ∧
      (¬ (s.channel.pipeline.ledgerRead < s.channel.pipeline.nextFormat ∧ m = texts s.channel.pipeline.ledgerRead) →
        (matchNativeReceipt ops s.channel m).1 ≠ .awaitingSubmission ∧
          (matchNativeReceipt ops s.channel m).2.pipeline.heldMatch = false) ∧
      (∀ t, s.channel.pipeline.ledgerRead < t → t < s.channel.pipeline.nextFormat → m = texts t →
        (matchNativeReceipt ops s.channel m).1 = .gap) ∧
      ((∀ t, s.channel.pipeline.ledgerRead ≤ t → t < s.channel.pipeline.nextFormat → m ≠ texts t) →
        (matchNativeReceipt ops s.channel m).1 = .corrupt) := by
  have hc := h.inv.channel
  rcases matchNativeReceipt_spec ops hc m with ⟨he, hrefuse⟩ | ⟨_, hlt, context, out, hdigest, hres⟩
  · have hend : s.channel.pipeline.ledgerRead = s.channel.pipeline.nextFormat := by
      rcases hrefuse with hh | hend
      · exact absurd hh (by simp [hheld])
      · exact hend
    rw [he]
    exact ⟨fun hlt => by omega, fun _ => ⟨by simp, hheld⟩, fun t h1 h2 => by omega, fun _ => rfl⟩
  · have hsome := htotal s.channel.pipeline.hashContext m
    rw [hdigest] at hsome
    rcases hres with ⟨hnone, _⟩ | ⟨digest, hout, hcase⟩
    · rw [hnone] at hsome
      cases hsome
    · have hvalue := hd s.channel.pipeline.hashContext m digest (by rw [hdigest, hout])
      rw [hvalue] at hcase
      rcases hcase with ⟨hnone, he⟩ | ⟨t, ht, hne, he⟩ | ⟨hfront, he⟩
      · have hall {t : Nat} := matchingTicket_none (t := t) hc h.texts hheld hm hnone
        rw [he]
        exact ⟨fun _ hfront => absurd hfront (hall le_rfl hlt), fun _ => ⟨by simp, hheld⟩,
          fun t h1 h2 hm' => absurd hm' (hall h1.le h2), fun _ => rfl⟩
      · obtain ⟨hge, hlt', htext⟩ := matchingTicket_some hc h.texts hheld hm ht
        rw [he]
        refine ⟨fun _ hfront => ?_, fun _ => ⟨by simp, hheld⟩, fun _ _ _ _ => rfl, fun hall => absurd htext (hall t hge hlt')⟩
        exact absurd (h.texts.distinct hc hlt' hlt (htext.symm.trans hfront)) hne
      · obtain ⟨_, _, htext⟩ := matchingTicket_some hc h.texts hheld hm hfront
        rw [he]
        refine ⟨fun _ _ => ⟨rfl, rfl⟩, fun hno => absurd ⟨hlt, htext⟩ hno, fun t h1 h2 hm' => ?_,
          fun hall => absurd htext (hall _ le_rfl hlt)⟩
        exact absurd (h.texts.distinct hc hlt h2 (htext.symm.trans hm')) h1.ne

/-- A first receipt in the bytes is the one that decides their scan. -/
theorem ReceiptInv.scanSound (hd : ops.Digests H) (htotal : ops.Total) (h : ReceiptInv H format w)
    (hno : NoCollision H w) {bytes : List UInt8} {r : Option (List UInt8)} {rest : List (Option (List UInt8))}
    (pending : Pending bytes w) (sound : w.worker.scanner.failed = false) (free : w.pipeline.heldMatch = false)
    (first : w.receiptsOf (w.consumed ++ bytes) = w.receiptsOf w.consumed ++ r :: rest) : ScanSound ops w bytes r := by
  have hout : ScanOutcome ops w bytes (scanBytesStep ops bytes w) := h.scan_outcome pending
  suffices hsuff : ∀ result, ScanOutcome ops w bytes result →
      (w.pipeline.ledgerRead < w.texts.length → r = some (w.textAt w.pipeline.ledgerRead) →
        result.1.disposition = .awaitingSubmission ∧ result.2.worker.scanner.failed = false ∧
          result.2.pipeline.heldMatch = true) ∧
      (¬ (w.pipeline.ledgerRead < w.texts.length ∧ r = some (w.textAt w.pipeline.ledgerRead)) →
        result.2.worker.scanner.failed = true ∧ result.2.pipeline.heldMatch = false) ∧
      (∀ t, w.pipeline.ledgerRead < t → t < w.texts.length → r = some (w.textAt t) →
        result.1.disposition = .gap) ∧
      ((∀ t, w.pipeline.ledgerRead ≤ t → t < w.texts.length → r ≠ some (w.textAt t)) →
        result.1.disposition = .corrupt) by
    obtain ⟨h1, h2, h3, h4⟩ := hsuff _ hout
    exact ⟨h1, h2, h3, h4⟩
  intro result hresult
  cases hresult with
  | closed failed => exact absurd failed (by simp [sound])
  | parked _ awaiting => exact absurd (h.awaiting.symm.trans awaiting) (by simp [free])
  | scanned _ _ stop =>
      cases stop with
      | passed scanned same offset flags none =>
          have hsame := first.symm.trans none
          exact absurd (congrArg List.length hsame) (by simp [WorkerWorld.receiptsOf])
      | @decided s' n r' hn scanned same offset closed failed awaiting first' =>
          obtain rfl : r' = r := by
            have hgrown := receipts_append w.worker.scanner.prefixMode w.worker.scanner.runId
              (w.consumed ++ bytes.take n) (bytes.drop n)
            rw [List.append_assoc, List.take_append_drop, first'] at hgrown
            obtain ⟨more, hmore⟩ := hgrown
            have he := hmore.trans first
            rw [List.append_assoc] at he
            exact (List.cons.inj (List.append_cancel_left he)).1
          rw [sound] at failed
          cases r' with
          | none => exact ⟨by simp, fun _ => ⟨failed.trans rfl, free⟩, by simp, fun _ => rfl⟩
          | some m =>
              have hmem : some m ∈ w.receiptsOf w.around.log := by
                obtain ⟨more, hmore⟩ : w.consumed ++ bytes <+: w.around.log := by
                  have htake := (h.taken pending le_rfl).1
                  rw [List.take_length] at htake
                  rw [← htake]
                  exact List.take_prefix _ _
                refine hmore ▸ (receipts_append _ _ _ more).subset ?_
                show some m ∈ w.receiptsOf (w.consumed ++ bytes)
                rw [first]
                exact List.mem_append_right _ List.mem_cons_self
              have hfree : FreeOf H w.textAt w.pipeline.nextFormat m := by
                intro t ht he
                rw [← h.counted] at ht
                refine hno _ ?_ m hmem he
                rw [WorkerWorld.textAt, List.getD_eq_getElem?_getD, List.getElem?_eq_getElem ht]
                exact List.getElem_mem ht
              obtain ⟨hdue, hwrong, hlater, hother⟩ := matchNativeReceipt_decides hd htotal h.texts free hfree
              rw [h.counted]
              simp only [Option.some.injEq, ne_eq]
              refine ⟨fun hlt he => ?_, fun hbad => ?_, hlater, hother⟩
              · obtain ⟨hdisposition, hheld⟩ := hdue hlt he
                exact ⟨hdisposition, failed.trans (if_pos hdisposition), hheld⟩
              · obtain ⟨hdisposition, hheld⟩ := hwrong hbad
                exact ⟨failed.trans (if_neg hdisposition), hheld⟩

abbrev WorkerRun (ops : NativeHashOps κ) : WorkerWorld κ × WorkerProg κ Unit → WorkerWorld κ × WorkerProg κ Unit → Prop :=
  Turns (OutsideStep ops) (cycleNativeReceipts ops)

/-- What the others do to the receipts. -/
theorem OutsideStep.receipts (h : ReceiptInv H format w) (he : OutsideStep ops w w') :
    w'.worker.scanner = w.worker.scanner ∧ w'.pipeline.ledgerRead = w.pipeline.ledgerRead ∧
      w'.pipeline.heldMatch = w.pipeline.heldMatch := by
  cases he with
  | owner mine allowed =>
      obtain ⟨n, hpipeline⟩ := NativeInv.owner_pipeline ops h.texts.inv mine allowed
      refine ⟨rfl, ?_, ?_⟩
      all_goals rw [WorkerWorld.pipeline, hpipeline]
  | around log room => exact ⟨rfl, rfl, rfl⟩

theorem ReceiptInv.running (hd : ops.Digests H) {w₀ : WorkerWorld κ} {p : WorkerProg κ Unit} (init : w₀.Initial)
    (run : WorkerRun ops (w₀, cycleNativeReceipts ops) (w, p)) :
    Running (OutsideStep ops) ReceiptStep (ReceiptInv H w₀.pipeline.format) (ReceiptInv H w₀.pipeline.format) (w, p) := by
  have R := receiptRules hd w₀.pipeline.format
  exact (Running.start (fun _ h => h) R.cycle (.init init)).turns (fun _ h => h) R.stable R.cycle run

/-- After a fault nothing of the receipts ever changes. -/
theorem ReceiptInv.closed (hd : ops.Digests H) {p p' : WorkerProg κ Unit}
    (h : Running (OutsideStep ops) ReceiptStep (ReceiptInv H format) (ReceiptInv H format) (w, p)) (run : WorkerRun ops (w, p) (w', p'))
    (failed : w.worker.scanner.failed = true) : ReceiptsClosed w w' := by
  have R := receiptRules hd format
  have hfree : w.pipeline.heldMatch = false := by
    by_contra hheld
    exact absurd (h.inv.parked (by simpa using hheld)).1 (by simp [failed])
  have hkeep := h.keeps (P := fun u => u.worker.scanner = w.worker.scanner ∧ u.pipeline.heldMatch = false ∧
      u.pipeline.ledgerRead = w.pipeline.ledgerRead) (fun _ h => h) R.stable R.cycle ?_ run ⟨rfl, hfree, rfl⟩
  · obtain ⟨hscanner, hheld, hread⟩ := hkeep
    have hlast := (h.turns (fun _ h => h) R.stable R.cycle run).inv
    rcases h.inv.ackStep hlast (.inl hread) with ⟨_, _, hobserved⟩ | ⟨hh, _⟩
    · exact ⟨hscanner, hheld, hread, hobserved⟩
    · exact absurd hh (by simp [hfree])
  · rintro u u' hu ⟨hscanner, hheld, hread⟩ (he | hstep)
    · obtain ⟨h1, h2, h3⟩ := he.receipts hu
      exact ⟨h1.trans hscanner, h3.trans hheld, h2.trans hread⟩
    · obtain ⟨h1, h2, h3⟩ := hstep.closed (by rw [hscanner]; exact failed)
      exact ⟨h1.trans hscanner, h3.trans hheld, h2.trans hread⟩

end RS2ServerFix.NativeLog
