import RS2ServerFix.NativeLog.FirstReceipt

namespace RS2ServerFix.NativeLog

open Reporting Lib

variable {κ : Type} {ops : NativeHashOps κ} {H : List UInt8 → Sha256Digest} {format : NativeFormatContext}
  {w w' : WorkerWorld κ}

/-- No receipt is missed: whatever is appended to the file and however the
worker comes to read it, the receipts it takes are the frames in their order,
a line of this run that is not the next frame closes the scanner, and behind
a closed scanner nothing moves. -/
theorem receipts_sound (hd : ops.Digests H) (htotal : ops.Total) {w₀ : WorkerWorld κ} {p : WorkerProg κ Unit}
    (init : w₀.Initial) (run : WorkerRun ops (w₀, cycleNativeReceipts ops) (w, p)) (hno : NoCollision H w) :
    ReceiptsSound w ∧
      (∀ bytes r rest, Pending bytes w → w.worker.scanner.failed = false → w.pipeline.heldMatch = false →
        w.receiptsOf (w.consumed ++ bytes) = w.receiptsOf w.consumed ++ r :: rest → ScanSound ops w bytes r) ∧
      (∀ w' p', Turn (OutsideStep ops) (cycleNativeReceipts ops) (w, p) (w', p') → AckStep w w') ∧
      ∀ w' p', WorkerRun ops (w, p) (w', p') → w.worker.scanner.failed = true → ReceiptsClosed w w' := by
  have R := receiptRules hd w₀.pipeline.format
  have h := ReceiptInv.running hd init run
  refine ⟨h.inv.sound hno, fun bytes r rest pending hsound hfree first => ?_, fun w' p' move => ?_, fun w' p' later => ?_⟩
  · exact h.inv.scanSound hd htotal hno pending hsound hfree first
  · obtain ⟨hnext, hmove⟩ := h.turn (fun _ h => h) R.stable R.cycle move
    refine h.inv.ackStep hnext.inv ?_
    rcases hmove with he | he | hstep
    · exact .inl (by rw [show w' = w from he])
    · exact .inl (he.receipts h.inv).2.1
    · exact hstep.acknowledged
  · exact ReceiptInv.closed hd h later

/-- A digest of 32 sums over the bytes, each with its own weights. -/
def checksum (bytes : List UInt8) : Sha256Digest :=
  Vector.ofFn fun i : Fin 32 => bytes.foldl (fun sum b => sum * (2 * i.val + 3).toUInt8 + b) 0

def checksumOps : NativeHashOps Unit := ⟨fun _ bytes => ((), some (checksum bytes))⟩

theorem checksumOps_digests : checksumOps.Digests checksum := fun _ _ _ h => (Option.some.inj h).symm

def repeatedLog (native : NativeSystem κ) : List UInt8 :=
  (List.replicate 2 (loggedLine (ascii "Log: ") native.channel.pipeline.bootstrap ++ [lineFeed])).flatten

theorem repeatedLog_spec {native : NativeSystem κ} (h : native.Initial) :
    receipts .logOnly native.channel.pipeline.format.header.runId.toList (repeatedLog native) =
        [some native.channel.pipeline.bootstrap, some native.channel.pipeline.bootstrap] ∧
      (repeatedLog native).length ≤ kReadBufferBytes := by
  have htexts : NativeTexts (fun _ => default) _ _ native := .init h
  have hprepared := htexts.inv.channel.prepared
  have hframe := htexts.texts.texts 0 (by omega)
  have hshown : LinePrefix (ascii "Log: ") .logOnly := rfl
  refine ⟨receipts_replicate (loggedLine_feed hframe.text.2) (hframe.logged hshown) 2, ?_⟩
  have hlength : native.channel.pipeline.bootstrap.length ≤ 8192 := hframe.text.1
  have hprefix : (ascii "Log: ").length = 5 := rfl
  have hbuffer : kReadBufferBytes = 65536 := rfl
  rw [repeatedLog, List.length_flatten, List.map_replicate, List.sum_replicate_nat, loggedLine]
  simp only [List.length_append, List.length_singleton]
  omega

/-- The bootstrap is submitted and shown, and its first line acknowledged. -/
theorem repeatedLog_run (hd : ops.Digests H) (htotal : ops.Total) {native : NativeSystem κ} (hnative : native.InitialAfter []) :
    ∃ w p, WorkerRun ops (WorkerWorld.fresh native (repeatedLog native), cycleNativeReceipts ops) (w, p) ∧
      Acknowledged (WorkerWorld.fresh native (repeatedLog native)) w ∧ NoCollision H w ∧
      w.receiptsOf w.around.log = [some native.channel.pipeline.bootstrap, some native.channel.pipeline.bootstrap] := by
  obtain ⟨hreceipts, hsize⟩ := repeatedLog_spec ⟨[], hnative⟩
  have hno {t m : List UInt8} (ht : t ∈ [native.channel.pipeline.bootstrap])
      (hm : some m ∈ [some native.channel.pipeline.bootstrap, some native.channel.pipeline.bootstrap]) : m = t := by
    rw [List.mem_singleton.mp ht]
    exact Option.some.inj (List.eq_of_mem_replicate (n := 2) hm)
  obtain ⟨w, p, hrun, hw⟩ := fresh_acknowledged hd htotal hnative hreceipts
    (fun t ht m hm _ => hno ht (by rw [← hreceipts]; exact hm)) hsize
  have hlog : w.receiptsOf w.around.log =
      [some native.channel.pipeline.bootstrap, some native.channel.pipeline.bootstrap] := by
    rw [WorkerWorld.receiptsOf, hw.same.mode, hw.same.run, hw.around]
    exact hreceipts
  refine ⟨w, p, hrun, hw, fun t ht m hm _ => hno ?_ (hlog ▸ hm), hlog⟩
  rw [hw.texts] at ht
  exact ht

/-- The line that comes a second time is no receipt that is due. -/
theorem Acknowledged.again {native : NativeSystem κ} {log : List UInt8} {r s : Option (List UInt8)}
    (h : Acknowledged (WorkerWorld.fresh native log) w) (hsound : ReceiptsSound w) (hlog : w.receiptsOf w.around.log = [r, s])
    (hfirst : r = some native.channel.pipeline.bootstrap) : w.receiptsOf w.consumed = [r] ∧
      w.receiptsOf (w.consumed ++ w.around.log.drop (w.worker.scanner.offset - w.start)) = w.receiptsOf w.consumed ++ s :: [] ∧
      ¬ (w.pipeline.ledgerRead < w.texts.length ∧ s = some (w.textAt w.pipeline.ledgerRead)) := by
  have hmatched : w.matched = 1 := by
    rw [WorkerWorld.matched, h.read, h.free]
    rfl
  have htaken : w.receiptsOf w.consumed = [r] := by
    rw [hsound.exact h.sound, hmatched, h.texts, hfirst]
    rfl
  refine ⟨htaken, ?_, ?_⟩
  · rw [htaken, WorkerWorld.consumed, List.take_append_drop, hlog]
    rfl
  · rw [h.read, h.texts]
    exact fun hlt => absurd hlt.1 (Nat.lt_irrefl 1)

/-- The bootstrap was submitted and shown, its line was read and acknowledged,
and the same line behind it closes the scanner. -/
theorem receipts_sound_sample : ∃ (w : WorkerWorld Unit) (p : WorkerProg Unit Unit),
    WorkerRun checksumOps (WorkerWorld.fresh sampleSystem (repeatedLog sampleSystem), cycleNativeReceipts checksumOps) (w, p) ∧
      w.pipeline.ledgerRead = 1 ∧ w.receiptsOf w.consumed = [some sampleSystem.channel.pipeline.bootstrap] ∧
      ReceiptsSound w ∧
      (scanBytesStep checksumOps (w.around.log.drop (w.worker.scanner.offset - w.start)) w).2.worker.scanner.failed = true := by
  have hinit : (WorkerWorld.fresh sampleSystem (repeatedLog sampleSystem)).Initial :=
    WorkerWorld.fresh_initial ⟨[], sampleSystem_initial⟩
      ((repeatedLog_spec ⟨[], sampleSystem_initial⟩).2.trans (by decide))
  obtain ⟨w, p, hrun, hw, hno, hlog⟩ := repeatedLog_run checksumOps_digests (fun _ _ => rfl) sampleSystem_initial
  obtain ⟨hsound, hscan, -⟩ := receipts_sound checksumOps_digests (fun _ _ => rfl) hinit hrun hno
  obtain ⟨htaken, hagain, hwrong⟩ := hw.again hsound hlog rfl
  exact ⟨w, p, hrun, hw.read, htaken, hsound, ((hscan _ _ _ List.prefix_rfl hw.sound hw.free hagain).wrong hwrong).1⟩

end RS2ServerFix.NativeLog
