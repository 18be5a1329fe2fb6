import RS2ServerFix.NativeLog.LoggedLines
import RS2ServerFix.NativeLog.ReceiptScans

namespace RS2ServerFix.NativeLog

open Reporting Lib

variable {κ : Type} {ops : NativeHashOps κ} {H : List UInt8 → Sha256Digest} {format : NativeFormatContext}
  {w w' : WorkerWorld κ}

/-- The owner looks at the front frame and submits it. -/
theorem NativeInv.submits (ops : NativeHashOps κ) {s : NativeSystem κ} (h : NativeInv s)
    (hfresh : s.submittedFrames = s.channel.pipeline.readyRead)
    (hlt : s.channel.pipeline.readyRead < s.channel.pipeline.readyWrite) :
    NativeAction.submit.Allowed (s.next ops .peek) ∧
      ((s.next ops .peek).next ops .submit).channel = s.channel ∧
      ((s.next ops .peek).next ops .submit).startupSubmitted = true := by
  have hshown : NativeInv (s.next ops .peek) := h.next trivial
  rw [h.next_peek hlt] at hshown ⊢
  have hsome : ({ s with peeked := some (s.channel.pipeline.ready.get s.channel.pipeline.readyRead) } :
    NativeSystem κ).peeked = some _ := rfl
  have hnew := mt (hshown.frameSubmitted_iff hsome).mp (fun he => Nat.succ_ne_self _ (he.symm.trans hfresh))
  exact ⟨⟨_, hsome, hnew⟩, (hshown.submit hsome hnew).2, (hshown.submit_frame hsome hnew).1.1⟩

def NativeSystem.ShowsStartup (s : NativeSystem κ) : Prop :=
  ∃ o, s.published.getLast? = some o ∧ 2 ≤ o.sequence ∧ o.sequence % 2 = 0 ∧ o.startupSubmitted = true

theorem run_sampleClock {now : Nat} (hclock : w.around.clock = some now) (hopen : w.worker.clockFailed = false)
    (hpos : now ≠ 0) (hlast : w.worker.lastClock ≤ now) :
    sampleClock.run w = (some now, w.setWorker { w.worker with lastClock := now }) := by
  simp only [sampleClock, Prog.act, Prog.run, hclock]
  rw [if_neg]
  simp only [hopen, hpos, not_lt.mpr hlast, Bool.false_eq_true, or_self, not_false_eq_true]

theorem run_addCounter {get : WorkerTransport → Nat} {set : WorkerTransport → Nat → WorkerTransport} {amount : Nat}
    (hfits : get w.worker.counters + amount ≤ uint64Max) : (addCounter get set amount).run w =
      (true, w.setCounters (set w.worker.counters (get w.worker.counters + amount))) := by
  simp only [addCounter, Prog.act, Prog.run]
  rw [if_neg (by omega)]

/-- The worker is in its cycle with one prepared text that waits for its receipt. -/
structure Cycling (w₀ : WorkerWorld κ) (c : WorkerTransport) (w : WorkerWorld κ) : Prop where
  around : w.around = w₀.around
  start : w.start = w₀.start
  texts : w.texts = w₀.texts
  scanner : w.worker.scanner = w₀.worker.scanner
  counters : w.worker.counters = c
  shown : w.native.ShowsStartup
  free : w.pipeline.heldMatch = false
  unread : w.pipeline.ledgerRead = 0
  formatted : w.pipeline.nextFormat = 1
  drained : w.channel.ring.reportWriteSequence = 0
  clock : w.worker.clockFailed = false ∧ w.worker.lastClock ≤ 10

namespace Cycling

variable {w₀ : WorkerWorld κ} {c : WorkerTransport}

theorem sampleClock (h : Cycling w₀ c w) (hclock : w₀.around.clock = some 10) :
    (sampleClock.run w).1 = some 10 ∧ Cycling w₀ c (sampleClock.run w).2 := by
  rw [run_sampleClock (h.around ▸ hclock) h.clock.1 (by decide) h.clock.2]
  exact ⟨rfl, h.around, h.start, h.texts, h.scanner, h.counters, h.shown, h.free, h.unread, h.formatted, h.drained,
    h.clock.1, le_rfl⟩

theorem addCounter (h : Cycling w₀ c w) {get : WorkerTransport → Nat} {set : WorkerTransport → Nat → WorkerTransport}
    {amount : Nat} (hfits : get c + amount ≤ uint64Max) :
    ((addCounter get set amount).run w).1 = true ∧
      Cycling w₀ (set c (get c + amount)) ((NativeLog.addCounter get set amount).run w).2 := by
  rw [run_addCounter (h.counters ▸ hfits), h.counters]
  exact ⟨rfl, h.around, h.start, h.texts, h.scanner, rfl, h.shown, h.free, h.unread, h.formatted, h.drained, h.clock⟩

theorem prepareOpen (h : Cycling w₀ c w) (hinv : ReceiptInv H format w) :
    ((prepareOpen ops 10).run w).1 = true ∧ Cycling w₀ c ((NativeLog.prepareOpen ops 10).run w).2 := by
  have hc : ChannelInv w.channel := hinv.texts.inv.channel
  have hdrained : w.channel.ring.reportWriteSequence = 0 := h.drained
  have hformatted : w.channel.pipeline.nextFormat = 1 := h.formatted
  have hqueue : w.channel.pipeline.readyWrite = w.channel.pipeline.nextFormat := hc.queue
  rw [NativeLog.prepareOpen, Prog.bind_def, Prog.run_bind, Prog.run_read, Prog.run_ite]
  split
  · exact ⟨rfl, h⟩
  · have hten : (10 : Nat) ≠ 0 := by decide
    obtain ⟨c', hrun, _, hres⟩ := prepareNativeFrames_spec ops hc hten
    have hframe := Prepares.frame hrun hc
    have hc' := Prepares.inv hrun hc
    have hwritten := hframe.written.1
    have hgrown := hframe.readyWrite
    have hqueue' := hc'.queue
    have hdrained' := hc'.drained
    have hord := hc'.ledgerOrder
    have hring := hc'.ring.order
    have hmax : uint64Max = 18446744073709551615 := rfl
    rcases hres with ⟨he, _⟩ | ⟨_, hend⟩ | ⟨_, _, hlt, _⟩
    · have hnone : c'.pipeline.readyWrite - w.channel.pipeline.readyWrite = 0 := by omega
      have hnew : newTexts w.channel.pipeline c'.pipeline = [] := by
        rw [newTexts, hnone]
        rfl
      have hstep : prepareStep ops 10 w = (true, { w.setChannel c' with texts := w.texts }) := by
        rw [prepareStep, he]
        dsimp only
        rw [hnew, List.append_nil]
      simp only [Prog.act, Prog.run, hstep]
      refine ⟨trivial, h.around, h.start, h.texts, h.scanner, h.counters, h.shown, hframe.receipts.2.2.trans h.free,
        hframe.ledgerRead.trans h.unread, ?_, hwritten.trans hdrained, h.clock⟩
      show c'.pipeline.nextFormat = 1
      omega
    · omega
    · omega

theorem ack (h : Cycling w₀ c w) (qpc : Nat) : ((ack qpc).run w).1 = true ∧ Cycling w₀ c ((NativeLog.ack qpc).run w).2 := by
  rw [NativeLog.ack, Prog.bind_def, Prog.run_bind, Prog.run_read, Prog.run_ite, if_pos (by simp [h.free])]
  exact ⟨rfl, h⟩

theorem readLog (h : Cycling w₀ c w) {log : List UInt8}
    (haround : w₀.around = ⟨some 10, log, log.length, .none, log.length, 0, false⟩)
    (hscanner : w₀.worker.scanner.offset = 0) {wanted : Nat} (hwanted : log.length ≤ wanted) :
    ((readLog wanted).run w).1 = (.none, log) ∧
      Cycling w₀ { c with lastReadError := 0 } ((NativeLog.readLog wanted).run w).2 := by
  have hoffset : w.worker.scanner.offset = 0 := by rw [h.scanner, hscanner]
  have hout : w.around = ⟨some 10, log, log.length, .none, log.length, 0, false⟩ := by rw [h.around, haround]
  refine ⟨?_, h.around, h.start, h.texts, h.scanner, ?_, h.shown, h.free, h.unread, h.formatted, h.drained, h.clock⟩
  · simp only [NativeLog.readLog, Prog.act, Prog.run, hoffset, hout]
    rw [if_neg (by decide), if_neg (by simp), Nat.zero_sub, List.drop_zero, min_eq_right hwanted, List.take_length]
  · show { w.worker.counters with lastReadError := w.around.lastError } = _
    rw [h.counters, hout]

end Cycling

/-- The cycle gets to this rest of its program. -/
def Reaches (ops : NativeHashOps κ) (w₀ : WorkerWorld κ) (c : WorkerTransport) (p : WorkerProg κ Unit) : Prop :=
  ∃ u, WorkerRun ops (w₀, cycleNativeReceipts ops) (u, p) ∧ Cycling w₀ c u

theorem Reaches.bind {α : Type} {w₀ : WorkerWorld κ} {c c' : WorkerTransport} {q : WorkerProg κ α} {f : α → WorkerProg κ Unit} {a : α}
    (h : Reaches ops w₀ c (q.bind f)) (hd : ops.Digests H) (init : w₀.Initial)
    (hq : ∀ u, ReceiptInv H w₀.pipeline.format u → Cycling w₀ c u → (q.run u).1 = a ∧ Cycling w₀ c' (q.run u).2) :
    Reaches ops w₀ c' (f a) := by
  obtain ⟨u, hrun, hu⟩ := h
  obtain ⟨ha, hu'⟩ := hq u (ReceiptInv.running hd init hrun).inv hu
  exact ⟨_, ha ▸ hrun.trans (Turns.front q f u), hu'⟩

def WorkerTransport.reads (cycles bytes : Nat) : WorkerTransport :=
  { WorkerTransport.zero with readCycles := cycles, readBytes := bytes }

def sampleWorker (runId : List UInt8) : NativeReceiptWorker :=
  ⟨true, 1, true, 10, initializeReceiptScanner 0 true .logOnly runId, .zero, 1, 1, 0, 0, true, false, false⟩

def WorkerWorld.fresh (native : NativeSystem κ) (log : List UInt8) : WorkerWorld κ :=
  { native := native
    worker := sampleWorker native.channel.pipeline.format.header.runId.toList
    workerSequence := 2, published := .zero
    around := ⟨some 10, log, log.length, .none, log.length, 0, false⟩
    start := 0, texts := [native.channel.pipeline.bootstrap] }

theorem WorkerWorld.fresh_initial {native : NativeSystem κ} (hnative : native.Initial) {log : List UInt8}
    (h : log.length ≤ uint64Max) : (WorkerWorld.fresh native log).Initial where
  native := hnative
  scanner := ⟨.logOnly, rfl⟩
  texts := rfl
  room := by
    show 0 + log.length ≤ uint64Max
    rwa [Nat.zero_add]
  quiet := by
    show TransportReason.none.value < TransportReason.receiptGap.value
    decide

theorem Cycling.begin {others : WorkerWorld κ → WorkerWorld κ → Prop} {body : WorkerProg κ Unit} {w₀ : WorkerWorld κ}
    (h : Cycling w₀ .zero w) (ops : NativeHashOps κ) {runId : List UInt8} (hworker : w.worker = sampleWorker runId)
    (hclock : w₀.around.clock = some 10) : ∃ u, Turns others body (w, cycleNativeReceipts ops) (u, formatCycle ops 10) ∧
      Cycling w₀ (.reads 1 0) u := by
  have hdue : cycleDue (sampleWorker runId) 10 = true := by simp [cycleDue, sampleWorker]
  refine ⟨w.setWorker { sampleWorker runId with
    lastClock := 10, lastCycle := 10, counters := .reads 1 0 }, ?_, ?_⟩
  · rw [cycleNativeReceipts]
    simp only [Prog.bind_def, Prog.pure_def]
    refine (Turns.front _ _ _).trans ?_
    rw [Prog.run_read, hworker, if_neg (by simp [sampleWorker])]
    refine (Turns.front _ _ _).trans ?_
    rw [run_sampleClock (h.around ▸ hclock) h.clock.1 (by decide) h.clock.2]
    dsimp only
    rw [if_pos hdue]
    refine (Turns.front _ _ _).trans ?_
    rw [Prog.run_modify, addReadCycles, hworker]
    refine (Turns.front _ _ _).trans ?_
    rw [run_addCounter (Nat.le_add_left 1 _), if_pos rfl]
    exact .refl
  · exact ⟨h.around, h.start, h.texts, (congrArg NativeReceiptWorker.scanner hworker).symm.trans h.scanner, rfl, h.shown, h.free,
      h.unread, h.formatted, h.drained, rfl, le_rfl⟩

section

variable {w₀ : WorkerWorld κ} {log : List UInt8}

theorem Reaches.clock {c : WorkerTransport} {f : Option Nat → WorkerProg κ Unit} (h : Reaches ops w₀ c (sampleClock.bind f))
    (hd : ops.Digests H) (init : w₀.Initial) (hclock : w₀.around.clock = some 10) : Reaches ops w₀ c (f (some 10)) :=
  h.bind hd init fun _ _ hu => hu.sampleClock hclock

theorem Reaches.receiving (h : Reaches ops w₀ (.reads 1 0) (formatCycle ops 10)) (hd : ops.Digests H)
    (init : w₀.Initial) (hclock : w₀.around.clock = some 10) : Reaches ops w₀ (.reads 1 0) (receiveCycle ops 10) := by
  have hnone (u : WorkerWorld κ) (hu : ReceiptInv H w₀.pipeline.format u) (hc : Cycling w₀ (.reads 1 0) u) :
      ((Prog.read fun w : WorkerWorld κ => w.pipeline.preparedSequence).run u).1 = 0 ∧ Cycling w₀ (.reads 1 0) u := by
    have hprepared : u.pipeline.preparedSequence + 1 = u.pipeline.nextFormat := hu.texts.inv.channel.prepared
    rw [hc.formatted] at hprepared
    exact ⟨Nat.succ.inj hprepared, hc⟩
  rw [formatCycle] at h
  simp only [Prog.bind_def, Prog.pure_def] at h
  have hopen := h.bind hd init hnone
  have hprepared := hopen.bind hd init fun u hu hc => hc.prepareOpen hu
  rw [if_pos rfl] at hprepared
  have hclocked := hprepared.clock hd init hclock
  dsimp only at hclocked
  have hcalls := hclocked.bind hd init hnone
  have hticks := hcalls.bind hd init fun u _ hc => hc.addCounter (Nat.zero_le _)
  rw [if_pos rfl] at hticks
  have hreceive := hticks.bind hd init fun u _ hc => hc.addCounter (Nat.zero_le _)
  rw [if_pos rfl] at hreceive
  exact hreceive

theorem Reaches.scanning (h : Reaches ops w₀ (.reads 1 0) (receiveCycle ops 10)) (hd : ops.Digests H)
    (init : w₀.Initial) (haround : w₀.around = ⟨some 10, log, log.length, .none, log.length, 0, false⟩)
    (hoffset : w₀.worker.scanner.offset = 0) (hlog : log ≠ []) (hsize : log.length ≤ kReadBufferBytes) :
    ∃ c f, Reaches ops w₀ c ((scanBytes ops log.length log).bind f) := by
  have hbudget : log.length ≤ min kNativeReadCycleBytes kReadBufferBytes := le_min (hsize.trans (by decide)) hsize
  obtain ⟨n, hn⟩ : ∃ n, kNativeReadCycleBytes = n + 1 := ⟨_, rfl⟩
  rw [receiveCycle] at h
  simp only [Prog.bind_def, Prog.pure_def] at h
  have hack := h.bind hd init fun u _ hc => hc.ack 10
  rw [if_pos rfl, hn, readLoop, if_neg (Nat.succ_ne_zero n), ← hn] at hack
  simp only [Prog.bind_def, Prog.pure_def, Prog.bind_bind] at hack
  have hread := hack.bind hd init fun u _ hc => hc.readLog haround hoffset hbudget
  dsimp only at hread
  rw [if_neg (by simp), if_neg hlog, Prog.bind_bind] at hread
  have hbytes := hread.bind hd init fun u _ hc => hc.addCounter (Nat.zero_add _ ▸ hsize.trans (by decide))
  rw [if_pos rfl, Prog.bind_bind] at hbytes
  exact ⟨_, _, hbytes⟩

theorem Cycling.pending {c : WorkerTransport} (h : Cycling w₀ c w) (init : w₀.Initial) (hlog : w₀.around.log = log) :
    w.consumed = [] ∧ Pending log w := by
  obtain ⟨mode, hscanner⟩ := init.scanner
  have hoffset : w.worker.scanner.offset - w.start = 0 := by
    rw [h.scanner, hscanner, h.start]
    exact Nat.sub_self _
  rw [WorkerWorld.consumed, Pending, hoffset, h.around, hlog]
  exact ⟨rfl, List.prefix_rfl⟩

/-- The receipt of the one text is held until the worker sees its submission. -/
structure Holding (w₀ w : WorkerWorld κ) : Prop where
  around : w.around = w₀.around
  start : w.start = w₀.start
  texts : w.texts = w₀.texts
  same : SameScan w₀.worker.scanner w.worker.scanner
  sound : w.worker.scanner.failed = false
  shown : w.native.ShowsStartup
  held : w.pipeline.heldMatch = true
  unread : w.pipeline.ledgerRead = 0
  clock : w.worker.clockFailed = false ∧ w.worker.lastClock ≤ 10

theorem ReceiptInv.scan_same (ops : NativeHashOps κ) (h : ReceiptInv H format w) {bytes : List UInt8} (pending : Pending bytes w) :
    SameScan w.worker.scanner (scanBytesStep ops bytes w).2.worker.scanner := by
  have hout : ScanOutcome ops w bytes _ := h.scan_outcome pending
  generalize scanBytesStep ops bytes w = result at hout
  cases hout with
  | closed failed => exact ⟨rfl, rfl⟩
  | parked sound awaiting => exact ⟨rfl, rfl⟩
  | scanned sound free stop =>
      cases stop with
      | passed _ same => exact same
      | decided _ _ same => exact same

theorem Cycling.holds {c : WorkerTransport} {rest : List (Option (List UInt8))} (h : Cycling w₀ c w)
    (hinv : ReceiptInv H format w) (hd : ops.Digests H) (htotal : ops.Total) (init : w₀.Initial)
    (hlog : w₀.around.log = log) (hfirst : w₀.receiptsOf log = some (w₀.textAt 0) :: rest) (hno : NoCollision H w₀) :
    (scanBytesStep ops log w).1.disposition = .awaitingSubmission ∧ Holding w₀ (scanBytesStep ops log w).2 := by
  obtain ⟨hconsumed, hpending⟩ := h.pending init hlog
  have hread : w.pipeline.ledgerRead = 0 := h.unread
  have hsound : w.worker.scanner.failed = false := by
    obtain ⟨mode, hscanner⟩ := init.scanner
    rw [h.scanner, hscanner]
    rfl
  have hreceipts (bytes : List UInt8) : w.receiptsOf bytes = w₀.receiptsOf bytes := by
    rw [WorkerWorld.receiptsOf, h.scanner]
    rfl
  have hnone : NoCollision H w := by
    intro t ht m hm
    rw [hreceipts, h.around] at hm
    exact hno t (h.texts ▸ ht) m hm
  have hnext : w.receiptsOf (w.consumed ++ log) = w.receiptsOf w.consumed ++ some (w₀.textAt 0) :: rest := by
    rw [hconsumed, hreceipts, hreceipts, List.nil_append, hfirst]
    rfl
  have hdue := (hinv.scanSound hd htotal hnone hpending hsound h.free hnext).due
    (by rw [hread, hinv.counted, h.formatted]; exact Nat.one_pos) (by rw [hread, WorkerWorld.textAt, WorkerWorld.textAt, h.texts])
  have hsame := hinv.scan_same ops hpending
  refine ⟨hdue.1, h.around, h.start, h.texts, h.scanner ▸ hsame, hdue.2.1, h.shown, hdue.2.2, ?_, h.clock⟩
  rcases (ReceiptStep.scan hinv hpending).acknowledged with he | ⟨hheld, _⟩
  · exact he.trans hread
  · exact absurd hheld (by rw [h.free]; exact Bool.false_ne_true)

theorem Holding.ack (h : Holding w₀ w) (hinv : ReceiptInv H format w) (htorn : w₀.around.torn = false) (qpc : Nat) :
    (ack qpc).run w = (true, ReceiptInv.acknowledgedWorld w qpc) := by
  obtain ⟨o, hlast, hsmall, heven, hsubmitted⟩ := h.shown
  have howner : readOwner.run w = (some o, w) := by
    rw [readOwner, Prog.run_read, h.around, htorn, hlast]
    rfl
  have hcovers : o.Covers w.pipeline.ledgerRead := by
    rw [h.unread]
    exact hsubmitted
  rw [NativeLog.ack, Prog.bind_def, Prog.run_bind, Prog.run_read, Prog.run_ite, if_neg (by simp [h.held]), Prog.bind_def,
    Prog.run_bind, howner]
  rcases hinv.acknowledgeStep_cases o qpc with ⟨_, hrefuse⟩ | ⟨he, _⟩
  · exact absurd hcovers (hrefuse h.held hsmall heven)
  · exact he

/-- What is true of the world when the receipt was acknowledged. -/
structure Acknowledged (w₀ w : WorkerWorld κ) : Prop where
  around : w.around = w₀.around
  start : w.start = w₀.start
  texts : w.texts = w₀.texts
  same : SameScan w₀.worker.scanner w.worker.scanner
  sound : w.worker.scanner.failed = false
  free : w.pipeline.heldMatch = false
  read : w.pipeline.ledgerRead = 1

/-- The receipt that is due is held and, once the clock was read, acknowledged. -/
theorem Reaches.acknowledged {c : WorkerTransport} {f : LoopEnd → WorkerProg κ Unit} {rest : List (Option (List UInt8))}
    (h : Reaches ops w₀ c ((scanBytes ops log.length log).bind f))
    (hd : ops.Digests H) (htotal : ops.Total) (init : w₀.Initial)
    (haround : w₀.around = ⟨some 10, log, log.length, .none, log.length, 0, false⟩)
    (hfirst : w₀.receiptsOf log = some (w₀.textAt 0) :: rest) (hno : NoCollision H w₀) (hlog : log ≠ []) :
    ∃ v p, WorkerRun ops (w₀, cycleNativeReceipts ops) (v, p) ∧ Acknowledged w₀ v := by
  obtain ⟨u, hrun, hu⟩ := h
  obtain ⟨hdisposition, hholding⟩ := hu.holds (ReceiptInv.running hd init hrun).inv hd htotal init
    (congrArg WorkerSurroundings.log haround) hfirst hno
  obtain ⟨k, hk⟩ := Nat.exists_eq_succ_of_ne_zero (mt List.length_eq_zero_iff.mp hlog)
  rw [hk, scanBytes, if_neg hlog] at hrun
  simp only [Prog.bind_def, Prog.bind_bind] at hrun
  have hscan := hrun.trans (Turns.front (scanStep ops log) _ u)
  rw [show (scanStep ops log).run u = scanBytesStep ops log u from rfl] at hscan
  generalize scanBytesStep ops log u = out at hscan hdisposition hholding
  obtain ⟨r, v⟩ := out
  dsimp only at hscan hdisposition hholding
  rw [hdisposition] at hscan
  dsimp only at hscan
  rw [Prog.bind_bind] at hscan
  have hclock := hscan.trans (Turns.front sampleClock _ v)
  rw [run_sampleClock (by rw [hholding.around, haround]) hholding.clock.1 (by decide) hholding.clock.2] at hclock
  dsimp only at hclock
  rw [Prog.bind_bind] at hclock
  have htimed : Holding w₀ (v.setWorker { v.worker with lastClock := 10 }) :=
    ⟨hholding.around, hholding.start, hholding.texts, hholding.same, hholding.sound, hholding.shown, hholding.held, hholding.unread,
      hholding.clock.1, le_rfl⟩
  have hack := htimed.ack (ReceiptInv.running hd init hclock).inv (by rw [haround]) 10
  have hdone := hclock.trans (Turns.front (ack 10) _ _)
  rw [hack] at hdone
  exact ⟨_, _, hdone, htimed.around, htimed.start, htimed.texts, ⟨htimed.same.mode, htimed.same.run⟩, htimed.sound, rfl,
    congrArg (· + 1) htimed.unread⟩

end

/-- The owner submits the bootstrap and shows it. -/
theorem fresh_submitted (ops : NativeHashOps κ) {native : NativeSystem κ} (hnative : native.InitialAfter []) (log : List UInt8)
    (body : WorkerProg κ Unit) : ∃ u, Turns (OutsideStep ops) body (WorkerWorld.fresh native log, body) (u, body) ∧
      u.worker = (WorkerWorld.fresh native log).worker ∧ Cycling (WorkerWorld.fresh native log) .zero u := by
  have hinv : NativeInv native := (NativeTexts.init (H := fun _ => default) ⟨[], hnative⟩).inv
  obtain ⟨status, owner, hashContext, oldHash, context, old, qpc, _, hpipeline, _, hstartup, _⟩ := hnative
  obtain ⟨_, _, hring, hready, hledger, _, hheld⟩ := initializeNativePipeline_inv (initializeReportRing_inv owner) rfl hpipeline
  have hfresh : native.submittedFrames = native.channel.pipeline.readyRead := by
    rw [NativeSystem.submittedFrames, hstartup, if_neg (by simp), hready]
  have hprepared := hinv.channel.prepared
  have hqueue := hinv.channel.queue
  have hdrained := hinv.channel.drained
  have hord := hinv.channel.ledgerOrder
  have hempty : native.channel.ring.reportReadSequence = 0 ∧ native.channel.ring.reportWriteSequence = 0 := by
    rw [hring]
    exact ⟨rfl, rfl⟩
  have hnext : native.channel.pipeline.nextFormat = 1 := by omega
  obtain ⟨hallowed, hchannel, hsubmitted⟩ := hinv.submits ops hfresh (by omega)
  have hpublish : (((native.next ops .peek).next ops .submit).next ops .publish).ShowsStartup := by
    refine ⟨((native.next ops .peek).next ops .submit).snapshot, List.getLast?_concat, ?_, ?_, hsubmitted⟩
    · simp only [NativeSystem.snapshot]
      omega
    · simp only [NativeSystem.snapshot]
      omega
  refine ⟨{ WorkerWorld.fresh native log with native := ((native.next ops .peek).next ops .submit).next ops .publish }, ?_, rfl, ?_⟩
  · refine .head (.other body (.owner (a := .peek) trivial trivial)) ?_
    refine .head (.other body (.owner (a := .submit) trivial hallowed)) ?_
    exact .single (.other body (.owner (a := .publish) trivial trivial))
  · refine ⟨rfl, rfl, rfl, rfl, rfl, hpublish, ?_, ?_, ?_, ?_, rfl, Nat.le_add_right 1 9⟩
    · exact (congrArg (fun c => c.pipeline.heldMatch) hchannel).trans hheld
    · exact (congrArg (fun c => c.pipeline.ledgerRead) hchannel).trans hledger
    · exact (congrArg (fun c => c.pipeline.nextFormat) hchannel).trans hnext
    · exact (congrArg (fun c => c.ring.reportWriteSequence) hchannel).trans hempty.2

/-- The owner submits the bootstrap and shows it, and the worker reads the log. -/
theorem fresh_acknowledged (hd : ops.Digests H) (htotal : ops.Total) {native : NativeSystem κ}
    (hnative : native.InitialAfter []) {log : List UInt8} {rest : List (Option (List UInt8))}
    (hfirst : (WorkerWorld.fresh native log).receiptsOf log = some native.channel.pipeline.bootstrap :: rest)
    (hno : NoCollision H (WorkerWorld.fresh native log)) (hsize : log.length ≤ kReadBufferBytes) :
    ∃ v p, WorkerRun ops (WorkerWorld.fresh native log, cycleNativeReceipts ops) (v, p) ∧
      Acknowledged (WorkerWorld.fresh native log) v := by
  have init := WorkerWorld.fresh_initial ⟨[], hnative⟩ (hsize.trans (by decide))
  have hlog : log ≠ [] := by
    rintro rfl
    cases hfirst
  obtain ⟨u, hrun, hworker, hu⟩ := fresh_submitted ops hnative log (cycleNativeReceipts ops)
  obtain ⟨u', hbegin, hu'⟩ := hu.begin ops hworker rfl
  have hreceive := Reaches.receiving ⟨u', hrun.trans hbegin, hu'⟩ hd init rfl
  obtain ⟨c, f, hscan⟩ := hreceive.scanning hd init rfl rfl hlog hsize
  exact hscan.acknowledged hd htotal init rfl hfirst hno hlog

end RS2ServerFix.NativeLog
