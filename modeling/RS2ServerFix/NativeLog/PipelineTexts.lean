import RS2ServerFix.NativeLog.PipelineRuns
import RS2ServerFix.Reporting.FormatFacts

namespace RS2ServerFix.NativeLog

open Reporting Lib

variable {κ : Type} {ops : NativeHashOps κ} {H : List UInt8 → Sha256Digest} {c c' : NativeChannel κ} {qpc : Nat}

/-- A provider that fails or returns the digest of the text. -/
def NativeHashOps.Digests (ops : NativeHashOps κ) (H : List UInt8 → Sha256Digest) : Prop :=
  ∀ context bytes digest, (ops.digest context bytes).2 = some digest → digest = H bytes

def Numbered (format : NativeFormatContext) (t : Nat) (m : List UInt8) : Prop :=
  ∃ type qpc utc rest, (34 : UInt8) ∉ ascii type ∧ m = envelope format type t qpc utc ++ rest

/-- A text the worker hands on: a printable message of the run of its format. -/
structure FrameText (format : NativeFormatContext) (t : Nat) (m : List UInt8) : Prop where
  text : Text kMessageLimit m
  marker : m.take kMarker.length = kMarker
  run : belongsToRun m format.header.runId.toList = true
  numbered : Numbered format t m

/-- The home of a prepared frame keeps the size and the digest of its text;
the bootstrap keeps the text itself. -/
def EntryText (H : List UInt8 → Sha256Digest) (texts : Nat → List UInt8) (t : Nat) (e : NativeLedgerEntry) : Prop :=
  e.messageBytes = (texts t).length ∧ (t ≠ 0 → e.body = .digest (H (texts t)))

def SlotText (texts : Nat → List UInt8) (t : Nat) (f : NativeReadyFrame) : Prop :=
  f.chars = (texts t).length ∧ f.message = (texts t).map UInt8.toUInt16 ++ [0]

/-- One text for every frame prepared so far, kept by the ledger and the ready
queue as far as they still hold it. -/
structure TextsInv (H : List UInt8 → Sha256Digest) (texts : Nat → List UInt8) (c : NativeChannel κ) : Prop where
  format : contextValid c.pipeline.format = true
  bootstrap : c.pipeline.bootstrap = texts 0
  entries : c.pipeline.ledger.Holds c.pipeline.ledgerRead c.pipeline.nextFormat (EntryText H texts)
  frames : c.pipeline.ready.Holds c.pipeline.readyRead c.pipeline.readyWrite (SlotText texts)
  texts : ∀ t, t < c.pipeline.nextFormat → FrameText c.pipeline.format t (texts t)

theorem frameText_record (format : NativeFormatContext) (r : ReportRecordV3) (kind : RecordKindV3) (detail : Bool)
    (utc : Nat) : FrameText format r.header.sequence.toNat (recordText format r kind detail utc) := by
  refine ⟨(recordText_text format r kind detail utc).mono (by decide), ?_, recordText_belongs format r kind detail utc,
    kind.type, r.header.qpc.toNat, utc, _, type_quote kind, List.append_assoc _ _ _⟩
  rw [recordText, List.append_assoc, envelope, List.append_assoc, List.take_left]

theorem frameText_bootstrap {format : NativeFormatContext} {m : List UInt8}
    (h : formatNativeBootstrap format (kMessageLimit + 1) = some m) : FrameText format 0 m := by
  obtain ⟨htext, utc, rest, rfl⟩ := formatNativeBootstrap_some h
  refine ⟨htext, ?_, envelope_belongs format (by decide) _ _ utc rest, "startup", _, utc, rest, by decide, rfl⟩
  rw [envelope, List.append_assoc, List.take_left]

/-- The formatter only makes texts of its run. -/
theorem frameText_format {format : NativeFormatContext} {r : ReportRecordV3} {detail : Bool} {m : List UInt8}
    (h : formatNativeRecord format r (kMessageLimit + 1) detail = some m) :
    FrameText format r.header.sequence.toNat m := by
  obtain ⟨kind, utc, -, -, rfl⟩ := formatNativeRecord_some h
  exact frameText_record format r kind detail utc

theorem prepareMessage_eq {text : List UInt8} {wide : List UInt16} {capacity : Nat}
    (h : prepareMessage text capacity = some wide) : wide = text.map UInt8.toUInt16 ++ [0] := by
  rw [prepareMessage] at h
  split at h
  · cases h
  · split at h
    · exact (Option.some.inj h).symm
    · cases h

theorem TextsInv.congr {texts texts' : Nat → List UInt8} (h : TextsInv H texts c) (hc : ChannelInv c)
    (he : ∀ t, t < c.pipeline.nextFormat → texts' t = texts t) : TextsInv H texts' c := by
  have hqueue := hc.queue
  refine ⟨h.format, ?_, ?_, ?_, ?_⟩
  · have hprep := hc.prepared
    rw [he 0 (by omega)]
    exact h.bootstrap
  · refine h.entries.imp fun t _ ht e htext => ?_
    rw [EntryText, he t ht]
    exact htext
  · refine h.frames.imp fun t _ ht f htext => ?_
    rw [SlotText, he t (hqueue ▸ ht)]
    exact htext
  · intro t ht
    rw [he t ht]
    exact h.texts t ht

theorem PrepareStep.texts (hd : ops.Digests H) {texts : Nat → List UInt8} (hs : PrepareStep ops qpc c c')
    (hc : ChannelInv c) (h : TextsInv H texts c) :
    ∃ texts', (∀ t, t < c.pipeline.nextFormat → texts' t = texts t) ∧ TextsInv H texts' c' := by
  obtain ⟨hrn, hnw, hcap⟩ := hc.ledgerOrder
  cases hs with
  | drain room below pending =>
      refine ⟨texts, fun _ _ => rfl, h.format, h.bootstrap, ?_, h.frames, h.texts⟩
      exact h.entries.update (hrn.trans hnw) room (hnw.trans hcap) (fun hlt => absurd hlt (by omega))
  | @format room pending r p text wide digest body render =>
      obtain ⟨detail, context, hp⟩ := renderRecord_eq ops c.pipeline r
      obtain ⟨htext, hwide, hdigest⟩ := renderRecord_some render
      rw [render] at hp
      dsimp only at hp
      subst hp
      have hnew : ∀ t, t < c.pipeline.nextFormat → Function.update texts c.pipeline.nextFormat text t = texts t :=
        fun t ht => Function.update_of_ne ht.ne _ _
      have hself : Function.update texts c.pipeline.nextFormat text c.pipeline.nextFormat = text :=
        Function.update_self _ _ _
      have hold := h.congr hc hnew
      have hqueue := hc.queue
      refine ⟨_, hnew, hold.format, hold.bootstrap, ?_, ?_, ?_⟩
      · simp only [kNativeLedgerCapacity] at hcap
        refine hold.entries.push hrn (by omega) ⟨?_, fun _ => ?_⟩
        · rw [hself]
        · rw [hself]
          exact congrArg LedgerBody.digest (hd _ _ _ hdigest)
      · refine hold.frames.push hc.queueOrder.1 room ⟨?_, ?_⟩
        · rw [hqueue, hself]
        · rw [hqueue, hself]
          exact prepareMessage_eq hwide
      · intro t ht
        have ht : t < c.pipeline.nextFormat + 1 := ht
        by_cases he : t = c.pipeline.nextFormat
        · subst he
          rw [hself]
          obtain ⟨_, _, r', hr', hsequence⟩ := hc.scalarEntries _ le_rfl pending
          rw [body] at hr'
          cases hr'
          rw [← hsequence]
          exact frameText_format htext
        · exact hold.texts t (by omega)

theorem Prepares.texts (hd : ops.Digests H) {texts : Nat → List UInt8} (hs : Prepares ops qpc c c')
    (hc : ChannelInv c) (h : TextsInv H texts c) :
    ∃ texts', (∀ t, t < c.pipeline.nextFormat → texts' t = texts t) ∧ TextsInv H texts' c' := by
  induction hs with
  | refl => exact ⟨texts, fun _ _ => rfl, h⟩
  | @tail a b hrun step ih =>
      obtain ⟨ta, hta, ha⟩ := ih
      have hca := Prepares.inv hrun hc
      obtain ⟨tb, htb, hb⟩ := step.texts hd hca ha
      have hmono : c.pipeline.nextFormat ≤ a.pipeline.nextFormat := by
        rw [← hc.queue, ← hca.queue]
        exact (Prepares.frame hrun hc).readyWrite
      exact ⟨tb, fun t ht => (htb t (ht.trans_le hmono)).trans (hta t ht), hb⟩

namespace TextsInv

variable {texts : Nat → List UInt8}

/-- Every prepared frame has a text of its own: it shows its sequence. -/
theorem distinct (h : TextsInv H texts c) (hc : ChannelInv c) {i j : Nat} (hi : i < c.pipeline.nextFormat)
    (hj : j < c.pipeline.nextFormat) (he : texts i = texts j) : i = j := by
  obtain ⟨_, hwrite, _⟩ := hc.ledgerOrder
  have hcounter := hc.counter
  obtain ⟨type, qpc, utc, rest, hquote, htext⟩ := (h.texts i hi).numbered
  obtain ⟨type', qpc', utc', rest', hquote', htext'⟩ := (h.texts j hj).numbered
  rw [htext, htext'] at he
  exact envelope_sequence c.pipeline.format hquote hquote' (by omega) (by omega) he

theorem rendered (h : TextsInv H texts c) (r : ReportRecordV3) :
    TextsInv H texts { c with pipeline := (renderRecord ops c.pipeline r).1 } := by
  obtain ⟨detail, context, hp⟩ := renderRecord_eq ops c.pipeline r
  rw [hp]
  exact ⟨h.1, h.2, h.3, h.4, h.5⟩

theorem ofStatus (h : TextsInv H texts c) (status : StatusWords) : TextsInv H texts { c with status := status } :=
  ⟨h.1, h.2, h.3, h.4, h.5⟩

theorem rehashed (h : TextsInv H texts c) (context : κ) : TextsInv H texts (rehashed c context) :=
  ⟨h.1, h.2, h.3, h.4, h.5⟩

theorem push (h : TextsInv H texts c) (status : StatusWords) (ring : ReportRingV3) :
    TextsInv H texts { c with status := status, ring := ring } :=
  ⟨h.1, h.2, h.3, h.4, h.5⟩

theorem releaseFrame (h : TextsInv H texts c) : TextsInv H texts (releaseFrame c) :=
  ⟨h.1, h.2, h.3, h.frames.mono (Nat.le_succ _) le_rfl, h.5⟩

theorem holdFront (h : TextsInv H texts c) (hc : ChannelInv c)
    (hlt : c.pipeline.ledgerRead < c.pipeline.nextFormat) (context : κ) :
    TextsInv H texts (holdFront c context) := by
  obtain ⟨_, hnw, hcap⟩ := hc.ledgerOrder
  have hfront := h.entries _ le_rfl hlt
  refine ⟨h.1, h.2, ?_, h.4, h.5⟩
  exact h.entries.update le_rfl (by omega) (hnw.trans hcap) (fun _ => ⟨hfront.1, hfront.2⟩)

theorem acknowledged (h : TextsInv H texts c) (hc : ChannelInv c) : TextsInv H texts (acknowledged c) := by
  obtain ⟨_, hnw, hcap⟩ := hc.ledgerOrder
  refine ⟨h.1, h.2, ?_, h.4, h.5⟩
  intro t ht ht'
  have ht : c.pipeline.ledgerRead + 1 ≤ t := ht
  have ht' : t < c.pipeline.nextFormat := ht'
  simp only [kNativeLedgerCapacity] at hcap
  have hget := c.pipeline.ledger.get_set_ne (i := c.pipeline.ledgerRead) (j := t) .clear (by omega) (by omega) (by omega)
  have hold := h.entries t (by omega) ht'
  rw [← hget] at hold
  exact hold

end TextsInv

/-- The text of the front entry is found at the front, whatever else has its
size and digest. -/
theorem matchingTicket_front {texts : Nat → List UInt8} (hc : ChannelInv c) (h : TextsInv H texts c)
    (hfree : c.pipeline.heldMatch = false) (hlt : c.pipeline.ledgerRead < c.pipeline.nextFormat) :
    matchingTicket c.pipeline (texts c.pipeline.ledgerRead) (H (texts c.pipeline.ledgerRead)) =
      some c.pipeline.ledgerRead := by
  obtain ⟨hseq, hstate⟩ := hc.preparedEntries _ le_rfl hlt
  obtain ⟨hbytes, hbody⟩ := h.entries _ le_rfl hlt
  rw [if_neg (by simp [hfree])] at hstate
  have hmatch : entryMatches c.pipeline (c.pipeline.ledger.get c.pipeline.ledgerRead)
      (texts c.pipeline.ledgerRead) (H (texts c.pipeline.ledgerRead)) = true := by
    rw [entryMatches, hstate, hbytes, hseq]
    by_cases hzero : c.pipeline.ledgerRead = 0
    · rw [if_neg (not_not.mpr hzero), h.bootstrap, hzero]
      simp
    · rw [if_pos hzero, hbody hzero]
      simp
  obtain ⟨k, hk⟩ : ∃ k, c.pipeline.nextFormat - c.pipeline.ledgerRead = k + 1 := ⟨_, (Nat.succ_pred (by omega)).symm⟩
  rw [matchingTicket, hk, List.range'_succ, List.find?_cons, hmatch]

theorem initializeNativePipeline_texts {status : StatusWords} {ring : ReportRingV3} {context old : NativeFormatContext}
    {hashContext oldHash : κ} (H : List UInt8 → Sha256Digest)
    (hinit : initializeNativePipeline ⟨status, ring, .zeroed oldHash old⟩ context hashContext qpc = (c, .none)) :
    TextsInv H (fun _ => c.pipeline.bootstrap) c := by
  rw [initializeNativePipeline] at hinit
  split at hinit
  · cases hinit
  · cases hb : prepareNativeBootstrap context (kMessageLimit + 1) (kMessageLimit + 1) with
    | none => rw [hb] at hinit; cases hinit
    | some v =>
        obtain ⟨text, wide⟩ := v
        rw [hb] at hinit
        injection hinit with hc
        subst hc
        simp only [prepareNativeBootstrap, Option.bind_eq_bind, Option.bind_eq_some_iff, Option.pure_def,
          Option.some.injEq, Prod.mk.injEq] at hb
        obtain ⟨a, ha, b, hw, rfl, rfl⟩ := hb
        have hvalid : contextValid context = true := by
          by_contra hbad
          rw [formatNativeBootstrap] at ha
          split at ha
          · cases ha
          · simp [begin_, hbad] at ha
        refine ⟨hvalid, rfl, ?_, ?_, ?_⟩
        · intro t ht ht'
          obtain rfl : t = 0 := by have ht' : t < 1 := ht'; omega
          exact ⟨rfl, fun hne => absurd rfl hne⟩
        · intro t ht ht'
          obtain rfl : t = 0 := by have ht' : t < 1 := ht'; omega
          exact ⟨rfl, prepareMessage_eq hw⟩
        · intro t ht
          obtain rfl : t = 0 := by have ht : t < 1 := ht; omega
          exact frameText_bootstrap ha

structure RecordsInv (P : ReportRecordV3 → Prop) (c : NativeChannel κ) : Prop where
  ring : c.ring.slots.Holds c.ring.reportReadSequence c.ring.reportWriteSequence fun _ r => P r
  scalars : c.pipeline.ledger.Holds c.pipeline.nextFormat c.pipeline.ledgerWrite fun _ e => ∀ r, e.body = .scalar r → P r

namespace RecordsInv

variable {P : ReportRecordV3 → Prop}

theorem ofStatus (h : RecordsInv P c) (status : StatusWords) : RecordsInv P { c with status := status } := ⟨h.1, h.2⟩

theorem rehashed (h : RecordsInv P c) (context : κ) : RecordsInv P (rehashed c context) := ⟨h.1, h.2⟩

theorem releaseFrame (h : RecordsInv P c) : RecordsInv P (releaseFrame c) := ⟨h.1, h.2⟩

theorem rendered (h : RecordsInv P c) (r : ReportRecordV3) :
    RecordsInv P { c with pipeline := (renderRecord ops c.pipeline r).1 } := by
  obtain ⟨detail, context, hp⟩ := renderRecord_eq ops c.pipeline r
  rw [hp]
  exact ⟨h.1, h.2⟩

theorem push (h : RecordsInv P c) (hc : ChannelInv c) (status : StatusWords)
    (credit : c.ring.reportWriteSequence < c.ring.reportReadSequence + kReportRecordCapacity) {r : ReportRecordV3}
    (hr : P (canonicalRecord r (c.ring.reportWriteSequence + 1).toUInt64 c.ring.ownerThreadId)) :
    RecordsInv P { c with status := status, ring := pushReport c.ring r } :=
  ⟨h.ring.push hc.ring.order credit hr, h.scalars⟩

theorem setFront (h : RecordsInv P c) (hc : ChannelInv c) (e : NativeLedgerEntry)
    (hlt : c.pipeline.ledgerRead < c.pipeline.nextFormat) :
    (c.pipeline.ledger.set c.pipeline.ledgerRead e).Holds c.pipeline.nextFormat c.pipeline.ledgerWrite
      fun _ e => ∀ r, e.body = .scalar r → P r := by
  have hcap := hc.ledgerOrder
  refine h.scalars.imp_get fun t ht ht' => ?_
  simp only [kNativeLedgerCapacity] at hcap
  exact c.pipeline.ledger.get_set_ne (i := c.pipeline.ledgerRead) _ (by omega) (by omega) (by omega)

theorem holdFront (h : RecordsInv P c) (hc : ChannelInv c)
    (hlt : c.pipeline.ledgerRead < c.pipeline.nextFormat) (context : κ) : RecordsInv P (holdFront c context) :=
  ⟨h.ring, h.setFront hc _ hlt⟩

theorem acknowledged (h : RecordsInv P c) (hc : ChannelInv c)
    (hlt : c.pipeline.ledgerRead < c.pipeline.nextFormat) : RecordsInv P (acknowledged c) :=
  ⟨h.ring, h.setFront hc _ hlt⟩

end RecordsInv

theorem PrepareStep.records {P : ReportRecordV3 → Prop} (hs : PrepareStep ops qpc c c') (hc : ChannelInv c)
    (h : RecordsInv P c) : RecordsInv P c' := by
  obtain ⟨hrn, hnw, hcap⟩ := hc.ledgerOrder
  simp only [kNativeLedgerCapacity] at hcap
  cases hs with
  | drain room below pending =>
      have hroom := hc.ring.room
      simp only [kReportRecordCapacity] at hroom
      refine ⟨(h.ring.mono (Nat.le_succ _) le_rfl).imp_get fun k hk hk' => ?_, ?_⟩
      · exact c.ring.slots.get_set_ne (i := c.ring.reportReadSequence) _ (by omega) (by omega) (by omega)
      · refine h.scalars.push hnw (by simp only [kNativeLedgerCapacity] at room; omega) fun r hr => ?_
        injection hr with hr
        exact hr ▸ h.ring _ le_rfl pending
  | @format room pending r p text wide digest body render =>
      obtain ⟨detail, context, hp⟩ := renderRecord_eq ops c.pipeline r
      rw [render] at hp
      dsimp only at hp
      subst hp
      refine ⟨h.ring, (h.scalars.mono (Nat.le_succ _) le_rfl).imp_get fun t ht ht' => ?_⟩
      exact c.pipeline.ledger.get_set_ne (i := c.pipeline.nextFormat) _ (by omega) (by omega) (by omega)

theorem Prepares.records {P : ReportRecordV3 → Prop} (hs : Prepares ops qpc c c') (hc : ChannelInv c)
    (h : RecordsInv P c) : RecordsInv P c' := by
  induction hs with
  | refl => exact h
  | tail hrun step ih => exact step.records (Prepares.inv hrun hc) ih

/-- A record the pipeline can render: its time has a derived clock. -/
structure Renderable (format : NativeFormatContext) (r : ReportRecordV3) : Prop where
  kind : (RecordKindV3.ofCode r.header.kind).isSome
  sequence : r.header.sequence ≠ 0
  recovery : validRecovery r = true
  clock : (deriveUtcFiletime format.log format.header.qpcFrequency.toNat r.header.qpc.toNat).isSome

theorem renderRecord_renders {p : NativePipeline κ} {r : ReportRecordV3} (hf : contextValid p.format = true)
    (hr : Renderable p.format r) (hd : ∀ context bytes, (ops.digest context bytes).2.isSome) :
    (renderRecord ops p r).2 ≠ none := by
  obtain ⟨kind, hkind⟩ := Option.isSome_iff_exists.mp hr.kind
  obtain ⟨utc, hutc⟩ := Option.isSome_iff_exists.mp hr.clock
  rw [renderRecord]
  dsimp only
  rw [formatNativeRecord_eq hf hkind hr.sequence hr.recovery, hutc]
  dsimp only [Option.map_some]
  have htext := (recordText_text p.format r kind (recoveryDetail p.format.config p.detail r).1 utc).mono
    (m := kMessageLimit) (by decide)
  obtain ⟨digest, hdigest⟩ := Option.isSome_iff_exists.mp (hd p.hashContext
    (recordText p.format r kind (recoveryDetail p.format.config p.detail r).1 utc))
  rw [recordText, List.append_assoc] at htext hdigest ⊢
  rw [hdigest, prepareMessage_envelope p.format kind.type _ _ utc _ htext]
  simp

theorem canonicalRecord_renderable {format : NativeFormatContext} {r : ReportRecordV3} {write : Nat} {owner : UInt32}
    (hh : validHeader r.header = true) (hr : validRecovery r = true) (hmax : write < uint64Max)
    (hclock : (deriveUtcFiletime format.log format.header.qpcFrequency.toNat r.header.qpc.toNat).isSome) :
    Renderable format (canonicalRecord r (write + 1).toUInt64 owner) := by
  refine ⟨?_, ?_, by rw [canonicalRecord_recovery]; exact hr, hclock⟩
  · simp only [validHeader, Bool.and_eq_true, decide_eq_true_eq] at hh
    have hkind : (canonicalRecord r (write + 1).toUInt64 owner).header.kind = r.header.kind := rfl
    rw [hkind]
    have hall : ∀ k : Fin 11, 1 ≤ k.val → (RecordKindV3.ofCode k.val.toUInt32).isSome := by decide
    have h1 := UInt32.le_iff_toNat_le.mp hh.1.1.2
    have h2 := UInt32.lt_iff_toNat_lt.mp hh.1.2
    simpa using hall ⟨r.header.kind.toNat, h2⟩ h1
  · intro hzero
    have hnat := congrArg UInt64.toNat hzero
    simp only [canonicalRecord, Nat.toUInt64_eq, UInt64.toNat_ofNat'] at hnat
    simp only [uint64Max] at hmax
    rw [Nat.mod_eq_of_lt (by omega)] at hnat
    exact absurd hnat (Nat.succ_ne_zero _)

structure NativeTexts (H : List UInt8 → Sha256Digest) (format : NativeFormatContext) (texts : Nat → List UInt8)
    (s : NativeSystem κ) : Prop where
  inv : NativeInv s
  sameFormat : s.channel.pipeline.format = format
  texts : TextsInv H texts s.channel

/-- A record the owner may enqueue if nothing is to be lost for its time. -/
def NativeAction.Timed (format : NativeFormatContext) : NativeAction → Prop
  | .enqueue r => (deriveUtcFiletime format.log format.header.qpcFrequency.toNat r.header.qpc.toNat).isSome
  | _ => True

namespace NativeTexts

variable {format : NativeFormatContext} {texts : Nat → List UInt8} {s : NativeSystem κ}

def Extended (H : List UInt8 → Sha256Digest) (format : NativeFormatContext) (texts : Nat → List UInt8)
    (s s' : NativeSystem κ) : Prop :=
  ∃ texts', (∀ t, t < s.channel.pipeline.nextFormat → texts' t = texts t) ∧ NativeTexts H format texts' s'

theorem keep {s' : NativeSystem κ} (h : NativeTexts H format texts s') : Extended H format texts s s' :=
  ⟨texts, fun _ _ => rfl, h⟩

theorem enqueue (h : NativeTexts H format texts s) {r : ReportRecordV3}
    (allowed : (NativeAction.enqueue r).Allowed s) : NativeTexts H format texts (s.next ops (.enqueue r)) := by
  have hobs := h.inv.channel.observed_le
  have hgen := h.inv.generated
  have hinv : NativeInv (s.next ops (.enqueue r)) := h.inv.enqueue allowed
  have hcredit : s.generatedSequence < s.channel.pipeline.observedSequence + kReportRecordCapacity := allowed
  rcases enqueueReport_spec h.inv.channel.ring s.channel.status (by omega) r with
    ⟨hadm, he⟩ | ⟨_, he⟩ | ⟨_, he⟩ | ⟨_, _, _, he⟩
  · simp only [NativeSystem.next, he, if_neg hadm] at hinv ⊢
    exact ⟨hinv, h.sameFormat, h.texts.ofStatus _⟩
  · simp only [NativeSystem.next, he] at hinv ⊢
    exact ⟨hinv, h.sameFormat, h.texts.ofStatus _⟩
  · simp only [NativeSystem.next, he] at hinv ⊢
    exact ⟨hinv, h.sameFormat, h.texts.ofStatus _⟩
  · simp only [NativeSystem.next, he, if_true] at hinv ⊢
    exact ⟨hinv, h.sameFormat, h.texts.push _ _⟩

theorem prepare (hd : ops.Digests H) (h : NativeTexts H format texts s) (qpc : Nat) :
    Extended H format texts s (s.next ops (.prepare qpc)) := by
  have hinv : NativeInv (s.next ops (.prepare qpc)) := h.inv.prepare qpc
  have hc := h.inv.channel
  by_cases hq : qpc = 0
  · simp only [NativeSystem.next, prepareNativeFrames, hq, or_true, if_true]
    exact keep h
  · obtain ⟨c, hrun, hstatus, hres⟩ := prepareNativeFrames_spec ops hc hq
    obtain ⟨texts', hsame, htexts⟩ := Prepares.texts hd hrun hc h.texts
    have hformat := (Prepares.frame hrun hc).format.1.trans h.sameFormat
    refine ⟨texts', hsame, ?_⟩
    rcases hres with ⟨he, _⟩ | ⟨he, _⟩ | ⟨r, _, _, _, he⟩
    · simp only [NativeSystem.next, he] at hinv ⊢
      exact ⟨hinv, hformat, htexts⟩
    · simp only [NativeSystem.next, he] at hinv ⊢
      exact ⟨hinv, hformat, htexts.ofStatus _⟩
    · simp only [NativeSystem.next, he] at hinv ⊢
      refine ⟨hinv, ?_, (htexts.rendered r).ofStatus _⟩
      obtain ⟨detail, context, hp⟩ := renderRecord_eq ops c.pipeline r
      exact (congrArg NativePipeline.format hp).trans hformat

theorem receipt (h : NativeTexts H format texts s) (bytes : List UInt8) :
    NativeTexts H format texts (s.next ops (.receipt bytes)) := by
  have hinv : NativeInv (s.next ops (.receipt bytes)) := h.inv.receipt bytes
  simp only [NativeSystem.next] at hinv ⊢
  rcases matchNativeReceipt_spec ops h.inv.channel bytes with ⟨he, _⟩ | ⟨_, hlt, context, out, _, hres⟩
  · rw [he] at hinv ⊢
    exact h
  · rcases hres with ⟨_, he⟩ | ⟨digest, _, ⟨_, he⟩ | ⟨t, _, _, he⟩ | ⟨_, he⟩⟩
    · rw [he] at hinv ⊢
      exact ⟨hinv, h.sameFormat, (h.texts.rehashed context).ofStatus _⟩
    · rw [he] at hinv ⊢
      exact ⟨hinv, h.sameFormat, h.texts.rehashed context⟩
    · rw [he] at hinv ⊢
      exact ⟨hinv, h.sameFormat, h.texts.rehashed context⟩
    · rw [he] at hinv ⊢
      exact ⟨hinv, h.sameFormat, h.texts.holdFront h.inv.channel hlt context⟩

theorem acknowledge (h : NativeTexts H format texts s) {o : OwnerSnapshotV3} (ho : o ∈ s.published) :
    NativeTexts H format texts (s.next ops (.acknowledge o)) := by
  have hinv : NativeInv (s.next ops (.acknowledge o)) := (h.inv.acknowledge ho).1
  simp only [NativeSystem.next] at hinv ⊢
  rcases acknowledgeNativeReceipt_spec h.inv.channel o with ⟨he, _⟩ | ⟨he, _, _⟩
  · rw [he] at hinv ⊢
    exact h
  · rw [he] at hinv ⊢
    exact ⟨hinv, h.sameFormat, h.texts.acknowledged h.inv.channel⟩

/-- The step lemma of the texts. -/
theorem next (hd : ops.Digests H) (h : NativeTexts H format texts s) {a : NativeAction} (allowed : a.Allowed s) :
    Extended H format texts s (s.next ops a) := by
  cases a with
  | enqueue r => exact keep (h.enqueue allowed)
  | peek =>
      have hinv : NativeInv (s.next ops .peek) := h.inv.peek
      simp only [NativeSystem.next, peekNativeFrame_eq h.inv.channel] at hinv ⊢
      exact keep ⟨hinv, h.sameFormat, h.texts⟩
  | submit =>
      obtain ⟨f, hf, hnew⟩ := allowed
      obtain ⟨hinv, hsame⟩ := h.inv.submit hf hnew
      simp only [NativeSystem.next, hf]
      exact keep ⟨hinv, hsame ▸ h.sameFormat, hsame ▸ h.texts⟩
  | release =>
      obtain ⟨f, hf, hdone⟩ := allowed
      have hinv : NativeInv (s.next ops .release) := (h.inv.release hf hdone).1
      obtain ⟨_, hticket, _⟩ := h.inv.front hf
      obtain ⟨hlt, _⟩ := h.inv.shown f hf
      simp only [NativeSystem.next, hf, hticket, releaseNativeFrame_eq h.inv.channel hlt] at hinv ⊢
      exact keep ⟨hinv, h.sameFormat, h.texts.releaseFrame⟩
  | publish => exact keep ⟨h.inv.publish, h.sameFormat, h.texts⟩
  | prepare qpc => exact h.prepare hd qpc
  | receipt bytes => exact keep (h.receipt bytes)
  | acknowledge o => exact keep (h.acknowledge allowed)
  | latch status => exact keep ⟨h.inv.ofStatus status, h.sameFormat, h.texts.ofStatus status⟩

/-- The first texts: the bootstrap alone. -/
theorem init (h : s.Initial) : NativeTexts H s.channel.pipeline.format (fun _ => s.channel.pipeline.bootstrap) s := by
  have hinv := NativeInv.init h
  obtain ⟨_, _, _, _, _, _, _, _, _, hinit, _⟩ := h
  exact ⟨hinv, rfl, initializeNativePipeline_texts H hinit⟩

/-- The front text, read while nothing is held, is held. -/
theorem receipt_front (h : NativeTexts H format texts s) (hd : ops.Digests H)
    (hsome : ∀ context bytes, (ops.digest context bytes).2.isSome) (hfree : s.channel.pipeline.heldMatch = false)
    (hlt : s.channel.pipeline.ledgerRead < s.channel.pipeline.nextFormat) :
    ∃ context, matchNativeReceipt ops s.channel (texts s.channel.pipeline.ledgerRead) =
      (.awaitingSubmission, holdFront s.channel context) := by
  have hfront := matchingTicket_front h.inv.channel h.texts hfree hlt
  rcases matchNativeReceipt_spec ops h.inv.channel (texts s.channel.pipeline.ledgerRead) with
    ⟨_, hheld | he⟩ | ⟨_, _, context, out, hdigest, hres⟩
  · exact absurd hheld (by simp [hfree])
  · omega
  · have hout := hsome s.channel.pipeline.hashContext (texts s.channel.pipeline.ledgerRead)
    have hvalue := hd s.channel.pipeline.hashContext (texts s.channel.pipeline.ledgerRead)
    rw [hdigest] at hout hvalue
    rcases hres with ⟨hnone, _⟩ | ⟨digest, hdig, hcase⟩
    · simp [hnone] at hout
    · rw [hvalue digest hdig, hfront] at hcase
      rcases hcase with ⟨hnone, _⟩ | ⟨t, ht, hne, _⟩ | ⟨_, he⟩
      · cases hnone
      · exact absurd (Option.some.inj ht).symm hne
      · exact ⟨context, he⟩

end NativeTexts

structure RenderableTexts (H : List UInt8 → Sha256Digest) (format : NativeFormatContext) (texts : Nat → List UInt8)
    (s : NativeSystem κ) : Prop where
  native : NativeTexts H format texts s
  records : RecordsInv (Renderable format) s.channel

namespace RenderableTexts

variable {format : NativeFormatContext} {texts : Nat → List UInt8} {s : NativeSystem κ}

theorem enqueue_records (h : RenderableTexts H format texts s) {r : ReportRecordV3}
    (allowed : (NativeAction.enqueue r).Allowed s) (timed : (NativeAction.enqueue r).Timed format) :
    RecordsInv (Renderable format) (s.next ops (.enqueue r)).channel := by
  have hobs := h.native.inv.channel.observed_le
  have hgen := h.native.inv.generated
  have hcredit : s.generatedSequence < s.channel.pipeline.observedSequence + kReportRecordCapacity := allowed
  rcases enqueueReport_spec h.native.inv.channel.ring s.channel.status (by omega) r with
    ⟨_, he⟩ | ⟨_, he⟩ | ⟨_, he⟩ | ⟨hh, hr, hmax, he⟩
  · simp only [NativeSystem.next, he]
    exact h.records.ofStatus _
  · simp only [NativeSystem.next, he]
    exact h.records.ofStatus _
  · simp only [NativeSystem.next, he]
    exact h.records.ofStatus _
  · simp only [NativeSystem.next, he]
    exact h.records.push h.native.inv.channel _ (by omega) (canonicalRecord_renderable hh hr hmax timed)

theorem prepare_records (h : RenderableTexts H format texts s) (qpc : Nat) :
    RecordsInv (Renderable format) (s.next ops (.prepare qpc)).channel := by
  have hc := h.native.inv.channel
  by_cases hq : qpc = 0
  · simp only [NativeSystem.next, prepareNativeFrames, hq, or_true, if_true]
    exact h.records
  · obtain ⟨c, hrun, _, hres⟩ := prepareNativeFrames_spec ops hc hq
    have hrecords := Prepares.records hrun hc h.records
    rcases hres with ⟨he, _⟩ | ⟨he, _⟩ | ⟨r, _, _, _, he⟩
    · simp only [NativeSystem.next, he]
      exact hrecords
    · simp only [NativeSystem.next, he]
      exact hrecords.ofStatus _
    · simp only [NativeSystem.next, he]
      exact (hrecords.rendered r).ofStatus _

/-- A preparation of renderable records only fails at the end of the counter. -/
theorem prepare_status (hd : ∀ context bytes, (ops.digest context bytes).2.isSome)
    (h : RenderableTexts H format texts s) (qpc : Nat) :
    (s.next ops (.prepare qpc)).channel.status = s.channel.status ∨ uint64Max ≤ s.generatedSequence + 1 := by
  have hf : contextValid format = true := h.native.sameFormat ▸ h.native.texts.format
  rcases NativeInv.prepare_status h.native.inv qpc with he | hlatch
  · exact .inl he
  · generalize (s.next ops (.prepare qpc)).channel.status = status at hlatch
    cases hlatch with
    | unrendered run pending body fails =>
        have hrecords := Prepares.records run h.native.inv.channel h.records
        have hformat := (Prepares.frame run h.native.inv.channel).format.1.trans h.native.sameFormat
        have hr := hrecords.scalars _ le_rfl pending _ body
        exact absurd fails (renderRecord_renders (hformat ▸ hf) (hformat ▸ hr) hd)
    | ticketsExhausted hmax => exact .inr hmax

theorem receipt_records (ops : NativeHashOps κ) (h : RenderableTexts H format texts s) (bytes : List UInt8) :
    RecordsInv (Renderable format) (s.next ops (.receipt bytes)).channel := by
  simp only [NativeSystem.next]
  rcases matchNativeReceipt_spec ops h.native.inv.channel bytes with ⟨he, _⟩ | ⟨_, hlt, context, out, _, hres⟩
  · rw [he]
    exact h.records
  · rcases hres with ⟨_, he⟩ | ⟨digest, _, ⟨_, he⟩ | ⟨t, _, _, he⟩ | ⟨_, he⟩⟩
    · rw [he]
      exact (h.records.rehashed context).ofStatus _
    · rw [he]
      exact h.records.rehashed context
    · rw [he]
      exact h.records.rehashed context
    · rw [he]
      exact h.records.holdFront h.native.inv.channel hlt context

theorem acknowledge_records (ops : NativeHashOps κ) (h : RenderableTexts H format texts s) (o : OwnerSnapshotV3) :
    RecordsInv (Renderable format) (s.next ops (.acknowledge o)).channel := by
  simp only [NativeSystem.next]
  rcases acknowledgeNativeReceipt_spec h.native.inv.channel o with ⟨he, _⟩ | ⟨he, hheld, _⟩
  · rw [he]
    exact h.records
  · rw [he]
    exact h.records.acknowledged h.native.inv.channel (h.native.inv.channel.held hheld)

/-- The step lemma of the records. -/
theorem records_next (h : RenderableTexts H format texts s) {a : NativeAction} (allowed : a.Allowed s)
    (timed : a.Timed format) : RecordsInv (Renderable format) (s.next ops a).channel := by
  cases a with
  | enqueue r => exact h.enqueue_records allowed timed
  | peek =>
      simp only [NativeSystem.next, peekNativeFrame_eq h.native.inv.channel]
      exact h.records
  | submit =>
      obtain ⟨f, hf, hnew⟩ := allowed
      simp only [NativeSystem.next, hf]
      exact (h.native.inv.submit hf hnew).2 ▸ h.records
  | release =>
      obtain ⟨f, hf, _⟩ := allowed
      obtain ⟨_, hticket, _⟩ := h.native.inv.front hf
      obtain ⟨hlt, _⟩ := h.native.inv.shown f hf
      simp only [NativeSystem.next, hf, hticket, releaseNativeFrame_eq h.native.inv.channel hlt]
      exact h.records.releaseFrame
  | publish => exact h.records
  | prepare qpc => exact h.prepare_records qpc
  | receipt bytes => exact h.receipt_records ops bytes
  | acknowledge o => exact h.acknowledge_records ops o
  | latch status => exact h.records.ofStatus status

theorem next (hd : ops.Digests H) (h : RenderableTexts H format texts s) {a : NativeAction} (allowed : a.Allowed s)
    (timed : a.Timed format) : ∃ texts', (∀ t, t < s.channel.pipeline.nextFormat → texts' t = texts t) ∧
      RenderableTexts H format texts' (s.next ops a) := by
  obtain ⟨texts', hsame, ht⟩ := h.native.next hd allowed
  exact ⟨texts', hsame, ht, h.records_next allowed timed⟩

theorem enqueueAll_records (status : StatusWords) {ring : ReportRingV3} (h : RingInv ring)
    (records : List ReportRecordV3)
    (timed : ∀ r ∈ records, (NativeAction.enqueue r).Timed format)
    (hlen : ring.reportWriteSequence + records.length ≤ ring.reportReadSequence + kReportRecordCapacity)
    (hold : ring.slots.Holds ring.reportReadSequence ring.reportWriteSequence fun _ r => Renderable format r) :
    (enqueueAll status ring records).2.slots.Holds (enqueueAll status ring records).2.reportReadSequence
      (enqueueAll status ring records).2.reportWriteSequence fun _ r => Renderable format r := by
  induction records generalizing status ring with
  | nil => exact hold
  | cons r records ih =>
      rw [List.length_cons] at hlen
      have hroom : ring.reportWriteSequence < ring.reportReadSequence + kReportRecordCapacity := by omega
      have hkeep : ring.reportWriteSequence + records.length ≤ ring.reportReadSequence + kReportRecordCapacity := by omega
      have hrest : ∀ r ∈ records, (NativeAction.enqueue r).Timed format := fun r hr => timed r (List.mem_cons_of_mem _ hr)
      rw [enqueueAll]
      rcases enqueueReport_spec h status hroom r with ⟨_, he⟩ | ⟨_, he⟩ | ⟨_, he⟩ | ⟨hh, hr, hmax, he⟩
      · rw [he]
        exact ih _ h hrest hkeep hold
      · rw [he]
        exact ih _ h hrest hkeep hold
      · rw [he]
        exact ih _ h hrest hkeep hold
      · rw [he]
        refine ih _ (pushReport_inv h hroom hh hr hmax) hrest (by simp only [pushReport]; omega) ?_
        exact hold.push h.order hroom
          (canonicalRecord_renderable hh hr hmax (timed r List.mem_cons_self))

theorem init {records : List ReportRecordV3} (h : s.InitialAfter records)
    (timed : ∀ r ∈ records, (NativeAction.enqueue r).Timed s.channel.pipeline.format) :
    RenderableTexts H s.channel.pipeline.format (fun _ => s.channel.pipeline.bootstrap) s := by
  have htexts : NativeTexts H _ _ s := NativeTexts.init ⟨records, h⟩
  obtain ⟨status, owner, hashContext, oldHash, context, old, qpc, hlen, hinit, _⟩ := h
  obtain ⟨hring, hread⟩ := enqueueAll_inv status (initializeReportRing_inv owner) records rfl
    (by simpa [initializeReportRing] using hlen)
  obtain ⟨hc, _, hr, _⟩ := initializeNativePipeline_inv hring hread hinit
  have hdrained := hc.drained
  have hprepared := hc.prepared
  have hord := hc.ledgerOrder
  refine ⟨htexts, ?_, ?_⟩
  · rw [hr]
    exact enqueueAll_records status (initializeReportRing_inv owner) records timed
      (by simpa [initializeReportRing] using hlen) (.empty _ _ _)
  · rw [hr, hread] at hdrained
    intro t ht ht'
    omega

end RenderableTexts

end RS2ServerFix.NativeLog
