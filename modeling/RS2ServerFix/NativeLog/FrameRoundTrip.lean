import RS2ServerFix.NativeLog.LoggedLines
import RS2ServerFix.NativeLog.PipelineOrder
import RS2ServerFix.Reporting.BootstrapJson

namespace RS2ServerFix.NativeLog

open Reporting
open Lib.Json (Object Tail plain)

variable {format : NativeFormatContext} {m : List UInt8} {ring ring' : ReportRingV3} {status status' : StatusWords}

section RunIds

theorem hexDigit_inj {a b : UInt8} (ha : a < 16) (hb : b < 16) (h : hexDigit a = hexDigit b) : a = b := by
  have hall : ∀ i j : Fin 16, hexDigit i.val.toUInt8 = hexDigit j.val.toUInt8 → i = j := by decide
  have hi := UInt8.lt_iff_toNat_lt.mp ha
  have hj := UInt8.lt_iff_toNat_lt.mp hb
  have hij := hall ⟨a.toNat, hi⟩ ⟨b.toNat, hj⟩ (by simpa using h)
  exact UInt8.toNat_inj.mp (Fin.mk.inj hij)

theorem hexPair_inj {v w : UInt8} (hhigh : hexDigit (v >>> 4) = hexDigit (w >>> 4))
    (hlow : hexDigit (v &&& 15) = hexDigit (w &&& 15)) : v = w := by
  have h := hexDigit_inj (nibble_bounds v).1 (nibble_bounds w).1 hhigh
  have h' := hexDigit_inj (nibble_bounds v).2 (nibble_bounds w).2 hlow
  rw [← UInt8.toNat_inj, byte_nibbles v, byte_nibbles w, h, h']

/-- Of all run identities of one length only the written one is read back. -/
theorem hexRun_unique {runId written rest : List UInt8} {pos : Nat} {d : Cursor} (hlength : runId.length = written.length)
    (h : hexRun runId ⟨pos, hex written ++ rest⟩ = some d) : runId = written := by
  induction runId generalizing written pos with
  | nil => exact (List.eq_nil_of_length_eq_zero hlength.symm).symm
  | cons v runId ih =>
      cases written with
      | nil => cases hlength
      | cons w written =>
          have hsplit : hex (w :: written) ++ rest =
              hexDigit (w >>> 4) :: hexDigit (w &&& 15) :: (hex written ++ rest) := rfl
          rw [hsplit, hexRun] at h
          dsimp only at h
          split at h
          · rename_i hpair
            rw [hexPair_inj hpair.1 hpair.2, ih (Nat.succ.inj hlength) h]
          · cases h

theorem envelope_belongs_unique (c : NativeFormatContext) {type : String}
    (htype : (decide ((ascii type).length ≠ 0 ∧ (ascii type).length ≤ 32) && (ascii type).all typeChar) = true)
    {sequence qpc utc : Nat} {rest : List UInt8} {runId : Vector UInt8 16}
    (h : belongsToRun (envelope c type sequence qpc utc ++ rest) runId.toList = true) : runId = c.header.runId := by
  simp only [Bool.and_eq_true, decide_eq_true_eq] at htype
  obtain ⟨⟨hne, hle⟩, hchars⟩ := htype
  have hquote : ascii "\",\"run_id\":\"" = 34 :: ascii ",\"run_id\":\"" := by decide
  simp only [envelope, List.append_assoc, belongsToRun, literal_append] at h
  rw [hquote, List.cons_append, typeRun_append hchars hle (by decide), if_neg (by dsimp only; omega), ← List.cons_append,
    ← hquote, literal_append] at h
  dsimp only at h
  split at h
  · rename_i hrun
    exact Vector.toList_inj.mp (hexRun_unique (by rw [Vector.length_toList, Vector.length_toList]) hrun)
  · cases h

end RunIds

/-- A message as its readers rely on it: printable text of bounded size that is the
marker and one object, found in any line it is logged in, and of one run only. -/
structure FrameRead (format : NativeFormatContext) (m : List UInt8) : Prop where
  text : Text kMessageLimit m
  object : ∃ object, m = kMarker ++ object ∧ Object object
  line : ∀ mode p, LinePrefix p mode →
    inspectLine (loggedLine p m ++ [lineFeed]) mode true = ⟨.frame, p.length, m.length⟩ ∧
      ((loggedLine p m ++ [lineFeed]).drop p.length).take m.length = m
  run : ∀ (runId : Vector UInt8 16) after, belongsToRun (m ++ after) runId.toList = true ↔ runId = format.header.runId
  wide : ∀ capacity, m.length < capacity → prepareMessage m capacity = some (m.map UInt8.toUInt16 ++ [0])

theorem loggedLine_message {p : List UInt8} : ((loggedLine p m ++ [lineFeed]).drop p.length).take m.length = m := by
  rw [loggedLine, List.append_assoc p, List.drop_left, List.append_assoc, List.take_left]

theorem envelope_read {type : String}
    (htype : (decide ((ascii type).length ≠ 0 ∧ (ascii type).length ≤ 32) && (ascii type).all typeChar) = true)
    (hplain : (ascii type).all plain = true) {sequence qpc utc : Nat} (hsequence : sequence ≤ uint64Max)
    (hqpc : qpc ≤ uint64Max) (hutc : utc ≤ uint64Max) {t : List UInt8} (ht : Tail t)
    (htext : Text kMessageLimit (envelope format type sequence qpc utc ++ t ++ ascii "\x7d")) :
    FrameRead format (envelope format type sequence qpc utc ++ t ++ ascii "\x7d") := by
  obtain ⟨object, hobject, hvalid⟩ := envelope_object format hplain hsequence hqpc hutc ht
  have hmarker : kMarker <+: envelope format type sequence qpc utc ++ t ++ ascii "\x7d" :=
    hobject ▸ List.prefix_append _ _
  refine ⟨htext, ⟨object, hobject, hvalid⟩, fun mode p hp => ?_, fun runId after => ⟨?_, ?_⟩, fun capacity hcapacity => ?_⟩
  · exact ⟨inspectLine_logged hp htext hmarker, loggedLine_message⟩
  · intro h
    rw [List.append_assoc, List.append_assoc] at h
    exact envelope_belongs_unique format htype h
  · rintro rfl
    rw [List.append_assoc, List.append_assoc]
    exact envelope_belongs format htype _ _ _ _
  · have hlength := htext.1
    have hlong := hmarker.length_le
    rw [prepareMessage, if_neg (by omega), if_pos ⟨htext.2, List.prefix_iff_eq_take.mp hmarker |>.symm⟩]

theorem type_plain (kind : RecordKindV3) : (ascii kind.type).all plain = true := by
  cases kind <;> decide

/-- A record of a ring that accepted it, as its slot holds it. -/
def Enqueued (r : ReportRecordV3) : Prop :=
  ∃ status ring thread input status' ring' sequence, ring.reportWriteSequence ≤ uint64Max ∧
    enqueueReport status ring thread input = (status', ring', .accepted, sequence) ∧
    r = ring'.slots.get ring.reportWriteSequence

theorem enqueueReport_accepted {thread : UInt32} {input : ReportRecordV3} {sequence : Nat}
    (hcounter : ring.reportWriteSequence ≤ uint64Max)
    (h : enqueueReport status ring thread input = (status', ring', .accepted, sequence)) :
    validHeader input.header = true ∧ validRecovery input = true ∧ ring.reportWriteSequence < uint64Max ∧
      ring' = pushReport ring input := by
  rw [enqueueReport] at h
  split at h
  · cases h
  · split at h
    · cases h
    · split at h
      · rename_i hadmission
        simp only [Prod.mk.injEq] at h
        exact absurd h.2.2.1 hadmission
      · dsimp only at h
        split at h
        · cases h
        · rename_i hvalid
          split at h
          · cases h
          · split at h
            · cases h
            · rename_i hmax
              split at h
              · cases h
              · simp only [Prod.mk.injEq] at h
                simp only [not_or, Bool.not_eq_true, Bool.not_eq_false'] at hvalid
                exact ⟨by simpa using hvalid.1, by simpa using hvalid.2, lt_of_le_of_ne hcounter hmax, h.2.1.symm⟩

theorem Enqueued.renderable {r : ReportRecordV3} (h : Enqueued r)
    (hclock : (deriveUtcFiletime format.log format.header.qpcFrequency.toNat r.header.qpc.toNat).isSome) :
    Renderable format r := by
  obtain ⟨status, ring, thread, input, status', ring', sequence, hcounter, haccepted, rfl⟩ := h
  obtain ⟨hheader, hrecovery, hmax, rfl⟩ := enqueueReport_accepted hcounter haccepted
  have hslot : (pushReport ring input).slots.get ring.reportWriteSequence =
      canonicalRecord input (ring.reportWriteSequence + 1).toUInt64 ring.ownerThreadId := Lib.Slots.get_set_self _ _ _
  rw [hslot] at hclock ⊢
  exact canonicalRecord_renderable hheader hrecovery hmax hclock

theorem recordText_read (r : ReportRecordV3) (kind : RecordKindV3) (detail : Bool) {utc : Nat} (hutc : utc ≤ uint64Max) :
    FrameRead format (recordText format r kind detail utc) :=
  envelope_read (type_belongs kind) (type_plain kind) (le_max64 _) (le_max64 _) hutc
    (recordTexts_tail format.config.diagnostics r kind detail)
    ((recordText_text format r kind detail utc).mono (by decide))

theorem bootstrapMessage_read (hformat : contextValid format = true)
    (hcal : ¬format.log.calibrationQpcAfter < format.log.calibrationQpcBefore) {utc : Nat} (hutc : utc ≤ uint64Max) :
    FrameRead format (bootstrapMessage format utc) :=
  envelope_read (by decide) (by decide) (Nat.zero_le _) (calibrationMidpoint_le format.log hcal) hutc
    (bootstrapRest_tail format) (bootstrapMessage_text hformat utc)

theorem start_large {capacity : Nat} (h : kMessageLimit < capacity) :
    Json.start capacity = Json.start (kMessageLimit + 1) := by
  have hlimit : kMessageLimit = 8192 := rfl
  simp only [Json.start, Json.mk.injEq, true_and, decide_eq_decide]
  omega

theorem formatNativeRecord_large {capacity : Nat} (h : kMessageLimit < capacity) (r : ReportRecordV3) (detail : Bool) :
    formatNativeRecord format r capacity detail = formatNativeRecord format r (kMessageLimit + 1) detail := by
  have hzero : capacity ≠ 0 := by omega
  simp only [formatNativeRecord, start_large h, hzero, Nat.succ_ne_zero, false_or]

theorem formatNativeBootstrap_large {capacity : Nat} (h : kMessageLimit < capacity) :
    formatNativeBootstrap format capacity = formatNativeBootstrap format (kMessageLimit + 1) := by
  have hzero : capacity ≠ 0 := by omega
  simp only [formatNativeBootstrap, start_large h, hzero, Nat.succ_ne_zero, false_or]

theorem derived_calibrated {frequency qpc : Nat} (h : (deriveUtcFiletime format.log frequency qpc).isSome) :
    ¬format.log.calibrationQpcAfter < format.log.calibrationQpcBefore := by
  intro hcal
  rw [deriveUtcFiletime] at h
  dsimp only at h
  rw [if_pos (.inr (.inr (.inr (.inr hcal))))] at h
  cases h

theorem frame_round_trip {capacity : Nat} (hcapacity : kMessageLimit < capacity) (hformat : contextValid format = true) :
    (∀ r, Enqueued r →
      (deriveUtcFiletime format.log format.header.qpcFrequency.toNat r.header.qpc.toNat).isSome →
      ∀ detail, ∃ m, formatNativeRecord format r capacity detail = some m ∧ FrameRead format m) ∧
    ((deriveUtcFiletime format.log format.header.qpcFrequency.toNat (calibrationMidpoint format.log)).isSome →
      ∃ m, formatNativeBootstrap format capacity = some m ∧ FrameRead format m) ∧
    (∀ r r' detail detail' m, formatNativeRecord format r capacity detail = some m →
      formatNativeRecord format r' capacity detail' = some m → r.header.sequence = r'.header.sequence) ∧
    ∀ r detail m, formatNativeRecord format r capacity detail = some m →
      formatNativeBootstrap format capacity ≠ some m := by
  simp only [formatNativeRecord_large hcapacity, formatNativeBootstrap_large hcapacity]
  refine ⟨fun r hr hclock detail => ?_, fun hclock => ?_, fun r r' detail detail' m h h' => ?_,
    fun r detail m h h' => ?_⟩
  · obtain ⟨hkind, hsequence, hrecovery, -⟩ := hr.renderable hclock
    obtain ⟨kind, hkind⟩ := Option.isSome_iff_exists.mp hkind
    obtain ⟨utc, hutc⟩ := Option.isSome_iff_exists.mp hclock
    rw [formatNativeRecord_eq hformat hkind hsequence hrecovery, hutc]
    exact ⟨_, rfl, recordText_read r kind detail (deriveUtcFiletime_le hutc)⟩
  · obtain ⟨utc, hutc⟩ := Option.isSome_iff_exists.mp hclock
    have hcal := derived_calibrated hclock
    rw [formatNativeBootstrap_eq hformat hcal, hutc]
    exact ⟨_, rfl, bootstrapMessage_read hformat hcal (deriveUtcFiletime_le hutc)⟩
  · obtain ⟨kind, utc, -, -, rfl⟩ := formatNativeRecord_some h
    obtain ⟨kind', utc', -, -, hsame⟩ := formatNativeRecord_some h'
    rw [recordText, recordText, List.append_assoc, List.append_assoc] at hsame
    have hsequence := envelope_sequence format (type_quote kind) (type_quote kind') (le_max64 _) (le_max64 _) hsame
    exact UInt64.toNat_inj.mp hsequence
  · have hzero : r.header.sequence ≠ 0 := by
      intro hzero
      rw [formatNativeRecord, if_pos (.inr hzero)] at h
      cases h
    obtain ⟨kind, utc, -, -, rfl⟩ := formatNativeRecord_some h
    obtain ⟨-, utc', rest, hsame⟩ := formatNativeBootstrap_some h'
    rw [recordText, List.append_assoc] at hsame
    have hsequence := envelope_sequence format (type_quote kind) (by decide) (le_max64 _) (Nat.zero_le _) hsame
    exact hzero (UInt64.toNat_inj.mp hsequence)

/-- The longest path, all of whose units are escaped. -/
def widestFormat : NativeFormatContext :=
  { sampleFormat with
    config := ⟨.repair, .operational⟩
    log := { sampleFormat.log with pathChars := 1023, path := (Vector.replicate 1024 0xffff).set 1023 0 } }

def builderRecord : ReportRecordV3 :=
  ⟨{ (default : ReportHeader) with qpc := 100, kind := RecordKindV3.builderEnter.code }, default⟩

def builderStored (sequence : UInt64) : ReportRecordV3 := canonicalRecord builderRecord sequence 9

theorem builderStored_enqueued : Enqueued (builderStored 1) ∧ Enqueued (builderStored 2) := by
  have hfirst : enqueueReport .clear (initializeReportRing 9) 9 builderRecord =
      (.clear, pushReport (initializeReportRing 9) builderRecord, .accepted, 1) := rfl
  have hsecond : enqueueReport .clear (pushReport (initializeReportRing 9) builderRecord) 9 builderRecord =
      (.clear, pushReport (pushReport (initializeReportRing 9) builderRecord) builderRecord, .accepted, 2) := rfl
  constructor
  · exact ⟨_, _, _, _, _, _, _, Nat.zero_le _, hfirst, (Lib.Slots.get_set_self _ _ _).symm⟩
  · exact ⟨_, _, _, _, _, _, _, by decide, hsecond, (Lib.Slots.get_set_self _ _ _).symm⟩

theorem frame_round_trip_widest :
    (∃ m, formatNativeBootstrap widestFormat (kMessageLimit + 1) = some m ∧ FrameRead widestFormat m) ∧
    ∀ detail detail', ∃ m m', formatNativeRecord widestFormat (builderStored 1) (kMessageLimit + 1) detail = some m ∧
      formatNativeRecord widestFormat (builderStored 2) (kMessageLimit + 1) detail' = some m' ∧
      FrameRead widestFormat m ∧ FrameRead widestFormat m' ∧ m ≠ m' := by
  have hformat : contextValid widestFormat = true := by decide +kernel
  obtain ⟨hrecords, hbootstrap, hinj, -⟩ := frame_round_trip (Nat.lt_succ_self kMessageLimit) hformat
  refine ⟨hbootstrap (by decide +kernel), fun detail detail' => ?_⟩
  obtain ⟨m, hm, hread⟩ := hrecords (builderStored 1) builderStored_enqueued.1 (by decide +kernel) detail
  obtain ⟨m', hm', hread'⟩ := hrecords (builderStored 2) builderStored_enqueued.2 (by decide +kernel) detail'
  refine ⟨m, m', hm, hm', hread, hread', ?_⟩
  rintro rfl
  exact absurd (hinj _ _ detail detail' m hm hm') (by decide)

end RS2ServerFix.NativeLog
