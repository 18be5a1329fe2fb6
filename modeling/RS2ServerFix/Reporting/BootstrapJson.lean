import RS2ServerFix.Reporting.FormatJson

namespace RS2ServerFix.Reporting

open NativeLog
open Lib.Json (Value Str Tail Object Whole plain)

variable {c : NativeFormatContext}

section Sizes

theorem quoted_text {n : Nat} {s : List UInt8} (h : Text n s) : Text (n + 2) (quoted s) :=
  ((Text.append (.ofBool (n := 1) (by decide)) h).append (.ofBool (n := 1) (by decide))).mono (by omega)

theorem hexed_text {name : String} {k n : Nat} (hname : Text k (ascii name)) (bytes : Vector UInt8 n) :
    Text (2 + k + 2 + (2 * n + 2)) (member name (quoted (hex bytes.toList))) :=
  member_text hname (quoted_text ((hex_text _).mono (by rw [Vector.length_toList])))

theorem mode_text (m : Mode) : Text 8 (ascii m.name) := by
  cases m <;> exact .ofBool (by decide)

theorem diagnostics_text (d : Diagnostics) : Text 11 (ascii d.name) := by
  cases d <;> exact .ofBool (by decide)

theorem startup_text : Text 7 (ascii "startup") := .ofBool (by decide)

theorem startupText_text (s : NativeStartupSummary) : Text 262 (startupText s) := by
  refine Text.mono (n := 29 + 10 + (2 + 10 + 2 + 10) + (2 + 13 + 2 + 10) + (2 + 12 + 2 + 10) + (2 + 15 + 2 + 10) +
    (2 + 17 + 2 + 10) + (2 + 15 + 2 + 10) + (2 + 12 + 2 + 10) + (2 + 16 + 2 + 10) + 1) ?_ (by decide)
  iterate 10 refine .append ?_ ?_
  · exact .ofBool (by decide)
  · exact decimal32_text _
  iterate 8 exact number32_text (.ofBool (by decide)) _
  exact .ofBool (by decide)

theorem operationalText_text : Text 142 operationalText := by
  refine .append (n := 61) (m := 81) ?_ ?_
  · exact .ofBool (by decide +kernel)
  · exact .ofBool (by decide +kernel)

theorem bootstrapText_text (c : NativeFormatContext) : Text 1424 (bootstrapText c) := by
  refine Text.mono (n := 62 + (2 + 16 + 2 + 10) + (2 + 22 + 2 + 20) + (2 + 13 + 2 + 20) + (2 + 4 + 2 + (8 + 2)) +
    (2 + 15 + 2 + 10) + (2 + 15 + 2 + 10) + (2 + 11 + 2 + (11 + 2)) + (2 + 23 + 2 + 20) + (2 + 11 + 2 + 66) +
    (2 + 26 + 2 + 66) + (2 + 28 + 2 + 66) + 65 + (2 + 24 + 2 + 20) + (2 + 22 + 2 + 20) + (2 + 21 + 2 + 20) +
    (2 + 13 + 2 + 20) + (2 + 7 + 2 + 34) + (2 + 11 + 2 + 20) + (2 + 24 + 2 + 20) + (2 + 11 + 2 + 20) + 56 + 62 + 56 +
    83 + 53 + 64 + 45) ?_ (by decide)
  iterate 27 refine .append ?_ ?_
  · exact .ofBool (by decide +kernel)
  · exact number32_text (.ofBool (by decide)) _
  · exact number64_text (.ofBool (by decide)) _
  · exact number64_text (.ofBool (by decide)) _
  · exact member_text (.ofBool (by decide)) (quoted_text (mode_text _))
  · exact number32_text (.ofBool (by decide)) _
  · exact number32_text (.ofBool (by decide)) _
  · exact member_text (.ofBool (by decide)) (quoted_text (diagnostics_text _))
  · exact number64_text (.ofBool (by decide)) _
  · exact hexed_text (.ofBool (by decide)) c.header.hostDigest
  · exact hexed_text (.ofBool (by decide)) c.identities.steamApiDigest
  · exact hexed_text (.ofBool (by decide)) c.identities.steamClientDigest
  · exact .ofBool (by decide +kernel)
  iterate 4 exact number64_text (.ofBool (by decide)) _
  · exact hexed_text (.ofBool (by decide)) c.log.fileId
  iterate 3 exact number64_text (.ofBool (by decide)) _
  all_goals exact .ofBool (by decide +kernel)

end Sizes

section Members

theorem mode_plain (m : Mode) : (ascii m.name).all plain = true := by
  cases m <;> decide

theorem diagnostics_plain (d : Diagnostics) : (ascii d.name).all plain = true := by
  cases d <;> decide

theorem anchorIntervalSeconds_le (d : Diagnostics) : anchorIntervalSeconds d ≤ uint64Max := by
  cases d <;> decide

/-- A text that only holds numbers under fixed names. -/
theorem numbers_tail (pairs : Scalars) {t : List UInt8} (h : t = (scalarTexts pairs).flatten)
    (hnames : pairs.all (fun p => (ascii p.1).all plain) = true) (hvalues : ∀ p ∈ pairs, p.2 ≤ uint64Max) : Tail t :=
  h ▸ scalarTexts_tail pairs (.refl _) hnames hvalues

theorem operationalText_tail : Tail operationalText := by
  have hfields : ascii ",\"operational_fields_schema\":1,\"qualification_evidence\":false" =
      member "operational_fields_schema" (decimal 1) ++ member "qualification_evidence" (ascii "false") := by decide +kernel
  have hdetail : ascii ",\"recovery_detail_post_terminal_pairs\":4,\"recovery_detail_deadline_fallback\":true" =
      member "recovery_detail_post_terminal_pairs" (decimal 4) ++
        member "recovery_detail_deadline_fallback" (ascii "true") := by decide +kernel
  rw [operationalText, hfields, hdetail]
  refine .append (.append ?_ ?_) (.append ?_ ?_)
  · exact number_tail (by decide) (by decide)
  · exact word_tail (by decide) (by decide)
  · exact number_tail (by decide) (by decide)
  · exact word_tail (by decide) (by decide)

def startupMembers (s : NativeStartupSummary) : List UInt8 :=
  member "recon_mode" (decimal s.reconMode.toNat) ++ member "recon_outcome" (decimal s.reconOutcome.toNat) ++
    member "recon_reason" (decimal s.reconReason.toNat) ++ member "recon_qualified" (decimal s.reconQualified.toNat) ++
    member "initialize_result" (decimal s.initializeResult.toNat) ++
    member "marker_complete" (decimal s.markerComplete.toNat) ++ member "marker_error" (decimal s.markerError.toNat) ++
    member "startup_accepted" (decimal s.startupAccepted.toNat)

theorem startupText_eq (s : NativeStartupSummary) :
    startupText s = 44 :: (quoted (ascii "startup") ++ 58 :: 123 :: (quoted (ascii "build_identity") ++
      58 :: decimal s.buildIdentity.toNat ++ startupMembers s ++ [125])) := by
  have hopen : ascii ",\"startup\":\x7b\"build_identity\":" =
      44 :: (quoted (ascii "startup") ++ 58 :: 123 :: (quoted (ascii "build_identity") ++ [58])) := by decide
  have hclose : ascii "\x7d" = [125] := by decide
  simp only [startupText, startupMembers, hopen, hclose, List.cons_append, List.nil_append, List.append_assoc]

theorem startupText_tail (s : NativeStartupSummary) : Tail (startupText s) := by
  have hrest : Tail (startupMembers s) := by
    iterate 7 refine .append ?_ ?_
    all_goals exact number_tail (by decide) (by simp)
  have hobject := hrest.object (quoted_str (s := ascii "build_identity") (by decide))
    (decimal_value (le_max32 s.buildIdentity))
  exact startupText_eq s ▸ .member (quoted_str (by decide)) hobject.value

/-- The bootstrap ends in the name of the path, whose string follows it. -/
theorem bootstrapText_tail (c : NativeFormatContext) {path : List UInt8} (hpath : Str path) :
    Tail (bootstrapText c ++ path) := by
  have hartifact : ascii ",\"artifact\":\"RS2ServerFix-steam-reporting\",\"version\":\"0.7.1.0\"" =
      member "artifact" (quoted (ascii "RS2ServerFix-steam-reporting")) ++ member "version" (quoted (ascii "0.7.1.0")) := by
    decide +kernel
  have htransport : ascii ",\"transport\":\"native\",\"durability\":\"unknown\",\"utc_kind\":\"derived\"" =
      member "transport" (quoted (ascii "native")) ++ member "durability" (quoted (ascii "unknown")) ++
        member "utc_kind" (quoted (ascii "derived")) := by decide +kernel
  have hunchanged : ascii ",\"authentication_changed\":false,\"native_counting_preserved\":true" =
      member "authentication_changed" (ascii "false") ++ member "native_counting_preserved" (ascii "true") := by
    decide +kernel
  have hlast : Tail (ascii ",\"termination_may_lose_tail\":true,\"log_path\":" ++ path) := by
    have hname : ascii ",\"termination_may_lose_tail\":true,\"log_path\":" =
        member "termination_may_lose_tail" (ascii "true") ++ 44 :: (quoted (ascii "log_path") ++ [58]) := by decide +kernel
    rw [hname, List.append_assoc, List.cons_append, List.append_assoc]
    exact (word_tail (by decide) (by decide)).append (.member (quoted_str (by decide)) (.string hpath))
  unfold bootstrapText
  rw [hartifact, htransport, hunchanged, List.append_assoc]
  iterate 28 refine .append ?_ ?_
  · exact text_tail (by decide) (quoted_str (by decide))
  · exact text_tail (by decide) (quoted_str (by decide))
  · exact number_tail (by decide) (by simp)
  · exact number_tail (by decide) (by simp)
  · exact number_tail (by decide) (by simp)
  · exact text_tail (by decide) (quoted_str (mode_plain _))
  · exact number_tail (by decide) (by simp)
  · exact number_tail (by decide) (by simp)
  · exact text_tail (by decide) (quoted_str (diagnostics_plain _))
  · exact number_tail (by decide) (anchorIntervalSeconds_le _)
  · exact text_tail (by decide) (hex_str _)
  · exact text_tail (by decide) (hex_str _)
  · exact text_tail (by decide) (hex_str _)
  · refine .append (.append ?_ ?_) ?_
    all_goals exact text_tail (by decide) (quoted_str (by decide))
  iterate 4 exact number_tail (by decide) (by simp)
  · exact text_tail (by decide) (hex_str _)
  iterate 3 exact number_tail (by decide) (by simp)
  · exact numbers_tail [("record_bytes", 256), ("ring_capacity", 256), ("batch_limit", 32)] (by decide +kernel)
      (by decide) (by decide)
  · exact numbers_tail [("ledger_capacity", 256), ("ready_capacity", 8), ("message_limit", 8192)] (by decide +kernel)
      (by decide) (by decide)
  · exact numbers_tail [("native_service_hz", 4), ("native_frames_per_opportunity", 2)] (by decide +kernel) (by decide)
      (by decide)
  · exact numbers_tail [("native_frames_per_second", 8), ("request_floor_seconds", 20), ("prepared_counts_schema", 1)]
      (by decide +kernel) (by decide) (by decide)
  · exact numbers_tail [("prepared_dirty_schema", 1), ("recovery_origin_schema", 1)] (by decide +kernel) (by decide)
      (by decide)
  · refine .append ?_ ?_
    all_goals exact word_tail (by decide) (by decide)
  · exact hlast

end Members

section Messages

/-- What follows an envelope closes the object that the envelope opened behind the marker. -/
theorem envelope_object (c : NativeFormatContext) {type : String} (htype : (ascii type).all plain = true)
    {sequence qpc utc : Nat} (hsequence : sequence ≤ uint64Max) (hqpc : qpc ≤ uint64Max) (hutc : utc ≤ uint64Max)
    {t : List UInt8} (ht : Tail t) :
    ∃ object, envelope c type sequence qpc utc ++ t ++ ascii "\x7d" = kMarker ++ object ∧ Object object := by
  have hopen : ascii "\x7b\"schema\":3,\"type\":\"" =
      123 :: (quoted (ascii "schema") ++ 58 :: (decimal 3 ++ 44 :: (quoted (ascii "type") ++ [58, 34]))) := by decide
  have hrun : ascii "\",\"run_id\":\"" = 34 :: 44 :: (quoted (ascii "run_id") ++ [58, 34]) := by decide
  have hquote : ascii "\"" = [34] := by decide
  have hclose : ascii "\x7d" = [125] := by decide
  have htail : Tail (member "type" (quoted (ascii type)) ++ member "run_id" (quoted (hex c.header.runId.toList)) ++
      member "pid" (decimal c.header.pid.toNat) ++ member "sequence" (decimal sequence) ++ member "qpc" (decimal qpc) ++
      member "utc_derived_filetime" (decimal utc) ++ t) := by
    refine .append (.append (.append (.append (.append (.append ?_ ?_) ?_) ?_) ?_) ?_) ht
    · exact text_tail (by decide) (quoted_str htype)
    · exact text_tail (by decide) (hex_str _)
    · exact number_tail (by decide) (by simp)
    · exact number_tail (by decide) hsequence
    · exact number_tail (by decide) hqpc
    · exact number_tail (by decide) hutc
  refine ⟨_, ?_, htail.object (quoted_str (s := ascii "schema") (by decide)) (decimal_value (n := 3) (by decide))⟩
  have htype' : member "type" (quoted (ascii type)) = 44 :: (quoted (ascii "type") ++ 58 :: 34 :: (ascii type ++ [34])) := by
    rw [member_eq, quoted, quoted, hquote]
    rfl
  have hrun' : member "run_id" (quoted (hex c.header.runId.toList)) =
      44 :: (quoted (ascii "run_id") ++ 58 :: 34 :: (hex c.header.runId.toList ++ [34])) := by
    rw [member_eq, quoted, quoted, hquote]
    rfl
  simp only [envelope, hopen, hrun, hquote, hclose, htype', hrun', List.cons_append, List.nil_append, List.append_assoc]

theorem deriveUtcFiletime_le {log : LogIdentity} {frequency qpc utc : Nat}
    (h : deriveUtcFiletime log frequency qpc = some utc) : utc ≤ uint64Max := by
  have hlog := le_max64 log.utcFiletime
  rw [deriveUtcFiletime] at h
  dsimp only at h
  split at h
  · cases h
  · by_cases hsign : calibrationMidpoint log ≤ qpc
    · simp only [if_pos hsign] at h
      split at h
      · cases h
      · split at h
        · cases h
        · split at h
          · cases h
          · injection h with h
            omega
    · simp only [if_neg hsign] at h
      split at h
      · cases h
      · split at h
        · cases h
        · split at h
          · cases h
          · injection h with h
            exact h ▸ (Nat.sub_le _ _).trans hlog

theorem calibrationMidpoint_le (log : LogIdentity) (h : ¬log.calibrationQpcAfter < log.calibrationQpcBefore) :
    calibrationMidpoint log ≤ uint64Max := by
  have hle := UInt64.le_iff_toNat_le.mp (UInt64.not_lt.mp h)
  have hafter := le_max64 log.calibrationQpcAfter
  rw [calibrationMidpoint]
  omega

def pathText (log : LogIdentity) : List UInt16 := log.path.toList.take log.pathChars.toNat

def bootstrapRest (c : NativeFormatContext) : List UInt8 :=
  bootstrapText c ++ escapedText (pathText c.log) ++
    (if c.config.diagnostics = .operational then operationalText else []) ++ startupText c.startup

def bootstrapMessage (c : NativeFormatContext) (utc : Nat) : List UInt8 :=
  envelope c "startup" 0 (calibrationMidpoint c.log) utc ++ bootstrapRest c ++ ascii "\x7d"

theorem pathText_length (hc : contextValid c = true) : (pathText c.log).length ≤ 1023 := by
  simp only [contextValid, Bool.and_eq_true, decide_eq_true_eq] at hc
  have hlt : c.log.pathChars < 1024 := by tauto
  have hnat : c.log.pathChars.toNat < 1024 := UInt64.lt_iff_toNat_lt.mp hlt
  rw [pathText]
  exact (List.length_take_le _ _).trans (Nat.le_of_lt_succ hnat)

theorem operational_text (c : NativeFormatContext) :
    Text 142 (if c.config.diagnostics = .operational then operationalText else []) := by
  split
  · exact operationalText_text
  · exact .mono .nil (by decide)

theorem bootstrapRest_text (hc : contextValid c = true) : Text 7968 (bootstrapRest c) := by
  have hpath : Text 6140 (escapedText (pathText c.log)) := by
    refine ⟨?_, escapedText_printable _⟩
    have hlength := pathText_length hc
    have hle := escapedLength_le (pathText c.log)
    rw [escapedText_length]
    omega
  exact (((bootstrapText_text c).append hpath).append (operational_text c)).append (startupText_text c.startup)

theorem bootstrapMessage_text (hc : contextValid c = true) (utc : Nat) : Text kMessageLimit (bootstrapMessage c utc) := by
  have henvelope := envelope_text c startup_text 0 (calibrationMidpoint c.log) utc
  exact ((henvelope.append (bootstrapRest_text hc)).append (m := 1) (.ofBool (by decide))).mono (by decide)

theorem Json.path_of_fits {j : Json} (h : j.good = true) {text : List UInt16} (htext : text.length ≤ 1023)
    (hfit : j.out.length + (escapedText text).length < j.capacity) :
    j.path text = { j with out := j.out ++ escapedText text } := by
  have hroom : (escapedText text).length < j.capacity - j.out.length := by omega
  rw [Json.path, if_neg (by simp [h]), escapeJsonUtf16, if_neg (by omega), ← escapedText,
    putEscaped_foldlM _ (by rw [List.length_nil]; omega), if_pos (by rw [List.length_nil]; omega)]
  rfl

/-- The bootstrap of a valid context fits a message, whatever its path, unless
the midpoint of the calibration has no derived time. -/
theorem formatNativeBootstrap_eq (hc : contextValid c = true)
    (hcal : ¬c.log.calibrationQpcAfter < c.log.calibrationQpcBefore) :
    formatNativeBootstrap c (kMessageLimit + 1) =
      (deriveUtcFiletime c.log c.header.qpcFrequency.toNat (calibrationMidpoint c.log)).map (bootstrapMessage c) := by
  rw [formatNativeBootstrap, if_neg (by simp [hcal, kMessageLimit]), begin_, if_neg (by simp [hc])]
  cases deriveUtcFiletime c.log c.header.qpcFrequency.toNat (calibrationMidpoint c.log) with
  | none => rfl
  | some utc =>
      have henvelope := envelope_text c startup_text 0 (calibrationMidpoint c.log) utc
      have hall := henvelope.append (bootstrapRest_text hc)
      dsimp only [Option.map_some, Option.bind_eq_bind, Option.bind_some]
      rw [bootstrapMessage]
      rw [bootstrapRest] at hall ⊢
      generalize envelope c "startup" 0 (calibrationMidpoint c.log) utc = e at hall ⊢
      obtain ⟨hlength, hprintable⟩ := hall
      simp only [List.length_append] at hlength
      have hopened : (Json.start (kMessageLimit + 1)).append e = ⟨e, 8193, true⟩ :=
        Json.append_of_fits rfl (by show 0 + e.length < 8193; omega)
      have hnamed : (Json.mk e 8193 true).append (bootstrapText c) = ⟨e ++ bootstrapText c, 8193, true⟩ :=
        Json.append_of_fits rfl (by dsimp only; omega)
      have hescaped : (Json.mk (e ++ bootstrapText c) 8193 true).path (c.log.path.toList.take c.log.pathChars.toNat) =
          ⟨e ++ bootstrapText c ++ escapedText (pathText c.log), 8193, true⟩ :=
        Json.path_of_fits rfl (pathText_length hc) (by dsimp only; rw [← pathText, List.length_append]; omega)
      have hdetailed : (if c.config.diagnostics = .operational then
          (Json.mk (e ++ bootstrapText c ++ escapedText (pathText c.log)) 8193 true).append operationalText
          else ⟨e ++ bootstrapText c ++ escapedText (pathText c.log), 8193, true⟩) =
          ⟨e ++ bootstrapText c ++ escapedText (pathText c.log) ++
            (if c.config.diagnostics = .operational then operationalText else []), 8193, true⟩ := by
        split at hlength
        · rename_i hop
          rw [if_pos hop, if_pos hop]
          exact Json.append_of_fits rfl (by simp only [List.length_append]; omega)
        · rename_i hop
          rw [if_neg hop, if_neg hop, List.append_nil]
      rw [hopened, hnamed, hescaped, hdetailed]
      generalize (if c.config.diagnostics = .operational then operationalText else []) = o at hlength hprintable ⊢
      rw [Json.append_of_fits rfl (by simp only [List.length_append]; omega)]
      refine (Json.finish_of_fits rfl (by simp only [List.length_append]; omega) ?_).trans ?_
      · simpa only [List.append_assoc] using hprintable
      · simp only [List.append_assoc]

theorem bootstrapRest_tail (c : NativeFormatContext) : Tail (bootstrapRest c) := by
  have hpath : Str (escapedText (pathText c.log)) := ⟨_, by simpa using string_escapedText (pathText c.log) []⟩
  refine .append (.append (bootstrapText_tail c hpath) ?_) (startupText_tail c.startup)
  split
  · exact operationalText_tail
  · exact .nil

end Messages

end RS2ServerFix.Reporting
