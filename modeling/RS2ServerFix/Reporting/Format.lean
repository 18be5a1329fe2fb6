import RS2ServerFix.NativeLog.Framing
import RS2ServerFix.Reporting.Records

namespace RS2ServerFix.Reporting

open NativeLog

abbrev Sha256Digest := Vector UInt8 32

inductive Diagnostics
  | invalid
  | normal
  | detailed
  | operational
  deriving DecidableEq, Repr

structure ConfigV3 where
  mode : Mode
  diagnostics : Diagnostics
  deriving DecidableEq, Repr

def kStatusMagic : UInt64 := 0x3154505232535255
def kStatusSchemaV3 : UInt32 := 3
def kReportingArtifactVersionV3 : UInt32 := 0x00070100
def kStatusWireBytes : UInt32 := 3896
def completeHeaderIdentity : UInt32 := 31

structure StatusHeader where
  magic : UInt64
  schema : UInt32
  bytes : UInt32
  artifactVersion : UInt32
  configuredMode : UInt32
  pid : UInt32
  validity : UInt32
  processCreation : UInt64
  qpcFrequency : UInt64
  runId : Vector UInt8 16
  hostDigest : Sha256Digest
  deriving DecidableEq, Repr

structure LogIdentity where
  volumeSerial : UInt64
  fileId : Vector UInt8 16
  initialEOF : UInt64
  pathChars : UInt64
  prefixMode : UInt64
  transportKind : UInt64
  durability : UInt64
  utcFiletime : UInt64
  calibrationQpcBefore : UInt64
  calibrationQpcAfter : UInt64
  initialAtLineBoundary : UInt64
  path : Vector UInt16 1024
  deriving DecidableEq, Repr

structure ReportingIdentities where
  hostDigest : Sha256Digest
  steamApiDigest : Sha256Digest
  steamClientDigest : Sha256Digest
  deriving DecidableEq, Repr

structure NativeStartupSummary where
  buildIdentity : UInt32
  reconMode : UInt32
  reconOutcome : UInt32
  reconReason : UInt32
  reconQualified : UInt32
  initializeResult : UInt32
  markerComplete : UInt32
  markerError : UInt32
  startupAccepted : UInt32
  deriving DecidableEq, Repr

structure NativeFormatContext where
  header : StatusHeader
  log : LogIdentity
  config : ConfigV3
  identities : ReportingIdentities
  startup : NativeStartupSummary
  deriving DecidableEq, Repr

def Mode.value (m : Mode) : UInt32 := m.ctorIdx.toUInt32

def Mode.name : Mode → String
  | .disabled => "disabled"
  | .observe => "observe"
  | .repair => "repair"
  | .invalid => "invalid"

def Diagnostics.name : Diagnostics → String
  | .normal => "normal"
  | .detailed => "detailed"
  | .operational => "operational"
  | .invalid => "invalid"

/-- The bounded output of the source: nothing is appended once a piece did not
fit with its terminator. -/
structure Json where
  out : List UInt8
  capacity : Nat
  good : Bool
  deriving DecidableEq, Repr

namespace Json

def start (capacity : Nat) : Json := ⟨[], min capacity (kMessageLimit + 1), decide (capacity ≠ 0)⟩

def append (j : Json) (text : List UInt8) : Json :=
  if !j.good then j
  else if j.capacity - j.out.length ≤ text.length then { j with good := false }
  else { j with out := j.out ++ text }

def path (j : Json) (text : List UInt16) : Json :=
  if !j.good then j
  else
    match escapeJsonUtf16 text (j.capacity - j.out.length) with
    | none => { j with good := false }
    | some escaped => { j with out := j.out ++ escaped }

def finish (j : Json) : Option (List UInt8) :=
  let j := j.append (ascii "\x7d")
  if j.good && j.out.all printable then some j.out else none

end Json

def digits : Nat → Nat → List UInt8
  | 0, _ => []
  | places + 1, n => if n < 10 then [48 + n.toUInt8] else digits places (n / 10) ++ [48 + (n % 10).toUInt8]

def decimal (n : Nat) : List UInt8 := digits 20 n

def quoted (s : List UInt8) : List UInt8 := ascii "\"" ++ s ++ ascii "\""

def member (name : String) (value : List UInt8) : List UInt8 := ascii ",\"" ++ ascii name ++ ascii "\":" ++ value

def contextValid (c : NativeFormatContext) : Bool :=
  c.header.magic = kStatusMagic && c.header.schema = kStatusSchemaV3 && c.header.bytes = kStatusWireBytes &&
    c.header.artifactVersion = kReportingArtifactVersionV3 && c.header.validity = completeHeaderIdentity &&
    c.header.pid ≠ 0 && c.header.processCreation ≠ 0 && c.header.qpcFrequency ≠ 0 &&
    c.header.configuredMode = c.config.mode.value && c.config.mode ≠ .invalid &&
    c.config.diagnostics ≠ .invalid && 0 < c.log.pathChars && c.log.pathChars < 1024 &&
    c.log.path[c.log.pathChars.toNat]? = some 0 && c.log.prefixMode ≤ 1 && c.log.transportKind = 1 &&
    c.log.durability = 0 && c.log.initialAtLineBoundary ≤ 1 && c.header.hostDigest = c.identities.hostDigest

def calibrationMidpoint (log : LogIdentity) : Nat :=
  log.calibrationQpcBefore.toNat + (log.calibrationQpcAfter.toNat - log.calibrationQpcBefore.toNat) / 2

def deriveUtcFiletime (log : LogIdentity) (frequency sourceQpc : Nat) : Option Nat :=
  let perSecond := 10000000
  if frequency = 0 ∨ sourceQpc = 0 ∨ log.utcFiletime = 0 ∨ log.calibrationQpcBefore = 0 ∨
      log.calibrationQpcAfter < log.calibrationQpcBefore then none
  else
    let midpoint := calibrationMidpoint log
    let delta := if midpoint ≤ sourceQpc then sourceQpc - midpoint else midpoint - sourceQpc
    let seconds := delta / frequency
    if uint64Max / perSecond < seconds then none
    else
      -- The product of the remainder is a 128-bit one in the source.
      let fraction := delta % frequency * perSecond / frequency
      if uint64Max - seconds * perSecond < fraction then none
      else
        let ticks := seconds * perSecond + fraction
        if midpoint ≤ sourceQpc then
          if uint64Max - log.utcFiletime.toNat < ticks then none else some (log.utcFiletime.toNat + ticks)
        else if log.utcFiletime.toNat ≤ ticks then none
        else some (log.utcFiletime.toNat - ticks)

def envelope (c : NativeFormatContext) (type : String) (sequence qpc utc : Nat) : List UInt8 :=
  kMarker ++ (ascii "\x7b\"schema\":3,\"type\":\"" ++ (ascii type ++ (ascii "\",\"run_id\":\"" ++
    (hex c.header.runId.toList ++ (ascii "\"" ++ (member "pid" (decimal c.header.pid.toNat) ++
      member "sequence" (decimal sequence) ++ member "qpc" (decimal qpc) ++
      member "utc_derived_filetime" (decimal utc)))))))

def begin_ (c : NativeFormatContext) (j : Json) (type : String) (sequence qpc : Nat) : Option Json :=
  if !contextValid c then none
  else (deriveUtcFiletime c.log c.header.qpcFrequency.toNat qpc).map fun utc =>
    j.append (envelope c type sequence qpc utc)

def anchorIntervalSeconds : Diagnostics → Nat
  | .operational => 60
  | .detailed => 1
  | _ => 10

def bootstrapText (c : NativeFormatContext) : List UInt8 :=
  ascii ",\"artifact\":\"RS2ServerFix-steam-reporting\",\"version\":\"0.7.1.0\"" ++
    member "artifact_version" (decimal c.header.artifactVersion.toNat) ++
    member "process_start_filetime" (decimal c.header.processCreation.toNat) ++
    member "qpc_frequency" (decimal c.header.qpcFrequency.toNat) ++
    member "mode" (quoted (ascii c.config.mode.name)) ++
    member "configured_mode" (decimal c.header.configuredMode.toNat) ++
    member "header_validity" (decimal c.header.validity.toNat) ++
    member "diagnostics" (quoted (ascii c.config.diagnostics.name)) ++
    member "anchor_interval_seconds" (decimal (anchorIntervalSeconds c.config.diagnostics)) ++
    member "host_sha256" (quoted (hex c.header.hostDigest.toList)) ++
    member "qualified_steam_api_sha256" (quoted (hex c.identities.steamApiDigest.toList)) ++
    member "qualified_steamclient_sha256" (quoted (hex c.identities.steamClientDigest.toList)) ++
    ascii ",\"transport\":\"native\",\"durability\":\"unknown\",\"utc_kind\":\"derived\"" ++
    member "utc_calibration_filetime" (decimal c.log.utcFiletime.toNat) ++
    member "calibration_qpc_before" (decimal c.log.calibrationQpcBefore.toNat) ++
    member "calibration_qpc_after" (decimal c.log.calibrationQpcAfter.toNat) ++
    member "volume_serial" (decimal c.log.volumeSerial.toNat) ++
    member "file_id" (quoted (hex c.log.fileId.toList)) ++
    member "initial_eof" (decimal c.log.initialEOF.toNat) ++
    member "initial_at_line_boundary" (decimal c.log.initialAtLineBoundary.toNat) ++
    member "prefix_mode" (decimal c.log.prefixMode.toNat) ++
    ascii ",\"record_bytes\":256,\"ring_capacity\":256,\"batch_limit\":32" ++
    ascii ",\"ledger_capacity\":256,\"ready_capacity\":8,\"message_limit\":8192" ++
    ascii ",\"native_service_hz\":4,\"native_frames_per_opportunity\":2" ++
    ascii ",\"native_frames_per_second\":8,\"request_floor_seconds\":20,\"prepared_counts_schema\":1" ++
    ascii ",\"prepared_dirty_schema\":1,\"recovery_origin_schema\":1" ++
    ascii ",\"authentication_changed\":false,\"native_counting_preserved\":true" ++
    ascii ",\"termination_may_lose_tail\":true,\"log_path\":"

def operationalText : List UInt8 :=
  ascii ",\"operational_fields_schema\":1,\"qualification_evidence\":false" ++
    ascii ",\"recovery_detail_post_terminal_pairs\":4,\"recovery_detail_deadline_fallback\":true"

def startupText (s : NativeStartupSummary) : List UInt8 :=
  ascii ",\"startup\":\x7b\"build_identity\":" ++ decimal s.buildIdentity.toNat ++
    member "recon_mode" (decimal s.reconMode.toNat) ++ member "recon_outcome" (decimal s.reconOutcome.toNat) ++
    member "recon_reason" (decimal s.reconReason.toNat) ++ member "recon_qualified" (decimal s.reconQualified.toNat) ++
    member "initialize_result" (decimal s.initializeResult.toNat) ++
    member "marker_complete" (decimal s.markerComplete.toNat) ++ member "marker_error" (decimal s.markerError.toNat) ++
    member "startup_accepted" (decimal s.startupAccepted.toNat) ++ ascii "\x7d"

def formatNativeBootstrap (c : NativeFormatContext) (capacity : Nat) : Option (List UInt8) :=
  if capacity = 0 ∨ c.log.calibrationQpcAfter < c.log.calibrationQpcBefore then none
  else do
    let j ← begin_ c (.start capacity) "startup" 0 (calibrationMidpoint c.log)
    let j := (j.append (bootstrapText c)).path (c.log.path.toList.take c.log.pathChars.toNat)
    let j := if c.config.diagnostics = .operational then j.append operationalText else j
    (j.append (startupText c.startup)).finish

def prepareNativeBootstrap (c : NativeFormatContext) (capacity wideCapacity : Nat) :
    Option (List UInt8 × List UInt16) := do
  let text ← formatNativeBootstrap c capacity
  let wide ← prepareMessage text wideCapacity
  pure (text, wide)

def RecordKindV3.type : RecordKindV3 → String
  | .state => "state"
  | .request => "request"
  | .witness => "witness"
  | .builderEnter => "builder-enter"
  | .builderReturn => "builder-return"
  | .builderUnwind => "builder-unwind"
  | .anchor => "anchor"
  | .transportSummary => "transport-summary"
  | .control => "control"
  | .recovery => "recovery"

def RecordKindV3.compact : RecordKindV3 → Bool
  | .state | .builderEnter | .builderReturn | .builderUnwind | .anchor | .transportSummary => true
  | _ => false

def headerText (h : ReportHeader) : List UInt8 :=
  member "source_epoch" (decimal h.sourceEpoch.toNat) ++ member "binding_epoch" (decimal h.bindingEpoch.toNat) ++
    member "kind" (decimal h.kind.toNat) ++ member "reason" (decimal h.reason.toNat) ++
    member "flags" (decimal h.flags.toNat) ++ member "thread_id" (decimal h.threadId.toNat)

abbrev Scalars := List (String × Nat)

def compactScalars (a : ReportPayloadV3) : RecordKindV3 → Scalars
  | .state =>
      let p := a.state
      [("phase", p.phase.toNat), ("mode", p.mode.toNat), ("bound", p.bound.toNat), ("pi", p.pi.toNat),
        ("bots", p.bots.toNat), ("maximum", p.maximum.toNat)]
  | .anchor =>
      let p := a.anchor
      [("normal_attempts", p.normalAttempts.toNat), ("normal_returns", p.normalReturns.toNat),
        ("native_unwinds", p.nativeUnwinds.toNat), ("build_sequence", p.buildSequence.toNat)]
  | .transportSummary =>
      let p := a.transport
      [("transport_state", p.transportState.toNat), ("transport_reason", p.transportReason.toNat),
        ("generated_sequence", p.generatedSequence.toNat), ("submitted_sequence", p.submittedSequence.toNat),
        ("observed_sequence", p.observedSequence.toNat)]
  | _ =>
      let p := a.builder
      [("build_sequence", p.buildSequence.toNat), ("pi", p.pi.toNat), ("bots", p.bots.toNat),
        ("maximum", p.maximum.toNat), ("classification", p.classification.toNat), ("selected", p.selected.toNat),
        ("result", p.result.toNat), ("prepared_valid", p.preparedValid.toNat)] ++
      if p.preparedValid = 1 then [("prepared_mismatch_mask", p.preparedMismatchMask.toNat)] else []

def stateScalars (p : ReportStatePayload) : Scalars :=
  [("phase", p.phase.toNat), ("request_sequence", p.requestSequence.toNat),
    ("witness_sequence", p.witnessSequence.toNat), ("build_sequence", p.buildSequence.toNat),
    ("pending_since_qpc", p.pendingSinceQpc.toNat), ("fresh_since_qpc", p.freshSinceQpc.toNat),
    ("qualification_flags", p.qualificationFlags.toNat), ("native_task_state", p.nativeTaskState.toNat),
    ("client_qualification_ms", p.clientQualificationMs.toNat),
    ("native_schedule_valid", p.nativeScheduleValid.toNat),
    ("native_schedule_anchor_bits", p.nativeScheduleAnchorBits.toNat),
    ("native_errors_bits", p.nativeErrorsBits.toNat), ("native_throttles_bits", p.nativeThrottlesBits.toNat),
    ("native_expedite", p.nativeExpedite.toNat), ("native_retry_limit", p.nativeRetryLimit.toNat),
    ("native_interval_units", p.nativeIntervalUnits.toNat),
    ("native_interval_override_bits", p.nativeIntervalOverrideBits.toNat),
    ("native_retry_override_bits", p.nativeRetryOverrideBits.toNat),
    ("native_delay_units", p.nativeDelayUnits.toNat), ("native_tier", p.nativeTier.toNat),
    ("mode", p.mode.toNat), ("classification", p.classification.toNat), ("pi", p.pi.toNat),
    ("bots", p.bots.toNat), ("maximum", p.maximum.toNat), ("pending", p.pending.toNat),
    ("fresh", p.fresh.toNat), ("bound", p.bound.toNat)]

def requestScalars (p : ReportRequestPayload) : Scalars :=
  [("request_sequence", p.requestSequence.toNat), ("witness_sequence", p.witnessSequence.toNat),
    ("staged_qpc", p.stagedQpc.toNat), ("previous_sample_qpc", p.previousSampleQpc.toNat),
    ("observed_qpc", p.observedQpc.toNat), ("fresh_since_qpc", p.freshSinceQpc.toNat),
    ("source_age_ticks", p.sourceAgeTicks.toNat), ("pi", p.pi.toNat), ("bots", p.bots.toNat),
    ("maximum", p.maximum.toNat), ("staged_bots", p.stagedBots.toNat), ("human_players", p.humanPlayers.toNat),
    ("world_bots", p.worldBots.toNat), ("classification", p.classification.toNat), ("pending", p.pending.toNat)]

def builderScalars (p : ReportBuilderPayload) : Scalars :=
  [("build_sequence", p.buildSequence.toNat), ("request_sequence", p.requestSequence.toNat),
    ("witness_sequence", p.witnessSequence.toNat), ("source_age_ticks", p.sourceAgeTicks.toNat),
    ("probe_elapsed_ticks", p.probeElapsedTicks.toNat),
    ("classification_elapsed_ticks", p.classificationElapsedTicks.toNat),
    ("original_elapsed_ticks", p.originalElapsedTicks.toNat), ("entry_qpc", p.entryQpc.toNat),
    ("return_qpc", p.returnQpc.toNat), ("pi", p.pi.toNat), ("bots", p.bots.toNat),
    ("maximum", p.maximum.toNat), ("classification", p.classification.toNat), ("selected", p.selected.toNat),
    ("result", p.result.toNat), ("pending", p.pending.toNat), ("fresh", p.fresh.toNat),
    ("prepared_valid", p.preparedValid.toNat)] ++
  (if p.preparedValid = 1 then
    [("prepared_mismatch_mask", p.preparedMismatchMask.toNat), ("prepared_maximum", p.preparedMaximum.toNat),
      ("prepared_members", p.preparedMembers.toNat), ("prepared_pi", p.preparedPi.toNat),
      ("prepared_bots", p.preparedBots.toNat), ("prepared_json_maximum", p.preparedJsonMaximum.toNat),
      ("prepared_json_bytes", p.preparedJsonBytes.toNat)]
  else []) ++ [("prepared_dirty_valid", p.preparedDirtyValid.toNat)] ++
  if p.preparedDirtyValid = 1 then [("prepared_dirty_at_entry", p.preparedDirtyAtEntry.toNat)] else []

def anchorScalars (p : ReportAnchorPayload) : Scalars :=
  [("normal_attempts", p.normalAttempts.toNat), ("full_selected", p.fullSelected.toNat),
    ("selected_true", p.selectedTrue.toNat), ("normal_returns", p.normalReturns.toNat),
    ("false_returns", p.falseReturns.toNat), ("native_unwinds", p.nativeUnwinds.toNat),
    ("request_sequence", p.requestSequence.toNat), ("witness_sequence", p.witnessSequence.toNat),
    ("build_sequence", p.buildSequence.toNat),
    ("distinct_selected_witnesses", p.distinctSelectedWitnesses.toNat)]

def durationText (i : Nat) (d : ReportDurationSummary) : List UInt8 :=
  (if i = 0 then [] else ascii ",") ++ ascii "\x7b\"class\":" ++ decimal i ++
    member "calls" (decimal d.calls.toNat) ++ member "elapsed_ticks" (decimal d.elapsedTicks.toNat) ++
    member "maximum_ticks" (decimal d.maximumTicks.toNat) ++
    member "over_five_milliseconds" (decimal d.overFiveMilliseconds.toNat) ++ ascii "\x7d"

def transportScalars (p : ReportTransportSummaryPayload) : Scalars :=
  [("anchor_sequence", p.anchorSequence.toNat), ("native_submit_calls", p.nativeSubmitCalls.toNat),
    ("native_submit_elapsed_ticks", p.nativeSubmitElapsedTicks.toNat),
    ("native_submit_maximum_ticks", p.nativeSubmitMaximumTicks.toNat),
    ("native_submit_over_five_milliseconds", p.nativeSubmitOverFiveMilliseconds.toNat),
    ("forwarded_pump_without_capture", p.forwardedPumpWithoutCapture.toNat),
    ("forwarded_builder_without_capture", p.forwardedBuilderWithoutCapture.toNat),
    ("transport_state", p.transportState.toNat), ("transport_reason", p.transportReason.toNat),
    ("pause_epoch", p.pauseEpoch.toNat), ("pause_boundary_sequence", p.pauseBoundarySequence.toNat),
    ("submitted_sequence", p.submittedSequence.toNat), ("observed_sequence", p.observedSequence.toNat),
    ("timing_accounted_through_qpc", p.timingAccountedThroughQpc.toNat),
    ("generated_sequence", p.generatedSequence.toNat)]

def controlScalars (p : ReportControlPayload) : Scalars :=
  [("event", p.event.toNat), ("transport_state", p.transportState.toNat),
    ("transport_reason", p.transportReason.toNat), ("pause_epoch", p.pauseEpoch.toNat),
    ("pause_boundary_sequence", p.pauseBoundarySequence.toNat),
    ("abandoned_pending_request", p.abandonedPendingRequest.toNat),
    ("abandoned_witness", p.abandonedWitness.toNat), ("last_request_qpc", p.lastRequestQpc.toNat),
    ("generated_before", p.generatedBefore.toNat), ("submitted_before", p.submittedBefore.toNat),
    ("observed_before", p.observedBefore.toNat),
    ("forwarded_pump_without_capture", p.forwardedPumpWithoutCapture.toNat),
    ("forwarded_builder_without_capture", p.forwardedBuilderWithoutCapture.toNat),
    ("timing_accounted_through_qpc", p.timingAccountedThroughQpc.toNat)]

def recoveryOrigin (p : ReportRecoveryPayload) : Nat :=
  if p.operationSequence = 0 then 0 else if p.flagged RecoveryFlags.consoleRequested then 2 else 1

def recoveryScalars (p : ReportRecoveryPayload) : Scalars :=
  [("recovery_phase", p.phase.toNat), ("recovery_event", p.event.toNat), ("recovery_reason", p.reason.toNat),
    ("recovery_outcome", p.outcome.toNat), ("recovery_flags", p.flags.toNat),
    ("recovery_request_origin", recoveryOrigin p),
    ("recovery_operation_sequence", p.operationSequence.toNat),
    ("recovery_transition_sequence", p.transitionSequence.toNat), ("recovery_qpc", p.qpc.toNat),
    ("recovery_source_epoch", p.sourceEpoch.toNat), ("recovery_sdk_epoch", p.sdkEpoch.toNat),
    ("recovery_owner_thread_id", p.ownerThreadId.toNat), ("recovery_resource_phase", p.resourcePhase.toNat),
    ("recovery_native_stage", p.nativeStage.toNat), ("recovery_exception_code", p.exceptionCode.toNat),
    ("recovery_request_id", p.requestId.toNat), ("recovery_callback_id", p.callbackId.toNat),
    ("recovery_callback_result", p.callbackResult.toNat), ("recovery_api_returned_id", p.apiReturnedId.toNat),
    ("recovery_old_sdk_fingerprint", p.oldSdkFingerprint.toNat),
    ("recovery_new_sdk_fingerprint", p.newSdkFingerprint.toNat),
    ("recovery_old_cache_fingerprint", p.oldCacheFingerprint.toNat),
    ("recovery_new_cache_fingerprint", p.newCacheFingerprint.toNat),
    ("recovery_finish_deadline_qpc", p.finishDeadlineQpc.toNat),
    ("recovery_overall_deadline_qpc", p.overallDeadlineQpc.toNat),
    ("recovery_record_sequence", p.recordSequence.toNat),
    ("recovery_callback_own_ticks", p.callbackOwnTicks.toNat)]

def scalarTexts (pairs : Scalars) : List (List UInt8) := pairs.map fun p => member p.1 (decimal p.2)

def payloadTexts (a : ReportPayloadV3) : RecordKindV3 → List (List UInt8)
  | .state => scalarTexts (stateScalars a.state)
  | .request | .witness => scalarTexts (requestScalars a.request)
  | .builderEnter | .builderReturn | .builderUnwind => scalarTexts (builderScalars a.builder)
  | .anchor =>
      scalarTexts (anchorScalars a.anchor) ++ [ascii ",\"durations\":["] ++
        a.anchor.durations.toList.mapIdx durationText ++ [ascii "]"]
  | .transportSummary => scalarTexts (transportScalars a.transport)
  | .control => scalarTexts (controlScalars a.control)
  | .recovery => scalarTexts (recoveryScalars a.recovery)

def detailText (compact : Bool) : List UInt8 :=
  member "detail" (quoted (ascii (if compact then "operational" else "full")))

def recordTexts (diagnostics : Diagnostics) (r : ReportRecordV3) (kind : RecordKindV3) (recoveryDetail : Bool) :
    List (List UInt8) :=
  headerText r.header ::
    if diagnostics = .operational then
      if !recoveryDetail && kind.compact then detailText true :: scalarTexts (compactScalars r.payload kind)
      else detailText false :: payloadTexts r.payload kind
    else payloadTexts r.payload kind

def formatNativeRecord (c : NativeFormatContext) (r : ReportRecordV3) (capacity : Nat) (recoveryDetail : Bool) :
    Option (List UInt8) :=
  if capacity = 0 ∨ r.header.sequence = 0 then none
  else do
    let kind ← RecordKindV3.ofCode r.header.kind
    if kind = .recovery ∧ !validRecovery r then none
    else
      let j ← begin_ c (.start capacity) kind.type r.header.sequence.toNat r.header.qpc.toNat
      ((recordTexts c.config.diagnostics r kind recoveryDetail).foldl Json.append j).finish

end RS2ServerFix.Reporting
