import RS2ServerFix.NativeLog.Grammar
import RS2ServerFix.Recon.Patch

namespace RS2ServerFix.Marker

open NativeLog Recon

inductive BuildIdentity
  | pr1CrashFullDump | pr1StockBaseline | currentStock | currentFullDump | unknown | indeterminate
  deriving DecidableEq, Repr

/-- The word of an enumeration: one of its values, or none of them. -/
inductive Stored (α : Type)
  | known (value : α)
  | other (code : UInt32)
  deriving DecidableEq, Repr

def Stored.isKnown {α : Type} : Stored α → Bool
  | .known _ => true
  | .other _ => false

def kPr1CrashFullDump : Sha256Digest :=
  #v[0x15, 0x5e, 0xbc, 0x77, 0xd2, 0xfa, 0x57, 0x4f, 0x0a, 0x94, 0x70, 0x98, 0x39, 0xef, 0x1d, 0xf6,
    0xa3, 0xda, 0x82, 0xb2, 0x78, 0xc8, 0x46, 0xf1, 0x42, 0x23, 0x96, 0x7b, 0x05, 0x8c, 0x46, 0x22]

def kPr1StockBaseline : Sha256Digest :=
  #v[0x58, 0x20, 0xf0, 0xda, 0x82, 0xd7, 0xc2, 0x90, 0x3d, 0xe3, 0x1e, 0x08, 0x65, 0x32, 0x0d, 0x9e,
    0x70, 0xa0, 0xbf, 0x74, 0xf7, 0x8f, 0x83, 0xc8, 0x3d, 0xb4, 0xf9, 0xde, 0xea, 0xeb, 0x1d, 0xef]

def kCurrentStock : Sha256Digest :=
  #v[0xf4, 0xe3, 0x85, 0x10, 0x83, 0x2d, 0x1f, 0xaa, 0xda, 0x8a, 0xad, 0x3b, 0x88, 0xcd, 0x22, 0x55,
    0xb3, 0xea, 0x49, 0x26, 0x7e, 0xf0, 0xe8, 0x74, 0x46, 0x8e, 0x23, 0xbd, 0xe4, 0xed, 0xfc, 0xc3]

def kCurrentFullDump : Sha256Digest :=
  #v[0x0d, 0x8f, 0x32, 0x22, 0xad, 0x79, 0x6b, 0x02, 0x4f, 0xb5, 0x25, 0x11, 0x86, 0x58, 0xbb, 0x1c,
    0xe9, 0x46, 0xe4, 0x35, 0x7e, 0x35, 0xba, 0x6e, 0x5e, 0xcd, 0x12, 0x78, 0x83, 0x75, 0x73, 0x93]

def classifyBuild (digest : Sha256Digest) (digestValid : Bool) : BuildIdentity :=
  if !digestValid then .indeterminate
  else if digest = kPr1CrashFullDump then .pr1CrashFullDump
  else if digest = kPr1StockBaseline then .pr1StockBaseline
  else if digest = kCurrentStock then .currentStock
  else if digest = kCurrentFullDump then .currentFullDump
  else .unknown

def buildIdentityName : Stored BuildIdentity → String
  | .known .pr1CrashFullDump => "pr1-crash-full-dump"
  | .known .pr1StockBaseline => "pr1-stock-baseline"
  | .known .currentStock => "current-stock"
  | .known .currentFullDump => "current-full-dump"
  | .known .unknown => "unknown"
  | .known .indeterminate => "indeterminate"
  | .other _ => "indeterminate"

def reconModeName (mode : ReconMode) : String := if mode = .active then "active" else "passive"

def reconOutcomeName : Stored ReconOutcome → String
  | .known .passive => "passive"
  | .known .disabled => "disabled"
  | .known .active => "active"
  | .known .rolledBack => "rolled_back"
  | .known .fatal => "fatal"
  | .other _ => "disabled"

def fixReasonName : Stored FixReason → String
  | .known .none => "none"
  | .known .invalidContext => "invalid_context"
  | .known .startupRejected => "startup_rejected"
  | .known .unsupportedHost => "unsupported_host"
  | .known .hostOpenSharingViolation => "host_open_sharing_violation"
  | .known .hostOpenFailed => "host_open_failed"
  | .known .hostHashBudgetExceeded => "host_hash_budget_exceeded"
  | .known .hostIdentityChanged => "host_identity_changed"
  | .known .hostHashMismatch => "host_hash_mismatch"
  | .known .hostHashFailed => "host_hash_failed"
  | .known .codeUnreadable => "code_unreadable"
  | .known .functionMismatch => "function_mismatch"
  | .known .constantMismatch => "constant_mismatch"
  | .known .protectionMismatch => "protection_mismatch"
  | .known .preparedDigestMismatch => "prepared_digest_mismatch"
  | .known .protectFailed => "protect_failed"
  | .known .writeFailed => "write_failed"
  | .known .readbackFailed => "readback_failed"
  | .known .restoreFailed => "restore_failed"
  | .known .flushFailed => "flush_failed"
  | .known .rollbackFailed => "rollback_failed"
  | .other _ => "invalid_context"

structure SystemTime where
  year : UInt16
  month : UInt16
  dayOfWeek : UInt16
  day : UInt16
  hour : UInt16
  minute : UInt16
  second : UInt16
  milliseconds : UInt16
  deriving DecidableEq, Repr

structure MarkerRecon where
  outcome : Stored ReconOutcome
  reason : Stored FixReason
  error : UInt32
  qualified : Bool
  deriving DecidableEq, Repr

structure MarkerData where
  utc : SystemTime
  processId : UInt32
  executableSize : UInt64
  digest : Sha256Digest
  digestValid : Bool
  buildIdentity : Stored BuildIdentity
  genuineSystem32 : Bool
  genuineExportsMask : UInt32
  triggerKind : UInt32
  mode : ReconMode
  recon : MarkerRecon
  initializeResult : UInt32
  primaryWriteError : UInt32
  bootstrapBesideExecutable : Bool
  companionBesideExecutable : Bool
  complete : Bool
  executableLeaf : Vector UInt16 260
  deriving DecidableEq, Repr

def kGenuineInitializePresent : UInt32 := 1
def kGenuineCalculatePresent : UInt32 := 2
def kRequiredGenuineExports : UInt32 := 3
def kTriggerExeCrtInitialize : UInt32 := 1
def kInitOk : UInt32 := 0
def kInitMarkerWriteFailed : UInt32 := 4
def errorSuccess : UInt32 := 0

def markerStateAccepted (data : MarkerData) : Bool :=
  let supportedHost := data.buildIdentity = .known .currentFullDump &&
    classifyBuild data.digest data.digestValid = .currentFullDump
  let outcomeMatches := (data.mode = .passive && data.recon.outcome = .known .passive) ||
    (data.mode = .active && data.recon.outcome = .known .active)
  data.complete && data.digestValid && supportedHost && data.bootstrapBesideExecutable &&
    data.companionBesideExecutable && data.genuineSystem32 && data.genuineExportsMask = kRequiredGenuineExports &&
    data.triggerKind = kTriggerExeCrtInitialize && data.recon.qualified && outcomeMatches &&
    data.recon.reason = .known .none && data.recon.error = errorSuccess && data.initializeResult = kInitOk

def laterByte (point : UInt32) : UInt8 := (0x80 : UInt8) ||| (point &&& 0x3f).toUInt8

def leadByte (mark : UInt8) (point : UInt32) : UInt8 := mark ||| point.toUInt8

def utf8OfWide : List UInt16 → Option (List UInt8)
  | [] => some []
  | c :: rest =>
      let point := c.toUInt32
      if c < 0x80 then (utf8OfWide rest).map ([c.toUInt8] ++ ·)
      else if c < 0x800 then (utf8OfWide rest).map ([leadByte 0xc0 (point >>> 6), laterByte point] ++ ·)
      else if c < 0xd800 ∨ 0xe000 ≤ c then
        (utf8OfWide rest).map ([leadByte 0xe0 (point >>> 12), laterByte (point >>> 6), laterByte point] ++ ·)
      else
        match rest with
        | [] => none
        | d :: rest =>
            if c < 0xdc00 ∧ 0xdc00 ≤ d ∧ d < 0xe000 then
              let point := (0x10000 : UInt32) + ((point - 0xd800) <<< 10) + (d.toUInt32 - 0xdc00)
              (utf8OfWide rest).map ([leadByte 0xf0 (point >>> 18), laterByte (point >>> 12), laterByte (point >>> 6),
                laterByte point] ++ ·)
            else none

def wide (s : String) : List UInt16 := s.toList.map fun c => c.toNat.toUInt16

def wideText (buffer : List UInt16) : List UInt16 := buffer.takeWhile (· ≠ 0)

def leafCharacter (c : UInt16) : Bool := !(c < 32 || c = 127 || c = 92 || c = 47 || c = 58 || c = 61)

def convertLeafName (input : Vector UInt16 260) (capacity : Nat) : Option (List UInt8) :=
  let text := wideText input.toList
  if text = [] ∨ 260 ≤ text.length then none
  else if text = wide "." ∨ text = wide ".." then none
  else if !text.all leafCharacter then none
  else (utf8OfWide text).filter fun bytes => bytes.length < capacity

def leapYear (year : Nat) : Bool := year % 4 = 0 && (year % 100 ≠ 0 || year % 400 = 0)

def daysInMonth (year month : Nat) : Nat :=
  if month = 2 then (if leapYear year then 29 else 28)
  else if month = 4 ∨ month = 6 ∨ month = 9 ∨ month = 11 then 30
  else 31

/-- Whether the time is one that the system can convert. The day of the week is
not looked at. -/
def systemTimeToFileTime (t : SystemTime) : Bool :=
  1601 ≤ t.year.toNat && t.year.toNat ≤ 30827 && 1 ≤ t.month.toNat && t.month.toNat ≤ 12 && 1 ≤ t.day.toNat &&
    t.day.toNat ≤ daysInMonth t.year.toNat t.month.toNat && t.hour.toNat < 24 && t.minute.toNat < 60 &&
    t.second.toNat < 60 && t.milliseconds.toNat < 1000

def timestampOf (t : SystemTime) : List UInt8 :=
  zeroPadded 4 t.year.toNat ++ ascii "-" ++ zeroPadded 2 t.month.toNat ++ ascii "-" ++ zeroPadded 2 t.day.toNat ++
    ascii "T" ++ zeroPadded 2 t.hour.toNat ++ ascii ":" ++ zeroPadded 2 t.minute.toNat ++ ascii ":" ++
    zeroPadded 2 t.second.toNat ++ ascii "." ++ zeroPadded 3 t.milliseconds.toNat ++ ascii "Z"

/-- The bounded output of the source: nothing is appended once a piece did not
fit with its terminator. -/
structure BufferWriter where
  text : List UInt8
  capacity : Nat
  valid : Bool
  deriving DecidableEq, Repr

namespace BufferWriter

def start (capacity : Nat) : BufferWriter := ⟨[], capacity, decide (capacity ≠ 0)⟩

def append (w : BufferWriter) (text : List UInt8) : BufferWriter :=
  if !w.valid ∨ w.capacity - w.text.length - 1 < text.length then { w with valid := false }
  else { w with text := w.text ++ text }

def appendField (w : BufferWriter) (field : List UInt8 × List UInt8) : BufferWriter :=
  (((w.append field.1).append (ascii "=")).append field.2).append (ascii "\r\n")

end BufferWriter

def booleanName (value : Bool) : List UInt8 := if value then ascii "true" else ascii "false"

def decimal (n : Nat) : List UInt8 := zeroPadded 1 n

def upperHexDigit (v : UInt8) : UInt8 := if v < 10 then 48 + v else 55 + v

def digestText (data : MarkerData) : List UInt8 :=
  if !data.digestValid then ascii "unavailable"
  else data.digest.toList.flatMap fun v : UInt8 => [upperHexDigit (v >>> 4), upperHexDigit (v &&& 15)]

def identityFields (data : MarkerData) (leafName timestamp : List UInt8) : List (List UInt8 × List UInt8) :=
  [ (ascii "schema", ascii "3"),
    (ascii "version", ascii "0.2.0.0"),
    (ascii "utc", timestamp),
    (ascii "pid", decimal data.processId.toNat),
    (ascii "executable", leafName),
    (ascii "executable_size", decimal data.executableSize.toNat),
    (ascii "sha256", digestText data),
    (ascii "build_identity", ascii (buildIdentityName data.buildIdentity)),
    (ascii "bootstrap", ascii "X3DAudio1_7.dll"),
    (ascii "bootstrap_beside_executable", booleanName data.bootstrapBesideExecutable),
    (ascii "companion", ascii "RS2ServerFix.dll"),
    (ascii "companion_beside_executable", booleanName data.companionBesideExecutable),
    (ascii "genuine_module", if data.genuineSystem32 then ascii "system32" else ascii "unavailable"),
    (ascii "genuine_initialize_present", booleanName (data.genuineExportsMask &&& kGenuineInitializePresent ≠ 0)),
    (ascii "genuine_calculate_present", booleanName (data.genuineExportsMask &&& kGenuineCalculatePresent ≠ 0)),
    (ascii "trigger",
      if data.triggerKind = kTriggerExeCrtInitialize then ascii "exe-crt-initialize" else ascii "unavailable"),
    (ascii "mode", ascii (reconModeName data.mode)),
    (ascii "fix", ascii "recon-exclusive-scale-v1"),
    (ascii "qualification", if data.recon.qualified then ascii "ready" else ascii "rejected"),
    (ascii "recon", ascii (reconOutcomeName data.recon.outcome)),
    (ascii "reason", ascii (fixReasonName data.recon.reason)) ]

def markerFields (data : MarkerData) (leafName timestamp : List UInt8) : List (List UInt8 × List UInt8) :=
  identityFields data leafName timestamp ++
    [ (ascii "initialize_result", decimal data.initializeResult.toNat),
      (ascii "primary_write_error", decimal data.primaryWriteError.toNat),
      (ascii "completion", if data.complete then ascii "complete" else ascii "partial") ]

def markerShown (data : MarkerData) : Bool :=
  data.utc.year.toNat ≤ 9999 && systemTimeToFileTime data.utc && data.buildIdentity.isKnown &&
    (data.mode = .passive || data.mode = .active) && data.recon.outcome.isKnown && data.recon.reason.isKnown &&
    data.genuineExportsMask &&& ~~~kRequiredGenuineExports = 0 && data.triggerKind ≤ kTriggerExeCrtInitialize

def formatMarkerUtf8 (data : MarkerData) (capacity : Nat) : Option (List UInt8) :=
  if capacity = 0 then none
  else
    match convertLeafName data.executableLeaf 1024 with
    | none => none
    | some leafName =>
        if !markerShown data then none
        else
          let timestamp := timestampOf data.utc
          if timestamp.length = 0 ∨ 64 ≤ timestamp.length then none
          else
            let writer := (markerFields data leafName timestamp).foldl BufferWriter.appendField (.start capacity)
            if writer.valid then some writer.text else none

def markerLine (field : List UInt8 × List UInt8) : List UInt8 := field.1 ++ ascii "=" ++ field.2 ++ ascii "\r\n"

namespace BufferWriter

theorem append_valid {w : BufferWriter} {text : List UInt8} (h : (w.append text).valid = true) :
    w.valid = true ∧ (w.append text).text = w.text ++ text := by
  unfold append at h ⊢
  split at h
  · cases h
  · next hfits =>
    rw [if_neg hfits]
    rw [not_or] at hfits
    exact ⟨by simpa using hfits.1, rfl⟩

theorem appendField_valid {w : BufferWriter} {field : List UInt8 × List UInt8} (h : (w.appendField field).valid = true) :
    w.valid = true ∧ (w.appendField field).text = w.text ++ markerLine field := by
  obtain ⟨h, hend⟩ := append_valid h
  obtain ⟨h, hvalue⟩ := append_valid h
  obtain ⟨h, hsign⟩ := append_valid h
  obtain ⟨h, hname⟩ := append_valid h
  refine ⟨h, ?_⟩
  rw [appendField, hend, hvalue, hsign, hname]
  simp only [markerLine, List.append_assoc]

theorem appendFields_valid {fields : List (List UInt8 × List UInt8)} {w : BufferWriter}
    (h : (fields.foldl appendField w).valid = true) :
    w.valid = true ∧ (fields.foldl appendField w).text = w.text ++ fields.flatMap markerLine := by
  induction fields generalizing w with
  | nil => exact ⟨h, by simp⟩
  | cons field fields ih =>
      obtain ⟨hfirst, hrest⟩ := ih h
      obtain ⟨hw, hline⟩ := appendField_valid hfirst
      refine ⟨hw, ?_⟩
      rw [List.foldl_cons, hrest, hline, List.flatMap_cons, List.append_assoc]

end BufferWriter

/-- A formatted marker is the lines of its fields. -/
theorem formatMarkerUtf8_lines {data : MarkerData} {capacity : Nat} {text : List UInt8}
    (h : formatMarkerUtf8 data capacity = some text) : ∃ leafName, convertLeafName data.executableLeaf 1024 = some leafName ∧
      text = (markerFields data leafName (timestampOf data.utc)).flatMap markerLine := by
  unfold formatMarkerUtf8 at h
  split at h
  · cases h
  cases hleaf : convertLeafName data.executableLeaf 1024 with
  | none =>
      rw [hleaf] at h
      cases h
  | some leafName =>
      rw [hleaf] at h
      refine ⟨leafName, rfl, ?_⟩
      dsimp only at h
      by_cases hshown : (!markerShown data) = true
      · rw [if_pos hshown] at h
        cases h
      rw [if_neg hshown] at h
      by_cases hlength : (timestampOf data.utc).length = 0 ∨ 64 ≤ (timestampOf data.utc).length
      · rw [if_pos hlength] at h
        cases h
      rw [if_neg hlength] at h
      by_cases hvalid : ((markerFields data leafName (timestampOf data.utc)).foldl BufferWriter.appendField
          (.start capacity)).valid = true
      · obtain ⟨-, htext⟩ := BufferWriter.appendFields_valid hvalid
        rw [if_pos hvalid, Option.some.injEq] at h
        rw [← h, htext]
        rfl
      · rw [if_neg hvalid] at h
        cases h

def HasLine (text name value : List UInt8) : Prop :=
  ∃ before after : List (List UInt8 × List UInt8),
    text = before.flatMap markerLine ++ markerLine (name, value) ++ after.flatMap markerLine

theorem HasLine.of_mem {fields : List (List UInt8 × List UInt8)} {name value : List UInt8} (h : (name, value) ∈ fields) :
    HasLine (fields.flatMap markerLine) name value := by
  obtain ⟨before, after, rfl⟩ := List.append_of_mem h
  exact ⟨before, after, by simp⟩

/-- What a formatted marker says on how it came to be written. -/
theorem formatMarkerUtf8_says {data : MarkerData} {capacity : Nat} {text : List UInt8}
    (h : formatMarkerUtf8 data capacity = some text) :
    HasLine text (ascii "initialize_result") (decimal data.initializeResult.toNat) ∧
      HasLine text (ascii "primary_write_error") (decimal data.primaryWriteError.toNat) := by
  obtain ⟨leafName, -, rfl⟩ := formatMarkerUtf8_lines h
  exact ⟨.of_mem (List.mem_append_right _ (by simp)), .of_mem (List.mem_append_right _ (by simp))⟩

end RS2ServerFix.Marker
