import RS2ServerFix.Image.Startup

namespace RS2ServerFix.Recon

open Lib Image
open RS2ServerFix.Task (MemoryRegion pageReadOnly field)

inductive ReconMode
  | passive | active | unknown (code : UInt32)
  deriving DecidableEq, Repr

inductive ReconOutcome
  | passive | disabled | active | rolledBack | fatal
  deriving DecidableEq, Repr

inductive FixReason
  | none | invalidContext | startupRejected | unsupportedHost | hostOpenSharingViolation | hostOpenFailed
  | hostHashBudgetExceeded | hostIdentityChanged | hostHashMismatch | hostHashFailed | codeUnreadable | functionMismatch
  | constantMismatch | protectionMismatch | preparedDigestMismatch | protectFailed | writeFailed | readbackFailed
  | restoreFailed | flushFailed | rollbackFailed
  deriving DecidableEq, Repr

structure ReconResult where
  outcome : ReconOutcome
  reason : FixReason
  error : UInt32
  qualified : Bool
  deriving DecidableEq, Repr

abbrev Sha256Digest : Type := Vector UInt8 32

structure ReconProfile where
  functionRva : UInt32
  functionSize : UInt32
  loadRva : UInt32
  operandRva : UInt32
  constantRva : UInt32
  oldDisplacement : UInt32
  newDisplacement : UInt32
  originalWindow : Vector UInt8 12
  constantBytes : Vector UInt8 16
  hostDigest : Sha256Digest
  originalDigest : Sha256Digest
  correctedDigest : Sha256Digest
  deriving DecidableEq

structure ReconOps where
  query : Bool
  read : Bool
  protect : Bool
  writeDword : Bool
  flush : Bool
  validateHostIdentity : Bool
  deriving DecidableEq, Repr

inductive ReconQuestion
  | query (address : Nat)
  | read (address size : Nat)
  | protect (address size protection : Nat)
  | writeDword (address : Nat) (value : UInt32)
  | flush (address size : Nat)
  | validateHostIdentity
  | hash (bytes : List UInt8)
  | currentThread
  deriving DecidableEq

/-- Beside each answer stands the error that the operation leaves. -/
def ReconAnswer : ReconQuestion → Type
  | .query _ => Option MemoryRegion × UInt32
  | .read _ size => Option (Vector UInt8 size) × UInt32
  | .protect _ _ _ => (Bool × Nat) × UInt32
  | .writeDword _ _ | .flush _ _ => Bool × UInt32
  | .validateHostIdentity => FixReason × UInt32
  | .hash _ => Option Sha256Digest × UInt32
  | .currentThread => Nat

abbrev ReconTold (α : Type) := Told ReconQuestion ReconAnswer UInt32 α

def query (address : Nat) : ReconTold (Option MemoryRegion) := fun _ => .ask (.query address) .done

def read (address size : Nat) : ReconTold (Option (Vector UInt8 size)) := fun _ => .ask (.read address size) .done

def protect (address size protection : Nat) : ReconTold (Bool × Nat) := fun _ =>
  .ask (.protect address size protection) .done

def writeDword (address : Nat) (value : UInt32) : ReconTold Bool := fun _ => .ask (.writeDword address value) .done

def flush (address size : Nat) : ReconTold Bool := fun _ => .ask (.flush address size) .done

def validateHostIdentity : ReconTold FixReason := fun _ => .ask .validateHostIdentity .done

def hashBytesSha256 (bytes : List UInt8) : ReconTold (Option Sha256Digest) := fun _ => .ask (.hash bytes) .done

def getCurrentThreadId : ReconTold Nat := fun e => .ask .currentThread fun (thread : Nat) => .done (thread, e)

def ReconOps.memory (ops : ReconOps) : MemoryOps ReconQuestion ReconAnswer where
  query := if ops.query then some Recon.query else none
  read := if ops.read then some Recon.read else none

def kReconFunctionCapacity : Nat := 1024

def signed (n : UInt32) : Int := if n < 0x80000000 then n.toNat else (n.toNat : Int) - 2 ^ 32

def profileValid (profile : ReconProfile) (startup : StartupProfile) : Bool :=
  let last := profile.functionRva.toNat + profile.functionSize.toNat
  0 < profile.functionSize && profile.functionSize.toNat ≤ kReconFunctionCapacity && last ≤ startup.imageSize &&
    profile.constantRva.toNat + 16 ≤ startup.imageSize && profile.functionRva ≤ profile.loadRva &&
    profile.loadRva.toNat + 12 ≤ last && profile.operandRva = profile.loadRva + 4 && profile.operandRva.toNat % 4 = 0 &&
    (profile.loadRva.toNat : Int) + 8 + signed profile.newDisplacement = profile.constantRva.toNat

def dwordBytes (n : UInt32) : List UInt8 :=
  [n.toUInt8, (n >>> 8).toUInt8, (n >>> 16).toUInt8, (n >>> 24).toUInt8]

section Patch

variable (context : BootstrapContextV3) (startup : StartupProfile) (profile : ReconProfile) (ops : ReconOps)

def operand : Nat := context.hostModule + profile.operandRva.toNat

def functionSize : Nat := profile.functionSize.toNat

def readFunction : ReconTold (Option (Vector UInt8 (functionSize profile))) :=
  readImageRange ops.memory context.hostModule startup.imageSize profile.functionRva.toNat (functionSize profile)

def bytesEqual (expected : List UInt8) : ReconTold Bool := do
  let scratch ← readFunction context startup profile ops
  return scratch.any (·.toList = expected)

def writableCode : ReconTold Bool :=
  imageRangeProtection ops.memory context.hostModule startup.imageSize profile.operandRva.toNat 4 pageExecuteReadWrite <||>
  imageRangeProtection ops.memory context.hostModule startup.imageSize profile.operandRva.toNat 4 pageExecuteWriteCopy

def originalProtection : ReconTold Bool :=
  imageRangeProtection ops.memory context.hostModule startup.imageSize profile.functionRva.toNat (functionSize profile)
    pageExecuteRead

def constantProtection : ReconTold Bool :=
  imageRangeProtection ops.memory context.hostModule startup.imageSize profile.constantRva.toNat 16 pageReadOnly

def readConstant : ReconTold Bool := do
  let bytes ← readImageRange ops.memory context.hostModule startup.imageSize profile.constantRva.toNat 16
  return bytes.any (· = profile.constantBytes)

def constantMatches : ReconTold Bool :=
  constantProtection context startup profile ops <&&> readConstant context startup profile ops

def originalState (original : List UInt8) : ReconTold Bool :=
  originalProtection context startup profile ops <&&> bytesEqual context startup profile ops original

def recoverWithoutWrite (original : List UInt8) : ReconTold Bool := do
  if ← originalState context startup profile ops original <||> originalState context startup profile ops original then
    return true
  if !(← writableCode context startup profile ops) then return false
  let _ ← protect (operand context profile) 4 pageExecuteRead
  originalState context startup profile ops original <||> originalState context startup profile ops original

def protects (protection : Nat) : ReconTold Bool := do
  let answer ← protect (operand context profile) 4 protection
  return answer.1

def flushFunction : ReconTold Bool := flush (context.hostModule + profile.functionRva.toNat) (functionSize profile)

def rollback (original : List UInt8) : ReconTold Bool :=
  protects context profile pageExecuteReadWrite <&&> writableCode context startup profile ops <&&>
  writeDword (operand context profile) profile.oldDisplacement <&&> bytesEqual context startup profile ops original <&&>
  protects context profile pageExecuteRead <&&> originalProtection context startup profile ops <&&>
  bytesEqual context startup profile ops original <&&> flushFunction context profile

def withOperand (bytes : List UInt8) (displacement : UInt32) : List UInt8 :=
  let offset := profile.operandRva.toNat - profile.functionRva.toNat
  bytes.take offset ++ dwordBytes displacement ++ bytes.drop (offset + 4)

def sectionsMatch : ReconTold Bool :=
  originalProtection context startup profile ops <&&>
  imageSectionMatches ops.memory context.hostModule startup.imageSize profile.functionRva.toNat (functionSize profile)
    (sectionRead ||| sectionExecute) (sectionWrite ||| sectionDiscardable) <&&>
  constantProtection context startup profile ops <&&>
  imageSectionMatches ops.memory context.hostModule startup.imageSize profile.constantRva.toNat 16 sectionRead
    (sectionWrite ||| sectionExecute ||| sectionDiscardable)

def hashes (bytes : List UInt8) (digest : Sha256Digest) : ReconTold Bool := do
  let got ← hashBytesSha256 bytes
  return got.any (· = digest)

def windowMatches (original : List UInt8) : Bool :=
  (original.drop (profile.loadRva.toNat - profile.functionRva.toNat)).take 12 = profile.originalWindow.toList &&
    (original.drop (profile.operandRva.toNat - profile.functionRva.toNat)).take 4 = dwordBytes profile.oldDisplacement

def startupReady : ReconTold Bool := do
  let result ← checkStartupOpportunity ops.memory getCurrentThreadId context startup
  return result = .ready

def modeKnown (mode : ReconMode) : Bool := mode = .passive || mode = .active

/-- Everything before the first change: the bytes of the function, or why not. -/
def qualify (mode : ReconMode) (hostDigest : Sha256Digest) : ReconTold (Except FixReason (List UInt8)) := do
  if !modeKnown mode || !ops.protect || !ops.writeDword || !ops.flush || !ops.validateHostIdentity ||
      !profileValid profile startup then return .error .invalidContext
  if hostDigest ≠ profile.hostDigest then return .error .unsupportedHost
  if !(← startupReady context startup ops) then return .error .startupRejected
  if !(← sectionsMatch context startup profile ops) then return .error .protectionMismatch
  match ← readFunction context startup profile ops with
  | none => return .error .codeUnreadable
  | some bytes =>
      let original := bytes.toList
      if !(← hashes original profile.originalDigest) then return .error .functionMismatch
      if !windowMatches profile original then return .error .functionMismatch
      if !(← readConstant context startup profile ops) then return .error .constantMismatch
      if !(← hashes (withOperand profile original profile.newDisplacement) profile.correctedDigest) then
        return .error .preparedDigestMismatch
      let reason ← validateHostIdentity
      if reason ≠ .none then return .error reason
      if !(← startupReady context startup ops) then return .error .startupRejected
      if !(← originalState context startup profile ops original <&&> constantMatches context startup profile ops) then
        return .error .readbackFailed
      return .ok original

def stillStarting : ReconTold Bool := do
  if (← getCurrentThreadId) ≠ context.startupThreadId then return false
  stageMatches ops.memory context.hostModule startup

/-- How an installation ended: installed, refused by the first change with
nothing changed, or failed, before or after the write. -/
inductive Installed
  | active
  | refused
  | failed (reason : FixReason) (writeAttempted : Bool)
  deriving DecidableEq, Repr

def restore (expected : List UInt8) : ReconTold Installed := do
  if !(← protects context profile pageExecuteRead <&&> originalProtection context startup profile ops <&&>
      bytesEqual context startup profile ops expected) then return .failed .restoreFailed true
  if !(← constantMatches context startup profile ops) then return .failed .constantMismatch true
  if !(← flushFunction context profile) then return .failed .flushFailed true
  let failure ← validateHostIdentity
  return if failure = .none then .active else .failed failure true

def correct (original : List UInt8) : ReconTold Installed := do
  if !(← stillStarting context startup ops) then return .failed .startupRejected false
  if !(← bytesEqual context startup profile ops original) then return .failed .readbackFailed false
  -- A failed write may still have changed bytes.
  if !(← writeDword (operand context profile) profile.newDisplacement) then return .failed .writeFailed true
  let expected := withOperand profile original profile.newDisplacement
  if !(← bytesEqual context startup profile ops expected) then return .failed .readbackFailed true
  if !(← constantMatches context startup profile ops) then return .failed .constantMismatch true
  restore context startup profile ops expected

def install (original : List UInt8) : ReconTold Installed := do
  let (changed, oldProtection) ← protect (operand context profile) 4 pageExecuteReadWrite
  if !changed then
    let protectError ← get
    if ← originalState context startup profile ops original then
      set protectError
      return .refused
    else return .failed .protectFailed false
  if oldProtection ≠ pageExecuteRead then return .failed .protectionMismatch false
  if !(← writableCode context startup profile ops) then return .failed .protectionMismatch false
  correct context startup profile ops original

def undo (original : List UInt8) (failure : FixReason) (writeAttempted : Bool) : ReconTold (ReconOutcome × FixReason) := do
  let failureError ← get
  if !writeAttempted then
    if ← recoverWithoutWrite context startup profile ops original then
      set failureError
      return (.disabled, failure)
    else return (.fatal, .rollbackFailed)
  if ← rollback context startup profile ops original then
    set failureError
    return (.rolledBack, failure)
  else return (.fatal, .rollbackFailed)

def patch (mode : ReconMode) (original : List UInt8) : ReconTold (ReconOutcome × FixReason) := do
  if mode = .passive then
    set errorSuccess
    return (.passive, .none)
  match ← install context startup profile ops original with
  | .active =>
      set errorSuccess
      return (.active, .none)
  | .refused => return (.disabled, .protectFailed)
  | .failed failure writeAttempted => undo context startup profile ops original failure writeAttempted

def runQualified (mode : ReconMode) : Except FixReason (List UInt8) → ReconTold (ReconOutcome × FixReason × Bool)
  | .error reason => return (.disabled, reason, false)
  | .ok original => do
      let (outcome, reason) ← patch context startup profile ops mode original
      return (outcome, reason, true)

/-- The error of the result is the last one left, from none on. -/
def runReconFix (mode : ReconMode) (hostDigest : Sha256Digest) : Ask ReconQuestion ReconAnswer ReconResult :=
  ((do
    let qualified ← qualify context startup profile ops mode hostDigest
    runQualified context startup profile ops mode qualified : ReconTold (ReconOutcome × FixReason × Bool)).run 0).bind
      fun ((outcome, reason, qualified), error) => .done ⟨outcome, reason, error, qualified⟩

end Patch

end RS2ServerFix.Recon
