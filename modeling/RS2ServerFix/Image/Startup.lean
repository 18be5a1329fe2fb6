import RS2ServerFix.Image.Memory

namespace RS2ServerFix.Image

open Reporting Lib
open RS2ServerFix.Task (pageReadOnly field)

structure ByteSpan where
  rva : Nat
  bytes : List UInt8
  deriving DecidableEq, Repr

structure StartupProfile where
  imageSize : Nat
  timestamp : Nat
  checksums : List Nat
  entryRva : Nat
  returnRva : Nat
  stateRva : Nat
  stateValue : Nat
  initializerSlotRva : Nat
  initializerRva : Nat
  spans : List ByteSpan
  deriving DecidableEq, Repr

structure BootstrapContextV3 where
  size : Nat
  abiVersion : Nat
  hostModule : Nat
  bootstrapModule : Nat
  genuineX3AudioModule : Nat
  genuineExportsMask : Nat
  reserved : Nat
  triggerReturnAddress : Nat
  startupThreadId : Nat
  currentThreadId : Nat
  staticLoad : Nat
  triggerKind : Nat
  deriving DecidableEq, Repr

inductive StartupGateResult
  | ready | invalidContext | dynamicLoad | wrongThread | wrongCaller | imageUnavailable | imageMismatch | codeMismatch
  | wrongInitializer | wrongStage
  deriving DecidableEq, Repr

def bootstrapContextBytes : Nat := 64
def kBootstrapAbiVersion : Nat := 3
def kRequiredGenuineExports : Nat := 3
def kTriggerExeCrtInitialize : Nat := 1

def sectionExecute : Nat := 0x20000000
def sectionRead : Nat := 0x40000000
def sectionWrite : Nat := 0x80000000
def sectionDiscardable : Nat := 0x02000000

def contextValid (context : BootstrapContextV3) (profile : StartupProfile) : Bool :=
  context.size = bootstrapContextBytes && context.abiVersion = kBootstrapAbiVersion && context.reserved = 0 &&
    context.triggerKind = kTriggerExeCrtInitialize && context.hostModule ≠ 0 && context.bootstrapModule ≠ 0 &&
    context.genuineX3AudioModule ≠ 0 && context.genuineExportsMask = kRequiredGenuineExports &&
    context.hostModule ≠ context.bootstrapModule && context.hostModule ≠ context.genuineX3AudioModule &&
    context.bootstrapModule ≠ context.genuineX3AudioModule && 0 < profile.spans.length && profile.spans.length ≤ 16 &&
    0 < profile.checksums.length && profile.checksums.length ≤ 2

section Operations

variable {Q : Type} {A : Q → Type} (ops : MemoryOps Q A)

def spanMatches (base imageSize : Nat) (span : ByteSpan) : Told Q A UInt32 Bool :=
  if 1024 < span.bytes.length then pure false
  else
    imageRangeProtection ops base imageSize span.rva span.bytes.length pageExecuteRead <&&>
    imageSectionMatches ops base imageSize span.rva span.bytes.length (sectionRead ||| sectionExecute) sectionWrite <&&>
    do
      let bytes ← readImageRange ops base imageSize span.rva span.bytes.length
      return bytes.any (·.toList = span.bytes)

def spansMatch (base imageSize : Nat) : List ByteSpan → Told Q A UInt32 Bool
  | [] => pure true
  | span :: rest => spanMatches ops base imageSize span <&&> spansMatch base imageSize rest

def imageMatches (profile : StartupProfile) (nt : NtHeaders) : Bool :=
  profile.checksums.any (nt.checkSum = ·) && nt.timeDateStamp = profile.timestamp &&
    nt.addressOfEntryPoint = profile.entryRva && nt.tlsAddress = 0 && nt.tlsSize = 0

def initializerMatches (base : Nat) (profile : StartupProfile) : Told Q A UInt32 Bool :=
  if !range base profile.imageSize profile.initializerRva 1 then pure false
  else
    imageRangeProtection ops base profile.imageSize profile.initializerSlotRva 8 pageReadOnly <&&>
    imageSectionMatches ops base profile.imageSize profile.initializerSlotRva 8 sectionRead
      (sectionWrite ||| sectionExecute) <&&>
    do
      let bytes ← readImageRange ops base profile.imageSize profile.initializerSlotRva 8
      return bytes.any fun bytes => field bytes.toList 0 8 = base + profile.initializerRva

def stageMatches (base : Nat) (profile : StartupProfile) : Told Q A UInt32 Bool := do
  let bytes ← readImageRange ops base profile.imageSize profile.stateRva 4
  return bytes.any fun bytes => field bytes.toList 0 4 = profile.stateValue

def checkImage (context : BootstrapContextV3) (profile : StartupProfile) : Told Q A UInt32 StartupGateResult := do
  let base := context.hostModule
  match ← headers ops base profile.imageSize with
  | none => return .imageUnavailable
  | some (nt, _) =>
      if !imageMatches profile nt then return .imageMismatch
      if !(← spansMatch ops base profile.imageSize profile.spans) then return .codeMismatch
      if !(← initializerMatches ops base profile) then return .wrongInitializer
      if ← imageSectionMatches ops base profile.imageSize profile.stateRva 4 (sectionRead ||| sectionWrite)
          sectionExecute <&&> stageMatches ops base profile then return .ready
      else return .wrongStage

/-- The errors of the check stay its own. -/
def checkStartupOpportunity (getCurrentThreadId : Told Q A UInt32 Nat) (context : BootstrapContextV3)
    (profile : StartupProfile) : Told Q A UInt32 StartupGateResult := do
  if !contextValid context profile then return .invalidContext
  if context.staticLoad ≠ 1 then return .dynamicLoad
  if context.startupThreadId = 0 || context.startupThreadId ≠ context.currentThreadId then return .wrongThread
  if context.currentThreadId ≠ (← getCurrentThreadId) then return .wrongThread
  if !range context.hostModule profile.imageSize profile.returnRva 1 ||
      context.triggerReturnAddress ≠ context.hostModule + profile.returnRva then return .wrongCaller
  Told.aside 0 (checkImage ops context profile)

end Operations

end RS2ServerFix.Image
