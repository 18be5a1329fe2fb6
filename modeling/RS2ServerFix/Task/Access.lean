import RS2ServerFix.Lib.Ask
import RS2ServerFix.Reporting.Types

namespace RS2ServerFix.Task

open Reporting Lib

def kStride : Nat := 0x78
def kBuilderOffset : Nat := 0x40
def kHolderType : Nat := 43
def kInterval : Nat := 30000
def kTaskSlots : Nat := 128

structure TaskLayout where
  poolRva : Nat
  selectedIdRva : Nat
  invalidIdRva : Nat
  counterRva : Nat
  registryRva : Nat
  metadataVtableRva : Nat
  builderRva : Nat
  serviceStateRva : Nat
  deriving DecidableEq, Repr

structure TaskAccess where
  hostBase : Nat
  hostImageSize : Nat
  query : Bool
  read : Bool
  compareExchange : Bool
  admission : Bool
  safeOwner : Bool
  ownerThread : Bool
  deriving DecidableEq, Repr

structure MemoryRegion where
  base : Nat
  allocationBase : Nat
  size : Nat
  state : Nat
  type : Nat
  protect : Nat
  deriving DecidableEq, Repr

structure ExchangeAnswer where
  ok : Bool
  observed : Nat
  deriving DecidableEq, Repr

inductive TaskQuestion
  | query (address : Nat)
  | read (address bytes : Nat)
  | exchange (address expected desired : Nat)
  | admission
  | safeOwner
  | ownerThread
  deriving DecidableEq, Repr

def TaskAnswer : TaskQuestion → Type
  | .query _ => Option MemoryRegion
  | .read _ bytes => Option (Vector UInt8 bytes)
  | .exchange _ _ _ => ExchangeAnswer
  | .admission | .safeOwner | .ownerThread => Bool

abbrev TaskAsk (α : Type) := Ask TaskQuestion TaskAnswer α

/-- A reading that fails with a reason, or without one. -/
abbrev TaskRead (α : Type) := ExceptT Reason (Ask TaskQuestion TaskAnswer) α

abbrev TaskTry (α : Type) := OptionT (Ask TaskQuestion TaskAnswer) α

def owner (access : TaskAccess) : TaskAsk Bool :=
  if access.safeOwner then Ask.query TaskQuestion.safeOwner else pure false

def admitted (access : TaskAccess) : TaskAsk Bool :=
  if access.admission then Ask.query TaskQuestion.admission else pure false

def entryReason (access : TaskAccess) : TaskAsk Reason :=
  if !access.ownerThread ∨ !access.safeOwner ∨ !access.admission then pure .profileMismatch
  else do
    let (own : Bool) ← Ask.query TaskQuestion.ownerThread
    if !own then pure .foreignThread
    else
      let safe ← owner access
      pure (if safe then .none else .lifecycleCrossing)

def address (access : TaskAccess) (rva bytes : Nat) : Option Nat :=
  if access.hostBase = 0 ∨ bytes = 0 ∨ access.hostImageSize = 0 ∨
      uint64Max - access.hostBase < access.hostImageSize ∨ access.hostImageSize ≤ rva ∨
      access.hostImageSize - rva < bytes then none
  else some (access.hostBase + rva)

def layoutValid (access : TaskAccess) (layout : TaskLayout) : Bool :=
  access.query && access.read && decide (access.hostBase % 8 = 0) && decide (layout.poolRva % 8 = 0) &&
    decide (layout.registryRva % 8 = 0) && decide (layout.metadataVtableRva % 8 = 0) &&
    decide (layout.selectedIdRva % 4 = 0) && decide (layout.invalidIdRva % 4 = 0) &&
    decide (layout.counterRva % 4 = 0) && decide (layout.serviceStateRva % 4 = 0) &&
    (address access layout.poolRva (kTaskSlots * kStride)).isSome && (address access layout.registryRva 8).isSome &&
    (address access layout.metadataVtableRva 8).isSome && (address access layout.builderRva 1).isSome &&
    (address access layout.selectedIdRva 4).isSome && (address access layout.invalidIdRva 4).isSome &&
    (address access layout.counterRva 4).isSome && (address access layout.serviceStateRva 4).isSome

def memCommit : Nat := 0x1000
def memImage : Nat := 0x1000000
def pageReadOnly : Nat := 0x02
def pageReadWrite : Nat := 0x04
def pageWriteCopy : Nat := 0x08

def dataRegion (access : TaskAccess) (address : Nat) (image writable : Bool) (region : MemoryRegion) : Bool :=
  decide (region.state = memCommit) && decide (region.base ≤ address) && decide (region.size ≠ 0) &&
    decide (region.size ≤ uint64Max - region.base) && decide (address < region.base + region.size) &&
    (decide (region.protect = pageReadOnly) || decide (region.protect = pageReadWrite) ||
      decide (region.protect = pageWriteCopy)) &&
    (!writable || decide (region.protect = pageReadWrite)) &&
    (!image || decide (region.type = memImage) && decide (region.allocationBase = access.hostBase))

def dataRegions (access : TaskAccess) (last : Nat) (image writable : Bool) : Nat → Nat → TaskAsk Bool
  | 0, address => if address = last then owner access else pure false
  | regions + 1, address =>
      if address < last then do
        if ← owner access then
          match (← Ask.query (TaskQuestion.query address) : Option MemoryRegion) with
          | none => pure false
          | some region =>
              if ← owner access then
                if dataRegion access address image writable region then
                  dataRegions access last image writable regions (min (region.base + region.size) last)
                else pure false
              else pure false
        else pure false
      else if address = last then owner access
      else pure false

def dataRange (access : TaskAccess) (address bytes : Nat) (image writable : Bool) : TaskAsk Bool := do
  if ← owner access then
    if address = 0 ∨ bytes = 0 ∨ !access.query ∨ uint64Max - address < bytes then pure false
    else dataRegions access (address + bytes) image writable 16 address
  else pure false

def check (p : TaskAsk Bool) : TaskTry Unit := OptionT.mk do
  let ok ← p
  pure (if ok then some () else none)

def readMemory (address bytes : Nat) : TaskAsk (Option (Vector UInt8 bytes)) :=
  Ask.query (TaskQuestion.read address bytes)

def dataRead (access : TaskAccess) (address bytes : Nat) (image : Bool) : TaskTry (List UInt8) := do
  check (pure access.read)
  check (dataRange access address bytes image false)
  check (owner access)
  let value ← OptionT.mk (readMemory address bytes)
  check (owner access)
  pure value.toList

def field (bytes : List UInt8) (offset size : Nat) : Nat :=
  ((bytes.drop offset).take size).foldr (fun b n => b.toNat + 256 * n) 0

def signedField (bytes : List UInt8) (offset size : Nat) : Int :=
  let v := field bytes offset size
  if v < 2 ^ (8 * size - 1) then v else (v : Int) - 2 ^ (8 * size)

def imageRead (access : TaskAccess) (rva bytes : Nat) : TaskTry Nat := do
  let a ← OptionT.mk (pure (address access rva bytes))
  let value ← dataRead access a bytes true
  pure (field value 0 bytes)

def slotAddress (access : TaskAccess) (layout : TaskLayout) (slot : Nat) : Option Nat :=
  if slot < kTaskSlots ∧ layoutValid access layout then
    address access ((layout.poolRva + slot * kStride) % 2 ^ 32) kStride
  else none

def queued (state : Nat) : Bool := state = 2 || state = 3

structure TaskIdentity where
  slot : Nat
  id : Nat
  holder : Nat
  component : Nat
  metadata : Nat
  deriving DecidableEq, Repr

def TaskIdentity.zero : TaskIdentity := ⟨0, 0, 0, 0, 0⟩

inductive ScheduleTier
  | unknown | ordinaryPoll | retryBase | retry30s | retry60s | retry5m | retry30m
  deriving DecidableEq, Repr

structure TaskSchedule where
  anchorBits : Nat
  interval : Nat
  intervalOverride : Int
  retryOverride : Int
  errors : Int
  throttles : Int
  retryLimit : Nat
  expedite : Nat
  valid : Bool
  tier : ScheduleTier
  delayUnits : Nat
  deriving DecidableEq, Repr

def TaskSchedule.zero : TaskSchedule := ⟨0, 0, 0, 0, 0, 0, 0, 0, false, .unknown, 0⟩

structure TaskSnapshot where
  identity : TaskIdentity
  state : Nat
  nativeCounter : Nat
  builder : Nat
  schedule : TaskSchedule
  deriving DecidableEq, Repr

structure SlotAuthority where
  callbacks : Nat × Nat
  interval : Nat
  deriving DecidableEq, Repr

def slotRead (access : TaskAccess) (layout : TaskLayout) (index : Nat) : TaskTry TaskSnapshot := do
  let slot ← OptionT.mk (pure (slotAddress access layout index))
  let header ← dataRead access slot 8 true
  let component ← dataRead access (slot + 8) 8 true
  let holder ← dataRead access (slot + 0x38) 4 true
  let builder ← dataRead access (slot + kBuilderOffset) 8 true
  let metadata ← imageRead access layout.registryRva 8
  pure ⟨⟨index, field header 4 4, field holder 0 4, field component 0 8, metadata⟩, field header 0 4, 0,
    field builder 0 8, .zero⟩

/-- The parameters of a slot and its interval, read together or apart. -/
def slotAuthorityFields (access : TaskAccess) (slot : Nat) : TaskTry (List UInt8 × Nat) := OptionT.mk do
  match ← (dataRead access (slot + 0x38) 0x30 true).run with
  | some fields => pure (some (fields, field fields 0x28 8))
  | none =>
      (do
        let parameters ← dataRead access (slot + 0x38) 0x20 true
        let interval ← dataRead access (slot + 0x60) 8 true
        pure (parameters, field interval 0 8) : TaskTry _).run

def slotAuthorityRead (access : TaskAccess) (layout : TaskLayout) (index : Nat) :
    TaskTry (TaskSnapshot × SlotAuthority) := do
  let slot ← OptionT.mk (pure (slotAddress access layout index))
  let head ← dataRead access slot 0x10 true
  let (parameters, interval) ← slotAuthorityFields access slot
  let metadata ← imageRead access layout.registryRva 8
  pure (⟨⟨index, field head 4 4, field parameters 0 4, field head 8 8, metadata⟩, field head 0 4, 0,
    field parameters 8 8, .zero⟩, ⟨(field parameters 0x10 8, field parameters 0x18 8), interval⟩)

def sameSnapshot (a b : TaskSnapshot) : Bool :=
  decide (a.identity = b.identity) && decide (a.state = b.state) && decide (a.nativeCounter = b.nativeCounter) &&
    decide (a.builder = b.builder)

def readSchedule (access : TaskAccess) (layout : TaskLayout) (identity : TaskIdentity) : TaskTry TaskSchedule := do
  let slot ← OptionT.mk (pure (slotAddress access layout identity.slot))
  check (pure (decide (identity.metadata ≠ 0) && decide (identity.metadata ≤ uint64Max - 0x20)))
  let schedule ← dataRead access (slot + 0x58) 0x20 true
  let metadata ← dataRead access (identity.metadata + 8) 0x18 false
  pure ⟨field schedule 0 8, field schedule 8 8, signedField metadata 8 8, signedField metadata 0x10 8,
    signedField schedule 0x10 4, signedField schedule 0x14 4, field metadata 2 2, field schedule 0x18 1, false,
    .unknown, 0⟩

/-- The tier of a schedule that follows the supported model. -/
def scheduleDelay (nativeState : Nat) (s : TaskSchedule) : TaskSchedule :=
  if !s.valid ∨ s.interval ≠ kInterval ∨ s.retryLimit ≠ 3 ∨ s.intervalOverride ≠ 0 ∨ s.retryOverride ≠ 0 then s
  else if nativeState = 2 then { s with tier := .ordinaryPoll, delayUnits := kInterval }
  else if nativeState ≠ 3 ∨ s.errors < 0 ∨ s.throttles < 0 then s
  else if 12 ≤ s.errors then { s with tier := .retry30m, delayUnits := 1800000 }
  else if 9 ≤ s.errors then { s with tier := .retry5m, delayUnits := 300000 }
  else if 6 ≤ s.errors then { s with tier := .retry60s, delayUnits := 60000 }
  else if 5 < s.throttles ∨ 3 ≤ s.errors then { s with tier := .retry30s, delayUnits := 30000 }
  else { s with tier := .retryBase, delayUnits := 2000 }

end RS2ServerFix.Task
