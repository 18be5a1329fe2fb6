import RS2ServerFix.Lib.World
import RS2ServerFix.Task.Access

namespace RS2ServerFix.Image

open Reporting Lib
open RS2ServerFix.Task (MemoryRegion memCommit memImage pageReadOnly pageReadWrite pageWriteCopy field)

def pageExecuteRead : Nat := 0x20
def pageExecuteReadWrite : Nat := 0x40
def pageExecuteWriteCopy : Nat := 0x80

def errorSuccess : UInt32 := 0
def errorInvalidAddress : UInt32 := 487

section Operations

variable {Q : Type} {A : Q → Type}

variable (Q A) in
/-- The two ways of looking at memory; either may be missing. -/
structure MemoryOps where
  query : Option (Nat → Told Q A UInt32 (Option MemoryRegion))
  read : Option ((address size : Nat) → Told Q A UInt32 (Option (Vector UInt8 size)))

def range (base imageSize rva size : Nat) : Bool :=
  base ≠ 0 && size ≠ 0 && imageSize ≠ 0 && imageSize ≤ uint64Max - base && rva < imageSize && size ≤ imageSize - rva

def readable (protection : Nat) : Bool :=
  protection = pageReadOnly || protection = pageReadWrite || protection = pageWriteCopy ||
    protection = pageExecuteRead || protection = pageExecuteReadWrite || protection = pageExecuteWriteCopy

def regionPasses (base exactProtection cursor : Nat) (region : MemoryRegion) : Bool :=
  region.allocationBase = base && region.state = memCommit && region.type = memImage && readable region.protect &&
    (exactProtection = 0 || region.protect = exactProtection) && region.base ≤ cursor && region.size ≠ 0 &&
    region.size ≤ uint64Max - region.base && cursor < region.base + region.size

/-- The regions from the cursor to the end. Each takes the cursor on by a byte at
least, so that as many are enough as there are bytes. -/
def regionsFrom (query : Nat → Told Q A UInt32 (Option MemoryRegion)) (base exactProtection last : Nat) :
    Nat → Nat → Told Q A UInt32 Bool
  | 0, cursor => pure (last ≤ cursor)
  | left + 1, cursor =>
      if cursor < last then do
        match ← query cursor with
        | none => pure false
        | some region =>
            if regionPasses base exactProtection cursor region then
              regionsFrom query base exactProtection last left (min last (region.base + region.size))
            else pure false
      else pure true

def regions (ops : MemoryOps Q A) (base imageSize rva size exactProtection : Nat) : Told Q A UInt32 Bool := do
  set errorInvalidAddress
  if !range base imageSize rva size then return false
  ops.query.elim (pure false) fun query => do
    if ← regionsFrom query base exactProtection (base + rva + size) size (base + rva) then
      set errorSuccess
      return true
    else return false

def readImageRange (ops : MemoryOps Q A) (base imageSize rva size : Nat) : Told Q A UInt32 (Option (Vector UInt8 size)) :=
  ops.read.elim (pure none) fun read => do
    if ← regions ops base imageSize rva size 0 then read (base + rva) size else return none

def imageRangeProtection (ops : MemoryOps Q A) (base imageSize rva size protection : Nat) : Told Q A UInt32 Bool :=
  if protection = 0 then pure false else regions ops base imageSize rva size protection

def dosHeaderBytes : Nat := 64
def ntHeadersBytes : Nat := 264
def sectionHeaderBytes : Nat := 40

def dosMagic (dos : List UInt8) : Nat := field dos 0 2
def dosNew (dos : List UInt8) : Nat := field dos 60 4

def imageDosSignature : Nat := 0x5a4d
def imageNtSignature : Nat := 0x4550
def imageFileMachineAmd64 : Nat := 0x8664
def imageFileExecutableImage : Nat := 2
def imageFileDll : Nat := 0x2000
def optionalHeaderBytes : Nat := 240
def imageNtOptionalMagic : Nat := 0x20b
def directoryEntries : Nat := 16

structure NtHeaders where
  signature : Nat
  machine : Nat
  numberOfSections : Nat
  timeDateStamp : Nat
  sizeOfOptionalHeader : Nat
  characteristics : Nat
  optionalMagic : Nat
  addressOfEntryPoint : Nat
  sizeOfImage : Nat
  sizeOfHeaders : Nat
  checkSum : Nat
  numberOfRvaAndSizes : Nat
  importAddress : Nat
  importSize : Nat
  tlsAddress : Nat
  tlsSize : Nat
  deriving DecidableEq, Repr

def ntHeaders (bytes : List UInt8) : NtHeaders where
  signature := field bytes 0 4
  machine := field bytes 4 2
  numberOfSections := field bytes 6 2
  timeDateStamp := field bytes 8 4
  sizeOfOptionalHeader := field bytes 20 2
  characteristics := field bytes 22 2
  optionalMagic := field bytes 24 2
  addressOfEntryPoint := field bytes 40 4
  sizeOfImage := field bytes 80 4
  sizeOfHeaders := field bytes 84 4
  checkSum := field bytes 88 4
  numberOfRvaAndSizes := field bytes 132 4
  importAddress := field bytes 144 4
  importSize := field bytes 148 4
  tlsAddress := field bytes 208 4
  tlsSize := field bytes 212 4

/-- The offset of the headers is signed: a negative one passes both bounds. -/
def dosPasses (dos : List UInt8) : Bool :=
  dosMagic dos = imageDosSignature && dosHeaderBytes ≤ dosNew dos &&
    (dosNew dos ≤ 0x100000 || 0x80000000 ≤ dosNew dos)

def ntPasses (imageSize ntRva : Nat) (nt : NtHeaders) : Bool :=
  nt.signature = imageNtSignature && nt.machine = imageFileMachineAmd64 &&
    nt.characteristics &&& imageFileExecutableImage ≠ 0 && nt.characteristics &&& imageFileDll = 0 &&
    nt.sizeOfOptionalHeader = optionalHeaderBytes && 0 < nt.numberOfSections && nt.numberOfSections ≤ 96 &&
    nt.optionalMagic = imageNtOptionalMagic && nt.sizeOfImage = imageSize && nt.sizeOfHeaders < imageSize &&
    ntRva + ntHeadersBytes ≤ nt.sizeOfHeaders && nt.numberOfRvaAndSizes = directoryEntries

def headers (ops : MemoryOps Q A) (base imageSize : Nat) : Told Q A UInt32 (Option (NtHeaders × Nat)) := Told.aside 0 do
  match ← readImageRange ops base imageSize 0 dosHeaderBytes with
  | none => return none
  | some dos =>
      if !dosPasses dos.toList then return none
      let ntRva := dosNew dos.toList
      match ← readImageRange ops base imageSize ntRva ntHeadersBytes with
      | none => return none
      | some bytes =>
          let nt := ntHeaders bytes.toList
          if ntPasses imageSize ntRva nt then return some (nt, ntRva) else return none

structure SectionHeader where
  virtualSize : Nat
  virtualAddress : Nat
  characteristics : Nat
  deriving DecidableEq, Repr

def sectionHeader (bytes : List UInt8) (i : Nat) : SectionHeader where
  virtualSize := field bytes (i * sectionHeaderBytes + 8) 4
  virtualAddress := field bytes (i * sectionHeaderBytes + 12) 4
  characteristics := field bytes (i * sectionHeaderBytes + 36) 4

/-- The sections that hold the range, counted; none when one is amiss. -/
def matching (imageSize rva size required forbidden : Nat) : List SectionHeader → Option Nat
  | [] => some 0
  | s :: rest =>
      if imageSize < s.virtualAddress || imageSize - s.virtualAddress < s.virtualSize then none
      else if s.virtualAddress ≤ rva && rva - s.virtualAddress < s.virtualSize &&
          size ≤ s.virtualSize - (rva - s.virtualAddress) then
        if s.characteristics &&& required ≠ required || s.characteristics &&& forbidden ≠ 0 then none
        else (matching imageSize rva size required forbidden rest).map (· + 1)
      else matching imageSize rva size required forbidden rest

def imageSectionMatches (ops : MemoryOps Q A) (base imageSize rva size required forbidden : Nat) :
    Told Q A UInt32 Bool := do
  if !range base imageSize rva size then return false
  match ← headers ops base imageSize with
  | none => return false
  | some (nt, ntRva) =>
      let sectionRva := (ntRva + ntHeadersBytes) % 2 ^ 32
      let bytes := nt.numberOfSections * sectionHeaderBytes
      if nt.sizeOfHeaders < sectionRva || nt.sizeOfHeaders - sectionRva < bytes then return false
      match ← Told.aside 0 (readImageRange ops base imageSize sectionRva bytes) with
      | none => return false
      | some sections =>
          let list := (List.range nt.numberOfSections).map (sectionHeader sections.toList)
          return matching imageSize rva size required forbidden list = some 1

end Operations

end RS2ServerFix.Image
