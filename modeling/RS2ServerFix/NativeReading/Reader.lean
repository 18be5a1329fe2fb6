import RS2ServerFix.Image.ReadScope
import RS2ServerFix.LeechRecovery.Owner
import RS2ServerFix.Lib.Act

namespace RS2ServerFix.NativeReading

open Lib Image
open RS2ServerFix.Task (MemoryRegion memCommit memImage pageReadOnly pageReadWrite field signedField)
open RS2ServerFix.LeechRecovery (RecoveryNativeResult)

def kRecoveryGenericSlots : Nat := 128
def kRecoveryTypedSlots : Nat := 16
def kRecoveryVectorElements : Nat := 256
def kRecoveryAllVectorElements : Nat := 1280
def kRecoveryStringWitnesses : Nat := 1408
def kRecoveryOwnedIntervals : Nat := 1536
def kRecoveryStringCapacity : Nat := 1048576
def kRecoveryVectorCapacity : Nat := 8192
def kRecoverySessionBytes : Nat := 1024
def kRecoveryCacheChars : Nat := 1024
def kRecoveryGuidBytes : Nat := 37

def pageNoAccess : Nat := 0x01
def pageGuard : Nat := 0x100

def imageScnMemDiscardable : Nat := 0x02000000
def imageScnMemExecute : Nat := 0x20000000
def imageScnMemRead : Nat := 0x40000000
def imageScnMemWrite : Nat := 0x80000000

structure RecoveryNativeLayout where
  genericPool : Nat
  issuedId : Nat
  invalidId : Nat
  heartbeatId : Nat
  registry : Nat
  standalone : Nat
  sdkSession : Nat
  cacheSession : Nat
  publicIp : Nat
  authorizationToken : Nat
  kernelVector : Nat
  core : Nat
  httpManager : Nat
  asyncManager : Nat
  auth : Nat
  role : Nat
  componentTable : Nat
  previousReady : Nat
  previousConnected : Nat
  connected : Nat
  statusHook : Nat
  gmalloc : Nat
  gmallocVtable : Nat
  jsonMalloc : Nat
  jsonFree : Nat
  componentName : Nat
  finishService : Nat
  finishOperation : Nat
  createService : Nat
  createOperation : Nat
  finishVtable : Nat
  createVtable : Nat
  heartbeatVtable : Nat
  httpManagerVtable : Nat
  coreGuid : Nat
  deriving DecidableEq, Repr

def kLayout : RecoveryNativeLayout :=
  ⟨0x17AAC80, 0x17AAC78, 0x17AA9C0, 0x14AAD8C, 0x179D450,
    0x14AAD20, 0x14AAD28, 0x14A4A08, 0x1798800, 0x17AEA18, 0x14AAD70,
    0x14AAB70, 0x17AEB88, 0x179D228, 0x17AEA10, 0x17AEB78, 0x17AA9F8,
    0x17AA9D0, 0x17AA9D1, 0x17AA9D2, 0x179D3C8,
    0x14CC240, 0x11CE340, 0x14AF2C0, 0x14AF2C8,
    0x14AACB0, 0x14AAEE0, 0x14AAED8, 0x14AAE20, 0x14AAE18,
    0x1276F80, 0x1276B20, 0x1276D60, 0x127B988,
    0x14AAB78⟩

/-- The context of a reading: whether each of the callbacks is given, and the
layout where it is not that of production. -/
structure RecoveryNativeContext where
  hostBase : Nat
  hostImageSize : Nat
  query : Bool
  read : Bool
  imports : Bool
  resolve : Bool
  layout : Option RecoveryNativeLayout
  deriving DecidableEq, Repr

structure RecoveryNativeString where
  object : Nat
  data : Nat
  size : Nat
  capacity : Nat
  header : List UInt8
  deriving DecidableEq, Repr

structure RecoveryNativeVector where
  object : Nat
  start : Nat
  stop : Nat
  capacity : Nat
  firstString : Nat
  stringCount : Nat
  deriving DecidableEq, Repr

structure RecoveryOwnedInterval where
  start : Nat
  stop : Nat
  deriving DecidableEq, Repr

/-- What the reader is asked to find out: what memory is and what an import resolves to. -/
inductive Inquiry
  | look (q : Look)
  | resolve (module name : String)

def Inquiry.Answer : Inquiry → Type
  | .look q => q.Answer
  | .resolve _ _ => Option Nat × UInt32

/-- The reader with its two caches, and the arrays of the snapshot that it fills from the front. -/
structure Reader where
  scope : ReadScope
  sections : Option (List SectionHeader)
  totalVectorElements : Nat
  strings : List RecoveryNativeString
  intervals : List RecoveryOwnedInterval
  error : UInt32

inductive Refusal
  | unreadable | changed | budget | shape | alias | descriptor | pool | readiness | hook | allocator | import
  deriving DecidableEq, Repr

def Refusal.result : Refusal → RecoveryNativeResult
  | .unreadable => .unreadable
  | .changed => .changed
  | .budget => .budget
  | .shape => .shape
  | .alias => .alias
  | .descriptor => .descriptor
  | .pool => .pool
  | .readiness => .readiness
  | .hook => .hook
  | .allocator => .allocator
  | .import => .import

theorem Refusal.result_ne (refusal : Refusal) : refusal.result ≠ .ready := by cases refusal <;> decide

/-- How a reading is left before its end: with a refusal, or at an index outside an array. -/
inductive Stop
  | refused (refusal : Refusal)
  | outside
  deriving DecidableEq, Repr

abbrev Reading (α : Type) : Type := Act Inquiry Inquiry.Answer Reader Stop α

def refuse {α : Type} (refusal : Refusal) : Reading α := Act.raise (.refused refusal)

def require (refusal : Refusal) (holds : Bool) : Reading Unit := if holds then pure () else refuse refusal

def need {α : Type} (refusal : Refusal) (p : Reading (Option α)) : Reading α := do
  match ← p with
  | some a => return a
  | none => refuse refusal

def demand (refusal : Refusal) (p : Reading Bool) : Reading Unit := do
  let holds ← p
  require refusal holds

def index (i room : Nat) : Reading Unit := if i < room then pure () else Act.raise .outside

def cell {α : Type} (cells : List α) (i : Nat) : Reading α :=
  match cells[i]? with
  | some a => pure a
  | none => Act.raise .outside

def keep (address : Nat) (region : MemoryRegion) (s : Reader) : Reader :=
  if s.scope.regions.length < kReadScopeRegions && cacheable region address then
    { s with scope := ⟨s.scope.regions ++ [region]⟩ }
  else s

def ask (q : Look) : Reading q.Answer := Act.query (Inquiry.look q)

def look : (q : Look) → Reading q.Answer
  | .query address => do
      let s ← Act.get
      match s.scope.lookup address with
      | some region => return (some region, errorSuccess)
      | none =>
          let answer : Option MemoryRegion × UInt32 ← ask (.query address)
          match answer.1 with
          | none => return answer
          | some region =>
              Act.modify (keep address region)
              return answer
  | .read address size => ask (.read address size)

def through {α : Type} : Ask Look Look.Answer α → Reading α
  | .done a => pure a
  | .ask q next => look q >>= fun answer => through (next answer)

def told {α : Type} (p : Told Look Look.Answer UInt32 α) : Reading α := do
  let s ← Act.get
  let (a, error) ← through (p.run s.error)
  Act.modify fun s => { s with error := error }
  return a

def add (base size : Nat) : Option Nat := if base = 0 ∨ uint64Max - base < size then none else some (base + size)

/-- The sum of addresses where nothing checks it. -/
def plus (base offset : Nat) : Nat := (base + offset) % 2 ^ 64

section Memory

variable (c : RecoveryNativeContext)

def layout : RecoveryNativeLayout := c.layout.getD kLayout

def host (rva : Nat) : Nat := plus c.hostBase rva

def regionHolds (writable heap : Bool) (cursor : Nat) (r : MemoryRegion) : Bool :=
  r.state = memCommit && r.protect &&& (pageGuard ||| pageNoAccess) = 0 &&
    (r.protect = pageReadOnly || r.protect = pageReadWrite) && (!writable || r.protect = pageReadWrite) &&
    (!heap || r.type = memPrivate) &&
    (r.type = memPrivate || r.type = memImage && r.allocationBase = c.hostBase) &&
    r.size ≠ 0 && r.base ≤ cursor && r.size ≤ uint64Max - r.base && cursor < r.base + r.size

/-- The regions from the cursor to the end, of which so many may still be asked for. -/
def rangeFrom (writable heap : Bool) (stop : Nat) : Nat → Nat → Reading Bool
  | 0, cursor => return stop ≤ cursor
  | left + 1, cursor =>
      if cursor < stop then do
        match ← told (lookQuery cursor) with
        | none => return false
        | some r =>
            if regionHolds c writable heap cursor r then rangeFrom writable heap stop left (min stop (r.base + r.size))
            else return false
      else return true

def range (address bytes : Nat) (writable heap : Bool) : Reading Bool :=
  if bytes = 0 then pure false
  else
    match add address bytes with
    | none => pure false
    | some stop => rangeFrom c writable heap stop 32 address

def copy (address bytes : Nat) : Reading (Option (List UInt8)) := do
  let found ← told (lookRead address bytes)
  return found.map Vector.toList

def read (address bytes : Nat) : Reading (Option (List UInt8)) := do
  if ← range c address bytes false false then copy address bytes else return none

def readInto (room address bytes : Nat) : Reading (Option (List UInt8)) :=
  if room < bytes then Act.raise .outside else read c address bytes

def fieldBytes (object offset bytes : Nat) : Reading (Option (List UInt8)) :=
  match add object offset with
  | none => pure none
  | some address => read c address bytes

def fieldOf (object offset bytes : Nat) : Reading (Option Nat) := do
  let found ← fieldBytes c object offset bytes
  return found.map fun b => field b 0 bytes

def global (rva bytes : Nat) : Reading (Option (List UInt8)) :=
  if rva < c.hostImageSize && bytes ≤ c.hostImageSize - rva then read c (host c rva) bytes else pure none

def globalNumber (rva bytes : Nat) : Reading (Option Nat) := do
  let found ← global c rva bytes
  return found.map fun b => field b 0 bytes

def sectionMatches (rva size required forbidden : Nat) : Reading Bool := do
  let s ← Act.get
  let (found, kept) ← told (cachedSectionMatches lookOps c.hostBase c.hostImageSize s.sections rva size required forbidden)
  Act.modify fun s => { s with sections := kept }
  return found

def nameBytes (name : String) : List UInt8 := name.toByteArray.data.toList ++ [0]

def constName (pointer : Nat) (expected : String) : Reading Bool := do
  let bytes := (nameBytes expected).length
  if pointer < c.hostBase || 2 ^ 32 - 1 < pointer - c.hostBase then return false
  let rva := pointer - c.hostBase
  if 64 < bytes then return false
  if !(← told (imageRangeProtection lookOps c.hostBase c.hostImageSize rva bytes pageReadOnly)) then return false
  if !(← sectionMatches c rva bytes imageScnMemRead (imageScnMemWrite ||| imageScnMemExecute ||| imageScnMemDiscardable)) then
    return false
  index (bytes - 1) 64
  let data ← copy pointer bytes
  return data = some (nameBytes expected)

def recordInterval (found : RecoveryOwnedInterval) (s : Reader) : Reader := { s with intervals := s.intervals ++ [found] }

def interval (start bytes : Nat) : Reading Bool :=
  if bytes = 0 then pure true
  else
    match add start bytes with
    | none => pure false
    | some stop => do
        let s ← Act.get
        if s.intervals.length = kRecoveryOwnedIntervals then return false
        if s.intervals.any fun other => start < other.stop && other.start < stop then return false
        index s.intervals.length kRecoveryOwnedIntervals
        Act.modify (recordInterval ⟨start, stop⟩)
        return true

def stringData (object capacity size : Nat) (header : List UInt8) : Reading Nat :=
  if capacity < 16 then
    if capacity ≠ 15 || 16 ≤ size then refuse .shape else pure object
  else do
    let data := field header 0 8
    require .shape (data ≠ 0 && data % 16 = 0)
    demand .shape (range c data (capacity + 1) true true)
    demand .alias (interval data (capacity + 1))
    return data

def string (object : Nat) : Reading RecoveryNativeString := do
  require .unreadable (object ≠ 0 && object % 8 = 0)
  let header ← need .unreadable (read c object 32)
  let size := field header 0x10 8
  let capacity := field header 0x18 8
  require .shape (size ≤ capacity)
  require .budget (capacity ≤ kRecoveryStringCapacity)
  let data ← stringData c object capacity size header
  let nul ← need .shape (fieldOf c data size 1)
  require .shape (nul = 0)
  return ⟨object, data, size, capacity, header⟩

def recordString (found : RecoveryNativeString) (s : Reader) : Reader := { s with strings := s.strings ++ [found] }

def appendString (object : Nat) : Reading Unit := do
  let s ← Act.get
  require .budget (s.strings.length ≠ kRecoveryStringWitnesses)
  index s.strings.length kRecoveryStringWitnesses
  let found ← string c object
  Act.modify (recordString found)

def vectorPasses (start stop capacity : Nat) : Bool :=
  start % 16 = 0 && start ≤ stop && stop ≤ capacity && (stop - start) % 32 = 0 && (capacity - start) % 32 = 0

def addElements (elements : Nat) (s : Reader) : Reader := { s with totalVectorElements := s.totalVectorElements + elements }

def vector (object : Nat) : Reading RecoveryNativeVector := do
  let fields ← need .unreadable (read c object 24)
  let start := field fields 0 8
  let stop := field fields 8 8
  let capacity := field fields 16 8
  let s ← Act.get
  let firstString := s.strings.length
  if start = 0 then
    require .shape (stop = 0 && capacity = 0)
    return ⟨object, start, stop, capacity, firstString, 0⟩
  else do
    require .shape (vectorPasses start stop capacity)
    let elements := (stop - start) / 32
    let room := (capacity - start) / 32
    -- the subtraction on the right does not wrap: no more than 256 elements pass before it
    require .budget (elements ≤ kRecoveryVectorElements && room ≤ kRecoveryVectorCapacity &&
      s.totalVectorElements ≤ kRecoveryAllVectorElements - elements)
    require .shape (room ≠ 0)
    demand .shape (range c start (room * 32) true true)
    demand .alias (interval start (room * 32))
    Act.modify (addElements elements)
    Act.each (fun i => appendString c (plus start (i * 32))) (List.range elements)
    return ⟨object, start, stop, capacity, firstString, elements⟩

def narrow (bytes : List UInt8) (count : Nat) : List Nat := (List.range count).map fun i => field bytes (2 * i) 2

structure RecoveryPublicIp where
  data : Nat
  count : Nat
  capacity : Nat
  chars : List Nat
  deriving DecidableEq, Repr

def publicIpChars (data count : Nat) : Reading (List Nat) :=
  if count = 0 then pure []
  else do
    let bytes ← need .shape (readInto c (2 * kRecoveryCacheChars) data (2 * count))
    index (count - 1) kRecoveryCacheChars
    let chars := narrow bytes count
    let last ← cell chars (count - 1)
    require .shape (last = 0)
    return chars

def publicIpOwned (data capacity : Nat) : Reading Unit :=
  if data = 0 then pure ()
  else do
    require .alias (data % 16 = 0 && capacity ≠ 0)
    demand .alias (range c data (2 * capacity) true true)
    demand .alias (interval data (2 * capacity))

def fString (root : Nat) : Reading RecoveryPublicIp := do
  let value ← need .unreadable (global c root 16)
  let data := field value 0 8
  let count := signedField value 8 4
  let capacity := signedField value 12 4
  require .shape (0 ≤ count && count ≤ capacity && (data ≠ 0 || count = 0 && capacity = 0))
  require .budget (capacity.toNat ≤ kRecoveryCacheChars)
  publicIpOwned c data capacity.toNat
  let chars ← publicIpChars c data count.toNat
  return ⟨data, count.toNat, capacity.toNat, chars⟩

end Memory

end RS2ServerFix.NativeReading
