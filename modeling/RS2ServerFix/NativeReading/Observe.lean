import RS2ServerFix.NativeReading.Reader

namespace RS2ServerFix.NativeReading

open Lib Image
open RS2ServerFix.Task (field signedField)
open RS2ServerFix.LeechRecovery (RecoveryNativeResult)

structure RecoveryGenericTask where
  state : Nat
  id : Nat
  holder : Nat
  component : Nat
  builder : Nat
  success : Nat
  error : Nat
  anchor : Nat
  interval : Nat
  errors : Int
  throttles : Int
  expedite : Nat
  raw : List UInt8
  deriving DecidableEq, Repr

structure RecoveryTypedSlot where
  references : Int
  firstString : Nat
  stringCount : Nat
  payload : Nat
  vector : RecoveryNativeVector
  deriving DecidableEq, Repr

structure RecoveryTypedPool where
  descriptor : Nat
  type : Nat
  firstFree : Nat
  slots : List RecoveryTypedSlot
  deriving DecidableEq, Repr

inductive RecoveryDescriptor
  | finish | create | heartbeat
  deriving DecidableEq, Repr

def kinds : List RecoveryDescriptor := [.finish, .create, .heartbeat]

structure Pools where
  finish : RecoveryTypedPool
  create : RecoveryTypedPool
  heartbeat : RecoveryTypedPool
  deriving DecidableEq, Repr

namespace Pools

variable (p : Pools)

def get : RecoveryDescriptor → RecoveryTypedPool
  | .finish => p.finish
  | .create => p.create
  | .heartbeat => p.heartbeat

def set (pool : RecoveryTypedPool) : RecoveryDescriptor → Pools
  | .finish => { p with finish := pool }
  | .create => { p with create := pool }
  | .heartbeat => { p with heartbeat := pool }

end Pools

/-- What is found; the arrays that are filled from the front have only what was put there. -/
structure RecoveryNativeSnapshot where
  standalone : Nat
  core : Nat
  auth : Nat
  issuedId : Nat
  invalidId : Nat
  heartbeatId : Nat
  genericFree : Nat
  role : Nat
  previousReady : Nat
  previousConnected : Nat
  connected : Nat
  httpManager : Nat
  asyncManager : Nat
  gmalloc : Nat
  componentName : Nat
  finishService : Nat
  finishOperation : Nat
  createService : Nat
  createOperation : Nat
  sdkSession : RecoveryNativeString
  cacheSession : RecoveryNativeString
  authorizationToken : RecoveryNativeString
  coreGuid : RecoveryNativeString
  kernelVector : RecoveryNativeVector
  publicIp : RecoveryPublicIp
  sdkBytes : List UInt8
  cacheBytes : List UInt8
  authorizationBytes : List UInt8
  coreGuidBytes : List UInt8
  generic : List RecoveryGenericTask
  pools : Pools
  strings : List RecoveryNativeString
  intervals : List RecoveryOwnedInterval
  deriving DecidableEq, Repr

def noString : RecoveryNativeString := ⟨0, 0, 0, 0, []⟩
def noVector : RecoveryNativeVector := ⟨0, 0, 0, 0, 0, 0⟩
def noPool : RecoveryTypedPool := ⟨0, 0, 0, []⟩

def noSnapshot : RecoveryNativeSnapshot where
  standalone := 0
  core := 0
  auth := 0
  issuedId := 0
  invalidId := 0
  heartbeatId := 0
  genericFree := 0
  role := 0
  previousReady := 0
  previousConnected := 0
  connected := 0
  httpManager := 0
  asyncManager := 0
  gmalloc := 0
  componentName := 0
  finishService := 0
  finishOperation := 0
  createService := 0
  createOperation := 0
  sdkSession := noString
  cacheSession := noString
  authorizationToken := noString
  coreGuid := noString
  kernelVector := noVector
  publicIp := ⟨0, 0, 0, []⟩
  sdkBytes := []
  cacheBytes := []
  authorizationBytes := []
  coreGuidBytes := []
  generic := []
  pools := ⟨noPool, noPool, noPool⟩
  strings := []
  intervals := []

section Observe

variable (c : RecoveryNativeContext)

def stride : RecoveryDescriptor → Nat
  | .finish => 0x30
  | .create => 0x90
  | .heartbeat => 0x78

def stringOffsets : RecoveryDescriptor → List Nat
  | .finish => [0]
  | .create => [0, 0x28, 0x48, 0x68]
  | .heartbeat => [0, 0x20]

def noSlot : Nat := 0xffff

def slotVector (kind : RecoveryDescriptor) (payload : Nat) : Reading RecoveryNativeVector :=
  if kind = .heartbeat then vector c (plus payload 0x48) else pure noVector

def typedSlot (descriptor : Nat) (kind : RecoveryDescriptor) (i : Nat) : Reading RecoveryTypedSlot := do
  let bytes ← need .pool (fieldBytes c descriptor (0x20 + i * stride kind) 4)
  let references := signedField bytes 0 4
  require .pool (-1 ≤ references)
  let payload := plus descriptor (0x28 + i * stride kind)
  let s ← Act.get
  let firstString := s.strings.length
  Act.each (fun offset => appendString c (plus payload offset)) (stringOffsets kind)
  let found ← slotVector c kind payload
  return ⟨references, firstString, (stringOffsets kind).length, payload, found⟩

def slotsFrom (descriptor : Nat) (kind : RecoveryDescriptor) : List Nat → Nat → List RecoveryTypedSlot →
    Reading (Nat × List RecoveryTypedSlot)
  | [], firstFree, slots => return (firstFree, slots)
  | i :: rest, firstFree, slots => do
      index i kRecoveryTypedSlots
      let slot ← typedSlot c descriptor kind i
      let firstFree := if slot.references = -1 && firstFree = noSlot then i else firstFree
      slotsFrom descriptor kind rest firstFree (slots ++ [slot])

def poolBytes (kind : RecoveryDescriptor) : Nat := 0x20 + 16 * stride kind

def pool (descriptor type : Nat) (kind : RecoveryDescriptor) : Reading RecoveryTypedPool := do
  require .descriptor (descriptor ≠ 0 && descriptor % 8 = 0)
  demand .descriptor (range c descriptor (poolBytes kind) true false)
  demand .descriptor (interval descriptor (poolBytes kind))
  let (firstFree, slots) ← slotsFrom c descriptor kind (List.range kRecoveryTypedSlots) noSlot []
  return ⟨descriptor, type, firstFree, slots⟩

/-- A number of the image; where it cannot be read, the reading is refused so. -/
def root (refusal : Refusal) (rva bytes : Nat) : Reading Nat := need refusal (globalNumber c rva bytes)

def roots : Reading RecoveryNativeSnapshot := do
  let l := layout c
  let standalone ← root c .unreadable l.standalone 4
  let core ← root c .unreadable l.core 4
  let auth ← root c .unreadable l.auth 4
  let issuedId ← root c .unreadable l.issuedId 4
  let invalidId ← root c .unreadable l.invalidId 4
  let heartbeatId ← root c .unreadable l.heartbeatId 4
  let role ← root c .unreadable l.role 1
  let previousReady ← root c .unreadable l.previousReady 1
  let previousConnected ← root c .unreadable l.previousConnected 1
  let connected ← root c .unreadable l.connected 1
  let httpManager ← root c .unreadable l.httpManager 8
  let asyncManager ← root c .unreadable l.asyncManager 8
  let gmalloc ← root c .unreadable l.gmalloc 8
  return { noSnapshot with
    standalone := standalone, core := core, auth := auth, issuedId := issuedId, invalidId := invalidId,
    heartbeatId := heartbeatId, role := role, previousReady := previousReady, previousConnected := previousConnected,
    connected := connected, httpManager := httpManager, asyncManager := asyncManager, gmalloc := gmalloc }

def allocator (gmalloc : Nat) : Reading Unit := do
  let l := layout c
  let hook ← root c .unreadable l.statusHook 8
  require .hook (hook = 0)
  let mallocHook ← root c .unreadable l.jsonMalloc 8
  let freeHook ← root c .unreadable l.jsonFree 8
  require .allocator (mallocHook = host c 0xC0EE30 && freeHook = host c 0xBFD630 && gmalloc ≠ 0)
  let table ← need .allocator (fieldOf c gmalloc 0 8)
  require .allocator (table = host c l.gmallocVtable)
  let target ← need .allocator (fieldOf c table 0x18 8)
  require .allocator (target = host c 0xA6CE90)

def managers (httpManager asyncManager : Nat) : Reading Unit := do
  require .readiness (httpManager ≠ 0)
  let table ← need .readiness (fieldOf c httpManager 0 8)
  require .readiness (table = host c (layout c).httpManagerVtable)
  require .readiness (asyncManager ≠ 0)
  let active ← need .readiness (fieldOf c asyncManager 0 1)
  require .readiness (active ≠ 0)

structure PumpImportRecipe where
  slotRva : Nat
  module : String
  name : String
  deriving DecidableEq, Repr

def kRecoveryImports : List PumpImportRecipe :=
  [⟨0xE94CF8, "MSVCR110.dll", "_aligned_free"⟩,
    ⟨0xE94F70, "MSVCR110.dll", "_CxxThrowException"⟩,
    ⟨0xE94F78, "MSVCR110.dll", "__CxxFrameHandler3"⟩,
    ⟨0xE95010, "MSVCR110.dll", "free"⟩,
    ⟨0xE95018, "MSVCR110.dll", "malloc"⟩]

def resolve (module name : String) : Reading (Option Nat) := do
  let answer : Option Nat × UInt32 ← Act.query (Inquiry.resolve module name)
  Act.modify fun s => { s with error := answer.2 }
  return answer.1

def imported (recipe : PumpImportRecipe) : Reading Unit := do
  let actual ← root c .import recipe.slotRva 8
  let expected ← need .import (resolve recipe.module recipe.name)
  require .import (expected ≠ 0 && actual = expected)

def named (rva : Nat) (name : String) : Reading Nat := do
  let pointer ← root c .descriptor rva 8
  demand .descriptor (constName c pointer name)
  return pointer

def names (out : RecoveryNativeSnapshot) : Reading RecoveryNativeSnapshot := do
  let l := layout c
  let componentName ← named c l.componentName "StandaloneServer"
  let finishService ← named c l.finishService "45d1305aa6d846dcbb070dda4af292d4"
  let finishOperation ← named c l.finishOperation "b9d34959ad8e491888c4fe0f7aa0c31b"
  let createService ← named c l.createService "45d1305aa6d846dcbb070dda4af292d4"
  let createOperation ← named c l.createOperation "82c2ef8d501d4158a7119cf664b544fe"
  return { out with
    componentName := componentName, finishService := finishService, finishOperation := finishOperation,
    createService := createService, createOperation := createOperation }

structure ComponentRecipe where
  name : String
  start : Nat
  stop : Nat
  status : Nat
  policy : Nat
  deriving DecidableEq, Repr

def kComponents : List ComponentRecipe :=
  [⟨"AsyncDeferOperationsComponent", 0xBA4C40, 0xBA4C90, 0xBA4CE0, 1⟩,
    ⟨"AuthorizationComponent", 0xBFBB70, 0xBFC4E0, 0xBFC510, 1⟩,
    ⟨"FactComponent", 0xBAE3E0, 0xBAE400, 0xBAE420, 2⟩,
    ⟨"StandaloneServer", 0xBAB210, 0xBAB230, 0xBAB350, 3⟩,
    ⟨"Presence", 0xBFAA50, 0xBFAC40, 0xBFAD60, 3⟩,
    ⟨"UserHeartbeatComponent", 0xC09A30, 0xC09BA0, 0xC09C60, 3⟩,
    ⟨"MessagingComponent", 0xC0A7F0, 0xC0AB20, 0xC0AE60, 3⟩,
    ⟨"GlobalEssentialComponentHack", 0xBF60A0, 0xBF60A0, 0xBF6090, 4⟩]

structure Row where
  start : Nat
  stop : Nat
  status : Nat
  name : Nat
  policy : Nat
  deriving DecidableEq, Repr

def rowOf (bytes : List UInt8) : Row :=
  ⟨field bytes 0 8, field bytes 8 8, field bytes 16 8, field bytes 24 8, field bytes 32 4⟩

def findComponent (row : Row) : List ComponentRecipe → Nat → Reading (Option Nat)
  | [], _ => return none
  | recipe :: rest, j => do
      if row.start = host c recipe.start && row.stop = host c recipe.stop && row.status = host c recipe.status &&
          row.policy = recipe.policy then
        if ← constName c row.name recipe.name then return some j
        else findComponent row rest (j + 1)
      else findComponent row rest (j + 1)

def components : List Nat → Nat → Reading Unit
  | [], seen => require .readiness (seen = 0xff)
  | i :: rest, seen => do
      let bytes ← need .unreadable (global c (((layout c).componentTable + i * 0x28) % 2 ^ 32) 0x28)
      let row := rowOf bytes
      if row.start = 0 && row.stop = 0 && row.status = 0 && row.name = 0 && row.policy = 0 then components rest seen
      else do
        let j ← need .readiness (findComponent c row kComponents 0)
        require .readiness (seen &&& (1 <<< j) = 0)
        components rest (seen ||| (1 <<< j))

def identities (out : RecoveryNativeSnapshot) : Reading RecoveryNativeSnapshot := do
  let l := layout c
  let sdkSession ← string c (host c l.sdkSession)
  let authorizationToken ← string c (host c l.authorizationToken)
  let cacheSession ← string c (host c l.cacheSession)
  let coreGuid ← string c (host c l.coreGuid)
  require .budget (sdkSession.size < kRecoverySessionBytes && authorizationToken.size < kRecoverySessionBytes &&
    cacheSession.size < kRecoverySessionBytes && coreGuid.size < kRecoveryGuidBytes)
  let sdkBytes ← need .unreadable (readInto c kRecoverySessionBytes sdkSession.data (sdkSession.size + 1))
  let authorizationBytes ← need .unreadable
    (readInto c kRecoverySessionBytes authorizationToken.data (authorizationToken.size + 1))
  let cacheBytes ← need .unreadable (readInto c kRecoverySessionBytes cacheSession.data (cacheSession.size + 1))
  let coreGuidBytes ← need .unreadable (readInto c kRecoveryGuidBytes coreGuid.data (coreGuid.size + 1))
  return { out with
    sdkSession := sdkSession, authorizationToken := authorizationToken, cacheSession := cacheSession, coreGuid := coreGuid,
    sdkBytes := sdkBytes, authorizationBytes := authorizationBytes, cacheBytes := cacheBytes,
    coreGuidBytes := coreGuidBytes }

def words : Nat → List UInt8 → List Nat
  | 0, _ => []
  | count + 1, bytes => field bytes 0 8 :: words count (bytes.drop 8)

def registryOf : Reading (List Nat) := do
  let bytes ← need .descriptor (global c (layout c).registry (256 * 8))
  let registry := words 256 bytes
  let first ← cell registry 0
  require .descriptor (first = 0)
  return registry

def vtable : RecoveryDescriptor → Nat
  | .finish => (layout c).finishVtable
  | .create => (layout c).createVtable
  | .heartbeat => (layout c).heartbeatVtable

def vtableTargets : RecoveryDescriptor → List (Nat × Nat)
  | .finish => [(0x28, 0xBF55F0), (0x88, 0xBF0DB0), (0x90, 0xBF1780), (0x98, 0xBF1900), (0xA0, 0xBF1B20)]
  | .create => [(0x28, 0xBF55F0), (0x88, 0xBF0E60), (0x90, 0xBF1790), (0x98, 0xBF1950), (0xA0, 0xBF1B50)]
  | .heartbeat => [(0x28, 0xBF55F0), (0x88, 0xBF0F30), (0x90, 0xBF17A0), (0x98, 0xBF1980), (0xA0, 0xBF1B70)]

def vtableTarget (kind : RecoveryDescriptor) (entry : Nat × Nat) : Reading Unit := do
  let target ← need .descriptor (fieldOf c (host c (vtable c kind)) entry.1 8)
  require .descriptor (target = host c entry.2)

def registeredAs (i entry table : Nat) : List RecoveryDescriptor → Pools → Reading Pools
  | [], pools => return pools
  | kind :: rest, pools =>
      if table = host c (vtable c kind) then do
        require .descriptor ((pools.get kind).descriptor = 0)
        let type ← need .descriptor (fieldOf c entry 8 2)
        require .descriptor (type = i)
        let found ← pool c entry i kind
        registeredAs i entry table rest (pools.set found kind)
      else registeredAs i entry table rest pools

def registered (registry : List Nat) : List Nat → Pools → Reading Pools
  | [], pools => return pools
  | i :: rest, pools => do
      let entry ← cell registry i
      if entry = 0 then registered registry rest pools
      else do
        let table ← need .descriptor (fieldOf c entry 0 8)
        let pools ← registeredAs c i entry table kinds pools
        registered registry rest pools

def taskOf (raw : List UInt8) : RecoveryGenericTask where
  state := field raw 0 4
  id := field raw 4 4
  component := field raw 8 8
  holder := field raw 0x38 4
  builder := field raw 0x40 8
  success := field raw 0x48 8
  error := field raw 0x50 8
  anchor := field raw 0x58 8
  interval := field raw 0x60 8
  errors := signedField raw 0x68 4
  throttles := signedField raw 0x6c 4
  expedite := field raw 0x70 1
  raw := raw

/-- The references of the slot, where the task is of the pool. -/
def heldBy (type slot : Nat) (pool : RecoveryTypedPool) : Reading Unit :=
  if type = pool.type then do
    let held ← cell pool.slots slot
    require .pool (1 ≤ held.references)
  else pure ()

def activeTask (out : RecoveryNativeSnapshot) (registry : List Nat) (before : List RecoveryGenericTask)
    (task : RecoveryGenericTask) : Reading Unit := do
  let type := task.holder >>> 16
  let slot := task.holder &&& 0xffff
  require .pool (task.id ≠ 0 && task.id ≠ out.invalidId && task.id ≤ out.issuedId && type ≠ 0 && type < 256)
  let entry ← cell registry type
  require .pool (entry ≠ 0 && slot < 16)
  require .pool (!before.any fun other => other.state ≠ 0 && task.id = other.id)
  Act.each (fun kind => heldBy type slot (out.pools.get kind)) kinds

def tasks (out : RecoveryNativeSnapshot) (registry : List Nat) : List Nat → List RecoveryGenericTask → Nat →
    Reading (List RecoveryGenericTask × Nat)
  | [], before, free => return (before, free)
  | i :: rest, before, free => do
      index i kRecoveryGenericSlots
      let raw ← need .unreadable (read c (plus (host c (layout c).genericPool) (i * 0x78)) 0x78)
      let task := taskOf raw
      require .pool (task.state ≤ 5 && task.state ≠ 1)
      if task.state = 0 then tasks out registry rest (before ++ [task]) (free + 1)
      else do
        activeTask out registry before task
        tasks out registry rest (before ++ [task]) free

def holders (generic : List RecoveryGenericTask) (type slot : Nat) : Nat :=
  (generic.filter fun task => task.state ≠ 0 && task.holder >>> 16 = type && task.holder &&& 0xffff = slot).length

def referenced (generic : List RecoveryGenericTask) (pool : RecoveryTypedPool) (slot : Nat) : Reading Unit := do
  let cell ← cell pool.slots slot
  let refs := holders generic pool.type slot
  require .pool (refs = 0 || 0 ≤ cell.references && (refs : Int) ≤ cell.references)

def reset (s : Reader) : Reader :=
  { s with scope := ⟨[]⟩, sections := none, totalVectorElements := 0, strings := [], intervals := [] }

def observe : Reading RecoveryNativeSnapshot := do
  Act.modify reset
  let out ← roots c
  allocator c out.gmalloc
  managers c out.httpManager out.asyncManager
  Act.each (imported c) kRecoveryImports
  let out ← names c out
  components c (List.range 16) 0
  let out ← identities c out
  let kernelVector ← vector c (host c (layout c).kernelVector)
  let publicIp ← fString c (layout c).publicIp
  let registry ← registryOf c
  Act.each (fun kind => Act.each (vtableTarget c kind) (vtableTargets kind)) kinds
  let pools ← registered c registry ((List.range 256).drop 1) out.pools
  Act.each (fun kind => require .descriptor ((pools.get kind).descriptor ≠ 0)) kinds
  let out := { out with kernelVector := kernelVector, publicIp := publicIp, pools := pools }
  let (generic, genericFree) ← tasks c out registry (List.range kRecoveryGenericSlots) [] 0
  Act.each (fun kind => Act.each (referenced generic (out.pools.get kind)) (List.range 16)) kinds
  let s ← Act.get
  return { out with generic := generic, genericFree := genericFree, strings := s.strings, intervals := s.intervals }

end Observe

def contextHolds (c : RecoveryNativeContext) : Bool :=
  c.hostBase ≠ 0 && c.hostImageSize ≠ 0 && c.hostImageSize ≤ uint64Max - c.hostBase && c.query && c.read && c.imports &&
    c.resolve

/-- Two observations, of which the first is taken where the second is the same. -/
def observations (c : RecoveryNativeContext) : Reading RecoveryNativeSnapshot := do
  let first ← observe c
  let second ← observe c
  require .changed (first = second)
  return first

def errorInvalidData : UInt32 := 13

/-- What the caller is given, or that an index was outside its array. -/
inductive Outcome
  | returned (result : RecoveryNativeResult) (out : RecoveryNativeSnapshot) (error : UInt32)
  | outside
  deriving DecidableEq

def ended : Except Stop RecoveryNativeSnapshot × Reader → Outcome
  | (.ok out, _) => .returned .ready out errorSuccess
  | (.error (.refused refusal), s) => .returned refusal.result noSnapshot s.error
  | (.error .outside, _) => .outside

def fresh : Reader := ⟨⟨[]⟩, none, 0, [], [], errorInvalidData⟩

def readNativeRecoverySnapshot (c : RecoveryNativeContext) : Ask Inquiry Inquiry.Answer Outcome :=
  if contextHolds c then (observations c fresh).bind fun r => .done (ended r)
  else .done (.returned .invalidContext noSnapshot errorInvalidData)

end RS2ServerFix.NativeReading
