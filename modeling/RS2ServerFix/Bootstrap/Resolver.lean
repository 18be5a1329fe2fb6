import RS2ServerFix.Lib.Ask

namespace RS2ServerFix.Bootstrap

open Lib

inductive GenuineResolverStatus
  | ok | systemPathFailed | pathCapacityFailed | loadFailed | selfModule | candidatePathFailed | fileIdentityFailed
  | wrongFile | initializeExportMissing | calculateExportMissing | initializeAddressQueryFailed
  | calculateAddressQueryFailed | initializeWrongAllocationBase | calculateWrongAllocationBase
  deriving DecidableEq, Repr

inductive GenuineFailureClass
  | none | resourceApi | validation
  deriving DecidableEq, Repr

def classifyGenuineFailure : GenuineResolverStatus → GenuineFailureClass
  | .ok => .none
  | .systemPathFailed | .pathCapacityFailed | .loadFailed | .candidatePathFailed | .fileIdentityFailed => .resourceApi
  | _ => .validation

/-- Handles, functions and addresses are numbers; zero is null. -/
structure X3AudioDispatch where
  module : Nat
  initializeFn : Nat
  calculateFn : Nat
  status : GenuineResolverStatus
  win32Error : Nat
  deriving DecidableEq, Repr

def noDispatch : X3AudioDispatch := ⟨0, 0, 0, .loadFailed, 0⟩

def isCompleteDispatch (d : X3AudioDispatch) : Bool :=
  d.status = .ok && d.module ≠ 0 && d.initializeFn ≠ 0 && d.calculateFn ≠ 0

structure GenuineResolverResult where
  dispatch : X3AudioDispatch
  failureClass : GenuineFailureClass
  ownsModule : Bool
  deriving DecidableEq, Repr

structure GenuineDispatchLease where
  dispatch : X3AudioDispatch
  valid : Bool
  releaseModuleOnClose : Bool
  deriving DecidableEq, Repr

def noLease : GenuineDispatchLease := ⟨noDispatch, false, false⟩

inductive FallbackState
  | empty | writing | ready
  deriving DecidableEq, Repr

structure FileIdentity where
  volumeSerial : Nat
  fileIndexHigh : Nat
  fileIndexLow : Nat
  valid : Bool
  deriving DecidableEq, Repr

def sameFileIdentity (left right : FileIdentity) : Bool :=
  left.valid && right.valid && left.volumeSerial = right.volumeSerial && left.fileIndexHigh = right.fileIndexHigh &&
    left.fileIndexLow = right.fileIndexLow

/-- Where a record may be: in the state itself, or where it was allocated. -/
inductive Place
  | null
  | fallback
  | heap (address : Nat)
  deriving DecidableEq, Repr

def kDispatchAlignment : Nat := 1 <<< 2

/-- The place in the state is aligned by its declaration. -/
def aligned : Place → Bool
  | .heap address => address % kDispatchAlignment = 0
  | _ => true

abbrev Path : Type := List Nat

inductive Export
  | x3DAudioInitialize | x3DAudioCalculate
  deriving DecidableEq, Repr

inductive Op
  | buildSystemPath
  | loadSystemLibrary (path : Path)
  | getModulePath (module : Nat)
  | queryFileIdentity (path : Path)
  | getExport (module : Nat) (name : Export)
  | queryAllocationBase (function : Nat)
  | freeLibrary (module : Nat)
  | allocateDispatch
  | freeDispatch (record : Place)
  | beginOnce (checkOnly : Bool)
  | completeOnce (record : Place)
  | readRecord (record : Place)
  | writeRecord (record : Place) (dispatch : X3AudioDispatch)
  | fallbackState
  | startWriting
  | setReady

def Op.Answer : Op → Type
  | .buildSystemPath | .getModulePath _ => Bool × Path × Nat
  | .loadSystemLibrary _ | .getExport _ _ => Nat × Nat
  | .queryFileIdentity _ => Bool × FileIdentity × Nat
  | .queryAllocationBase _ => Bool × Nat × Nat
  | .freeLibrary _ | .freeDispatch _ | .completeOnce _ | .startWriting => Bool
  | .allocateDispatch => Place
  | .beginOnce _ => Bool × Bool × Place
  | .readRecord _ => X3AudioDispatch
  | .fallbackState => FallbackState
  | .writeRecord _ _ | .setReady => Unit

structure GenuineResolverOps where
  buildSystemPath : Bool
  loadSystemLibrary : Bool
  getModulePath : Bool
  queryFileIdentity : Bool
  getExport : Bool
  queryAllocationBase : Bool
  freeLibrary : Bool
  allocateDispatch : Bool
  freeDispatch : Bool
  beginOnce : Bool
  completeOnce : Bool
  deriving DecidableEq, Repr

def hasPrivateOps (ops : GenuineResolverOps) : Bool :=
  ops.buildSystemPath && ops.loadSystemLibrary && ops.getModulePath && ops.queryFileIdentity && ops.getExport &&
    ops.queryAllocationBase && ops.freeLibrary

def productionGenuineResolverOps : GenuineResolverOps :=
    ⟨true, true, true, true, true, true, true, true, true, true, true⟩

abbrev Work (α : Type) : Type := Ask Op Op.Answer α

def errorInvalidData : Nat := 13
def errorInvalidParameter : Nat := 87
def errorInsufficientBuffer : Nat := 122

def failure (status : GenuineResolverStatus) (error : Nat) : GenuineResolverResult :=
  ⟨{ noDispatch with status := status, win32Error := error }, classifyGenuineFailure status, false⟩

section Resolving

variable (ops : GenuineResolverOps) (bootstrap : Nat)

def reject (candidate : Nat) (status : GenuineResolverStatus) (error : Nat) : Work GenuineResolverResult := do
  let _ : Bool ← Ask.query (Op.freeLibrary candidate)
  return failure status error

def resolveBases (candidate initializeFn calculateFn : Nat) : Work GenuineResolverResult := do
  let (queried, initializeBase, error) ← (Ask.query (Op.queryAllocationBase initializeFn) : Work (Bool × Nat × Nat))
  if !queried then reject candidate .initializeAddressQueryFailed error
  else if initializeBase ≠ candidate then reject candidate .initializeWrongAllocationBase errorInvalidData
  else
    let (queried, calculateBase, error) ← (Ask.query (Op.queryAllocationBase calculateFn) : Work (Bool × Nat × Nat))
    if !queried then reject candidate .calculateAddressQueryFailed error
    else if calculateBase ≠ candidate then reject candidate .calculateWrongAllocationBase errorInvalidData
    else return ⟨⟨candidate, initializeFn, calculateFn, .ok, 0⟩, .none, true⟩

def resolveExports (candidate : Nat) : Work GenuineResolverResult := do
  let (initializeFn, error) ← (Ask.query (Op.getExport candidate .x3DAudioInitialize) : Work (Nat × Nat))
  if initializeFn = 0 then reject candidate .initializeExportMissing error
  else
    let (calculateFn, error) ← (Ask.query (Op.getExport candidate .x3DAudioCalculate) : Work (Nat × Nat))
    if calculateFn = 0 then reject candidate .calculateExportMissing error
    else resolveBases candidate initializeFn calculateFn

def resolveIdentities (candidate : Nat) (expected actual : FileIdentity) : Work GenuineResolverResult :=
  if !expected.valid ∨ !actual.valid then reject candidate .fileIdentityFailed errorInvalidData
  else if !sameFileIdentity expected actual then reject candidate .wrongFile errorInvalidData
  else resolveExports candidate

def resolveCandidate (expectedPath : Path) (candidate : Nat) : Work GenuineResolverResult := do
  let (found, candidatePath, error) ← (Ask.query (Op.getModulePath candidate) : Work (Bool × Path × Nat))
  if !found then reject candidate .candidatePathFailed error
  else
    let (known, expected, error) ← (Ask.query (Op.queryFileIdentity expectedPath) : Work (Bool × FileIdentity × Nat))
    if !known then reject candidate .fileIdentityFailed error
    else
      let (known, actual, error) ← (Ask.query (Op.queryFileIdentity candidatePath) : Work (Bool × FileIdentity × Nat))
      if !known then reject candidate .fileIdentityFailed error
      else resolveIdentities candidate expected actual

/-- A handle that is the bootstrap's own is never given back. -/
def resolveGenuineX3AudioPrivate : Work GenuineResolverResult :=
  if bootstrap = 0 ∨ !hasPrivateOps ops then return failure .systemPathFailed errorInvalidParameter
  else do
    let (built, expectedPath, error) ← (Ask.query Op.buildSystemPath : Work (Bool × Path × Nat))
    if !built then
      return failure (if error = errorInsufficientBuffer then .pathCapacityFailed else .systemPathFailed) error
    else
      let (candidate, error) ← (Ask.query (Op.loadSystemLibrary expectedPath) : Work (Nat × Nat))
      if candidate = 0 then return failure .loadFailed error
      else if candidate = bootstrap then return failure .selfModule errorInvalidData
      else resolveCandidate expectedPath candidate

def persistent (d : X3AudioDispatch) : GenuineDispatchLease := ⟨d, isCompleteDispatch d, false⟩

def readComplete (record : Place) : Work (Option X3AudioDispatch) := do
  let checked : X3AudioDispatch ← Ask.query (Op.readRecord record)
  if isCompleteDispatch checked then
    let d : X3AudioDispatch ← Ask.query (Op.readRecord record)
    return some d
  else return none

def tryGetNormal : Work (Option X3AudioDispatch) :=
  if !ops.beginOnce then return none
  else do
    let (success, pending, context) ← (Ask.query (Op.beginOnce true) : Work (Bool × Bool × Place))
    if !success ∨ pending ∨ context = .null ∨ !aligned context then return none
    else readComplete context

def tryGetReadyFallback : Work (Option X3AudioDispatch) := do
  let state : FallbackState ← Ask.query Op.fallbackState
  if state ≠ .ready then return none
  else readComplete .fallback

def published : Work (Option X3AudioDispatch) := do
  match ← tryGetNormal ops with
  | some d => return some d
  | none => tryGetReadyFallback

def freeLibraryThen (module : Nat) (lease : GenuineDispatchLease) : Work GenuineDispatchLease := do
  let _ : Bool ← Ask.query (Op.freeLibrary module)
  return lease

/-- Without a published record the caller forwards by its own reference. -/
def forwardPrivate (d : X3AudioDispatch) : Work GenuineDispatchLease := do
  match ← tryGetReadyFallback with
  | some winner => freeLibraryThen d.module (persistent winner)
  | none => return ⟨d, true, true⟩

def publishFallback (d : X3AudioDispatch) : Work GenuineDispatchLease := do
  let started : Bool ← Ask.query Op.startWriting
  if started then
    let _ : Unit ← Ask.query (Op.writeRecord .fallback d)
    let _ : Unit ← Ask.query Op.setReady
    if ops.completeOnce then
      let _ : Bool ← Ask.query (Op.completeOnce .fallback)
      let written : X3AudioDispatch ← Ask.query (Op.readRecord .fallback)
      return persistent written
    else
      let written : X3AudioDispatch ← Ask.query (Op.readRecord .fallback)
      return persistent written
  else forwardPrivate d

def publishedOrFallback (d : X3AudioDispatch) : Work GenuineDispatchLease := do
  match ← published ops with
  | some winner => freeLibraryThen d.module (persistent winner)
  | none => publishFallback ops d

def freeRecordThen (record : Place) (next : Work GenuineDispatchLease) : Work GenuineDispatchLease := do
  let _ : Bool ← Ask.query (Op.freeDispatch record)
  next

def publishRecord (d : X3AudioDispatch) (allocation : Place) : Work GenuineDispatchLease :=
  if aligned allocation then do
    let _ : Unit ← Ask.query (Op.writeRecord allocation d)
    let completed : Bool ← Ask.query (Op.completeOnce allocation)
    if completed then
      let written : X3AudioDispatch ← Ask.query (Op.readRecord allocation)
      return persistent written
    else
      match ← tryGetNormal ops with
      | some winner => freeRecordThen allocation (freeLibraryThen d.module (persistent winner))
      | none => freeRecordThen allocation (publishedOrFallback ops d)
  else freeRecordThen allocation (publishedOrFallback ops d)

def publishNormal (d : X3AudioDispatch) (begun pending : Bool) : Work GenuineDispatchLease :=
  if begun ∧ pending ∧ ops.allocateDispatch ∧ ops.freeDispatch ∧ ops.completeOnce then do
    let allocation : Place ← Ask.query Op.allocateDispatch
    if allocation ≠ .null then publishRecord ops d allocation else publishedOrFallback ops d
  else publishedOrFallback ops d

def publishPrivateSuccess (result : GenuineResolverResult) (begun pending : Bool) : Work GenuineDispatchLease :=
  if !result.ownsModule ∨ !isCompleteDispatch result.dispatch then return noLease
  else do
    match ← published ops with
    | some winner => freeLibraryThen result.dispatch.module (persistent winner)
    | none => publishNormal ops result.dispatch begun pending

def failedLease (d : X3AudioDispatch) : GenuineDispatchLease := { noLease with dispatch := d }

/-- One attempt, and what follows a failure of the resources. -/
def attempt (begun pending : Bool) (retry : X3AudioDispatch → Work GenuineDispatchLease) :
    Work GenuineDispatchLease := do
  let result ← resolveGenuineX3AudioPrivate ops bootstrap
  if result.ownsModule ∧ isCompleteDispatch result.dispatch then publishPrivateSuccess ops result begun pending
  else
    match ← published ops with
    | some d => return persistent d
    | none =>
        if result.failureClass ≠ .resourceApi then return failedLease result.dispatch else retry result.dispatch

def attempts (begun pending : Bool) : Work GenuineDispatchLease :=
  attempt ops bootstrap begun pending fun _ => do
    match ← published ops with
    | some d => return persistent d
    | none => attempt ops bootstrap begun pending fun failed => return failedLease failed

def acquireBegun : Work GenuineDispatchLease :=
  if !ops.beginOnce then attempts ops bootstrap false true
  else do
    let (begun, pending, context) ← (Ask.query (Op.beginOnce false) : Work (Bool × Bool × Place))
    if begun ∧ !pending ∧ context ≠ .null ∧ aligned context then
      match ← readComplete context with
      | some d => return persistent d
      | none => attempts ops bootstrap begun pending
    else attempts ops bootstrap begun pending

def acquireGenuineX3Audio : Work GenuineDispatchLease :=
  if bootstrap = 0 then return failedLease { noDispatch with win32Error := errorInvalidParameter }
  else do
    match ← published ops with
    | some d => return persistent d
    | none => acquireBegun ops bootstrap

def releaseGenuineX3AudioLease (lease : GenuineDispatchLease) : Work GenuineDispatchLease :=
  if lease.valid ∧ lease.releaseModuleOnClose ∧ lease.dispatch.module ≠ 0 ∧ ops.freeLibrary then
    freeLibraryThen lease.dispatch.module noLease
  else return noLease

end Resolving

end RS2ServerFix.Bootstrap
