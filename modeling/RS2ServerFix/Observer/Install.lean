import RS2ServerFix.Lib.Guarded
import RS2ServerFix.Task.Access

namespace RS2ServerFix.Observer.Install

open Lib
open RS2ServerFix.Task (MemoryRegion memCommit memImage pageReadOnly pageReadWrite)

inductive Reason
  | none | configMissing | configDisabled | configInvalid | reconIneligible | coreMarkerFailed | invalidContext
  | hostMismatch | sdkIdentityMismatch | sdkBindingMismatch | alreadyInitialized | profileMismatch
  | preparationFailed | contaminated | pageMismatch | protectFailed | cellChanged | verifyFailed | rollbackFailed
  | invalidObject | poolExhausted | lifecycleCrossing | lifecycleOverflow | counterOverflow | writerFailed
  | logLimit | keyStoreFailed | outputPathFailed | logFileFailed | workerStartFailed | cryptoFailed
  | unsupportedProtection
  deriving DecidableEq, Repr

inductive Gate
  | preparing | armed | contaminated | disabled
  deriving DecidableEq, Repr

structure Cell where
  rva : Nat
  original : Nat
  wrapper : Nat
  deriving DecidableEq, Repr

structure InstallContext where
  base : Nat
  imageSize : Nat
  pageSize : Nat
  factory : Cell
  shutdown : Cell
  init : Cell
  serverPump : Option Cell
  deriving DecidableEq, Repr

def InstallContext.cells (c : InstallContext) : List Cell := [c.factory, c.shutdown, c.init] ++ c.serverPump.toList

structure InstallResult where
  armed : Bool
  fatal : Bool
  reason : Reason
  deriving DecidableEq, Repr

/-- One access to a cell, the page or the gate, or one check whose outcome the
surroundings decide. -/
inductive InstallOp
  | query (rva : Nat)
  | sectionMatches (rva : Nat)
  | checkColdProfile
  | validateNativeProfile
  | stableIdentity
  | rangeProtection (rva protection : Nat)
  | readCell (rva : Nat)
  | protect (protection : Nat)
  | compareExchange (rva expected desired : Nat)
  | readGate
  | exchangeGate (value : Gate)
  | compareExchangeGate (value comparand : Gate)

def InstallOp.Answer : InstallOp → Type
  | .query _ => Option MemoryRegion
  | .checkColdProfile => Reason
  | .readCell _ => Option Nat
  | .compareExchange _ _ _ => Bool × Nat
  | .readGate | .exchangeGate _ | .compareExchangeGate _ _ => Gate
  | _ => Bool

abbrev Thread (α : Type) := Ask InstallOp InstallOp.Answer α

def readGate : Thread Gate := Ask.query InstallOp.readGate

def stableIdentity : Thread Bool := Ask.query InstallOp.stableIdentity

def protect (protection : Nat) : Thread Bool := Ask.query (InstallOp.protect protection)

def exchanges (rva expected desired : Nat) : Thread Bool := do
  let (answer : Bool × Nat) ← Ask.query (InstallOp.compareExchange rva expected desired)
  pure (answer.1 && answer.2 == expected)

/-- A write copy page could not be given its protection back exactly. -/
def dataProtection (protection : Nat) : Bool := protection == pageReadOnly || protection == pageReadWrite

def readsCell (cell : Cell) (expected : Nat) : Thread Bool := do
  let (actual : Option Nat) ← Ask.query (InstallOp.readCell cell.rva)
  pure (actual == some expected)

def rangeProtected (cell : Cell) (protection : Nat) : Thread Bool :=
  Ask.query (InstallOp.rangeProtection cell.rva protection)

def protectedCell (protection : Nat) (cell : Cell) (expected : Nat) : Thread Bool :=
  rangeProtected cell protection <&&> readsCell cell expected

def protectedCells (protection : Nat) (expected : Cell → Nat) : List Cell → Thread Bool
  | [] => pure true
  | cell :: rest => protectedCell protection cell (expected cell) <&&> protectedCells protection expected rest

section Install

variable (c : InstallContext)

def powerOfTwo (n : Nat) : Bool := n &&& (n - 1) == 0

def contextReady : Bool :=
  8 ≤ c.pageSize && powerOfTwo c.pageSize && c.base != 0 && c.imageSize ≤ uint64Max - c.base &&
    c.serverPump.all fun pump => pump.original != 0 && pump.wrapper != 0 && pump.original != pump.wrapper

def pageOf (cell : Cell) : Nat := (c.base + cell.rva) / c.pageSize * c.pageSize

def cellReady (seen : List Cell) (cell : Cell) : Bool :=
  cell.original != 0 && cell.rva % 8 == 0 && decide (cell.rva < c.imageSize) && decide (8 ≤ c.imageSize - cell.rva) &&
    seen.all fun other => other.rva != cell.rva

/-- The page of a cell is within the image, the cell within the page, and the
page is that of the cells before. -/
def pageReady (seen : List Cell) (cell : Cell) : Bool :=
  seen.all (fun other => pageOf c other == pageOf c cell) && decide (c.base ≤ pageOf c cell) &&
    decide (c.pageSize ≤ c.imageSize - (pageOf c cell - c.base)) &&
    decide (c.base + cell.rva - pageOf c cell ≤ c.pageSize - 8)

def regionReady (protection : Option Nat) (region : MemoryRegion) : Bool :=
  region.state == memCommit && region.type == memImage && region.allocationBase == c.base &&
    protection.all fun p => region.protect == p

def qualifyCells (seen : List Cell) (protection : Option Nat) : List Cell → Thread (Except Reason (Option Nat))
  | [] => pure (.ok protection)
  | cell :: rest =>
      if !cellReady c seen cell then pure (.error .invalidContext)
      else if !pageReady c seen cell then pure (.error .pageMismatch)
      else do
        let (region : Option MemoryRegion) ← Ask.query (InstallOp.query cell.rva)
        match region with
        | none => pure (.error .invalidContext)
        | some region =>
            let matched ← pure (regionReady c protection region) <&&> Ask.query (InstallOp.sectionMatches cell.rva)
            if !matched then pure (.error .invalidContext)
            else if !dataProtection region.protect then pure (.error .unsupportedProtection)
            else qualifyCells (cell :: seen) (some region.protect) rest

def validateNativeProfile : Thread Bool :=
  if c.serverPump.isSome then Ask.query InstallOp.validateNativeProfile else pure true

def qualifyState (protection : Nat) : Thread (Except Reason Nat) := do
  let (reason : Reason) ← Ask.query InstallOp.checkColdProfile
  if reason ≠ .none then pure (.error reason)
  else
    let native ← validateNativeProfile c
    if !native then pure (.error .profileMismatch)
    else
      let proven ← stableIdentity <&&> protectedCells protection Cell.original c.cells
      if !proven then pure (.error .verifyFailed)
      else
        let gate ← readGate
        pure (if gate = .preparing then .ok protection else .error .contaminated)

def qualify : Thread (Except Reason Nat) :=
  if !contextReady c then pure (.error .invalidContext)
  else do
    let found ← qualifyCells c [] none c.cells
    match found with
    | .error reason => pure (.error reason)
    | .ok protection => qualifyState c (protection.getD 0)

structure Progress where
  ok : Bool
  pointerWriteAttempted : Bool
  reason : Reason
  deriving DecidableEq, Repr

/-- Whether all cells were changed, and whether any change was attempted. -/
def change (attempted : Bool) : List Cell → Thread (Bool × Bool)
  | [] => pure (true, attempted)
  | cell :: rest => do
      let gate ← readGate
      if gate ≠ .preparing then pure (false, attempted)
      else
        let changed ← exchanges cell.rva cell.original cell.wrapper
        if changed then change true rest else pure (false, true)

def verify (attempted : Bool) (protection : Nat) : Thread Progress := do
  let restored ← protect protection
  if !restored then pure ⟨false, attempted, .protectFailed⟩
  else
    let proven ← protectedCells protection Cell.wrapper c.cells <&&> stableIdentity
    if !proven then pure ⟨false, attempted, .verifyFailed⟩
    else
      let (reason : Reason) ← Ask.query InstallOp.checkColdProfile
      if reason ≠ .none then pure ⟨false, attempted, reason⟩
      else
        let native ← validateNativeProfile c
        pure ⟨native, attempted, .profileMismatch⟩

def prepare (protection : Nat) : Thread Progress := do
  let writable ← protect pageReadWrite
  if !writable then pure ⟨false, false, .protectFailed⟩
  else
    let (ok, attempted) ← change false c.cells
    if !ok then pure ⟨false, attempted, .cellChanged⟩ else verify c attempted protection

/-- Only the own pointer is taken back; anything else that is found stays. -/
def restoreCell (cell : Cell) : Thread Bool := do
  let (current : Option Nat) ← Ask.query (InstallOp.readCell cell.rva)
  if current = some cell.wrapper then exchanges cell.rva cell.wrapper cell.original
  else pure (decide (current = some cell.original))

/-- Every cell is tried, whatever became of the others. -/
def restoreCells : List Cell → Thread Bool
  | [] => pure true
  | cell :: rest => do
      let restored ← restoreCell cell
      let others ← restoreCells rest
      pure (restored && others)

def disableGate : Thread Unit := do
  let _ ← Ask.query (InstallOp.exchangeGate .disabled)
  pure ()

def proveOriginals (protection : Nat) : Thread Bool :=
  protectedCells protection Cell.original c.cells <&&> stableIdentity

def rollback (attempted : Bool) (reason : Reason) (protection : Nat) : Thread InstallResult := do
  let writable ← protect pageReadWrite
  let swapped ← pure writable <&&> restoreCells c.cells
  let protectionRestored ← protect protection
  let stateProven ← proveOriginals c protection
  disableGate
  pure (if stateProven && ((swapped && protectionRestored) || !attempted) then ⟨false, false, reason⟩
    else ⟨false, true, .rollbackFailed⟩)

def undo (attempted : Bool) (reason : Reason) (protection : Nat) : Thread InstallResult := do
  let untouched ← pure (!attempted) <&&> proveOriginals c protection
  if untouched then
    disableGate
    pure ⟨false, false, reason⟩
  else rollback c attempted reason protection

/-- The only commit point. -/
def commit : Thread Bool := do
  let (previous : Gate) ← Ask.query (InstallOp.compareExchangeGate .armed .preparing)
  pure (decide (previous = .preparing))

def gateContaminated (ok : Bool) : Thread Bool :=
  if ok then pure true
  else do
    let gate ← readGate
    pure (decide (gate = .contaminated))

def settle (protection : Nat) (p : Progress) : Thread InstallResult := do
  let committed ← pure p.ok <&&> commit
  if committed then pure ⟨true, false, .none⟩
  else
    let contaminated ← gateContaminated p.ok
    undo c p.pointerWriteAttempted (if contaminated then .contaminated else p.reason) protection

def installObserver : Thread InstallResult := do
  let qualified ← qualify c
  match qualified with
  | .error reason => pure ⟨false, false, reason⟩
  | .ok protection => do
      let progress ← prepare c protection
      settle c protection progress

end Install

inductive Admitted
  | retry
  | answered (observed : Bool)
  deriving DecidableEq, Repr

def admitTurn (qualifying : Bool) : Thread Admitted := do
  let gate ← readGate
  if gate = .armed then pure (.answered true)
  else if !qualifying ∨ gate ≠ .preparing then pure (.answered false)
  else
    let (previous : Gate) ← Ask.query (InstallOp.compareExchangeGate .contaminated .preparing)
    pure (if previous = .preparing then .answered false else .retry)

/-- The installing thread, and one party for each call into a wrapper. -/
inductive Party (κ : Type)
  | installer
  | call (k : κ)
  deriving DecidableEq, Repr

inductive Report
  | idle
  | installed (result : InstallResult)
  | caller (admitted : Admitted)
  deriving DecidableEq, Repr

structure InstallWorld where
  memory : Nat → Nat
  protection : Nat
  gate : Gate

def InstallWorld.exchange (s : InstallWorld) (rva expected desired : Nat) : InstallWorld :=
  if s.memory rva = expected then { s with memory := Function.update s.memory rva desired } else s

def InstallWorld.exchangeGate (s : InstallWorld) (value comparand : Gate) : InstallWorld :=
  if s.gate = comparand then { s with gate := value } else s

/-- Reads and queries that succeed are truthful; a change of the protection and
an exchange that fail may have taken effect all the same. -/
def responds : Responds InstallOp InstallOp.Answer InstallWorld
  | .query _, s, answer, t => (∀ region, answer = some region → region.protect = s.protection) ∧ t = s
  | .rangeProtection _ protection, s, answer, t => (answer = true → s.protection = protection) ∧ t = s
  | .readCell rva, s, answer, t => (∀ value, answer = some value → value = s.memory rva) ∧ t = s
  | .protect protection, s, answer, t => t = { s with protection := protection } ∨ answer = false ∧ t = s
  | .compareExchange rva expected desired, s, answer, t =>
      answer.2 = s.memory rva ∧ t = s.exchange rva expected desired ∨
        answer.1 = false ∧ (t = s ∨ t = s.exchange rva expected desired)
  | .readGate, s, answer, t => answer = s.gate ∧ t = s
  | .exchangeGate value, s, answer, t => answer = s.gate ∧ t = { s with gate := value }
  | .compareExchangeGate value comparand, s, answer, t => answer = s.gate ∧ t = s.exchangeGate value comparand
  | _, s, _, t => t = s

def installTurn (c : InstallContext) : Thread Report := do
  let result ← installObserver c
  pure (.installed result)

def callTurn (qualifying : Bool) : Thread Report := do
  let admitted ← admitTurn qualifying
  pure (.caller admitted)

inductive Starts {κ : Type} (c : InstallContext) (qualifying : κ → Bool) :
    Party κ → Report → Thread Report → InstallWorld → InstallWorld → Prop
  | install (s : InstallWorld) : Starts c qualifying .installer .idle (installTurn c) s s
  | call (k : κ) (s : InstallWorld) : Starts c qualifying (.call k) .idle (callTurn (qualifying k)) s s
  | retry (k : κ) (s : InstallWorld) : Starts c qualifying (.call k) (.caller .retry) (callTurn (qualifying k)) s s

end RS2ServerFix.Observer.Install
