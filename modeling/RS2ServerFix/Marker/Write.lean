import RS2ServerFix.Lib.Ask
import RS2ServerFix.Marker.Format

namespace RS2ServerFix.Marker

open Lib NativeLog

def kMarkerCapacity : Nat := 8192
def kMarkerPathCapacity : Nat := 32768

def errorInvalidHandle : UInt32 := 6
def errorNotEnoughMemory : UInt32 := 8
def errorWriteFault : UInt32 := 29
def errorInvalidParameter : UInt32 := 87
def errorOpenFailed : UInt32 := 110
def errorInvalidName : UInt32 := 123

def invalidHandleValue : UInt64 := 0xffffffffffffffff

structure MarkerFileOps where
  createAlways : Bool
  write : Bool
  flush : Bool
  close : Bool
  remove : Bool
  deriving DecidableEq, Repr

def MarkerFileOps.complete (ops : MarkerFileOps) : Bool :=
  ops.createAlways && ops.write && ops.flush && ops.close && ops.remove

inductive MarkerQuestion
  | allocate
  | createAlways (path : List UInt16)
  | write (file : UInt64) (bytes : List UInt8)
  | flush (file : UInt64)
  | close (file : UInt64)
  | remove (path : List UInt16)
  deriving DecidableEq, Repr

/-- What an operation tells. It may report any error, whether it went well or
not. -/
structure FileResult where
  ok : Bool
  error : UInt32
  deriving DecidableEq, Repr

structure FileOpened where
  file : UInt64
  error : UInt32
  deriving DecidableEq, Repr

structure FileWritten extends FileResult where
  written : UInt32
  deriving DecidableEq, Repr

@[reducible] def MarkerAnswer : MarkerQuestion → Type
  | .allocate => Bool
  | .createAlways _ => FileOpened
  | .write _ _ => FileWritten
  | .flush _ => FileResult
  | .close _ => FileResult
  | .remove _ => FileResult

def FileOpened.usable (opened : FileOpened) : Bool := opened.file ≠ 0 && opened.file ≠ invalidHandleValue

abbrev MarkerAsk : Type → Type := Ask MarkerQuestion MarkerAnswer

namespace MarkerAsk

def allocate : MarkerAsk Bool := Ask.query (Q := MarkerQuestion) .allocate

def createAlways (path : List UInt16) : MarkerAsk FileOpened := Ask.query (MarkerQuestion.createAlways path)

def write (file : UInt64) (bytes : List UInt8) : MarkerAsk FileWritten := Ask.query (MarkerQuestion.write file bytes)

def flush (file : UInt64) : MarkerAsk FileResult := Ask.query (MarkerQuestion.flush file)

def close (file : UInt64) : MarkerAsk FileResult := Ask.query (MarkerQuestion.close file)

def remove (path : List UInt16) : MarkerAsk FileResult := Ask.query (MarkerQuestion.remove path)

end MarkerAsk

structure FileWrite where
  success : Bool
  error : UInt32
  cleanupError : UInt32
  deriving DecidableEq, Repr

def errorOr (reported otherwise : UInt32) : UInt32 := if reported = errorSuccess then otherwise else reported

def removeMarker (path : List UInt16) (localError cleanupError : UInt32) : MarkerAsk FileWrite := do
  let removal ← MarkerAsk.remove path
  pure ⟨false, localError, if removal.ok then cleanupError else errorOr removal.error errorWriteFault⟩

def closeMarker (path : List UInt16) (file : UInt64) (success : Bool) (localError cleanupError : UInt32) :
    MarkerAsk FileWrite := do
  let closing ← MarkerAsk.close file
  if !success then removeMarker path localError cleanupError
  else if !closing.ok then removeMarker path (errorOr closing.error errorInvalidHandle) cleanupError
  else pure ⟨true, errorSuccess, cleanupError⟩

def writeMarkerFile (path : List UInt16) (data : List UInt8) (cleanupError : UInt32) : MarkerAsk FileWrite := do
  if 0xffffffff < data.length then pure ⟨false, errorInvalidParameter, cleanupError⟩
  else
    let opened ← MarkerAsk.createAlways path
    if !opened.usable then pure ⟨false, errorOr opened.error errorOpenFailed, cleanupError⟩
    else
      let writing ← MarkerAsk.write opened.file data
      if !writing.ok ∨ writing.written.toNat ≠ data.length then
        closeMarker path opened.file false (errorOr writing.error errorWriteFault) cleanupError
      else
        let flushing ← MarkerAsk.flush opened.file
        if !flushing.ok then closeMarker path opened.file false (errorOr flushing.error errorWriteFault) cleanupError
        else closeMarker path opened.file true flushing.error cleanupError

def markerFilename (processId : UInt32) : List UInt16 :=
  wide "RS2ServerFix.loader." ++ (decimal processId.toNat).map UInt8.toUInt16 ++ wide ".log"

/-- A directory is `none` where there is no pointer to one. -/
def buildMarkerPath (directory : Option (List UInt16)) (processId : UInt32) (capacity : Nat) : Option (List UInt16) :=
  match directory with
  | none => none
  | some directory =>
      if directory.length = 0 ∨ kMarkerPathCapacity ≤ directory.length then none
      else
        let filename := markerFilename processId
        let last := directory.getLast?
        let slash : List UInt16 := if last ≠ some 92 ∧ last ≠ some 47 then [92] else []
        let path := directory ++ slash ++ filename
        if capacity < path.length + 1 then none else some path

structure MarkerWriteResult where
  written : Bool
  usedFallback : Bool
  primaryError : UInt32
  finalError : UInt32
  cleanupError : UInt32
  writtenPath : List UInt16
  deriving DecidableEq, Repr

def copyPath (source : List UInt16) (capacity : Nat) : List UInt16 := if capacity ≤ source.length then [] else source

section Fallback

variable (lower : UInt16 → UInt16) (ops : MarkerFileOps)

/-- The comparison of the run-time library. `lower` is the lower case of the
locale. -/
def wcsicmpEqual (a b : List UInt16) : Bool := a.map lower = b.map lower

/-- One of the two attempts: without a path or a text there is none, and no
error either. -/
def attemptMarker (path : Option (List UInt16)) (text : Option (List UInt8)) (cleanupError : UInt32) :
    MarkerAsk FileWrite :=
  match path, text with
  | some path, some text => writeMarkerFile path text cleanupError
  | _, _ => pure ⟨false, errorSuccess, cleanupError⟩

/-- An undeleted primary marker prevents acceptance of the fallback report. -/
def fallbackData (data : MarkerData) (primaryError cleanupError : UInt32) : MarkerData :=
  { data with
    primaryWriteError := primaryError
    initializeResult := if cleanupError ≠ errorSuccess then kInitMarkerWriteFailed else data.initializeResult }

def fallbackPath (primaryPath : Option (List UInt16)) (fallbackDirectory : Option (List UInt16)) (processId : UInt32) :
    Option (List UInt16) :=
  (buildMarkerPath fallbackDirectory processId kMarkerPathCapacity).filter fun path =>
    !wcsicmpEqual lower (primaryPath.getD []) path

def writeMarkerWithFallback (primaryDirectory fallbackDirectory : Option (List UInt16)) (data : MarkerData) :
    MarkerAsk (Bool × MarkerWriteResult) := do
  if !ops.complete then pure (false, ⟨false, false, errorInvalidParameter, errorInvalidParameter, 0, []⟩)
  else
    let allocated ← MarkerAsk.allocate
    if !allocated then pure (false, ⟨false, false, errorNotEnoughMemory, errorNotEnoughMemory, 0, []⟩)
    else
      let primaryPath := buildMarkerPath primaryDirectory data.processId kMarkerPathCapacity
      let first ← attemptMarker primaryPath (formatMarkerUtf8 data kMarkerCapacity) 0
      if first.success then
        pure (true, ⟨true, false, first.error, 0, first.cleanupError,
          copyPath (primaryPath.getD []) kMarkerPathCapacity⟩)
      else
        let primaryError := errorOr first.error errorInvalidName
        let path := fallbackPath lower primaryPath fallbackDirectory data.processId
        let second ← attemptMarker path
          (formatMarkerUtf8 (fallbackData data primaryError first.cleanupError) kMarkerCapacity) first.cleanupError
        if !second.success then
          pure (false, ⟨false, false, primaryError, errorOr second.error errorInvalidName, second.cleanupError, []⟩)
        else
          pure (true, ⟨true, true, primaryError, 0, second.cleanupError,
            copyPath (path.getD []) kMarkerPathCapacity⟩)

end Fallback

end RS2ServerFix.Marker
