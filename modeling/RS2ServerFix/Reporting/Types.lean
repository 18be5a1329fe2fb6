import Mathlib.Data.List.Basic
import Mathlib.Tactic.Linarith

namespace RS2ServerFix

def uint64Max : Nat := 18446744073709551615
def int64Max : Int := 9223372036854775807
def int64Min : Int := -9223372036854775808

/-- A signed 64-bit result, `none` where the language leaves it undefined. -/
def int64 (v : Int) : Option Int := if int64Min ≤ v ∧ v ≤ int64Max then some v else none

theorem int64_of_range {v : Int} (hl : int64Min ≤ v) (hu : v ≤ int64Max) : int64 v = some v :=
  if_pos ⟨hl, hu⟩

namespace Reporting

inductive Mode
  | invalid
  | disabled
  | observe
  | repair
  deriving DecidableEq, Repr

inductive Reason
  | none | configMissing | configDisabled | configInvalid | observerRequired
  | reconIneligible | hostMismatch | sdkMismatch | steamClientMismatch
  | profileMismatch | preparationFailed | identityIncomplete | clockFailed
  | counterOverflow | foreignThread | unknownAncestry | truncatedStack | reentry
  | lifecycleCrossing | initFailed | unsupportedReinit | stopping
  | sourceUnavailable | sourceLifetime | sourceClass | worldNotReady | travel
  | unsupportedCounts | wrapperMismatch | proxyUnavailable | unregistered
  | publicIpUnavailable | pending | requestFloor | producerAmbiguous | freshnessExpired
  | taskNotReady | taskAmbiguous | taskMismatch | holderMismatch | taskReused
  | builderChanged | installFailed | postcheckFailed | strandedWrapper
  | preparedUnavailable | preparedMalformed | preparedLimit | preparedMismatch
  | nativeBackoff | knownSpin | nativeUnwind | writeFault
  | recordLoss | writerFailed | logLimit | statusUnavailable | spectatorsPresent
  | capacityMismatch
  deriving DecidableEq, Repr

/-- Native `PI_COUNT` is not humans plus bots and may exceed the maximum. -/
structure NativeCounts where
  pi : Nat
  bots : Nat
  maximum : Nat
  deriving DecidableEq, Repr

def kRequestFloorSeconds : Int := 20
def kFreshnessSeconds : Int := 45

end Reporting
end RS2ServerFix
