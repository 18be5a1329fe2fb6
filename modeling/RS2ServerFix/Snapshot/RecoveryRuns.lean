import RS2ServerFix.Snapshot.RecoveryStores

namespace RS2ServerFix.Snapshot

open Reporting Lib

abbrev RecoveryPool := Pool RecoveryParty RecoveryShared RecoveryReturn

def recoveryBetween : RecoveryParty → List RecoveryReturn → RecoveryShared → Prop
  | .initializer, results, s => WireInv s ∧ IdentityKnown results s
  | .publisher, results, s => WireInv s ∧ Complete results s
  | .reader _, results, s => WireInv s ∧ Snapshots s (results.filterMap RecoveryReturn.snapshot?)

theorem recoveryBetween_stable (party : RecoveryParty) (results : List RecoveryReturn) :
    Stable (Rely WireInv recoveryGuarantee party) (recoveryBetween party results) := by
  intro s s' hs hr
  cases party with
  | initializer => exact ⟨hr.2.2, IdentityKnown.stable results s s' hs.2 hr.shift⟩
  | publisher => exact ⟨hr.2.2, Complete.stable results s s' hs.2 hr⟩
  | reader i => exact ⟨hr.2.2, Snapshots.stable _ s s' hs.2 hr.shift⟩

theorem recovery_discipline : Discipline WireInv recoveryGuarantee recoveryBetween RecoveryCall where
  call := by
    intro party p results hp
    cases hp with
    | start identity =>
        apply (initializeRecoveryStatus_safe results identity).bind
        exact fun done => Triple.done (recoveryBetween_stable .initializer _) fun _ => id
    | publish payload =>
        apply (publishRecoveryStatus_safe results payload).bind
        exact fun done => Triple.done (recoveryBetween_stable .publisher _) fun _ => id
    | read i fails =>
        apply (readRecoveryStatusSnapshot_reads fails (results.filterMap RecoveryReturn.snapshot?)).bind
        exact fun snapshot => Triple.done (recoveryBetween_stable (.reader i) _) fun _ => id

theorem zero_inv : WireInv .zero where
  ready := .inl rfl
  fresh := fun _ => ⟨rfl, rfl⟩
  initialized := fun h => absurd (show (0 : UInt64) = 1 from h) (by decide)
  beyond := fun _ _ => rfl

theorem recoveryBetween_zero (party : RecoveryParty) : recoveryBetween party [] .zero := by
  cases party with
  | initializer => exact ⟨zero_inv, fun _ h => by cases h⟩
  | publisher => exact ⟨zero_inv, fun h => absurd (show (0 : UInt64) = 1 from h) (by decide), fun _ => rfl⟩
  | reader i => exact ⟨zero_inv, .nil _⟩

theorem recovery_going {x y : RecoveryPool} (hx : x.Start RecoveryCall) (hzero : x.state = .zero)
    (hr : Pool.Run RecoveryCall x y) : Pool.Going WireInv recoveryGuarantee recoveryBetween y :=
  (Pool.Going.run recovery_discipline
    (hx.going recovery_discipline (hzero ▸ zero_inv) fun party => hzero ▸ recoveryBetween_zero party) hr).1

/-- Everything the publisher's calls took is there, in its order, over the zero
payload of the initialization. -/
def Taken (results : List RecoveryReturn) (s : RecoveryShared) : Prop :=
  accepted results = [] ∨ accepted results ++ [ReportRecoveryPayload.zero] <:+ s.published

theorem Taken.stable (results : List RecoveryReturn) : Stable WireShift (Taken results) := by
  intro s s' h hs
  rcases h with h | h
  · exact .inl h
  · exact .inr (h.trans (later_of_shift hs).published)

theorem Complete.taken {s : RecoveryShared} {results : List RecoveryReturn} (h : Complete results s) :
    Taken results s := by
  by_cases hready : s.wire.headerReady = 1
  · exact .inr ((h.ready hready).2 ▸ List.suffix_rfl)
  · exact .inl (h.fresh hready)

theorem Coherent.payload {s : RecoveryShared} {r : RecoveryStatusSnapshot} (h : Coherent s r) :
    s.published.reverse[r.ownerSequence.toNat / 2 - 1]? = some r.payload := by
  obtain ⟨-, -, hv⟩ := h.published
  change (s.published.map ReportRecoveryPayload.word).reverse[_]? = _ at hv
  rw [← List.map_reverse, List.getElem?_map, Option.map_eq_some_iff] at hv
  obtain ⟨p, hp, hword⟩ := hv
  rw [hp, ← ReportRecoveryPayload.ofWords_word p, hword, ReportRecoveryPayload.ofWords_word]

/-- Whatever the order of the loads and stores, no snapshot is invalid; a
coherent one is the header of the initialized identity with one published
payload, that of its sequence; and no reader goes back. -/
theorem recovery_status_seqlock {x y : RecoveryPool} (hx : x.Start RecoveryCall) (hzero : x.state = .zero)
    (hr : Pool.Run RecoveryCall x y) :
    (∀ identity, .initialized identity true ∈ y.returned .initializer → y.state.identity = some identity) ∧
    (accepted (y.returned .publisher) = [] ∨
      accepted (y.returned .publisher) ++ [ReportRecoveryPayload.zero] <:+ y.state.published) ∧
    ∀ i, ((y.returned (.reader i)).filterMap RecoveryReturn.snapshot?).Pairwise (fun later earlier =>
        later.result = .coherent → earlier.result = .coherent →
          earlier.ownerSequence.toNat ≤ later.ownerSequence.toNat) ∧
      ∀ r ∈ (y.returned (.reader i)).filterMap RecoveryReturn.snapshot?, r.result ≠ .invalid ∧
        (r.result = .coherent → r.headerReady = 1 ∧
          (∃ identity, y.state.identity = some identity ∧ r.header = headerOf identity) ∧
          r.ownerSequence.toNat % 2 = 0 ∧ 2 ≤ r.ownerSequence.toNat ∧
          y.state.published.reverse[r.ownerSequence.toNat / 2 - 1]? = some r.payload) := by
  have hgoing := recovery_going hx hzero hr
  refine ⟨?_, ?_, fun i => ?_⟩
  · exact hgoing.returned (i := .initializer) (fun _ _ _ h => h.2) IdentityKnown.stable
  · exact hgoing.returned (i := .publisher) (fun _ _ _ h => h.2.taken) Taken.stable
  · have hsnapshots : Snapshots y.state ((y.returned (.reader i)).filterMap RecoveryReturn.snapshot?) :=
      hgoing.returned (i := .reader i) (fun _ _ _ h => h.2) fun results => Snapshots.stable _
    refine ⟨hsnapshots.ordered, fun r hm => ⟨hsnapshots.valid r hm, fun hc => ?_⟩⟩
    have hcoherent := hsnapshots.coherent r hm hc
    exact ⟨hcoherent.whole, hcoherent.header, hcoherent.published.1, hcoherent.published.2.1, hcoherent.payload⟩

def sampleIdentity : StatusHeader where
  magic := kStatusMagic
  schema := kStatusSchemaV3
  bytes := statusWireV3Bytes
  artifactVersion := kReportingArtifactVersionV3
  configuredMode := 2
  pid := 4
  validity := completeHeaderIdentity
  processCreation := 1
  qpcFrequency := 10000000
  runId := (1, 0)
  hostDigest := Vector.replicate 32 7
  reserved := Vector.replicate 4 0

def samplePayload : ReportRecoveryPayload :=
  { ReportRecoveryPayload.zero with
    phase := recoveryPhaseRequested
    flags := RecoveryFlags.permissionEnabled ||| RecoveryFlags.consoleRequested
    operationSequence := 1
    transitionSequence := 1
    qpc := 5000 }

def samplePool : RecoveryPool where
  state := .zero
  program
    | .initializer => (initializeRecoveryStatus sampleIdentity).bind fun done => .done (.initialized sampleIdentity done)
    | .publisher => (publishRecoveryStatus samplePayload).bind fun done => .done (.published samplePayload done)
    | .reader _ => (readRecoveryStatusSnapshot fun _ _ => false).bind fun snapshot => .done (.read snapshot)
  results _ := []

theorem samplePool_start : samplePool.Start RecoveryCall where
  program := by
    intro party
    cases party with
    | initializer => exact .start sampleIdentity
    | publisher => exact .publish samplePayload
    | reader i => exact .read i _
  results := fun _ => rfl

theorem sampleIdentity_valid : reportingIdentityValidV3 sampleIdentity = true := by decide +kernel

theorem samplePayload_valid : samplePayload.recoveryPayloadValid = true := by decide +kernel

def sampleReady : RecoveryPool where
  state := ⟨⟨headerOf sampleIdentity, 1, 2,
    storedWords (fun _ => 0) 0 (ReportRecoveryPayload.words ReportRecoveryPayload.zero)⟩, some sampleIdentity,
    [ReportRecoveryPayload.zero]⟩
  program := Function.update samplePool.program .initializer (.done (.initialized sampleIdentity true))
  results := samplePool.results

theorem sampleReady_run : Pool.Run RecoveryCall samplePool sampleReady := by
  have hinitialized : (samplePool.program .initializer).run samplePool.state =
      (.initialized sampleIdentity true, sampleReady.state) := by
    change ((initializeRecoveryStatus sampleIdentity).bind _).run _ = _
    unfold initializeRecoveryStatus
    rw [sampleIdentity_valid]
    rfl
  have hrun : Pool.Run RecoveryCall samplePool _ := Pool.Run.alone samplePool .initializer
  rw [hinitialized] at hrun
  exact hrun

def samplePublished : RecoveryPool where
  state := ⟨⟨headerOf sampleIdentity, 1, 4,
    storedWords sampleReady.state.wire.payload 0 (ReportRecoveryPayload.words samplePayload)⟩, some sampleIdentity,
    [samplePayload, ReportRecoveryPayload.zero]⟩
  program := Function.update sampleReady.program .publisher (.done (.published samplePayload true))
  results := samplePool.results

theorem samplePublished_run : Pool.Run RecoveryCall sampleReady samplePublished := by
  have hpublished : (sampleReady.program .publisher).run sampleReady.state =
      (.published samplePayload true, samplePublished.state) := by
    change ((publishRecoveryStatus samplePayload).bind _).run _ = _
    unfold publishRecoveryStatus
    rw [samplePayload_valid]
    rfl
  have hrun : Pool.Run RecoveryCall sampleReady _ := Pool.Run.alone sampleReady .publisher
  rw [hpublished] at hrun
  exact hrun

def sampleSnapshot : RecoveryStatusSnapshot :=
  ⟨.coherent, 1, headerOf sampleIdentity, 1, 4, samplePayload⟩

/-- The payload the publisher gave is the one the reader finds. -/
theorem recovery_status_seqlock_sample : ∃ y : RecoveryPool, Pool.Run RecoveryCall samplePool y ∧
    accepted (y.returned .publisher) = [samplePayload] ∧
    sampleSnapshot ∈ (y.returned (.reader 0)).filterMap RecoveryReturn.snapshot? ∧
    y.state.published.reverse[sampleSnapshot.ownerSequence.toNat / 2 - 1]? = some sampleSnapshot.payload := by
  have hrun : Pool.Run RecoveryCall samplePool _ :=
    (sampleReady_run.trans samplePublished_run).trans (Pool.Run.alone samplePublished (.reader 0))
  obtain ⟨-, -, hread⟩ := recovery_status_seqlock samplePool_start rfl hrun
  have hmem := List.mem_singleton_self sampleSnapshot
  exact ⟨_, hrun, rfl, hmem, (((hread 0).2 sampleSnapshot hmem).2 rfl).2.2.2.2⟩

end RS2ServerFix.Snapshot
