import RS2ServerFix.Lib.Handover
import RS2ServerFix.Lib.Pool
import RS2ServerFix.Reporting.Canonical

namespace RS2ServerFix.Reporting

open Lib Lib.Prog Lib.Handover

structure ReportRing (R : Type) where
  ownerThreadId : UInt32
  ready : Bool
  reportWriteSequence : Nat
  reportReadSequence : Nat
  slots : Slots 256 R

/-- What the threads share, with the records put into the ring so far. No step
of the source keeps that list; the one that publishes a record extends it. -/
structure RingShared (R : Type) where
  status : StatusWords
  ring : ReportRing R
  accepted : List R

inductive ReadResult (R : Type)
  | record (r : R)
  | empty
  | unavailable
  | lost
  deriving DecidableEq, Repr

variable {R : Type}

def RingShared.started [Inhabited R] (status : StatusWords) (ownerThreadId : UInt32) : RingShared R :=
  ⟨status, ⟨ownerThreadId, true, 0, 0, .fill default⟩, []⟩

def RingShared.handover (s : RingShared R) : Handover 256 R :=
  ⟨s.ring.slots, s.ring.reportWriteSequence, s.ring.reportReadSequence, s.accepted⟩

def revokeStep (reason : Reason) : Prog (RingShared R) Unit :=
  modify fun s => { s with status := revokeStatus s.status reason }

def loseSteps (reason : Reason) : Prog (RingShared R) Unit := do
  modify fun s => { s with status := { s.status with lossReasons := s.status.lossReasons ||| reasonMask reason } }
  revokeStep reason

section Version

variable [Inhabited R] (v : RecordVersion R)

def statusRevokedSteps : Prog (RingShared R) Bool := do
  let revoked ← read fun s => decide (s.status.revokeReasons ≠ 0)
  if revoked then pure true
  else
    let lost ← read fun s => decide (s.status.lossReasons ≠ 0)
    if lost then pure true
    else
      let stopping ← read fun s => s.status.stopping
      if stopping then pure true
      else read fun s => v.faulted s.status

def admissionSteps : Prog (RingShared R) ReportWriteResult := do
  let stopping ← read fun s => s.status.stopping
  if stopping then pure .stopping
  else
    let revoked ← statusRevokedSteps v
    if revoked then
      let stopping ← read fun s => s.status.stopping
      pure (if stopping then .stopping else .revoked)
    else pure .accepted

def writeLossSteps (reason : Reason) : Prog (RingShared R) (ReportWriteResult × Nat) := do
  loseSteps reason
  pure (.lost, 0)

def publishSteps (written : Nat) (record : R) : Prog (RingShared R) (ReportWriteResult × Nat) := do
  modify fun s => { s with ring := { s.ring with slots := s.ring.slots.set written record } }
  modify fun s =>
    { s with ring := { s.ring with reportWriteSequence := written + 1 }, accepted := s.accepted ++ [record] }
  pure (.accepted, written + 1)

def enqueueSteps (thread : UInt32) (input : R) : Prog (RingShared R) (ReportWriteResult × Nat) := do
  let ready ← read fun s => s.ring.ready
  if !ready then pure (.unavailable, 0)
  else
    let owner ← read fun s => s.ring.ownerThreadId
    if thread ≠ owner then
      revokeStep .foreignThread
      pure (.revoked, 0)
    else
      let admitted ← admissionSteps v
      if admitted ≠ .accepted then pure (admitted, 0)
      else if ¬ v.Valid input then writeLossSteps .recordLoss
      else
        let written ← read fun s => s.ring.reportWriteSequence
        let read ← read fun s => s.ring.reportReadSequence
        if written < read ∨ kReportRecordCapacity < written - read then writeLossSteps .recordLoss
        else if written = uint64Max then writeLossSteps .counterOverflow
        else if written - read = kReportRecordCapacity then writeLossSteps .recordLoss
        else
          let admitted ← admissionSteps v
          if admitted ≠ .accepted then pure (admitted, 0)
          else publishSteps written (v.canonical input (written + 1).toUInt64 owner)

def slotReadableBy (owner : UInt32) (read : Nat) (slot : R) : Bool :=
  let h := v.header slot
  h.sequence.toNat = read + 1 && 1 ≤ h.kind && h.kind < v.kindCount && h.reason < kReasonCount.toUInt32 &&
    h.threadId = owner && v.validRecovery slot

def readLossSteps : Prog (RingShared R) (ReadResult R) := do
  loseSteps .recordLoss
  pure .lost

/-- The slot is copied and scrubbed before it goes back to the writer. -/
def releaseSteps (sequence : Nat) : Prog (RingShared R) (ReadResult R) := do
  let record ← read fun s => s.ring.slots.get sequence
  modify fun s => { s with ring := { s.ring with slots := s.ring.slots.set sequence default } }
  modify fun s => { s with ring := { s.ring with reportReadSequence := sequence + 1 } }
  pure (.record record)

def dequeueSteps : Prog (RingShared R) (ReadResult R) := do
  let ready ← read fun s => s.ring.ready
  if !ready then pure .unavailable
  else
    let sequence ← read fun s => s.ring.reportReadSequence
    let written ← read fun s => s.ring.reportWriteSequence
    if written < sequence ∨ kReportRecordCapacity < written - sequence then readLossSteps
    else if sequence = written then pure .empty
    else
      let owner ← read fun s => s.ring.ownerThreadId
      let slot ← read fun s => s.ring.slots.get sequence
      if !slotReadableBy v owner sequence slot then readLossSteps
      else releaseSteps sequence

end Version

def ReportRing.toV3 (ring : ReportRing ReportRecordV3) : ReportRingV3 :=
  ⟨ring.ownerThreadId, ring.ready, ring.reportWriteSequence, ring.reportReadSequence, ring.slots⟩

def ReadResult.toV3 : ReadResult ReportRecordV3 → ReportReadResult
  | .record r => .record r
  | .empty => .empty
  | .unavailable => .unavailable
  | .lost => .lost

theorem statusRevokedSteps_run (s : RingShared ReportRecordV3) :
    (statusRevokedSteps recordsV3).run s = (statusRevoked s.status, s) := by
  by_cases hr : s.status.revokeReasons = 0
  · by_cases hl : s.status.lossReasons = 0
    · cases hs : s.status.stopping
      · simp [statusRevokedSteps, statusRevoked, recordsV3, hr, hl, hs]
      · simp [statusRevokedSteps, statusRevoked, hr, hl, hs]
    · simp [statusRevokedSteps, statusRevoked, hr, hl]
  · simp [statusRevokedSteps, statusRevoked, hr]

theorem admissionSteps_run (s : RingShared ReportRecordV3) :
    (admissionSteps recordsV3).run s = (admission s.status, s) := by
  cases hs : s.status.stopping
  · cases hr : statusRevoked s.status
    · simp [admissionSteps, admission, statusRevokedSteps_run, hs, hr]
    · simp [admissionSteps, admission, statusRevokedSteps_run, hs, hr]
  · simp [admissionSteps, admission, hs]

theorem admissionSteps_bind_run {α : Type} (k : ReportWriteResult → Prog (RingShared ReportRecordV3) α)
    (s : RingShared ReportRecordV3) : ((admissionSteps recordsV3).bind k).run s = (k (admission s.status)).run s := by
  rw [run_bind, admissionSteps_run]

theorem loseSteps_run (s : RingShared ReportRecordV3) (reason : Reason) :
    (loseSteps reason).run s = ((), { s with status := loseStatus s.status reason }) := rfl

theorem recordsV3_valid (r : ReportRecordV3) :
    ¬ recordsV3.Valid r ↔ (!validHeader r.header) = true ∨ (!validRecovery r) = true := by
  have hheader : recordsV3.validHeader r.header = validHeader r.header := rfl
  change ¬ (recordsV3.validHeader r.header = true ∧ validRecovery r = true) ↔ _
  rw [hheader]
  cases validHeader r.header <;> cases validRecovery r <;> simp

def RingShared.outcome (x : (ReportWriteResult × Nat) × RingShared ReportRecordV3) :
    StatusWords × ReportRingV3 × ReportWriteResult × Nat := (x.2.status, x.2.ring.toV3, x.1)

/-- A call that nobody comes in between of is the call of the sequential model. -/
theorem enqueueSteps_run (thread : UInt32) (input : ReportRecordV3) (s : RingShared ReportRecordV3) :
    RingShared.outcome ((enqueueSteps recordsV3 thread input).run s) =
      enqueueReport s.status s.ring.toV3 thread input := by
  simp only [enqueueSteps, bind_def, pure_def, run_read_bind, run_ite, admissionSteps_bind_run,
    recordsV3_valid, apply_ite RingShared.outcome]
  -- the branches of the two calls, in the order of the source
  refine ite_congr rfl (fun _ => rfl) fun _ => ?_
  refine ite_congr rfl (fun _ => rfl) fun _ => ?_
  refine ite_congr rfl (fun _ => rfl) fun hadmitted => ?_
  refine ite_congr rfl (fun _ => rfl) fun _ => ?_
  refine ite_congr rfl (fun _ => rfl) fun _ => ?_
  refine ite_congr rfl (fun _ => rfl) fun _ => ?_
  refine ite_congr rfl (fun _ => rfl) fun _ => ?_
  rw [if_neg hadmitted]
  rfl

def RingShared.dequeued (x : ReadResult ReportRecordV3 × RingShared ReportRecordV3) :
    StatusWords × ReportRingV3 × ReportReadResult := (x.2.status, x.2.ring.toV3, x.1.toV3)

theorem dequeueSteps_run (s : RingShared ReportRecordV3) :
    RingShared.dequeued ((dequeueSteps recordsV3).run s) = dequeueReport s.status s.ring.toV3 := by
  simp only [dequeueSteps, bind_def, pure_def, run_read_bind, run_ite, apply_ite RingShared.dequeued]
  refine ite_congr rfl (fun _ => rfl) fun _ => ?_
  refine ite_congr rfl (fun _ => rfl) fun _ => ?_
  refine ite_congr rfl (fun _ => rfl) fun _ => ?_
  exact ite_congr rfl (fun _ => rfl) fun _ => rfl

end RS2ServerFix.Reporting
