import RS2ServerFix.Reporting.RingSteps

namespace RS2ServerFix.Reporting

open Relation Lib Lib.Prog Lib.Handover

variable {R : Type} [Inhabited R]

/-- The thread that owns the ring, the one that empties it, and everything else
in the process. -/
inductive RingParty
  | producer
  | consumer
  | outsider
  deriving DecidableEq, Repr

inductive RingCall (R : Type)
  | enqueued (input : R) (result : ReportWriteResult) (sequence : Nat)
  | dequeued (result : ReadResult R)
  | other
  deriving Repr

/-- A step that leaves the ring alone, whatever it does to the status. -/
def Untouched (s s' : RingShared R) : Prop := s'.ring = s.ring ∧ s'.accepted = s.accepted

def Canonical (v : RecordVersion R) (owner : UInt32) (k : Nat) (r : R) : Prop :=
  ∃ input, v.Valid input ∧ k + 1 ≤ uint64Max ∧ r = v.canonical input (k + 1).toUInt64 owner

structure RingKept (v : RecordVersion R) (owner : UInt32) (s : RingShared R) : Prop where
  ready : s.ring.ready = true
  thread : s.ring.ownerThreadId = owner
  handover : Kept default (Canonical v owner) s.handover

def Unchanged (s s' : RingShared R) : Prop :=
  s'.ring.ready = s.ring.ready ∧ s'.ring.ownerThreadId = s.ring.ownerThreadId

def ringGuarantee (v : RecordVersion R) (owner : UInt32) : RingParty → RingShared R → RingShared R → Prop
  | .producer, s, s' => Unchanged s s' ∧ Give (Canonical v owner) s.handover s'.handover
  | .consumer, s, s' => Unchanged s s' ∧ Take default s.handover s'.handover
  | .outsider, s, s' => Untouched s s'

/-- Any number of calls of the owner and of the worker, and whatever the others
do: a call of a foreign thread, or any steps that leave the ring alone. -/
def ringCalls (v : RecordVersion R) (owner : UInt32) : RingParty → Prog (RingShared R) (RingCall R) → Prop
  | .producer, p => ∃ input, p = (enqueueSteps v owner input).bind fun a => .done (.enqueued input a.1 a.2)
  | .consumer, p => p = (dequeueSteps v).bind fun r => .done (.dequeued r)
  | .outsider, p => (∃ thread input, thread ≠ owner ∧ p = (enqueueSteps v thread input).bind fun _ => .done .other) ∨
      p.Steps Untouched

def dequeuedRecords (results : List (RingCall R)) : List R :=
  results.reverse.filterMap fun c =>
    match c with
    | .dequeued (.record r) => some r
    | _ => none

section Discipline

variable {v : RecordVersion R} {owner : UInt32} {party : RingParty}

abbrev RingTriple {α : Type} (v : RecordVersion R) (owner : UInt32) (party : RingParty) (P : RingShared R → Prop)
    (p : Prog (RingShared R) α) (Q : α → RingShared R → Prop) : Prop :=
  Triple (Rely (RingKept v owner) (ringGuarantee v owner) party)
    (Within (RingKept v owner) (ringGuarantee v owner party))
    (fun s => RingKept v owner s ∧ P s) p fun a s => RingKept v owner s ∧ Q a s

omit [Inhabited R] in
theorem Untouched.handover {s s' : RingShared R} (h : Untouched s s') : s'.handover = s.handover := by
  rw [RingShared.handover, RingShared.handover, h.1, h.2]

theorem Untouched.kept {s s' : RingShared R} (h : Untouched s s') (hk : RingKept v owner s) : RingKept v owner s' where
  ready := (congrArg ReportRing.ready h.1).trans hk.ready
  thread := (congrArg ReportRing.ownerThreadId h.1).trans hk.thread
  handover := h.handover.symm ▸ hk.handover

theorem Untouched.guarantee {s s' : RingShared R} (h : Untouched s s') : ringGuarantee v owner party s s' := by
  have hfixed : Unchanged s s' := ⟨congrArg ReportRing.ready h.1, congrArg ReportRing.ownerThreadId h.1⟩
  cases party with
  | producer => exact ⟨hfixed, h.handover.symm ▸ .rest⟩
  | consumer => exact ⟨hfixed, h.handover.symm ▸ .rest⟩
  | outsider => exact h

/-- What no step of the reader takes back. -/
theorem producer_stable {A : Handover 256 R → Prop}
    (h : ∀ x x', Kept default (Canonical v owner) x → Take default x x' → A x → A x') :
    Stable (Rely (RingKept v owner) (ringGuarantee v owner) .producer) fun s => A s.handover := by
  rintro s s' ha ⟨⟨j, hj, hg⟩, hi, -⟩
  cases j with
  | producer => exact absurd rfl hj
  | consumer => exact h _ _ hi.handover hg.2 ha
  | outsider => exact (Untouched.handover hg).symm ▸ ha

/-- What no step of the writer takes back. -/
theorem consumer_stable {A : Handover 256 R → Prop}
    (h : ∀ x x', Kept default (Canonical v owner) x → Give (Canonical v owner) x x' → A x → A x') :
    Stable (Rely (RingKept v owner) (ringGuarantee v owner) .consumer) fun s => A s.handover := by
  rintro s s' ha ⟨⟨j, hj, hg⟩, hi, -⟩
  cases j with
  | producer => exact h _ _ hi.handover hg.2 ha
  | consumer => exact absurd rfl hj
  | outsider => exact (Untouched.handover hg).symm ▸ ha

theorem ring_quiet {α : Type} {p : Prog (RingShared R) α} (hp : p.Steps Untouched) {A : Handover 256 R → Prop}
    (hA : Stable (Rely (RingKept v owner) (ringGuarantee v owner) party) fun s => A s.handover) :
    RingTriple v owner party (fun s => A s.handover) p fun _ s => A s.handover := by
  refine hp.triple (fun s s' hs hr => ⟨hr.2.2, hA s s' hs.2 hr⟩) (fun s s' hs hu => ⟨hu.kept hs.1, ?_⟩)
    fun s s' hs hu _ => ⟨hu.guarantee, hu.kept hs.1⟩
  change A s'.handover
  rw [hu.handover]
  exact hs.2

theorem ring_read {α : Type} {A : Handover 256 R → Prop} {B : α → Handover 256 R → Prop} {f : RingShared R → α}
    (hA : Stable (Rely (RingKept v owner) (ringGuarantee v owner) party) fun s => A s.handover)
    (hB : ∀ a, Stable (Rely (RingKept v owner) (ringGuarantee v owner) party) fun s => B a s.handover)
    (h : ∀ s, RingKept v owner s → A s.handover → B (f s) s.handover) :
    RingTriple v owner party (fun s => A s.handover) (.read f) fun a s => B a s.handover :=
  .move hA hB fun s hi ha => ⟨Untouched.guarantee ⟨rfl, rfl⟩, hi, h s hi ha⟩

theorem steps_ite {σ α : Type} {T : σ → σ → Prop} {c : Prop} [Decidable c] {p q : Prog σ α} (hp : p.Steps T)
    (hq : q.Steps T) : (if c then p else q).Steps T := by
  split
  · exact hp
  · exact hq

omit [Inhabited R] in
theorem loseSteps_steps (reason : Reason) : (loseSteps reason : Prog (RingShared R) Unit).Steps Untouched :=
  .bind (.act fun _ => ⟨rfl, rfl⟩) fun _ => .act fun _ => ⟨rfl, rfl⟩

omit [Inhabited R] in
theorem admissionSteps_steps (v : RecordVersion R) : (admissionSteps v).Steps Untouched := by
  have hread : ∀ {α : Type} (f : RingShared R → α), (Prog.read f).Steps (Untouched (R := R)) :=
    fun f => .read f fun _ => ⟨rfl, rfl⟩
  have hrevoked : (statusRevokedSteps v).Steps Untouched :=
    .bind (hread _) fun _ => steps_ite trivial (.bind (hread _) fun _ => steps_ite trivial
      (.bind (hread _) fun _ => steps_ite trivial (hread _)))
  exact .bind (hread _) fun _ => steps_ite trivial (.bind hrevoked fun _ =>
    steps_ite (.bind (hread _) fun _ => trivial) trivial)

theorem RingKept.write_le {s : RingShared R} (h : RingKept v owner s) : s.handover.write ≤ uint64Max := by
  rcases Nat.eq_zero_or_pos s.handover.write with hzero | hpos
  · omega
  · have hcount := h.handover.count
    obtain ⟨input, -, hle, -⟩ := h.handover.fit (s.handover.write - 1) _
      (List.getElem?_eq_getElem (by omega : s.handover.write - 1 < s.handover.given.length))
    omega

/-- What an accepted call has left behind for good. -/
def Enqueued (v : RecordVersion R) (owner : UInt32) (input : R) (a : ReportWriteResult × Nat) (h : Handover 256 R) :
    Prop :=
  a.1 = .accepted → v.Valid input ∧ 0 < a.2 ∧ h.given[a.2 - 1]? = some (v.canonical input a.2.toUInt64 owner)

theorem clear_stable :
    Stable (Rely (RingKept v owner) (ringGuarantee v owner) .producer) fun s => Clear default s.handover :=
  producer_stable fun _ _ hk hs hclear => hs.clear hk hclear

theorem enqueued_stable (input : R) (a : ReportWriteResult × Nat) :
    Stable (Rely (RingKept v owner) (ringGuarantee v owner) .producer) fun s =>
      Clear default s.handover ∧ Enqueued v owner input a s.handover :=
  clear_stable.and (producer_stable (A := fun h => Enqueued v owner input a h) fun _ _ _ hs h ha => hs.given_eq.symm ▸ h ha)

theorem room_stable (written : Nat) : Stable (Rely (RingKept v owner) (ringGuarantee v owner) .producer)
    fun s => written = s.handover.write ∧ written < s.handover.read + 256 :=
  producer_stable (A := fun h => written = h.write ∧ written < h.read + 256) fun _ _ _ hs h =>
    ⟨h.1.trans hs.write_eq.symm, h.2.trans_le (Nat.add_le_add_right hs.read_le _)⟩

theorem filled_stable (written : Nat) (r : R) : Stable (Rely (RingKept v owner) (ringGuarantee v owner) .producer)
    fun s => (written = s.handover.write ∧ written < s.handover.read + 256) ∧
      s.handover.slots.get s.handover.write = r := by
  refine producer_stable (A := fun h => (written = h.write ∧ written < h.read + 256) ∧ h.slots.get h.write = r) ?_
  intro x x' _ hs h
  obtain ⟨⟨hw, hroom⟩, hslot⟩ := h
  exact ⟨⟨hw.trans hs.write_eq.symm, hroom.trans_le (Nat.add_le_add_right hs.read_le _)⟩,
    (hs.filled (hw ▸ hroom)).trans hslot⟩

theorem publish_keeps {written : Nat} {input : R} (hvalid : v.Valid input) (hmax : written + 1 ≤ uint64Max) :
    RingTriple v owner .producer
      (fun s => (written = s.handover.write ∧ written < s.handover.read + 256) ∧ Clear default s.handover)
      (publishSteps written (v.canonical input (written + 1).toUInt64 owner))
      fun a s => Clear default s.handover ∧ Enqueued v owner input a s.handover := by
  set record := v.canonical input (written + 1).toUInt64 owner with hrecord
  unfold publishSteps
  simp only [bind_def, pure_def]
  have hfill : ∀ s, RingKept v owner s →
      (written = s.handover.write ∧ written < s.handover.read + 256) ∧ Clear default s.handover →
      Give (Canonical v owner) s.handover { s.handover with slots := s.handover.slots.set written record } := by
    rintro s - ⟨⟨hw, hroom⟩, -⟩
    rw [hw]
    exact .fill record (hw ▸ hroom)
  have hpublish : ∀ s, RingKept v owner s →
      (written = s.handover.write ∧ written < s.handover.read + 256) ∧ s.handover.slots.get s.handover.write = record →
      Give (Canonical v owner) s.handover
        { s.handover with write := written + 1, given := s.handover.given ++ [record] } := by
    rintro s - ⟨⟨hw, hroom⟩, hslot⟩
    rw [hw]
    exact .publish record (hw ▸ hroom) ⟨input, hvalid, hw ▸ hmax, hw ▸ hrecord⟩ hslot
  refine .bind (.move (Q := fun _ s => (written = s.handover.write ∧ written < s.handover.read + 256) ∧
      s.handover.slots.get s.handover.write = record) ((room_stable written).and clear_stable)
    (fun _ => filled_stable written record) fun s hi h => ?_) fun _ => .bind (.move
      (Q := fun _ s => Clear default s.handover ∧ Enqueued v owner input (.accepted, written + 1) s.handover)
      (filled_stable written record) (fun _ => enqueued_stable input _) fun s hi h => ?_) fun _ => ?_
  · have hg := hfill s hi h
    refine ⟨⟨⟨rfl, rfl⟩, hg⟩, ⟨hi.ready, hi.thread, hg.kept hi.handover⟩, h.1, ?_⟩
    change (s.handover.slots.set written record).get s.handover.write = record
    rw [h.1.1, Slots.get_set_self]
  · have hg := hpublish s hi h
    refine ⟨⟨⟨rfl, rfl⟩, hg⟩, ⟨hi.ready, hi.thread, hg.kept hi.handover⟩, ?_, fun _ => ⟨hvalid, Nat.succ_pos _, ?_⟩⟩
    · have hclear := hi.handover.clear_publish record
      rw [← h.1.1] at hclear
      exact hclear
    · change (s.handover.given ++ [record])[written]? = some record
      rw [h.1.1, ← hi.handover.count, List.getElem?_concat_length]
  · exact .done (fun s s' hs hr => ⟨hr.2.2, enqueued_stable input _ s s' hs.2 hr⟩) fun s hs => hs

theorem enqueue_keeps (v : RecordVersion R) (owner : UInt32) (input : R) :
    RingTriple v owner .producer (fun s => Clear default s.handover) (enqueueSteps v owner input)
      fun a s => Clear default s.handover ∧ Enqueued v owner input a s.handover := by
  unfold enqueueSteps
  simp only [bind_def, pure_def]
  -- a call that is not accepted ends where it began
  have hend : ∀ a : ReportWriteResult × Nat, a.1 ≠ .accepted → RingTriple v owner .producer
      (fun s => Clear default s.handover) (.done a)
      fun a s => Clear default s.handover ∧ Enqueued v owner input a s.handover := fun a ha =>
    .done (fun s s' hs hr => ⟨hr.2.2, enqueued_stable input a s s' hs.2 hr⟩)
      fun s hs => ⟨hs.1, hs.2, fun h => absurd h ha⟩
  have hlost : ∀ reason, RingTriple v owner .producer (fun s => Clear default s.handover) (writeLossSteps reason)
      fun a s => Clear default s.handover ∧ Enqueued v owner input a s.handover := fun reason =>
    .bind (ring_quiet (loseSteps_steps reason) clear_stable) fun _ => hend _ (by decide)
  have hcounted : ∀ (c : Prop) (written : Nat), Stable (Rely (RingKept v owner) (ringGuarantee v owner) .producer)
      fun s => c ∧ written = s.handover.write ∧ Clear default s.handover := fun c written =>
    (Stable.const c).and ((producer_stable (A := fun h => written = h.write) fun _ _ _ hs h =>
      h.trans hs.write_eq.symm).and clear_stable)
  refine .bind (ring_read (B := fun ready h => ready = true ∧ Clear default h) clear_stable
    (fun _ => (Stable.const _).and clear_stable) fun s hi h => ⟨hi.ready, h⟩) fun ready => .assume fun hready => ?_
  rw [if_neg (by simp [hready])]
  refine .bind (ring_read (B := fun thread h => thread = owner ∧ Clear default h) clear_stable
    (fun _ => (Stable.const _).and clear_stable) fun s hi h => ⟨hi.thread, h⟩) fun thread => .assume fun hthread => ?_
  subst hthread
  rw [if_neg (by simp)]
  refine .bind (ring_quiet (admissionSteps_steps v) clear_stable) fun admitted => ?_
  split
  · next ha => exact hend _ ha
  split
  · exact hlost _
  next hvalid =>
  refine .bind (ring_read (B := fun written h => written ≤ uint64Max ∧ written = h.write ∧ Clear default h) clear_stable
    (fun written => hcounted _ written) fun s hi h => ⟨hi.write_le, rfl, h⟩) fun written => .assume fun hmax => ?_
  have hbounds : ∀ read : Nat, Stable (Rely (RingKept v thread) (ringGuarantee v thread) .producer) fun s =>
      (read ≤ written ∧ written ≤ read + 256) ∧ (written = s.handover.write ∧ read ≤ s.handover.read) ∧
        Clear default s.handover := fun read =>
    (Stable.const _).and ((producer_stable (A := fun h => written = h.write ∧ read ≤ h.read) fun _ _ _ hs h =>
      ⟨h.1.trans hs.write_eq.symm, h.2.trans hs.read_le⟩).and clear_stable)
  refine .bind (ring_read (A := fun h => written = h.write ∧ Clear default h)
    (B := fun read h => (read ≤ written ∧ written ≤ read + 256) ∧ (written = h.write ∧ read ≤ h.read) ∧ Clear default h)
    (fun s s' hs hr => (hcounted True written s s' ⟨trivial, hs⟩ hr).2) hbounds fun s hi h => ?_)
    fun read => .assume fun hread => ?_
  · obtain ⟨hw, hclear⟩ := h
    exact ⟨⟨hw ▸ hi.handover.ordered, hw ▸ hi.handover.room⟩, ⟨hw, le_rfl⟩, hclear⟩
  have hdrop : ∀ {p : Prog (RingShared R) (ReportWriteResult × Nat)} {Q : ReportWriteResult × Nat → RingShared R → Prop},
      RingTriple v thread .producer (fun s => Clear default s.handover) p Q → RingTriple v thread .producer
        (fun s => (written = s.handover.write ∧ read ≤ s.handover.read) ∧ Clear default s.handover) p Q :=
    fun h => h.conseq (fun s hs => ⟨hs.1, hs.2.2⟩) fun _ _ hs => hs
  split
  · exact hdrop (hlost _)
  split
  · exact hdrop (hlost _)
  next hbelow =>
  split
  · exact hdrop (hlost _)
  next hfull =>
  have hquiet := ring_quiet (admissionSteps_steps v) (A := fun h => (written = h.write ∧ read ≤ h.read) ∧ Clear default h)
    (fun s s' hs hr => (hbounds read s s' ⟨hread, hs⟩ hr).2)
  refine .bind hquiet fun admitted => ?_
  split
  · next ha => exact hdrop (hend _ ha)
  have hroom : written < read + 256 := by
    simp only [kReportRecordCapacity] at hfull
    omega
  exact (publish_keeps (not_not.mp hvalid) (by omega)).conseq
    (fun s hs => ⟨hs.1, ⟨hs.2.1.1, hroom.trans_le (Nat.add_le_add_right hs.2.1.2 _)⟩, hs.2.2⟩) fun _ _ hs => hs

omit [Inhabited R] in
theorem Canonical.readable (hv : v.Lawful) {k : Nat} {r : R} (h : Canonical v owner k r) :
    slotReadableBy v owner k r = true := by
  obtain ⟨input, ⟨hheader, hrecovery⟩, hk, rfl⟩ := h
  simp only [RecordVersion.validHeader, Bool.and_eq_true, decide_eq_true_eq] at hheader
  obtain ⟨⟨⟨-, hlow⟩, hhigh⟩, hreason⟩ := hheader
  have hsequence : (k + 1).toUInt64.toNat = k + 1 := by
    have hsize : UInt64.size = uint64Max + 1 := rfl
    exact UInt64.toNat_ofNat_of_lt' (by omega)
  simp only [slotReadableBy, hv.header, hsequence, hlow, hhigh, hreason, hv.recovery _ _ _ hrecovery, decide_true,
    Bool.and_true]

/-- What a call of the worker comes to that found `k` records taken before. -/
def Dequeued (k : Nat) (r : ReadResult R) (h : Handover 256 R) : Prop :=
  r = .empty ∧ h.read = k ∨ ∃ x, r = .record x ∧ h.read = k + 1 ∧ h.given[k]? = some x

theorem loaded_stable :
    Stable (Rely (RingKept v owner) (ringGuarantee v owner) .consumer) fun s => Loaded s.handover :=
  consumer_stable fun _ _ hk hs hloaded => hs.loaded hk hloaded

theorem dequeued_stable (k : Nat) (r : ReadResult R) :
    Stable (Rely (RingKept v owner) (ringGuarantee v owner) .consumer) fun s =>
      Dequeued k r s.handover ∧ Loaded s.handover := by
  refine Stable.and (consumer_stable (A := fun h => Dequeued k r h) ?_) loaded_stable
  rintro x x' - hs (⟨hr, hread⟩ | ⟨y, hr, hread, hgiven⟩)
  · exact .inl ⟨hr, hs.read_eq.trans hread⟩
  · exact .inr ⟨y, hr, hs.read_eq.trans hread, hs.given_mono hgiven⟩

theorem pending_stable (k written : Nat) :
    Stable (Rely (RingKept v owner) (ringGuarantee v owner) .consumer) fun s =>
      (s.handover.read = k ∧ written ≤ s.handover.write) ∧ Loaded s.handover :=
  (consumer_stable (A := fun h => h.read = k ∧ written ≤ h.write) fun _ _ _ hs h =>
    ⟨hs.read_eq.trans h.1, h.2.trans hs.write_le⟩).and loaded_stable

theorem release_keeps {k : Nat} : RingTriple v owner .consumer
    (fun s => (s.handover.read = k ∧ k + 1 ≤ s.handover.write) ∧ Loaded s.handover) (releaseSteps k)
    fun r s => Dequeued k r s.handover ∧ Loaded s.handover := by
  unfold releaseSteps
  simp only [bind_def, pure_def]
  have htaken : ∀ record : R, Stable (Rely (RingKept v owner) (ringGuarantee v owner) .consumer) fun s =>
      (s.handover.read = k ∧ k < s.handover.write) ∧ s.handover.given[k]? = some record := fun record =>
    consumer_stable (A := fun h => (h.read = k ∧ k < h.write) ∧ h.given[k]? = some record) fun _ _ _ hs h =>
      ⟨⟨hs.read_eq.trans h.1.1, h.1.2.trans_le hs.write_le⟩, hs.given_mono h.2⟩
  have hwiped : ∀ record : R, Stable (Rely (RingKept v owner) (ringGuarantee v owner) .consumer) fun s =>
      ((s.handover.read = k ∧ k < s.handover.write) ∧ s.handover.given[k]? = some record) ∧
        s.handover.slots.get s.handover.read = default := by
    refine fun record => consumer_stable (A := fun h => ((h.read = k ∧ k < h.write) ∧ h.given[k]? = some record) ∧
      h.slots.get h.read = default) ?_
    rintro x x' - hs ⟨⟨⟨hread, hlt⟩, hgiven⟩, hslot⟩
    exact ⟨⟨⟨hs.read_eq.trans hread, hlt.trans_le hs.write_le⟩, hs.given_mono hgiven⟩,
      (hs.left (hread ▸ hlt)).2.trans hslot⟩
  refine .bind (ring_read (A := fun h => (h.read = k ∧ k + 1 ≤ h.write) ∧ Loaded h)
    (B := fun record h => (h.read = k ∧ k < h.write) ∧ h.given[k]? = some record)
    (pending_stable k (k + 1)) htaken fun s hi h => ?_) fun record => .bind (.move
      (Q := fun _ s => ((s.handover.read = k ∧ k < s.handover.write) ∧ s.handover.given[k]? = some record) ∧
        s.handover.slots.get s.handover.read = default) (htaken record) (fun _ => hwiped record) fun s hi h => ?_)
      fun _ => .bind (.move (Q := fun _ s => Dequeued k (.record record) s.handover ∧ Loaded s.handover)
        (hwiped record) (fun _ => dequeued_stable k _) fun s hi h => ?_) fun _ => ?_
  · obtain ⟨⟨hread, hlt⟩, hloaded⟩ := h
    refine ⟨⟨hread, hlt⟩, ?_⟩
    have hslot := hloaded (hread ▸ hlt)
    rw [hread] at hslot
    exact hslot
  · obtain ⟨⟨hread, hlt⟩, hgiven⟩ := h
    have hg : Take default s.handover { s.handover with slots := s.handover.slots.set k default } := by
      rw [← hread]
      exact .wipe (hread ▸ hlt)
    refine ⟨⟨⟨rfl, rfl⟩, hg⟩, ⟨hi.ready, hi.thread, hg.kept hi.handover⟩, ⟨⟨hread, hlt⟩, hgiven⟩, ?_⟩
    change (s.handover.slots.set k default).get s.handover.read = default
    rw [hread, Slots.get_set_self]
  · obtain ⟨⟨⟨hread, hlt⟩, hgiven⟩, hslot⟩ := h
    have hg : Take default s.handover { s.handover with read := k + 1 } := by
      rw [← hread]
      exact .release (hread ▸ hlt) hslot
    have hloaded := hi.handover.loaded_release
    rw [hread] at hloaded
    exact ⟨⟨⟨rfl, rfl⟩, hg⟩, ⟨hi.ready, hi.thread, hg.kept hi.handover⟩, .inr ⟨record, rfl, rfl, hgiven⟩, hloaded⟩
  · exact .done (fun s s' hs hr => ⟨hr.2.2, dequeued_stable k _ s s' hs.2 hr⟩) fun s hs => hs

theorem dequeue_keeps (hv : v.Lawful) (k : Nat) :
    RingTriple v owner .consumer (fun s => s.handover.read = k ∧ Loaded s.handover) (dequeueSteps v)
      fun r s => Dequeued k r s.handover ∧ Loaded s.handover := by
  unfold dequeueSteps
  simp only [bind_def, pure_def]
  have hread : Stable (Rely (RingKept v owner) (ringGuarantee v owner) .consumer) fun s =>
      s.handover.read = k ∧ Loaded s.handover :=
    (consumer_stable (A := fun h => h.read = k) fun _ _ _ hs h => hs.read_eq.trans h).and loaded_stable
  refine .bind (ring_read (A := fun h => h.read = k ∧ Loaded h)
    (B := fun ready h => ready = true ∧ h.read = k ∧ Loaded h) hread
    (fun _ => (Stable.const _).and hread) fun s hi h => ⟨hi.ready, h⟩) fun ready => .assume fun hready => ?_
  rw [if_neg (by simp [hready])]
  refine .bind (ring_read (A := fun h => h.read = k ∧ Loaded h)
    (B := fun sequence h => sequence = k ∧ h.read = k ∧ Loaded h) hread
    (fun _ => (Stable.const _).and hread) fun s hi h => ⟨h.1, h⟩) fun sequence => .assume fun hsequence => ?_
  subst hsequence
  refine .bind (ring_read (A := fun h => h.read = sequence ∧ Loaded h)
    (B := fun written h => (sequence ≤ written ∧ written ≤ sequence + 256) ∧
      (h.read = sequence ∧ written ≤ h.write) ∧ Loaded h) hread
    (fun written => (Stable.const _).and (pending_stable sequence written)) fun s hi h => ?_)
    fun written => .assume fun hwritten => ?_
  · exact ⟨⟨h.1 ▸ hi.handover.ordered, h.1 ▸ hi.handover.room⟩, ⟨h.1, le_rfl⟩, h.2⟩
  rw [if_neg (by simp only [kReportRecordCapacity]; omega)]
  split
  · exact .done (fun s s' hs hr => ⟨hr.2.2, dequeued_stable sequence _ s s' hs.2 hr⟩)
      fun s hs => ⟨hs.1, .inl ⟨rfl, hs.2.1.1⟩, hs.2.2⟩
  next hne =>
  have hlt : sequence + 1 ≤ written := by omega
  have hpending : Stable (Rely (RingKept v owner) (ringGuarantee v owner) .consumer) fun s =>
      (s.handover.read = sequence ∧ sequence + 1 ≤ s.handover.write) ∧ Loaded s.handover :=
    pending_stable sequence (sequence + 1)
  refine .bind (ring_read (A := fun h => (h.read = sequence ∧ written ≤ h.write) ∧ Loaded h)
    (B := fun thread h => thread = owner ∧ (h.read = sequence ∧ sequence + 1 ≤ h.write) ∧ Loaded h)
    (pending_stable sequence written) (fun _ => (Stable.const _).and hpending)
    fun s hi h => ⟨hi.thread, ⟨h.1.1, hlt.trans h.1.2⟩, h.2⟩) fun thread => .assume fun hthread => ?_
  subst hthread
  refine .bind (ring_read (A := fun h => (h.read = sequence ∧ sequence + 1 ≤ h.write) ∧ Loaded h)
    (B := fun slot h => Canonical v thread sequence slot ∧ (h.read = sequence ∧ sequence + 1 ≤ h.write) ∧ Loaded h)
    hpending (fun _ => (Stable.const _).and hpending) fun s hi h => ⟨?_, h⟩) fun slot => .assume fun hslot => ?_
  · obtain ⟨⟨hr, hw⟩, hloaded⟩ := h
    have hgiven := hloaded (by omega)
    rw [hr] at hgiven
    exact hi.handover.fit sequence _ hgiven
  rw [if_neg (by simp [hslot.readable hv])]
  exact release_keeps

end Discipline

end RS2ServerFix.Reporting
