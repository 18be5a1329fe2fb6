import RS2ServerFix.Reporting.RingRuns

namespace RS2ServerFix.Reporting

open Relation Lib Lib.Prog Lib.Handover

variable {R : Type} [Inhabited R] {v : RecordVersion R} {owner : UInt32}

def Recorded (v : RecordVersion R) (owner : UInt32) (results : List (RingCall R)) (s : RingShared R) : Prop :=
  ∀ input a n, .enqueued input a n ∈ results → Enqueued v owner input (a, n) s.handover

structure Served (results : List (RingCall R)) (s : RingShared R) : Prop where
  records : dequeuedRecords results <+: s.accepted
  results : ∀ r, .dequeued r ∈ results → r = .empty ∨ ∃ x, r = .record x

def ringBetween (v : RecordVersion R) (owner : UInt32) : RingParty → List (RingCall R) → RingShared R → Prop
  | .producer, results, s => RingKept v owner s ∧ Recorded v owner results s ∧ Clear default s.handover
  | .consumer, results, s =>
      RingKept v owner s ∧ Served results s ∧ s.handover.read = (dequeuedRecords results).length ∧ Loaded s.handover
  | .outsider, _, s => RingKept v owner s ∧ True

theorem accepted_grows {s s' : RingShared R} (h : Shift (RingKept v owner) (ringGuarantee v owner) s s') :
    s.accepted <+: s'.accepted := by
  obtain ⟨⟨party, hg⟩, -⟩ := h
  cases party with
  | producer => exact hg.2.prefix_given
  | consumer =>
      have he : s'.accepted = s.accepted := hg.2.given_eq
      rw [he]
  | outsider => rw [hg.2]

theorem Recorded.stable (results : List (RingCall R)) :
    Stable (Shift (RingKept v owner) (ringGuarantee v owner)) (Recorded v owner results) := by
  intro s s' h hs input a n hmem haccepted
  obtain ⟨hvalid, hpos, hget⟩ := h input a n hmem haccepted
  exact ⟨hvalid, hpos, getElem?_of_prefix (accepted_grows hs) hget⟩

theorem Served.stable (results : List (RingCall R)) :
    Stable (Shift (RingKept v owner) (ringGuarantee v owner)) (Served results) :=
  fun _ _ h hs => ⟨h.records.trans (accepted_grows hs), h.results⟩

omit [Inhabited R] in
theorem dequeuedRecords_record (x : R) (results : List (RingCall R)) :
    dequeuedRecords (.dequeued (.record x) :: results) = dequeuedRecords results ++ [x] := by
  simp [dequeuedRecords]

omit [Inhabited R] in
theorem dequeuedRecords_empty (results : List (RingCall R)) :
    dequeuedRecords (.dequeued .empty :: results) = dequeuedRecords results := by
  simp [dequeuedRecords]

omit [Inhabited R] in
theorem Served.call {results : List (RingCall R)} {s : RingShared R} {r : ReadResult R} (h : Served results s)
    (hr : Dequeued (dequeuedRecords results).length r s.handover) :
    Served (.dequeued r :: results) s ∧ s.handover.read = (dequeuedRecords (.dequeued r :: results)).length := by
  rcases hr with ⟨rfl, hread⟩ | ⟨x, rfl, hread, hget⟩
  · refine ⟨⟨?_, fun r hr => ?_⟩, ?_⟩
    · rw [dequeuedRecords_empty]
      exact h.records
    · rcases List.mem_cons.mp hr with he | hr
      · injection he with he
        exact .inl he
      · exact h.results r hr
    · rw [dequeuedRecords_empty, hread]
  · refine ⟨⟨?_, fun r hr => ?_⟩, ?_⟩
    · rw [dequeuedRecords_record]
      exact prefix_push h.records hget
    · rcases List.mem_cons.mp hr with he | hr
      · injection he with he
        exact .inr ⟨x, he⟩
      · exact h.results r hr
    · rw [dequeuedRecords_record, hread, List.length_append, List.length_singleton]

/-- A call of a foreign thread comes to an end before it touches the ring. -/
theorem foreign_keeps (v : RecordVersion R) {thread : UInt32} (input : R) (h : thread ≠ owner) :
    RingTriple v owner .outsider (fun _ => True) (enqueueSteps v thread input) fun _ _ => True := by
  unfold enqueueSteps
  simp only [bind_def, pure_def]
  have htrue : ∀ c : Prop, Stable (Rely (RingKept v owner) (ringGuarantee v owner) .outsider)
      fun _ => c ∧ True := fun c => Stable.const _
  refine .bind (ring_read (A := fun _ => True) (B := fun ready _ => ready = true ∧ True) (Stable.const _)
    (fun _ => htrue _) fun s hi _ => ⟨hi.ready, trivial⟩) fun ready => .assume fun hready => ?_
  rw [if_neg (by simp [hready])]
  refine .bind (ring_read (A := fun _ => True) (B := fun found _ => found = owner ∧ True) (Stable.const _)
    (fun _ => htrue _) fun s hi _ => ⟨hi.thread, trivial⟩) fun found => .assume fun hfound => ?_
  subst hfound
  rw [if_pos h]
  refine .bind (ring_quiet (A := fun _ => True) (.act fun _ => ⟨rfl, rfl⟩) (Stable.const _)) fun _ => ?_
  exact .done (fun s s' hs hr => ⟨hr.2.2, trivial⟩) fun s hs => hs

/-- Every call of every party keeps to what the others reckon with. -/
theorem ring_discipline (hv : v.Lawful) :
    Discipline (RingKept v owner) (ringGuarantee v owner) (ringBetween v owner) (ringCalls v owner) where
  call := by
    intro party p results hp
    cases party with
    | producer =>
        obtain ⟨input, rfl⟩ := hp
        refine .bind ((enqueue_keeps v owner input).frame (Recorded.stable results)) fun a => ?_
        have hrecorded : ∀ s, Recorded v owner results s → Enqueued v owner input a s.handover →
            Recorded v owner (.enqueued input a.1 a.2 :: results) s := by
          intro s hold hnew input' a' n' hmem
          rcases List.mem_cons.mp hmem with he | hmem
          · injection he with hinput hresult hsequence
            subst hinput hresult hsequence
            exact hnew
          · exact hold input' a' n' hmem
        refine .done (fun s s' hs hr => ⟨hr.2.2, Recorded.stable _ s s' hs.2.1 hr.shift, ?_⟩) fun s hs =>
          ⟨hs.1, hrecorded s hs.2.1 hs.2.2.2, hs.2.2.1⟩
        exact clear_stable s s' hs.2.2 hr
    | consumer =>
        subst hp
        refine .bind ((dequeue_keeps hv (dequeuedRecords results).length).frame (Served.stable results)) fun r => ?_
        refine .done (fun s s' hs hr => ?_) fun s hs => ?_
        · obtain ⟨-, hserved, hread, hloaded⟩ := hs
          refine ⟨hr.2.2, Served.stable _ s s' hserved hr.shift, ?_, loaded_stable s s' hloaded hr⟩
          exact consumer_stable (A := fun h => h.read = _) (fun _ _ _ hs h => hs.read_eq.trans h) s s' hread hr
        · obtain ⟨hi, hserved, hdequeued, hloaded⟩ := hs
          obtain ⟨hnext, hread⟩ := hserved.call hdequeued
          exact ⟨hi, hnext, hread, hloaded⟩
    | outsider =>
        rcases hp with ⟨thread, input, hne, rfl⟩ | hp
        · exact .bind (foreign_keeps v input hne) fun _ =>
            .done (fun s s' hs hr => ⟨hr.2.2, trivial⟩) fun s hs => hs
        · exact ring_quiet (A := fun _ => True) hp (Stable.const _)

structure Delivered (v : RecordVersion R) (owner : UInt32) (x : Pool RingParty (RingShared R) (RingCall R)) : Prop where
  /-- An accepted call has put in the canonical record of its sequence. -/
  stored : ∀ input n, .enqueued input .accepted n ∈ x.returned .producer → v.Valid input ∧ 0 < n ∧
    x.state.accepted[n - 1]? = some (v.canonical input n.toUInt64 owner)
  /-- Nothing else has ever been put in. -/
  canonical : ∀ k r, x.state.accepted[k]? = some r →
    ∃ input, v.Valid input ∧ r = v.canonical input (k + 1).toUInt64 owner
  /-- The worker has had what was put in, record by record and in order. -/
  taken : dequeuedRecords (x.returned .consumer) <+: x.state.accepted
  /-- No call of the worker was lost. -/
  served : ∀ r, .dequeued r ∈ x.returned .consumer → r = .empty ∨ ∃ record, r = .record record
  /-- A call of the worker alone gets the next record. -/
  next : ∀ a, x.program .consumer = .done a → ∀ r, x.state.accepted[x.state.ring.reportReadSequence]? = some r →
    ((dequeueSteps v).run x.state).1 = .record r
  /-- The step that hands a slot back leaves it zero. -/
  scrubbed : ∀ y, Pool.Step (ringCalls v owner) x y →
    y.state.ring.reportReadSequence = x.state.ring.reportReadSequence ∨
      y.state.ring.reportReadSequence = x.state.ring.reportReadSequence + 1 ∧
        y.state.ring.slots.get x.state.ring.reportReadSequence = default
  /-- It stays zero until its next record is due. -/
  zeroed : ∀ k, x.state.ring.reportWriteSequence < k → k < x.state.ring.reportReadSequence + kReportRecordCapacity →
    x.state.ring.slots.get k = default

/-- The record that waits is the one a call of the worker alone comes back with. -/
theorem dequeueSteps_next (hv : v.Lawful) {s : RingShared R} (hi : RingKept v owner s) (hloaded : Loaded s.handover)
    {r : R} (hr : s.accepted[s.ring.reportReadSequence]? = some r) : ((dequeueSteps v).run s).1 = .record r := by
  obtain ⟨hlt, -⟩ := List.getElem?_eq_some_iff.mp hr
  have hcount : s.accepted.length = s.ring.reportWriteSequence := hi.handover.count
  have hpending : s.ring.reportReadSequence < s.ring.reportWriteSequence := hcount ▸ hlt
  have hroom : s.ring.reportWriteSequence ≤ s.ring.reportReadSequence + 256 := hi.handover.room
  have hslot : s.ring.slots.get s.ring.reportReadSequence = r := by
    have hsome := (hloaded hpending).symm.trans hr
    injection hsome
  have hreadable := (hi.handover.fit _ _ hr).readable hv
  simp only [dequeueSteps, bind_def, pure_def, run_read_bind]
  rw [if_neg (by simp [hi.ready])]
  simp only [run_read_bind]
  rw [if_neg (by simp only [kReportRecordCapacity]; omega), if_neg hpending.ne]
  simp only [run_read_bind, hi.thread, hslot]
  rw [if_neg (by simp [hreadable])]
  simp only [releaseSteps, bind_def, pure_def]
  rw [run_read_bind, hslot]
  rfl

theorem ring_delivers (hv : v.Lawful) {x : Pool RingParty (RingShared R) (RingCall R)}
    (hx : Pool.Going (RingKept v owner) (ringGuarantee v owner) (ringBetween v owner) x) : Delivered v owner x where
  stored := fun input n hmem =>
    hx.returned (i := .producer) (fun _ _ _ hb => hb.2.1) Recorded.stable input .accepted n hmem rfl
  canonical := by
    intro k r hr
    obtain ⟨input, hvalid, -, he⟩ := hx.inv.handover.fit k r hr
    exact ⟨input, hvalid, he⟩
  taken := (hx.returned (i := .consumer) (fun _ _ _ hb => hb.2.1) Served.stable).records
  served := (hx.returned (i := .consumer) (fun _ _ _ hb => hb.2.1) Served.stable).results
  next := by
    intro a ha r hr
    have hsafe := hx.safe .consumer
    rw [ha] at hsafe
    exact dequeueSteps_next hv hx.inv hsafe.now.2.2.2 hr
  scrubbed := by
    intro y hs
    obtain ⟨-, he | ⟨⟨party, hg⟩, -⟩⟩ := hx.step (ring_discipline hv) hs
    · exact .inl (by rw [he])
    · cases party with
      | producer => exact .inl hg.2.read_eq
      | consumer => exact hg.2.scrubbed
      | outsider => exact .inl (congrArg ReportRing.reportReadSequence hg.1)
  zeroed := fun k hk hk' => hx.inv.handover.free k hk hk'

/-- Canonical records do not leak, in a version of the records. -/
structure NoLeak (v : RecordVersion R) : Prop where
  /-- Two records that agree are stored as one, and their calls are one call. -/
  same : ∀ a b, v.Agree a b → (∀ sequence owner, v.canonical a sequence owner = v.canonical b sequence owner) ∧
    ∀ thread, enqueueSteps v thread a = enqueueSteps v thread b
  /-- Whatever the parties do and in whatever order, from a ring just set up. -/
  runs : ∀ status owner x y, x.state = RingShared.started status owner → Pool.Start (ringCalls v owner) x →
    Pool.Run (ringCalls v owner) x y → Delivered v owner y

omit [Inhabited R] in
theorem enqueueSteps_agree (hv : v.Lawful) {a b : R} (h : v.Agree a b) (thread : UInt32) :
    enqueueSteps v thread a = enqueueSteps v thread b := by
  have hvalid := hv.valid a b h
  have hcanonical : v.canonical a = v.canonical b := by
    funext sequence owner
    exact hv.canonical a b sequence owner h
  unfold enqueueSteps
  simp only [hvalid, hcanonical]

theorem noLeak_of_lawful (hv : v.Lawful) : NoLeak v where
  same := fun a b h => ⟨fun sequence owner => hv.canonical a b sequence owner h, enqueueSteps_agree hv h⟩
  runs := by
    intro status owner x y hstate hstart hrun
    have hkept : RingKept v owner x.state := by
      rw [hstate]
      exact ⟨rfl, rfl, .start _ _⟩
    have hbetween : ∀ party, ringBetween v owner party [] x.state := by
      intro party
      cases party with
      | producer =>
          refine ⟨hkept, fun _ _ _ hmem => absurd hmem List.not_mem_nil, ?_⟩
          rw [hstate]
          exact fun _ => Slots.get_fill _ _
      | consumer =>
          refine ⟨hkept, ⟨List.nil_prefix, fun _ hmem => absurd hmem List.not_mem_nil⟩, ?_, ?_⟩
          · rw [hstate]
            rfl
          · rw [hstate]
            exact fun h => absurd h (Nat.lt_irrefl 0)
      | outsider => exact ⟨hkept, trivial⟩
    exact ring_delivers hv ((hstart.going (ring_discipline hv) hkept hbetween).run (ring_discipline hv) hrun).1

theorem canonical_records_do_not_leak : NoLeak recordsV2 ∧ NoLeak recordsV3 :=
  ⟨noLeak_of_lawful recordsV2_lawful, noLeak_of_lawful recordsV3_lawful⟩

section Sample

def plainRequest : ReportRecordV3 where
  header := { (default : ReportHeader) with kind := RecordKindV3.request.code }
  payload := { (default : ReportPayloadV3) with request := { (default : ReportRequestPayload) with bots := 12 } }

def staleRequest : ReportRecordV3 where
  header := { plainRequest.header with threadId := 9 }
  payload := { plainRequest.payload with
    request := { plainRequest.payload.request with reserved := Vector.replicate 15 7 }
    control := { plainRequest.payload.control with reserved := Vector.replicate _ 7 } }

theorem staleRequest_agree : recordsV3.Agree staleRequest plainRequest := by
  refine ⟨rfl, fun k hk => ?_⟩
  cases hk
  rfl

def sampleRing : Pool RingParty (RingShared ReportRecordV3) (RingCall ReportRecordV3) where
  state := .started .clear 3
  program
    | .producer => (enqueueSteps recordsV3 3 staleRequest).bind fun a => .done (.enqueued staleRequest a.1 a.2)
    | .consumer => (dequeueSteps recordsV3).bind fun r => .done (.dequeued r)
    | .outsider => .done .other
  results _ := []

theorem sampleRing_start : sampleRing.Start (ringCalls recordsV3 3) where
  program := by
    intro party
    cases party with
    | producer => exact ⟨staleRequest, rfl⟩
    | consumer => exact rfl
    | outsider => exact .inr trivial
  results := fun _ => rfl

/-- What the worker gets is the plain request: nothing of the storage came with it. -/
theorem canonical_records_sample : staleRequest ≠ plainRequest ∧
    ∃ y, Pool.Run (ringCalls recordsV3 3) sampleRing y ∧ Delivered recordsV3 3 y ∧
      .enqueued staleRequest .accepted 1 ∈ y.returned .producer ∧
      dequeuedRecords (y.returned .consumer) = [recordsV3.canonical plainRequest 1 3] := by
  obtain ⟨hsame, hruns⟩ := canonical_records_do_not_leak.2
  have henqueued : Pool.Run (ringCalls recordsV3 3) sampleRing _ := Pool.Run.alone sampleRing .producer
  have hrun := henqueued.trans (Pool.Run.alone _ .consumer)
  refine ⟨by decide, _, hrun, hruns _ _ _ _ rfl sampleRing_start hrun, ?_, ?_⟩
  · exact List.mem_singleton_self _
  · rw [← (hsame _ _ staleRequest_agree).1]
    rfl

end Sample

end RS2ServerFix.Reporting
