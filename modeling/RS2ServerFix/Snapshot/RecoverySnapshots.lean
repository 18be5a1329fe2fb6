import RS2ServerFix.Snapshot.RecoveryStatus

namespace RS2ServerFix.Snapshot

open Reporting Lib

def headerOf (identity : StatusHeader) : RecoveryHeader :=
  ⟨kRecoveryStatusSchemaV1, recoveryStatusWireBytes, kRecoveryArtifactVersion, identity.pid, identity.runId⟩

theorem headerOf_valid {identity : StatusHeader} (h : reportingIdentityValidV3 identity = true) :
    recoveryHeaderValid (headerOf identity) = true := by
  simp only [reportingIdentityValidV3, Bool.and_eq_true] at h
  simp only [recoveryHeaderValid, headerOf, Bool.and_eq_true]
  exact ⟨⟨⟨⟨rfl, rfl⟩, rfl⟩, h.1.1.1.1.1.1.2⟩, h.1.1.2⟩

structure Initialized (s : RecoveryShared) : Prop where
  block : recoveryBlock.Kept s
  sequence : 2 ≤ s.wire.ownerSequence.toNat
  identity : ∃ identity, s.identity = some identity ∧ reportingIdentityValidV3 identity = true ∧
    s.wire.header = headerOf identity
  valid : ∀ p ∈ s.published, p.recoveryPayloadValid = true

structure WireInv (s : RecoveryShared) : Prop where
  ready : s.wire.headerReady = 0 ∨ s.wire.headerReady = 2 ∨ s.wire.headerReady = 1
  fresh : s.wire.headerReady = 0 → s.identity = none ∧ s.published = []
  initialized : s.wire.headerReady = 1 → Initialized s
  beyond : ∀ k, payloadWords ≤ k → s.wire.payload k = 0

structure WireLater (s s' : RecoveryShared) : Prop where
  identity : ∀ identity, s.identity = some identity → s'.identity = some identity
  published : s.published <:+ s'.published
  ready : s.wire.headerReady = 1 → s'.wire.headerReady = 1
  header : s.wire.headerReady = 1 → s'.wire.header = s.wire.header
  sequence : s.wire.headerReady = 1 → s.wire.ownerSequence.toNat ≤ s'.wire.ownerSequence.toNat

theorem WireLater.refl (s : RecoveryShared) : WireLater s s :=
  ⟨fun _ => id, List.suffix_rfl, id, fun _ => rfl, fun _ => le_rfl⟩

/-- The initializer leaves a ready wire alone, and the publisher one that is not
ready. -/
def recoveryGuarantee : RecoveryParty → RecoveryShared → RecoveryShared → Prop
  | .initializer, s, s' => WireLater s s' ∧ (s.wire.headerReady = 1 → s' = s) ∧
      (s.wire.headerReady ≠ 1 → s'.wire.headerReady = 1 →
        s'.wire.ownerSequence.toNat % 2 = 0 ∧ s'.published = [ReportRecoveryPayload.zero])
  | .publisher, s, s' => WireLater s s' ∧ (s.wire.headerReady ≠ 1 → s' = s)
  | .reader _, s, s' => s' = s

abbrev WireShift := Shift WireInv recoveryGuarantee

variable {s s' : RecoveryShared}

theorem later_of_shift (h : WireShift s s') : WireLater s s' := by
  obtain ⟨⟨party, hg⟩, -⟩ := h
  cases party with
  | initializer => exact hg.1
  | publisher => exact hg.1
  | reader i => exact hg ▸ .refl s

theorem WireLater.block (h : WireLater s s') (hs : s.wire.headerReady = 1) : recoveryBlock.Later s s' where
  sequence := h.sequence hs
  history := h.published.map _

/-- What a coherent snapshot says of the wire. -/
structure Coherent (s : RecoveryShared) (r : RecoveryStatusSnapshot) : Prop where
  ready : s.wire.headerReady = 1
  header : ∃ identity, s.identity = some identity ∧ r.header = headerOf identity
  published : recoveryBlock.Published r.ownerSequence.toNat (ReportRecoveryPayload.word r.payload) s
  sequence : r.ownerSequence.toNat ≤ s.wire.ownerSequence.toNat
  whole : r.headerReady = 1

structure Snapshots (s : RecoveryShared) (rs : List RecoveryStatusSnapshot) : Prop where
  valid : ∀ r ∈ rs, r.result ≠ .invalid
  coherent : ∀ r ∈ rs, r.result = .coherent → Coherent s r
  ordered : rs.Pairwise fun later earlier =>
    later.result = .coherent → earlier.result = .coherent → earlier.ownerSequence.toNat ≤ later.ownerSequence.toNat

theorem Coherent.later {r : RecoveryStatusSnapshot} (h : Coherent s r) (hl : WireLater s s') : Coherent s' r where
  ready := hl.ready h.ready
  header := by
    obtain ⟨identity, hi, hh⟩ := h.header
    exact ⟨identity, hl.identity identity hi, hh⟩
  published := h.published.later (hl.block h.ready)
  sequence := h.sequence.trans (hl.sequence h.ready)
  whole := h.whole

namespace Snapshots

variable {rs : List RecoveryStatusSnapshot}

theorem nil (s : RecoveryShared) : Snapshots s [] where
  valid := fun _ hr => by cases hr
  coherent := fun _ hr => by cases hr
  ordered := .nil

theorem stable (rs : List RecoveryStatusSnapshot) : Stable WireShift fun s => Snapshots s rs := by
  intro s s' h hs
  exact ⟨h.valid, fun r hr hc => (h.coherent r hr hc).later (later_of_shift hs), h.ordered⟩

theorem failed (h : Snapshots s rs) {result : RecoverySnapshotResult} (hi : result ≠ .invalid)
    (hc : result ≠ .coherent) (attempts : Nat) : Snapshots s (.failed result attempts :: rs) where
  valid := by
    intro r hr
    rcases List.mem_cons.mp hr with rfl | hr
    · exact hi
    · exact h.valid r hr
  coherent := by
    intro r hr hrc
    rcases List.mem_cons.mp hr with rfl | hr
    · exact absurd hrc hc
    · exact h.coherent r hr hrc
  ordered := .cons (fun _ _ hrc => absurd hrc hc) h.ordered

theorem cons (h : Snapshots s rs) {r : RecoveryStatusSnapshot} (hr : r.result = .coherent) (hc : Coherent s r)
    (hle : ∀ earlier ∈ rs, earlier.result = .coherent → earlier.ownerSequence.toNat ≤ r.ownerSequence.toNat) :
    Snapshots s (r :: rs) where
  valid := by
    intro r' hr'
    rcases List.mem_cons.mp hr' with rfl | hr'
    · rw [hr]
      decide
    · exact h.valid r' hr'
  coherent := by
    intro r' hr' hrc
    rcases List.mem_cons.mp hr' with rfl | hr'
    · exact hc
    · exact h.coherent r' hr' hrc
  ordered := .cons (fun earlier he _ => hle earlier he) h.ordered

end Snapshots

/-- What the attempts before found: the header, and the highest sequence. -/
def Seen (seen : Option RecoveryHeader) (highest : UInt64) (s : RecoveryShared) : Prop :=
  match seen with
  | none => highest = 0
  | some header => s.wire.headerReady = 1 ∧ s.wire.header = header ∧ highest.toNat ≤ s.wire.ownerSequence.toNat

theorem Seen.stable (seen : Option RecoveryHeader) (highest : UInt64) : Stable WireShift (Seen seen highest) := by
  intro s s' h hs
  have hl := later_of_shift hs
  cases seen with
  | none => exact h
  | some header => exact ⟨hl.ready h.1, (hl.header h.1).trans h.2.1, h.2.2.trans (hl.sequence h.1)⟩

section Reader

variable {i : Nat} {α β : Type}

abbrev ReaderTriple (i : Nat) (P : RecoveryShared → Prop) (p : WireProg α) (Q : α → RecoveryShared → Prop) : Prop :=
  Triple (Rely WireInv recoveryGuarantee (.reader i)) (Within WireInv (recoveryGuarantee (.reader i)))
    (fun s => WireInv s ∧ P s) p fun a s => WireInv s ∧ Q a s

variable {P : RecoveryShared → Prop} {Q : α → RecoveryShared → Prop}

theorem reader_look {f : RecoveryShared → α} (hP : Stable WireShift P) (hQ : ∀ a, Stable WireShift (Q a))
    (h : ∀ s, WireInv s → P s → Q (f s) s) : ReaderTriple i P (.read f) Q := Triple.look (fun _ => rfl) hP hQ h

theorem reader_rest {a : α} (hQ : Stable WireShift (Q a)) (h : ∀ s, WireInv s → P s → Q a s) :
    ReaderTriple i P (.done a) Q := Triple.rest hQ h

/-- The header does not change any more. -/
theorem loadHeader_reads (hP : Stable WireShift P) (hready : ∀ s, P s → s.wire.headerReady = 1) :
    ReaderTriple i P loadHeader fun header s => P s ∧ s.wire.header = header := by
  have hpart : ∀ {γ : Type} (part : RecoveryHeader → γ) (v : γ),
      Stable WireShift fun s => P s ∧ part s.wire.header = v := by
    intro γ part v s s' h hs
    refine ⟨hP s s' h.1 hs, ?_⟩
    rw [(later_of_shift hs).header (hready s h.1)]
    exact h.2
  apply Triple.bind (reader_look (Q := fun a s => P s ∧ (s.wire.header.schema, s.wire.header.bytes) = a) hP
    (hpart fun h => (h.schema, h.bytes)) fun s _ hp => ⟨hp, rfl⟩)
  intro first
  have hfirst := hpart (fun h => (h.schema, h.bytes)) first
  apply Triple.bind (reader_look
    (Q := fun a s => P s ∧ ((s.wire.header.schema, s.wire.header.bytes),
      (s.wire.header.artifactVersion, s.wire.header.pid)) = (first, a)) hfirst
    (fun a => hpart (fun h => ((h.schema, h.bytes), (h.artifactVersion, h.pid))) (first, a))
    fun s _ hp => ⟨hp.1, Prod.ext hp.2 rfl⟩)
  intro second
  have hsecond := hpart (fun h => ((h.schema, h.bytes), (h.artifactVersion, h.pid))) (first, second)
  apply Triple.bind (reader_look
    (Q := fun a s => P s ∧ (((s.wire.header.schema, s.wire.header.bytes),
      (s.wire.header.artifactVersion, s.wire.header.pid)), s.wire.header.runId.1) = ((first, second), a)) hsecond
    (fun a => hpart (fun h => (((h.schema, h.bytes), (h.artifactVersion, h.pid)), h.runId.1)) ((first, second), a))
    fun s _ hp => ⟨hp.1, Prod.ext hp.2 rfl⟩)
  intro third
  have hthird := hpart (fun h => (((h.schema, h.bytes), (h.artifactVersion, h.pid)), h.runId.1)) ((first, second), third)
  apply Triple.bind (reader_look
    (Q := fun a s => P s ∧ s.wire.header = ⟨first.1, first.2, second.1, second.2, third, a⟩) hthird
    (fun a => hpart id ⟨first.1, first.2, second.1, second.2, third, a⟩) ?_)
  · intro fourth
    exact reader_rest (hpart id _) fun s _ hp => hp
  · rintro s - ⟨hp, h⟩
    refine ⟨hp, ?_⟩
    obtain ⟨⟨hfirst, hsecond⟩, hthird⟩ := And.imp_left Prod.mk.inj (Prod.mk.inj h)
    rw [← hfirst, ← hsecond, ← hthird]

theorem attemptRead_reads {fails : Nat → RecoveryRead → Bool} {attempt : Nat} {which : RecoveryRead} {p : WireProg α}
    {next : α → WireProg RecoveryStatusSnapshot} {rs : List RecoveryStatusSnapshot}
    (hP : ∀ s, P s → Snapshots s rs) (hp : ReaderTriple i P p Q)
    (hnext : ∀ a, ReaderTriple i (Q a) (next a) fun r s => Snapshots s (r :: rs)) :
    ReaderTriple i P (attemptRead fails attempt which p next) fun r s => Snapshots s (r :: rs) := by
  unfold attemptRead
  split
  · exact reader_rest (Snapshots.stable _) fun s _ h => (hP s h).failed (by decide) (by decide) attempt
  · exact hp.bind hnext

structure Between (rs : List RecoveryStatusSnapshot) (copy : RecoveryHeader) (before : UInt64) (s : RecoveryShared) :
    Prop where
  snapshots : Snapshots s rs
  ready : s.wire.headerReady = 1
  header : s.wire.header = copy
  sequence : before.toNat ≤ s.wire.ownerSequence.toNat

theorem Between.later {rs : List RecoveryStatusSnapshot} {copy : RecoveryHeader} {before : UInt64}
    (h : Between rs copy before s) (hs : WireShift s s') : Between rs copy before s' where
  snapshots := Snapshots.stable rs s s' h.snapshots hs
  ready := (later_of_shift hs).ready h.ready
  header := ((later_of_shift hs).header h.ready).trans h.header
  sequence := h.sequence.trans ((later_of_shift hs).sequence h.ready)

theorem Between.stable (rs : List RecoveryStatusSnapshot) (copy : RecoveryHeader) (before : UInt64) :
    Stable WireShift (Between rs copy before) := fun _ _ h hs => h.later hs

theorem Between.seen {rs : List RecoveryStatusSnapshot} {copy : RecoveryHeader} {before : UInt64}
    (h : Between rs copy before s) : Seen (some copy) before s := ⟨h.ready, h.header, h.sequence⟩

/-- What the second read of the sequence found: the same sequence makes the copy
the value published at it. -/
structure Found (rs : List RecoveryStatusSnapshot) (copy : RecoveryHeader) (before : UInt64) (words : Nat → UInt64)
    (after : UInt64) (s : RecoveryShared) : Prop where
  between : Between rs copy before s
  ge : before.toNat ≤ after.toNat
  sequence : after.toNat ≤ s.wire.ownerSequence.toNat
  published : after = before → recoveryBlock.Published before.toNat
    (ReportRecoveryPayload.word (ReportRecoveryPayload.ofWords words)) s
  valid : after = before → (ReportRecoveryPayload.ofWords words).recoveryPayloadValid = true

section Attempt

variable {rs : List RecoveryStatusSnapshot} {copy : RecoveryHeader} {before : UInt64}

theorem Found.stable (words : Nat → UInt64) (after : UInt64) : Stable WireShift (Found rs copy before words after) := by
  intro s s' h hs
  have hl := later_of_shift hs
  exact ⟨h.between.later hs, h.ge, h.sequence.trans (hl.sequence h.between.ready),
    fun he => (h.published he).later (hl.block h.between.ready), h.valid⟩

theorem Between.kept (hi : WireInv s) (h : Between rs copy before s) : recoveryBlock.Kept s :=
  (hi.initialized h.ready).block

theorem Between.shift (h : Between rs copy before s) (hs : WireShift s s') :
    recoveryBlock.Later s s' ∧ Between rs copy before s' := ⟨(later_of_shift hs).block h.ready, h.later hs⟩

theorem Between.found (hi : WireInv s) (h : Between rs copy before s) (heven : before.toNat % 2 = 0)
    (hpos : 2 ≤ before.toNat) {words : Nat → UInt64} (hcopy : recoveryBlock.Copied before.toNat payloadWords words s) :
    Found rs copy before words s.wire.ownerSequence s := by
  have hsame : s.wire.ownerSequence = before → recoveryBlock.Published before.toNat
      (ReportRecoveryPayload.word (ReportRecoveryPayload.ofWords words)) s ∧
      (ReportRecoveryPayload.ofWords words).recoveryPayloadValid = true := by
    intro he
    have hsequence : (recoveryBlock.sequence s).toNat = before.toNat := congrArg UInt64.toNat he
    have hinit := hi.initialized h.ready
    obtain ⟨v, hpublished, hv⟩ := hinit.block.published (hsequence ▸ heven) (hsequence ▸ hpos)
    obtain ⟨p, hp, rfl⟩ := List.mem_map.mp hpublished.mem
    have hof : ReportRecoveryPayload.ofWords words = p :=
      ReportRecoveryPayload.ofWords_congr fun k hk => (hcopy.2 hsequence k hk).trans (hv k)
    rw [hof]
    exact ⟨hsequence ▸ hpublished, hinit.valid p hp⟩
  exact ⟨h, h.sequence, le_rfl, fun he => (hsame he).1, fun he => (hsame he).2⟩

theorem loads_copied (heven : before.toNat % 2 = 0) (hpos : 2 ≤ before.toNat) :
    ReaderTriple i (Between rs copy before) (Seqlock.loadWords recoveryBlock.word payloadWords 0 fun _ => 0)
      fun words s => Between rs copy before s ∧ recoveryBlock.Copied before.toNat payloadWords words s := by
  have hload := Seqlock.loadWords_copied (i := RecoveryParty.reader i) (fun _ => rfl)
    (fun s hi (hs : Between rs copy before s) => hs.kept hi) (fun s s' hs hshift => hs.shift hshift) heven hpos
    payloadWords 0 fun _ => 0
  rw [Nat.zero_add] at hload
  exact hload.conseq (fun s hs => ⟨hs.1, hs.2, hs.2.sequence, fun _ k hk => absurd hk (Nat.not_lt_zero k)⟩)
    fun _ _ hs => hs

theorem attempt_copies {fails : Nat → RecoveryRead → Bool} {attempt : Nat}
    {again : UInt64 → WireProg RecoveryStatusSnapshot} (heven : before.toNat % 2 = 0) (hpos : 2 ≤ before.toNat)
    (hle : ∀ earlier ∈ rs, earlier.result = .coherent → earlier.ownerSequence.toNat ≤ before.toNat)
    (hagain : ∀ after, ReaderTriple i (fun s => Snapshots s rs ∧ Seen (some copy) after s) (again after)
      fun r s => Snapshots s (r :: rs)) :
    ReaderTriple i (Between rs copy before) (
      attemptRead fails attempt .payload (Seqlock.loadWords recoveryBlock.word payloadWords 0 fun _ => 0) fun words =>
      attemptRead fails attempt .after (.read fun s => s.wire.ownerSequence) fun after =>
      attemptRead fails attempt .headerAfter loadHeader fun headerAfter =>
      attemptRead fails attempt .readyAfter (.read fun s => s.wire.headerReady) fun readyAfter =>
      if readyAfter ≠ 1 || copy ≠ headerAfter || after < before then .done (.failed .invalid attempt)
      else if before ≠ after || after % 2 = 1 then again after
      else
        let payload := ReportRecoveryPayload.ofWords words
        if !payload.recoveryPayloadValid then .done (.failed .invalid attempt)
        else .done ⟨.coherent, attempt, copy, 1, after, payload⟩) fun r s => Snapshots s (r :: rs) := by
  apply attemptRead_reads (fun s hs => hs.snapshots) (loads_copied heven hpos)
  intro words
  have hcopied : Stable WireShift fun s => Between rs copy before s ∧
      recoveryBlock.Copied before.toNat payloadWords words s :=
    Seqlock.Copied.stable (fun s hi hs => hs.kept hi) (fun s s' hs hshift => hs.shift hshift) heven hpos payloadWords words
  apply attemptRead_reads (fun s hs => hs.1.snapshots)
    (reader_look hcopied (Found.stable words) fun s hi hs => hs.1.found hi heven hpos hs.2)
  intro after
  apply attemptRead_reads (fun s hs => hs.between.snapshots)
    (loadHeader_reads (Found.stable words after) fun s hs => hs.between.ready)
  intro headerAfter
  have hheader : Stable WireShift fun s => Found rs copy before words after s ∧ s.wire.header = headerAfter :=
    fun s s' hs hshift => ⟨Found.stable words after s s' hs.1 hshift,
      ((later_of_shift hshift).header hs.1.between.ready).trans hs.2⟩
  apply attemptRead_reads (fun s hs => hs.1.between.snapshots)
    (reader_look (Q := fun readyAfter s =>
        (Found rs copy before words after s ∧ s.wire.header = headerAfter) ∧ readyAfter = 1) hheader
      (fun readyAfter s s' hs hshift => ⟨hheader s s' hs.1 hshift, hs.2⟩) fun s _ hs => ⟨hs, hs.1.between.ready⟩)
  intro readyAfter
  rintro s ⟨hi, ⟨hf, hheader⟩, hreadyAfter⟩
  have hb := hf.between
  have hsame : copy = headerAfter := hb.header.symm.trans hheader
  have hge : ¬after < before := fun hlt => absurd (UInt64.lt_iff_toNat_lt.mp hlt) (Nat.not_lt.mpr hf.ge)
  rw [if_neg (by simp [hreadyAfter, hsame, hge])]
  by_cases he : after = before
  · have hodd : ¬after % 2 = 1 := by
      rw [he, ← UInt64.toNat_inj, UInt64.toNat_mod]
      change ¬before.toNat % 2 = 1
      omega
    rw [if_neg (by simp [he ▸ hodd, he]), if_neg (by simp [hf.valid he])]
    obtain ⟨identity, hidentity, -, hof⟩ := (hi.initialized hb.ready).identity
    have hcoherent : Coherent s ⟨.coherent, attempt, copy, 1, after, ReportRecoveryPayload.ofWords words⟩ :=
      ⟨hb.ready, ⟨identity, hidentity, hb.header.symm.trans hof⟩, he ▸ hf.published he, hf.sequence, rfl⟩
    apply reader_rest (Snapshots.stable _) (fun _ _ h => h) s
    exact ⟨hi, hb.snapshots.cons rfl hcoherent fun earlier hm hc => he ▸ hle earlier hm hc⟩
  · rw [if_pos (by simp [Ne.symm he])]
    exact hagain after s ⟨hi, hb.snapshots, hb.ready, hb.header, hf.sequence⟩

structure Begun (rs : List RecoveryStatusSnapshot) (seen : Option RecoveryHeader) (highest readyBefore : UInt64)
    (s : RecoveryShared) : Prop where
  snapshots : Snapshots s rs
  before : Seen seen highest s
  known : readyBefore = 0 ∨ readyBefore = 2 ∨ readyBefore = 1
  same : seen.isSome = true → readyBefore = 1
  ready : readyBefore = 1 → s.wire.headerReady = 1

theorem Begun.stable (seen : Option RecoveryHeader) (highest readyBefore : UInt64) :
    Stable WireShift (Begun rs seen highest readyBefore) := fun s s' h hs =>
  ⟨Snapshots.stable rs s s' h.snapshots hs, Seen.stable seen highest s s' h.before hs, h.known, h.same,
    fun he => (later_of_shift hs).ready (h.ready he)⟩

/-- What an attempt that goes on has found of the header and of the sequence. -/
structure Admits (rs : List RecoveryStatusSnapshot) (seen : Option RecoveryHeader) (highest : UInt64)
    (copy : RecoveryHeader) (before : UInt64) : Prop where
  valid : recoveryHeaderValid copy = true
  same : seen.all (copy = ·) = true
  positive : 2 ≤ before.toNat
  highest : highest.toNat ≤ before.toNat
  earlier : ∀ earlier ∈ rs, earlier.result = .coherent → earlier.ownerSequence.toNat ≤ before.toNat

theorem Admits.goes {seen : Option RecoveryHeader} {highest : UInt64} (h : Admits rs seen highest copy before) :
    (!recoveryHeaderValid copy || seen.any (copy ≠ ·) || before = 0 || before < highest) = false := by
  have hzero : before ≠ 0 := fun he => by
    have hpositive := h.positive
    rw [he] at hpositive
    exact absurd hpositive (by decide)
  have hge : ¬before < highest := fun hlt => absurd (UInt64.lt_iff_toNat_lt.mp hlt) (Nat.not_lt.mpr h.highest)
  have hany : seen.any (copy ≠ ·) = false := by
    have hsame := h.same
    cases seen with
    | none => rfl
    | some header => simpa using hsame
  rw [h.valid, hany, decide_eq_false hzero, decide_eq_false hge]
  rfl

theorem Begun.between {seen : Option RecoveryHeader} {highest : UInt64} (hi : WireInv s) (h : Begun rs seen highest 1 s) :
    Between rs s.wire.header s.wire.ownerSequence s ∧ Admits rs seen highest s.wire.header s.wire.ownerSequence := by
  have hready := h.ready rfl
  have hinit := hi.initialized hready
  obtain ⟨identity, -, hvalid, hof⟩ := hinit.identity
  refine ⟨⟨h.snapshots, hready, rfl, le_rfl⟩, ?_⟩
  constructor
  case valid => exact hof ▸ headerOf_valid hvalid
  case same =>
    cases seen with
    | none => rfl
    | some header => exact decide_eq_true h.before.2.1
  case positive => exact hinit.sequence
  case highest =>
    cases seen with
    | none =>
        rw [show highest = 0 from h.before]
        exact Nat.zero_le _
    | some header => exact h.before.2.2
  case earlier => exact fun earlier hm hc => (h.snapshots.coherent earlier hm hc).sequence

theorem ready_reads (rs : List RecoveryStatusSnapshot) (seen : Option RecoveryHeader) (highest : UInt64) :
    ReaderTriple i (fun s => Snapshots s rs ∧ Seen seen highest s) (.read fun s => s.wire.headerReady)
      (Begun rs seen highest) := by
  have hstart : Stable WireShift fun s => Snapshots s rs ∧ Seen seen highest s :=
    (Snapshots.stable rs).and (Seen.stable seen highest)
  refine reader_look hstart (Begun.stable seen highest) fun s hi hs => ⟨hs.1, hs.2, hi.ready, fun hseen => ?_, id⟩
  cases seen with
  | none => cases hseen
  | some header => exact hs.2.1

theorem sequence_reads (rs : List RecoveryStatusSnapshot) (seen : Option RecoveryHeader) (highest : UInt64)
    (copy : RecoveryHeader) :
    ReaderTriple i (fun s => Begun rs seen highest 1 s ∧ s.wire.header = copy) (.read fun s => s.wire.ownerSequence)
      fun before s => Between rs copy before s ∧ Admits rs seen highest copy before := by
  have hheader : Stable WireShift fun s => Begun rs seen highest 1 s ∧ s.wire.header = copy := fun s s' hs hshift =>
    ⟨Begun.stable seen highest 1 s s' hs.1 hshift, ((later_of_shift hshift).header (hs.1.ready rfl)).trans hs.2⟩
  refine reader_look hheader (fun before => (Between.stable rs copy before).and (Stable.const _)) ?_
  rintro s hi ⟨hs, rfl⟩
  exact hs.between hi

/-- The attempts of a reader, one after the other. -/
theorem attempts_reads (fails : Nat → RecoveryRead → Bool) (rs : List RecoveryStatusSnapshot) (left attempt : Nat)
    (seen : Option RecoveryHeader) (highest : UInt64) :
    ReaderTriple i (fun s => Snapshots s rs ∧ Seen seen highest s) (readRecoveryAttempts fails left attempt seen highest)
      fun r s => Snapshots s (r :: rs) := by
  induction left generalizing attempt seen highest with
  | zero =>
      apply reader_rest (Snapshots.stable _)
      intro s _ h
      cases seen with
      | none => exact h.1.failed RecoverySnapshotResult.noConfusion RecoverySnapshotResult.noConfusion _
      | some header => exact h.1.failed RecoverySnapshotResult.noConfusion RecoverySnapshotResult.noConfusion _
  | succ left ih =>
      apply attemptRead_reads (fun s hs => hs.1) (ready_reads rs seen highest)
      intro readyBefore
      by_cases hready : readyBefore = 1
      · subst hready
        have hgo : (2 < (1 : UInt64) || (seen.isSome && (1 : UInt64) ≠ 1)) = false := by simp
        rw [hgo, if_neg Bool.false_ne_true, if_neg (not_not_intro rfl)]
        apply attemptRead_reads (fun s hs => hs.snapshots)
          (loadHeader_reads (Begun.stable seen highest 1) fun s hs => hs.ready rfl)
        intro copy
        apply attemptRead_reads (fun s hs => hs.1.snapshots) (sequence_reads rs seen highest copy)
        intro before
        apply Triple.conseq (P := fun s => Admits rs seen highest copy before ∧ WireInv s ∧ Between rs copy before s) ?_
          (fun s hs => ⟨hs.2.2, hs.1, hs.2.1⟩) fun _ _ => id
        rintro s ⟨hadmits, hs⟩
        rw [hadmits.goes, if_neg Bool.false_ne_true]
        by_cases hodd : before % 2 = 1
        · rw [if_pos hodd]
          exact ih (attempt + 1) (some copy) before s ⟨hs.1, hs.2.snapshots, hs.2.seen⟩
        · rw [if_neg hodd]
          have heven : before.toNat % 2 = 0 := by
            have hne : before.toNat % 2 ≠ 1 := fun he => hodd (UInt64.toNat_inj.mp ((UInt64.toNat_mod ..).trans he))
            omega
          exact attempt_copies heven hadmits.positive hadmits.earlier
            (fun after => ih (attempt + 1) (some copy) after) s hs
      · apply Triple.conseq (P := fun s => readyBefore ≤ 2 ∧ seen = none ∧ WireInv s ∧ Snapshots s rs ∧ Seen seen highest s)
          ?_ (fun s hs => ⟨?_, ?_, hs.1, hs.2.snapshots, hs.2.before⟩) fun _ _ => id
        · rintro s ⟨hle, hnone, hs⟩
          have hgo : (2 < readyBefore || (seen.isSome && readyBefore ≠ 1)) = false := by
            rw [hnone]
            simpa using UInt64.not_lt.mpr hle
          rw [hgo, if_neg Bool.false_ne_true, if_pos hready]
          exact ih (attempt + 1) seen highest s hs
        · rcases hs.2.known with rfl | rfl | rfl <;> decide
        · cases hseen : seen with
          | none => rfl
          | some header => exact absurd (hs.2.same (by rw [hseen]; rfl)) hready

theorem readRecoveryStatusSnapshot_reads (fails : Nat → RecoveryRead → Bool) (rs : List RecoveryStatusSnapshot) :
    ReaderTriple i (fun s => Snapshots s rs) (readRecoveryStatusSnapshot fails) fun r s => Snapshots s (r :: rs) :=
  (attempts_reads fails rs 3 1 none 0).conseq (fun _ hs => ⟨hs.1, hs.2, rfl⟩) fun _ _ => id

end Attempt

end Reader

end RS2ServerFix.Snapshot
