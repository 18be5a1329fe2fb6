import RS2ServerFix.Reporting.Records

namespace RS2ServerFix.Reporting

inductive RecordKind
  | state | request | witness | builderEnter | builderReturn | builderUnwind | anchor
  deriving DecidableEq, Repr

def RecordKind.code (k : RecordKind) : UInt32 := (k.ctorIdx + 1).toUInt32

def recordKindCountV2 : UInt32 := 8

def RecordKind.ofCode (kind : UInt32) : Option RecordKind :=
  [.state, .request, .witness, .builderEnter, .builderReturn, .builderUnwind, .anchor].find?
    (fun k : RecordKind => k.code = kind)

structure ReportPayload where
  state : ReportStatePayload
  request : ReportRequestPayload
  builder : ReportBuilderPayload
  anchor : ReportAnchorPayload
  deriving DecidableEq, Repr, Inhabited

structure ReportRecord where
  header : ReportHeader
  payload : ReportPayload
  deriving DecidableEq, Repr, Inhabited

/-- The fields of a builder that both versions copy. The legacy one leaves what
the later one keeps of a prepared build at zero. -/
def canonicalBuilderBase (a : ReportBuilderPayload) : ReportBuilderPayload :=
  { (default : ReportBuilderPayload) with
    buildSequence := a.buildSequence, requestSequence := a.requestSequence
    witnessSequence := a.witnessSequence, sourceAgeTicks := a.sourceAgeTicks
    probeElapsedTicks := a.probeElapsedTicks, classificationElapsedTicks := a.classificationElapsedTicks
    originalElapsedTicks := a.originalElapsedTicks, entryQpc := a.entryQpc, returnQpc := a.returnQpc
    pi := a.pi, bots := a.bots, maximum := a.maximum, classification := a.classification
    selected := a.selected, result := a.result, pending := a.pending, fresh := a.fresh }

def canonicalPayloadV2 (a : ReportPayload) : RecordKind → ReportPayload
  | .state => { (default : ReportPayload) with state := canonicalState a.state }
  | .request | .witness => { (default : ReportPayload) with request := { a.request with reserved := default } }
  | .builderEnter | .builderReturn | .builderUnwind =>
      { (default : ReportPayload) with builder := canonicalBuilderBase a.builder }
  | .anchor => { (default : ReportPayload) with anchor := a.anchor }

def canonicalRecordV2 (a : ReportRecord) (sequence : UInt64) (owner : UInt32) : ReportRecord :=
  ⟨{ a.header with sequence := sequence, threadId := owner },
    ((RecordKind.ofCode a.header.kind).map (canonicalPayloadV2 a.payload)).getD default⟩

def ScheduleAdmitted (a : ReportStatePayload) : Prop := a.nativeScheduleValid = 1

def PreparedAdmitted (a : ReportBuilderPayload) : Prop :=
  a.preparedValid = 1 ∧ a.preparedMismatchMask ≤ 31 ∧ a.preparedMembers ≤ 4096 ∧
    0 < a.preparedJsonBytes ∧ a.preparedJsonBytes ≤ kJsonBytes

instance (a : ReportBuilderPayload) : Decidable (PreparedAdmitted a) := inferInstanceAs (Decidable (_ ∧ _))

def DirtyAdmitted (a : ReportBuilderPayload) : Prop := a.preparedDirtyValid = 1 ∧ a.preparedDirtyAtEntry ≤ 1

instance (a : ReportBuilderPayload) : Decidable (DirtyAdmitted a) := inferInstanceAs (Decidable (_ ∧ _))

/-- What two states may differ in without a trace are the caller's reserved words
and what a closed gate keeps out. -/
def StatesAgree (a b : ReportStatePayload) : Prop :=
  (ScheduleAdmitted a ∨ ScheduleAdmitted b → { a with reserved := b.reserved } = b) ∧
  { a with
    nativeScheduleValid := b.nativeScheduleValid, nativeScheduleAnchorBits := b.nativeScheduleAnchorBits
    nativeErrorsBits := b.nativeErrorsBits, nativeThrottlesBits := b.nativeThrottlesBits
    nativeExpedite := b.nativeExpedite, nativeRetryLimit := b.nativeRetryLimit
    nativeIntervalUnits := b.nativeIntervalUnits, nativeIntervalOverrideBits := b.nativeIntervalOverrideBits
    nativeRetryOverrideBits := b.nativeRetryOverrideBits, nativeDelayUnits := b.nativeDelayUnits
    nativeTier := b.nativeTier, reserved := b.reserved } = b

def ReportBuilderPayload.withPrepared (a b : ReportBuilderPayload) : ReportBuilderPayload :=
  { a with
    preparedValid := b.preparedValid, preparedMismatchMask := b.preparedMismatchMask
    preparedMaximum := b.preparedMaximum, preparedMembers := b.preparedMembers
    preparedPi := b.preparedPi, preparedBots := b.preparedBots
    preparedJsonMaximum := b.preparedJsonMaximum, preparedJsonBytes := b.preparedJsonBytes }

def ReportBuilderPayload.withDirty (a b : ReportBuilderPayload) : ReportBuilderPayload :=
  { a with preparedDirtyValid := b.preparedDirtyValid, preparedDirtyAtEntry := b.preparedDirtyAtEntry }

def BuildersAgreeV2 (a b : ReportBuilderPayload) : Prop :=
  { (a.withPrepared b).withDirty b with reserved := b.reserved } = b

def BuildersAgree (a b : ReportBuilderPayload) : Prop :=
  BuildersAgreeV2 a b ∧ (PreparedAdmitted a ∨ PreparedAdmitted b → a.withPrepared b = a) ∧
    (DirtyAdmitted a ∨ DirtyAdmitted b → a.withDirty b = a)

def RequestsAgree (a b : ReportRequestPayload) : Prop := { a with reserved := b.reserved } = b

def PayloadsAgreeV2 (a b : ReportPayload) : RecordKind → Prop
  | .state => StatesAgree a.state b.state
  | .request | .witness => RequestsAgree a.request b.request
  | .builderEnter | .builderReturn | .builderUnwind => BuildersAgreeV2 a.builder b.builder
  | .anchor => a.anchor = b.anchor

def PayloadsAgree (a b : ReportPayloadV3) : RecordKindV3 → Prop
  | .state => StatesAgree a.state b.state
  | .request | .witness => RequestsAgree a.request b.request
  | .builderEnter | .builderReturn | .builderUnwind => BuildersAgree a.builder b.builder
  | .anchor => a.anchor = b.anchor
  | .transportSummary => { a.transport with reserved := b.transport.reserved } = b.transport
  | .control => { a.control with reserved := b.control.reserved } = b.control
  | .recovery => a.recovery = b.recovery

/-- The thread of a header is the ring's to fill in. -/
def HeadersAgree (a b : ReportHeader) : Prop := { a with threadId := b.threadId } = b

def RecordsAgreeV2 (a b : ReportRecord) : Prop :=
  HeadersAgree a.header b.header ∧
    ∀ k ∈ RecordKind.ofCode a.header.kind, PayloadsAgreeV2 a.payload b.payload k

def RecordsAgree (a b : ReportRecordV3) : Prop :=
  HeadersAgree a.header b.header ∧
    ∀ k ∈ RecordKindV3.ofCode a.header.kind, PayloadsAgree a.payload b.payload k

/-- What the template over the record takes from its argument. `stopped` reads
the words besides the stop that keep a record out, and `Agree` relates two
records that may not be told apart. -/
structure RecordVersion (R : Type) where
  header : R → ReportHeader
  kindCount : UInt32
  validRecovery : R → Bool
  canonical : R → UInt64 → UInt32 → R
  faulted : StatusWords → Bool
  Agree : R → R → Prop

def recordsV2 : RecordVersion ReportRecord where
  header := ReportRecord.header
  kindCount := recordKindCountV2
  validRecovery := fun _ => true
  canonical := canonicalRecordV2
  faulted := fun _ => false
  Agree := RecordsAgreeV2

def recordsV3 : RecordVersion ReportRecordV3 where
  header := ReportRecordV3.header
  kindCount := recordKindCount
  validRecovery := validRecovery
  canonical := canonicalRecord
  faulted := fun s => s.fatalTransportReason ≠ 0
  Agree := RecordsAgree

namespace RecordVersion

variable {R : Type} (v : RecordVersion R)

def validHeader (h : ReportHeader) : Bool :=
  h.sequence = 0 && 1 ≤ h.kind && h.kind < v.kindCount && h.reason < kReasonCount.toUInt32

def Valid (r : R) : Prop := v.validHeader (v.header r) = true ∧ v.validRecovery r = true

instance (r : R) : Decidable (v.Valid r) := inferInstanceAs (Decidable (_ ∧ _))

/-- What the ring relies on: only the sequence and the thread of a header are
filled in, a record that was let in stays one, and agreeing records are one. -/
structure Lawful : Prop where
  header : ∀ r sequence owner,
    v.header (v.canonical r sequence owner) = { v.header r with sequence := sequence, threadId := owner }
  recovery : ∀ r sequence owner, v.validRecovery r = true → v.validRecovery (v.canonical r sequence owner) = true
  valid : ∀ a b, v.Agree a b → (v.Valid a ↔ v.Valid b)
  canonical : ∀ a b sequence owner, v.Agree a b → v.canonical a sequence owner = v.canonical b sequence owner

end RecordVersion

theorem StatesAgree.canonical {a b : ReportStatePayload} (h : StatesAgree a b) : canonicalState a = canonicalState b := by
  obtain ⟨hgate, hrest⟩ := h
  by_cases hopen : a.nativeScheduleValid = 1 ∨ b.nativeScheduleValid = 1
  · rw [← hgate hopen]
    simp only [canonicalState]
  · rw [not_or] at hopen
    rw [← hrest]
    simp only [canonicalState, hopen.1, hopen.2, if_false]

theorem BuildersAgreeV2.canonical {a b : ReportBuilderPayload} (h : BuildersAgreeV2 a b) :
    canonicalBuilderBase a = canonicalBuilderBase b := by
  rw [← h]
  rfl

/-- The later version keeps a group of the builder where its gate is open. -/
theorem canonicalBuilder_eq (a : ReportBuilderPayload) :
    canonicalBuilder a = ((canonicalBuilderBase a).withPrepared (if PreparedAdmitted a then a else default)).withDirty
      (if DirtyAdmitted a then a else default) := by
  by_cases hp : PreparedAdmitted a
  · unfold PreparedAdmitted at hp
    by_cases hd : DirtyAdmitted a
    · unfold DirtyAdmitted at hd
      simp only [canonicalBuilder, PreparedAdmitted, DirtyAdmitted, hp, hd, if_true, canonicalBuilderBase,
        ReportBuilderPayload.withPrepared, ReportBuilderPayload.withDirty, and_self]
    · unfold DirtyAdmitted at hd
      simp only [canonicalBuilder, PreparedAdmitted, DirtyAdmitted, hp, hd, if_true, if_false, canonicalBuilderBase,
        ReportBuilderPayload.withPrepared, ReportBuilderPayload.withDirty, and_self]
  · unfold PreparedAdmitted at hp
    by_cases hd : DirtyAdmitted a
    · unfold DirtyAdmitted at hd
      simp only [canonicalBuilder, PreparedAdmitted, DirtyAdmitted, hp, hd, if_true, if_false, canonicalBuilderBase,
        ReportBuilderPayload.withPrepared, ReportBuilderPayload.withDirty, and_self]
    · unfold DirtyAdmitted at hd
      simp only [canonicalBuilder, PreparedAdmitted, DirtyAdmitted, hp, hd, if_false, canonicalBuilderBase,
        ReportBuilderPayload.withPrepared, ReportBuilderPayload.withDirty]

theorem withPrepared_congr {a b : ReportBuilderPayload} (h : a.withPrepared b = a) (c : ReportBuilderPayload) :
    c.withPrepared a = c.withPrepared b := by
  rw [← h]
  rfl

theorem withDirty_congr {a b : ReportBuilderPayload} (h : a.withDirty b = a) (c : ReportBuilderPayload) :
    c.withDirty a = c.withDirty b := by
  rw [← h]
  rfl

theorem preparedAdmitted_congr {a b : ReportBuilderPayload} (h : a.withPrepared b = a) :
    PreparedAdmitted a ↔ PreparedAdmitted b := by
  rw [← h]
  rfl

theorem dirtyAdmitted_congr {a b : ReportBuilderPayload} (h : a.withDirty b = a) :
    DirtyAdmitted a ↔ DirtyAdmitted b := by
  rw [← h]
  rfl

theorem BuildersAgree.canonical {a b : ReportBuilderPayload} (h : BuildersAgree a b) :
    canonicalBuilder a = canonicalBuilder b := by
  obtain ⟨hbase, hprepared, hdirty⟩ := h
  have hp : ∀ c : ReportBuilderPayload, c.withPrepared (if PreparedAdmitted a then a else default) =
      c.withPrepared (if PreparedAdmitted b then b else default) := by
    intro c
    by_cases hopen : PreparedAdmitted a ∨ PreparedAdmitted b
    · have hsame := hprepared hopen
      have ha : PreparedAdmitted a := hopen.elim id (preparedAdmitted_congr hsame).mpr
      rw [if_pos ha, if_pos ((preparedAdmitted_congr hsame).mp ha)]
      exact withPrepared_congr hsame c
    · rw [not_or] at hopen
      rw [if_neg hopen.1, if_neg hopen.2]
  have hd : ∀ c : ReportBuilderPayload, c.withDirty (if DirtyAdmitted a then a else default) =
      c.withDirty (if DirtyAdmitted b then b else default) := by
    intro c
    by_cases hopen : DirtyAdmitted a ∨ DirtyAdmitted b
    · have hsame := hdirty hopen
      have ha : DirtyAdmitted a := hopen.elim id (dirtyAdmitted_congr hsame).mpr
      rw [if_pos ha, if_pos ((dirtyAdmitted_congr hsame).mp ha)]
      exact withDirty_congr hsame c
    · rw [not_or] at hopen
      rw [if_neg hopen.1, if_neg hopen.2]
  rw [canonicalBuilder_eq a, canonicalBuilder_eq b, hbase.canonical, hp, hd]

theorem RequestsAgree.canonical {a b : ReportRequestPayload} (h : RequestsAgree a b) :
    ({ a with reserved := default } : ReportRequestPayload) = { b with reserved := default } := by
  rw [← h]

theorem PayloadsAgreeV2.canonical {a b : ReportPayload} {k : RecordKind} (h : PayloadsAgreeV2 a b k) :
    canonicalPayloadV2 a k = canonicalPayloadV2 b k := by
  cases k with
  | state => simp only [canonicalPayloadV2, StatesAgree.canonical h]
  | request => simp only [canonicalPayloadV2, RequestsAgree.canonical h]
  | witness => simp only [canonicalPayloadV2, RequestsAgree.canonical h]
  | builderEnter => simp only [canonicalPayloadV2, BuildersAgreeV2.canonical h]
  | builderReturn => simp only [canonicalPayloadV2, BuildersAgreeV2.canonical h]
  | builderUnwind => simp only [canonicalPayloadV2, BuildersAgreeV2.canonical h]
  | anchor => rw [canonicalPayloadV2, canonicalPayloadV2, show a.anchor = b.anchor from h]

theorem PayloadsAgree.canonical {a b : ReportPayloadV3} {k : RecordKindV3} (h : PayloadsAgree a b k) :
    canonicalPayload a k = canonicalPayload b k := by
  cases k with
  | state => simp only [canonicalPayload, StatesAgree.canonical h]
  | request => simp only [canonicalPayload, RequestsAgree.canonical h]
  | witness => simp only [canonicalPayload, RequestsAgree.canonical h]
  | builderEnter => simp only [canonicalPayload, BuildersAgree.canonical h]
  | builderReturn => simp only [canonicalPayload, BuildersAgree.canonical h]
  | builderUnwind => simp only [canonicalPayload, BuildersAgree.canonical h]
  | anchor => rw [canonicalPayload, canonicalPayload, show a.anchor = b.anchor from h]
  | transportSummary =>
      have hsame : { a.transport with reserved := b.transport.reserved } = b.transport := h
      rw [canonicalPayload, canonicalPayload, ← hsame]
  | control =>
      have hsame : { a.control with reserved := b.control.reserved } = b.control := h
      rw [canonicalPayload, canonicalPayload, ← hsame]
  | recovery => rw [canonicalPayload, canonicalPayload, show a.recovery = b.recovery from h]

theorem HeadersAgree.kind {a b : ReportHeader} (h : HeadersAgree a b) : a.kind = b.kind := by
  rw [← h]

theorem HeadersAgree.canonical {a b : ReportHeader} (h : HeadersAgree a b) (sequence : UInt64) (owner : UInt32) :
    ({ a with sequence := sequence, threadId := owner } : ReportHeader) =
      { b with sequence := sequence, threadId := owner } := by
  rw [← h]

theorem HeadersAgree.valid {R : Type} (v : RecordVersion R) {a b : ReportHeader} (h : HeadersAgree a b) :
    v.validHeader a = v.validHeader b := by
  rw [← h]
  rfl

theorem recordsV2_lawful : recordsV2.Lawful where
  header := fun _ _ _ => rfl
  recovery := fun _ _ _ h => h
  valid := by
    intro a b h
    have hheader : recordsV2.validHeader a.header = recordsV2.validHeader b.header := h.1.valid recordsV2
    change recordsV2.validHeader a.header = true ∧ _ ↔ recordsV2.validHeader b.header = true ∧ _
    rw [hheader]
    rfl
  canonical := by
    intro a b sequence owner h
    obtain ⟨hheader, hpayload⟩ := h
    have hsame : (RecordKind.ofCode a.header.kind).map (canonicalPayloadV2 a.payload) =
        (RecordKind.ofCode b.header.kind).map (canonicalPayloadV2 b.payload) := by
      rw [← hheader.kind]
      cases hk : RecordKind.ofCode a.header.kind with
      | none => rfl
      | some k => rw [Option.map_some, Option.map_some, (hpayload k hk).canonical]
    change canonicalRecordV2 a sequence owner = canonicalRecordV2 b sequence owner
    rw [canonicalRecordV2, canonicalRecordV2, hheader.canonical, hsame]

theorem ofCode_recovery {kind : UInt32} (h : kind = RecordKindV3.recovery.code) :
    RecordKindV3.ofCode kind = some .recovery := by
  subst h
  decide

theorem recordsV3_lawful : recordsV3.Lawful where
  header := fun _ _ _ => rfl
  recovery := by
    intro r sequence owner h
    change validRecovery (canonicalRecord r sequence owner) = true
    change validRecovery r = true at h
    unfold validRecovery at h ⊢
    by_cases hk : r.header.kind = RecordKindV3.recovery.code
    · have hpayload : (canonicalRecord r sequence owner).payload.recovery = r.payload.recovery := by
        rw [canonicalRecord, ofCode_recovery hk]
        rfl
      rw [if_pos hk] at h
      rw [if_pos (show (canonicalRecord r sequence owner).header.kind = _ from hk), hpayload]
      exact h
    · exact if_neg hk
  valid := by
    intro a b h
    obtain ⟨hheader, hpayload⟩ := h
    have hvalid : recordsV3.validHeader a.header = recordsV3.validHeader b.header := hheader.valid recordsV3
    have hrecovery : validRecovery a = validRecovery b := by
      unfold validRecovery
      by_cases hk : a.header.kind = RecordKindV3.recovery.code
      · have hsame : a.payload.recovery = b.payload.recovery := hpayload .recovery (ofCode_recovery hk)
        rw [if_pos hk, if_pos (hheader.kind ▸ hk), hsame, ← hheader]
      · rw [if_neg hk, if_neg (hheader.kind ▸ hk)]
    change recordsV3.validHeader a.header = true ∧ validRecovery a = true ↔
      recordsV3.validHeader b.header = true ∧ validRecovery b = true
    rw [hvalid, hrecovery]
  canonical := by
    intro a b sequence owner h
    obtain ⟨hheader, hpayload⟩ := h
    have hsame : (RecordKindV3.ofCode a.header.kind).map (canonicalPayload a.payload) =
        (RecordKindV3.ofCode b.header.kind).map (canonicalPayload b.payload) := by
      rw [← hheader.kind]
      cases hk : RecordKindV3.ofCode a.header.kind with
      | none => rfl
      | some k => rw [Option.map_some, Option.map_some, (hpayload k hk).canonical]
    change canonicalRecord a sequence owner = canonicalRecord b sequence owner
    rw [canonicalRecord, canonicalRecord, hheader.canonical, hsame]

end RS2ServerFix.Reporting
