import RS2ServerFix.Snapshot.RecoverySnapshots

namespace RS2ServerFix.Snapshot

open Reporting Lib

def storedWords (w : Nat → UInt64) (i : Nat) : List UInt64 → Nat → UInt64
  | [] => w
  | value :: rest => storedWords (Function.update w i value) (i + 1) rest

theorem storedWords_apply (w : Nat → UInt64) (i : Nat) (values : List UInt64) (k : Nat) :
    storedWords w i values k = if i ≤ k ∧ k < i + values.length then values.getD (k - i) 0 else w k := by
  induction values generalizing w i with
  | nil => simp [storedWords]
  | cons value rest ih =>
      rw [storedWords, ih, List.length_cons]
      by_cases hk : k = i
      · subst hk
        simp
      · rw [Function.update_of_ne hk]
        by_cases hlt : i < k
        · obtain ⟨m, rfl⟩ : ∃ m, k = i + 1 + m := ⟨k - (i + 1), by omega⟩
          have hm : i + 1 + m - i = m + 1 := by omega
          rw [hm, List.getD_cons_succ, Nat.add_sub_cancel_left]
          exact if_congr (by omega) rfl rfl
        · rw [if_neg (by omega), if_neg (by omega)]

theorem zero_words : ReportRecoveryPayload.word ReportRecoveryPayload.zero = fun _ => 0 := by
  funext k
  have hwords : ReportRecoveryPayload.words ReportRecoveryPayload.zero = List.replicate payloadWords 0 := rfl
  rw [ReportRecoveryPayload.word, hwords, List.getD_eq_getElem?_getD, List.getElem?_replicate]
  split <;> rfl

/-- Beyond its words a payload is zero, as the wire is. -/
theorem storedWords_payload (w : Nat → UInt64) (hw : ∀ k, payloadWords ≤ k → w k = 0) (p : ReportRecoveryPayload) :
    storedWords w 0 (ReportRecoveryPayload.words p) = ReportRecoveryPayload.word p := by
  funext k
  rw [storedWords_apply]
  have hlength : (ReportRecoveryPayload.words p).length = payloadWords := rfl
  by_cases hk : k < payloadWords
  · rw [if_pos ⟨Nat.zero_le k, by omega⟩]
    rfl
  · rw [if_neg (by omega), hw k (by omega), ReportRecoveryPayload.word, List.getD_eq_getElem?_getD,
      List.getElem?_eq_none (by omega), Option.getD_none]

def RecoveryShared.withPayload (s : RecoveryShared) (w : Nat → UInt64) : RecoveryShared :=
  { s with wire := { s.wire with payload := w } }

section Stores

variable {party : RecoveryParty} {α : Type} {Q : α → RecoveryShared → Prop} {k : Unit → WireProg α}

/-- The stores of a payload by a party that is alone with the wire. -/
theorem storeWords_safe {s : RecoveryShared}
    (hstill : ∀ w, Undisturbed (Rely WireInv recoveryGuarantee party) (s.withPayload w))
    (hwithin : ∀ w w' : Nat → UInt64, (∀ k, payloadWords ≤ k → w' k = 0) →
      Within WireInv (recoveryGuarantee party) (s.withPayload w) (s.withPayload w'))
    (values : List UInt64) (i : Nat) (w : Nat → UInt64) (hi : i + values.length ≤ payloadWords)
    (hw : ∀ k, payloadWords ≤ k → w k = 0)
    (hrest : Safe (Rely WireInv recoveryGuarantee party) (Within WireInv (recoveryGuarantee party)) (k ()) Q
      (s.withPayload (storedWords w i values))) :
    Safe (Rely WireInv recoveryGuarantee party) (Within WireInv (recoveryGuarantee party))
      ((storeWords i values).bind k) Q (s.withPayload w) := by
  induction values generalizing i w with
  | nil => exact hrest
  | cons value rest ih =>
      rw [List.length_cons] at hi
      have hw' : ∀ k, payloadWords ≤ k → Function.update w i value k = 0 := by
        intro k hk
        rw [Function.update_of_ne (by omega)]
        exact hw k hk
      apply Undisturbed.bind (f := fun t : RecoveryShared =>
          ((), t.withPayload (Function.update t.wire.payload i value)))
        (k := fun _ => (storeWords (i + 1) rest).bind k) (hstill w)
      · exact hwithin w _ hw'
      · exact ih (i + 1) (Function.update w i value) (by omega) hw' hrest

end Stores

section Initializer

variable {s s' : RecoveryShared}

theorem still_of_not_ready (h : s.wire.headerReady ≠ 1) : Undisturbed (Rely WireInv recoveryGuarantee .initializer) s := by
  rintro s' ⟨⟨party, hne, hg⟩, -⟩
  cases party with
  | initializer => exact absurd rfl hne
  | publisher => exact hg.2 h
  | reader i => exact hg

theorem filling_within (hready : s.wire.headerReady = 2) (hready' : s'.wire.headerReady = 2)
    (hidentity : s'.identity = s.identity) (hpublished : s.published <:+ s'.published)
    (hbeyond : ∀ k, payloadWords ≤ k → s'.wire.payload k = 0) :
    Within WireInv (recoveryGuarantee .initializer) s s' := by
  have hne : ∀ {t : RecoveryShared}, t.wire.headerReady = 2 → t.wire.headerReady ≠ 1 := by
    intro t ht he
    rw [ht] at he
    exact absurd he (by decide)
  intro hi
  refine ⟨⟨⟨fun identity h => hidentity.trans h, hpublished, fun h => absurd h (hne hready),
    fun h => absurd h (hne hready), fun h => absurd h (hne hready)⟩, fun h => absurd h (hne hready),
    fun _ h => absurd h (hne hready')⟩, ⟨.inr (.inl hready'), fun h => ?_, fun h => absurd h (hne hready'), hbeyond⟩⟩
  rw [hready'] at h
  exact absurd h (by decide)

/-- The results of the initializer name the identity. -/
def IdentityKnown (results : List RecoveryReturn) (s : RecoveryShared) : Prop :=
  ∀ identity, .initialized identity true ∈ results → s.identity = some identity

theorem IdentityKnown.stable (results : List RecoveryReturn) : Stable WireShift (IdentityKnown results) :=
  fun _ _ h hs identity hm => (later_of_shift hs).identity identity (h identity hm)

theorem IdentityKnown.refused {results : List RecoveryReturn} (h : IdentityKnown results s) (identity : StatusHeader) :
    IdentityKnown (.initialized identity false :: results) s := by
  intro identity' hm
  rcases List.mem_cons.mp hm with he | hm
  · cases he
  · exact h identity' hm

variable {α : Type} {Q : α → RecoveryShared → Prop} {k : Unit → WireProg α}

theorem still_filling (h : s.wire.headerReady = 2) :
    Undisturbed (Rely WireInv recoveryGuarantee .initializer) s := by
  apply still_of_not_ready
  rw [h]
  decide

abbrev FillingSafe (p : WireProg α) (Q : α → RecoveryShared → Prop) (s : RecoveryShared) : Prop :=
  Safe (Rely WireInv recoveryGuarantee .initializer) (Within WireInv (recoveryGuarantee .initializer)) p Q s

theorem filling_store {f : RecoveryShared → RecoveryShared} (hready : s.wire.headerReady = 2)
    (hs : Within WireInv (recoveryGuarantee .initializer) s (f s)) (h : FillingSafe (k ()) Q (f s)) :
    FillingSafe (Prog.modify f >>= k) Q s :=
  (still_filling hready).bind hs h

theorem filling_header {f : RecoveryHeader → RecoveryHeader} (hready : s.wire.headerReady = 2)
    (hbeyond : ∀ k, payloadWords ≤ k → s.wire.payload k = 0)
    (h : FillingSafe (k ()) Q { s with wire := { s.wire with header := f s.wire.header } }) :
    FillingSafe (storeHeader f >>= k) Q s :=
  filling_store hready (filling_within hready hready rfl List.suffix_rfl hbeyond) h

def filled (s : RecoveryShared) (identity : StatusHeader) : RecoveryShared where
  wire := ⟨headerOf identity, s.wire.headerReady, 2, ReportRecoveryPayload.word ReportRecoveryPayload.zero⟩
  identity := s.identity
  published := ReportRecoveryPayload.zero :: s.published

/-- The stores of the call that enters, up to the ready word. -/
theorem filling_safe {identity : StatusHeader} (hready : s.wire.headerReady = 2)
    (hbeyond : ∀ k, payloadWords ≤ k → s.wire.payload k = 0)
    (h : FillingSafe (k ()) Q (filled s identity)) :
    FillingSafe (do
      storeHeader fun h => { h with schema := kRecoveryStatusSchemaV1 }
      storeHeader fun h => { h with bytes := recoveryStatusWireBytes }
      storeHeader fun h => { h with artifactVersion := kRecoveryArtifactVersion }
      storeHeader fun h => { h with pid := identity.pid }
      storeHeader fun h => { h with runId := (identity.runId.1, h.runId.2) }
      storeHeader fun h => { h with runId := (h.runId.1, identity.runId.2) }
      storeSequence 1
      storePayload ReportRecoveryPayload.zero
      storePublished 2 ReportRecoveryPayload.zero
      k ()) Q s := by
  have hpayload : FillingSafe (do
      storePayload ReportRecoveryPayload.zero
      storePublished 2 ReportRecoveryPayload.zero
      k ()) Q { s with wire := { s.wire with header := headerOf identity, ownerSequence := 1 } } := by
    apply storeWords_safe (s := { s with wire := { s.wire with header := headerOf identity, ownerSequence := 1 } })
      (fun w => still_filling hready)
      (fun w w' hw' => filling_within hready hready rfl List.suffix_rfl hw')
      (ReportRecoveryPayload.words ReportRecoveryPayload.zero) 0 s.wire.payload (Nat.le_refl payloadWords) hbeyond
    rw [storedWords_payload _ hbeyond]
    refine filling_store (by exact hready) (filling_within hready hready rfl ?_ ?_) h
    · exact List.suffix_cons _ _
    · exact fun k _ => congrFun zero_words k
  refine filling_header (by exact hready) (by exact hbeyond) ?_
  refine filling_header (by exact hready) (by exact hbeyond) ?_
  refine filling_header (by exact hready) (by exact hbeyond) ?_
  refine filling_header (by exact hready) (by exact hbeyond) ?_
  refine filling_header (by exact hready) (by exact hbeyond) ?_
  refine filling_header (by exact hready) (by exact hbeyond) ?_
  exact filling_store (by exact hready) (filling_within hready hready rfl List.suffix_rfl hbeyond) hpayload

theorem filled_initialized {identity : StatusHeader} (hvalid : reportingIdentityValidV3 identity = true)
    (hidentity : s.identity = some identity) (hpublished : s.published = []) :
    WireInv { filled s identity with wire := { (filled s identity).wire with headerReady := 1 } } where
  ready := .inr (.inr rfl)
  fresh := fun h => absurd (show (1 : UInt64) = 0 from h) (by decide)
  initialized := fun _ =>
    { block := by
        refine ⟨?_, ?_⟩
        · change (2 : UInt64).toNat / 2 = ((ReportRecoveryPayload.zero :: s.published).map ReportRecoveryPayload.word).length
          rw [hpublished]
          rfl
        · intro _ v hv k
          obtain rfl := Option.some.inj hv
          rfl
      sequence := Nat.le_refl 2
      identity := ⟨identity, hidentity, hvalid, rfl⟩
      valid := by
        intro p hp
        change p ∈ ReportRecoveryPayload.zero :: s.published at hp
        rw [hpublished, List.mem_singleton] at hp
        rw [hp]
        decide }
  beyond := fun k _ => congrFun zero_words k

def Entered (entered : Bool) (identity : StatusHeader) (s : RecoveryShared) : Prop :=
  entered = true → s.wire.headerReady = 2 ∧ s.identity = some identity ∧ s.published = []

theorem Entered.stable (entered : Bool) (identity : StatusHeader) :
    Stable (Rely WireInv recoveryGuarantee .initializer) (Entered entered identity) := by
  intro s s' h hr he
  rw [still_filling (h he).1 s' hr]
  exact h he

/-- The entry. -/
theorem initializer_enters (results : List RecoveryReturn) (identity : StatusHeader) :
    Triple (Rely WireInv recoveryGuarantee .initializer) (Within WireInv (recoveryGuarantee .initializer))
      (fun s => WireInv s ∧ IdentityKnown results s)
      (Prog.act fun s => if s.wire.headerReady = 0 then
        (true, { s with wire := { s.wire with headerReady := 2 }, identity := some identity }) else (false, s))
      fun entered s => (WireInv s ∧ IdentityKnown results s) ∧ Entered entered identity s := by
  have hstable : Stable (Rely WireInv recoveryGuarantee .initializer) fun s => WireInv s ∧ IdentityKnown results s :=
    fun s s' hs hr => ⟨hr.2.2, IdentityKnown.stable results s s' hs.2 hr.shift⟩
  apply Triple.act hstable fun entered => hstable.and (Entered.stable entered identity)
  rintro s ⟨hi, hknown⟩
  by_cases hready : s.wire.headerReady = 0
  · obtain ⟨hnone, hpublished⟩ := hi.fresh hready
    have hne : s.wire.headerReady ≠ 1 := by
      rw [hready]
      decide
    have hlater : WireLater s { s with wire := { s.wire with headerReady := 2 }, identity := some identity } :=
      ⟨fun _ h => absurd (hnone.symm.trans h) (by simp), List.suffix_rfl, fun h => absurd h hne,
        fun h => absurd h hne, fun h => absurd h hne⟩
    have hinv : WireInv { s with wire := { s.wire with headerReady := 2 }, identity := some identity } :=
      ⟨.inr (.inl rfl), fun h => absurd (show (2 : UInt64) = 0 from h) (by decide),
        fun h => absurd (show (2 : UInt64) = 1 from h) (by decide), hi.beyond⟩
    rw [if_pos hready]
    refine ⟨fun _ => ⟨⟨hlater, fun h => absurd h hne, fun _ h => absurd (show (2 : UInt64) = 1 from h) (by decide)⟩,
      hinv⟩, ⟨hinv, fun identity' hm => hlater.identity identity' (hknown identity' hm)⟩, fun _ => ⟨rfl, rfl, hpublished⟩⟩
  · rw [if_neg hready]
    exact ⟨fun _ => ⟨⟨.refl s, fun _ => rfl, fun h h' => absurd h' h⟩, hi⟩, ⟨hi, hknown⟩, fun h => by cases h⟩

/-- The calls of the initializer. -/
theorem initializeRecoveryStatus_safe (results : List RecoveryReturn) (identity : StatusHeader) :
    Triple (Rely WireInv recoveryGuarantee .initializer) (Within WireInv (recoveryGuarantee .initializer))
      (fun s => WireInv s ∧ IdentityKnown results s) (initializeRecoveryStatus identity)
      fun done s => WireInv s ∧ IdentityKnown (.initialized identity done :: results) s := by
  unfold initializeRecoveryStatus
  by_cases hvalid : reportingIdentityValidV3 identity = true
  · rw [hvalid]
    apply (initializer_enters results identity).bind
    rintro (_ | _) s ⟨⟨hi, hknown⟩, hentered⟩
    · exact Triple.rest (IdentityKnown.stable _) (fun s _ hknown => hknown.refused identity) s ⟨hi, hknown⟩
    · obtain ⟨hready, hidentity, hpublished⟩ := hentered rfl
      apply filling_safe (k := fun _ => do
        storeReady 1
        return true) hready hi.beyond
      have hne : (filled s identity).wire.headerReady ≠ 1 := fun h => absurd (hready.symm.trans h) (by decide)
      have hfilled := filled_initialized hvalid hidentity hpublished
      have hpublished' : (filled s identity).published = [ReportRecoveryPayload.zero] := by
        change ReportRecoveryPayload.zero :: s.published = _
        rw [hpublished]
      apply filling_store (s := filled s identity) hready
      · exact fun _ => ⟨⟨⟨fun _ => id, List.suffix_rfl, fun h => absurd h hne, fun h => absurd h hne,
          fun h => absurd h hne⟩, fun h => absurd h hne, fun _ _ => ⟨(by decide : (2 : UInt64).toNat % 2 = 0), hpublished'⟩⟩, hfilled⟩
      · refine Triple.rest (P := IdentityKnown (.initialized identity true :: results)) (IdentityKnown.stable _)
          (fun _ _ => id) _ ⟨hfilled, fun identity' hm => ?_⟩
        rcases List.mem_cons.mp hm with he | hm
        · obtain ⟨rfl, -⟩ := RecoveryReturn.initialized.inj he
          exact hidentity
        · exact hknown identity' hm
  · rw [Bool.not_eq_true] at hvalid
    rw [hvalid]
    exact Triple.rest (IdentityKnown.stable _) fun s _ hknown => hknown.refused identity

end Initializer

section Publisher

variable {s s' : RecoveryShared}

theorem still_of_ready (h : s.wire.headerReady = 1) : Undisturbed (Rely WireInv recoveryGuarantee .publisher) s := by
  rintro s' ⟨⟨party, hne, hg⟩, -⟩
  cases party with
  | initializer => exact hg.2.1 h
  | publisher => exact absurd rfl hne
  | reader i => exact hg

def RecoveryReturn.accepted? : RecoveryReturn → Option ReportRecoveryPayload
  | .published payload true => some payload
  | _ => none

def accepted (results : List RecoveryReturn) : List ReportRecoveryPayload := results.filterMap RecoveryReturn.accepted?

/-- Between two calls of the publisher: nothing half stored, and what was
published is what its calls took. -/
structure Complete (results : List RecoveryReturn) (s : RecoveryShared) : Prop where
  ready : s.wire.headerReady = 1 →
    s.wire.ownerSequence.toNat % 2 = 0 ∧ s.published = accepted results ++ [ReportRecoveryPayload.zero]
  fresh : s.wire.headerReady ≠ 1 → accepted results = []

theorem Complete.stable (results : List RecoveryReturn) :
    Stable (Rely WireInv recoveryGuarantee .publisher) (Complete results) := by
  intro s s' h hr
  by_cases hready : s.wire.headerReady = 1
  · rw [still_of_ready hready s' hr]
    exact h
  · obtain ⟨⟨party, hne, hg⟩, -⟩ := hr
    cases party with
    | initializer =>
        refine ⟨fun hready' => ?_, fun _ => h.fresh hready⟩
        obtain ⟨heven, hpublished⟩ := hg.2.2 hready hready'
        rw [h.fresh hready]
        exact ⟨heven, hpublished⟩
    | publisher => exact absurd rfl hne
    | reader i => exact hg ▸ h

theorem publishing_within (hready : s.wire.headerReady = 1) (hs' : WireInv s')
    (hidentity : s'.identity = s.identity) (hpublished : s.published <:+ s'.published)
    (hready' : s'.wire.headerReady = 1) (hheader : s'.wire.header = s.wire.header)
    (hsequence : s.wire.ownerSequence.toNat ≤ s'.wire.ownerSequence.toNat) :
    Within WireInv (recoveryGuarantee .publisher) s s' :=
  fun _ => ⟨⟨⟨fun _ h => hidentity.trans h, hpublished, fun _ => hready', fun _ => hheader, fun _ => hsequence⟩,
    fun h => absurd hready h⟩, hs'⟩

def storing (s : RecoveryShared) (before : UInt64) (w : Nat → UInt64) : RecoveryShared :=
  { s with wire := { s.wire with ownerSequence := before, payload := w } }

theorem storing_inv (hs : WireInv s) (hready : s.wire.headerReady = 1) (heven : s.wire.ownerSequence.toNat % 2 = 0)
    {w : Nat → UInt64} (hw : ∀ k, payloadWords ≤ k → w k = 0) {sequence : UInt64}
    (hsequence : sequence.toNat = s.wire.ownerSequence.toNat + 1) : WireInv (storing s sequence w) where
  ready := hs.ready
  fresh := hs.fresh
  initialized := fun _ =>
    have hinit := hs.initialized hready
    have hcount : s.wire.ownerSequence.toNat / 2 = (s.published.map ReportRecoveryPayload.word).length :=
      hinit.block.count
    { block := by
        refine ⟨?_, fun h => ?_⟩
        · change sequence.toNat / 2 = (s.published.map ReportRecoveryPayload.word).length
          omega
        · change sequence.toNat % 2 = 0 at h
          omega
      sequence := by
        have hsequence' := hinit.sequence
        change 2 ≤ sequence.toNat
        omega
      identity := hinit.identity
      valid := hinit.valid }
  beyond := hw

def stored (s : RecoveryShared) (sequence : UInt64) (payload : ReportRecoveryPayload) : RecoveryShared :=
  { s with
    wire := { s.wire with ownerSequence := sequence, payload := ReportRecoveryPayload.word payload }
    published := payload :: s.published }

theorem word_beyond (p : ReportRecoveryPayload) (k : Nat) (hk : payloadWords ≤ k) : ReportRecoveryPayload.word p k = 0 := by
  rw [← storedWords_payload (fun _ => 0) (fun _ _ => rfl), storedWords_apply, if_neg]
  have hlength : (ReportRecoveryPayload.words p).length = payloadWords := rfl
  omega

theorem stored_inv (hs : WireInv s) (hready : s.wire.headerReady = 1) {payload : ReportRecoveryPayload}
    (hvalid : payload.recoveryPayloadValid = true) {sequence : UInt64}
    (hsequence : sequence.toNat = s.wire.ownerSequence.toNat + 2) : WireInv (stored s sequence payload) where
  ready := hs.ready
  fresh := fun h => absurd (hready.symm.trans h) (by decide)
  initialized := fun _ =>
    have hinit := hs.initialized hready
    have hcount : s.wire.ownerSequence.toNat / 2 = (s.published.map ReportRecoveryPayload.word).length :=
      hinit.block.count
    { block := by
        refine ⟨?_, fun _ v hv k => ?_⟩
        · change sequence.toNat / 2 = ((payload :: s.published).map ReportRecoveryPayload.word).length
          rw [List.map_cons, List.length_cons]
          omega
        · obtain rfl := Option.some.inj hv
          rfl
      sequence := by
        change 2 ≤ sequence.toNat
        omega
      identity := hinit.identity
      valid := by
        intro p hp
        rcases List.mem_cons.mp hp with rfl | hp
        · exact hvalid
        · exact hinit.valid p hp }
  beyond := word_beyond payload

variable {α : Type} {Q : α → RecoveryShared → Prop} {k : Unit → WireProg α}

abbrev PublishingSafe (p : WireProg α) (Q : α → RecoveryShared → Prop) (s : RecoveryShared) : Prop :=
  Safe (Rely WireInv recoveryGuarantee .publisher) (Within WireInv (recoveryGuarantee .publisher)) p Q s

theorem publishing_load {β : Type} {f : RecoveryShared → β} {k : β → WireProg α} (hs : WireInv s)
    (hready : s.wire.headerReady = 1) (h : PublishingSafe (k (f s)) Q s) :
    PublishingSafe (Prog.read f >>= k) Q s :=
  (still_of_ready hready).bind
    (publishing_within hready hs rfl List.suffix_rfl hready rfl le_rfl) h

theorem publishing_loadHeader {k : RecoveryHeader → WireProg α} (hs : WireInv s) (hready : s.wire.headerReady = 1)
    (h : PublishingSafe (k s.wire.header) Q s) : PublishingSafe (loadHeader >>= k) Q s := by
  have hload : PublishingSafe loadHeader (fun header t => header = s.wire.header ∧ t = s) s := by
    unfold loadHeader
    apply publishing_load hs hready
    apply publishing_load hs hready
    apply publishing_load hs hready
    apply publishing_load hs hready
    exact (still_of_ready hready).done ⟨rfl, rfl⟩
  apply Safe.bind (hload.mono _)
  rintro _ _ ⟨rfl, rfl⟩
  exact h

/-- The stores of a publication. -/
theorem publishing_safe {payload : ReportRecoveryPayload} (hs : WireInv s) (hready : s.wire.headerReady = 1)
    (heven : s.wire.ownerSequence.toNat % 2 = 0) (hvalid : payload.recoveryPayloadValid = true) {first second : UInt64}
    (hfirst : first.toNat = s.wire.ownerSequence.toNat + 1) (hsecond : second.toNat = s.wire.ownerSequence.toNat + 2)
    (h : PublishingSafe (k ()) Q (stored s second payload)) :
    PublishingSafe (do
      storeSequence first
      storePayload payload
      storePublished second payload
      k ()) Q s := by
  have hpayload : PublishingSafe (do
      storePayload payload
      storePublished second payload
      k ()) Q (storing s first s.wire.payload) := by
    apply storeWords_safe (s := storing s first s.wire.payload) (fun w => still_of_ready hready)
      (fun w w' hw' => publishing_within hready (storing_inv hs hready heven hw' hfirst) rfl List.suffix_rfl hready rfl
        le_rfl)
      (ReportRecoveryPayload.words payload) 0 s.wire.payload (Nat.le_refl payloadWords) hs.beyond
    rw [storedWords_payload _ hs.beyond]
    apply Undisturbed.bind (f := fun t : RecoveryShared =>
        ((), { t with wire := { t.wire with ownerSequence := second }, published := payload :: t.published }))
      (k := k) (still_of_ready (by exact hready)) _ h
    refine publishing_within (by exact hready) (stored_inv hs hready hvalid hsecond) rfl (List.suffix_cons _ _) hready rfl ?_
    change first.toNat ≤ second.toNat
    omega
  refine (still_of_ready hready).bind (publishing_within hready (storing_inv hs hready heven hs.beyond hfirst) rfl
    List.suffix_rfl hready rfl ?_) hpayload
  change s.wire.ownerSequence.toNat ≤ first.toNat
  omega

theorem Complete.refused {results : List RecoveryReturn} {payload : ReportRecoveryPayload} (h : Complete results s) :
    Complete (.published payload false :: results) s := ⟨h.ready, h.fresh⟩

theorem publishing_rest {results : List RecoveryReturn} {payload : ReportRecoveryPayload} {done : Bool} (hs : WireInv s)
    (h : Complete (.published payload done :: results) s) :
    PublishingSafe (.done done) (fun done t => WireInv t ∧ Complete (.published payload done :: results) t) s :=
  Triple.done (P := fun t => WireInv t ∧ Complete (.published payload done :: results) t)
    (fun t t' ht hr => ⟨hr.2.2, Complete.stable _ t t' ht.2 hr⟩) (fun _ => id) s ⟨hs, h⟩

/-- The call on a wire that is ready. -/
theorem ready_publishes {results : List RecoveryReturn} {payload : ReportRecoveryPayload} (hs : WireInv s)
    (hcomplete : Complete results s) (hready : s.wire.headerReady = 1) (hvalid : payload.recoveryPayloadValid = true) :
    PublishingSafe (do
      let header ← loadHeader
      if !recoveryHeaderValid header then return false
      let before ← Prog.read fun s => s.wire.ownerSequence
      if before < 2 || before % 2 = 1 || 0xfffffffffffffffd < before then return false
      storeSequence (before + 1)
      storePayload payload
      storePublished (before + 2) payload
      return true) (fun done t => WireInv t ∧ Complete (.published payload done :: results) t) s := by
  apply publishing_loadHeader hs hready
  by_cases hheader : recoveryHeaderValid s.wire.header = true
  · rw [hheader]
    apply publishing_load hs hready
    by_cases hgo : (s.wire.ownerSequence < 2 || s.wire.ownerSequence % 2 = 1 ||
        0xfffffffffffffffd < s.wire.ownerSequence) = true
    · rw [if_pos hgo]
      exact publishing_rest hs hcomplete.refused
    · rw [if_neg hgo]
      have hle : s.wire.ownerSequence.toNat ≤ 0xfffffffffffffffd := by
        simp only [Bool.or_eq_true, decide_eq_true_eq, not_or, UInt64.not_lt] at hgo
        exact UInt64.le_iff_toNat_le.mp hgo.2
      have hfirst : (s.wire.ownerSequence + 1).toNat = s.wire.ownerSequence.toNat + 1 := by
        rw [UInt64.toNat_add]
        exact Nat.mod_eq_of_lt (by change _ + 1 < _; omega)
      have hsecond : (s.wire.ownerSequence + 2).toNat = s.wire.ownerSequence.toNat + 2 := by
        rw [UInt64.toNat_add]
        exact Nat.mod_eq_of_lt (by change _ + 2 < _; omega)
      obtain ⟨heven, hpublished⟩ := hcomplete.ready hready
      apply publishing_safe (k := fun _ => return true) hs hready heven hvalid hfirst hsecond
      refine publishing_rest (stored_inv hs hready hvalid hsecond) ⟨fun _ => ⟨?_, ?_⟩, fun h => absurd hready h⟩
      · change (s.wire.ownerSequence + 2).toNat % 2 = 0
        omega
      · change payload :: s.published = payload :: accepted results ++ [ReportRecoveryPayload.zero]
        rw [hpublished, List.cons_append]
  · rw [Bool.not_eq_true] at hheader
    rw [hheader]
    exact publishing_rest hs hcomplete.refused

/-- The calls of the publisher. -/
theorem publishRecoveryStatus_safe (results : List RecoveryReturn) (payload : ReportRecoveryPayload) :
    Triple (Rely WireInv recoveryGuarantee .publisher) (Within WireInv (recoveryGuarantee .publisher))
      (fun s => WireInv s ∧ Complete results s) (publishRecoveryStatus payload)
      fun done s => WireInv s ∧ Complete (.published payload done :: results) s := by
  unfold publishRecoveryStatus
  by_cases hvalid : payload.recoveryPayloadValid = true
  · rw [hvalid]
    have hstable : Stable (Rely WireInv recoveryGuarantee .publisher) fun s => WireInv s ∧ Complete results s :=
      fun s s' hs hr => ⟨hr.2.2, Complete.stable results s s' hs.2 hr⟩
    have hlook : Triple (Rely WireInv recoveryGuarantee .publisher) (Within WireInv (recoveryGuarantee .publisher))
        (fun s => WireInv s ∧ Complete results s) (Prog.read fun s => s.wire.headerReady)
        fun ready s => (WireInv s ∧ Complete results s) ∧ (ready = 1 → s.wire.headerReady = 1) := by
      refine Triple.act hstable (fun ready s s' hs hr => ⟨hstable s s' hs.1 hr, fun he => ?_⟩) fun s hs => ⟨?_, hs, id⟩
      · exact (later_of_shift hr.shift).ready (hs.2 he)
      · exact fun _ => ⟨⟨.refl s, fun _ => rfl⟩, hs.1⟩
    apply hlook.bind
    rintro ready s ⟨⟨hs, hcomplete⟩, hready⟩
    by_cases he : ready = 1
    · rw [he, if_neg (not_not_intro rfl)]
      exact ready_publishes hs hcomplete (hready he) hvalid
    · rw [if_pos he]
      exact publishing_rest hs hcomplete.refused
  · rw [Bool.not_eq_true] at hvalid
    rw [hvalid]
    rintro s ⟨hs, hcomplete⟩
    exact publishing_rest hs hcomplete.refused

end Publisher

end RS2ServerFix.Snapshot
