import RS2ServerFix.Observer.InstallRules

namespace RS2ServerFix.Observer.Install

open Lib
open Ask (Leads)

section Change

variable {c : InstallContext} {expected : Cell → Nat} {protection : Nat} {reason : Reason} {attempted : Bool}

theorem exchange_gate (s : InstallWorld) (rva found desired : Nat) : (s.exchange rva found desired).gate = s.gate := by
  unfold InstallWorld.exchange
  split
  · rfl
  · rfl

theorem protect_leads (protection : Nat) : Leads installerTerms Unarmed (protect protection) fun _ => Unarmed := by
  refine Leads.query unarmed_stable (fun _ => unarmed_stable) (fun _ _ => trivial) ?_
  rintro s a t hs (rfl | ⟨-, rfl⟩)
  · exact hs
  · exact hs

theorem exchanges_leads (rva found desired : Nat) :
    Leads installerTerms Unarmed (exchanges rva found desired) fun _ => Unarmed := by
  refine Leads.bind (Leads.query unarmed_stable (fun _ => unarmed_stable) (fun _ _ => trivial) ?_) fun answer =>
    pure_leads unarmed_stable _
  have hexchange : ∀ s, Unarmed s → Unarmed (s.exchange rva found desired) := by
    intro s hs
    unfold Unarmed
    rw [exchange_gate]
    exact hs
  rintro s a t hs (⟨-, rfl⟩ | ⟨-, rfl | rfl⟩)
  · exact hexchange s hs
  · exact hs
  · exact hexchange s hs

theorem change_leads (cells : List Cell) (attempted : Bool) :
    Leads installerTerms Unarmed (change attempted cells) fun _ => Unarmed := by
  induction cells generalizing attempted with
  | nil => exact pure_leads unarmed_stable _
  | cons cell rest ih =>
      refine Leads.bind (readGate_leads unarmed_stable) fun gate => ?_
      apply Leads.ite
      · exact fun _ => pure_leads unarmed_stable _
      intro _
      refine Leads.bind (exchanges_leads _ _ _) fun changed => ?_
      exact Leads.ite (fun _ => ih true) fun _ => pure_leads unarmed_stable _

def Changed (c : InstallContext) (protection : Nat) (p : Progress) (s : InstallWorld) : Prop :=
  Unarmed s ∧ (p.ok = true → Holds Cell.wrapper protection c.cells s)

theorem gaveUp (attempted : Bool) (reason : Reason) :
    Leads installerTerms Unarmed (pure ⟨false, attempted, reason⟩ : Thread Progress) (Changed c protection) :=
  Leads.done unarmed_stable fun _ hs => ⟨hs, fun hno => absurd hno Bool.false_ne_true⟩

theorem verify_leads : Leads installerTerms Unarmed (verify c attempted protection) (Changed c protection) := by
  refine Leads.bind (protect_leads protection) fun restored => ?_
  apply Leads.ite
  · exact fun _ => gaveUp _ _
  intro _
  have hproven : Finds Unarmed (protectedCells protection Cell.wrapper c.cells <&&> stableIdentity) fun s =>
      Holds Cell.wrapper protection c.cells s ∧ True :=
    Finds.both unarmed_stable holds_stable (protectedCells_finds unarmed_stable c.cells)
      (finds_of_leads (stableIdentity_leads (and_stable unarmed_stable holds_stable)))
  refine Leads.bind hproven fun proven => ?_
  apply Leads.ite
  · exact fun _ => Leads.mono (gaveUp _ _) (fun _ hs => hs.1) fun _ _ hs => hs
  intro hp
  have hstable : installerTerms.Stable fun s => Unarmed s ∧ Holds Cell.wrapper protection c.cells s :=
    and_stable unarmed_stable holds_stable
  have hholds : ∀ s, (Unarmed s ∧ (proven = true → Holds Cell.wrapper protection c.cells s ∧ True)) →
      Unarmed s ∧ Holds Cell.wrapper protection c.cells s := by
    rintro s ⟨hs, hf⟩
    cases proven with
    | true => exact ⟨hs, (hf rfl).1⟩
    | false => exact absurd rfl hp
  refine Leads.mono (I := fun s => Unarmed s ∧ Holds Cell.wrapper protection c.cells s) ?_ hholds fun _ _ => id
  refine Leads.bind (look hstable (fun _ => trivial) fun _ _ _ ht => ht) fun (reason : Reason) => ?_
  apply Leads.ite
  · exact fun _ => Leads.mono (gaveUp _ _) (fun _ hs => hs.1) fun _ _ hs => hs
  intro _
  refine Leads.bind (validateNativeProfile_leads hstable) fun native => ?_
  exact Leads.done hstable fun s hs => ⟨hs.1, fun _ => hs.2⟩

theorem prepare_leads : Leads installerTerms Unarmed (prepare c protection) (Changed c protection) := by
  refine Leads.bind (protect_leads _) fun writable => ?_
  apply Leads.ite
  · exact fun _ => gaveUp _ _
  intro _
  refine Leads.bind (change_leads c.cells false) fun r => ?_
  exact Leads.ite (fun _ => gaveUp _ _) fun _ => verify_leads

theorem restoreCell_leads (cell : Cell) : Leads installerTerms Unarmed (restoreCell cell) fun _ => Unarmed := by
  refine Leads.bind (look unarmed_stable (fun _ => trivial) fun _ _ _ ht => ht.2) fun (current : Option Nat) => ?_
  exact Leads.ite (fun _ => exchanges_leads _ _ _) fun _ => pure_leads unarmed_stable _

theorem restoreCells_leads (cells : List Cell) : Leads installerTerms Unarmed (restoreCells cells) fun _ => Unarmed := by
  induction cells with
  | nil => exact pure_leads unarmed_stable _
  | cons cell rest ih =>
      refine Leads.bind (restoreCell_leads cell) fun restored => ?_
      exact Leads.bind ih fun _ => pure_leads unarmed_stable _

/-- An installation that has ended, at the protection that it found. -/
structure Ended (c : InstallContext) (protection : Nat) (r : InstallResult) (s : InstallWorld) : Prop where
  armed : r.armed = true → r.fatal = false ∧ s.gate = .armed ∧ Holds Cell.wrapper protection c.cells s
  unarmed : r.armed = false → Unarmed s
  undone : r.armed = false → r.fatal = false → Holds Cell.original protection c.cells s

theorem disableGate_leads (b : Bool) :
    Leads installerTerms (fun s => Unarmed s ∧ (b = true → Holds expected protection c.cells s)) disableGate
      fun _ s => Unarmed s ∧ (b = true → Holds expected protection c.cells s) := by
  have hstable : installerTerms.Stable fun s => Unarmed s ∧ (b = true → Holds expected protection c.cells s) :=
    found_stable unarmed_stable holds_stable
  refine Leads.bind (Leads.query hstable (fun _ => hstable) (fun s hs => ⟨rfl, hs.1⟩) ?_) fun _ => Leads.done hstable fun _ => id
  rintro s a t ⟨hs, hf⟩ ⟨-, rfl⟩
  refine ⟨fun hno => ?_, fun hb => (hf hb).same rfl rfl⟩
  cases hno

theorem proveOriginals_finds :
    Finds Unarmed (proveOriginals c protection) (Holds Cell.original protection c.cells) :=
  Finds.weaken (Finds.both unarmed_stable holds_stable (protectedCells_finds unarmed_stable c.cells)
    (finds_of_leads (stableIdentity_leads (and_stable unarmed_stable holds_stable)))) fun _ hs => hs.1

theorem rollback_leads : Leads installerTerms Unarmed (rollback c attempted reason protection) (Ended c protection) := by
  refine Leads.bind (protect_leads _) fun writable => ?_
  have hswapped : Leads installerTerms Unarmed (pure writable <&&> restoreCells c.cells : Thread Bool) fun _ => Unarmed :=
    Leads.both (pure_leads unarmed_stable _) (restoreCells_leads c.cells) unarmed_stable fun _ => id
  refine Leads.bind hswapped fun swapped => ?_
  refine Leads.bind (protect_leads protection) fun restored => ?_
  refine Leads.bind proveOriginals_finds fun proven => ?_
  refine Leads.bind (disableGate_leads proven) fun _ => ?_
  refine Leads.done (found_stable unarmed_stable holds_stable) fun s hs => ?_
  cases hall : proven && ((swapped && restored) || !attempted) with
  | true =>
      rw [if_pos rfl]
      exact ⟨fun hno => absurd hno Bool.false_ne_true, fun _ => hs.1,
        fun _ _ => hs.2 (Bool.and_eq_true_iff.mp hall).1⟩
  | false =>
      rw [if_neg Bool.false_ne_true]
      exact ⟨fun hno => absurd hno Bool.false_ne_true, fun _ => hs.1, fun _ hno => absurd hno.symm Bool.false_ne_true⟩

theorem undo_leads : Leads installerTerms Unarmed (undo c attempted reason protection) (Ended c protection) := by
  have huntouched : Finds Unarmed (pure (!attempted) <&&> proveOriginals c protection)
      (Holds Cell.original protection c.cells) := by
    refine Leads.both (pure_leads unarmed_stable _) proveOriginals_finds unarmed_stable fun s hs => ?_
    exact ⟨hs, fun hno => absurd hno Bool.false_ne_true⟩
  refine Leads.bind huntouched fun untouched => ?_
  apply Leads.ite
  · intro hu
    refine Leads.bind (disableGate_leads untouched) fun _ => ?_
    refine Leads.done (found_stable unarmed_stable holds_stable) fun s hs => ?_
    exact ⟨fun hno => absurd hno Bool.false_ne_true, fun _ => hs.1, fun _ _ => hs.2 hu⟩
  · exact fun _ => Leads.mono rollback_leads (fun _ hs => hs.1) fun _ _ => id

def Committed (c : InstallContext) (protection : Nat) (b : Bool) (s : InstallWorld) : Prop :=
  (b = true → s.gate = .armed ∧ Holds Cell.wrapper protection c.cells s) ∧ (b = false → Unarmed s)

theorem committed_stable (b : Bool) : installerTerms.Stable (Committed c protection b) := by
  rintro s t ⟨harmed, hunarmed⟩ ht
  refine ⟨fun hb => ⟨?_, (harmed hb).2.same ht.memory ht.protection⟩, fun hb => unarmed_stable s t (hunarmed hb) ht⟩
  rcases ht.gate with heq | ⟨hp, -⟩
  · exact heq.trans (harmed hb).1
  · cases (harmed hb).1.symm.trans hp

theorem commit_leads :
    Leads installerTerms (fun s => Unarmed s ∧ Holds Cell.wrapper protection c.cells s) commit (Committed c protection) := by
  have hstable : installerTerms.Stable fun s => Unarmed s ∧ Holds Cell.wrapper protection c.cells s :=
    and_stable unarmed_stable holds_stable
  have hexchanged : Leads installerTerms (fun s => Unarmed s ∧ Holds Cell.wrapper protection c.cells s)
      (Ask.query (InstallOp.compareExchangeGate .armed .preparing))
      fun (previous : Gate) => Committed c protection (decide (previous = .preparing)) := by
    refine Leads.query hstable (fun _ => committed_stable _) (fun _ _ => ⟨rfl, rfl⟩) ?_
    rintro s a t ⟨hs, hf⟩ ⟨rfl, rfl⟩
    unfold InstallWorld.exchangeGate
    by_cases hg : s.gate = .preparing
    · rw [if_pos hg]
      refine ⟨fun _ => ⟨rfl, hf.same rfl rfl⟩, fun hno => ?_⟩
      exact absurd (decide_eq_true hg) (by rw [hno]; exact Bool.false_ne_true)
    · rw [if_neg hg]
      exact ⟨fun hb => absurd (of_decide_eq_true hb) hg, fun _ => hs⟩
  exact Leads.bind hexchanged fun previous => Leads.done (committed_stable _) fun _ => id

theorem gateContaminated_leads (ok : Bool) : Leads installerTerms Unarmed (gateContaminated ok) fun _ => Unarmed := by
  apply Leads.ite
  · exact fun _ => pure_leads unarmed_stable _
  · exact fun _ => Leads.bind (readGate_leads unarmed_stable) fun _ => pure_leads unarmed_stable _

theorem settle_leads (p : Progress) :
    Leads installerTerms (Changed c protection p) (settle c protection p) (Ended c protection) := by
  have hstable : installerTerms.Stable (Changed c protection p) := found_stable unarmed_stable holds_stable
  have hcommitted : Leads installerTerms (Changed c protection p) (pure p.ok <&&> commit) (Committed c protection) := by
    have hok : Leads installerTerms (Changed c protection p) (pure p.ok)
        fun b s => Changed c protection p s ∧ b = p.ok := Leads.done hstable fun s hs => ⟨hs, rfl⟩
    refine Leads.both hok ?_ ?_ ?_
    · exact Leads.mono commit_leads (fun s hs => ⟨hs.1.1, hs.1.2 hs.2.symm⟩) fun _ _ => id
    · exact fun s t hs ht => ⟨hstable s t hs.1 ht, hs.2⟩
    · exact fun s hs => ⟨fun hno => absurd hno Bool.false_ne_true, fun _ => hs.1.1⟩
  refine Leads.bind hcommitted fun committed => ?_
  apply Leads.ite
  · rintro rfl
    refine Leads.done (committed_stable true) fun s hs => ?_
    exact ⟨fun _ => ⟨rfl, hs.1 rfl⟩, fun hno => absurd hno.symm Bool.false_ne_true,
      fun hno => absurd hno.symm Bool.false_ne_true⟩
  · intro hn
    have hunarmed : ∀ s, Committed c protection committed s → Unarmed s := fun s hs => hs.2 (Bool.eq_false_iff.mpr hn)
    refine Leads.mono (I := Unarmed) ?_ hunarmed fun _ _ => id
    exact Leads.bind (gateContaminated_leads p.ok) fun _ => undo_leads

end Change

/-- An installation against the state that it began in. -/
structure Outcome (c : InstallContext) (entry : InstallWorld) (r : InstallResult) (s : InstallWorld) : Prop where
  armed : r.armed = true → r.fatal = false ∧ s.gate = .armed ∧ s.protection = entry.protection ∧
    ∀ cell ∈ c.cells, s.memory cell.rva = cell.wrapper
  unarmed : r.armed = false → s.gate ≠ .armed
  undone : r.armed = false → r.fatal = false → s.protection = entry.protection ∧
    ∀ cell ∈ c.cells, s.memory cell.rva = entry.memory cell.rva

section Outcome

variable {c : InstallContext} {entry : InstallWorld}

def AtEntry (entry s : InstallWorld) : Prop := Unarmed s ∧ s.memory = entry.memory ∧ s.protection = entry.protection

theorem atEntry_stable : installerTerms.Stable (AtEntry entry) := fun s t hs ht =>
  ⟨unarmed_stable s t hs.1 ht, ht.memory.trans hs.2.1, ht.protection.trans hs.2.2⟩

theorem cells_ne_nil (c : InstallContext) : c.cells ≠ [] := List.cons_ne_nil _ _

theorem installObserver_leads :
    Leads installerTerms (AtEntry entry) (installObserver c) (Outcome c entry) := by
  refine Leads.bind (qualify_leads atEntry_stable) fun qualified => ?_
  have hstable : installerTerms.Stable (Qualified c (AtEntry entry) qualified) := by
    intro s t hs ht
    exact ⟨atEntry_stable s t hs.1 ht, fun p hp => (hs.2 p hp).same ht.memory ht.protection⟩
  cases qualified with
  | error reason =>
      refine Leads.done hstable fun s hs => ?_
      obtain ⟨hunarmed, hm, hp⟩ := hs.1
      exact ⟨fun hno => absurd hno Bool.false_ne_true, fun _ => hunarmed,
        fun _ _ => ⟨hp, fun cell _ => congrFun hm _⟩⟩
  | ok protection =>
      intro s hs
      obtain ⟨⟨hunarmed, hm, hp⟩, hfound⟩ := hs
      have horiginals := hfound protection rfl
      have hpage : protection = entry.protection := (horiginals.page (cells_ne_nil c)).symm.trans hp
      have hcells : ∀ cell ∈ c.cells, entry.memory cell.rva = cell.original := fun cell hc =>
        (congrFun hm _).symm.trans (horiginals.memory cell hc)
      refine Ask.Guarded.mono (Leads.bind prepare_leads settle_leads s hunarmed) fun r t ht => ?_
      refine ⟨fun ha => ?_, ht.unarmed, fun ha hf => ?_⟩
      · obtain ⟨hfatal, hgate, hw⟩ := ht.armed ha
        exact ⟨hfatal, hgate, (hw.page (cells_ne_nil c)).trans hpage, hw.memory⟩
      · have ho := ht.undone ha hf
        exact ⟨(ho.page (cells_ne_nil c)).trans hpage, fun cell hc => (ho.memory cell hc).trans (hcells cell hc).symm⟩

end Outcome

end RS2ServerFix.Observer.Install
