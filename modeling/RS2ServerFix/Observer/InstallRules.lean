import RS2ServerFix.Observer.Install

namespace RS2ServerFix.Observer.Install

open Lib
open Ask (Leads)

/-- While the installer goes on, a call may contaminate a gate that is preparing. -/
structure Contaminates (s t : InstallWorld) : Prop where
  memory : t.memory = s.memory
  protection : t.protection = s.protection
  gate : t.gate = s.gate ∨ s.gate = .preparing ∧ t.gate = .contaminated

def Gate.Dead (g : Gate) : Prop := g = .contaminated ∨ g = .disabled

/-- A gate that is armed stays so, and one that is neither armed nor preparing
never is again. -/
def Settles (s t : InstallWorld) : Prop := s.gate = .preparing ∨ t.gate = s.gate ∨ s.gate.Dead ∧ t.gate.Dead

theorem Contaminates.refl (s : InstallWorld) : Contaminates s s := ⟨rfl, rfl, .inl rfl⟩

theorem Contaminates.trans {s t u : InstallWorld} (h : Contaminates s t) (h' : Contaminates t u) : Contaminates s u where
  memory := h'.memory.trans h.memory
  protection := h'.protection.trans h.protection
  gate := by
    rcases h'.gate with heq | ⟨hp, hc⟩
    · rw [heq]
      exact h.gate
    · rcases h.gate with heq | ⟨-, hno⟩
      · exact .inr ⟨heq.symm.trans hp, hc⟩
      · cases hno.symm.trans hp

theorem Contaminates.settles {s t : InstallWorld} (h : Contaminates s t) : Settles s t := by
  rcases h.gate with heq | ⟨hp, -⟩
  · exact .inr (.inl heq)
  · exact .inl hp

theorem Gate.Dead.ne_preparing {g : Gate} (h : g.Dead) : g ≠ .preparing := by
  rintro rfl
  rcases h with h | h <;> cases h

theorem Gate.Dead.ne_armed {g : Gate} (h : g.Dead) : g ≠ .armed := by
  rintro rfl
  rcases h with h | h <;> cases h

theorem Settles.trans {s t u : InstallWorld} (h : Settles s t) (h' : Settles t u) : Settles s u := by
  rcases h with hp | heq | ⟨hs, ht⟩
  · exact .inl hp
  · unfold Settles at h' ⊢
    rw [heq] at h'
    exact h'
  · rcases h' with hp | heq | ⟨-, hu⟩
    · exact absurd hp ht.ne_preparing
    · exact .inr (.inr ⟨hs, heq ▸ ht⟩)
    · exact .inr (.inr ⟨hs, hu⟩)

def installerMay : InstallOp → InstallWorld → Prop
  | .exchangeGate value, s => value = .disabled ∧ s.gate ≠ .armed
  | .compareExchangeGate value comparand, _ => value = .armed ∧ comparand = .preparing
  | _, _ => True

def callMay : InstallOp → InstallWorld → Prop
  | .readGate, _ => True
  | .compareExchangeGate value comparand, _ => value = .contaminated ∧ comparand = .preparing
  | _, _ => False

def installerTerms : Terms InstallOp InstallOp.Answer InstallWorld where
  may := installerMay
  responds := responds
  others := Contaminates
  refl := Contaminates.refl
  trans := fun _ _ _ => Contaminates.trans

def callTerms : Terms InstallOp InstallOp.Answer InstallWorld where
  may := callMay
  responds := responds
  others := Settles
  refl := fun _ => .inr (.inl rfl)
  trans := fun _ _ _ => Settles.trans

def Unarmed (s : InstallWorld) : Prop := s.gate ≠ .armed

structure Holds (expected : Cell → Nat) (protection : Nat) (cells : List Cell) (s : InstallWorld) : Prop where
  memory : ∀ cell ∈ cells, s.memory cell.rva = expected cell
  page : cells ≠ [] → s.protection = protection

section Stable

variable {I J : InstallWorld → Prop} {expected : Cell → Nat} {protection : Nat} {cells : List Cell} {b : Bool}

theorem unarmed_stable : installerTerms.Stable Unarmed := by
  intro s t hs ht hno
  rcases ht.gate with heq | ⟨-, hc⟩
  · exact hs (heq.symm.trans hno)
  · cases hc.symm.trans hno

theorem Holds.same {s t : InstallWorld} (h : Holds expected protection cells s) (hm : t.memory = s.memory)
    (hp : t.protection = s.protection) : Holds expected protection cells t :=
  ⟨fun cell hc => (congrFun hm _).trans (h.memory cell hc), fun hn => hp.trans (h.page hn)⟩

theorem holds_stable : installerTerms.Stable (Holds expected protection cells) := fun _ _ hs ht =>
  hs.same ht.memory ht.protection

theorem and_stable (hI : installerTerms.Stable I) (hJ : installerTerms.Stable J) :
    installerTerms.Stable fun s => I s ∧ J s := fun s t hs ht => ⟨hI s t hs.1 ht, hJ s t hs.2 ht⟩

theorem found_stable (hI : installerTerms.Stable I) (hJ : installerTerms.Stable J) :
    installerTerms.Stable fun s => I s ∧ (b = true → J s) := fun s t hs ht =>
  ⟨hI s t hs.1 ht, fun hb => hJ s t (hs.2 hb) ht⟩

end Stable

def Finds (I : InstallWorld → Prop) (p : Thread Bool) (F : InstallWorld → Prop) : Prop :=
  Leads installerTerms I p fun b s => I s ∧ (b = true → F s)

section Finds

variable {I F G : InstallWorld → Prop} {p p' : Thread Bool} {q : InstallOp}

theorem Finds.both (hI : installerTerms.Stable I) (hF : installerTerms.Stable F) (h : Finds I p F)
    (h' : Finds (fun s => I s ∧ F s) p' G) : Finds I (p <&&> p') fun s => F s ∧ G s := by
  refine Leads.both h (Leads.mono h' (fun s hs => ⟨hs.1, hs.2 rfl⟩) ?_) (found_stable hI hF) ?_
  · rintro b s ⟨⟨hi, hf⟩, hg⟩
    exact ⟨hi, fun hb => ⟨hf, hg hb⟩⟩
  · rintro s ⟨hi, -⟩
    exact ⟨hi, fun hno => absurd hno Bool.false_ne_true⟩

theorem Finds.weaken (h : Finds I p F) (hFG : ∀ s, F s → G s) : Finds I p G :=
  Leads.mono h (fun _ => id) fun _ _ hs => ⟨hs.1, fun hb => hFG _ (hs.2 hb)⟩

theorem pure_leads {α : Type} (hI : installerTerms.Stable I) (a : α) : Leads installerTerms I (pure a : Thread α) fun _ => I :=
  Leads.done hI fun _ => id

theorem look (hI : installerTerms.Stable I) (hmay : ∀ s, installerMay q s) (h : ∀ s a t, responds q s a t → t = s) :
    Leads installerTerms I (Ask.query q) fun _ => I := by
  refine Leads.query hI (fun _ => hI) (fun s _ => hmay s) fun s a t hs ht => ?_
  obtain rfl := h s a t ht
  exact hs

theorem finds_of_leads (h : Leads installerTerms I p fun _ => I) : Finds I p fun _ => True :=
  Leads.mono h (fun _ => id) fun _ _ hs => ⟨hs, fun _ => trivial⟩

theorem stableIdentity_leads (hI : installerTerms.Stable I) : Leads installerTerms I stableIdentity fun _ => I :=
  look hI (fun _ => trivial) fun _ _ _ ht => ht

theorem readGate_leads (hI : installerTerms.Stable I) : Leads installerTerms I readGate fun _ => I :=
  look hI (fun _ => trivial) fun _ _ _ ht => ht.2

variable {cell : Cell} {expected : Cell → Nat} {protection : Nat}

theorem readsCell_finds (hI : installerTerms.Stable I) (value : Nat) :
    Finds I (readsCell cell value) fun s => s.memory cell.rva = value := by
  have hstable : ∀ a : Option Nat, installerTerms.Stable fun s => I s ∧ ∀ v, a = some v → v = s.memory cell.rva := by
    intro a s t hs ht
    refine ⟨hI s t hs.1 ht, fun v hv => ?_⟩
    rw [ht.memory]
    exact hs.2 v hv
  refine Leads.bind (Leads.query hI hstable (fun _ _ => trivial) ?_) fun (actual : Option Nat) => ?_
  · rintro s a t hs ⟨ha, rfl⟩
    exact ⟨hs, ha⟩
  · refine Leads.done (hstable actual) fun s hs => ⟨hs.1, fun hb => ?_⟩
    exact (hs.2 value (eq_of_beq hb)).symm

theorem page_stable : installerTerms.Stable fun s => s.protection = protection := fun _ _ hs ht =>
  ht.protection.trans hs

theorem rangeProtected_finds (hI : installerTerms.Stable I) :
    Finds I (rangeProtected cell protection) fun s => s.protection = protection := by
  refine Leads.query hI (fun _ => found_stable hI page_stable) (fun _ _ => trivial) ?_
  rintro s a t hs ⟨ha, rfl⟩
  exact ⟨hs, ha⟩

theorem protectedCells_finds (hI : installerTerms.Stable I) (cells : List Cell) :
    Finds I (protectedCells protection expected cells) (Holds expected protection cells) := by
  induction cells generalizing I with
  | nil =>
      refine Leads.done hI fun s hs => ⟨hs, fun _ => ⟨fun _ hc => ?_, fun hn => absurd rfl hn⟩⟩
      cases hc
  | cons cell rest ih =>
      have hcell : Finds I (protectedCell protection cell (expected cell)) fun s =>
          s.protection = protection ∧ s.memory cell.rva = expected cell :=
        Finds.both hI page_stable (rangeProtected_finds hI) (readsCell_finds (and_stable hI page_stable) _)
      have hstable : installerTerms.Stable fun s => s.protection = protection ∧ s.memory cell.rva = expected cell :=
        and_stable page_stable fun s t hs ht => (congrFun ht.memory _).trans hs
      refine Finds.weaken (Finds.both hI hstable hcell (ih (and_stable hI hstable))) ?_
      rintro s ⟨⟨hp, hm⟩, hrest⟩
      refine ⟨fun other hc => ?_, fun _ => hp⟩
      rcases List.mem_cons.mp hc with rfl | hc
      · exact hm
      · exact hrest.memory other hc

variable {c : InstallContext}

theorem validateNativeProfile_leads (hI : installerTerms.Stable I) :
    Leads installerTerms I (validateNativeProfile c) fun _ => I := by
  apply Leads.ite
  · exact fun _ => look hI (fun _ => trivial) fun _ _ _ ht => ht
  · exact fun _ => pure_leads hI _

theorem qualifyCells_leads (hI : installerTerms.Stable I) (cells seen : List Cell) (found : Option Nat) :
    Leads installerTerms I (qualifyCells c seen found cells) fun _ => I := by
  induction cells generalizing seen found with
  | nil => exact pure_leads hI _
  | cons cell rest ih =>
      apply Leads.ite
      · exact fun _ => pure_leads hI _
      intro _
      apply Leads.ite
      · exact fun _ => pure_leads hI _
      intro _
      refine Leads.bind (look hI (fun _ => trivial) fun _ _ _ ht => ht.2) fun (region : Option _) => ?_
      cases region with
      | none => exact pure_leads hI _
      | some region =>
          have hmatched : Leads installerTerms I (pure (regionReady c found region) <&&>
              Ask.query (InstallOp.sectionMatches cell.rva) : Thread Bool) fun _ => I :=
            Leads.both (pure_leads hI _) (look hI (fun _ => trivial) fun _ _ _ ht => ht) hI fun _ => id
          refine Leads.bind hmatched fun matched => ?_
          apply Leads.ite
          · exact fun _ => pure_leads hI _
          intro _
          apply Leads.ite
          · exact fun _ => pure_leads hI _
          · exact fun _ => ih (cell :: seen) (some region.protect)

def Qualified (c : InstallContext) (I : InstallWorld → Prop) (r : Except Reason Nat) (s : InstallWorld) : Prop :=
  I s ∧ ∀ protection, r = .ok protection → Holds Cell.original protection c.cells s

theorem refused (hI : installerTerms.Stable I) (reason : Reason) :
    Leads installerTerms I (pure (.error reason) : Thread (Except Reason Nat)) (Qualified c I) :=
  Leads.done hI fun _ hs => ⟨hs, fun _ hno => by cases hno⟩

theorem qualifyState_leads (hI : installerTerms.Stable I) :
    Leads installerTerms I (qualifyState c protection) (Qualified c I) := by
  refine Leads.bind (look hI (fun _ => trivial) fun _ _ _ ht => ht) fun (reason : Reason) => ?_
  apply Leads.ite
  · exact fun _ => refused hI _
  intro _
  refine Leads.bind (validateNativeProfile_leads hI) fun native => ?_
  apply Leads.ite
  · exact fun _ => refused hI _
  intro _
  have hproven : Finds I (stableIdentity <&&> protectedCells protection Cell.original c.cells)
      (Holds Cell.original protection c.cells) := by
    refine Leads.both (stableIdentity_leads hI) (protectedCells_finds hI c.cells) hI fun s hs => ?_
    exact ⟨hs, fun hno => absurd hno Bool.false_ne_true⟩
  refine Leads.bind hproven fun proven => ?_
  apply Leads.ite
  · exact fun _ => Leads.mono (refused hI _) (fun _ hs => hs.1) fun _ _ hs => hs
  intro hp
  have hholds : ∀ s, (I s ∧ (proven = true → Holds Cell.original protection c.cells s)) →
      I s ∧ Holds Cell.original protection c.cells s := by
    rintro s ⟨hs, hf⟩
    refine ⟨hs, hf ?_⟩
    cases proven with
    | true => rfl
    | false => exact absurd rfl hp
  have hstable : installerTerms.Stable fun s => I s ∧ Holds Cell.original protection c.cells s :=
    and_stable hI holds_stable
  refine Leads.bind (Leads.mono (readGate_leads hstable) hholds fun _ _ => id) fun gate => ?_
  refine Leads.done hstable fun s hs => ⟨hs.1, fun p hgate => ?_⟩
  split at hgate
  · cases hgate
    exact hs.2
  · cases hgate

theorem qualify_leads (hI : installerTerms.Stable I) : Leads installerTerms I (qualify c) (Qualified c I) := by
  apply Leads.ite
  · exact fun _ => refused hI _
  intro _
  refine Leads.bind (qualifyCells_leads hI c.cells [] none) fun found => ?_
  cases found with
  | error reason => exact refused hI _
  | ok protection => exact qualifyState_leads hI

end Finds

end RS2ServerFix.Observer.Install
