import RS2ServerFix.Lib.Serve
import RS2ServerFix.Observer.InstallRuns

namespace RS2ServerFix.Observer.Install

open Lib
open Ask (Leads Only)
open RS2ServerFix.Task (memCommit memImage)

def Own (c : InstallContext) : InstallOp → Prop
  | .compareExchange rva expected desired => ∃ cell ∈ c.cells, rva = cell.rva ∧
      (expected = cell.original ∧ desired = cell.wrapper ∨ expected = cell.wrapper ∧ desired = cell.original)
  | _ => True

section Exchanges

variable {c : InstallContext} {protection : Nat}

theorem both_only {P : InstallOp → Prop} {p p' : Thread Bool} (h : p.Only P) (h' : p'.Only P) : (p <&&> p').Only P :=
  Only.bind h fun b => by
    cases b with
    | false => exact trivial
    | true => exact h'

theorem pure_only {P : InstallOp → Prop} {α : Type} (a : α) : (pure a : Thread α).Only P := trivial

theorem stableIdentity_only : stableIdentity.Only (Own c) := Only.query trivial

theorem protectedCells_only (expected : Cell → Nat) (cells : List Cell) :
    (protectedCells protection expected cells).Only (Own c) := by
  induction cells with
  | nil => exact trivial
  | cons cell rest ih =>
      exact both_only (both_only (Only.query trivial) (Only.bind (Only.query trivial) fun _ => trivial)) ih

theorem exchanges_only {rva expected desired : Nat} (h : Own c (.compareExchange rva expected desired)) :
    (exchanges rva expected desired).Only (Own c) := Only.bind (Only.query h) fun _ => trivial

theorem validateNativeProfile_only : (validateNativeProfile c).Only (Own c) := Only.ite (Only.query trivial) (pure_only _)

theorem qualifyCells_only (cells seen : List Cell) (found : Option Nat) :
    (qualifyCells c seen found cells).Only (Own c) := by
  induction cells generalizing seen found with
  | nil => exact trivial
  | cons cell rest ih =>
      apply Only.ite (pure_only _)
      apply Only.ite (pure_only _)
      apply Only.bind (Only.query trivial)
      intro (region : Option _)
      cases region with
      | none => exact trivial
      | some region =>
          apply Only.bind (both_only (pure_only _) (Only.query trivial))
          exact fun _ => Only.ite (pure_only _) (Only.ite (pure_only _) (ih _ _))

theorem qualifyState_only : (qualifyState c protection).Only (Own c) := by
  apply Only.bind (Only.query trivial)
  intro (reason : Reason)
  apply Only.ite (pure_only _)
  apply Only.bind validateNativeProfile_only
  intro native
  apply Only.ite (pure_only _)
  apply Only.bind (both_only stableIdentity_only (protectedCells_only _ _))
  intro proven
  apply Only.ite (pure_only _)
  exact Only.bind (Only.query trivial) fun _ => trivial

theorem change_only (cells : List Cell) (hcells : ∀ cell ∈ cells, cell ∈ c.cells) (attempted : Bool) :
    (change attempted cells).Only (Own c) := by
  induction cells generalizing attempted with
  | nil => exact trivial
  | cons cell rest ih =>
      apply Only.bind (Only.query trivial)
      intro (gate : Gate)
      apply Only.ite (pure_only _)
      have hown : Own c (.compareExchange cell.rva cell.original cell.wrapper) :=
        ⟨cell, hcells cell (List.mem_cons_self ..), rfl, .inl ⟨rfl, rfl⟩⟩
      apply Only.bind (exchanges_only hown)
      intro changed
      exact Only.ite (ih (fun other hc => hcells other (List.mem_cons_of_mem _ hc)) true) (pure_only _)

theorem prepare_only : (prepare c protection).Only (Own c) := by
  apply Only.bind (Only.query trivial)
  intro (writable : Bool)
  apply Only.ite (pure_only _)
  apply Only.bind (change_only c.cells (fun _ => id) false)
  intro r
  apply Only.ite (pure_only _)
  apply Only.bind (Only.query trivial)
  intro (restored : Bool)
  apply Only.ite (pure_only _)
  apply Only.bind (both_only (protectedCells_only _ _) stableIdentity_only)
  intro proven
  apply Only.ite (pure_only _)
  apply Only.bind (Only.query trivial)
  intro (reason : Reason)
  apply Only.ite (pure_only _)
  exact Only.bind validateNativeProfile_only fun _ => trivial

theorem restoreCells_only (cells : List Cell) (hcells : ∀ cell ∈ cells, cell ∈ c.cells) :
    (restoreCells cells).Only (Own c) := by
  induction cells with
  | nil => exact trivial
  | cons cell rest ih =>
      have hown : Own c (.compareExchange cell.rva cell.wrapper cell.original) :=
        ⟨cell, hcells cell (List.mem_cons_self ..), rfl, .inr ⟨rfl, rfl⟩⟩
      have hcell : (restoreCell cell).Only (Own c) := by
        apply Only.bind (Only.query trivial)
        intro (current : Option Nat)
        exact Only.ite (exchanges_only hown) (pure_only _)
      apply Only.bind hcell
      intro restored
      exact Only.bind (ih fun other hc => hcells other (List.mem_cons_of_mem _ hc)) fun _ => trivial

theorem proveOriginals_only : (proveOriginals c protection).Only (Own c) :=
  both_only (protectedCells_only _ _) stableIdentity_only

theorem undo_only (attempted : Bool) (reason : Reason) : (undo c attempted reason protection).Only (Own c) := by
  have hdisable : disableGate.Only (Own c) := Only.bind (Only.query trivial) fun _ => trivial
  apply Only.bind (both_only (pure_only _) proveOriginals_only)
  intro untouched
  apply Only.ite
  · exact Only.bind hdisable fun _ => trivial
  apply Only.bind (Only.query trivial)
  intro (writable : Bool)
  apply Only.bind (both_only (pure_only _) (restoreCells_only c.cells fun _ => id))
  intro swapped
  apply Only.bind (Only.query trivial)
  intro (restored : Bool)
  apply Only.bind proveOriginals_only
  intro proven
  exact Only.bind hdisable fun _ => trivial

theorem settle_only (p : Progress) : (settle c protection p).Only (Own c) := by
  apply Only.bind (both_only (pure_only _) (Only.bind (Only.query trivial) fun _ => pure_only _))
  intro committed
  apply Only.ite (pure_only _)
  apply Only.bind (Only.ite (pure_only _) (Only.bind (Only.query trivial) fun _ => pure_only _))
  exact fun _ => undo_only _ _

/-- Whatever the surroundings answer, foreign writers included. -/
theorem installObserver_only : (installObserver c).Only (Own c) := by
  have hqualify : (qualify c).Only (Own c) := by
    apply Only.ite (pure_only _)
    apply Only.bind (qualifyCells_only _ _ _)
    intro found
    cases found with
    | error reason => exact trivial
    | ok protection => exact qualifyState_only
  apply Only.bind hqualify
  intro qualified
  cases qualified with
  | error reason => exact trivial
  | ok protection => exact Only.bind prepare_only settle_only

end Exchanges

/-- How a turn has ended: what is observed finds the gate armed, and what
qualifies and is not observed finds it neither armed nor preparing. -/
def CallEnd (qualifying : Bool) : Admitted → InstallWorld → Prop
  | .retry, _ => True
  | .answered true, s => s.gate = .armed
  | .answered false, s => qualifying = true → s.gate.Dead

theorem armed_stable : callTerms.Stable fun s => s.gate = .armed := by
  rintro s t hs (hp | heq | ⟨hd, -⟩)
  · cases hs.symm.trans hp
  · exact heq.trans hs
  · exact absurd hs hd.ne_armed

theorem dead_stable : callTerms.Stable fun s => s.gate.Dead := by
  rintro s t hs (hp | heq | ⟨-, hd⟩)
  · exact absurd hp hs.ne_preparing
  · exact heq ▸ hs
  · exact hd

theorem Gate.dead_of_ne {g : Gate} (ha : g ≠ .armed) (hp : g ≠ .preparing) : g.Dead := by
  cases g with
  | preparing => exact absurd rfl hp
  | armed => exact absurd rfl ha
  | contaminated => exact .inl rfl
  | disabled => exact .inr rfl

/-- What a reading of the gate has found for good. -/
def Seen (gate : Gate) (s : InstallWorld) : Prop :=
  (gate = .armed → s.gate = .armed) ∧ (gate ≠ .armed → gate ≠ .preparing → s.gate.Dead)

theorem seen_stable (gate : Gate) : callTerms.Stable (Seen gate) := fun s t hs ht =>
  ⟨fun ha => armed_stable s t (hs.1 ha) ht, fun ha hp => dead_stable s t (hs.2 ha hp) ht⟩

theorem admitTurn_leads (qualifying : Bool) :
    Leads callTerms (fun _ => True) (admitTurn qualifying) (CallEnd qualifying) := by
  have htrue : callTerms.Stable fun _ => True := fun _ _ _ _ => trivial
  refine Leads.bind (Leads.query htrue (fun (gate : Gate) => seen_stable gate) (fun _ _ => trivial) ?_) fun gate => ?_
  · rintro s a t - ⟨rfl, rfl⟩
    exact ⟨id, Gate.dead_of_ne⟩
  apply Leads.ite
  · exact fun ha => Leads.done (seen_stable gate) fun s hs => hs.1 ha
  intro ha
  apply Leads.ite
  · intro hn
    refine Leads.done (seen_stable gate) fun s hs hq => hs.2 ha (hn.resolve_left ?_)
    rw [hq]
    exact Bool.false_ne_true
  intro _
  have hstable : ∀ previous : Gate, callTerms.Stable fun s => previous = .preparing → s.gate.Dead :=
    fun _ s t hs ht hp => dead_stable s t (hs hp) ht
  refine Leads.bind (Leads.query (seen_stable gate) hstable (fun _ _ => ⟨rfl, rfl⟩) ?_) fun (previous : Gate) => ?_
  · rintro s a t - ⟨rfl, rfl⟩ hp
    unfold InstallWorld.exchangeGate
    rw [if_pos hp]
    exact .inl rfl
  · refine Leads.done (hstable previous) fun s hs => ?_
    by_cases hp : previous = .preparing
    · rw [if_pos hp]
      exact fun _ => hs hp
    · rw [if_neg hp]
      exact trivial

theorem callEnd_stable (qualifying : Bool) (admitted : Admitted) : callTerms.Stable (CallEnd qualifying admitted) := by
  intro s t hs ht
  rcases admitted with _ | _ | _
  · exact trivial
  · exact fun hq => dead_stable s t (hs hq) ht
  · exact armed_stable s t hs ht

theorem outcome_stable {c : InstallContext} {entry : InstallWorld} (r : InstallResult) :
    installerTerms.Stable (Outcome c entry r) := by
  intro s t hs ht
  refine ⟨fun ha => ?_, fun ha => unarmed_stable s t (hs.unarmed ha) ht, fun ha hf => ?_⟩
  · obtain ⟨hfatal, hgate, hpage, hcells⟩ := hs.armed ha
    refine ⟨hfatal, armed_stable s t hgate ht.settles, ht.protection.trans hpage, fun cell hc => ?_⟩
    exact (congrFun ht.memory _).trans (hcells cell hc)
  · obtain ⟨hpage, hcells⟩ := hs.undone ha hf
    exact ⟨ht.protection.trans hpage, fun cell hc => (congrFun ht.memory _).trans (hcells cell hc)⟩

section Threads

variable {κ : Type} {c : InstallContext} {entry : InstallWorld} {qualifying : κ → Bool} {s t : InstallWorld}
  {q : InstallOp} {answer : q.Answer}

def mayOf : Party κ → InstallOp → InstallWorld → Prop
  | .installer => installerMay
  | .call _ => callMay

def othersOf : Party κ → InstallWorld → InstallWorld → Prop
  | .installer => Contaminates
  | .call _ => Settles

def terms (i : Party κ) : Terms InstallOp InstallOp.Answer InstallWorld where
  may := mayOf i
  responds := responds
  others := othersOf i
  refl := by
    cases i with
    | installer => exact Contaminates.refl
    | call k => exact callTerms.refl
  trans := by
    cases i with
    | installer => exact installerTerms.trans
    | call k => exact callTerms.trans

def rest (c : InstallContext) (entry : InstallWorld) (qualifying : κ → Bool) : Party κ → Report → InstallWorld → Prop
  | .installer, .idle, s => AtEntry entry s
  | .installer, .installed r, s => Outcome c entry r s
  | .call k, .caller admitted, s => CallEnd (qualifying k) admitted s
  | _, _, _ => True

theorem exchangeGate_settles {value : Gate} : Settles s (s.exchangeGate value .preparing) := by
  unfold InstallWorld.exchangeGate
  split
  · next hp => exact .inl hp
  · exact .inr (.inl rfl)

theorem installer_settles (hmay : installerMay q s) (hr : responds q s answer t) : Settles s t := by
  have hgate : t.gate = s.gate → Settles s t := fun h => .inr (.inl h)
  cases q with
  | protect protection =>
      rcases hr with rfl | ⟨-, rfl⟩
      · exact hgate rfl
      · exact hgate rfl
  | compareExchange rva expected desired =>
      rcases hr with ⟨-, rfl⟩ | ⟨-, rfl | rfl⟩
      · exact hgate (exchange_gate ..)
      · exact hgate rfl
      · exact hgate (exchange_gate ..)
  | exchangeGate value =>
      obtain ⟨-, rfl⟩ := hr
      obtain ⟨rfl, hn⟩ := hmay
      by_cases hp : s.gate = .preparing
      · exact .inl hp
      · exact .inr (.inr ⟨Gate.dead_of_ne hn hp, .inr rfl⟩)
  | compareExchangeGate value comparand =>
      obtain ⟨-, rfl⟩ := hr
      obtain ⟨-, rfl⟩ := hmay
      exact exchangeGate_settles
  | query _ | rangeProtection _ _ | readCell _ | readGate =>
      obtain ⟨-, rfl⟩ := hr
      exact hgate rfl
  | sectionMatches _ | checkColdProfile | validateNativeProfile | stableIdentity =>
      obtain rfl := hr
      exact hgate rfl

theorem call_contaminates (hmay : callMay q s) (hr : responds q s answer t) : Contaminates s t := by
  cases q with
  | readGate =>
      obtain ⟨-, rfl⟩ := hr
      exact .refl _
  | compareExchangeGate value comparand =>
      obtain ⟨-, rfl⟩ := hr
      obtain ⟨rfl, rfl⟩ := hmay
      unfold InstallWorld.exchangeGate
      split
      · next hp => exact ⟨rfl, rfl, .inr ⟨hp, rfl⟩⟩
      · exact .refl _
  | _ => exact hmay.elim

theorem callTurn_guarded (k : κ) (s : InstallWorld) :
    (callTurn (qualifying k)).Guarded (terms (.call k)) (rest c entry qualifying (.call k)) s :=
  Ask.Guarded.bind ((admitTurn_leads _ s trivial).mono fun a u hu v hv => callEnd_stable _ a u v hu hv)

theorem install_bound : Crew.Bound (terms (κ := κ)) (rest c entry qualifying) (Starts c qualifying) fun _ _ => False where
  asks := by
    intro i j q s answer t hne hmay hr
    cases i with
    | installer =>
        cases j with
        | installer => exact absurd rfl hne
        | call k => exact installer_settles hmay hr
    | call k =>
        have hc : Contaminates s t := call_contaminates hmay hr
        cases j with
        | installer => exact hc
        | call k' => exact hc.settles
  starts := by
    intro i a p s t hrest hs
    cases hs with
    | install =>
        refine ⟨?_, fun j => (terms j).refl _⟩
        exact Ask.Guarded.bind ((installObserver_leads _ hrest).mono fun r u hu v hv => outcome_stable r u v hu hv)
    | call k => exact ⟨callTurn_guarded k s, fun j => (terms j).refl _⟩
    | retry k => exact ⟨callTurn_guarded k s, fun j => (terms j).refl _⟩
  outside := fun _ _ _ hno => hno.elim

variable [DecidableEq κ]

/-- The transaction over the import cells is made as a whole, undone as a whole
or given up as fatal, and no call is treated otherwise than its gate says. -/
theorem observer_install_transaction (hgate : entry.gate ≠ .armed) {x : Crew (Party κ) InstallOp InstallOp.Answer InstallWorld Report}
    (h : Crew.Run (fun _ => responds) (Starts c qualifying) (fun _ _ => False) ⟨entry, fun _ => .done .idle⟩ x) :
    (∀ r, x.program .installer = .done (.installed r) → Outcome c entry r x.state) ∧
      (∀ k, x.program (.call k) = .done (.caller (.answered true)) → x.state.gate = .armed) ∧
      (∀ k, qualifying k = true → x.program (.call k) = .done (.caller (.answered false)) →
        x.state.gate ≠ .armed ∧ x.state.gate ≠ .preparing) ∧
      ∀ events r, Yields (installObserver c) events r → ∀ e ∈ events, Own c e.1 := by
  have hstart : Crew.Guarded (terms (κ := κ)) (rest c entry qualifying)
      (⟨entry, fun _ => .done .idle⟩ : Crew (Party κ) InstallOp InstallOp.Answer InstallWorld Report) := by
    intro i
    cases i with
    | installer => exact fun t ht => atEntry_stable entry t ⟨hgate, rfl, rfl⟩ ht
    | call k => exact fun _ _ => trivial
  have hend : Crew.Guarded terms (rest c entry qualifying) x := hstart.run install_bound h
  refine ⟨fun r hr => ?_, fun k hk => ?_, fun k hq hk => ?_, fun events r hy => Only.events installObserver_only hy⟩
  · have hi := hend .installer
    rw [hr] at hi
    exact hi x.state (Contaminates.refl _)
  · have hi := hend (.call k)
    rw [hk] at hi
    exact hi x.state (callTerms.refl _)
  · have hi := hend (.call k)
    rw [hk] at hi
    have hdead : x.state.gate.Dead := hi x.state (callTerms.refl _) hq
    exact ⟨hdead.ne_armed, hdead.ne_preparing⟩

end Threads

section Sample

def sampleInstall : InstallContext :=
  ⟨0x140000000, 0x100000, 0x1000, ⟨0x2000, 0x500, 0x900⟩, ⟨0x2008, 0x600, 0xa00⟩, ⟨0x2010, 0x700, 0xb00⟩, none⟩

def sampleEntry : InstallWorld := ⟨fun rva => if rva = 0x2000 then 0x500 else 0, 2, .preparing⟩

def contaminatedEntry : InstallWorld := { sampleEntry with gate := .contaminated }

/-- A call that qualifies contaminates a gate that is preparing. -/
theorem sample_call : Goes responds (callTurn true) sampleEntry
    [⟨.readGate, Gate.preparing⟩, ⟨.compareExchangeGate .contaminated .preparing, Gate.preparing⟩]
    (.caller (.answered false)) contaminatedEntry :=
  .ask ⟨rfl, rfl⟩ (.ask ⟨rfl, rfl⟩ (.done _ _))

theorem sample_run : ∃ program : Party Unit → Thread Report,
    Crew.Run (fun _ => responds) (Starts sampleInstall fun _ => true) (fun _ _ => False)
      ⟨sampleEntry, fun _ => .done .idle⟩ ⟨contaminatedEntry, program⟩ ∧
      program (.call ()) = .done (.caller (.answered false)) := by
  refine ⟨_, .head (.starts (i := .call ()) rfl (.call () sampleEntry))
    (Crew.Run.alone (i := .call ()) sample_call ?_), ?_⟩
  · exact Function.update_self ..
  · exact Function.update_self ..

def obliging (base : Nat) : InstallWorld → (q : InstallOp) → q.Answer × InstallWorld
  | s, .query rva => (some ⟨base + rva, base, 0x1000, memCommit, memImage, s.protection⟩, s)
  | s, .checkColdProfile => (Reason.none, s)
  | s, .sectionMatches _ | s, .validateNativeProfile | s, .stableIdentity => (true, s)
  | s, .rangeProtection _ protection => (s.protection == protection, s)
  | s, .readCell rva => (some (s.memory rva), s)
  | s, .protect protection => (true, { s with protection := protection })
  | s, .compareExchange rva expected desired => ((true, s.memory rva), s.exchange rva expected desired)
  | s, .readGate => (s.gate, s)
  | s, .exchangeGate value => (s.gate, { s with gate := value })
  | s, .compareExchangeGate value comparand => (s.gate, s.exchangeGate value comparand)

def coldEntry : InstallWorld :=
  ⟨fun rva => if rva = 0x2000 then 0x500 else if rva = 0x2008 then 0x600 else 0x700, 2, .preparing⟩

theorem obliging_responds (base : Nat) (s : InstallWorld) (q : InstallOp) :
    responds q s (obliging base s q).1 (obliging base s q).2 := by
  cases q with
  | query rva =>
      refine ⟨?_, rfl⟩
      rintro region ⟨⟩
      rfl
  | rangeProtection rva protection => exact ⟨fun h => eq_of_beq h, rfl⟩
  | readCell rva =>
      refine ⟨?_, rfl⟩
      rintro value ⟨⟩
      rfl
  | protect protection => exact .inl rfl
  | compareExchange rva expected desired => exact .inl ⟨rfl, rfl⟩
  | readGate | exchangeGate _ | compareExchangeGate _ _ => exact ⟨rfl, rfl⟩
  | sectionMatches _ | checkColdProfile | validateNativeProfile | stableIdentity => rfl

/-- The transaction commits where nothing stands against it. -/
theorem sample_commit : ∃ program : Party Unit → Thread Report, ∃ s,
    Crew.Run (fun _ => responds) (Starts sampleInstall fun _ => true) (fun _ _ => False)
      ⟨coldEntry, fun _ => .done .idle⟩ ⟨s, program⟩ ∧
      program .installer = .done (.installed ⟨true, false, .none⟩) := by
  obtain ⟨_, hs⟩ := Goes.obliged (obliging_responds sampleInstall.base) (installTurn sampleInstall) coldEntry
  have hresult : ((installTurn sampleInstall).served (obliging sampleInstall.base) coldEntry).1 =
      .installed ⟨true, false, .none⟩ := by decide
  rw [hresult] at hs
  exact ⟨_, _, Crew.Run.turn (i := .installer) rfl (.install coldEntry) hs, Function.update_self ..⟩

theorem observer_install_transaction_sample :
    (contaminatedEntry.gate ≠ .armed ∧ contaminatedEntry.gate ≠ .preparing) ∧
      ∃ program : Party Unit → Thread Report, ∃ s,
        Crew.Run (fun _ => responds) (Starts sampleInstall fun _ => true) (fun _ _ => False)
          ⟨coldEntry, fun _ => .done .idle⟩ ⟨s, program⟩ ∧
          s.gate = .armed ∧ s.protection = 2 ∧ ∀ cell ∈ sampleInstall.cells, s.memory cell.rva = cell.wrapper := by
  obtain ⟨program, hrun, hcall⟩ := sample_run
  obtain ⟨program', s, hcommit, hinstalled⟩ := sample_commit
  have hcontaminated : contaminatedEntry.gate ≠ .armed ∧ contaminatedEntry.gate ≠ .preparing :=
    (observer_install_transaction (by decide) hrun).2.2.1 () rfl hcall
  have hout : Outcome sampleInstall coldEntry ⟨true, false, .none⟩ s :=
    (observer_install_transaction (by decide) hcommit).1 _ hinstalled
  exact ⟨hcontaminated, program', s, hcommit, (hout.armed rfl).2⟩

end Sample

end RS2ServerFix.Observer.Install
