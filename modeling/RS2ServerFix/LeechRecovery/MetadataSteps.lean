import RS2ServerFix.LeechRecovery.RecipeRuns

namespace RS2ServerFix.LeechRecovery

open Reporting Lib Act

variable {r r' : Recovery}

/-- A lease with more readings after it. -/
theorem lease_both_gives (standalone : Nat) (oldSession publishedSession : Bool) {p : Rec Bool} (hp : Still p) :
    Gives Core Kept (lease standalone oldSession publishedSession <&&> p) fun b t => b = true → t.terminal = false := by
  intro s hs
  apply Ends.both
  refine (lease_gives standalone oldSession publishedSession s hs).mono (fun leased t ht => ⟨fun hb => ?_, fun _ => ?_⟩)
    fun _ => id
  · exact hp.ends fun _ => ⟨ht.1, fun _ => ht.2 hb⟩
  · exact ⟨ht.1, fun hn => by cases hn⟩

theorem metadataInputs_gives :
    Gives Core Kept metadataInputs fun inputs t => inputs ≠ none → t.terminal = false := by
  have hnone : ∀ s, Core s → (pure none : Rec (Option MetadataView)).Ends
      (fun inputs t => (Core t ∧ Kept s t) ∧ (inputs ≠ none → t.terminal = false)) (fun t => Core t ∧ Kept s t) s :=
    fun s hs => ⟨⟨hs, .refl s⟩, fun hn => absurd rfl hn⟩
  refine Gives.bindGives (lease_both_gives 3 false true (holds_still _)) fun leased s hs hleased => ?_
  apply Ends.ite
  · exact fun _ => hnone s hs
  · intro hl
    have hterminal := hleased (by simpa only [Bool.not_eq_true', Bool.not_eq_false] using hl)
    apply (Still.query _).bindEnds
    intro phase
    apply Still.bindEnds ((Still.done _).both (holds_still _))
    intro bound
    apply Ends.ite
    · exact fun _ => hnone s hs
    · intro _
      apply (Still.query _).bindEnds
      intro view
      apply runtimeClock_still.bindEnds
      intro clock
      cases clock with
      | none =>
          apply Ends.bind
          exact (recoveryOwnerClockFault_frame s hs).mono (fun _ t ht => ⟨ht, fun hn => absurd rfl hn⟩) fun _ => id
      | some now =>
          have hset := setQpc_frame now s hs
          apply Ends.bind
          apply Ends.modify
          apply Ends.getBind
          apply Ends.ite
          · exact fun _ => ⟨hset, fun hn => absurd rfl hn⟩
          · exact fun _ => ⟨hset, fun _ => hterminal⟩

theorem metadataInputs_frame : Stays Core Kept metadataInputs := metadataInputs_gives.stays

section Restore

variable {inner : Occurrence → Rec Unit}

def Local (r : Recovery) : Prop := Busy r ∧ r.value.flags.publishedLocally = true

theorem local_of_busy {α : Type} {p : Rec α} (h : Stays Busy Kept p) : Stays Local Kept p :=
  h.and fun _ _ _ _ hk => hk.published.trans

theorem restoreUpdate_local (h : Inner inner) : Stays Local Kept (do
      setStage .metadataUpdate
      Act.modify fun r => r.setFlags fun f => { f with metadataAttempted := true }
      let _ ← native inner (observeFailure false) .metadataUpdate
      Act.modify fun r => { r with metadataUpdateReturned := true }) := by
  have hattempt : Stays Local Kept (Act.modify fun r => r.setFlags fun f => { f with metadataAttempted := true }
      : Rec Unit) := by
    refine Context.touch (busy.and fun _ _ hk => hk.published.trans) fun s hs => ?_
    exact { Touched.refl _ with native := .inl hs.1.recipe, attempted := fun _ => rfl, attempts := fun _ => .inr hs.2 }
  apply Stays.bind (local_of_busy (setStage_busy _))
  intro _
  refine Stays.bindGives (Gives.modify (fun _ t => t.value.flags.metadataAttempted = true) hattempt fun _ _ => rfl)
    fun _ s hs hf => ?_
  have hrest : Stays (fun t => Local t ∧ t.value.flags.metadataAttempted = true) Kept (do
      let _ ← native inner (observeFailure false) .metadataUpdate
      Act.modify fun r => { r with metadataUpdateReturned := true }) := by
    apply Stays.bind ((local_of_busy (native_busy h _)).and fun _ _ _ _ hk => hk.attempted)
    intro _
    refine Context.touch ((busy.and fun _ _ hk => hk.published.trans).and fun _ _ hk => hk.attempted) fun s hs => ?_
    exact { Touched.refl _ with native := .inl hs.1.1.recipe, updated := fun _ => .inr hs.2 }
  exact (hrest s ⟨hs, hf⟩).weaken fun _ ht => ht.1

theorem restoreBody_local (h : Inner inner) (expected : NativeCounts) : Stays Local Kept (restoreBody inner expected) := by
  apply Stays.bind (local_of_busy (setStage_busy _))
  intro _
  apply Stays.bind (local_of_busy (native_busy h _))
  intro head
  apply Stays.ite
  · refine Stays.bind (local_of_busy (busy_touch fun s hs => { Touched.refl s with native := .inl hs })) fun _ => ?_
    apply Stays.bind (local_of_busy (setStage_busy _))
    intro _
    apply Stays.bind (local_of_busy (native_busy h _))
    intro _
    apply Stays.bind (local_of_busy (busy.frame metadataInputs_frame))
    intro inputs
    apply Stays.bind Stays.get
    intro r
    split
    · exact Stays.done ()
    · exact restoreUpdate_local h
  · exact Stays.done ()

theorem restoreCleanup_busy (h : Inner inner) : Stays Busy Kept (restoreCleanup inner) := by
  apply Stays.bind Stays.get
  intro r
  apply Stays.ite
  · apply Stays.bind (Still.stays ((holds_still _).both ((holds_still _).both (holds_still _))))
    intro undone
    apply Stays.ite (fault_busy (by decide) (.inl (by decide)))
    refine Stays.bind (busy_touch fun s hs => { Touched.refl s with native := .inl hs }) fun _ => ?_
    apply Stays.bind (setStage_busy _)
    intro _
    apply Stays.bind (native_busy h _)
    intro _
    exact busy_touch fun s hs => { Touched.refl s with native := .inl hs }
  · exact Stays.done ()

theorem restoreMetadata_local (h : Inner inner) (expected : NativeCounts) :
    Stays Local Kept (restoreMetadata inner expected) := by
  have hreset : Stays Busy Kept (Act.modify fun r =>
      { r with metadataHeadOwned := false, metadataDestructorEntered := false, metadataUpdateReturned := false }
      : Rec Unit) := by
    apply busy_touch
    intro s hs
    exact { Touched.refl _ with native := .inl hs, updated := fun hn => by cases hn }
  have hfilter := busy.observeFailure (fun _ hs => hs.recipe) false
  apply Stays.bind (local_of_busy hreset)
  intro _
  apply Stays.cleaned
  · exact Stays.filtered (restoreBody_local h expected) fun code => local_of_busy (hfilter code)
  · exact fun _ => local_of_busy (Stays.filtered (restoreCleanup_busy h) hfilter)

end Restore

end RS2ServerFix.LeechRecovery
