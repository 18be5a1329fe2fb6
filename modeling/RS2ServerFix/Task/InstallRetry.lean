import RS2ServerFix.Task.BindingRuns

namespace RS2ServerFix.Task

open Reporting Lib

variable {access : TaskAccess} {layout : TaskLayout} {s s' : TaskBinding} {events : TaskEvents} {r : TaskReturn}
  {epoch : TaskEpoch}

def SameRecords (s s' : TaskBinding) : Prop :=
  s'.haveCounter = s.haveCounter ∧ s'.lastNativeCounter = s.lastNativeCounter ∧ s'.haveHistory = s.haveHistory ∧
    s'.lastBoundId = s.lastBoundId ∧ s'.lastIdentity = s.lastIdentity ∧ s'.continuingTask = s.continuingTask

/-- The records are as before, and every later installation goes as a first
one would. -/
def RetrySafe (access : TaskAccess) (layout : TaskLayout) (s s' : TaskBinding) : Prop :=
  SameRecords s s' ∧ ∀ epoch events r, Yields (installTaskBinding s' access layout epoch) events r ↔
    Yields (installTaskBinding s access layout epoch) events r

theorem RetrySafe.refl (s : TaskBinding) : RetrySafe access layout s s :=
  ⟨⟨rfl, rfl, rfl, rfl, rfl, rfl⟩, fun _ _ _ => .rfl⟩

/-- The task that the surroundings show as selected to a call after its entry. -/
def Selected (access : TaskAccess) (layout : TaskLayout) (events : TaskEvents) (t : TaskSnapshot) : Prop :=
  ∃ entry read rest, events = entry ++ read ++ rest ∧ Yields (entryReason access) entry .none ∧
    Yields (readSelectedTask access layout).run read (.ok t)

/-- Whatever task is selected for an installation, its counter is one the
binding has already recorded. -/
def CounterKnown (access : TaskAccess) (layout : TaskLayout) (s : TaskBinding) (events : TaskEvents) : Prop :=
  ∀ t, Selected access layout events t → queued t.state = true → t.builder = s.original →
    s.haveCounter = true ∧ s.lastNativeCounter = t.nativeCounter

theorem entryReason_cases (access : TaskAccess) :
    entryReason access = .done .profileMismatch ∨ ∃ q next, entryReason access = .ask q next := by
  unfold entryReason
  split
  · exact .inl rfl
  · exact .inr ⟨_, _, rfl⟩

theorem readSelectedTask_asks {read : TaskEvents} {t : TaskSnapshot}
    (h : Yields (readSelectedTask access layout).run read (.ok t)) : read ≠ [] := by
  rintro rfl
  rcases entryReason_cases access with he | ⟨q, next, he⟩
  · rw [readSelectedTask, readTask, he] at h
    cases h
  · rw [readSelectedTask, readTask, he] at h
    cases h

theorem Selected.after_entry {t : TaskSnapshot} {e1 e2 : TaskEvents} {entry : Reason}
    (h : Selected access layout (e1 ++ e2) t) (hentry : Yields (entryReason access) e1 entry) :
    entry = .none ∧ ∃ read rest, e2 = read ++ rest ∧ Yields (readSelectedTask access layout).run read (.ok t) := by
  obtain ⟨e, read, rest, he, hnone, hread⟩ := h
  rw [List.append_assoc] at he
  obtain ⟨rfl, _, rfl⟩ := hentry.cut_unique hnone he
  exact ⟨rfl, read, rest, rfl, hread⟩

theorem not_selected {t : TaskSnapshot} {entry : Reason} (hentry : Yields (entryReason access) events entry) :
    ¬ Selected access layout (events ++ []) t := by
  intro h
  obtain ⟨_, read, rest, he, hread⟩ := h.after_entry hentry
  obtain ⟨rfl, _⟩ := List.append_eq_nil_iff.mp he.symm
  exact readSelectedTask_asks hread rfl

theorem Selected.read_eq {t : TaskSnapshot} {e1 e2 e3 : TaskEvents} {entry : Reason} {read : Except Reason TaskSnapshot}
    (h : Selected access layout (e1 ++ (e2 ++ e3)) t) (hentry : Yields (entryReason access) e1 entry)
    (hread : Yields (readSelectedTask access layout).run e2 read) : read = .ok t := by
  obtain ⟨_, e, rest, he, ht⟩ := h.after_entry hentry
  exact (hread.cut_unique ht he).1

theorem Faulted.dead (h : Faulted access layout s events s') : s'.phase = .inert := by
  obtain ⟨_, _, _, rfl⟩ := h.state
  rfl

theorem fault_dead {s0 : TaskBinding} {reason : Reason} {undo : Bool}
    (h : Yields (fault s0 access layout reason undo) events r) : r.state.phase = .inert :=
  (fault_yields h).1.dead

theorem installCheck_ends {t : TaskSnapshot} (h : Yields (installCheck s access layout t) events r) :
    r.reason = .none ∨ r.state.phase = .inert := by
  obtain ⟨e1, read, e2, rfl, h1, h2⟩ := h.of_bind
  cases read with
  | error reason => exact .inr (fault_dead h2)
  | ok after =>
      dsimp only at h2
      split at h2
      · exact .inr (fault_dead h2)
      · obtain ⟨e3, owned, e4, rfl, h3, h4⟩ := h2.of_bind
        cases owned with
        | none => exact .inr (fault_dead h4)
        | some _ =>
            obtain ⟨rfl, rfl⟩ := Yields.done_iff.mp h4
            exact .inl rfl

/-- From its exchange on an installation succeeds or latches. -/
theorem installExchange_ends {t : TaskSnapshot} {slot : Nat}
    (h : Yields (installExchange s access layout t slot) events r) : r.reason = .none ∨ r.state.phase = .inert := by
  obtain ⟨e1, owned, e2, rfl, h1, h2⟩ := h.of_bind
  cases owned with
  | none => exact .inr (fault_dead h2)
  | some _ =>
      obtain ⟨e3, answer, e4, rfl, h3, h4⟩ := h2.of_bind
      split at h4
      · exact .inr (fault_dead h4)
      · exact installCheck_ends h4

theorem installAdmitted_refused {t : TaskSnapshot} (h : Yields (installAdmitted s access layout epoch t) events r)
    (hr : r.reason ≠ .none) (hlive : r.state.phase ≠ .inert) : r.state = s := by
  rw [installAdmitted] at h
  split at h
  · obtain ⟨rfl, rfl⟩ := refused_yields h
    rfl
  · obtain ⟨e1, writable, e2, rfl, h1, h2⟩ := h.of_bind
    split at h2
    · obtain ⟨e3, admission, e4, rfl, h3, h4⟩ := h2.of_bind
      split at h4
      · rcases installExchange_ends h4 with hn | hd
        · exact absurd hn hr
        · exact absurd hd hlive
      · obtain ⟨rfl, rfl⟩ := refused_yields h4
        rfl
    · obtain ⟨rfl, rfl⟩ := refused_yields h2
      rfl

/-- The counter commit of a refused installation is all it leaves behind. -/
theorem committed_safe {t : TaskSnapshot} :
    RetrySafe access layout s { s with haveCounter := true, lastNativeCounter := t.nativeCounter } ↔
      s.haveCounter = true ∧ s.lastNativeCounter = t.nativeCounter := by
  constructor
  · intro h
    exact ⟨h.1.1.symm, h.1.2.1.symm⟩
  · rintro ⟨hhave, hlast⟩
    rw [← hhave, ← hlast]
    exact .refl s

theorem installSelected_safe {t : TaskSnapshot} (h : Yields (installSelected s access layout epoch t) events r)
    (hr : r.reason ≠ .none) (hlive : r.state.phase ≠ .inert) :
    RetrySafe access layout s r.state ↔ (queued t.state = true → t.builder = s.original →
      s.haveCounter = true ∧ s.lastNativeCounter = t.nativeCounter) := by
  rw [installSelected] at h
  split at h
  · rename_i hqueued
    obtain ⟨rfl, rfl⟩ := refused_yields h
    exact ⟨fun _ hq => by simp [hq] at hqueued, fun _ => .refl s⟩
  · rename_i hqueued
    split at h
    · exact absurd (fault_dead h) hlive
    · split at h
      · rename_i hbuilder
        obtain ⟨rfl, rfl⟩ := refused_yields h
        exact ⟨fun _ _ hb => absurd hb hbuilder, fun _ => .refl s⟩
      · rename_i hbuilder
        split at h
        · exact absurd (fault_dead h) hlive
        · rename_i heq
          obtain ⟨rfl, _⟩ := history_true heq
          split at h
          · exact absurd (fault_dead h) hlive
          · rw [installAdmitted_refused h hr hlive, committed_safe]
            have hq : queued t.state = true := by simpa using hqueued
            exact ⟨fun hk _ _ => hk, fun hk => hk hq (not_not.mp hbuilder)⟩

theorem install_retry_safe (hinert : s.phase ≠ .inert) (harmed : s.phase ≠ .armed)
    (h : Yields (installTaskBinding s access layout epoch) events r) (hr : r.reason ≠ .none)
    (hlive : r.state.phase ≠ .inert) :
    RetrySafe access layout s r.state ↔ CounterKnown access layout s events := by
  obtain ⟨e1, entry, e2, rfl, h1, h2⟩ := h.of_bind
  have hnothing {reason : Reason} (hy : Yields (refused reason s) e2 r) :
      RetrySafe access layout s r.state ↔ CounterKnown access layout s (e1 ++ e2) := by
    obtain ⟨rfl, rfl⟩ := refused_yields hy
    exact ⟨fun _ t ht => absurd ht (not_selected h1), fun _ => .refl s⟩
  split at h2
  · exact hnothing h2
  · rename_i hentry
    split at h2
    · exact absurd (fault_dead h2) hlive
    · split at h2
      · exact hnothing h2
      · split at h2
        · exact absurd (fault_dead h2) hlive
        · obtain ⟨e3, read, e4, rfl, h3, h4⟩ := h2.of_bind
          cases read with
          | error reason =>
              dsimp only at h4
              split at h4
              · exact absurd (fault_dead h4) hlive
              · obtain ⟨rfl, rfl⟩ := refused_yields h4
                refine ⟨fun _ t ht => ?_, fun _ => .refl s⟩
                cases ht.read_eq h1 h3
          | ok before =>
              rw [installSelected_safe h4 hr hlive]
              constructor
              · intro hk t ht
                cases ht.read_eq h1 h3
                exact hk
              · intro hk
                refine hk before ⟨e1, e3, e4, (List.append_assoc _ _ _).symm, ?_, h3⟩
                rwa [not_not.mp hentry] at h1

def sampleRetired : TaskBinding :=
  { initializeTaskBinding sampleOriginal sampleWrapper with
    phase := .retired, epoch := ⟨1, 1⟩, lastIdentity := ⟨0, 5, 43 * 2 ^ 16 + 1, 0x40000, 0x30000⟩
    identity := ⟨0, 5, 43 * 2 ^ 16 + 1, 0x40000, 0x30000⟩, lastNativeCounter := 7, lastBoundId := 5
    haveCounter := true, haveHistory := true }

def sampleAttempt (state : TaskBinding) (protect : Nat) : TaskEvents × TaskReturn :=
  (installTaskBinding state sampleAccess sampleLayout ⟨1, 2⟩).talk (sampleTable 8 9 protect) sampleOriginal

theorem sampleAttempt_yields (state : TaskBinding) (protect : Nat) :
    Yields (installTaskBinding state sampleAccess sampleLayout ⟨1, 2⟩) (sampleAttempt state protect).1
      (sampleAttempt state protect).2 := by
  rw [sampleAttempt]
  exact Yields.talk _ _ _

def sampleCommitted : TaskBinding := { sampleRetired with lastNativeCounter := 9 }

theorem sampleAttempt_refused : (sampleAttempt sampleRetired pageReadOnly).2 =
    ⟨.writeFault, none, sampleCommitted⟩ := by decide +kernel

theorem install_retry_safe_sample :
    RetrySafe sampleAccess sampleLayout sampleRetired (sampleAttempt sampleRetired pageReadOnly).2.state ↔
      CounterKnown sampleAccess sampleLayout sampleRetired (sampleAttempt sampleRetired pageReadOnly).1 := by
  have hrefused := sampleAttempt_refused
  have hyields := sampleAttempt_yields sampleRetired pageReadOnly
  generalize (sampleAttempt sampleRetired pageReadOnly).2 = r at hrefused hyields
  generalize (sampleAttempt sampleRetired pageReadOnly).1 = events at hyields
  refine install_retry_safe (by decide) (by decide) hyields ?_ ?_
  · rw [hrefused]
    decide
  · rw [hrefused]
    decide

/-- The cell is read-only for a moment: the attempt is refused, and the next one
on the same table latches although a first one would have succeeded. -/
theorem install_refusal_latches :
    (sampleAttempt sampleRetired pageReadOnly).2.reason = .writeFault ∧
    (sampleAttempt sampleRetired pageReadOnly).2.state.phase = .retired ∧
    ¬ RetrySafe sampleAccess sampleLayout sampleRetired (sampleAttempt sampleRetired pageReadOnly).2.state ∧
    (sampleAttempt sampleRetired pageReadWrite).2.reason = .none ∧
    (sampleAttempt (sampleAttempt sampleRetired pageReadOnly).2.state pageReadWrite).2.reason = .taskReused := by
  have hrefused := sampleAttempt_refused
  have hfirst : (sampleAttempt sampleRetired pageReadWrite).2.reason = .none := by decide +kernel
  have hnext : (sampleAttempt sampleCommitted pageReadWrite).2.reason = .taskReused := by
    decide +kernel
  have hcounter : ¬ RetrySafe sampleAccess sampleLayout sampleRetired sampleCommitted := by
    intro h
    have h9 : 9 = 7 := h.1.2.1
    omega
  rw [hrefused]
  refine ⟨rfl, rfl, hcounter, hfirst, ?_⟩
  dsimp only
  exact hnext

end RS2ServerFix.Task
