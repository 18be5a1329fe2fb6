import RS2ServerFix.NativeLog.PipelineOrder
import RS2ServerFix.NativeLog.Submission

namespace RS2ServerFix.NativeLog

open Reporting Lib

variable {κ : Type} {w w' : LogWorld κ} {α : Type}

/-- What everybody else may do between two steps of the service: anything to
the pipeline, the transport and the logger, as long as nothing revoked is
opened again, the owner's cursor stays and no record is taken back. -/
structure LogOutside (w w' : LogWorld κ) : Prop where
  service : w'.service = w.service
  counters : ∃ n, w.counters.generatedSequence ≤ n ∧ w'.counters = { w.counters with generatedSequence := n }
  history : w'.handed = w.handed ∧ w'.openAtCheck = w.openAtCheck
  revoked : statusRevoked w.channel.status = true → statusRevoked w'.channel.status = true
  cursor : w'.channel.pipeline.readyRead = w.channel.pipeline.readyRead
  observed : w'.observedOnce = (w.observedOnce || w'.transport.startupObserved)

structure LogWorld.Initial (w : LogWorld κ) : Prop where
  handed : w.handed = []
  startupSubmitted : w.counters.startupSubmitted = false
  submittedSequence : w.counters.submittedSequence = 0
  observed : w.transport.startupObserved = true → w.observedOnce = true

structure Calm (w w' : LogWorld κ) : Prop where
  handed : w'.handed = w.handed
  check : w'.openAtCheck = w.openAtCheck
  startup : w'.counters.startupSubmitted = w.counters.startupSubmitted
  submitted : w'.counters.submittedSequence = w.counters.submittedSequence
  generated : w.counters.generatedSequence ≤ w'.counters.generatedSequence
  revoked : statusRevoked w.channel.status = true → statusRevoked w'.channel.status = true
  cursor : w'.channel.pipeline.readyRead = w.channel.pipeline.readyRead
  observed : w.observedOnce = true → w'.observedOnce = true
  startupObserved : (w.transport.startupObserved = true → w.observedOnce = true) →
    w'.transport.startupObserved = true → w'.observedOnce = true

theorem Calm.refl (w : LogWorld κ) : Calm w w := ⟨rfl, rfl, rfl, rfl, le_rfl, id, rfl, id, id⟩

theorem Calm.frames (h : Calm w w') : w'.submittedFrames = w.submittedFrames := by
  simp only [LogWorld.submittedFrames, h.startup, h.submitted]

theorem LogOutside.calm (h : LogOutside w w') : Calm w w' := by
  obtain ⟨n, hn, hc⟩ := h.counters
  have hobs := h.observed
  refine ⟨h.history.1, h.history.2, by rw [hc], by rw [hc], by rw [hc]; exact hn, h.revoked, h.cursor, ?_, ?_⟩
  · intro ho
    rw [hobs, ho]
    rfl
  · intro _ ho
    rw [hobs, ho]
    exact Bool.or_true _

theorem or_ne_zero {a b : UInt64} (h : a ≠ 0) : a ||| b ≠ 0 := by
  intro he
  apply h
  apply UInt64.toNat_inj.mp
  have := congrArg UInt64.toNat he
  simp only [UInt64.toNat_or, UInt64.toNat_zero] at this
  exact (Nat.or_eq_zero_iff.mp this).1

theorem statusRevoked_iff (s : StatusWords) : statusRevoked s = true ↔
    s.revokeReasons ≠ 0 ∨ s.lossReasons ≠ 0 ∨ s.stopping = true ∨ s.fatalTransportReason ≠ 0 := by
  simp only [statusRevoked, Bool.or_eq_true, decide_eq_true_eq, or_assoc]

theorem revokeStatus_keeps (s : StatusWords) (reason : Reason) (h : statusRevoked s = true) :
    statusRevoked (revokeStatus s reason) = true := by
  rw [statusRevoked_iff] at h ⊢
  exact h.imp_left or_ne_zero

theorem loseStatus_keeps (s : StatusWords) (reason : Reason) (h : statusRevoked s = true) :
    statusRevoked (loseStatus s reason) = true := by
  apply revokeStatus_keeps
  rw [statusRevoked_iff] at h ⊢
  exact h.imp_right (Or.imp_left or_ne_zero)

theorem fatal_revoked (s : StatusWords) (h : s.fatalTransportReason ≠ 0) : statusRevoked s = true :=
  (statusRevoked_iff s).mpr (.inr (.inr (.inr h)))

theorem latchTransportFault_fatal (s : StatusWords) (reason : TransportReason)
    (h : TransportReason.receiptGap.value ≤ reason.value) :
    statusRevoked (latchTransportFault s reason).1 = true := by
  apply fatal_revoked
  have hpos : reason.value ≠ 0 := by
    have : TransportReason.receiptGap.value = 12 := rfl
    omega
  simp only [latchTransportFault, if_neg (Nat.not_lt.mpr h)]
  split <;> split <;> simp_all [loseStatus, revokeStatus]

theorem latchTransportFault_keeps (s : StatusWords) (reason : TransportReason) (h : statusRevoked s = true) :
    statusRevoked (latchTransportFault s reason).1 = true := by
  by_cases hr : reason.value < TransportReason.receiptGap.value
  · simpa only [latchTransportFault, if_pos hr] using h
  · exact latchTransportFault_fatal s reason (Nat.not_lt.mp hr)

theorem Calm.service (w : LogWorld κ) (s : NativeLogService) : Calm w (w.setService s) :=
  ⟨rfl, rfl, rfl, rfl, le_rfl, id, rfl, id, id⟩

theorem Calm.status (w : LogWorld κ) {s : StatusWords}
    (h : statusRevoked w.channel.status = true → statusRevoked s = true) : Calm w (w.setStatus s) :=
  ⟨rfl, rfl, rfl, rfl, le_rfl, h, rfl, id, id⟩

theorem Calm.revoke (w : LogWorld κ) (reason : Reason) : Calm w (w.revoke reason) :=
  .status w (revokeStatus_keeps _ reason)

theorem Calm.counters (w : LogWorld κ) {c : OwnerCounters} (hs : c.startupSubmitted = w.counters.startupSubmitted)
    (hm : c.submittedSequence = w.counters.submittedSequence)
    (hg : c.generatedSequence = w.counters.generatedSequence) : Calm w (w.setCounters c) :=
  ⟨rfl, rfl, hs, hm, hg.ge, id, rfl, id, id⟩

theorem Calm.trans {a b c : LogWorld κ} (h : Calm a b) (h' : Calm b c) : Calm a c where
  handed := h'.handed.trans h.handed
  check := h'.check.trans h.check
  startup := h'.startup.trans h.startup
  submitted := h'.submitted.trans h.submitted
  generated := h.generated.trans h'.generated
  revoked := h'.revoked ∘ h.revoked
  cursor := h'.cursor.trans h.cursor
  observed := h'.observed ∘ h.observed
  startupObserved := fun hs => h'.startupObserved (h.startupObserved hs)

theorem sample_calm : (sample : LogProg κ _).Steps Calm := by
  refine .act fun w => ?_
  dsimp only
  split
  · exact .revoke w _
  · split
    · exact .revoke w _
    · exact .service w _

theorem addSubmit_calm (get : OwnerCounters → Nat) (set : OwnerCounters → Nat → OwnerCounters) (delta : Nat)
    (h : ∀ c v, (set c v).startupSubmitted = c.startupSubmitted ∧ (set c v).submittedSequence = c.submittedSequence ∧
      (set c v).generatedSequence = c.generatedSequence) :
    (addSubmit get set delta : LogProg κ _).Steps Calm := by
  refine .act fun w => ?_
  split
  · exact .revoke w _
  · exact .counters w (h _ _).1 (h _ _).2.1 (h _ _).2.2

theorem qualifyEpoch_calm : (qualifyEpoch : LogProg κ _).Steps Calm := by
  refine .act fun w => ?_
  dsimp only
  split
  · exact .counters w rfl rfl rfl
  · exact .counters w rfl rfl rfl

theorem requestEpoch_calm (current : NativeLogSnapshot) : (requestEpoch current : LogProg κ _).Steps Calm := by
  refine .act fun w => ?_
  dsimp only
  split
  · exact .refl w
  · exact (Calm.service w _).trans (.counters _ rfl rfl rfl)

theorem modify_calm {f : LogWorld κ → LogWorld κ} (h : ∀ w, Calm w (f w)) : (Prog.modify f).Steps Calm := .act h

theorem qualify_calm : (qualify : LogProg κ _).Steps Calm := by
  refine .bind (.read _ .refl) fun found => ?_
  dsimp only
  split
  · refine .bind (modify_calm fun w => ?_) fun _ => trivial
    have hc : Calm w (w.setCounters { w.counters with qualifiedSinkEpoch := 0 }) := .counters w rfl rfl rfl
    show Calm w (if _ then _ else _)
    split
    · exact hc.trans (.status _ (latchTransportFault_keeps _ _))
    · exact hc
  · refine .bind (.read _ .refl) fun s => ?_
    split
    · split
      · exact .bind (modify_calm fun w => .revoke w _) fun _ => trivial
      · refine .bind (requestEpoch_calm _) fun taken => ?_
        cases taken with
        | true => exact qualifyEpoch_calm
        | false => trivial
    · exact qualifyEpoch_calm

theorem rateAllows_calm (now : Nat) : (rateAllows now : LogProg κ _).Steps Calm := by
  refine .act fun w => ?_
  dsimp only
  split
  · exact .revoke w _
  · split
    · exact (Calm.service w _).trans (.revoke _ _)
    · exact (Calm.service w _).trans (.counters _ rfl rfl rfl)

theorem noteSubmission_calm (start : Nat) : (noteSubmission start : LogProg κ _).Steps Calm :=
  modify_calm fun w => (Calm.service w _).trans (.counters _ rfl rfl rfl)

theorem countLongCall_calm (elapsed : Nat) : (countLongCall elapsed : LogProg κ _).Steps Calm := by
  refine .bind (.read _ .refl) fun frequency => ?_
  split
  · exact addSubmit_calm _ _ _ fun c v => ⟨rfl, rfl, rfl⟩
  · trivial

theorem accountCall_calm (start : Nat) : (accountCall start : LogProg κ _).Steps Calm := by
  refine .bind sample_calm fun stop => ?_
  cases stop with
  | none => trivial
  | some stop =>
      refine .bind (addSubmit_calm _ _ _ fun c v => ⟨rfl, rfl, rfl⟩) fun added => ?_
      cases added with
      | false => trivial
      | true =>
          refine .bind (modify_calm fun w => .counters w rfl rfl rfl) fun _ => .bind (countLongCall_calm _) fun counted => ?_
          cases counted with
          | false => trivial
          | true => exact .bind (modify_calm fun w => .counters w rfl rfl rfl) fun _ => trivial

theorem peekNativeFrame_eq_self (c : NativeChannel κ) : (peekNativeFrame c).1 = c ∨
    (peekNativeFrame c) = (c.lose .recordLoss, none) := by
  rw [peekNativeFrame]
  dsimp only
  split
  · exact .inl rfl
  · split
    · exact .inr rfl
    · split
      · exact .inl rfl
      · split
        · exact .inr rfl
        · exact .inl rfl

theorem Calm.peek (w : LogWorld κ) : Calm w { w with channel := (peekNativeFrame w.channel).1 } := by
  rcases peekNativeFrame_eq_self w.channel with h | h
  · rw [h]
    exact .refl w
  · rw [h]
    exact .status w (loseStatus_keeps _ _)

theorem nativeTransportFrame_calm (epoch : Nat) : (nativeTransportFrame epoch : LogProg κ _).Steps Calm := by
  refine .act fun w => ?_
  have hpeek := Calm.peek w
  split
  · exact .refl w
  · split <;> (rename_i heq; rw [heq] at hpeek; exact hpeek)

theorem beginService_calm : (beginService : LogProg κ _).Steps Calm := by
  refine .act fun w => ?_
  dsimp only
  split
  · exact .refl w
  · split
    · exact .revoke w _
    · exact .service w _

structure LogInv (w : LogWorld κ) : Prop where
  order : w.handed.map (·.sequence) = List.range w.handed.length
  seen : ∀ h ∈ w.handed, (h.sequence ≠ 0 → h.observed = true) ∧ h.opened = true
  calls : ∀ h ∈ w.handed.dropLast, h.returned = true
  generated : w.counters.submittedSequence ≤ w.counters.generatedSequence
  fresh : w.counters.startupSubmitted = false → w.counters.submittedSequence = 0
  observed : w.transport.startupObserved = true → w.observedOnce = true

def CallsRecorded (w : LogWorld κ) : Prop :=
  (∀ h ∈ w.handed, h.returned = true) ∧ w.handed.length = w.submittedFrames

def LogIdle (w : LogWorld κ) : Prop := LogInv w ∧ (statusRevoked w.channel.status = true ∨ CallsRecorded w)

structure Next (frame : NativeReadyFrame) (w : LogWorld κ) : Prop where
  sequence : frame.sequence = w.submittedFrames
  generated : frame.sequence ≤ w.counters.generatedSequence
  observed : frame.sequence ≠ 0 → w.observedOnce = true

def LogReady (frame : NativeReadyFrame) (w : LogWorld κ) : Prop :=
  LogInv w ∧ Next frame w ∧ CallsRecorded w ∧ w.openAtCheck = true

def LogOut (frame : NativeReadyFrame) (returned : Bool) (w : LogWorld κ) : Prop :=
  LogInv w ∧ Next frame w ∧ ∃ before h, w.handed = before ++ [h] ∧ before.length = w.submittedFrames ∧
    (∀ g ∈ before, g.returned = true) ∧ h.sequence = frame.sequence ∧ h.ticket = frame.ticket ∧ h.returned = returned

def LogRecorded (frame : NativeReadyFrame) (w : LogWorld κ) : Prop :=
  LogInv w ∧ CallsRecorded w ∧ ∃ h, w.handed.getLast? = some h ∧ h.ticket = frame.ticket

def Released (w w' : LogWorld κ) : Prop :=
  ∃ h, w.handed.getLast? = some h ∧ h.returned = true ∧ w.submittedFrames = w.handed.length ∧
    h.ticket = w.channel.pipeline.readyRead + 1 ∧ w'.channel.pipeline.readyRead = h.ticket

def LogGuarantee (w w' : LogWorld κ) : Prop :=
  w'.channel.pipeline.readyRead = w.channel.pipeline.readyRead ∨ Released w w'

theorem Calm.inv (h : Calm w w') (hi : LogInv w) : LogInv w' where
  order := h.handed ▸ hi.order
  seen := h.handed ▸ hi.seen
  calls := h.handed ▸ hi.calls
  generated := h.submitted ▸ hi.generated.trans h.generated
  fresh := h.startup ▸ h.submitted ▸ hi.fresh
  observed := h.startupObserved hi.observed

theorem Calm.callsRecorded (h : Calm w w') (hs : CallsRecorded w) : CallsRecorded w' := by
  rw [CallsRecorded, h.handed, h.frames]
  exact hs

theorem Calm.idle (h : Calm w w') (hi : LogIdle w) : LogIdle w' :=
  ⟨h.inv hi.1, hi.2.imp h.revoked h.callsRecorded⟩

theorem Calm.next {frame : NativeReadyFrame} (h : Calm w w') (hn : Next frame w) : Next frame w' where
  sequence := hn.sequence.trans h.frames.symm
  generated := hn.generated.trans h.generated
  observed := h.observed ∘ hn.observed

theorem Calm.ready {frame : NativeReadyFrame} (h : Calm w w') (hr : LogReady frame w) : LogReady frame w' :=
  ⟨h.inv hr.1, h.next hr.2.1, h.callsRecorded hr.2.2.1, h.check.trans hr.2.2.2⟩

theorem Calm.out {frame : NativeReadyFrame} {returned : Bool} (h : Calm w w') (ho : LogOut frame returned w) :
    LogOut frame returned w' := by
  obtain ⟨hi, hn, hrest⟩ := ho
  refine ⟨h.inv hi, h.next hn, ?_⟩
  rw [h.handed, h.frames]
  exact hrest

theorem Calm.recorded {frame : NativeReadyFrame} (h : Calm w w') (hr : LogRecorded frame w) :
    LogRecorded frame w' :=
  ⟨h.inv hr.1, h.callsRecorded hr.2.1, h.handed ▸ hr.2.2⟩

theorem Calm.guarantee (h : Calm w w') : LogGuarantee w w' := .inl h.cursor

theorem stable_of_calm {P : LogWorld κ → Prop} (h : ∀ w w', Calm w w' → P w → P w') : Stable LogOutside P :=
  fun w w' hp he => h w w' he.calm hp

abbrev LogTriple (P : LogWorld κ → Prop) (p : LogProg κ α) (Q : α → LogWorld κ → Prop) : Prop :=
  Triple LogOutside (Within LogInv LogGuarantee) P p Q

theorem calm_triple {p : LogProg κ α} {P : LogWorld κ → Prop} (hp : p.Steps Calm)
    (hkeep : ∀ w w', Calm w w' → P w → P w') : LogTriple P p fun _ => P :=
  hp.triple (stable_of_calm hkeep) (fun w w' h hc => hkeep w w' hc h)
    fun _ _ _ hc hi => ⟨hc.guarantee, hc.inv hi⟩

theorem done_triple {P Q : LogWorld κ → Prop} (a : α) (hkeep : ∀ w w', Calm w w' → Q w → Q w')
    (h : ∀ w, P w → Q w) : LogTriple P (.done a) fun _ => Q :=
  .done (stable_of_calm hkeep) h

theorem read_triple {β : Type} {P : LogWorld κ → Prop} {Q : β → LogWorld κ → Prop} (f : LogWorld κ → β)
    (hP : ∀ w w', Calm w w' → P w → P w') (hQ : ∀ b w w', Calm w w' → Q b w → Q b w')
    (h : ∀ w, P w → Q (f w) w) : LogTriple P (.read f) Q :=
  .act (stable_of_calm hP) (fun b => stable_of_calm (hQ b)) fun w hp => ⟨fun hi => ⟨(Calm.refl w).guarantee, hi⟩, h w hp⟩

variable {frame : NativeReadyFrame}

theorem LogReady.idle (h : LogReady frame w) : LogIdle w := ⟨h.1, .inr h.2.2.1⟩

theorem LogReady.enter (h : LogReady frame w) :
    LogOut frame false { w with handed := w.handed ++ [⟨frame.sequence, frame.ticket, w.observedOnce, w.openAtCheck, false⟩] } := by
  obtain ⟨hi, hn, ⟨hret, hlen⟩, hopen⟩ := h
  refine ⟨⟨?_, ?_, ?_, hi.generated, hi.fresh, hi.observed⟩, ⟨hn.sequence, hn.generated, hn.observed⟩,
    w.handed, _, rfl, hlen, hret, rfl, rfl, rfl⟩
  · simp only [List.map_append, List.map_cons, List.map_nil, List.length_append, List.length_cons, List.length_nil,
      Nat.zero_add, List.range_succ, hi.order, hn.sequence, hlen]
  · intro g hg
    rcases List.mem_append.mp hg with hg | hg
    · exact hi.seen g hg
    · obtain rfl := List.mem_singleton.mp hg
      exact ⟨hn.observed, hopen⟩
  · rw [List.dropLast_concat]
    exact hret

theorem LogOut.raise (h : LogOut frame false w) :
    LogIdle (w.setStatus (latchTransportFault w.channel.status .nativeLogException).1) :=
  ⟨(Calm.status w (latchTransportFault_keeps _ _)).inv h.1, .inl (latchTransportFault_fatal _ _ (by decide))⟩

theorem markReturned_concat (before : List Handed) (h : Handed) :
    markReturned (before ++ [h]) = before ++ [{ h with returned := true }] := by
  simp only [markReturned, List.dropLast_concat, List.getLast?_concat, Option.map_some, Option.toList_some]

theorem LogOut.back (h : LogOut frame false w) : LogOut frame true { w with handed := markReturned w.handed } := by
  obtain ⟨hi, hn, before, g, he, hlen, hret, hseq, hticket, _⟩ := h
  have hmark : markReturned w.handed = before ++ [{ g with returned := true }] := by
    rw [he, markReturned_concat]
  have horder := hi.order
  have hseen := hi.seen
  rw [he] at horder hseen
  refine ⟨⟨?_, ?_, ?_, hi.generated, hi.fresh, hi.observed⟩, ⟨hn.sequence, hn.generated, hn.observed⟩,
    before, _, hmark, hlen, hret, hseq, hticket, rfl⟩
  · simp only [hmark]
    simpa only [List.map_append, List.map_cons, List.map_nil, List.length_append, List.length_cons, List.length_nil]
      using horder
  · simp only [hmark]
    intro k hk
    rcases List.mem_append.mp hk with hk | hk
    · exact hseen k (List.mem_append_left _ hk)
    · obtain rfl := List.mem_singleton.mp hk
      exact hseen g (List.mem_append_right _ (List.mem_singleton_self g))
  · simp only [hmark, List.dropLast_concat]
    exact hret

theorem LogOut.record (h : LogOut frame true w) : LogRecorded frame (w.setCounters
    (if frame.sequence ≠ 0 then { w.counters with submittedSequence := frame.sequence }
      else { w.counters with startupSubmitted := true })) := by
  obtain ⟨hi, hn, before, g, he, hlen, hret, hseq, hticket, hback⟩ := h
  have hall : ∀ k ∈ w.handed, k.returned = true := by
    rw [he]
    intro k hk
    rcases List.mem_append.mp hk with hk | hk
    · exact hret k hk
    · obtain rfl := List.mem_singleton.mp hk
      exact hback
  have hcount : w.handed.length = frame.sequence + 1 := by
    rw [he, List.length_append, hlen, hn.sequence]
    rfl
  have hlast : w.handed.getLast? = some g := by rw [he, List.getLast?_concat]
  have hs := hn.sequence
  rw [LogWorld.submittedFrames] at hs
  by_cases hz : frame.sequence = 0
  · rw [if_neg (not_not.mpr hz)]
    have hstartup : w.counters.startupSubmitted = false := by
      by_contra hne
      rw [if_pos (by simpa only [Bool.not_eq_false] using hne)] at hs
      omega
    refine ⟨⟨hi.order, hi.seen, hi.calls, hi.generated, ?_, hi.observed⟩, ⟨hall, ?_⟩, g, hlast, hticket⟩
    · intro hf
      cases hf
    · show w.handed.length = if true = true then w.counters.submittedSequence + 1 else 0
      rw [if_pos rfl, hi.fresh hstartup, hcount, hz]
  · rw [if_pos hz]
    have hstartup : w.counters.startupSubmitted = true := by
      by_contra hne
      rw [if_neg hne] at hs
      exact hz hs
    refine ⟨⟨hi.order, hi.seen, hi.calls, hn.generated, ?_, hi.observed⟩, ⟨hall, ?_⟩, g, hlast, hticket⟩
    · intro hf
      rw [show w.counters.startupSubmitted = false from hf] at hstartup
      cases hstartup
    · show w.handed.length = if w.counters.startupSubmitted = true then frame.sequence + 1 else 0
      rw [if_pos hstartup, hcount]

theorem peekNativeFrame_some {c : NativeChannel κ} {slot : NativeReadyFrame} (h : (peekNativeFrame c).2 = some slot) :
    peekNativeFrame c = (c, some slot) ∧ slot.ticket = c.pipeline.readyRead + 1 := by
  have hp := h
  rw [peekNativeFrame] at hp ⊢
  dsimp only at hp ⊢
  split at hp
  · cases hp
  · split at hp
    · cases hp
    · split at hp
      · cases hp
      · split at hp
        · cases hp
        · rename_i h1 h2 h3 h4
          obtain rfl := Option.some.inj hp
          rw [if_neg h1, if_neg h2, if_neg h3, if_neg h4]
          exact ⟨rfl, not_not.mp fun hne => h4 (.inl hne)⟩

/-- A release takes the front frame, or it only revokes. -/
theorem releaseNativeFrame_effect (c : NativeChannel κ) (ticket : Nat) :
    (∃ s, (statusRevoked c.status = true → statusRevoked s = true) ∧
      (releaseNativeFrame c ticket).1 = { c with status := s }) ∨
    ticket = c.pipeline.readyRead + 1 ∧
      (releaseNativeFrame c ticket).1 = { c with pipeline := { c.pipeline with readyRead := ticket } } := by
  rw [releaseNativeFrame]
  cases hp : (peekNativeFrame c).2 with
  | none =>
      have hpair : peekNativeFrame c = ((peekNativeFrame c).1, none) := Prod.ext rfl hp
      rw [hpair]
      left
      rcases peekNativeFrame_eq_self c with h | h
      · exact ⟨_, loseStatus_keeps _ _, by rw [h]; rfl⟩
      · exact ⟨_, fun hr => loseStatus_keeps _ .recordLoss (loseStatus_keeps _ .recordLoss hr), by rw [h]; rfl⟩
  | some slot =>
      obtain ⟨hpair, hslot⟩ := peekNativeFrame_some hp
      rw [hpair]
      dsimp only
      split
      · exact .inl ⟨_, loseStatus_keeps _ _, rfl⟩
      · rename_i ht
        exact .inr ⟨(not_not.mp ht).symm.trans hslot, rfl⟩

theorem LogRecorded.released (h : LogRecorded frame w) :
    LogGuarantee w { w with channel := (releaseNativeFrame w.channel frame.ticket).1 } ∧
      LogIdle { w with channel := (releaseNativeFrame w.channel frame.ticket).1 } := by
  obtain ⟨hi, hs, g, hlast, hticket⟩ := h
  rcases releaseNativeFrame_effect w.channel frame.ticket with ⟨s, hkeep, he⟩ | ⟨ht, he⟩
  · have hc : Calm w (w.setStatus s) := .status w hkeep
    rw [he]
    exact ⟨hc.guarantee, hc.idle ⟨hi, .inr hs⟩⟩
  · rw [he]
    refine ⟨.inr ⟨g, hlast, hs.1 g (List.mem_of_mem_getLast? hlast), hs.2.symm, hticket.trans ht, hticket.symm⟩, ?_⟩
    exact ⟨⟨hi.order, hi.seen, hi.calls, hi.generated, hi.fresh, hi.observed⟩, .inr hs⟩

theorem invokeFrame_triple (frame : NativeReadyFrame) (start : Nat) (result : NativeServiceResult) :
    LogTriple (LogReady frame (κ := κ)) (invokeFrame frame start result) fun _ => LogIdle := by
  have hidle : ∀ w w' : LogWorld κ, Calm w w' → LogIdle w → LogIdle w' := fun _ _ hc => hc.idle
  have hout : ∀ returned, ∀ w w' : LogWorld κ, Calm w w' → LogOut frame returned w → LogOut frame returned w' :=
    fun _ _ _ hc => hc.out
  have henter : LogTriple (LogReady frame (κ := κ)) (invokeEnter frame) fun _ => LogOut frame false :=
    .act (stable_of_calm fun _ _ hc => hc.ready) (fun _ => stable_of_calm (hout false))
      fun w h => ⟨fun _ => ⟨.inl rfl, h.enter.1⟩, h.enter⟩
  refine henter.bind fun _ => ?_
  have hleave : LogTriple (LogOut frame false (κ := κ)) invokeLeave
      fun back w => if back then LogOut frame true w else LogIdle w := by
    refine .act (stable_of_calm (hout false)) (fun back => ?_) fun w h => ?_
    · cases back with
      | true => exact stable_of_calm (hout true)
      | false => exact stable_of_calm hidle
    · by_cases hr : w.around.raises
      · simp only [hr]
        exact ⟨fun _ => ⟨.inl rfl, h.raise.1⟩, h.raise⟩
      · simp only [hr]
        exact ⟨fun _ => ⟨.inl rfl, h.back.1⟩, h.back⟩
  refine hleave.bind fun back => ?_
  cases back with
  | false => exact done_triple _ hidle fun _ h => h
  | true =>
      have hrecord : LogTriple (LogOut frame true (κ := κ)) (recordSubmission frame) fun _ => LogRecorded frame :=
        .act (stable_of_calm (hout true)) (fun _ => stable_of_calm fun _ _ hc => hc.recorded)
          fun w h => ⟨fun _ => ⟨.inl rfl, h.record.1⟩, h.record⟩
      refine hrecord.bind fun _ => ?_
      have hreturned : LogTriple (LogRecorded frame (κ := κ)) (nativeTransportReturned frame.ticket) fun _ => LogIdle :=
        .act (stable_of_calm fun _ _ hc => hc.recorded) (fun _ => stable_of_calm hidle)
          fun w h => ⟨fun _ => ⟨h.released.1, h.released.2.1⟩, h.released.2⟩
      refine hreturned.bind fun released => ?_
      cases released with
      | true =>
          refine (calm_triple (accountCall_calm start) hidle).bind fun counted => ?_
          cases counted with
          | true => exact done_triple _ hidle fun _ h => h
          | false => exact done_triple _ hidle fun _ h => h
      | false =>
          refine (calm_triple (modify_calm fun w => .status w (loseStatus_keeps _ _)) hidle).bind fun _ => ?_
          exact done_triple _ hidle fun _ h => h

theorem idle_calm (w w' : LogWorld κ) (hc : Calm w w') : LogIdle w → LogIdle w' := hc.idle

def LogNext (frame : NativeReadyFrame) (w : LogWorld κ) : Prop := LogIdle w ∧ Next frame w

theorem next_calm (frame : NativeReadyFrame) (w w' : LogWorld κ) (hc : Calm w w') :
    LogNext frame w → LogNext frame w' := fun h => ⟨hc.idle h.1, hc.next h.2⟩

theorem checkOpen_triple (frame : NativeReadyFrame) : LogTriple (LogNext frame (κ := κ)) checkOpen
    fun clear w => if clear then LogReady frame w else LogIdle w := by
  refine .act (stable_of_calm (next_calm frame)) (fun clear => ?_) fun w h => ?_
  · cases clear with
    | true => exact stable_of_calm fun _ _ hc => hc.ready
    | false => exact stable_of_calm idle_calm
  · obtain ⟨⟨hi, hs⟩, hn⟩ := h
    have hi' : LogInv { w with openAtCheck := !statusRevoked w.channel.status } :=
      ⟨hi.order, hi.seen, hi.calls, hi.generated, hi.fresh, hi.observed⟩
    refine ⟨fun _ => ⟨.inl rfl, hi'⟩, ?_⟩
    cases hr : statusRevoked w.channel.status with
    | true => exact ⟨hr ▸ hi', hs⟩
    | false =>
        have hset : CallsRecorded w := hs.resolve_left (by rw [hr]; exact Bool.false_ne_true)
        exact ⟨hr ▸ hi', ⟨hn.sequence, hn.generated, hn.observed⟩, hset, rfl⟩

theorem admitFrame_triple (frame : NativeReadyFrame) (result : NativeServiceResult) :
    LogTriple (LogNext frame (κ := κ)) (admitFrame frame result) fun _ => LogIdle := by
  have hstop : ∀ e : RoundEnd, LogTriple (LogNext frame (κ := κ)) (.done e) fun _ => LogIdle :=
    fun e => done_triple e idle_calm fun _ h => h.1
  refine (calm_triple sample_calm (next_calm frame)).bind fun start => ?_
  cases start with
  | none => exact hstop _
  | some start =>
      refine (calm_triple (rateAllows_calm start) (next_calm frame)).bind fun allowed => ?_
      cases allowed with
      | false => exact hstop _
      | true =>
          refine (checkOpen_triple frame).bind fun clear => ?_
          cases clear with
          | false => exact done_triple _ idle_calm fun _ h => h
          | true =>
              have hcalls := addSubmit_calm (κ := κ) (·.nativeSubmitCalls) (fun c v => { c with nativeSubmitCalls := v }) 1
                fun c v => ⟨rfl, rfl, rfl⟩
              refine (calm_triple hcalls fun _ _ hc => hc.ready).bind fun counted => ?_
              cases counted with
              | false => exact done_triple _ idle_calm fun _ h => h.idle
              | true =>
                  exact (calm_triple (noteSubmission_calm start) fun _ _ hc => hc.ready).bind
                    fun _ => invokeFrame_triple frame start result

theorem requalifyFrame_triple (frame : NativeReadyFrame) (result : NativeServiceResult) :
    LogTriple (LogNext frame (κ := κ)) (requalifyFrame frame result) fun _ => LogIdle := by
  have hread {β : Type} (f : LogWorld κ → β) : LogTriple (LogNext frame (κ := κ)) (.read f) fun _ => LogNext frame :=
    read_triple f (next_calm frame) (fun _ => next_calm frame) fun _ h => h
  refine (hread _).bind fun epoch => (calm_triple qualify_calm (next_calm frame)).bind fun reason => ?_
  refine (hread _).bind fun after => ?_
  dsimp only
  split
  · exact done_triple _ idle_calm fun _ h => h.1
  · exact admitFrame_triple frame _

theorem nextToSubmit_next (hobs : frame.sequence ≠ 0 → w.observedOnce = true)
    (h : nextToSubmit w.counters frame = true) : Next frame w := by
  rw [nextToSubmit, Bool.and_eq_true] at h
  by_cases hz : frame.sequence = 0
  · have hstartup : w.counters.startupSubmitted = false := by
      have := h.2
      rwa [if_pos hz, Bool.not_eq_true'] at this
    exact ⟨by rw [LogWorld.submittedFrames, hstartup]; exact hz, hz ▸ Nat.zero_le _, hobs⟩
  · have hnext := h.2
    rw [if_neg hz] at hnext
    simp only [Bool.and_eq_true, decide_eq_true_eq] at hnext
    obtain ⟨⟨⟨hstartup, _⟩, hseq⟩, hgen⟩ := hnext
    exact ⟨by rw [LogWorld.submittedFrames, if_pos hstartup]; exact hseq, hgen, hobs⟩

theorem submitRound_triple (result : NativeServiceResult) :
    LogTriple (LogIdle (κ := κ)) (submitRound result) fun _ => LogIdle := by
  have hdone : ∀ e : RoundEnd, LogTriple (LogIdle (κ := κ)) (.done e) fun _ => LogIdle :=
    fun e => done_triple e idle_calm fun _ h => h
  have hepoch : LogTriple (LogIdle (κ := κ)) (.read fun w => w.service.epoch) fun _ => LogIdle :=
    read_triple _ idle_calm (fun _ => idle_calm) fun _ h => h
  refine hepoch.bind fun epoch => (calm_triple (nativeTransportFrame_calm epoch) idle_calm).bind fun front => ?_
  cases front with
  | none => exact hdone _
  | some frame =>
      -- Whoever gets past this check has seen the startup receipt.
      have hearly : LogTriple (LogIdle (κ := κ))
          (.read fun w => decide (frame.sequence ≠ 0) && !w.transport.startupObserved)
          fun early w => LogIdle w ∧ (early = false → frame.sequence ≠ 0 → w.observedOnce = true) := by
        refine read_triple _ idle_calm (fun _ w w' hc h => ⟨hc.idle h.1, fun he hz => hc.observed (h.2 he hz)⟩) ?_
        intro w h
        refine ⟨h, fun he hz => h.1.observed ?_⟩
        simpa [hz] using he
      refine hearly.bind fun early => ?_
      cases early with
      | true => exact done_triple _ idle_calm fun _ h => h.1
      | false =>
          have hnext : LogTriple (fun w : LogWorld κ => LogIdle w ∧ (false = false → frame.sequence ≠ 0 → w.observedOnce = true))
              (.read fun w => nextToSubmit w.counters frame)
              fun next w => if next then LogNext frame w else LogIdle w := by
            refine read_triple _ (fun w w' hc h => ⟨hc.idle h.1, fun he hz => hc.observed (h.2 he hz)⟩) ?_ ?_
            · intro next
              cases next with
              | true => exact next_calm frame
              | false => exact idle_calm
            · intro w h
              cases hn : nextToSubmit w.counters frame with
              | true => exact ⟨h.1, nextToSubmit_next (h.2 rfl) hn⟩
              | false => exact h.1
          refine hnext.bind fun next => ?_
          cases next with
          | true => exact requalifyFrame_triple frame result
          | false =>
              refine (calm_triple (modify_calm fun w => .status w (loseStatus_keeps _ _)) idle_calm).bind fun _ => ?_
              exact hdone _

theorem submitRounds_triple (count : Nat) (result : NativeServiceResult) :
    LogTriple (LogIdle (κ := κ)) (submitRounds count result) fun _ => LogIdle := by
  induction count generalizing result with
  | zero => exact done_triple _ idle_calm fun _ h => h
  | succ count ih =>
      refine (submitRound_triple result).bind fun e => ?_
      cases e with
      | again result => exact ih result
      | stop result => exact done_triple _ idle_calm fun _ h => h
      | raised => exact done_triple _ idle_calm fun _ h => h

theorem serviceNativeLog_triple : LogTriple (LogIdle (κ := κ)) serviceNativeLog fun _ => LogIdle := by
  have hdone (a : Option NativeServiceResult) : LogTriple (LogIdle (κ := κ)) (.done a) fun _ => LogIdle :=
    done_triple a idle_calm fun _ h => h
  have hrevoked : LogTriple (LogIdle (κ := κ)) (.read fun w => statusRevoked w.channel.status) fun _ => LogIdle :=
    read_triple _ idle_calm (fun _ => idle_calm) fun _ h => h
  refine (calm_triple beginService_calm idle_calm).bind fun due => ?_
  cases due with
  | false => exact hdone _
  | true =>
      refine (calm_triple qualify_calm idle_calm).bind fun reason => hrevoked.bind fun revoked => ?_
      split
      · exact hdone _
      · refine (submitRounds_triple 2 _).bind fun result => ?_
        cases result with
        | none => exact hdone _
        | some result => exact hrevoked.bind fun _ => hdone _

theorem LogWorld.Initial.idle (h : w.Initial) : LogIdle w := by
  refine ⟨⟨?_, ?_, ?_, ?_, fun _ => h.submittedSequence, h.observed⟩, .inr ⟨?_, ?_⟩⟩
  · rw [h.handed]
    rfl
  · rw [h.handed]
    exact fun _ hm => absurd hm List.not_mem_nil
  · rw [h.handed]
    exact fun _ hm => absurd hm List.not_mem_nil
  · rw [h.submittedSequence]
    exact Nat.zero_le _
  · rw [h.handed]
    exact fun _ hm => absurd hm List.not_mem_nil
  · rw [h.handed, LogWorld.submittedFrames, h.startupSubmitted]
    rfl

/-- The history of the calls: bootstrap, 1, 2, and so on, each with the status
open at its last check and the calls before it returned. -/
structure SubmissionOrder (w : LogWorld κ) : Prop where
  order : w.handed.map (·.sequence) = List.range w.handed.length
  observed : ∀ h ∈ w.handed, h.sequence ≠ 0 → h.observed = true
  opened : ∀ h ∈ w.handed, h.opened = true
  returned : ∀ h ∈ w.handed.dropLast, h.returned = true
  generated : w.counters.submittedSequence ≤ w.counters.generatedSequence

theorem submission_order (hinit : w.Initial) {x : LogWorld κ × LogProg κ (Option NativeServiceResult)}
    (run : Turns LogOutside serviceNativeLog (w, serviceNativeLog) x) :
    SubmissionOrder x.1 ∧ ∀ y, Turn LogOutside serviceNativeLog x y →
      y.1.channel.pipeline.readyRead = x.1.channel.pipeline.readyRead ∨ Released x.1 y.1 := by
  have hJ : ∀ v : LogWorld κ, LogIdle v → LogInv v := fun _ h => h.1
  have hothers : Stable LogOutside (LogInv (κ := κ)) := stable_of_calm fun _ _ hc => hc.inv
  have hrunning := (Running.start hJ serviceNativeLog_triple hinit.idle).turns hJ hothers serviceNativeLog_triple run
  have hi := hrunning.inv
  refine ⟨⟨hi.order, fun h hm => (hi.seen h hm).1, fun h hm => (hi.seen h hm).2, hi.calls, hi.generated⟩, ?_⟩
  intro y move
  rcases (hrunning.turn hJ hothers serviceNativeLog_triple move).2 with he | he | he
  · exact .inl (by rw [he])
  · exact .inl he.cursor
  · exact he

def sampleSnapshot : NativeLogSnapshot := ⟨1, 2, 3, 4, [3], [5], [1], 1, 1, 0, [65]⟩

def sampleLogWorld : LogWorld Unit where
  channel := sampleChannel.1
  service := ⟨true, 1000, sampleSnapshot, 1, 0, 0, .fill 0, 0, 0, false, false, true⟩
  counters := ⟨false, 0, 0, 0, 0, 0, 0, 0, 0, 0, 0⟩
  transport := ⟨false, 1, true, false⟩
  around := ⟨some 20, (.none, sampleSnapshot), true, false, ⟨.normalPump, true, true, 10⟩⟩
  observedOnce := false
  openAtCheck := false
  handed := []

theorem sampleLogWorld_initial : sampleLogWorld.Initial := ⟨rfl, rfl, rfl, fun h => h⟩

def NativePipeline.supplied (p : NativePipeline κ) : NativePipeline κ :=
  { p with
    ready := p.ready.set p.readyWrite ⟨p.readyWrite + 1, p.readyWrite, p.readyWrite % kNativeLedgerCapacity,
      kMarker.length, kMarker.map UInt8.toUInt16 ++ [0]⟩
    readyWrite := p.readyWrite + 1 }

/-- The startup receipt has come, two records more are ready and the clock has gone on. -/
def LogWorld.later (now : Nat) (w : LogWorld κ) : LogWorld κ :=
  { w with
    channel := { w.channel with pipeline := w.channel.pipeline.supplied.supplied }
    counters := { w.counters with generatedSequence := w.counters.generatedSequence + 2 }
    transport := { w.transport with startupObserved := true }
    around := { w.around with clock := some now, call := { w.around.call with now := now } }
    observedOnce := true }

theorem LogWorld.later_outside (now : Nat) (w : LogWorld κ) : LogOutside w (w.later now) where
  service := rfl
  counters := ⟨w.counters.generatedSequence + 2, Nat.le_add_right _ 2, rfl⟩
  history := ⟨rfl, rfl⟩
  revoked := id
  cursor := rfl
  observed := (Bool.or_true _).symm

theorem submission_order_sample : sampleLogWorld.Initial ∧
    (serviceNativeLog.rounds sampleLogWorld [LogWorld.later 300]).handed.map (·.sequence) = [0, 1, 2] ∧
      SubmissionOrder (serviceNativeLog.rounds sampleLogWorld [LogWorld.later 300]) := by
  refine ⟨sampleLogWorld_initial, by decide +kernel, ?_⟩
  generalize hw : sampleLogWorld = w
  have hlater : ∀ f ∈ [LogWorld.later 300], ∀ v : LogWorld Unit, LogOutside v (f v) := by
    intro f hf v
    rw [List.mem_singleton.mp hf]
    exact v.later_outside 300
  exact (submission_order (hw ▸ sampleLogWorld_initial) (Turns.rounds serviceNativeLog hlater w)).1

end RS2ServerFix.NativeLog
