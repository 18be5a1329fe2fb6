import RS2ServerFix.NativeReading.Steps

namespace RS2ServerFix.NativeReading

open Lib Image Act
open RS2ServerFix.Task (field signedField)
open RS2ServerFix.LeechRecovery (RecoveryNativeResult)

theorem add_eq_some {base size stop : Nat} (hsize : size ≠ 0) (h : add base size = some stop) :
    base ≠ 0 ∧ base + size ≤ uint64Max ∧ stop = base + size := by
  unfold add at h
  split at h
  · cases h
  · rename_i hno
    obtain ⟨hbase, hle⟩ := not_or.mp hno
    exact ⟨hbase, by omega, (Option.some.inj h).symm⟩

theorem recordInterval_sound {s : Reader} {a : RecoveryOwnedInterval} (hs : Sound s) (ha : Proper a)
    (hroom : s.intervals.length < kRecoveryOwnedIntervals) (hapart : ∀ b ∈ s.intervals, Apart b a) :
    Sound (recordInterval a s) where
  apart := List.pairwise_append.mpr ⟨hs.apart, List.pairwise_singleton _ _, fun b hb a' ha' =>
    List.mem_singleton.mp ha' ▸ hapart b hb⟩
  proper := by
    intro b hb
    rcases List.mem_append.mp hb with hb | hb
    · exact hs.proper b hb
    · exact List.mem_singleton.mp hb ▸ ha
  intervals := by
    rw [recordInterval, List.length_append, List.length_singleton]
    exact hroom
  fits := hs.fits
  strings := hs.strings
  total := hs.total

/-- The intervals overlap where each starts before the other stops. -/
theorem interval_does (start : Nat) {bytes : Nat} (hbytes : bytes ≠ 0) :
    Does (interval start bytes) fun s found t => found = true → Grows s t [⟨start, start + bytes⟩] [] 0 := by
  intro s hs
  have hfalse : Runs (Pure.pure false : Reading Bool)
      (fun found t => Sound t ∧ (found = true → Grows s t [⟨start, start + bytes⟩] [] 0)) s :=
    ⟨hs, fun h => by cases h⟩
  rw [interval, if_neg hbytes]
  cases hadd : add start bytes with
  | none => exact hfalse
  | some stop =>
      obtain ⟨hstart, haddresses, rfl⟩ := add_eq_some hbytes hadd
      refine Exits.getBind (Exits.ite (fun _ => hfalse) fun hroom => Exits.ite (fun _ => hfalse) fun hover => ?_)
      have hlt : s.intervals.length < kRecoveryOwnedIntervals := lt_of_le_of_ne hs.intervals hroom
      apply (index_looks hlt).runs
      intro _ t hst _
      apply Exits.modifyBind
      have hproper : Proper ⟨start, start + bytes⟩ := ⟨hstart, Nat.lt_add_of_pos_right (Nat.pos_of_ne_zero hbytes), haddresses⟩
      have hapart : ∀ b ∈ t.intervals, Apart b ⟨start, start + bytes⟩ := by
        intro b hb
        rw [hst.intervals] at hb
        by_contra hno
        obtain ⟨hbefore, hafter⟩ := not_or.mp hno
        refine hover (List.any_eq_true.mpr ⟨b, hb, ?_⟩)
        simp only [Bool.and_eq_true, decide_eq_true_eq]
        exact ⟨not_le.mp hbefore, not_le.mp hafter⟩
      refine ⟨recordInterval_sound (hs.same hst) hproper (hst.intervals ▸ hlt) hapart, fun _ => ?_⟩
      refine Grows.afterSame hst ⟨(List.append_nil _).symm, ?_, rfl⟩
      rw [List.flatMap_nil, List.append_nil]
      exact List.Perm.refl _

theorem demand_interval {refusal : Refusal} (start : Nat) {bytes : Nat} (hbytes : bytes ≠ 0) :
    Does (demand refusal (interval start bytes)) fun s _ t => Grows s t [⟨start, start + bytes⟩] [] 0 := by
  intro s hs
  apply (interval_does start hbytes).bind hs
  intro found t ht hgrows
  refine Exits.mono (require_finds found t) (fun _ u hu => ?_) fun _ _ => id
  exact ⟨ht.same hu.1, (hgrows hu.2).beforeSame hu.1⟩

variable (c : RecoveryNativeContext)

theorem stringData_does (object capacity size : Nat) (header : List UInt8) :
    Does (stringData c object capacity size header) fun s data t =>
      Grows s t (stringExtent ⟨object, data, size, capacity, header⟩) [] 0 := by
  intro s hs
  refine Exits.ite (fun hshort => ?_) fun hlong => ?_
  · simp only [stringExtent, hshort, if_true]
    refine Exits.ite (fun _ => fun h => Stop.noConfusion h) fun _ => ⟨hs, Grows.ofSame (Same.refl s)⟩
  · simp only [stringExtent, hlong, if_false]
    apply (require_finds _).runs
    intro _ t hst _
    apply (demand_looks (range_looks c _ _ _ _)).runs
    intro _ u htu _
    apply (demand_interval _ (Nat.succ_ne_zero capacity)).bind ((hs.same hst).same htu)
    intro _ v hv hgrows
    exact ⟨hv, hgrows.afterSame (hst.trans htu)⟩

theorem string_does (object : Nat) :
    Does (string c object) fun s a t => Grows s t (stringExtent a) [] 0 ∧ StringFits a := by
  intro s hs
  apply (require_finds _).runs
  intro _ s₁ h₁ _
  apply (need_looks (read_finds c _ _).looks).runs
  intro header s₂ h₂ _
  apply (require_finds _).runs
  intro _ s₃ h₃ hsize
  apply (require_finds _).runs
  intro _ s₄ h₄ hcapacity
  have hsame := ((h₁.trans h₂).trans h₃).trans h₄
  apply (stringData_does c _ _ _ _).bind (hs.same hsame)
  intro data t ht hgrows
  apply (need_looks (fieldOf_looks c _ _ _)).runs
  intro nul t₁ ht₁ _
  apply (require_finds _).runs
  intro _ t₂ ht₂ _
  have hlast := ht₁.trans ht₂
  exact ⟨ht.same hlast, (hgrows.afterSame hsame).beforeSame hlast, ⟨of_decide_eq_true hsize, of_decide_eq_true hcapacity⟩⟩

theorem recordString_sound {s : Reader} {a : RecoveryNativeString} (hs : Sound s) (ha : StringFits a)
    (hroom : s.strings.length < kRecoveryStringWitnesses) : Sound (recordString a s) where
  apart := hs.apart
  proper := hs.proper
  intervals := hs.intervals
  fits := by
    intro b hb
    rcases List.mem_append.mp hb with hb | hb
    · exact hs.fits b hb
    · exact List.mem_singleton.mp hb ▸ ha
  strings := by
    rw [recordString, List.length_append, List.length_singleton]
    exact hroom
  total := hs.total

theorem Grows.recordString {s t : Reader} {a : RecoveryNativeString} (h : Grows s t (stringExtent a) [] 0) :
    Grows s (recordString a t) [] [a] 0 where
  strings := by rw [NativeReading.recordString, h.strings, List.append_nil]
  intervals := by simpa [NativeReading.recordString] using h.intervals
  total := h.total

theorem appendString_does (object : Nat) :
    Does (appendString c object) fun s _ t => ∃ a, Grows s t [] [a] 0 := by
  intro s hs
  apply Exits.getBind
  apply (require_finds _).runs
  intro _ t hst hroom
  have hlt : s.strings.length < kRecoveryStringWitnesses := lt_of_le_of_ne hs.strings (of_decide_eq_true hroom)
  apply (index_looks hlt).runs
  intro _ u htu _
  have hsame := hst.trans htu
  apply (string_does c object).bind (hs.same hsame)
  intro a v hv hgrows
  have hroom' : v.strings.length < kRecoveryStringWitnesses := by
    rw [hgrows.1.strings, List.append_nil, hsame.strings]
    exact hlt
  exact ⟨recordString_sound hv hgrows.2 hroom', a, (hgrows.1.afterSame hsame).recordString⟩

theorem appendStrings_does {α : Type} (place : α → Nat) (places : List α) :
    Does (Act.each (fun i => appendString c (place i)) places) fun s _ t =>
      ∃ found, found.length = places.length ∧ Grows s t [] found 0 := by
  induction places with
  | nil => exact fun s hs => ⟨hs, [], rfl, Grows.ofSame (Same.refl s)⟩
  | cons i rest ih =>
      intro s hs
      apply (appendString_does c (place i)).bind hs
      rintro _ t ht ⟨a, ha⟩
      refine Exits.mono (ih t ht) (fun _ u hu => ?_) fun _ _ => id
      obtain ⟨hu, found, hlength, hgrows⟩ := hu
      exact ⟨hu, a :: found, congrArg Nat.succ hlength, ha.trans hgrows⟩

theorem vectorPasses_iff {start stop capacity : Nat} : vectorPasses start stop capacity = true ↔
    ((((start % 16 = 0 ∧ start ≤ stop) ∧ stop ≤ capacity) ∧ (stop - start) % 32 = 0) ∧ (capacity - start) % 32 = 0) := by
  simp only [vectorPasses, Bool.and_eq_true, decide_eq_true_eq]

theorem addElements_sound {s : Reader} {elements : Nat} (hs : Sound s)
    (hroom : s.totalVectorElements + elements ≤ kRecoveryAllVectorElements) : Sound (addElements elements s) :=
  ⟨hs.apart, hs.proper, hs.intervals, hs.fits, hs.strings, hroom⟩

theorem vector_does (object : Nat) :
    Does (vector c object) fun s v t => VectorFits v ∧
      ∃ found, found.length = v.stringCount ∧ Grows s t (vectorExtent v) found v.stringCount := by
  intro s hs
  apply (need_looks (read_finds c _ _).looks).runs
  intro fields s₁ h₁ _
  apply Exits.getBind
  refine Exits.ite (fun hnone => ?_) fun hsome => ?_
  · apply (require_finds _).runs
    intro _ s₂ h₂ hzero
    simp only [Bool.and_eq_true, decide_eq_true_eq] at hzero
    have hsame := h₁.trans h₂
    refine ⟨hs.same hsame, ⟨Nat.zero_le _, ?_, ?_, ?_⟩, [], rfl, ?_⟩
    · rw [hzero.2, Nat.zero_sub]
      exact Nat.zero_le _
    · show field fields 0 8 + 32 * 0 = field fields 8 8
      omega
    · rw [hzero.1]
      exact Nat.zero_le _
    · rw [vectorExtent, if_pos hnone]
      exact Grows.ofSame hsame
  · apply (require_finds _).runs
    intro _ s₂ h₂ hpasses
    obtain ⟨⟨⟨⟨-, hstart⟩, hstop⟩, hused⟩, hcapacity⟩ := vectorPasses_iff.mp hpasses
    apply (require_finds _).runs
    intro _ s₃ h₃ hbudget
    simp only [Bool.and_eq_true, decide_eq_true_eq] at hbudget
    obtain ⟨⟨helements, hroom⟩, htotal⟩ := hbudget
    apply (require_finds _).runs
    intro _ s₄ h₄ hnonempty
    apply (demand_looks (range_looks c _ _ _ _)).runs
    intro _ s₅ h₅ _
    have hsame := (((h₁.trans h₂).trans h₃).trans h₄).trans h₅
    have hbytes : (field fields 16 8 - field fields 0 8) / 32 * 32 ≠ 0 :=
      Nat.mul_ne_zero (of_decide_eq_true hnonempty) (by decide)
    apply (demand_interval _ hbytes).bind (hs.same hsame)
    intro _ t ht hgrows
    apply Exits.modifyBind
    obtain ⟨room, hroomed⟩ := Nat.dvd_of_mod_eq_zero hcapacity
    obtain ⟨elements, hfilled⟩ := Nat.dvd_of_mod_eq_zero hused
    have hr : (field fields 16 8 - field fields 0 8) / 32 = room := by omega
    have he : (field fields 8 8 - field fields 0 8) / 32 = elements := by omega
    simp only [hr, he] at hgrows helements hroom htotal ⊢
    have hend : field fields 0 8 + room * 32 = field fields 16 8 := by omega
    have hgrown : Grows s (addElements elements t) [⟨field fields 0 8, field fields 16 8⟩] [] elements := by
      have hall := hgrows.afterSame hsame
      rw [hend] at hall
      exact ⟨hall.strings, hall.intervals, congrArg (· + elements) hall.total⟩
    have hsound : Sound (addElements elements t) := by
      apply addElements_sound ht
      have hlimits : kRecoveryVectorElements ≤ kRecoveryAllVectorElements := by decide
      rw [(hgrows.afterSame hsame).total, ← h₁.total]
      omega
    apply (appendStrings_does c _ _).bind hsound
    rintro _ u hu ⟨found, hlength, hfound⟩
    refine ⟨hu, ⟨helements, ?_, ?_, hstop⟩, found, hlength.trans List.length_range, ?_⟩
    · show field fields 16 8 - field fields 0 8 ≤ 32 * kRecoveryVectorCapacity
      omega
    · show field fields 0 8 + 32 * elements = field fields 8 8
      omega
    · have hall := hgrown.trans hfound
      rw [vectorExtent, if_neg hsome]
      exact hall

theorem publicIpOwned_does (ip : RecoveryPublicIp) :
    Does (publicIpOwned c ip.data ip.capacity) fun s _ t => Grows s t (publicIpExtent ip) [] 0 := by
  intro s hs
  refine Exits.ite (fun hnone => ?_) fun hsome => ?_
  · rw [publicIpExtent, if_pos hnone]
    exact ⟨hs, Grows.ofSame (Same.refl s)⟩
  · apply (require_finds _).runs
    intro _ t hst hshape
    simp only [Bool.and_eq_true, decide_eq_true_eq] at hshape
    apply (demand_looks (range_looks c _ _ _ _)).runs
    intro _ u htu _
    have hbytes : 2 * ip.capacity ≠ 0 := Nat.mul_ne_zero (by decide) hshape.2
    refine Exits.mono (demand_interval _ hbytes u ((hs.same hst).same htu)) (fun _ v hv => ⟨hv.1, ?_⟩) fun _ _ => id
    rw [publicIpExtent, if_neg hsome]
    exact hv.2.afterSame (hst.trans htu)

theorem publicIpChars_looks (data : Nat) {count : Nat} (hcount : count ≤ kRecoveryCacheChars) :
    Looks (publicIpChars c data count) := by
  refine Finds.ite (fun _ => Looks.pure []) fun hpos => ?_
  refine Looks.bind (need_looks (readInto_finds c data (Nat.mul_le_mul_left 2 hcount)).looks) fun bytes => ?_
  refine Looks.bind (index_looks (by omega)) fun _ => ?_
  have hlength : (narrow bytes count).length = count := by rw [narrow, List.length_map, List.length_range]
  refine Finds.bind (cell_finds (by omega)) fun last _ => ?_
  exact Looks.bind (require_finds _).looks fun _ => Looks.pure _

theorem fString_does (root : Nat) :
    Does (fString c root) fun s ip t => ip.capacity ≤ kRecoveryCacheChars ∧ ip.count ≤ ip.capacity ∧
      Grows s t (publicIpExtent ip) [] 0 := by
  intro s hs
  apply (need_looks (global_finds c _ _).looks).runs
  intro value s₁ h₁ _
  apply (require_finds _).runs
  intro _ s₂ h₂ hshape
  simp only [Bool.and_eq_true, decide_eq_true_eq] at hshape
  apply (require_finds _).runs
  intro _ s₃ h₃ hbudget
  have hsame := (h₁.trans h₂).trans h₃
  have hcapacity := of_decide_eq_true hbudget
  have hcount : (signedField value 8 4).toNat ≤ (signedField value 12 4).toNat := Int.toNat_le_toNat hshape.1.2
  apply (publicIpOwned_does c ⟨field value 0 8, (signedField value 8 4).toNat, (signedField value 12 4).toNat, []⟩).bind
    (hs.same hsame)
  intro _ t ht hgrows
  apply (publicIpChars_looks c _ (hcount.trans hcapacity)).runs
  intro chars u htu _
  exact ⟨ht.same htu, hcapacity, hcount, (hgrows.afterSame hsame).beforeSame htu⟩

end RS2ServerFix.NativeReading
