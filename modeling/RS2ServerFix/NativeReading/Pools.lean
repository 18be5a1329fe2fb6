import RS2ServerFix.NativeReading.Owned

namespace RS2ServerFix.NativeReading

open Lib Image Act
open RS2ServerFix.LeechRecovery (RecoveryNativeResult)

structure SlotFits (slot : RecoveryTypedSlot) : Prop where
  references : -1 ≤ slot.references
  vector : VectorFits slot.vector

def slotExtents (slots : List RecoveryTypedSlot) : List RecoveryOwnedInterval :=
  slots.flatMap fun slot => vectorExtent slot.vector

def slotElements (slots : List RecoveryTypedSlot) : Nat := (slots.map fun slot => slot.vector.stringCount).sum

/-- The number is that of the first slot that is free, or the one that is no slot where none is. -/
def LeastFree (slots : List RecoveryTypedSlot) (firstFree : Nat) : Prop :=
  (∃ slot, slots[firstFree]? = some slot ∧ slot.references = -1 ∧
    ∀ k < firstFree, ∀ other, slots[k]? = some other → other.references ≠ -1) ∨
  firstFree = noSlot ∧ ∀ slot ∈ slots, slot.references ≠ -1

theorem LeastFree.append {slots : List RecoveryTypedSlot} {firstFree : Nat} (h : LeastFree slots firstFree)
    (hlength : slots.length < noSlot) (slot : RecoveryTypedSlot) :
    LeastFree (slots ++ [slot]) (if slot.references = -1 && firstFree = noSlot then slots.length else firstFree) := by
  rcases h with ⟨found, hfound, hfree, hleast⟩ | ⟨rfl, hnone⟩
  · have hlt : firstFree < slots.length := (List.getElem?_eq_some_iff.mp hfound).1
    have hno : ¬(slot.references = -1 && firstFree = noSlot) = true := by
      simp only [Bool.and_eq_true, decide_eq_true_eq]
      omega
    rw [if_neg hno]
    refine .inl ⟨found, ?_, hfree, fun k hk other hother => ?_⟩
    · rw [List.getElem?_append_left hlt, hfound]
    · rw [List.getElem?_append_left (by omega)] at hother
      exact hleast k hk other hother
  · by_cases hslot : slot.references = -1
    · rw [if_pos (by simp [hslot])]
      refine .inl ⟨slot, List.getElem?_concat_length, hslot, fun k hk other hother => ?_⟩
      rw [List.getElem?_append_left hk] at hother
      exact hnone other (List.mem_of_getElem? hother)
    · rw [if_neg (by simp [hslot])]
      refine .inr ⟨rfl, fun other hother => ?_⟩
      rcases List.mem_append.mp hother with hother | hother
      · exact hnone other hother
      · exact List.mem_singleton.mp hother ▸ hslot

variable (c : RecoveryNativeContext)

theorem noVector_fits : VectorFits noVector := ⟨by decide, by decide, by decide, by decide⟩

theorem slotVector_does (kind : RecoveryDescriptor) (payload : Nat) :
    Does (slotVector c kind payload) fun s v t => VectorFits v ∧ ∃ found, Grows s t (vectorExtent v) found v.stringCount := by
  intro s hs
  refine Exits.ite (fun _ => ?_) fun _ => ?_
  · refine Exits.mono (vector_does c _ s hs) (fun v t ht => ?_) fun _ _ => id
    obtain ⟨ht, hfits, found, -, hgrows⟩ := ht
    exact ⟨ht, hfits, found, hgrows⟩
  · exact ⟨hs, noVector_fits, [], Grows.ofSame (Same.refl s)⟩

theorem typedSlot_does (descriptor : Nat) (kind : RecoveryDescriptor) (i : Nat) :
    Does (typedSlot c descriptor kind i) fun s slot t => SlotFits slot ∧
      ∃ found, Grows s t (vectorExtent slot.vector) found slot.vector.stringCount := by
  intro s hs
  apply (need_looks (fieldBytes_looks c _ _ _)).runs
  intro bytes s₁ h₁ _
  apply (require_finds _).runs
  intro _ s₂ h₂ hreferences
  apply Exits.getBind
  have hsame := h₁.trans h₂
  apply (appendStrings_does c _ _).bind (hs.same hsame)
  rintro _ t ht ⟨found, -, hfound⟩
  apply (slotVector_does c kind _).bind ht
  rintro v u hu ⟨hfits, found', hfound'⟩
  exact ⟨hu, ⟨of_decide_eq_true hreferences, hfits⟩, found ++ found', by
    have hall := (hfound.afterSame hsame).trans hfound'
    rwa [List.nil_append, Nat.zero_add] at hall⟩

theorem slotsFrom_does (descriptor : Nat) (kind : RecoveryDescriptor) (count : Nat) {firstFree : Nat}
    {slots : List RecoveryTypedSlot} (hcount : slots.length + count ≤ kRecoveryTypedSlots)
    (hfree : LeastFree slots firstFree) (hfits : ∀ slot ∈ slots, SlotFits slot) :
    Does (slotsFrom c descriptor kind (List.range' slots.length count) firstFree slots) fun s r t =>
      (r.2.length = slots.length + count ∧ LeastFree r.2 r.1 ∧ ∀ slot ∈ r.2, SlotFits slot) ∧
      ∃ more found, r.2 = slots ++ more ∧ Grows s t (slotExtents more) found (slotElements more) := by
  induction count generalizing firstFree slots with
  | zero =>
      exact fun s hs => ⟨hs, ⟨rfl, hfree, hfits⟩, [], [], (List.append_nil slots).symm, Grows.ofSame (Same.refl s)⟩
  | succ count ih =>
      intro s hs
      rw [List.range'_succ, slotsFrom]
      have hroom : kRecoveryTypedSlots ≤ noSlot := by decide
      apply (index_looks (by omega)).runs
      intro _ s₁ h₁ _
      apply (typedSlot_does c descriptor kind _).bind (hs.same h₁)
      rintro slot t ht ⟨hslot, found, hfound⟩
      have hlength : (slots ++ [slot]).length = slots.length + 1 := List.length_append
      have hfits' : ∀ other ∈ slots ++ [slot], SlotFits other := by
        intro other hother
        rcases List.mem_append.mp hother with hother | hother
        · exact hfits other hother
        · exact List.mem_singleton.mp hother ▸ hslot
      have hrest := ih (by rw [hlength]; omega) (hfree.append (by omega) slot) hfits' t ht
      rw [hlength] at hrest
      refine Exits.mono hrest (fun r u hu => ?_) fun _ _ => id
      obtain ⟨hu, ⟨hr, hleast, hall⟩, more, found', hmore, hgrows⟩ := hu
      refine ⟨hu, ⟨by omega, hleast, hall⟩, slot :: more, found ++ found', ?_, ?_⟩
      · rw [hmore, List.append_assoc, List.singleton_append]
      · exact (hfound.afterSame h₁).trans hgrows

structure PoolFits (p : RecoveryTypedPool) : Prop where
  slots : p.slots.length = kRecoveryTypedSlots
  free : LeastFree p.slots p.firstFree
  fits : ∀ slot ∈ p.slots, SlotFits slot

def poolExtents (kind : RecoveryDescriptor) (p : RecoveryTypedPool) : List RecoveryOwnedInterval :=
  ⟨p.descriptor, p.descriptor + poolBytes kind⟩ :: slotExtents p.slots

theorem pool_does (descriptor type : Nat) (kind : RecoveryDescriptor) :
    Does (pool c descriptor type kind) fun s p t => (PoolFits p ∧ p.descriptor = descriptor ∧ descriptor ≠ 0) ∧
      ∃ found, Grows s t (poolExtents kind p) found (slotElements p.slots) := by
  intro s hs
  apply (require_finds _).runs
  intro _ s₁ h₁ hdescriptor
  apply (demand_looks (range_looks c _ _ _ _)).runs
  intro _ s₂ h₂ _
  have hsame := h₁.trans h₂
  have hbytes : poolBytes kind ≠ 0 := by cases kind <;> decide
  apply (demand_interval _ hbytes).bind (hs.same hsame)
  intro _ t ht hgrows
  have hempty : LeastFree [] noSlot := .inr ⟨rfl, fun slot hslot => absurd hslot List.not_mem_nil⟩
  have hslots := @slotsFrom_does c descriptor kind kRecoveryTypedSlots noSlot [] (by decide) hempty
    fun slot hslot => absurd hslot List.not_mem_nil
  rw [List.length_nil, ← List.range_eq_range'] at hslots
  apply hslots.bind ht
  rintro ⟨firstFree, slots⟩ u hu ⟨⟨hlength, hfree, hfits⟩, more, found, hmore, hmoreGrows⟩
  obtain rfl : slots = more := hmore
  simp only [Bool.and_eq_true, decide_eq_true_eq] at hdescriptor
  refine ⟨hu, ⟨⟨hlength.trans (Nat.zero_add _), hfree, hfits⟩, rfl, hdescriptor.1⟩, found, ?_⟩
  have hall := (hgrows.afterSame hsame).trans hmoreGrows
  rwa [List.nil_append, Nat.zero_add] at hall

def Kept (pools : Pools) : Prop :=
  ∀ kind, (pools.get kind).descriptor = 0 ∧ pools.get kind = noPool ∨
    (pools.get kind).descriptor ≠ 0 ∧ PoolFits (pools.get kind)

def takenExtents (pools : Pools) (kind : RecoveryDescriptor) : List RecoveryOwnedInterval :=
  if (pools.get kind).descriptor = 0 then [] else poolExtents kind (pools.get kind)

def poolsExtents (pools : Pools) : List RecoveryOwnedInterval :=
  takenExtents pools .finish ++ takenExtents pools .create ++ takenExtents pools .heartbeat

def poolsElements (pools : Pools) : Nat :=
  slotElements pools.finish.slots + slotElements pools.create.slots + slotElements pools.heartbeat.slots

theorem set_get (pools : Pools) (p : RecoveryTypedPool) (kind other : RecoveryDescriptor) :
    (pools.set p kind).get other = if other = kind then p else pools.get other := by
  cases kind <;> cases other <;> rfl

theorem Kept.set {pools : Pools} (h : Kept pools) {p : RecoveryTypedPool} (hp : p.descriptor ≠ 0) (hfits : PoolFits p)
    (kind : RecoveryDescriptor) : Kept (pools.set p kind) := by
  intro other
  rw [set_get]
  by_cases ho : other = kind
  · rw [if_pos ho]
    exact .inr ⟨hp, hfits⟩
  · rw [if_neg ho]
    exact h other

theorem poolsExtents_set {pools : Pools} {p : RecoveryTypedPool} {kind : RecoveryDescriptor} (hp : p.descriptor ≠ 0)
    (hnone : (pools.get kind).descriptor = 0) :
    (poolsExtents pools ++ poolExtents kind p).Perm (poolsExtents (pools.set p kind)) := by
  have htaken : ∀ other, takenExtents (pools.set p kind) other =
      if other = kind then poolExtents kind p else takenExtents pools other := by
    intro other
    by_cases ho : other = kind
    · subst ho
      rw [takenExtents, set_get, if_pos rfl, if_pos rfl, if_neg hp]
    · rw [takenExtents, set_get, if_neg ho, if_neg ho, takenExtents]
  have hempty : takenExtents pools kind = [] := if_pos hnone
  rw [poolsExtents, poolsExtents, htaken, htaken, htaken]
  cases kind with
  | finish =>
      simp only [hempty, List.nil_append, if_true, reduceCtorEq, if_false]
      rw [List.append_assoc (poolExtents _ _)]
      exact List.perm_append_comm
  | create =>
      simp only [hempty, List.append_nil, if_true, reduceCtorEq, if_false]
      rw [List.append_assoc, List.append_assoc]
      exact List.Perm.append_left _ List.perm_append_comm
  | heartbeat =>
      simp only [hempty, List.append_nil, if_true, reduceCtorEq, if_false]
      exact List.Perm.refl _

theorem poolsElements_set {pools : Pools} {p : RecoveryTypedPool} {kind : RecoveryDescriptor}
    (hnone : pools.get kind = noPool) : poolsElements pools + slotElements p.slots = poolsElements (pools.set p kind) := by
  have hzero : slotElements (pools.get kind).slots = 0 := by rw [hnone]; rfl
  cases kind with
  | finish =>
      change slotElements pools.finish.slots = 0 at hzero
      simp only [poolsElements, Pools.set, hzero]
      omega
  | create =>
      change slotElements pools.create.slots = 0 at hzero
      simp only [poolsElements, Pools.set, hzero]
      omega
  | heartbeat =>
      change slotElements pools.heartbeat.slots = 0 at hzero
      simp only [poolsElements, Pools.set, hzero]
      omega

/-- What the reading of pools adds is what they have more than before. -/
def Adds (pools : Pools) (s : Reader) (pools' : Pools) (t : Reader) : Prop :=
  Kept pools' ∧ ∃ more found elements, Grows s t more found elements ∧
    (poolsExtents pools ++ more).Perm (poolsExtents pools') ∧ poolsElements pools + elements = poolsElements pools'

theorem Adds.refl {pools : Pools} (h : Kept pools) {s t : Reader} (hst : Same s t) : Adds pools s pools t :=
  ⟨h, [], [], 0, Grows.ofSame hst, by rw [List.append_nil], rfl⟩

theorem Adds.trans {pools pools' pools'' : Pools} {s t u : Reader} (h : Adds pools s pools' t)
    (h' : Adds pools' t pools'' u) : Adds pools s pools'' u := by
  obtain ⟨-, more, found, elements, hgrows, hextents, helements⟩ := h
  obtain ⟨hkept, more', found', elements', hgrows', hextents', helements'⟩ := h'
  refine ⟨hkept, more ++ more', found ++ found', elements + elements', hgrows.trans hgrows', ?_, by omega⟩
  rw [← List.append_assoc]
  exact (hextents.append_right more').trans hextents'

theorem registeredAs_does (i entry table : Nat) (ks : List RecoveryDescriptor) {pools : Pools} (hkept : Kept pools) :
    Does (registeredAs c i entry table ks pools) (Adds pools) := by
  induction ks generalizing pools with
  | nil => exact fun s hs => ⟨hs, Adds.refl hkept (Same.refl s)⟩
  | cons kind rest ih =>
      intro s hs
      refine Exits.ite (fun _ => ?_) fun _ => ih hkept s hs
      apply (require_finds _).runs
      intro _ s₁ h₁ hnone
      apply (need_looks (fieldOf_looks c _ _ _)).runs
      intro type s₂ h₂ _
      apply (require_finds _).runs
      intro _ s₃ h₃ _
      have hsame := (h₁.trans h₂).trans h₃
      apply (pool_does c entry i kind).bind (hs.same hsame)
      rintro p t ht ⟨⟨hfits, hdescriptor, hne⟩, found, hgrows⟩
      have hp : p.descriptor ≠ 0 := hdescriptor ▸ hne
      have hempty := of_decide_eq_true hnone
      have hzero : pools.get kind = noPool := by
        rcases hkept kind with hk | hk
        · exact hk.2
        · exact absurd hempty hk.1
      have hkept' := hkept.set hp hfits kind
      have hadds : Adds pools s (pools.set p kind) t :=
        ⟨hkept', _, found, _, hgrows.afterSame hsame, poolsExtents_set hp hempty, poolsElements_set hzero⟩
      exact Exits.mono (ih hkept' t ht) (fun _ u hu => ⟨hu.1, hadds.trans hu.2⟩) fun _ _ => id

theorem registered_does {registry : List Nat} (hregistry : registry.length = 256) {indices : List Nat}
    (hindices : ∀ i ∈ indices, i < 256) {pools : Pools} (hkept : Kept pools) :
    Does (registered c registry indices pools) (Adds pools) := by
  induction indices generalizing pools with
  | nil => exact fun s hs => ⟨hs, Adds.refl hkept (Same.refl s)⟩
  | cons i rest ih =>
      intro s hs
      have hrest := fun j hj => hindices j (List.mem_cons_of_mem i hj)
      apply (cell_finds (hregistry ▸ hindices i List.mem_cons_self)).runs
      intro entry s₁ h₁ _
      refine Exits.ite (fun _ => ?_) fun _ => ?_
      · refine Exits.mono (ih hrest hkept s₁ (hs.same h₁)) (fun _ u hu => ⟨hu.1, ?_⟩) fun _ _ => id
        exact (Adds.refl hkept h₁).trans hu.2
      · apply (need_looks (fieldOf_looks c _ _ _)).runs
        intro table s₂ h₂ _
        have hsame := h₁.trans h₂
        apply (registeredAs_does c i entry table kinds hkept).bind (hs.same hsame)
        intro pools' t ht hadds
        have hfirst := (Adds.refl hkept hsame).trans hadds
        exact Exits.mono (ih hrest hadds.1 t ht) (fun _ u hu => ⟨hu.1, hfirst.trans hu.2⟩) fun _ _ => id

end RS2ServerFix.NativeReading
