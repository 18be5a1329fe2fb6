import RS2ServerFix.LeechRecovery.Recipes

namespace RS2ServerFix.LeechRecovery.Attribution

open Lib

/-- A task of the generic pool as the snapshot holds it. The comparison of the
source is of all its bytes, so what lies between the fields is one of them. -/
structure RecoveryGenericTask where
  state : UInt32
  id : UInt32
  holder : UInt32
  component : UInt64
  builder : UInt64
  success : UInt64
  error : UInt64
  anchor : UInt64
  interval : UInt64
  errors : Int32
  throttles : Int32
  expedite : UInt8
  raw : Vector UInt8 0x78
  padding : Vector UInt8 11
  deriving DecidableEq

def kRecoveryGenericSlots : Nat := 128

structure CreatePool where
  generic : Vector RecoveryGenericTask kRecoveryGenericSlots
  issuedId : UInt32
  componentName : UInt64
  createType : UInt16

/-- What was kept of the snapshot before the call, with the two callbacks: the
caller's own and the guard in its place. -/
structure BeforeCreate where
  beforeCreate : Vector RecoveryGenericTask kRecoveryGenericSlots
  beforeCreateIssued : UInt32
  beforeCreateRequestSlot : UInt32
  createSuccess : UInt64
  guard : UInt64

structure Created where
  createSlot : Nat
  createId : UInt32
  createHolder : UInt32
  deriving DecidableEq, Repr

variable (r : BeforeCreate) (n : CreatePool)

def isNew (i : Fin kRecoveryGenericSlots) : Bool :=
  n.generic[i].state = 2 && n.generic[i].id = n.issuedId && r.beforeCreate[i].state = 0

def lookAt (seen : Nat × Nat) (i : Fin kRecoveryGenericSlots) : Option (Nat × Nat) :=
  if isNew r n i then some (seen.1 + 1, i)
  else if n.generic[i] ≠ r.beforeCreate[i] then none
  else some seen

def expectedSuccess (installed : Bool) : UInt64 := if installed then r.guard else r.createSuccess

def createFound (installed : Bool) : Option (Nat × UInt32 × UInt32) :=
  if r.beforeCreateIssued = 0xffffffff ∨ n.issuedId ≠ r.beforeCreateIssued + 1 then none
  else
    match (List.finRange kRecoveryGenericSlots).foldlM (lookAt r n) (0, 0) with
    | none => none
    | some (found, slot) =>
        if found ≠ 1 then none
        else
          let task := n.generic[slot]?
          match task with
          | none => none
          | some task =>
              if task.component ≠ n.componentName ∨ task.error ≠ 0 ∨ task.interval ≠ 0 ∨
                  task.holder >>> 16 ≠ n.createType.toUInt32 ∨
                  task.holder &&& 0xffff ≠ r.beforeCreateRequestSlot ∨ task.success ≠ expectedSuccess r installed then
                none
              else some (slot, task.id, task.holder)

def changedOnlyCreate (installed : Bool) (c : Created) : Bool × Created :=
  match createFound r n installed with
  | none => (false, c)
  | some (slot, id, holder) =>
      if installed ∧ (slot ≠ c.createSlot ∨ id ≠ c.createId ∨ holder ≠ c.createHolder) then (false, c)
      else (true, ⟨slot, id, holder⟩)

/-- The slot holds the task of the call, and no other slot has changed. -/
structure Attributed (success : UInt64) (i : Fin kRecoveryGenericSlots) : Prop where
  free : r.beforeCreate[i].state = 0
  queued : n.generic[i].state = 2
  id : n.generic[i].id = n.issuedId
  component : n.generic[i].component = n.componentName
  holderType : n.generic[i].holder >>> 16 = n.createType.toUInt32
  requestSlot : n.generic[i].holder &&& 0xffff = r.beforeCreateRequestSlot
  success : n.generic[i].success = success
  error : n.generic[i].error = 0
  interval : n.generic[i].interval = 0
  others : ∀ j, j ≠ i → n.generic[j] = r.beforeCreate[j]

def createdAt (i : Fin kRecoveryGenericSlots) : Created := ⟨i, n.generic[i].id, n.generic[i].holder⟩

variable {r n}

theorem isNew_iff {i : Fin kRecoveryGenericSlots} : isNew r n i = true ↔
    (n.generic[i].state = 2 ∧ n.generic[i].id = n.issuedId) ∧ r.beforeCreate[i].state = 0 := by
  simp [isNew]

/-- The loop over some of the slots: all but the new ones are as before, and the
last new one is kept. -/
theorem foldlM_lookAt (is : List (Fin kRecoveryGenericSlots)) (seen : Nat × Nat) {out : Nat × Nat} :
    is.foldlM (lookAt r n) seen = some out ↔
      (∀ i ∈ is, isNew r n i = false → n.generic[i] = r.beforeCreate[i]) ∧
        out = (seen.1 + (is.filter (isNew r n)).length,
          ((is.filter (isNew r n)).map Fin.val).getLastD seen.2) := by
  induction is generalizing seen with
  | nil =>
      constructor
      · intro h
        injection h with h
        exact ⟨fun i hi => absurd hi List.not_mem_nil, h.symm⟩
      · rintro ⟨-, rfl⟩
        rfl
  | cons i is ih =>
      rw [List.foldlM_cons, List.forall_mem_cons]
      cases hnew : isNew r n i
      · by_cases hsame : n.generic[i] = r.beforeCreate[i]
        · rw [lookAt, if_neg (by simp [hnew]), if_neg (by simp [hsame])]
          simp only [Option.bind_eq_bind, Option.bind_some, ih, List.filter_cons, hnew, Bool.false_eq_true, if_false,
            hsame, forall_const, true_and]
        · rw [lookAt, if_neg (by simp [hnew]), if_pos hsame]
          constructor
          · intro h
            cases h
          · rintro ⟨⟨hi, -⟩, -⟩
            exact absurd (hi rfl) hsame
      · rw [lookAt, if_pos hnew]
        have hcount : ∀ k, seen.1 + 1 + k = seen.1 + (k + 1) := fun k => by omega
        simp only [Option.bind_eq_bind, Option.bind_some, ih, List.filter_cons, hnew, if_true, Bool.true_eq_false,
          false_implies, true_and, List.length_cons, List.map_cons, List.getLastD_cons, hcount]

theorem foldlM_lookAt_one {slot : Nat} :
    (List.finRange kRecoveryGenericSlots).foldlM (lookAt r n) (0, 0) = some (1, slot) ↔
      ∃ i : Fin kRecoveryGenericSlots, slot = i ∧ isNew r n i = true ∧
        ∀ j, j ≠ i → n.generic[j] = r.beforeCreate[j] := by
  rw [foldlM_lookAt]
  constructor
  · rintro ⟨hsame, hout⟩
    obtain ⟨hcount, hslot⟩ := Prod.mk.inj hout
    obtain ⟨i, hi⟩ := List.length_eq_one_iff.mp (by omega : ((List.finRange kRecoveryGenericSlots).filter (isNew r n)).length = 1)
    have hmem : ∀ j, isNew r n j = true ↔ j = i := by
      intro j
      have hj : j ∈ (List.finRange kRecoveryGenericSlots).filter (isNew r n) ↔ j ∈ [i] := by rw [hi]
      simpa using hj
    refine ⟨i, ?_, (hmem i).mpr rfl, fun j hj => hsame j (List.mem_finRange j) ?_⟩
    · rw [hslot, hi]
      rfl
    · exact Bool.eq_false_iff.mpr fun h => hj ((hmem j).mp h)
  · rintro ⟨i, rfl, hnew, hothers⟩
    have hnot : ∀ j, j ≠ i → isNew r n j = false := by
      intro j hj
      refine Bool.eq_false_iff.mpr fun h => ?_
      obtain ⟨⟨hqueued, -⟩, hfree⟩ := isNew_iff.mp h
      rw [hothers j hj, hfree] at hqueued
      exact absurd hqueued (by decide)
    have hfilter : (List.finRange kRecoveryGenericSlots).filter (isNew r n) = [i] := by
      have hpred : isNew r n = fun j => j == i := by
        funext j
        by_cases hj : j = i
        · subst hj
          rw [hnew, beq_self_eq_true]
        · rw [hnot j hj, beq_false_of_ne hj]
      rw [hpred, List.filter_beq, List.Nodup.count (List.nodup_finRange _), if_pos (List.mem_finRange i)]
      rfl
    refine ⟨fun j _ hj => hothers j ?_, ?_⟩
    · rintro rfl
      rw [hnew] at hj
      cases hj
    · rw [hfilter]
      rfl

theorem advanced_iff {before issued : UInt32} :
    ¬(before = 0xffffffff ∨ issued ≠ before + 1) ↔ issued.toNat = before.toNat + 1 := by
  have hsize : UInt32.size = 4294967296 := rfl
  have hlt := before.toNat_lt
  have hmax : before = 0xffffffff ↔ before.toNat = 4294967295 := UInt32.toNat_inj.symm
  have hnext : issued = before + 1 ↔ issued.toNat = (before.toNat + 1) % 4294967296 := by
    rw [← UInt32.toNat_inj, UInt32.toNat_add]
    rfl
  rw [not_or, not_not, hmax, hnext]
  have hbound := issued.toNat_lt
  omega

/-- No two slots are attributed to one call. -/
theorem Attributed.unique {success success' : UInt64} {i j : Fin kRecoveryGenericSlots}
    (h : Attributed r n success i) (h' : Attributed r n success' j) : i = j := by
  by_contra hne
  have hqueued := h.queued
  rw [h'.others i hne, h.free] at hqueued
  exact absurd hqueued (by decide)

theorem createFound_iff {installed : Bool} {x : Nat × UInt32 × UInt32} : createFound r n installed = some x ↔
    n.issuedId.toNat = r.beforeCreateIssued.toNat + 1 ∧ ∃ i, Attributed r n (expectedSuccess r installed) i ∧
      x = (i.val, n.generic[i].id, n.generic[i].holder) := by
  unfold createFound
  by_cases hadvanced : r.beforeCreateIssued = 0xffffffff ∨ n.issuedId ≠ r.beforeCreateIssued + 1
  · rw [if_pos hadvanced]
    constructor
    · intro h
      cases h
    · rintro ⟨hnext, -⟩
      exact absurd hadvanced (advanced_iff.mpr hnext)
  rw [if_neg hadvanced]
  have hnext := advanced_iff.mp hadvanced
  constructor
  · intro h
    cases hloop : (List.finRange kRecoveryGenericSlots).foldlM (lookAt r n) (0, 0) with
    | none =>
        rw [hloop] at h
        cases h
    | some out =>
        obtain ⟨found, slot⟩ := out
        rw [hloop] at h
        dsimp only at h
        by_cases hone : found = 1
        · subst hone
          obtain ⟨i, rfl, hnew, hothers⟩ := foldlM_lookAt_one.mp hloop
          obtain ⟨⟨hqueued, hid⟩, hfree⟩ := isNew_iff.mp hnew
          rw [if_neg (by simp), Vector.getElem?_eq_getElem i.isLt] at h
          dsimp only at h
          split at h
          · cases h
          · next hchecked =>
            simp only [not_or, not_not] at hchecked
            obtain ⟨hcomponent, herror, hinterval, htype, hslot, hsuccess⟩ := hchecked
            injection h with h
            exact ⟨hnext, i, ⟨hfree, hqueued, hid, hcomponent, htype, hslot, hsuccess, herror, hinterval, hothers⟩,
              h.symm⟩
        · rw [if_pos hone] at h
          cases h
  · rintro ⟨-, i, hi, rfl⟩
    have hnew : isNew r n i = true := isNew_iff.mpr ⟨⟨hi.queued, hi.id⟩, hi.free⟩
    rw [foldlM_lookAt_one.mpr ⟨i, rfl, hnew, hi.others⟩]
    dsimp only
    rw [if_neg (by simp), Vector.getElem?_eq_getElem i.isLt]
    dsimp only
    refine if_neg ?_
    simp only [not_or, not_not]
    exact ⟨hi.component, hi.error, hi.interval, hi.holderType, hi.requestSlot, hi.success⟩

theorem changedOnlyCreate_of_none {installed : Bool} {c : Created} (h : createFound r n installed = none) :
    changedOnlyCreate r n installed c = (false, c) := by
  rw [changedOnlyCreate, h]

theorem changedOnlyCreate_of_found {installed : Bool} {c : Created} {i : Fin kRecoveryGenericSlots}
    (h : createFound r n installed = some (i.val, n.generic[i].id, n.generic[i].holder)) :
    changedOnlyCreate r n installed c =
      if installed = true ∧ c ≠ createdAt n i then (false, c) else (true, createdAt n i) := by
  rw [changedOnlyCreate, h]
  refine if_congr (and_congr Iff.rfl ?_) rfl rfl
  obtain ⟨slot, id, holder⟩ := c
  simp only [createdAt, ne_eq, Created.mk.injEq]
  tauto

/-- What the check comes to: when it accepts, and what it leaves recorded. -/
structure CreateAttribution (r : BeforeCreate) (n : CreatePool) (installed : Bool) (c : Created) : Prop where
  accepts : (changedOnlyCreate r n installed c).1 = true ↔ n.issuedId.toNat = r.beforeCreateIssued.toNat + 1 ∧
    ∃! i, Attributed r n (expectedSuccess r installed) i ∧ (installed = true → c = createdAt n i)
  records : (changedOnlyCreate r n installed c).1 = true →
    ∃ i, Attributed r n (expectedSuccess r installed) i ∧ (changedOnlyCreate r n installed c).2 = createdAt n i
  refuses : (changedOnlyCreate r n installed c).1 = false → (changedOnlyCreate r n installed c).2 = c
  /-- The second check never changes what the first has recorded. -/
  keeps : installed = true → (changedOnlyCreate r n installed c).2 = c

theorem create_attribution (r : BeforeCreate) (n : CreatePool) (installed : Bool) (c : Created) :
    CreateAttribution r n installed c := by
  cases hfound : createFound r n installed with
  | none =>
      have hnone : changedOnlyCreate r n installed c = (false, c) := changedOnlyCreate_of_none hfound
      constructor
      · rw [hnone]
        constructor
        · intro h
          cases h
        · rintro ⟨hnext, i, ⟨hi, -⟩, -⟩
          have hsome := createFound_iff.mpr ⟨hnext, i, hi, rfl⟩
          rw [hfound] at hsome
          cases hsome
      · rw [hnone]
        intro h
        cases h
      · intro
        rw [hnone]
      · intro
        rw [hnone]
  | some x =>
      obtain ⟨hnext, i, hi, rfl⟩ := createFound_iff.mp hfound
      have hsome := changedOnlyCreate_of_found (c := c) hfound
      by_cases hother : installed = true ∧ c ≠ createdAt n i
      · rw [if_pos hother] at hsome
        constructor
        · rw [hsome]
          constructor
          · intro h
            cases h
          · rintro ⟨-, j, ⟨hj, hc⟩, -⟩
            obtain rfl := hi.unique hj
            exact absurd (hc hother.1) hother.2
        · rw [hsome]
          intro h
          cases h
        · intro
          rw [hsome]
        · intro
          rw [hsome]
      · rw [if_neg hother] at hsome
        have hsame : installed = true → c = createdAt n i := fun h => by_contra fun hc => hother ⟨h, hc⟩
        constructor
        · rw [hsome]
          exact ⟨fun _ => ⟨hnext, i, ⟨hi, hsame⟩, fun j hj => hj.1.unique hi⟩, fun _ => rfl⟩
        · intro
          exact ⟨i, hi, by rw [hsome]⟩
        · rw [hsome]
          intro h
          cases h
        · intro h
          rw [hsome]
          exact (hsame h).symm

def created (s : Recovery) : Created := ⟨s.createSlot, s.createId, s.createHolder⟩

def withCreated (s : Recovery) (c : Created) : Recovery :=
  { s with createSlot := c.createSlot, createId := c.createId, createHolder := c.createHolder }

/-- The owner's program is the check on what the attempt has recorded. -/
theorem changedOnlyCreate_yields (installed : Bool) (s : Recovery) :
    Yields (LeechRecovery.changedOnlyCreate installed s)
      [⟨Question.changedOnlyCreate installed, createFound r n installed⟩]
      (.ok (changedOnlyCreate r n installed (created s)).1,
        withCreated s (changedOnlyCreate r n installed (created s)).2) := by
  refine Yields.ask (A := Answer) (q := Question.changedOnlyCreate installed) (createFound r n installed) ?_
  cases hfound : createFound r n installed with
  | none =>
      rw [changedOnlyCreate_of_none hfound]
      exact .done _
  | some x =>
      obtain ⟨slot, id, holder⟩ := x
      by_cases hother : installed = true ∧ (slot ≠ s.createSlot ∨ id ≠ s.createId ∨ holder ≠ s.createHolder)
      · have hkept : changedOnlyCreate r n installed (created s) = (false, created s) := by
          rw [changedOnlyCreate, hfound]
          exact if_pos hother
        rw [hkept]
        dsimp only [Act.bind_def, Act.get, Act.bind, Ask.bind]
        rw [if_pos hother]
        exact .done _
      · have hrecorded : changedOnlyCreate r n installed (created s) = (true, ⟨slot, id, holder⟩) := by
          rw [changedOnlyCreate, hfound]
          exact if_neg hother
        rw [hrecorded]
        dsimp only [Act.bind_def, Act.get, Act.bind, Ask.bind]
        rw [if_neg hother]
        exact .done _

end RS2ServerFix.LeechRecovery.Attribution
