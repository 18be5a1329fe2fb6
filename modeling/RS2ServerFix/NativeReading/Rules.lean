import RS2ServerFix.NativeReading.Pools

namespace RS2ServerFix.NativeReading

open Lib Image Act
open RS2ServerFix.LeechRecovery (RecoveryNativeResult)

variable (c : RecoveryNativeContext)

theorem root_looks (refusal : Refusal) (rva bytes : Nat) : Looks (root c refusal rva bytes) :=
  need_looks (globalNumber_looks c _ _)

theorem roots_finds : Finds (roots c) fun out => out.pools = ⟨noPool, noPool, noPool⟩ := by
  iterate 13 refine Looks.bind (root_looks c _ _ _) fun _ => ?_
  exact Finds.pure rfl

theorem allocator_looks (gmalloc : Nat) : Looks (allocator c gmalloc) := by
  refine Looks.bind (root_looks c _ _ _) fun _ => Looks.bind (require_finds _).looks fun _ => ?_
  refine Looks.bind (root_looks c _ _ _) fun _ => Looks.bind (root_looks c _ _ _) fun _ => ?_
  refine Looks.bind (require_finds _).looks fun _ => Looks.bind (need_looks (fieldOf_looks c _ _ _)) fun _ => ?_
  refine Looks.bind (require_finds _).looks fun _ => Looks.bind (need_looks (fieldOf_looks c _ _ _)) fun _ => ?_
  exact (require_finds _).looks

theorem managers_looks (httpManager asyncManager : Nat) : Looks (managers c httpManager asyncManager) := by
  refine Looks.bind (require_finds _).looks fun _ => Looks.bind (need_looks (fieldOf_looks c _ _ _)) fun _ => ?_
  refine Looks.bind (require_finds _).looks fun _ => Looks.bind (require_finds _).looks fun _ => ?_
  exact Looks.bind (need_looks (fieldOf_looks c _ _ _)) fun _ => (require_finds _).looks

theorem resolve_looks (module name : String) : Looks (resolve module name) := by
  have hquery : Looks (Act.query (Inquiry.resolve module name) : Reading (Inquiry.Answer (.resolve module name))) :=
    fun s _ => ⟨Same.refl s, trivial⟩
  exact Looks.bind hquery fun answer => Looks.bind (modify_looks fun s => ⟨rfl, rfl, rfl⟩) fun _ => Looks.pure _

theorem imported_looks (recipe : PumpImportRecipe) : Looks (imported c recipe) :=
  Looks.bind (root_looks c _ _ _) fun _ => Looks.bind (need_looks (resolve_looks _ _)) fun _ => (require_finds _).looks

theorem named_looks (rva : Nat) (name : String) : Looks (named c rva name) :=
  Looks.bind (root_looks c _ _ _) fun _ => Looks.bind (demand_looks (constName_looks c _ _)) fun _ => Looks.pure _

theorem names_finds (out : RecoveryNativeSnapshot) :
    Finds (names c out) fun out' => out'.pools = out.pools ∧ out'.issuedId = out.issuedId := by
  iterate 5 refine Looks.bind (named_looks c _ _) fun _ => ?_
  exact Finds.pure ⟨rfl, rfl⟩

theorem findComponent_looks (row : Row) (recipes : List ComponentRecipe) (j : Nat) :
    Looks (findComponent c row recipes j) := by
  induction recipes generalizing j with
  | nil => exact Looks.pure none
  | cons recipe rest ih =>
      refine Finds.ite (fun _ => Looks.bind (constName_looks c _ _) fun _ => ?_) fun _ => ih _
      exact Finds.ite (fun _ => Looks.pure _) fun _ => ih _

theorem components_looks (indices : List Nat) (seen : Nat) : Looks (components c indices seen) := by
  induction indices generalizing seen with
  | nil => exact (require_finds _).looks
  | cons i rest ih =>
      refine Looks.bind (need_looks (global_finds c _ _).looks) fun bytes => Finds.ite (fun _ => ih _) fun _ => ?_
      refine Looks.bind (need_looks (findComponent_looks c _ _ _)) fun j => ?_
      exact Looks.bind (require_finds _).looks fun _ => ih _

theorem identities_does (out : RecoveryNativeSnapshot) :
    Does (identities c out) fun s out' t =>
      ((out'.pools = out.pools ∧ out'.issuedId = out.issuedId) ∧
        ∀ a ∈ [out'.sdkSession, out'.authorizationToken, out'.cacheSession, out'.coreGuid], StringFits a) ∧
      Grows s t ([out'.sdkSession, out'.authorizationToken, out'.cacheSession, out'.coreGuid].flatMap stringExtent) [] 0 := by
  intro s hs
  apply (string_does c _).bind hs
  rintro sdk s₁ hs₁ ⟨hg₁, hf₁⟩
  apply (string_does c _).bind hs₁
  rintro authorization s₂ hs₂ ⟨hg₂, hf₂⟩
  apply (string_does c _).bind hs₂
  rintro cache s₃ hs₃ ⟨hg₃, hf₃⟩
  apply (string_does c _).bind hs₃
  rintro guid s₄ hs₄ ⟨hg₄, hf₄⟩
  have hgrows := ((hg₁.trans hg₂).trans hg₃).trans hg₄
  apply (require_finds _).runs
  intro _ s₅ h₅ hsizes
  simp only [Bool.and_eq_true, decide_eq_true_eq] at hsizes
  obtain ⟨⟨⟨hsdk, hauthorization⟩, hcache⟩, hguid⟩ := hsizes
  apply (need_looks (readInto_finds c _ hsdk).looks).runs
  intro _ s₆ h₆ _
  apply (need_looks (readInto_finds c _ hauthorization).looks).runs
  intro _ s₇ h₇ _
  apply (need_looks (readInto_finds c _ hcache).looks).runs
  intro _ s₈ h₈ _
  apply (need_looks (readInto_finds c _ hguid).looks).runs
  intro _ s₉ h₉ _
  have hsame := (((h₅.trans h₆).trans h₇).trans h₈).trans h₉
  refine ⟨hs₄.same hsame, ⟨⟨rfl, rfl⟩, ?_⟩, ?_⟩
  · simp only [List.forall_mem_cons, List.not_mem_nil, false_imp_iff, implies_true, and_true]
    exact ⟨hf₁, hf₂, hf₃, hf₄⟩
  · simpa only [List.flatMap_cons, List.flatMap_nil, List.append_assoc, List.append_nil, List.nil_append, Nat.add_zero] using
      hgrows.beforeSame hsame

theorem words_length (count : Nat) (bytes : List UInt8) : (words count bytes).length = count := by
  induction count generalizing bytes with
  | zero => rfl
  | succ count ih => exact congrArg Nat.succ (ih _)

theorem registryOf_finds : Finds (registryOf c) fun registry => registry.length = 256 := by
  refine Looks.bind (need_looks (global_finds c _ _).looks) fun bytes => ?_
  have hlength := words_length 256 bytes
  refine Looks.bind (cell_finds (by rw [hlength]; decide)).looks fun first => ?_
  exact Looks.bind (require_finds _).looks fun _ => Finds.pure hlength

theorem vtableTarget_looks (kind : RecoveryDescriptor) (entry : Nat × Nat) : Looks (vtableTarget c kind entry) :=
  Looks.bind (need_looks (fieldOf_looks c _ _ _)) fun _ => (require_finds _).looks

structure ActiveIds (issuedId : Nat) (generic : List RecoveryGenericTask) : Prop where
  issued : ∀ task ∈ generic, task.state ≠ 0 → task.id ≠ 0 ∧ task.id ≤ issuedId
  distinct : generic.Pairwise fun task other => task.state ≠ 0 → other.state ≠ 0 → task.id ≠ other.id

theorem ActiveIds.append {issuedId : Nat} {generic : List RecoveryGenericTask} {task : RecoveryGenericTask}
    (h : ActiveIds issuedId generic) (hid : task.state ≠ 0 → task.id ≠ 0 ∧ task.id ≤ issuedId)
    (hnew : task.state ≠ 0 → ∀ other ∈ generic, other.state ≠ 0 → task.id ≠ other.id) :
    ActiveIds issuedId (generic ++ [task]) where
  issued := by
    intro other hother
    rcases List.mem_append.mp hother with hother | hother
    · exact h.issued other hother
    · exact List.mem_singleton.mp hother ▸ hid
  distinct := by
    refine List.pairwise_append.mpr ⟨h.distinct, List.pairwise_singleton _ _, fun other hother last hlast => ?_⟩
    obtain rfl := List.mem_singleton.mp hlast
    exact fun hactive hlast => (hnew hlast other hother hactive).symm

theorem heldBy_looks {type slot : Nat} {p : RecoveryTypedPool} (hslot : slot < p.slots.length) : Looks (heldBy type slot p) :=
  Finds.ite (fun _ => Looks.bind (cell_finds hslot).looks fun _ => (require_finds _).looks) fun _ => Looks.pure ()

theorem activeTask_finds {out : RecoveryNativeSnapshot} {registry : List Nat} (hregistry : registry.length = 256)
    (hslots : ∀ kind, (out.pools.get kind).slots.length = kRecoveryTypedSlots) (before : List RecoveryGenericTask)
    (task : RecoveryGenericTask) :
    Finds (activeTask out registry before task) fun _ =>
      (task.id ≠ 0 ∧ task.id ≤ out.issuedId) ∧ ∀ other ∈ before, other.state ≠ 0 → task.id ≠ other.id := by
  refine Finds.bind (require_finds _) fun _ hid => ?_
  simp only [Bool.and_eq_true, decide_eq_true_eq] at hid
  obtain ⟨⟨⟨⟨hnonzero, -⟩, hissued⟩, -⟩, htype⟩ := hid
  refine Looks.bind (cell_finds (hregistry ▸ htype)).looks fun entry => ?_
  refine Finds.bind (require_finds _) fun _ hentry => ?_
  simp only [Bool.and_eq_true, decide_eq_true_eq] at hentry
  refine Finds.bind (require_finds _) fun _ hnew => ?_
  refine Finds.mono (Finds.each (P := fun _ => True) fun kind _ => heldBy_looks ((hslots kind).symm ▸ hentry.2)) fun _ _ => ?_
  refine ⟨⟨hnonzero, hissued⟩, fun other hother hactive heq => ?_⟩
  have hany : (before.any fun other => other.state ≠ 0 && task.id = other.id) = true :=
    List.any_eq_true.mpr ⟨other, hother, by simp [hactive, heq]⟩
  rw [hany] at hnew
  cases hnew

theorem tasks_finds {out : RecoveryNativeSnapshot} {registry : List Nat} (hregistry : registry.length = 256)
    (hslots : ∀ kind, (out.pools.get kind).slots.length = kRecoveryTypedSlots) (count : Nat)
    {before : List RecoveryGenericTask} (hcount : before.length + count ≤ kRecoveryGenericSlots)
    (hbefore : ActiveIds out.issuedId before) (free : Nat) :
    Finds (tasks c out registry (List.range' before.length count) before free) fun r =>
      r.1.length = before.length + count ∧ ActiveIds out.issuedId r.1 := by
  induction count generalizing before free with
  | zero => exact Finds.pure ⟨rfl, hbefore⟩
  | succ count ih =>
      rw [List.range'_succ, tasks]
      refine Looks.bind (index_looks (by omega)) fun _ => ?_
      refine Looks.bind (need_looks (read_finds c _ _).looks) fun raw => Looks.bind (require_finds _).looks fun _ => ?_
      have hlength : (before ++ [taskOf raw]).length = before.length + 1 := List.length_append
      have hrest : ∀ free, ActiveIds out.issuedId (before ++ [taskOf raw]) →
          Finds (tasks c out registry (List.range' (before.length + 1) count) (before ++ [taskOf raw]) free) fun r =>
            r.1.length = before.length + (count + 1) ∧ ActiveIds out.issuedId r.1 := by
        intro free hids
        have hall := ih (by rw [hlength]; omega) hids free
        rw [hlength] at hall
        exact hall.mono fun r hr => ⟨by omega, hr.2⟩
      refine Finds.ite (fun hfree => hrest _ ?_) fun _ => ?_
      · exact hbefore.append (fun h => absurd hfree h) fun h => absurd hfree h
      · refine Finds.bind (activeTask_finds hregistry hslots before _) fun _ htask => hrest _ ?_
        exact hbefore.append (fun _ => htask.1) fun _ => htask.2

/-- The references to the slot; a slot that is free says so by minus one and has none. -/
def RecoveryTypedSlot.referenceCount (slot : RecoveryTypedSlot) : Nat := slot.references.toNat

def Referenced (generic : List RecoveryGenericTask) (p : RecoveryTypedPool) (slot : Nat) : Prop :=
  ∀ held, p.slots[slot]? = some held → holders generic p.type slot ≤ held.referenceCount

theorem referenced_finds (generic : List RecoveryGenericTask) {p : RecoveryTypedPool} {slot : Nat}
    (hslot : slot < p.slots.length) : Finds (referenced generic p slot) fun _ => Referenced generic p slot := by
  refine Finds.bind (cell_finds hslot) fun held hheld => Finds.mono (require_finds _) fun _ hrefs => ?_
  intro other hother
  obtain rfl : held = other := Option.some.inj (hheld.symm.trans hother)
  simp only [Bool.or_eq_true, Bool.and_eq_true, decide_eq_true_eq] at hrefs
  rw [RecoveryTypedSlot.referenceCount]
  omega

def identityStrings (out : RecoveryNativeSnapshot) : List RecoveryNativeString :=
  [out.sdkSession, out.authorizationToken, out.cacheSession, out.coreGuid]

def ownedExtents (out : RecoveryNativeSnapshot) : List RecoveryOwnedInterval :=
  (identityStrings out).flatMap stringExtent ++ vectorExtent out.kernelVector ++ publicIpExtent out.publicIp ++
    (kinds.flatMap fun kind => poolExtents kind (out.pools.get kind)) ++ out.strings.flatMap stringExtent

structure WellFormed (out : RecoveryNativeSnapshot) : Prop where
  owned : out.intervals.Perm (ownedExtents out)
  apart : out.intervals.Pairwise Apart
  proper : ∀ a ∈ out.intervals, Proper a
  intervalCount : out.intervals.length ≤ kRecoveryOwnedIntervals
  stringCount : out.strings.length ≤ kRecoveryStringWitnesses
  identities : ∀ a ∈ identityStrings out, StringFits a
  strings : ∀ a ∈ out.strings, StringFits a
  kernelVector : VectorFits out.kernelVector
  vectors : ∀ kind, ∀ slot ∈ (out.pools.get kind).slots, VectorFits slot.vector
  elements : out.kernelVector.stringCount + poolsElements out.pools ≤ kRecoveryAllVectorElements
  publicIp : out.publicIp.count ≤ out.publicIp.capacity ∧ out.publicIp.capacity ≤ kRecoveryCacheChars
  tasks : out.generic.length = kRecoveryGenericSlots
  active : ActiveIds out.issuedId out.generic
  slots : ∀ kind, (out.pools.get kind).slots.length = kRecoveryTypedSlots
  free : ∀ kind, LeastFree (out.pools.get kind).slots (out.pools.get kind).firstFree
  references : ∀ kind slot, Referenced out.generic (out.pools.get kind) slot

theorem mem_kinds (kind : RecoveryDescriptor) : kind ∈ kinds := by cases kind <;> decide

theorem Kept.noPools : Kept ⟨noPool, noPool, noPool⟩ := fun kind => by cases kind <;> exact .inl ⟨rfl, rfl⟩

theorem Kept.there {pools : Pools} (h : Kept pools) (hthere : ∀ kind ∈ kinds, decide ((pools.get kind).descriptor ≠ 0) = true)
    (kind : RecoveryDescriptor) : (pools.get kind).descriptor ≠ 0 ∧ PoolFits (pools.get kind) := by
  have hne := of_decide_eq_true (hthere kind (mem_kinds kind))
  rcases h kind with hnone | hfits
  · exact absurd hnone.1 hne
  · exact hfits

theorem poolsExtents_there {pools : Pools} (hpools : ∀ kind, (pools.get kind).descriptor ≠ 0) :
    poolsExtents pools = kinds.flatMap fun kind => poolExtents kind (pools.get kind) := by
  simp [poolsExtents, takenExtents, kinds, hpools]

theorem allTasks_finds {out : RecoveryNativeSnapshot} {registry : List Nat} (hregistry : registry.length = 256)
    (hslots : ∀ kind, (out.pools.get kind).slots.length = kRecoveryTypedSlots) :
    Finds (tasks c out registry (List.range kRecoveryGenericSlots) [] 0) fun r =>
      r.1.length = kRecoveryGenericSlots ∧ ActiveIds out.issuedId r.1 := by
  have hids : ActiveIds out.issuedId [] := ⟨fun task ht => absurd ht List.not_mem_nil, List.Pairwise.nil⟩
  have htasks := tasks_finds c hregistry hslots kRecoveryGenericSlots (le_refl _) hids 0
  rw [List.length_nil, ← List.range_eq_range', Nat.zero_add] at htasks
  exact htasks

theorem allReferenced_finds (generic : List RecoveryGenericTask) {pools : Pools}
    (hslots : ∀ kind, (pools.get kind).slots.length = kRecoveryTypedSlots) :
    Finds (Act.each (fun kind => Act.each (referenced generic (pools.get kind)) (List.range 16)) kinds)
      fun _ => ∀ kind slot, Referenced generic (pools.get kind) slot := by
  have heach : Finds (Act.each (fun kind => Act.each (referenced generic (pools.get kind)) (List.range 16)) kinds)
      fun _ => ∀ kind ∈ kinds, ∀ slot ∈ List.range 16, Referenced generic (pools.get kind) slot := by
    refine Finds.each fun kind _ => Finds.each fun slot hslot => referenced_finds generic ?_
    rw [hslots kind]
    exact List.mem_range.mp hslot
  refine heach.mono fun _ hall kind slot held hheld => ?_
  have hlt := (List.getElem?_eq_some_iff.mp hheld).1
  rw [hslots kind] at hlt
  exact hall kind (mem_kinds kind) slot (List.mem_range.mpr hlt) held hheld

theorem observe_runs (s : Reader) : Runs (observe c) (fun out _ => WellFormed out) s := by
  apply Exits.modifyBind
  have hs : Sound (reset s) := ⟨List.Pairwise.nil, fun a ha => absurd ha List.not_mem_nil, Nat.zero_le _,
    fun a ha => absurd ha List.not_mem_nil, Nat.zero_le _, Nat.zero_le _⟩
  apply (roots_finds c).runs
  intro out s₁ h₁ hout
  apply (allocator_looks c _).runs
  intro _ s₂ h₂ _
  apply (managers_looks c _ _).runs
  intro _ s₃ h₃ _
  apply (Finds.each fun recipe _ => imported_looks c recipe).runs
  intro _ s₄ h₄ _
  apply (names_finds c out).runs
  rintro out' s₅ h₅ ⟨hpools', hissued'⟩
  apply (components_looks c _ _).runs
  intro _ s₆ h₆ _
  have hsame := ((((h₁.trans h₂).trans h₃).trans h₄).trans h₅).trans h₆
  apply (identities_does c out').bind (hs.same hsame)
  rintro out'' t₁ ht₁ ⟨⟨⟨hpools'', hissued''⟩, hidentities⟩, hg₁⟩
  apply (vector_does c _).bind ht₁
  rintro kernelVector t₂ ht₂ ⟨hkernel, found₂, -, hg₂⟩
  apply (fString_does c _).bind ht₂
  rintro publicIp t₃ ht₃ ⟨hipCapacity, hipCount, hg₃⟩
  apply (registryOf_finds c).runs
  intro registry u₁ hu₁ hregistry
  apply (Finds.each fun kind _ => (Finds.each fun entry _ => vtableTarget_looks c kind entry).looks).runs
  intro _ u₂ hu₂ _
  have hlook := hu₁.trans hu₂
  have hnone : out''.pools = ⟨noPool, noPool, noPool⟩ := (hpools''.trans hpools').trans hout
  have hindices : ∀ i ∈ (List.range 256).drop 1, i < 256 := fun i hi => List.mem_range.mp (List.mem_of_mem_drop hi)
  rw [hnone]
  apply (registered_does c hregistry hindices Kept.noPools).bind (ht₃.same hlook)
  rintro pools t₄ ht₄ ⟨hkept₄, more, found₄, elements, hg₄, hextents, helements⟩
  apply (Finds.each fun kind _ => require_finds _).runs
  intro _ u₃ hu₃ hthere
  have hpools := hkept₄.there hthere
  have hslots : ∀ kind, (pools.get kind).slots.length = kRecoveryTypedSlots := fun kind => (hpools kind).2.slots
  apply (@allTasks_finds c { out'' with kernelVector := kernelVector, publicIp := publicIp, pools := pools } registry
    hregistry hslots).runs
  rintro ⟨generic, genericFree⟩ u₄ hu₄ ⟨hlength, hactive⟩
  apply (allReferenced_finds generic hslots).runs
  intro _ t hu₅ hreferences
  apply Exits.getBind
  have hlast := (hu₃.trans hu₄).trans hu₅
  have hgrows := (((hg₁.trans hg₂).trans (hg₃.beforeSame hlook)).trans (hg₄.beforeSame hlast)).afterSame hsame
  have hsound := ht₄.same hlast
  have hmore : more.Perm (kinds.flatMap fun kind => poolExtents kind (pools.get kind)) :=
    poolsExtents_there (fun kind => (hpools kind).1) ▸ hextents
  have hstrings : t.strings = found₂ ++ found₄ := by simpa [reset] using hgrows.strings
  have hperm := (hgrows.perm (hmore.append_left _)).intervals
  have htotal : t.totalVectorElements = kernelVector.stringCount + poolsElements pools := by
    have hzero : poolsElements ⟨noPool, noPool, noPool⟩ = 0 := rfl
    rw [hzero, Nat.zero_add] at helements
    simpa [reset, helements] using hgrows.total
  constructor
  case owned =>
    show t.intervals.Perm _
    refine hperm.trans (List.Perm.of_eq ?_)
    simp [ownedExtents, identityStrings, hstrings, reset]
  case apart => exact hsound.apart
  case proper => exact hsound.proper
  case intervalCount => exact hsound.intervals
  case stringCount => exact hsound.strings
  case identities => exact hidentities
  case strings => exact hsound.fits
  case kernelVector => exact hkernel
  case vectors => exact fun kind slot hslot => ((hpools kind).2.fits slot hslot).vector
  case elements => exact htotal ▸ hsound.total
  case publicIp => exact ⟨hipCount, hipCapacity⟩
  case tasks => exact hlength
  case active => exact hactive
  case slots => exact hslots
  case free => exact fun kind => (hpools kind).2.free
  case references => exact hreferences

theorem observations_runs (s : Reader) : Runs (observations c) (fun out _ => WellFormed out) s := by
  apply Exits.bind
  refine Exits.mono (observe_runs c s) (fun first t hfirst => ?_) fun _ _ => id
  apply Exits.bind
  refine Exits.mono (observe_runs c t) (fun second u _ => ?_) fun _ _ => id
  exact (require_finds _).runs fun _ _ _ _ => hfirst

/-- Whatever the memory has in it, no index is outside its array, and a snapshot
that is ready is well formed. -/
theorem native_snapshot_well_formed :
    (readNativeRecoverySnapshot c).All fun outcome => ∃ result out error, outcome = .returned result out error ∧
      (result = .ready → WellFormed out) ∧ (result ≠ .ready → out = noSnapshot) := by
  refine iteInduction (fun _ => ?_) fun _ => ?_
  · apply Ask.All.bind
    refine Ask.All.mono (observations_runs c fresh) ?_
    rintro ⟨stop | out, s⟩ hr
    · cases stop with
      | refused refusal => exact ⟨_, _, _, rfl, fun h => absurd h refusal.result_ne, fun _ => rfl⟩
      | outside => exact absurd rfl hr
    · exact ⟨_, _, _, rfl, fun _ => hr, fun h => absurd rfl h⟩
  · exact ⟨_, _, _, rfl, fun h => RecoveryNativeResult.noConfusion h, fun _ => rfl⟩

end RS2ServerFix.NativeReading
