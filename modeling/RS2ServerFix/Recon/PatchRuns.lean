import RS2ServerFix.Image.Looking
import RS2ServerFix.Recon.Patch

namespace RS2ServerFix.Recon

open Lib Image
open RS2ServerFix.Task (MemoryRegion pageReadOnly pageReadWrite memCommit memImage)

structure ReconWorld where
  bytes : Nat → UInt8
  protection : Nat → Nat

def Elsewhere (address size : Nat) (s t : ReconWorld) : Prop :=
  ∀ x, ¬(address ≤ x ∧ x < address + size) → t.bytes x = s.bytes x

/-- What is given is true; a change may come to anything in its own bytes and
in the protection, whatever it reports; a flush that reports success has
changed nothing. -/
def reconResponds (operand : Nat) : Responds ReconQuestion ReconAnswer ReconWorld
  | .query _, s, answer, t => t = s ∧ ∀ region ∈ answer.1,
      ∀ x, region.base ≤ x → x < region.base + region.size → s.protection x = region.protect
  | .read address size, s, answer, t => t = s ∧ ∀ v ∈ answer.1,
      v.toList = (List.range size).map fun k => s.bytes (address + k)
  | .protect address size _, s, _, t => Elsewhere address size s t
  | .writeDword address _, s, _, t => Elsewhere address 4 s t
  | .flush _ _, s, answer, t => if answer.1 then t = s else Elsewhere operand 4 s t
  | .validateHostIdentity, s, _, t => t = s
  | .hash _, s, _, t => t = s
  | .currentThread, s, _, t => t = s

def Looks : ReconQuestion → Prop
  | .protect _ _ _ | .writeDword _ _ | .flush _ _ => False
  | _ => True

def Targets (context : BootstrapContextV3) (profile : ReconProfile) : ReconQuestion → Prop
  | .protect address size _ => address = operand context profile ∧ size = 4
  | .writeDword address _ => address = operand context profile
  | .flush address size => address = context.hostModule + profile.functionRva.toNat ∧ size = functionSize profile
  | _ => True

theorem Looks.targets (context : BootstrapContextV3) (profile : ReconProfile) (q : ReconQuestion) (h : Looks q) :
    Targets context profile q := by
  cases q with
  | protect address size protection => exact h.elim
  | writeDword address value => exact h.elim
  | flush address size => exact h.elim
  | query address => trivial
  | read address size => trivial
  | validateHostIdentity => trivial
  | hash bytes => trivial
  | currentThread => trivial

theorem looks_same {n : Nat} (q : ReconQuestion) (s : ReconWorld) (answer : ReconAnswer q) (t : ReconWorld) (h : Looks q)
    (hr : reconResponds n q s answer t) : t = s := by
  cases q with
  | protect address size protection => exact h.elim
  | writeDword address value => exact h.elim
  | flush address size => exact h.elim
  | query address => exact hr.1
  | read address size => exact hr.1
  | validateHostIdentity => exact hr
  | hash bytes => exact hr
  | currentThread => exact hr

section Patch

variable (context : BootstrapContextV3) (startup : StartupProfile) (profile : ReconProfile) (ops : ReconOps)

theorem memory_looks : Asks Looks ops.memory where
  query := by
    intro f hf address e
    obtain ⟨-, hf⟩ := Option.ite_none_right_eq_some.mp hf
    obtain rfl := Option.some.inj hf
    exact ⟨trivial, fun _ => trivial⟩
  read := by
    intro f hf address size e
    obtain ⟨-, hf⟩ := Option.ite_none_right_eq_some.mp hf
    obtain rfl := Option.some.inj hf
    exact ⟨trivial, fun _ => trivial⟩

theorem memory_truthful (n : Nat) : Truthful (reconResponds n) ReconWorld.bytes ReconWorld.protection ops.memory where
  query := by
    intro f hf address s
    obtain ⟨-, hf⟩ := Option.ite_none_right_eq_some.mp hf
    obtain rfl := Option.some.inj hf
    exact fun _ _ _ ht => ht
  read := by
    intro f hf address size s
    obtain ⟨-, hf⟩ := Option.ite_none_right_eq_some.mp hf
    obtain rfl := Option.some.inj hf
    exact fun _ _ _ ht => ht

def functionBytes (s : ReconWorld) : List UInt8 :=
  (List.range (functionSize profile)).map fun k => s.bytes (context.hostModule + profile.functionRva.toNat + k)

def Executable (s : ReconWorld) : Prop :=
  ∀ k < functionSize profile, s.protection (context.hostModule + profile.functionRva.toNat + k) = pageExecuteRead

def ConstantHolds (s : ReconWorld) : Prop :=
  (∀ k < 16, s.protection (context.hostModule + profile.constantRva.toNat + k) = pageReadOnly) ∧
    profile.constantBytes.toList =
      (List.range 16).map fun k => s.bytes (context.hostModule + profile.constantRva.toNat + k)

abbrev ReconSure {α : Type} (p : ReconTold α) (post : α → ReconWorld → Prop) (s : ReconWorld) : Prop :=
  Told.Sure (reconResponds (operand context profile)) p post s

abbrev ReconFinds (p : ReconTold Bool) (P : Prop) (s : ReconWorld) : Prop :=
  Told.Finds (reconResponds (operand context profile)) p P s

variable {context startup profile ops} {s : ReconWorld}

theorem only_finds {p : ReconTold Bool} (h : Told.Only Looks p) (s : ReconWorld) : ReconFinds context profile p True s :=
  (h.still looks_same s).mono fun _ _ ht => ⟨ht, fun _ => trivial⟩

theorem readFunction_sure (s : ReconWorld) : ReconSure context profile (readFunction context startup profile ops)
    (fun r t => t = s ∧ ∀ v ∈ r, v.toList = functionBytes context profile s) s :=
  readImageRange_sure (memory_truthful ops _) _ _ _ _ s

theorem bytesEqual_finds (expected : List UInt8) (s : ReconWorld) :
    ReconFinds context profile (bytesEqual context startup profile ops expected) (functionBytes context profile s = expected)
      s := by
  refine .bind ((readFunction_sure s).mono ?_)
  rintro scratch _ ⟨rfl, hread⟩
  refine .pure ⟨rfl, fun hb => ?_⟩
  obtain ⟨v, hv, he⟩ := (Option.any_eq_true _ _).mp hb
  exact (hread v hv).symm.trans (of_decide_eq_true he)

theorem originalProtection_finds (s : ReconWorld) :
    ReconFinds context profile (originalProtection context startup profile ops) (Executable context profile s) s :=
  imageRangeProtection_sure (memory_truthful ops _) _ _ _ _ _ s

theorem originalState_finds (original : List UInt8) (s : ReconWorld) :
    ReconFinds context profile (originalState context startup profile ops original)
      (Executable context profile s ∧ functionBytes context profile s = original) s :=
  (originalProtection_finds s).both (bytesEqual_finds original s)

theorem readConstant_finds (s : ReconWorld) :
    ReconFinds context profile (readConstant context startup profile ops) (profile.constantBytes.toList =
      (List.range 16).map fun k => s.bytes (context.hostModule + profile.constantRva.toNat + k)) s := by
  refine .bind ((readImageRange_sure (memory_truthful ops _) _ _ _ _ s).mono ?_)
  rintro bytes _ ⟨rfl, hread⟩
  refine .pure ⟨rfl, fun hb => ?_⟩
  obtain ⟨v, hv, he⟩ := (Option.any_eq_true _ _).mp hb
  rw [← of_decide_eq_true he]
  exact hread v hv

theorem constantMatches_finds (s : ReconWorld) :
    ReconFinds context profile (constantMatches context startup profile ops) (ConstantHolds context profile s) s :=
  Told.Finds.both (imageRangeProtection_sure (memory_truthful ops _) _ _ _ _ _ s) (readConstant_finds s)

theorem writableCode_finds (s : ReconWorld) :
    ReconFinds context profile (writableCode context startup profile ops) True s :=
  only_finds (.either (imageRangeProtection_only (memory_looks ops) _ _ _ _ _)
    (imageRangeProtection_only (memory_looks ops) _ _ _ _ _)) s

theorem flushFunction_sure (s : ReconWorld) : ReconSure context profile (flushFunction context profile)
    (fun b t => b = true → t = s) s := by
  intro e answer t ht hb
  have hb' : answer.1 = true := hb
  rw [reconResponds, if_pos hb'] at ht
  exact ht

/-- After a change nothing is known but what is looked at again. -/
theorem protect_sure {address size protection : Nat} {post : Bool × Nat → ReconWorld → Prop} (h : ∀ r t, post r t) :
    ReconSure context profile (protect address size protection) post s := fun _ answer t _ => h answer.1 t

theorem protects_sure {protection : Nat} {post : Bool → ReconWorld → Prop} (h : ∀ b t, post b t) :
    ReconSure context profile (protects context profile protection) post s :=
  .bind (protect_sure fun r t => .pure (h r.1 t))

theorem writeDword_sure {address : Nat} {value : UInt32} {post : Bool → ReconWorld → Prop} (h : ∀ b t, post b t) :
    ReconSure context profile (writeDword address value) post s := fun _ answer t _ => h answer.1 t

theorem validateHostIdentity_sure {post : FixReason → ReconWorld → Prop} (h : ∀ reason, post reason s) :
    ReconSure context profile validateHostIdentity post s := by
  intro e answer t ht
  obtain rfl : t = s := ht
  exact h answer.1

theorem getCurrentThreadId_looks : Told.Only Looks getCurrentThreadId := fun _ => ⟨trivial, fun _ => trivial⟩

theorem hashBytesSha256_looks (bytes : List UInt8) : Told.Only Looks (hashBytesSha256 bytes) :=
  fun _ => ⟨trivial, fun _ => trivial⟩

theorem changed_both {p p' : ReconTold Bool} {post : Bool → ReconWorld → Prop}
    (hp : ∀ {post : Bool → ReconWorld → Prop}, (∀ b t, post b t) → ReconSure context profile p post s)
    (h : ∀ t, ReconSure context profile p' post t) (hno : ∀ t, post false t) :
    ReconSure context profile (p <&&> p') post s :=
  .both (hp fun _ t => ⟨fun _ => h t, fun _ => hno t⟩)

theorem found_both {p p' : ReconTold Bool} {P : Prop} {post : Bool → ReconWorld → Prop}
    (hp : ReconFinds context profile p P s) (h : P → ReconSure context profile p' post s) (hno : post false s) :
    ReconSure context profile (p <&&> p') post s := by
  refine .both (hp.mono ?_)
  rintro b _ ⟨rfl, hb⟩
  exact ⟨fun hyes => h (hb hyes), fun _ => hno⟩

def Restored (context : BootstrapContextV3) (profile : ReconProfile) (original : List UInt8) (b : Bool) (t : ReconWorld) :
    Prop := b = true → Executable context profile t ∧ functionBytes context profile t = original

theorem recoverWithoutWrite_sure (original : List UInt8) (s : ReconWorld) : ReconSure context profile
    (recoverWithoutWrite context startup profile ops original) (Restored context profile original) s := by
  have htwice : ∀ t, ReconFinds context profile (originalState context startup profile ops original <||>
      originalState context startup profile ops original)
      (Executable context profile t ∧ functionBytes context profile t = original) t :=
    fun t => (originalState_finds original t).either (originalState_finds original t)
  apply (htwice s).gate
  · exact fun h => .pure fun _ => h
  · apply (writableCode_finds s).past
    · exact .pure fun h => by cases h
    · refine fun _ => .bind (protect_sure fun _ t => ?_)
      apply (htwice t).mono
      rintro b _ ⟨rfl, hb⟩
      exact hb

theorem rollback_sure (original : List UInt8) (s : ReconWorld) : ReconSure context profile
    (rollback context startup profile ops original) (Restored context profile original) s := by
  have hno : ∀ t, Restored context profile original false t := fun t h => by cases h
  apply changed_both protects_sure _ hno
  intro t
  apply found_both (writableCode_finds t) _ (hno t)
  intro _
  apply changed_both writeDword_sure _ hno
  intro u
  apply found_both (bytesEqual_finds original u) _ (hno u)
  intro _
  apply changed_both protects_sure _ hno
  intro v
  apply found_both (originalProtection_finds v) _ (hno v)
  intro hexecutable
  apply found_both (bytesEqual_finds original v) _ (hno v)
  intro hbytes
  apply (flushFunction_sure v).mono
  intro b w hw hb
  rw [hw hb]
  exact ⟨hexecutable, hbytes⟩

theorem startupReady_finds (s : ReconWorld) : ReconFinds context profile (startupReady context startup ops) True s :=
  only_finds (.bind (checkStartupOpportunity_only (memory_looks ops) getCurrentThreadId_looks _ _)
    fun _ => .pure _) s

theorem hashes_finds (bytes : List UInt8) (digest : Sha256Digest) (s : ReconWorld) :
    ReconFinds context profile (hashes bytes digest) True s :=
  only_finds (.bind (hashBytesSha256_looks bytes) fun _ => .pure _) s

theorem sectionsMatch_finds (s : ReconWorld) :
    ReconFinds context profile (sectionsMatch context startup profile ops) True s := by
  apply only_finds
  refine .both (imageRangeProtection_only (memory_looks ops) _ _ _ _ _) (.both ?_ (.both ?_ ?_))
  · exact imageSectionMatches_only (memory_looks ops) _ _ _ _ _ _
  · exact imageRangeProtection_only (memory_looks ops) _ _ _ _ _
  · exact imageSectionMatches_only (memory_looks ops) _ _ _ _ _ _

def Qualified (context : BootstrapContextV3) (profile : ReconProfile) (s : ReconWorld)
    (r : Except FixReason (List UInt8)) (t : ReconWorld) : Prop :=
  t = s ∧ ∀ original, r = .ok original →
    Executable context profile s ∧ functionBytes context profile s = original ∧ ConstantHolds context profile s

theorem qualify_sure (mode : ReconMode) (hostDigest : Sha256Digest) (s : ReconWorld) : ReconSure context profile
    (qualify context startup profile ops mode hostDigest) (Qualified context profile s) s := by
  have herror : ∀ reason, ReconSure context profile (pure (.error reason)) (Qualified context profile s) s :=
    fun reason => .pure ⟨rfl, fun _ h => by cases h⟩
  refine .ite (fun _ => herror _) fun _ => .ite (fun _ => herror _) fun _ => ?_
  apply (startupReady_finds s).past (herror _)
  intro _
  apply (sectionsMatch_finds s).past (herror _)
  intro _
  refine .bind ((readFunction_sure s).mono ?_)
  rintro bytes _ ⟨rfl, -⟩
  cases bytes with
  | none => exact herror _
  | some bytes =>
      apply (hashes_finds _ _ _).past (herror _)
      refine fun _ => .ite (fun _ => herror _) fun _ => ?_
      apply (readConstant_finds _).past (herror _)
      intro _
      apply (hashes_finds _ _ _).past (herror _)
      refine fun _ => .bind (validateHostIdentity_sure fun reason => .ite (fun _ => herror _) fun _ => ?_)
      apply (startupReady_finds _).past (herror _)
      intro _
      apply ((originalState_finds bytes.toList _).both (constantMatches_finds _)).past (herror _)
      rintro ⟨⟨hexecutable, hbytes⟩, hconstant⟩
      refine .pure ⟨rfl, fun original h => ?_⟩
      obtain rfl := Except.ok.inj h
      exact ⟨hexecutable, hbytes, hconstant⟩

/-- What an installation proves of the image it leaves. -/
def Proven (context : BootstrapContextV3) (profile : ReconProfile) (original : List UInt8) (t : ReconWorld) :
    Installed → Prop
  | .active => Executable context profile t ∧ functionBytes context profile t =
      withOperand profile original profile.newDisplacement ∧ ConstantHolds context profile t
  | .refused => Executable context profile t ∧ functionBytes context profile t = original
  | .failed _ _ => True

theorem restore_sure (original : List UInt8) (s : ReconWorld) : ReconSure context profile
    (restore context startup profile ops (withOperand profile original profile.newDisplacement))
    (fun r t => Proven context profile original t r) s := by
  have hback : ReconSure context profile (protects context profile pageExecuteRead <&&>
      originalProtection context startup profile ops <&&>
      bytesEqual context startup profile ops (withOperand profile original profile.newDisplacement))
      (fun b t => b = true → Executable context profile t ∧
        functionBytes context profile t = withOperand profile original profile.newDisplacement) s := by
    apply changed_both protects_sure
    · intro t
      apply ((originalProtection_finds t).both (bytesEqual_finds _ t)).mono
      rintro b _ ⟨rfl, hb⟩
      exact hb
    · exact fun t h => by cases h
  refine .bind (hback.mono fun b t hb => .ite (fun _ => .pure trivial) fun hyes => ?_)
  obtain ⟨hexecutable, hbytes⟩ := hb (by simpa using hyes)
  apply (constantMatches_finds t).past (.pure trivial)
  intro hconstant
  refine .bind ((flushFunction_sure t).mono fun flushed u hu => .ite (fun _ => .pure trivial) fun hyes => ?_)
  obtain rfl := hu (by simpa using hyes)
  refine .bind (validateHostIdentity_sure fun failure => .pure ?_)
  split
  · exact ⟨hexecutable, hbytes, hconstant⟩
  · trivial

theorem correct_sure (original : List UInt8) (s : ReconWorld) : ReconSure context profile
    (correct context startup profile ops original) (fun r t => Proven context profile original t r) s := by
  have hstart : ReconFinds context profile (stillStarting context startup ops) True s := by
    apply only_finds
    exact .bind getCurrentThreadId_looks fun _ => .ite (.pure _) (stageMatches_only (memory_looks ops) _ _)
  apply hstart.past (.pure trivial)
  intro _
  apply (bytesEqual_finds original s).past (.pure trivial)
  refine fun _ => .bind (writeDword_sure fun written t => .ite (fun _ => .pure trivial) fun _ => ?_)
  apply (bytesEqual_finds _ t).past (.pure trivial)
  intro _
  apply (constantMatches_finds t).past (.pure trivial)
  exact fun _ => restore_sure original t

theorem install_sure (original : List UInt8) (s : ReconWorld) : ReconSure context profile
    (install context startup profile ops original) (fun r t => Proven context profile original t r) s := by
  refine .bind (protect_sure fun answer t => .ite (fun _ => ?_) fun _ => .ite (fun _ => .pure trivial) fun _ => ?_)
  · refine .bind (.get fun protectError => ?_)
    apply (originalState_finds original t).gate
    · exact fun h => .bind (.set (.pure h))
    · exact .pure trivial
  · apply (writableCode_finds t).past (.pure trivial)
    exact fun _ => correct_sure original t

/-- What an outcome says of the image. -/
def Classified (context : BootstrapContextV3) (profile : ReconProfile) (original : List UInt8) (t : ReconWorld) :
    ReconOutcome → Prop
  | .active => Executable context profile t ∧ functionBytes context profile t =
      withOperand profile original profile.newDisplacement ∧ ConstantHolds context profile t
  | .passive | .disabled | .rolledBack => Executable context profile t ∧ functionBytes context profile t = original
  | .fatal => True

theorem undo_sure (original : List UInt8) (failure : FixReason) (writeAttempted : Bool) (s : ReconWorld) :
    ReconSure context profile (undo context startup profile ops original failure writeAttempted)
      (fun r t => Classified context profile original t r.1) s := by
  refine .bind (.get fun failureError => .ite (fun _ => ?_) fun _ => ?_)
  · refine .bind ((recoverWithoutWrite_sure original s).mono fun b t hb => .ite (fun hyes => ?_) fun _ => .pure trivial)
    exact .bind (.set (.pure (hb hyes)))
  · refine .bind ((rollback_sure original s).mono fun b t hb => .ite (fun hyes => ?_) fun _ => .pure trivial)
    exact .bind (.set (.pure (hb hyes)))

theorem patch_sure (mode : ReconMode) (original : List UInt8)
    (hs : Executable context profile s ∧ functionBytes context profile s = original) : ReconSure context profile
    (patch context startup profile ops mode original) (fun r t => Classified context profile original t r.1) s := by
  refine .ite (fun _ => .bind (.set (.pure hs))) fun _ => .bind ((install_sure original s).mono fun r t hr => ?_)
  cases r with
  | active => exact .bind (.set (.pure hr))
  | refused => exact .pure hr
  | failed failure writeAttempted => exact undo_sure original failure writeAttempted t

theorem qualify_looks (mode : ReconMode) (hostDigest : Sha256Digest) :
    Told.Only Looks (qualify context startup profile ops mode hostDigest) := by
  have hready : Told.Only Looks (startupReady context startup ops) :=
    .bind (checkStartupOpportunity_only (memory_looks ops) getCurrentThreadId_looks _ _) fun _ => .pure _
  have hhash : ∀ bytes digest, Told.Only Looks (hashes bytes digest) :=
    fun bytes _ => .bind (hashBytesSha256_looks bytes) fun _ => .pure _
  have hfunction : Told.Only Looks (readFunction context startup profile ops) :=
    readImageRange_only (memory_looks ops) _ _ _ _
  have hconstant : Told.Only Looks (readConstant context startup profile ops) :=
    .bind (readImageRange_only (memory_looks ops) _ _ _ _) fun _ => .pure _
  have hprotection : ∀ rva size protection, Told.Only Looks
      (imageRangeProtection ops.memory context.hostModule startup.imageSize rva size protection) :=
    fun _ _ _ => imageRangeProtection_only (memory_looks ops) _ _ _ _ _
  have hsections : Told.Only Looks (sectionsMatch context startup profile ops) :=
    .both (hprotection _ _ _) (.both (imageSectionMatches_only (memory_looks ops) _ _ _ _ _ _)
      (.both (hprotection _ _ _) (imageSectionMatches_only (memory_looks ops) _ _ _ _ _ _)))
  have hvalidate : Told.Only Looks validateHostIdentity := fun _ => ⟨trivial, fun _ => trivial⟩
  refine .ite (.pure _) (.ite (.pure _) (.bind hready fun _ => .ite (.pure _) ?_))
  refine .bind hsections fun _ => .ite (.pure _) (.bind hfunction fun bytes => ?_)
  cases bytes with
  | none => exact .pure _
  | some bytes =>
      refine .bind (hhash _ _) fun _ => .ite (.pure _) (.ite (.pure _) (.bind hconstant fun _ => .ite (.pure _) ?_))
      refine .bind (hhash _ _) fun _ => .ite (.pure _) (.bind hvalidate fun _ => .ite (.pure _) ?_)
      refine .bind hready fun _ => .ite (.pure _) (.bind ?_ fun _ => .ite (.pure _) (.pure _))
      exact .both (.both (hprotection _ _ _) (.bind hfunction fun _ => .pure _)) (.both (hprotection _ _ _) hconstant)

section Targets

variable (context startup profile ops)

abbrev ReconTargets {α : Type} (p : ReconTold α) : Prop := Told.Only (Targets context profile) p

theorem looks_targets {α : Type} {p : ReconTold α} (h : Told.Only Looks p) : ReconTargets context profile p :=
  h.mono (Looks.targets context profile)

theorem protect_targets (protection : Nat) :
    ReconTargets context profile (protect (operand context profile) 4 protection) := fun _ => ⟨⟨rfl, rfl⟩, fun _ => trivial⟩

theorem protects_targets (protection : Nat) : ReconTargets context profile (protects context profile protection) :=
  .bind (protect_targets context profile protection) fun _ => .pure _

theorem writeDword_targets (value : UInt32) :
    ReconTargets context profile (writeDword (operand context profile) value) := fun _ => ⟨rfl, fun _ => trivial⟩

theorem flushFunction_targets : ReconTargets context profile (flushFunction context profile) :=
  fun _ => ⟨⟨rfl, rfl⟩, fun _ => trivial⟩

theorem bytesEqual_targets (expected : List UInt8) :
    ReconTargets context profile (bytesEqual context startup profile ops expected) :=
  looks_targets context profile (.bind (readImageRange_only (memory_looks ops) _ _ _ _) fun _ => .pure _)

theorem originalProtection_targets : ReconTargets context profile (originalProtection context startup profile ops) :=
  looks_targets context profile (imageRangeProtection_only (memory_looks ops) _ _ _ _ _)

theorem writableCode_targets : ReconTargets context profile (writableCode context startup profile ops) :=
  looks_targets context profile (.either (imageRangeProtection_only (memory_looks ops) _ _ _ _ _)
    (imageRangeProtection_only (memory_looks ops) _ _ _ _ _))

theorem constantMatches_targets : ReconTargets context profile (constantMatches context startup profile ops) :=
  looks_targets context profile (.both (imageRangeProtection_only (memory_looks ops) _ _ _ _ _)
    (.bind (readImageRange_only (memory_looks ops) _ _ _ _) fun _ => .pure _))

theorem originalState_targets (original : List UInt8) :
    ReconTargets context profile (originalState context startup profile ops original) :=
  .both (originalProtection_targets context startup profile ops) (bytesEqual_targets context startup profile ops original)

theorem restore_targets (expected : List UInt8) :
    ReconTargets context profile (restore context startup profile ops expected) := by
  refine .bind (.both (protects_targets context profile _) (.both (originalProtection_targets context startup profile ops)
    (bytesEqual_targets context startup profile ops expected))) fun _ => .ite (.pure _) ?_
  refine .bind (constantMatches_targets context startup profile ops) fun _ => .ite (.pure _) ?_
  refine .bind (flushFunction_targets context profile) fun _ => .ite (.pure _) ?_
  exact .bind (fun _ => ⟨trivial, fun _ => trivial⟩ : ReconTargets context profile validateHostIdentity) fun _ => .pure _

theorem correct_targets (original : List UInt8) :
    ReconTargets context profile (correct context startup profile ops original) := by
  have hstart : ReconTargets context profile (stillStarting context startup ops) :=
    looks_targets context profile
      (.bind getCurrentThreadId_looks fun _ => .ite (.pure _) (stageMatches_only (memory_looks ops) _ _))
  refine .bind hstart fun _ => .ite (.pure _) ?_
  refine .bind (bytesEqual_targets context startup profile ops original) fun _ => .ite (.pure _) ?_
  refine .bind (writeDword_targets context profile _) fun _ => .ite (.pure _) ?_
  refine .bind (bytesEqual_targets context startup profile ops _) fun _ => .ite (.pure _) ?_
  refine .bind (constantMatches_targets context startup profile ops) fun _ => .ite (.pure _) ?_
  exact restore_targets context startup profile ops _

theorem install_targets (original : List UInt8) :
    ReconTargets context profile (install context startup profile ops original) := by
  refine .bind (protect_targets context profile _) fun _ => .ite (.bind .get fun _ => ?_) (.ite (.pure _) ?_)
  · exact .bind (originalState_targets context startup profile ops original) fun _ =>
      .ite (.bind (.set _) fun _ => .pure _) (.pure _)
  · exact .bind (writableCode_targets context startup profile ops) fun _ =>
      .ite (.pure _) (correct_targets context startup profile ops original)

theorem recoverWithoutWrite_targets (original : List UInt8) :
    ReconTargets context profile (recoverWithoutWrite context startup profile ops original) := by
  have htwice : ReconTargets context profile (originalState context startup profile ops original <||>
      originalState context startup profile ops original) :=
    .either (originalState_targets context startup profile ops original)
      (originalState_targets context startup profile ops original)
  refine .bind htwice fun _ => .ite (.pure _) ?_
  refine .bind (writableCode_targets context startup profile ops) fun _ => .ite (.pure _) ?_
  exact .bind (protect_targets context profile _) fun _ => htwice

theorem rollback_targets (original : List UInt8) :
    ReconTargets context profile (rollback context startup profile ops original) := by
  refine .both (protects_targets context profile _) (.both (writableCode_targets context startup profile ops) ?_)
  refine .both (writeDword_targets context profile _) (.both (bytesEqual_targets context startup profile ops _) ?_)
  refine .both (protects_targets context profile _) (.both (originalProtection_targets context startup profile ops) ?_)
  exact .both (bytesEqual_targets context startup profile ops _) (flushFunction_targets context profile)

theorem undo_targets (original : List UInt8) (failure : FixReason) (writeAttempted : Bool) :
    ReconTargets context profile (undo context startup profile ops original failure writeAttempted) := by
  refine .bind .get fun _ => .ite ?_ ?_
  · exact .bind (recoverWithoutWrite_targets context startup profile ops original) fun _ =>
      .ite (.bind (.set _) fun _ => .pure _) (.pure _)
  · exact .bind (rollback_targets context startup profile ops original) fun _ =>
      .ite (.bind (.set _) fun _ => .pure _) (.pure _)

/-- Whatever happens, the changes are about the operand alone. -/
theorem patch_targets (mode : ReconMode) (original : List UInt8) :
    ReconTargets context profile (patch context startup profile ops mode original) := by
  refine .ite (.bind (.set _) fun _ => .pure _)
    (.bind (install_targets context startup profile ops original) fun installed => ?_)
  cases installed with
  | active => exact .bind (.set _) fun _ => .pure _
  | refused => exact .pure _
  | failed failure writeAttempted => exact undo_targets context startup profile ops original failure writeAttempted

end Targets

theorem targets_elsewhere (q : ReconQuestion) (s : ReconWorld) (answer : ReconAnswer q) (t : ReconWorld)
    (hq : Targets context profile q) (h : reconResponds (operand context profile) q s answer t) :
    Elsewhere (operand context profile) 4 s t := by
  have hsame : ∀ {u : ReconWorld}, u = s → Elsewhere (operand context profile) 4 s u := by
    rintro _ rfl _ _
    rfl
  cases q with
  | protect address size protection =>
      obtain ⟨rfl, rfl⟩ := hq
      exact h
  | writeDword address value =>
      obtain rfl : address = operand context profile := hq
      exact h
  | flush address size =>
      change if (answer : Bool × UInt32).1 = true then t = s else Elsewhere (operand context profile) 4 s t at h
      split at h
      · exact hsame h
      · exact h
  | query address => exact hsame h.1
  | read address size => exact hsame h.1
  | validateHostIdentity => exact hsame h
  | hash bytes => exact hsame h
  | currentThread => exact hsame h

structure Unchanged (context : BootstrapContextV3) (profile : ReconProfile) (s t : ReconWorld) : Prop where
  bytes : functionBytes context profile t = functionBytes context profile s
  protection : ∀ k < functionSize profile, t.protection (context.hostModule + profile.functionRva.toNat + k) =
    s.protection (context.hostModule + profile.functionRva.toNat + k)

/-- The function with the new operand, execute-read as before, and the constant
that it then loads. -/
structure Corrected (context : BootstrapContextV3) (profile : ReconProfile) (s t : ReconWorld) : Prop where
  bytes : functionBytes context profile t =
    withOperand profile (functionBytes context profile s) profile.newDisplacement
  before : Executable context profile s
  after : Executable context profile t
  constant : ConstantHolds context profile t

/-- The outcome says what became of the image, without a change nothing is
called that could make one, and every change is one of the operand. -/
theorem recon_patch_atomic {mode : ReconMode} {hostDigest : Sha256Digest} {t : ReconWorld}
    {events : List (Sigma ReconAnswer)} {result : ReconResult}
    (h : Goes (reconResponds (operand context profile)) (runReconFix context startup profile ops mode hostDigest) s events
      result t) :
    (result.outcome = .active → Corrected context profile s t) ∧
    (result.outcome = .passive ∨ result.outcome = .disabled ∨ result.outcome = .rolledBack →
      Unchanged context profile s t) ∧
    (¬Corrected context profile s t → ¬Unchanged context profile s t → result.outcome = .fatal) ∧
    (mode = .passive ∨ result.qualified = false → t = s ∧ ∀ e ∈ events, Looks e.1) ∧
    (∀ e ∈ events, Targets context profile e.1) ∧ Elsewhere (operand context profile) 4 s t := by
  obtain ⟨all, last, ⟨⟨outcome, reason, qualified⟩, error⟩, v, rfl, hrun, hdone⟩ := h.of_bind
  cases hdone
  obtain ⟨before, after, ⟨got, e⟩, u, rfl, hqualify, hpatch⟩ := hrun.of_bind
  obtain ⟨rfl, hgot⟩ := (qualify_sure mode hostDigest s _).goes hqualify
  have hbefore := (qualify_looks mode hostDigest _).events hqualify.yields
  rw [List.append_nil]
  cases got with
  | error refusal =>
      cases hpatch
      refine ⟨fun ho => (by cases ho), fun _ => ⟨rfl, fun _ _ => rfl⟩, fun _ hne => absurd ⟨rfl, fun _ _ => rfl⟩ hne,
        fun _ => ⟨rfl, by simpa using hbefore⟩, ?_, fun _ _ => rfl⟩
      simpa using fun e he => Looks.targets context profile e.1 (hbefore e he)
  | ok original =>
      obtain ⟨hexecutable, rfl, -⟩ := hgot original rfl
      obtain ⟨during, rest, ⟨⟨outcome', reason'⟩, e'⟩, w, rfl, hpatch, hend⟩ := hpatch.of_bind
      cases hend
      have hclassified := (patch_sure mode _ ⟨hexecutable, rfl⟩ e).goes hpatch
      have hduring := (patch_targets context startup profile ops mode _ e).events hpatch.yields
      have helsewhere : Elsewhere (operand context profile) 4 u t := by
        apply hpatch.keeps (patch_targets context startup profile ops mode _ e) _ (fun _ _ => rfl)
        intro q s answer t hq hr hs x hx
        rw [targets_elsewhere q s answer t hq hr x hx, hs x hx]
      rw [List.append_nil]
      have hunchanged : ∀ {w}, Executable context profile w →
          functionBytes context profile w = functionBytes context profile u → Unchanged context profile u w :=
        fun hw hbytes => ⟨hbytes, fun k hk => (hw k hk).trans (hexecutable k hk).symm⟩
      refine ⟨fun ho => ?_, fun ho => ?_, fun hc hu => ?_, fun hp => ?_, fun e he => ?_, helsewhere⟩
      · subst ho
        exact ⟨hclassified.2.1, hexecutable, hclassified.1, hclassified.2.2⟩
      · rcases ho with rfl | rfl | rfl
        · exact hunchanged hclassified.1 hclassified.2
        · exact hunchanged hclassified.1 hclassified.2
        · exact hunchanged hclassified.1 hclassified.2
      · cases outcome with
        | fatal => rfl
        | active => exact absurd ⟨hclassified.2.1, hexecutable, hclassified.1, hclassified.2.2⟩ hc
        | passive => exact absurd (hunchanged hclassified.1 hclassified.2) hu
        | disabled => exact absurd (hunchanged hclassified.1 hclassified.2) hu
        | rolledBack => exact absurd (hunchanged hclassified.1 hclassified.2) hu
      · rcases hp with rfl | hp
        · rw [patch, if_pos rfl] at hpatch
          cases hpatch
          exact ⟨rfl, by simpa using hbefore⟩
        · cases hp
      · rcases List.mem_append.mp he with he | he
        · exact Looks.targets context profile e.1 (hbefore e he)
        · exact hduring e he

end Patch

/-- An image of three pages of code, constants and data behind a page of headers. -/
def sampleWords : List (Nat × Nat × Nat) :=
  [(0, 2, 0x5a4d), (60, 4, 64), (64, 4, 0x4550), (68, 2, 0x8664), (70, 2, 3), (72, 4, 5), (84, 2, 240), (86, 2, 2),
    (88, 2, 0x20b), (104, 4, 0x1100), (144, 4, 0x4000), (148, 4, 0x400), (152, 4, 6), (196, 4, 16),
    (336, 4, 0x1000), (340, 4, 0x1000), (364, 4, 0x60000000),
    (376, 4, 0x1000), (380, 4, 0x2000), (404, 4, 0x40000000),
    (416, 4, 0x1000), (420, 4, 0x3000), (444, 4, 0xc0000000),
    (0x1000, 8, 0x11223344aabbccdd), (0x1008, 4, 0x55667788), (0x2020, 8, 0x11100), (0x3000, 4, 1)]

def sampleByte (rva : Nat) : UInt8 :=
  ((sampleWords.find? fun word => word.1 ≤ rva && rva < word.1 + word.2.1).elim 0
    fun word => (word.2.2 / 256 ^ (rva - word.1)) % 256).toUInt8

def sampleWorld : ReconWorld where
  bytes := fun x => if 0x10000 ≤ x then sampleByte (x - 0x10000) else 0
  protection := fun x =>
    if x / 0x1000 = 0x11 then pageExecuteRead else if x / 0x1000 < 0x13 then pageReadOnly else pageReadWrite

def sampleAnswers (s : ReconWorld) : (q : ReconQuestion) → ReconAnswer q × ReconWorld
  | .query address => ((some ⟨address / 0x1000 * 0x1000, 0x10000, 0x1000, memCommit, memImage, s.protection address⟩, 0), s)
  | .read address _ => ((some (Vector.ofFn fun i => s.bytes (address + i)), 0), s)
  | .protect address _ protection => (((true, s.protection address), 0),
      { s with protection := fun x => if x / 0x1000 = 0x11 then protection else s.protection x })
  | .writeDword address value => ((true, 0),
      { s with
        bytes := fun x => if address ≤ x ∧ x < address + 4 then (dwordBytes value).getD (x - address) 0 else s.bytes x })
  | .flush _ _ => ((true, 0), s)
  | .validateHostIdentity => ((.none, 0), s)
  | .hash _ => ((some (Vector.replicate 32 0), 0), s)
  | .currentThread => ((7 : Nat), s)

def sampleContext : BootstrapContextV3 := ⟨64, 3, 0x10000, 0x20000, 0x30000, 3, 0, 0x10008, 7, 7, 1, 1⟩

def sampleStartup : StartupProfile := ⟨0x4000, 5, [6], 0x1100, 8, 0x3000, 1, 0x2020, 0x1100, [⟨0x1008, [0x88, 0x77]⟩]⟩

def sampleProfile : ReconProfile where
  functionRva := 0x1000
  functionSize := 12
  loadRva := 0x1000
  operandRva := 0x1004
  constantRva := 0x2000
  oldDisplacement := 0x11223344
  newDisplacement := 0xff8
  originalWindow := #v[0xdd, 0xcc, 0xbb, 0xaa, 0x44, 0x33, 0x22, 0x11, 0x88, 0x77, 0x66, 0x55]
  constantBytes := Vector.replicate 16 0
  hostDigest := Vector.replicate 32 0
  originalDigest := Vector.replicate 32 0
  correctedDigest := Vector.replicate 32 0

def sampleOps : ReconOps := ⟨true, true, true, true, true, true⟩

def PageWise (s : ReconWorld) : Prop := ∃ f : Nat → Nat, ∀ x, s.protection x = f (x / 0x1000)

theorem sampleAnswers_respond (s : ReconWorld) (q : ReconQuestion) (hs : PageWise s) :
    reconResponds (operand sampleContext sampleProfile) q s (sampleAnswers s q).1 (sampleAnswers s q).2 ∧
      PageWise (sampleAnswers s q).2 := by
  cases q with
  | query address =>
      obtain ⟨f, hf⟩ := hs
      refine ⟨⟨rfl, fun region hregion x hle hlt => ?_⟩, f, hf⟩
      obtain rfl := Option.some.inj hregion
      change address / 0x1000 * 0x1000 ≤ x at hle
      change x < address / 0x1000 * 0x1000 + 0x1000 at hlt
      have hpage : x / 0x1000 = address / 0x1000 := by omega
      rw [hf, hpage, ← hf]
  | read address size =>
      refine ⟨⟨rfl, fun v hv => ?_⟩, hs⟩
      obtain rfl := Option.some.inj hv
      apply List.ext_getElem
      · simp
      · intro k hk _
        simp
  | protect address size protection =>
      obtain ⟨f, hf⟩ := hs
      refine ⟨fun _ _ => rfl, fun page => if page = 0x11 then protection else f page, fun x => ?_⟩
      exact if_congr Iff.rfl rfl (hf x)
  | writeDword address value => exact ⟨fun x hx => if_neg hx, hs⟩
  | flush address size => exact ⟨rfl, hs⟩
  | validateHostIdentity => exact ⟨rfl, hs⟩
  | hash bytes => exact ⟨rfl, hs⟩
  | currentThread => exact ⟨rfl, hs⟩

theorem sample_run : (Ask.talk sampleAnswers sampleWorld (runReconFix sampleContext sampleStartup sampleProfile sampleOps
    .active sampleProfile.hostDigest)).2 = ⟨.active, .none, 0, true⟩ := by decide +kernel

theorem recon_patch_atomic_sample : ∃ t, Corrected sampleContext sampleProfile sampleWorld t ∧
    Elsewhere (operand sampleContext sampleProfile) 4 sampleWorld t := by
  obtain ⟨t, ht⟩ := Goes.talk sampleAnswers sampleAnswers_respond (runReconFix sampleContext sampleStartup sampleProfile
    sampleOps .active sampleProfile.hostDigest) (s := sampleWorld)
    ⟨fun page => if page = 0x11 then pageExecuteRead else if page < 0x13 then pageReadOnly else pageReadWrite, fun _ => rfl⟩
  rw [sample_run] at ht
  obtain ⟨hactive, -, -, -, -, helsewhere⟩ := recon_patch_atomic ht
  exact ⟨t, hactive rfl, helsewhere⟩

end RS2ServerFix.Recon
