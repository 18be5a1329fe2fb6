import RS2ServerFix.Task.Access

namespace RS2ServerFix.Task

open Reporting Lib

def need {α : Type} (reason : Reason) (p : TaskTry α) : TaskRead α := ExceptT.mk do
  let value ← p.run
  pure (match value with
    | none => .error reason
    | some value => .ok value)

def refuse (reason : Reason) (refused : Bool) : TaskRead Unit :=
  ExceptT.mk (pure (if refused then .error reason else .ok ()))

structure ServiceWords where
  selected : Nat
  sentinel : Nat
  counter : Nat
  service : Nat
  deriving DecidableEq, Repr

def readServiceWords (access : TaskAccess) (layout : TaskLayout) : TaskTry ServiceWords := do
  let selected ← imageRead access layout.selectedIdRva 4
  let sentinel ← imageRead access layout.invalidIdRva 4
  let counter ← imageRead access layout.counterRva 4
  let service ← imageRead access layout.serviceStateRva 4
  pure ⟨selected, sentinel, counter, service⟩

/-- The slots from `index` on, of which `count` are left, with the one that
holds the selected task so far. -/
def findSelected (access : TaskAccess) (layout : TaskLayout) (selected : Nat) :
    Nat → Nat → Option (TaskSnapshot × SlotAuthority) → TaskRead (Option (TaskSnapshot × SlotAuthority))
  | 0, _, found => pure found
  | count + 1, index, found => do
      let slot ← need .taskMismatch (OptionT.mk (pure (slotAddress access layout index)))
      let header ← need .taskMismatch (dataRead access slot 8 true)
      let (state, id) := (field header 0 4, field header 4 4)
      if state = 0 ∨ id ≠ selected then findSelected access layout selected count (index + 1) found
      else
        refuse .taskAmbiguous found.isSome
        let value ← need .taskMismatch (slotAuthorityRead access layout index)
        refuse .taskMismatch (value.1.state ≠ state || value.1.identity.id ≠ id)
        findSelected access layout selected count (index + 1) (some value)

def readSlot (access : TaskAccess) (layout : TaskLayout) (bound : Option TaskIdentity) (selected : Nat) :
    TaskRead (TaskSnapshot × SlotAuthority) :=
  match bound with
  | some identity => do
      refuse .taskMismatch (selected ≠ identity.id)
      let value ← need .taskMismatch (slotAuthorityRead access layout identity.slot)
      refuse .taskNotReady (value.1.state = 0)
      refuse .taskMismatch (value.1.identity.id ≠ selected)
      pure value
  | none => do
      let found ← findSelected access layout selected kTaskSlots 0 none
      need .taskNotReady (OptionT.mk (pure found))

def checkValue (access : TaskAccess) (layout : TaskLayout) (value : TaskSnapshot) (authority : SlotAuthority) :
    TaskRead Nat := do
  refuse .taskNotReady (value.state < 2 || 5 < value.state)
  refuse .taskMismatch (value.identity.component = 0)
  need .taskMismatch (check (dataRange access value.identity.component 1 false false))
  refuse .holderMismatch (value.identity.holder / 2 ^ 16 ≠ kHolderType)
  refuse .taskNotReady (value.identity.metadata = 0)
  refuse .taskMismatch (value.identity.metadata % 8 ≠ 0)
  let vtable ← need .taskMismatch (dataRead access value.identity.metadata 8 false)
  refuse .taskMismatch (field vtable 0 8 ≠ access.hostBase + layout.metadataVtableRva)
  refuse .taskMismatch (authority.callbacks ≠ (0, 0) || authority.interval ≠ kInterval || value.builder = 0)
  pure (field vtable 0 8)

def taskOwned (access : TaskAccess) : TaskTry Unit := do
  check (owner access)
  check (admitted access)

def recheckValue (access : TaskAccess) (layout : TaskLayout) (bound : Option TaskIdentity) (minimumCounter : Nat)
    (words : ServiceWords) (value : TaskSnapshot) (authority : SlotAuthority) (vtable : Nat) : TaskRead Unit := do
  let (again, authorityAgain) ← need .taskMismatch (slotAuthorityRead access layout value.identity.slot)
  let wordsAgain ← need .taskMismatch (readServiceWords access layout)
  refuse .taskReused (bound.isSome && (wordsAgain.counter = 0 || wordsAgain.counter < words.counter ||
    wordsAgain.counter < minimumCounter || wordsAgain.counter < wordsAgain.selected))
  refuse .taskMismatch (authorityAgain.callbacks ≠ (0, 0) || authorityAgain.interval ≠ authority.interval)
  let vtableAgain ← need .taskMismatch (dataRead access value.identity.metadata 8 false)
  refuse .taskMismatch (field vtableAgain 0 8 ≠ vtable || wordsAgain ≠ words || value.identity ≠ again.identity ||
    value.state ≠ again.state || value.builder ≠ again.builder)
  need .taskMismatch (taskOwned access)
  refuse .taskReused (bound.any fun identity => value.identity ≠ identity)

/-- The schedule between two equal observations, else none. -/
def settleSchedule (access : TaskAccess) (layout : TaskLayout) (value : TaskSnapshot)
    (before : Option TaskSchedule) : TaskAsk TaskSchedule :=
  match before with
  | none => pure .zero
  | some before => do
      match ← (readSchedule access layout value.identity).run with
      | none => pure .zero
      | some after => pure (if before = after then scheduleDelay value.state { after with valid := true } else .zero)

def readTask (access : TaskAccess) (layout : TaskLayout) (bound : Option TaskIdentity) (minimumCounter : Nat) :
    TaskRead TaskSnapshot := do
  let entry ← ExceptT.lift (entryReason access)
  refuse entry (entry ≠ .none)
  refuse .profileMismatch (!layoutValid access layout)
  need .lifecycleCrossing (check (admitted access))
  let words ← need .taskMismatch (readServiceWords access layout)
  refuse .taskReused (bound.isSome &&
    (words.counter = 0 || words.counter < minimumCounter || words.counter < words.selected))
  refuse .taskMismatch (words.sentinel ≠ 0)
  refuse .taskNotReady (words.selected = 0)
  refuse .unregistered (words.service ≠ 3)
  refuse .taskReused (words.counter = 0 || words.counter < words.selected)
  let (value, authority) ← readSlot access layout bound words.selected
  let vtable ← checkValue access layout value authority
  let scheduleBefore ← ExceptT.lift (readSchedule access layout value.identity).run
  recheckValue access layout bound minimumCounter words value authority vtable
  let schedule ← ExceptT.lift (settleSchedule access layout value scheduleBefore)
  need .lifecycleCrossing (taskOwned access)
  pure { value with nativeCounter := words.counter, schedule := schedule }

def readSelectedTask (access : TaskAccess) (layout : TaskLayout) : TaskRead TaskSnapshot :=
  readTask access layout none 0

/-- A question that is no compare-exchange. -/
def Harmless : TaskQuestion → Prop
  | .exchange _ _ _ => False
  | _ => True

variable {access : TaskAccess} {layout : TaskLayout} {α β : Type}

abbrev Quiet (p : TaskAsk α) : Prop := p.Only Harmless

theorem owner_quiet : Quiet (owner access) := by
  unfold owner
  exact .ite (.query trivial) trivial

theorem admitted_quiet : Quiet (admitted access) := by
  unfold admitted
  exact .ite (.query trivial) trivial

theorem entryReason_quiet : Quiet (entryReason access) := by
  unfold entryReason
  exact .ite trivial (.bind (.query trivial) fun _ => .ite trivial (.bind owner_quiet fun _ => trivial))

theorem dataRegions_quiet (last : Nat) (image writable : Bool) (regions address : Nat) :
    Quiet (dataRegions access last image writable regions address) := by
  induction regions generalizing address with
  | zero => exact .ite owner_quiet trivial
  | succ regions ih =>
      refine .ite (.bind owner_quiet fun own => .ite (.bind (.query trivial) fun region => ?_) trivial)
        (.ite owner_quiet trivial)
      cases region with
      | none => trivial
      | some region => exact .bind owner_quiet fun own => .ite (.ite (ih _) trivial) trivial

theorem dataRange_quiet (address bytes : Nat) (image writable : Bool) :
    Quiet (dataRange access address bytes image writable) :=
  .bind owner_quiet fun _ => .ite (.ite trivial (dataRegions_quiet _ _ _ _ _)) trivial

theorem check_quiet {p : TaskAsk Bool} (h : Quiet p) : Quiet (check p).run := .bind h fun _ => trivial

theorem dataRead_quiet (address bytes : Nat) (image : Bool) : Quiet (dataRead access address bytes image).run := by
  refine .optionBind (check_quiet trivial) fun _ => .optionBind (check_quiet (dataRange_quiet _ _ _ _)) fun _ => ?_
  refine .optionBind (check_quiet owner_quiet) fun _ => .optionBind (.query trivial) fun _ => ?_
  exact .optionBind (check_quiet owner_quiet) fun _ => trivial

theorem imageRead_quiet (rva bytes : Nat) : Quiet (imageRead access rva bytes).run :=
  .optionBind trivial fun _ => .optionBind (dataRead_quiet _ _ _) fun _ => trivial

theorem slotRead_quiet (index : Nat) : Quiet (slotRead access layout index).run := by
  refine .optionBind trivial fun _ => .optionBind (dataRead_quiet _ _ _) fun _ => ?_
  refine .optionBind (dataRead_quiet _ _ _) fun _ => .optionBind (dataRead_quiet _ _ _) fun _ => ?_
  exact .optionBind (dataRead_quiet _ _ _) fun _ => .optionBind (imageRead_quiet _ _) fun _ => trivial

theorem slotAuthorityFields_quiet (slot : Nat) : Quiet (slotAuthorityFields access slot).run := by
  refine .bind (dataRead_quiet _ _ _) fun fields => ?_
  cases fields with
  | some fields => trivial
  | none => exact .optionBind (dataRead_quiet _ _ _) fun _ => .optionBind (dataRead_quiet _ _ _) fun _ => trivial

theorem slotAuthorityRead_quiet (index : Nat) : Quiet (slotAuthorityRead access layout index).run := by
  refine .optionBind trivial fun _ => .optionBind (dataRead_quiet _ _ _) fun _ => ?_
  exact .optionBind (slotAuthorityFields_quiet _) fun _ => .optionBind (imageRead_quiet _ _) fun _ => trivial

theorem readSchedule_quiet (identity : TaskIdentity) : Quiet (readSchedule access layout identity).run := by
  refine .optionBind trivial fun _ => .optionBind (check_quiet trivial) fun _ => ?_
  exact .optionBind (dataRead_quiet _ _ _) fun _ => .optionBind (dataRead_quiet _ _ _) fun _ => trivial

theorem readServiceWords_quiet : Quiet (readServiceWords access layout).run := by
  refine .optionBind (imageRead_quiet _ _) fun _ => .optionBind (imageRead_quiet _ _) fun _ => ?_
  exact .optionBind (imageRead_quiet _ _) fun _ => .optionBind (imageRead_quiet _ _) fun _ => trivial

theorem taskOwned_quiet : Quiet (taskOwned access).run :=
  .optionBind (check_quiet owner_quiet) fun _ => check_quiet admitted_quiet

theorem need_quiet {reason : Reason} {p : TaskTry α} (h : Quiet p.run) : Quiet (need reason p).run :=
  .bind h fun _ => trivial

theorem refuse_quiet (reason : Reason) (refused : Bool) : Quiet (refuse reason refused).run := trivial

theorem lift_quiet {p : TaskAsk α} (h : Quiet p) : Quiet (ExceptT.lift p : TaskRead α).run :=
  .bind h fun _ => trivial

theorem findSelected_quiet (selected count index : Nat) (found : Option (TaskSnapshot × SlotAuthority)) :
    Quiet (findSelected access layout selected count index found).run := by
  induction count generalizing index found with
  | zero => trivial
  | succ count ih =>
      refine .exceptBind (need_quiet trivial) fun _ => .exceptBind (need_quiet (dataRead_quiet _ _ _)) fun _ => ?_
      refine .ite (ih _ _) (.exceptBind (refuse_quiet _ _) fun _ => ?_)
      refine .exceptBind (need_quiet (slotAuthorityRead_quiet _)) fun _ => ?_
      exact .exceptBind (refuse_quiet _ _) fun _ => ih _ _

theorem readSlot_quiet (bound : Option TaskIdentity) (selected : Nat) :
    Quiet (readSlot access layout bound selected).run := by
  cases bound with
  | none => exact .exceptBind (findSelected_quiet _ _ _ _) fun _ => need_quiet trivial
  | some identity =>
      refine .exceptBind (refuse_quiet _ _) fun _ => .exceptBind (need_quiet (slotAuthorityRead_quiet _)) fun _ => ?_
      exact .exceptBind (refuse_quiet _ _) fun _ => .exceptBind (refuse_quiet _ _) fun _ => trivial

theorem checkValue_quiet (value : TaskSnapshot) (authority : SlotAuthority) :
    Quiet (checkValue access layout value authority).run := by
  refine .exceptBind (refuse_quiet _ _) fun _ => .exceptBind (refuse_quiet _ _) fun _ => ?_
  refine .exceptBind (need_quiet (check_quiet (dataRange_quiet _ _ _ _))) fun _ => ?_
  refine .exceptBind (refuse_quiet _ _) fun _ => .exceptBind (refuse_quiet _ _) fun _ => ?_
  refine .exceptBind (refuse_quiet _ _) fun _ => .exceptBind (need_quiet (dataRead_quiet _ _ _)) fun _ => ?_
  exact .exceptBind (refuse_quiet _ _) fun _ => .exceptBind (refuse_quiet _ _) fun _ => trivial

theorem recheckValue_quiet (bound : Option TaskIdentity) (minimumCounter : Nat) (words : ServiceWords)
    (value : TaskSnapshot) (authority : SlotAuthority) (vtable : Nat) :
    Quiet (recheckValue access layout bound minimumCounter words value authority vtable).run := by
  refine .exceptBind (need_quiet (slotAuthorityRead_quiet _)) fun _ => ?_
  refine .exceptBind (need_quiet readServiceWords_quiet) fun _ => ?_
  refine .exceptBind (refuse_quiet _ _) fun _ => .exceptBind (refuse_quiet _ _) fun _ => ?_
  refine .exceptBind (need_quiet (dataRead_quiet _ _ _)) fun _ => .exceptBind (refuse_quiet _ _) fun _ => ?_
  exact .exceptBind (need_quiet taskOwned_quiet) fun _ => refuse_quiet _ _

theorem settleSchedule_quiet (value : TaskSnapshot) (before : Option TaskSchedule) :
    Quiet (settleSchedule access layout value before) := by
  cases before with
  | none => trivial
  | some before =>
      refine .bind (readSchedule_quiet _) fun after => ?_
      cases after with
      | none => trivial
      | some after => trivial

theorem readTask_quiet (bound : Option TaskIdentity) (minimumCounter : Nat) :
    Quiet (readTask access layout bound minimumCounter).run := by
  refine .exceptBind (lift_quiet entryReason_quiet) fun _ => .exceptBind (refuse_quiet _ _) fun _ => ?_
  refine .exceptBind (refuse_quiet _ _) fun _ => .exceptBind (need_quiet (check_quiet admitted_quiet)) fun _ => ?_
  refine .exceptBind (need_quiet readServiceWords_quiet) fun _ => .exceptBind (refuse_quiet _ _) fun _ => ?_
  refine .exceptBind (refuse_quiet _ _) fun _ => .exceptBind (refuse_quiet _ _) fun _ => ?_
  refine .exceptBind (refuse_quiet _ _) fun _ => .exceptBind (refuse_quiet _ _) fun _ => ?_
  refine .exceptBind (readSlot_quiet _ _) fun _ => .exceptBind (checkValue_quiet _ _) fun _ => ?_
  refine .exceptBind (lift_quiet (readSchedule_quiet _)) fun _ => ?_
  refine .exceptBind (recheckValue_quiet _ _ _ _ _ _) fun _ => ?_
  refine .exceptBind (lift_quiet (settleSchedule_quiet _ _)) fun _ => ?_
  exact .exceptBind (need_quiet taskOwned_quiet) fun _ => trivial

end RS2ServerFix.Task
