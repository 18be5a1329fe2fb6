import RS2ServerFix.Task.BindingRuns

namespace RS2ServerFix.Task

open Reporting Lib

/-- A host that does not change: its memory with the spans that can be read,
its regions and its gates. -/
structure TaskTable where
  memory : Nat → UInt8
  readable : Nat → Nat → Bool
  region : Nat → Option MemoryRegion
  exchange : Nat → Nat → Nat → ExchangeAnswer
  admission : Bool
  safeOwner : Bool
  ownerThread : Bool

namespace TaskTable

def bytes (t : TaskTable) (address count : Nat) : List UInt8 := (List.range count).map fun i => t.memory (address + i)

def word (t : TaskTable) (address size : Nat) : Nat := field (t.bytes address size) 0 size

theorem bytes_length (t : TaskTable) (address count : Nat) : (t.bytes address count).length = count := by
  rw [bytes, List.length_map, List.length_range]

def answer (t : TaskTable) : (q : TaskQuestion) → TaskAnswer q
  | .query address => t.region address
  | .read address count =>
      if t.readable address count then some ⟨(t.bytes address count).toArray, t.bytes_length address count⟩ else none
  | .exchange address expected desired => t.exchange address expected desired
  | .admission => t.admission
  | .safeOwner => t.safeOwner
  | .ownerThread => t.ownerThread

end TaskTable

variable {access : TaskAccess} {layout : TaskLayout} {t : TaskTable} {α : Type}

abbrev reads (t : TaskTable) (p : TaskTry α) : Option α := p.run.answered t.answer

abbrev finds (t : TaskTable) (p : TaskRead α) : Except Reason α := p.run.answered t.answer

theorem finds_bind {β : Type} {p : TaskRead α} {f : α → TaskRead β} {b : β} :
    finds t (p >>= f) = .ok b ↔ ∃ a, finds t p = .ok a ∧ finds t (f a) = .ok b := Ask.answered_exceptBind _

theorem finds_pure {a b : α} : finds t (pure a) = .ok b ↔ a = b := by
  constructor
  · intro h
    cases h
    rfl
  · rintro rfl
    rfl

theorem finds_lift {p : TaskAsk α} {a : α} : finds t (ExceptT.lift p) = .ok a ↔ p.answered t.answer = a := by
  have h : finds t (ExceptT.lift p) = .ok (p.answered t.answer) := Ask.answered_bind _ p _
  rw [h]
  constructor
  · intro h
    cases h
    rfl
  · rintro rfl
    rfl

theorem finds_need {reason : Reason} {p : TaskTry α} {a : α} : finds t (need reason p) = .ok a ↔ reads t p = some a := by
  have h : finds t (need reason p) = (reads t p).elim (.error reason) .ok := by
    refine (Ask.answered_bind _ p.run _).trans ?_
    rw [reads]
    cases Ask.answered _ p.run <;> rfl
  rw [h]
  cases reads t p with
  | none =>
      constructor
      · intro h
        cases h
      · intro h
        cases h
  | some b =>
      constructor
      · intro h
        cases h
        rfl
      · intro h
        cases h
        rfl

theorem finds_refuse {reason : Reason} {b : Bool} {u : Unit} : finds t (refuse reason b) = .ok u ↔ b = false := by
  cases b with
  | false => exact ⟨fun _ => rfl, fun _ => rfl⟩
  | true =>
      constructor
      · intro h
        cases h
      · intro h
        cases h

structure Entered (access : TaskAccess) (layout : TaskLayout) (t : TaskTable) (words : ServiceWords) : Prop where
  entry : (entryReason access).answered t.answer = .none
  valid : layoutValid access layout = true
  admission : reads t (check (admitted access)) = some ()
  read : reads t (readServiceWords access layout) = some words
  sentinel : words.sentinel = 0
  selected : words.selected ≠ 0
  service : words.service = 3
  counter : words.counter ≠ 0
  issued : words.selected ≤ words.counter

def outcome (access : TaskAccess) (layout : TaskLayout) (t : TaskTable) (words : ServiceWords) (value : TaskSnapshot) :
    TaskSnapshot :=
  { value with
    nativeCounter := words.counter
    schedule := (settleSchedule access layout value (reads t (readSchedule access layout value.identity))).answered
      t.answer }

/-- What a reading with a bound asks of the counter beyond one without. -/
def Counts (minimum : Nat) (words : ServiceWords) : Prop :=
  words.counter ≠ 0 ∧ minimum ≤ words.counter ∧ words.selected ≤ words.counter

theorem counts_iff {bound : Option TaskIdentity} {minimum : Nat} {words : ServiceWords} :
    (bound.isSome && (decide (words.counter = 0) || decide (words.counter < minimum) ||
      decide (words.counter < words.selected))) = false ↔ (bound.isSome = true → Counts minimum words) := by
  simp only [Bool.and_eq_false_imp, Bool.or_eq_false_iff, decide_eq_false_iff_not, not_lt, Counts, and_assoc]

theorem readTask_finds {bound : Option TaskIdentity} {minimum : Nat} {s : TaskSnapshot} :
    finds t (readTask access layout bound minimum) = .ok s ↔
      ∃ words value vtable, Entered access layout t words ∧ (bound.isSome = true → Counts minimum words) ∧
        finds t (readSlot access layout bound words.selected) = .ok value ∧
        finds t (checkValue access layout value.1 value.2) = .ok vtable ∧
        finds t (recheckValue access layout bound minimum words value.1 value.2 vtable) = .ok () ∧
        reads t (taskOwned access) = some () ∧ outcome access layout t words value.1 = s := by
  simp only [readTask, finds_bind, finds_refuse, finds_need, finds_lift, finds_pure, exists_const, counts_iff,
    decide_eq_false_iff_not, Decidable.not_not, Bool.not_eq_false', Bool.or_eq_false_iff, not_lt]
  constructor
  · rintro ⟨_, rfl, hentry, hvalid, _, hadmitted, words, hwords, hcounts, hsentinel, hselected, hservice, hcounter,
      value, hvalue, vtable, hvtable, _, rfl, _, hagain, _, rfl, _, howned, hs⟩
    exact ⟨words, value, vtable, ⟨hentry, hvalid, hadmitted, hwords, hsentinel, hselected, hservice, hcounter.1,
      hcounter.2⟩, hcounts, hvalue, hvtable, hagain, howned, hs⟩
  · rintro ⟨words, value, vtable, he, hcounts, hvalue, hvtable, hagain, howned, hs⟩
    exact ⟨_, rfl, he.entry, he.valid, _, he.admission, words, he.read, hcounts, he.sentinel, he.selected, he.service,
      ⟨he.counter, he.issued⟩, value, hvalue, vtable, hvtable, _, rfl, _, hagain, _, rfl, _, howned, hs⟩

/-- The second reading of a bound task only adds that it is the bound one. -/
theorem recheckValue_bound {identity : TaskIdentity} {minimum : Nat} {words : ServiceWords} {value : TaskSnapshot}
    {authority : SlotAuthority} {vtable : Nat} (hwords : reads t (readServiceWords access layout) = some words)
    (hcounts : Counts minimum words) :
    finds t (recheckValue access layout (some identity) minimum words value authority vtable) = .ok () ↔
      finds t (recheckValue access layout none 0 words value authority vtable) = .ok () ∧ value.identity = identity := by
  simp only [recheckValue, finds_bind, finds_refuse, finds_need, Option.isSome_some, Option.isSome_none,
    Option.any_some, Option.any_none, Bool.true_and, Bool.false_and, decide_eq_false_iff_not, Decidable.not_not]
  constructor
  · rintro ⟨again, hagain, wordsAgain, hwordsAgain, _, _, _, hauthority, vtableAgain, hvtable, _, hsame, _, howned,
      hbound⟩
    exact ⟨⟨again, hagain, wordsAgain, hwordsAgain, (), trivial, (), hauthority, vtableAgain, hvtable, (), hsame, (),
      howned, trivial⟩, hbound⟩
  · rintro ⟨⟨again, hagain, wordsAgain, hwordsAgain, _, _, _, hauthority, vtableAgain, hvtable, _, hsame, _, howned, _⟩,
      hbound⟩
    rw [hwords] at hwordsAgain
    cases hwordsAgain
    refine ⟨again, hagain, words, hwords, (), ?_, (), hauthority, vtableAgain, hvtable, (), hsame, (), howned, hbound⟩
    simp only [Bool.or_eq_false_iff, decide_eq_false_iff_not, not_lt, le_refl, and_true]
    exact ⟨⟨hcounts.1, hcounts.2.1⟩, hcounts.2.2⟩

theorem reads_bind {β : Type} {p : TaskTry α} {f : α → TaskTry β} {b : β} :
    reads t (p >>= f) = some b ↔ ∃ a, reads t p = some a ∧ reads t (f a) = some b := Ask.answered_optionBind _

theorem TaskTable.field_bytes {address count offset size : Nat} (h : offset + size ≤ count) :
    field (t.bytes address count) offset size = t.word (address + offset) size := by
  have hbytes : ((t.bytes address count).drop offset).take size = t.bytes (address + offset) size := by
    refine List.ext_getElem ?_ fun i h1 h2 => ?_
    · rw [List.length_take, List.length_drop, TaskTable.bytes_length, TaskTable.bytes_length]
      omega
    · simp only [TaskTable.bytes, List.getElem_take, List.getElem_drop, List.getElem_map, List.getElem_range]
      congr 1
      omega
  have hword : ((t.bytes (address + offset) size).drop 0).take size = t.bytes (address + offset) size := by
    rw [List.drop_zero, List.take_of_length_le (TaskTable.bytes_length t _ _).le]
  rw [TaskTable.word, field, field, hbytes, hword]

theorem dataRead_reads {address count : Nat} {image : Bool} {bytes : List UInt8}
    (h : reads t (dataRead access address count image) = some bytes) : bytes = t.bytes address count := by
  obtain ⟨_, _, h⟩ := reads_bind.mp h
  obtain ⟨_, _, h⟩ := reads_bind.mp h
  obtain ⟨_, _, h⟩ := reads_bind.mp h
  obtain ⟨value, hvalue, h⟩ := reads_bind.mp h
  obtain ⟨_, _, h⟩ := reads_bind.mp h
  have hanswer : (if t.readable address count then
      some ⟨(t.bytes address count).toArray, t.bytes_length address count⟩ else none : Option (Vector UInt8 count)) =
      some value := hvalue
  split at hanswer
  · cases hanswer
    cases h
    rfl
  · cases hanswer

def Holds (access : TaskAccess) (layout : TaskLayout) (t : TaskTable) (id slot : Nat) : Prop :=
  ∃ a, slotAddress access layout slot = some a ∧ t.word a 4 ≠ 0 ∧ t.word (a + 4) 4 = id

/-- What was read of a slot is what it holds. -/
theorem slotAuthorityRead_reads {slot : Nat} {value : TaskSnapshot × SlotAuthority}
    (h : reads t (slotAuthorityRead access layout slot) = some value) :
    value.1.identity.slot = slot ∧
      ∃ a, slotAddress access layout slot = some a ∧ value.1.state = t.word a 4 ∧
        value.1.identity.id = t.word (a + 4) 4 := by
  obtain ⟨a, ha, h⟩ := reads_bind.mp h
  obtain ⟨head, hhead, h⟩ := reads_bind.mp h
  obtain ⟨fields, _, h⟩ := reads_bind.mp h
  obtain ⟨metadata, _, h⟩ := reads_bind.mp h
  obtain rfl := dataRead_reads hhead
  cases h
  exact ⟨rfl, a, ha, TaskTable.field_bytes (by decide), TaskTable.field_bytes (by decide)⟩

theorem holds_iff {slot id : Nat} {value : TaskSnapshot × SlotAuthority}
    (h : reads t (slotAuthorityRead access layout slot) = some value) :
    Holds access layout t id slot ↔ value.1.state ≠ 0 ∧ value.1.identity.id = id := by
  obtain ⟨_, a, ha, hstate, hid⟩ := slotAuthorityRead_reads h
  rw [hstate, hid]
  constructor
  · rintro ⟨b, hb, hactive, hid⟩
    rw [ha] at hb
    cases hb
    exact ⟨hactive, hid⟩
  · rintro ⟨hactive, hid⟩
    exact ⟨a, ha, hactive, hid⟩

/-- The header of every slot can be read, and no two active tasks have one id. -/
structure Pool (access : TaskAccess) (layout : TaskLayout) (t : TaskTable) : Prop where
  readable : ∀ slot < kTaskSlots, ∀ a, slotAddress access layout slot = some a →
    reads t (dataRead access a 8 true) ≠ none
  distinct : ∀ id i j, Holds access layout t id i → Holds access layout t id j → i = j

theorem slotAddress_isSome (hvalid : layoutValid access layout = true) {slot : Nat} (h : slot < kTaskSlots) :
    ∃ a, slotAddress access layout slot = some a := by
  have hpool : (address access layout.poolRva (kTaskSlots * kStride)).isSome = true := by
    simp only [layoutValid, Bool.and_eq_true] at hvalid
    exact hvalid.1.1.1.1.1.1.1.2
  have hstride : kStride = 0x78 := rfl
  have hslots : kTaskSlots = 128 := rfl
  rw [address] at hpool
  split at hpool
  · cases hpool
  · rename_i hfits
    have hle := Nat.mod_le (layout.poolRva + slot * kStride) (2 ^ 32)
    rw [slotAddress, if_pos ⟨h, hvalid⟩, address, if_neg (by rw [hstride] at *; omega)]
    exact ⟨_, rfl⟩

theorem Pool.header (h : Pool access layout t) (hvalid : layoutValid access layout = true) {slot : Nat}
    (hslot : slot < kTaskSlots) :
    ∃ a, slotAddress access layout slot = some a ∧ reads t (dataRead access a 8 true) = some (t.bytes a 8) := by
  obtain ⟨a, ha⟩ := slotAddress_isSome hvalid hslot
  cases hread : reads t (dataRead access a 8 true) with
  | none => exact absurd hread (h.readable slot hslot a ha)
  | some bytes =>
      obtain rfl := dataRead_reads hread
      exact ⟨a, ha, hread⟩

section

variable {selected count index : Nat} {found : Option (TaskSnapshot × SlotAuthority)}
  {value : TaskSnapshot × SlotAuthority}

theorem findSelected_skip (h : Pool access layout t) (hvalid : layoutValid access layout = true)
    (hfit : index + count ≤ kTaskSlots)
    (hnone : ∀ i, index ≤ i → i < index + count → ¬ Holds access layout t selected i) :
    finds t (findSelected access layout selected count index found) = .ok found := by
  induction count generalizing index with
  | zero => rfl
  | succ count ih =>
      obtain ⟨a, ha, hread⟩ := h.header hvalid (by omega : index < kTaskSlots)
      refine finds_bind.mpr ⟨a, finds_need.mpr ?_, finds_bind.mpr ⟨t.bytes a 8, finds_need.mpr hread, ?_⟩⟩
      · rw [ha]
        rfl
      · dsimp only
        rw [TaskTable.field_bytes (by decide), TaskTable.field_bytes (by decide), if_pos]
        · exact ih (by omega) fun i hi hlt => hnone i (by omega) (by omega)
        · by_contra hc
          rw [not_or, Decidable.not_not] at hc
          exact hnone index (Nat.le_refl _) (by omega) ⟨a, ha, hc⟩

theorem findSelected_hit (h : Pool access layout t) (hvalid : layoutValid access layout = true)
    (hfit : index + count ≤ kTaskSlots) {slot : Nat} (hle : index ≤ slot) (hlt : slot < index + count)
    (hslot : Holds access layout t selected slot) (hread : reads t (slotAuthorityRead access layout slot) = some value) :
    finds t (findSelected access layout selected count index none) = .ok (some value) := by
  induction count generalizing index with
  | zero => omega
  | succ count ih =>
      obtain ⟨a, ha, hheader⟩ := h.header hvalid (by omega : index < kTaskSlots)
      refine finds_bind.mpr ⟨a, finds_need.mpr ?_, finds_bind.mpr ⟨t.bytes a 8, finds_need.mpr hheader, ?_⟩⟩
      · rw [ha]
        rfl
      · dsimp only
        rw [TaskTable.field_bytes (by decide), TaskTable.field_bytes (by decide)]
        by_cases hhere : index = slot
        · subst hhere
          obtain ⟨_, b, hb, hstate, hid⟩ := slotAuthorityRead_reads hread
          obtain ⟨b', hb', hactive, hsel⟩ := hslot
          rw [ha] at hb hb'
          cases hb
          cases hb'
          rw [if_neg (by rw [not_or, Decidable.not_not]; exact ⟨hactive, hsel⟩)]
          refine finds_bind.mpr ⟨(), rfl, finds_bind.mpr ⟨value, finds_need.mpr hread, finds_bind.mpr ⟨(), ?_, ?_⟩⟩⟩
          · refine finds_refuse.mpr ?_
            rw [Bool.or_eq_false_iff, decide_eq_false_iff_not, decide_eq_false_iff_not, Decidable.not_not,
              Decidable.not_not]
            exact ⟨hstate, hid⟩
          · refine findSelected_skip h hvalid (by omega) fun i hi _ hheld => ?_
            have := h.distinct selected i index hheld ⟨a, ha, hactive, hsel⟩
            omega
        · rw [if_pos]
          · exact ih (by omega) (by omega) (by omega)
          · by_contra hc
            rw [not_or, Decidable.not_not] at hc
            exact hhere (h.distinct selected index slot ⟨a, ha, hc⟩ hslot)

theorem findSelected_finds
    (h : finds t (findSelected access layout selected count index found) = .ok (some value)) :
    found = some value ∨ ∃ slot, reads t (slotAuthorityRead access layout slot) = some value ∧
      Holds access layout t selected slot := by
  induction count generalizing index found with
  | zero =>
      cases h
      exact .inl rfl
  | succ count ih =>
      obtain ⟨a, ha, h⟩ := finds_bind.mp h
      obtain ⟨header, hheader, h⟩ := finds_bind.mp h
      dsimp only at h
      split at h
      · exact ih h
      · rename_i hsel
        obtain rfl := dataRead_reads (finds_need.mp hheader)
        obtain ⟨_, _, h⟩ := finds_bind.mp h
        obtain ⟨v, hv, h⟩ := finds_bind.mp h
        obtain ⟨_, _, h⟩ := finds_bind.mp h
        rcases ih h with hfound | hslot
        · cases hfound
          rw [TaskTable.field_bytes (by decide), TaskTable.field_bytes (by decide), not_or, Decidable.not_not] at hsel
          exact .inr ⟨index, finds_need.mp hv, a, finds_need.mp ha, hsel⟩
        · exact .inr hslot

/-- Both ways to find the slot come to the one that holds the selected task. -/
theorem readSlot_selected (h : Pool access layout t) (hvalid : layoutValid access layout = true) :
    finds t (readSlot access layout none selected) = .ok value ↔
      ∃ slot, reads t (slotAuthorityRead access layout slot) = some value ∧ Holds access layout t selected slot := by
  constructor
  · intro hfinds
    obtain ⟨found, hfound, hneed⟩ := finds_bind.mp hfinds
    obtain rfl : found = some value := finds_need.mp hneed
    rcases findSelected_finds hfound with hnone | hslot
    · cases hnone
    · exact hslot
  · rintro ⟨slot, hread, hslot⟩
    have hlt : slot < kTaskSlots := by
      obtain ⟨a, ha, _⟩ := hslot
      rw [slotAddress] at ha
      split at ha
      · rename_i hc
        exact hc.1
      · cases ha
    exact finds_bind.mpr ⟨some value, findSelected_hit h hvalid (by omega) (Nat.zero_le _) (by omega) hslot hread,
      finds_need.mpr rfl⟩

theorem readSlot_bound {identity : TaskIdentity} :
    finds t (readSlot access layout (some identity) selected) = .ok value ↔
      selected = identity.id ∧ reads t (slotAuthorityRead access layout identity.slot) = some value ∧
        Holds access layout t selected identity.slot := by
  rw [readSlot]
  simp only [finds_bind, finds_refuse, finds_need, finds_pure, decide_eq_false_iff_not, Decidable.not_not]
  constructor
  · rintro ⟨_, hsel, v, hread, _, hactive, _, hid, rfl⟩
    exact ⟨hsel, hread, (holds_iff hread).mpr ⟨hactive, hid⟩⟩
  · rintro ⟨hsel, hread, hslot⟩
    obtain ⟨hactive, hid⟩ := (holds_iff hread).mp hslot
    exact ⟨(), hsel, value, hread, (), hactive, (), hid, rfl⟩

end

/-- A reading with a bound is one without that came to the bound task. -/
theorem readTask_bound (h : Pool access layout t) {identity : TaskIdentity} {minimum : Nat} {s : TaskSnapshot}
    (hminimum : ∀ words, reads t (readServiceWords access layout) = some words → minimum ≤ words.counter) :
    finds t (readTask access layout (some identity) minimum) = .ok s ↔
      finds t (readSelectedTask access layout) = .ok s ∧ s.identity = identity := by
  rw [readSelectedTask, readTask_finds, readTask_finds]
  constructor
  · rintro ⟨words, value, vtable, he, hcounts, hslot, hvalue, hagain, howned, rfl⟩
    obtain ⟨hid, hread, hslot⟩ := readSlot_bound.mp hslot
    obtain ⟨hagain, hidentity⟩ := (recheckValue_bound he.read (hcounts rfl)).mp hagain
    exact ⟨⟨words, value, vtable, he, Bool.noConfusion, (readSlot_selected h he.valid).mpr ⟨_, hread, hslot⟩, hvalue,
      hagain, howned, rfl⟩, hidentity⟩
  · rintro ⟨⟨words, value, vtable, he, _, hslot, hvalue, hagain, howned, rfl⟩, rfl⟩
    obtain ⟨slot, hread, hslot⟩ := (readSlot_selected h he.valid).mp hslot
    obtain ⟨rfl, _⟩ := slotAuthorityRead_reads hread
    have hcounts : Counts minimum words := ⟨he.counter, hminimum words he.read, he.issued⟩
    exact ⟨words, value, vtable, he, fun _ => hcounts,
      readSlot_bound.mpr ⟨((holds_iff hread).mp hslot).2.symm, hread, hslot⟩, hvalue,
      (recheckValue_bound he.read hcounts).mpr ⟨hagain, rfl⟩, howned, rfl⟩

theorem imageRead_reads {rva count v : Nat} (h : reads t (imageRead access rva count) = some v) :
    v = t.word (access.hostBase + rva) count := by
  obtain ⟨a, ha, h⟩ := reads_bind.mp h
  obtain ⟨value, hvalue, h⟩ := reads_bind.mp h
  obtain rfl := dataRead_reads hvalue
  have haddress : address access rva count = some a := ha
  rw [address] at haddress
  split at haddress
  · cases haddress
  · cases haddress
    cases h
    rfl

/-- The creations of tasks that the table counts. -/
def TaskTable.counter (access : TaskAccess) (layout : TaskLayout) (t : TaskTable) : Nat :=
  t.word (access.hostBase + layout.counterRva) 4

theorem readServiceWords_counter {words : ServiceWords} (h : reads t (readServiceWords access layout) = some words) :
    words.counter = t.counter access layout := by
  obtain ⟨selected, _, h⟩ := reads_bind.mp h
  obtain ⟨sentinel, _, h⟩ := reads_bind.mp h
  obtain ⟨counter, hcounter, h⟩ := reads_bind.mp h
  obtain ⟨service, _, h⟩ := reads_bind.mp h
  obtain rfl := imageRead_reads hcounter
  cases h
  rfl

theorem readSelectedTask_counts (h : Pool access layout t) {s : TaskSnapshot}
    (hs : finds t (readSelectedTask access layout) = .ok s) :
    s.nativeCounter ≠ 0 ∧ s.identity.id ≤ s.nativeCounter ∧ s.nativeCounter = t.counter access layout := by
  obtain ⟨words, value, vtable, he, _, hslot, _, _, _, rfl⟩ := readTask_finds.mp hs
  obtain ⟨slot, hread, hslot⟩ := (readSlot_selected h he.valid).mp hslot
  have hid := ((holds_iff hread).mp hslot).2
  refine ⟨he.counter, ?_, readServiceWords_counter he.read⟩
  show value.1.identity.id ≤ words.counter
  rw [hid]
  exact he.issued

variable {events : TaskEvents} {r : TaskReturn} {b b' : TaskBinding}

def Ends (p : TaskRead α) (a : α) : Prop := ∃ events, Yields p.run events (.ok a)

theorem Ends.of_bind {β : Type} {p : TaskRead α} {f : α → TaskRead β} {c : β} (h : Ends (p >>= f) c) :
    ∃ a, Ends p a ∧ Ends (f a) c := by
  obtain ⟨events, h⟩ := h
  obtain ⟨before, a, after, _, hp, hf⟩ := Yields.of_bind (p := p.run) (f := ExceptT.bindCont f) h
  cases a with
  | error reason => cases hf
  | ok a => exact ⟨a, ⟨before, hp⟩, ⟨after, hf⟩⟩

theorem Ends.of_refuse {reason : Reason} {refused : Bool} {u : Unit} (h : Ends (refuse reason refused) u) :
    refused = false := by
  obtain ⟨events, h⟩ := h
  cases refused with
  | false => rfl
  | true => cases h

theorem findSelected_ends {selected count index : Nat} {found : Option (TaskSnapshot × SlotAuthority)}
    {value : TaskSnapshot × SlotAuthority}
    (h : Ends (findSelected access layout selected count index found) (some value)) :
    found = some value ∨ value.1.identity.id = selected := by
  induction count generalizing index found with
  | zero =>
      obtain ⟨events, h⟩ := h
      cases h
      exact .inl rfl
  | succ count ih =>
      obtain ⟨a, _, h⟩ := h.of_bind
      obtain ⟨header, _, h⟩ := h.of_bind
      dsimp only at h
      split at h
      · exact ih h
      · rename_i hsel
        obtain ⟨_, _, h⟩ := h.of_bind
        obtain ⟨v, _, h⟩ := h.of_bind
        obtain ⟨_, hsame, h⟩ := h.of_bind
        rcases ih h with hfound | hid
        · cases hfound
          have hsame := hsame.of_refuse
          simp only [Bool.or_eq_false_iff, decide_eq_false_iff_not, Decidable.not_not] at hsame
          simp only [not_or, Decidable.not_not] at hsel
          exact .inr (hsame.2.trans hsel.2)
        · exact .inr hid

theorem readSelectedTask_ends {s : TaskSnapshot} (h : Ends (readSelectedTask access layout) s) :
    s.nativeCounter ≠ 0 ∧ s.identity.id ≠ 0 := by
  obtain ⟨_, _, h⟩ := h.of_bind
  obtain ⟨_, _, h⟩ := h.of_bind
  obtain ⟨_, _, h⟩ := h.of_bind
  obtain ⟨_, _, h⟩ := h.of_bind
  obtain ⟨words, _, h⟩ := h.of_bind
  obtain ⟨_, _, h⟩ := h.of_bind
  obtain ⟨_, _, h⟩ := h.of_bind
  obtain ⟨_, hselected, h⟩ := h.of_bind
  obtain ⟨_, _, h⟩ := h.of_bind
  obtain ⟨_, hcounter, h⟩ := h.of_bind
  obtain ⟨value, hvalue, h⟩ := h.of_bind
  obtain ⟨_, _, h⟩ := h.of_bind
  obtain ⟨_, _, h⟩ := h.of_bind
  obtain ⟨_, _, h⟩ := h.of_bind
  obtain ⟨_, _, h⟩ := h.of_bind
  obtain ⟨_, _, h⟩ := h.of_bind
  obtain ⟨events, h⟩ := h
  cases h
  have hcounter := hcounter.of_refuse
  have hselected := hselected.of_refuse
  simp only [Bool.or_eq_false_iff, decide_eq_false_iff_not] at hcounter hselected
  obtain ⟨found, hfound, _, hneed⟩ := hvalue.of_bind
  obtain rfl : found = some value := by
    cases found with
    | none => cases hneed
    | some v =>
        cases hneed
        rfl
  rcases findSelected_ends hfound with hnone | hid
  · cases hnone
  · exact ⟨hcounter.1, hid ▸ hselected⟩

theorem installTaskBinding_armed {epoch : TaskEpoch} (h : Yields (installTaskBinding b access layout epoch) events r)
    (hp : r.state.phase = .armed) : b.phase = .armed ∨ originalMatches b access layout = true := by
  obtain ⟨e1, entry, e2, rfl, h1, h2⟩ := h.of_bind
  have hrefused {e : TaskEvents} {reason : Reason} (hy : Yields (refused reason b) e r) : b.phase = .armed := by
    obtain ⟨_, rfl⟩ := refused_yields hy
    exact hp
  split at h2
  · exact .inl (hrefused h2)
  · split at h2
    · exact .inl (hrefused h2)
    · split at h2
      · exact .inl (hrefused h2)
      · split at h2
        · obtain ⟨_, _, _, hstate⟩ := (fault_yields h2).1.state
          rw [hstate] at hp
          cases hp
        · split at h2
          · exact .inl (hrefused h2)
          · rename_i hchecks
            simp only [not_or, Bool.not_eq_true', Bool.not_eq_false] at hchecks
            exact .inr hchecks.2.2.2.1

theorem fault_unarmed {reason : Reason} {undo : Bool} (h : Yields (fault b access layout reason undo) events r) :
    r.state.phase ≠ .armed := by
  obtain ⟨_, _, _, hstate⟩ := (fault_yields h).1.state
  rw [hstate]
  exact TaskPhase.noConfusion

theorem retireExchange_unarmed {slot : Nat} {current : TaskSnapshot} (hb : b.phase = .retired)
    (h : Yields (retireExchange b access layout slot current) events r) : r.state.phase ≠ .armed := by
  obtain ⟨e1, ok, e2, rfl, _, h2⟩ := h.of_bind
  obtain ⟨e3, after, e4, rfl, _, h4⟩ := h2.of_bind
  dsimp only at h4
  split at h4
  · exact fault_unarmed h4
  · obtain ⟨e5, own, e6, rfl, _, h6⟩ := h4.of_bind
    split at h6
    · obtain ⟨_, rfl⟩ := Yields.done_iff.mp h6
      dsimp only
      rw [hb]
      exact TaskPhase.noConfusion
    · exact fault_unarmed h6

/-- A retirement never arms: the wrapper stays armed only where it refuses. -/
theorem retireTaskBinding_armed {reason : Reason} (h : Yields (retireTaskBinding b access layout reason) events r)
    (hp : r.state.phase = .armed) : b.phase = .armed := by
  obtain ⟨e1, entry, e2, rfl, _, h2⟩ := h.of_bind
  have hrefused {e : TaskEvents} {reason : Reason} (hy : Yields (refused reason b) e r) : b.phase = .armed := by
    obtain ⟨_, rfl⟩ := refused_yields hy
    exact hp
  have hfault {e : TaskEvents} {reason : Reason} {undo : Bool} (hy : Yields (fault b access layout reason undo) e r) :
      b.phase = .armed := absurd hp (fault_unarmed hy)
  have hretired {e : TaskEvents} {a : TaskReturn} (hy : Yields (.done a : TaskAsk TaskReturn) e r)
      (ha : a.state.phase = .retired) : b.phase = .armed := by
    obtain ⟨_, rfl⟩ := Yields.done_iff.mp hy
    rw [ha] at hp
    cases hp
  split at h2
  · exact hrefused h2
  · split at h2
    · exact hrefused h2
    · split at h2
      · exact hfault h2
      · split at h2
        · rw [retireUnbound] at h2
          split at h2
          · obtain ⟨e3, current, e4, rfl, _, h4⟩ := h2.of_bind
            exact hretired h4 rfl
          · exact hretired h2 rfl
        · split at h2
          · exact hfault h2
          · obtain ⟨e3, current, e4, rfl, _, h4⟩ := h2.of_bind
            cases current with
            | none => exact hfault h4
            | some current =>
                dsimp only at h4
                split at h4
                · split at h4
                  · exact hfault h4
                  · exact hretired h4 rfl
                · rw [retireOwned] at h4
                  split at h4
                  · exact hfault h4
                  · split at h4
                    · exact hrefused h4
                    · split at h4
                      · exact hfault h4
                      · split at h4
                        · exact hfault h4
                        · obtain ⟨e5, writable, e6, rfl, _, h6⟩ := h4.of_bind
                          split at h6
                          · exact absurd hp (retireExchange_unarmed rfl h6)
                          · exact hfault h6

theorem ReadEffect.armed (h : ReadEffect access layout b events r) (hp : r.state.phase = .armed) : b.phase = .armed := by
  rcases h with ⟨_, _, _, _, hf⟩ | ⟨_, hc, _⟩
  · obtain ⟨_, _, _, hstate⟩ := hf.state
    rw [hstate] at hp
    cases hp
  · rcases hc with he | ⟨_, _, he⟩
    · rw [he] at hp
      exact hp
    · rw [he] at hp
      exact hp

theorem TaskCall.armed (c : TaskCall) (h : Yields (c.perform b access layout) events r)
    (hp : r.state.phase = .armed) : b.phase = .armed ∨ originalMatches b access layout = true := by
  cases c with
  | install epoch => exact installTaskBinding_armed h hp
  | read => exact .inl ((readBoundTask_effect h).armed hp)
  | validate epoch borrowedHolder => exact .inl ((validateBuilderTask_effect h).armed hp)
  | retire reason => exact .inl (retireTaskBinding_armed h hp)

/-- What the reading of an armed binding asks of it. -/
structure ArmedFor (access : TaskAccess) (layout : TaskLayout) (b : TaskBinding) : Prop where
  matches_ : originalMatches b access layout = true
  counted : b.lastNativeCounter ≠ 0
  issued : b.lastBoundId ≠ 0

theorem TaskEffect.armed (h : TaskEffect access layout b events b') (hb : BindingInv b)
    (harmed : b.phase = .armed → ArmedFor access layout b)
    (hcall : b.phase = .armed ∨ originalMatches b access layout = true) (hp : b'.phase = .armed) :
    ArmedFor access layout b' := by
  cases h with
  | quiet hc =>
      rcases hc with rfl | ⟨n, hn, rfl⟩
      · exact harmed hp
      · have ha := harmed hp
        have hle := hn (hb.armed hp).2.2.1
        have hne := ha.counted
        exact ⟨ha.matches_, by dsimp only; omega, ha.issued⟩
  | faulted live doomed hf =>
      obtain ⟨_, _, _, hstate⟩ := hf.state
      rw [hstate] at hp
      cases hp
  | installFailed t epoch ha before after split answer first fault =>
      obtain ⟨_, _, _, hstate⟩ := fault.state
      rw [hstate] at hp
      cases hp
  | installed t epoch ha =>
      obtain ⟨before, read, after, _, _, _, hread⟩ := ha.read
      obtain ⟨hcounter, hid⟩ := readSelectedTask_ends ⟨read, hread⟩
      refine ⟨hcall.resolve_left fun hq => ?_, hcounter, hid⟩
      rcases ha.phase with hp | hp
      · rw [hq] at hp
        cases hp
      · rw [hq] at hp
        cases hp
  | retired continues live => cases hp
  | restored live => cases hp
  | restoreFailed live bound reason attempted stranded state =>
      subst state
      cases hp

theorem TaskRun.armed {w : BindingWorld} (run : TaskRun access layout w) (hp : w.state.phase = .armed) :
    ArmedFor access layout w.state := by
  induction run with
  | init original wrapper =>
      rw [initializeTaskBinding] at hp
      split at hp
      · cases hp
      · cases hp
  | step run move ih =>
      cases move with
      | call c h =>
          rw [BindingWorld.next_state] at hp ⊢
          exact (c.effect h).armed run.inv.inv ih (c.armed h hp) hp

theorem fault_answered {reason : Reason} {undo : Bool} :
    ((fault b access layout reason undo).answered t.answer).output = none := by
  rw [fault]
  dsimp only
  split
  · rw [Ask.bind_def, Ask.answered_bind]
    rfl
  · rfl

theorem counter_of_counts {s : TaskSnapshot} (hcounter : s.nativeCounter ≠ 0) (hid : s.identity.id ≤ s.nativeCounter)
    (hlast : b.lastNativeCounter ≤ s.nativeCounter) :
    counter b s = (true, { b with haveCounter := true, lastNativeCounter := s.nativeCounter }) := by
  rw [counter, if_neg]
  rw [not_or, not_or]
  exact ⟨hcounter, Nat.not_lt.mpr hid, fun hc => Nat.not_lt.mpr hlast hc.2⟩

/-- The armed binding of any run reads the bound task exactly where the whole
scan selects it, with the same snapshot. -/
theorem bound_read_agrees {w : BindingWorld} (run : TaskRun access layout w) (hp : w.state.phase = .armed)
    (h : Pool access layout t) (hcounter : w.state.lastNativeCounter ≤ t.counter access layout) (s : TaskSnapshot) :
    (((readBoundTask w.state access layout).answered t.answer).reason = .none ∧
        ((readBoundTask w.state access layout).answered t.answer).output = some s) ↔
      (readSelectedTask access layout).run.answered t.answer = .ok s ∧ s.identity = w.state.identity := by
  have ha := run.armed hp
  obtain ⟨hid, hhist, hcount, hcont, hlast, hbound⟩ := run.inv.inv.armed hp
  have hknown : boundHistory w.state = true := by
    simp only [boundHistory, hid, hhist, hcount, hcont, Bool.not_false, Bool.and_eq_true, decide_eq_true_eq, and_true,
      true_and]
    exact ⟨⟨⟨ha.counted, ha.issued⟩, hbound⟩, hlast⟩
  have hminimum : ∀ words, reads t (readServiceWords access layout) = some words →
      w.state.lastNativeCounter ≤ words.counter := by
    intro words hwords
    rw [readServiceWords_counter hwords]
    exact hcounter
  have hreads (s : TaskSnapshot) : finds t (readTask access layout (some w.state.identity) w.state.lastNativeCounter) =
      .ok s ↔ finds t (readSelectedTask access layout) = .ok s ∧ s.identity = w.state.identity :=
    readTask_bound h hminimum
  rw [readBoundTask, Ask.bind_def, Ask.answered_bind]
  by_cases hentry : (entryReason access).answered t.answer = .none
  · rw [if_neg (by rw [hentry]; exact fun hne => hne rfl), if_neg (by rw [hp]; exact TaskPhase.noConfusion),
      if_neg (by rw [hp]; exact fun hne => hne rfl), if_neg (by rw [ha.matches_]; exact Bool.noConfusion),
      if_neg (by rw [hknown]; exact Bool.noConfusion), Ask.bind_def, Ask.answered_bind]
    have hselects (s : TaskSnapshot) (hs : finds t (readSelectedTask access layout) = .ok s) :=
      readSelectedTask_counts h hs
    unfold finds at hreads hselects
    rw [← hreads s]
    generalize (readTask access layout (some w.state.identity) w.state.lastNativeCounter).run.answered t.answer = read
      at hreads ⊢
    cases read with
    | error reason =>
        have hout : ((if reason = .taskReused then fault w.state access layout reason true
            else refused reason w.state).answered t.answer).output = none := by
          split
          · exact fault_answered
          · rfl
        constructor
        · rintro ⟨_, ho⟩
          rw [hout] at ho
          cases ho
        · intro hs
          cases hs
    | ok current =>
        obtain ⟨hsel, hidentity⟩ := (hreads current).mp rfl
        obtain ⟨hne, hle, heq⟩ := hselects current hsel
        dsimp only
        rw [if_neg (fun hc => hc hidentity), counter_of_counts hne hle (by rw [heq]; exact hcounter)]
        constructor
        · rintro ⟨_, ho⟩
          cases ho
          rfl
        · intro hs
          cases hs
          exact ⟨rfl, rfl⟩
  · rw [if_pos hentry]
    constructor
    · rintro ⟨hnone, _⟩
      exact absurd hnone hentry
    · rintro ⟨hs, _⟩
      obtain ⟨words, _, _, he, _⟩ := readTask_finds.mp hs
      exact absurd he.entry hentry

def sampleHost : TaskTable where
  memory := sampleByte (sampleWords 5 7 sampleWrapper)
  readable := fun _ _ => true
  region := fun address => some ⟨address, 0x10000, 0x1000, memCommit, memImage, pageReadWrite⟩
  exchange := fun _ _ _ => ⟨false, 0⟩
  admission := true
  safeOwner := true
  ownerThread := true

theorem sampleHost_slots : ∀ slot : Fin kTaskSlots,
    slotAddress sampleAccess sampleLayout slot = some (0x11000 + slot * kStride) ∧
      (reads sampleHost (dataRead sampleAccess (0x11000 + slot * kStride) 8 true)).isSome = true ∧
      (slot.val ≠ 0 → sampleHost.word (0x11000 + slot * kStride) 4 = 0) := by decide +kernel

theorem sampleHost_pool : Pool sampleAccess sampleLayout sampleHost := by
  have hfirst (id i : Nat) (h : Holds sampleAccess sampleLayout sampleHost id i) : i = 0 := by
    obtain ⟨a, ha, hactive, _⟩ := h
    have hlt : i < kTaskSlots := by
      rw [slotAddress] at ha
      split at ha
      · rename_i hc
        exact hc.1
      · cases ha
    obtain ⟨hi, _, hempty⟩ := sampleHost_slots ⟨i, hlt⟩
    rw [ha] at hi
    cases hi
    by_contra hne
    exact hactive (hempty hne)
  refine ⟨fun slot hslot a ha => ?_, fun id i j hi hj => (hfirst id i hi).trans (hfirst id j hj).symm⟩
  obtain ⟨hs, hread, _⟩ := sampleHost_slots ⟨slot, hslot⟩
  rw [ha] at hs
  cases hs
  intro hnone
  rw [hnone] at hread
  cases hread

theorem sampleHost_selected : ((readSelectedTask sampleAccess sampleLayout).run.answered
    sampleHost.answer).toOption.map (fun s => s.identity) = some sampleInstall.2.state.identity ∧
      sampleInstall.2.state.lastNativeCounter = sampleHost.counter sampleAccess sampleLayout := by decide +kernel

theorem bound_read_agrees_sample : ∃ w s, TaskRun sampleAccess sampleLayout w ∧ w.state.phase = .armed ∧
    ((readBoundTask w.state sampleAccess sampleLayout).answered sampleHost.answer).output = some s := by
  have harmed := sampleInstall_armed
  have hyields := sampleInstall_yields
  have hselected := sampleHost_selected
  generalize sampleInstall.1 = events, sampleInstall.2 = r at harmed hyields hselected
  obtain ⟨hread, hcounter⟩ := hselected
  obtain ⟨s, hs, hidentity⟩ := Option.map_eq_some_iff.mp hread
  have run := (TaskRun.init sampleOriginal sampleWrapper).step (.call _ hyields)
  have hstate := BindingWorld.next_state ⟨initializeTaskBinding sampleOriginal sampleWrapper, [], false⟩ events r.state
  have hp := harmed
  rw [← hstate] at hp hidentity hcounter
  have hok : (readSelectedTask sampleAccess sampleLayout).run.answered sampleHost.answer = .ok s := by
    cases hf : (readSelectedTask sampleAccess sampleLayout).run.answered sampleHost.answer with
    | error reason =>
        rw [hf] at hs
        cases hs
    | ok s' =>
        rw [hf] at hs
        cases hs
        rfl
  exact ⟨_, s, run, hp, ((bound_read_agrees run hp sampleHost_pool hcounter.le s).mpr ⟨hok, hidentity⟩).2⟩

end RS2ServerFix.Task
