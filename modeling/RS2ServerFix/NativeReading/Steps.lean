import Mathlib.Data.List.Perm.Basic
import RS2ServerFix.NativeReading.Observe

namespace RS2ServerFix.NativeReading

open Lib Image Act
open RS2ServerFix.Task (MemoryRegion field)
open RS2ServerFix.LeechRecovery (RecoveryNativeResult)

/-- From this state the program ends in `post`, or is refused. -/
abbrev Runs {α : Type} (p : Reading α) (post : α → Reader → Prop) (s : Reader) : Prop :=
  p.Exits post (fun e _ => e ≠ .outside) s

structure Same (s t : Reader) : Prop where
  strings : t.strings = s.strings
  intervals : t.intervals = s.intervals
  total : t.totalVectorElements = s.totalVectorElements

namespace Same

variable {s t u : Reader}

theorem refl (s : Reader) : Same s s := ⟨rfl, rfl, rfl⟩

theorem trans (h : Same s t) (h' : Same t u) : Same s u :=
  ⟨h'.strings.trans h.strings, h'.intervals.trans h.intervals, h'.total.trans h.total⟩

end Same

def Finds {α : Type} (p : Reading α) (P : α → Prop) : Prop := ∀ s, Runs p (fun a t => Same s t ∧ P a) s

abbrev Looks {α : Type} (p : Reading α) : Prop := Finds p fun _ => True

section Finds

variable {α β : Type} {p p' : Reading α} {f : α → Reading β} {P P' : α → Prop} {R : β → Prop}

theorem Finds.mono (h : Finds p P) (hP : ∀ a, P a → P' a) : Finds p P' := fun s =>
  Exits.mono (h s) (fun a _ ht => ⟨ht.1, hP a ht.2⟩) fun _ _ => id

theorem Finds.looks (h : Finds p P) : Looks p := h.mono fun _ _ => trivial

theorem Finds.pure {a : α} (h : P a) : Finds (Pure.pure a : Reading α) P := fun s => ⟨Same.refl s, h⟩

theorem Looks.pure (a : α) : Looks (Pure.pure a : Reading α) := Finds.pure trivial

/-- A program that looks, before one that goes on from wherever the caches are then. -/
theorem Finds.runs (h : Finds p P) {post : β → Reader → Prop} {s : Reader}
    (hf : ∀ a t, Same s t → P a → Runs (f a) post t) : Runs (p >>= f) post s :=
  Exits.bind (Exits.mono (h s) (fun a t ht => hf a t ht.1 ht.2) fun _ _ => id)

theorem Finds.bind (h : Finds p P) (hf : ∀ a, P a → Finds (f a) R) : Finds (p >>= f) R := by
  intro s
  apply h.runs
  intro a t hst ha
  exact Exits.mono (hf a ha t) (fun b u hu => ⟨hst.trans hu.1, hu.2⟩) fun _ _ => id

theorem Looks.bind (h : Looks p) (hf : ∀ a, Finds (f a) R) : Finds (p >>= f) R := Finds.bind h fun a _ => hf a

theorem Finds.ite {b : Prop} {_ : Decidable b} (h : b → Finds p P) (h' : ¬b → Finds p' P) :
    Finds (if b then p else p') P := fun s => Exits.ite (fun hb => h hb s) fun hb => h' hb s

theorem Finds.getBind {f : Reader → Reading β} (hf : ∀ s, Finds (f s) R) : Finds (Act.get >>= f) R := fun s => hf s s

theorem Finds.each {f : α → Reading Unit} {as : List α} {P : α → Prop} (hf : ∀ a ∈ as, Finds (f a) fun _ => P a) :
    Finds (Act.each f as) fun _ => ∀ a ∈ as, P a := by
  induction as with
  | nil => exact Finds.pure fun a ha => absurd ha List.not_mem_nil
  | cons a rest ih =>
      refine Finds.bind (hf a List.mem_cons_self) fun _ ha => ?_
      exact (ih fun b hb => hf b (List.mem_cons_of_mem _ hb)).mono fun _ hrest => List.forall_mem_cons.mpr ⟨ha, hrest⟩

end Finds

section Basics

variable {α : Type} {refusal : Refusal}

theorem refuse_finds (P : α → Prop) : Finds (refuse refusal : Reading α) P := fun _ => fun h => Stop.noConfusion h

theorem require_finds (holds : Bool) : Finds (require refusal holds) fun _ => holds = true := by
  cases holds with
  | false => exact refuse_finds _
  | true => exact Finds.pure rfl

theorem need_finds {p : Reading (Option α)} {P : α → Prop} (h : Finds p fun found => ∀ a, found = some a → P a) :
    Finds (need refusal p) P := by
  apply h.bind
  intro found hfound
  cases found with
  | none => exact refuse_finds _
  | some a => exact Finds.pure (hfound a rfl)

theorem need_looks {p : Reading (Option α)} (h : Looks p) : Looks (need refusal p) :=
  need_finds (h.mono fun _ _ _ _ => trivial)

theorem demand_looks {p : Reading Bool} (h : Looks p) : Looks (demand refusal p) :=
  Looks.bind h fun holds => (require_finds holds).looks

theorem index_looks {i room : Nat} (h : i < room) : Looks (index i room) := by
  rw [index, if_pos h]
  exact Looks.pure ()

theorem cell_finds {cells : List α} {i : Nat} (h : i < cells.length) : Finds (cell cells i) fun a => cells[i]? = some a := by
  rw [cell, List.getElem?_eq_getElem h]
  exact Finds.pure rfl

end Basics

section Memory

theorem ask_looks (q : Look) : Looks (ask q) := fun s _ => ⟨Same.refl s, trivial⟩

theorem keep_same (address : Nat) (region : MemoryRegion) (s : Reader) : Same s (keep address region s) := by
  unfold keep
  split
  · exact ⟨rfl, rfl, rfl⟩
  · exact Same.refl s

theorem modify_looks {f : Reader → Reader} (h : ∀ s, Same s (f s)) : Looks (Act.modify f : Reading Unit) := fun s =>
  ⟨h s, trivial⟩

theorem look_looks (q : Look) : Looks (look q) := by
  cases q with
  | query address =>
      apply Finds.getBind
      intro s
      cases s.scope.lookup address with
      | some region => exact Looks.pure _
      | none =>
          apply Looks.bind (ask_looks _)
          intro answer
          cases Prod.fst (α := Option MemoryRegion) (β := UInt32) answer with
          | none => exact Looks.pure _
          | some region => exact Looks.bind (modify_looks (keep_same address region)) fun _ => Looks.pure _
  | read address size => exact ask_looks _

theorem through_looks {α : Type} (p : Ask Look Look.Answer α) : Looks (through p) := by
  induction p with
  | done a => exact Looks.pure a
  | ask q next ih => exact Looks.bind (look_looks q) ih

theorem told_looks {α : Type} (p : Told Look Look.Answer UInt32 α) : Looks (told p) := by
  apply Finds.getBind
  intro s
  apply Looks.bind (through_looks _)
  rintro ⟨a, error⟩
  exact Looks.bind (modify_looks fun s => ⟨rfl, rfl, rfl⟩) fun _ => Looks.pure a

variable (c : RecoveryNativeContext)

theorem rangeFrom_looks (writable heap : Bool) (stop left cursor : Nat) :
    Looks (rangeFrom c writable heap stop left cursor) := by
  induction left generalizing cursor with
  | zero => exact Looks.pure _
  | succ left ih =>
      refine Finds.ite (fun _ => ?_) fun _ => Looks.pure true
      apply Looks.bind (told_looks _)
      intro found
      cases found with
      | none => exact Looks.pure false
      | some r => exact Finds.ite (fun _ => ih _) fun _ => Looks.pure false

theorem range_looks (address bytes : Nat) (writable heap : Bool) : Looks (range c address bytes writable heap) := by
  refine Finds.ite (fun _ => Looks.pure false) fun _ => ?_
  cases add address bytes with
  | none => exact Looks.pure false
  | some stop => exact rangeFrom_looks c writable heap stop 32 address

theorem copy_finds (address bytes : Nat) : Finds (copy address bytes) fun found => ∀ b, found = some b → b.length = bytes := by
  apply Looks.bind (told_looks _)
  intro found
  apply Finds.pure
  intro b hb
  obtain ⟨v, -, rfl⟩ := Option.map_eq_some_iff.mp hb
  exact v.size_toArray

theorem read_finds (address bytes : Nat) : Finds (read c address bytes) fun found => ∀ b, found = some b → b.length = bytes := by
  apply Looks.bind (range_looks c _ _ _ _)
  intro holds
  cases holds with
  | false => exact Finds.pure fun b hb => by cases hb
  | true => exact copy_finds address bytes

theorem readInto_finds {room bytes : Nat} (address : Nat) (h : bytes ≤ room) :
    Finds (readInto c room address bytes) fun found => ∀ b, found = some b → b.length = bytes := by
  rw [readInto, if_neg h.not_gt]
  exact read_finds c address bytes

theorem fieldBytes_looks (object offset bytes : Nat) : Looks (fieldBytes c object offset bytes) := by
  unfold fieldBytes
  cases add object offset with
  | none => exact Looks.pure none
  | some address => exact (read_finds c _ _).looks

theorem fieldOf_looks (object offset bytes : Nat) : Looks (fieldOf c object offset bytes) :=
  Looks.bind (fieldBytes_looks c _ _ _) fun _ => Looks.pure _

theorem global_finds (rva bytes : Nat) : Finds (global c rva bytes) fun found => ∀ b, found = some b → b.length = bytes :=
  Finds.ite (fun _ => read_finds c _ _) fun _ => Finds.pure fun b hb => by cases hb

theorem globalNumber_looks (rva bytes : Nat) : Looks (globalNumber c rva bytes) :=
  Looks.bind (global_finds c _ _).looks fun _ => Looks.pure _

theorem sectionMatches_looks (rva size required forbidden : Nat) : Looks (sectionMatches c rva size required forbidden) := by
  apply Finds.getBind
  intro s
  apply Looks.bind (told_looks _)
  rintro ⟨found, kept⟩
  exact Looks.bind (modify_looks fun s => ⟨rfl, rfl, rfl⟩) fun _ => Looks.pure found

theorem constName_looks (pointer : Nat) (expected : String) : Looks (constName c pointer expected) := by
  refine Finds.ite (fun _ => Looks.pure false) fun _ => Finds.ite (fun _ => Looks.pure false) fun hbytes => ?_
  apply Looks.bind (told_looks _)
  intro protected_
  refine Finds.ite (fun _ => Looks.pure false) fun _ => ?_
  apply Looks.bind (sectionMatches_looks c _ _ _ _)
  intro matched
  refine Finds.ite (fun _ => Looks.pure false) fun _ => ?_
  have hpos : 0 < (nameBytes expected).length := by simp [nameBytes]
  apply Looks.bind (index_looks (by omega))
  intro _
  exact Looks.bind (copy_finds _ _).looks fun _ => Looks.pure _

end Memory

def stringExtent (a : RecoveryNativeString) : List RecoveryOwnedInterval :=
  if a.capacity < 16 then [] else [⟨a.data, a.data + (a.capacity + 1)⟩]

def vectorExtent (v : RecoveryNativeVector) : List RecoveryOwnedInterval := if v.start = 0 then [] else [⟨v.start, v.capacity⟩]

def publicIpExtent (ip : RecoveryPublicIp) : List RecoveryOwnedInterval :=
  if ip.data = 0 then [] else [⟨ip.data, ip.data + 2 * ip.capacity⟩]

def Apart (a b : RecoveryOwnedInterval) : Prop := a.stop ≤ b.start ∨ b.stop ≤ a.start

structure Proper (a : RecoveryOwnedInterval) : Prop where
  nonnull : a.start ≠ 0
  nonempty : a.start < a.stop
  addresses : a.stop ≤ uint64Max

structure StringFits (a : RecoveryNativeString) : Prop where
  size : a.size ≤ a.capacity
  capacity : a.capacity ≤ kRecoveryStringCapacity

structure VectorFits (v : RecoveryNativeVector) : Prop where
  elements : v.stringCount ≤ kRecoveryVectorElements
  capacity : v.capacity - v.start ≤ 32 * kRecoveryVectorCapacity
  used : v.start + 32 * v.stringCount = v.stop
  room : v.stop ≤ v.capacity

/-- What the arrays of the snapshot are like at every moment. -/
structure Sound (s : Reader) : Prop where
  apart : s.intervals.Pairwise Apart
  proper : ∀ a ∈ s.intervals, Proper a
  intervals : s.intervals.length ≤ kRecoveryOwnedIntervals
  fits : ∀ a ∈ s.strings, StringFits a
  strings : s.strings.length ≤ kRecoveryStringWitnesses
  total : s.totalVectorElements ≤ kRecoveryAllVectorElements

theorem Sound.same {s t : Reader} (h : Sound s) (hst : Same s t) : Sound t where
  apart := hst.intervals ▸ h.apart
  proper := hst.intervals ▸ h.proper
  intervals := hst.intervals ▸ h.intervals
  fits := hst.strings ▸ h.fits
  strings := hst.strings ▸ h.strings
  total := hst.total ▸ h.total

/-- What a part of the reading adds: extents of its own, strings with theirs, and elements of vectors. -/
structure Grows (s t : Reader) (extents : List RecoveryOwnedInterval) (found : List RecoveryNativeString)
    (elements : Nat) : Prop where
  strings : t.strings = s.strings ++ found
  intervals : t.intervals.Perm (s.intervals ++ extents ++ found.flatMap stringExtent)
  total : t.totalVectorElements = s.totalVectorElements + elements

namespace Grows

variable {s t u : Reader} {extents extents' : List RecoveryOwnedInterval} {found found' : List RecoveryNativeString}
  {elements elements' : Nat}

theorem ofSame (h : Same s t) : Grows s t [] [] 0 where
  strings := by rw [h.strings, List.append_nil]
  intervals := by rw [h.intervals, List.flatMap_nil, List.append_nil, List.append_nil]
  total := h.total

theorem trans (h : Grows s t extents found elements) (h' : Grows t u extents' found' elements') :
    Grows s u (extents ++ extents') (found ++ found') (elements + elements') where
  strings := by rw [h'.strings, h.strings, List.append_assoc]
  intervals := by
    refine h'.intervals.trans ?_
    rw [List.flatMap_append]
    have hfront := (h.intervals.append_right extents').append_right (found'.flatMap stringExtent)
    refine hfront.trans ?_
    have hswap : (found.flatMap stringExtent ++ extents').Perm (extents' ++ found.flatMap stringExtent) :=
      List.perm_append_comm
    have hmiddle := (hswap.append_left (s.intervals ++ extents)).append_right (found'.flatMap stringExtent)
    simpa only [List.append_assoc] using hmiddle
  total := by rw [h'.total, h.total, Nat.add_assoc]

theorem afterSame (hst : Same s t) (h : Grows t u extents found elements) : Grows s u extents found elements := by
  have hall := (ofSame hst).trans h
  rwa [List.nil_append, List.nil_append, Nat.zero_add] at hall

theorem beforeSame (h : Grows s t extents found elements) (htu : Same t u) : Grows s u extents found elements := by
  have hall := h.trans (ofSame htu)
  rwa [List.append_nil, List.append_nil, Nat.add_zero] at hall

theorem perm (h : Grows s t extents found elements) (hp : extents.Perm extents') : Grows s t extents' found elements where
  strings := h.strings
  intervals := h.intervals.trans ((hp.append_left _).append_right _)
  total := h.total

end Grows

/-- From every sound state the program ends in one, with `post` of the state before, the result and the state after. -/
def Does {α : Type} (p : Reading α) (post : Reader → α → Reader → Prop) : Prop :=
  ∀ s, Sound s → Runs p (fun a t => Sound t ∧ post s a t) s

theorem Does.bind {α β : Type} {p : Reading α} {f : α → Reading β} {post : Reader → α → Reader → Prop}
    {post' : β → Reader → Prop} {s : Reader} (h : Does p post) (hs : Sound s)
    (hf : ∀ a t, Sound t → post s a t → Runs (f a) post' t) : Runs (p >>= f) post' s :=
  Exits.bind (Exits.mono (h s hs) (fun a t ht => hf a t ht.1 ht.2) fun _ _ => id)

end RS2ServerFix.NativeReading
