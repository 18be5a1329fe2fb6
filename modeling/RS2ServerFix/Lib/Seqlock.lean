import Mathlib.Data.List.Infix
import RS2ServerFix.Lib.Pool

namespace RS2ServerFix.Lib

/-- A block of words behind a sequence word, with the values published in it,
the last one first. The sequence is odd while a value is being stored. -/
structure Seqlock (σ : Type) where
  sequence : σ → UInt64
  word : Nat → σ → UInt64
  history : σ → List (Nat → UInt64)

namespace Seqlock

variable {σ : Type} (b : Seqlock σ)

/-- What holds between any two stores of the writer. -/
structure Kept (s : σ) : Prop where
  count : (b.sequence s).toNat / 2 = (b.history s).length
  last : (b.sequence s).toNat % 2 = 0 → ∀ v ∈ (b.history s).head?, ∀ k, b.word k s = v k

structure Later (s s' : σ) : Prop where
  sequence : (b.sequence s).toNat ≤ (b.sequence s').toNat
  history : b.history s <:+ b.history s'

def Published (n : Nat) (v : Nat → UInt64) (s : σ) : Prop :=
  n % 2 = 0 ∧ 2 ≤ n ∧ (b.history s).reverse[n / 2 - 1]? = some v

variable {b} {s s' s'' : σ}

/-- The same sequence, the same words. -/
theorem Later.same (h : b.Later s s') (hs : b.Kept s) (hs' : b.Kept s')
    (he : (b.sequence s').toNat = (b.sequence s).toNat) (heven : (b.sequence s).toNat % 2 = 0)
    (hpos : 2 ≤ (b.sequence s).toNat) (k : Nat) : b.word k s' = b.word k s := by
  have hlength : (b.history s).length = (b.history s').length := by rw [← hs.count, ← hs'.count, he]
  have hhistory : b.history s = b.history s' := h.history.eq_of_length hlength
  cases hv : b.history s with
  | nil =>
      have hcount := hs.count
      rw [hv, List.length_nil] at hcount
      omega
  | cons v rest =>
      have hhead : v ∈ (b.history s).head? := by rw [hv]; rfl
      rw [hs.last heven v hhead k, hs'.last (by rw [he]; exact heven) v (hhistory ▸ hhead) k]

theorem Published.later {n : Nat} {v : Nat → UInt64} (h : b.Published n v s) (hl : b.Later s s') :
    b.Published n v s' := by
  obtain ⟨heven, hpos, hv⟩ := h
  obtain ⟨before, he⟩ := hl.history
  refine ⟨heven, hpos, ?_⟩
  obtain ⟨hlt, -⟩ := List.getElem?_eq_some_iff.mp hv
  rw [← he, List.reverse_append, List.getElem?_append_left hlt]
  exact hv

theorem Published.mem {n : Nat} {v : Nat → UInt64} (h : b.Published n v s) : v ∈ b.history s :=
  List.mem_reverse.mp (List.mem_of_getElem? h.2.2)

/-- What the words are while the sequence is even. -/
theorem Kept.published (h : b.Kept s) (heven : (b.sequence s).toNat % 2 = 0) (hpos : 2 ≤ (b.sequence s).toNat) :
    ∃ v, b.Published (b.sequence s).toNat v s ∧ ∀ k, b.word k s = v k := by
  have hcount := h.count
  cases hv : b.history s with
  | nil =>
      rw [hv, List.length_nil] at hcount
      omega
  | cons v rest =>
      refine ⟨v, ⟨heven, hpos, ?_⟩, h.last heven v (by rw [hv]; rfl)⟩
      rw [hcount, hv, List.reverse_cons, List.length_cons, Nat.add_sub_cancel, ← List.length_reverse,
        List.getElem?_concat_length]

def loadWords (word : Nat → σ → UInt64) : Nat → Nat → (Nat → UInt64) → Prog σ (Nat → UInt64)
  | 0, _, copy => .done copy
  | n + 1, i, copy => do
      let value ← Prog.read fun s => word i s
      loadWords word n (i + 1) (Function.update copy i value)

/-- The first `n` words of the copy are those of the sequence read before. -/
def Copied (b : Seqlock σ) (before n : Nat) (copy : Nat → UInt64) (s : σ) : Prop :=
  before ≤ (b.sequence s).toNat ∧ ((b.sequence s).toNat = before → ∀ k < n, copy k = b.word k s)

section Loads

variable {ι : Type} {I P : σ → Prop} {guarantee : ι → σ → σ → Prop} {i : ι} {before : Nat}

theorem Copied.stable (hI : ∀ s, I s → P s → b.Kept s)
    (hl : ∀ s s', P s → Shift I guarantee s s' → b.Later s s' ∧ P s') (heven : before % 2 = 0) (hpos : 2 ≤ before) (n : Nat)
    (copy : Nat → UInt64) : Stable (Shift I guarantee) fun s => P s ∧ b.Copied before n copy s := by
  rintro s s' ⟨hp, hle, hcopy⟩ hs
  obtain ⟨hlater, hp'⟩ := hl s s' hp hs
  refine ⟨hp', hle.trans hlater.sequence, fun he k hk => ?_⟩
  have hs' : (b.sequence s).toNat = before := le_antisymm (he ▸ hlater.sequence) hle
  rw [hcopy hs' k hk]
  exact (hlater.same (hI s hs.2.1 hp) (hI s' hs.2.2 hp') (he.trans hs'.symm) (hs' ▸ heven) (hs' ▸ hpos) k).symm

/-- The loads of a reader, whatever the writer does meanwhile. -/
theorem loadWords_copied (hrefl : ∀ s, guarantee i s s) (hI : ∀ s, I s → P s → b.Kept s)
    (hl : ∀ s s', P s → Shift I guarantee s s' → b.Later s s' ∧ P s') (heven : before % 2 = 0) (hpos : 2 ≤ before)
    (n m : Nat) (copy : Nat → UInt64) :
    Triple (Rely I guarantee i) (Within I (guarantee i)) (fun s => I s ∧ P s ∧ b.Copied before m copy s)
      (loadWords b.word n m copy) fun copy s => I s ∧ P s ∧ b.Copied before (m + n) copy s := by
  have hstable : ∀ n copy, Stable (Shift I guarantee) fun s => P s ∧ b.Copied before n copy s :=
    fun n copy => Copied.stable hI hl heven hpos n copy
  induction n generalizing m copy with
  | zero =>
      refine .done (fun s s' hs hr => ⟨hr.2.2, hstable m copy s s' hs.2 hr.shift⟩) fun s hs => hs
  | succ n ih =>
      apply Triple.bind
      · apply Triple.look hrefl (hstable m copy)
        · exact fun value => hstable (m + 1) (Function.update copy m value)
        · rintro s - ⟨hp, hle, hcopy⟩
          refine ⟨hp, hle, fun he k hk => ?_⟩
          by_cases hkm : k = m
          · subst hkm
            exact Function.update_self ..
          · rw [Function.update_of_ne hkm]
            exact hcopy he k (by omega)
      · intro value
        have hrest := ih (m + 1) (Function.update copy m value)
        rwa [Nat.add_right_comm] at hrest

end Loads

end Seqlock

end RS2ServerFix.Lib
