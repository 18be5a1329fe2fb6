import Mathlib.Data.List.Basic
import Mathlib.Tactic.Common

namespace RS2ServerFix.Lib

inductive LatchEvent (κ : Type)
  | claimed (k : κ)
  | operation (k : κ)
  | released (k : κ)
  deriving DecidableEq, Repr

namespace LatchEvent

variable {κ : Type}

def isClaim : LatchEvent κ → Bool
  | claimed _ => true
  | _ => false

def isOperation : LatchEvent κ → Bool
  | operation _ => true
  | _ => false

def isRelease : LatchEvent κ → Bool
  | released _ => true
  | _ => false

end LatchEvent

/-- Free, or taken by one party, whose claim has been served or not. -/
inductive Latch (κ : Type)
  | free
  | taken (k : κ) (served : Bool)
  deriving DecidableEq, Repr

namespace Latch

variable {κ : Type}

section Steps

variable [DecidableEq κ]

/-- A claim takes a free latch, is served at most once, and is given back by whom it is. -/
def step : Latch κ → LatchEvent κ → Option (Latch κ)
  | free, .claimed k => some (taken k false)
  | taken k false, .operation k' => if k' = k then some (taken k true) else none
  | taken k _, .released k' => if k' = k then some free else none
  | _, _ => none

def replay : List (LatchEvent κ) → Option (Latch κ)
  | [] => some free
  | e :: earlier => (replay earlier).bind fun l => l.step e

end Steps

def served : Latch κ → Bool
  | free => false
  | taken _ served => served

def outstanding : Latch κ → Nat
  | free => 0
  | taken _ _ => 1

def claims (history : List (LatchEvent κ)) : Nat := history.countP LatchEvent.isClaim

def operations (history : List (LatchEvent κ)) : Nat := history.countP LatchEvent.isOperation

def releases (history : List (LatchEvent κ)) : Nat := history.countP LatchEvent.isRelease

section Counts

variable (k : κ) (history : List (LatchEvent κ))

theorem count_claimed : claims (.claimed k :: history) = claims history + 1 ∧
    operations (.claimed k :: history) = operations history ∧ releases (.claimed k :: history) = releases history :=
  ⟨List.countP_cons_of_pos rfl, List.countP_cons_of_neg Bool.false_ne_true, List.countP_cons_of_neg Bool.false_ne_true⟩

theorem count_operation : claims (.operation k :: history) = claims history ∧
    operations (.operation k :: history) = operations history + 1 ∧
    releases (.operation k :: history) = releases history :=
  ⟨List.countP_cons_of_neg Bool.false_ne_true, List.countP_cons_of_pos rfl, List.countP_cons_of_neg Bool.false_ne_true⟩

theorem count_released : claims (.released k :: history) = claims history ∧
    operations (.released k :: history) = operations history ∧
    releases (.released k :: history) = releases history + 1 :=
  ⟨List.countP_cons_of_neg Bool.false_ne_true, List.countP_cons_of_neg Bool.false_ne_true, List.countP_cons_of_pos rfl⟩

end Counts

variable [DecidableEq κ]

theorem replay_cons {history : List (LatchEvent κ)} {l : Latch κ} (h : replay history = some l) (e : LatchEvent κ) :
    replay (e :: history) = l.step e := by
  simp only [replay, h, Option.bind_some]

theorem step_taken (k : κ) (served : Bool) : (taken k served).step (.released k) = some free := by
  cases served <;> exact if_pos rfl

theorem step_operation (k : κ) : (taken k false).step (.operation k) = some (taken k true) := if_pos rfl

/-- What may happen to a latch. -/
theorem step_cases {l l' : Latch κ} {e : LatchEvent κ} (h : l.step e = some l') :
    (∃ k, l = free ∧ e = .claimed k ∧ l' = taken k false) ∨
    (∃ k, l = taken k false ∧ e = .operation k ∧ l' = taken k true) ∨
    ∃ k served, l = taken k served ∧ e = .released k ∧ l' = free := by
  rcases l with _ | ⟨k, _ | _⟩ <;> rcases e with k' | k' | k' <;> simp only [step] at h <;> try cases h
  · exact .inl ⟨k', rfl, rfl, rfl⟩
  · obtain ⟨rfl, hl⟩ := Option.ite_none_right_eq_some.mp h
    exact .inr (.inl ⟨k', rfl, rfl, (Option.some.inj hl).symm⟩)
  · obtain ⟨rfl, hl⟩ := Option.ite_none_right_eq_some.mp h
    exact .inr (.inr ⟨k', false, rfl, rfl, (Option.some.inj hl).symm⟩)
  · obtain ⟨rfl, hl⟩ := Option.ite_none_right_eq_some.mp h
    exact .inr (.inr ⟨k', true, rfl, rfl, (Option.some.inj hl).symm⟩)

/-- Every claim but the outstanding one has been given back, and none was served twice. -/
theorem replay_counts {history : List (LatchEvent κ)} {l : Latch κ} (h : replay history = some l) :
    claims history = releases history + l.outstanding ∧
      operations history + l.outstanding ≤ claims history + l.served.toNat := by
  induction history generalizing l with
  | nil =>
      obtain rfl := Option.some.inj h
      exact ⟨rfl, Nat.le_refl 0⟩
  | cons e earlier ih =>
      obtain ⟨l', hl', hstep⟩ := Option.bind_eq_some_iff.mp h
      obtain ⟨hclaims, hoperations⟩ := ih hl'
      rcases step_cases hstep with ⟨k, rfl, rfl, rfl⟩ | ⟨k, rfl, rfl, rfl⟩ | ⟨k, served, rfl, rfl, rfl⟩
      · simp only [count_claimed, outstanding, Latch.served, Bool.toNat_false] at hclaims hoperations ⊢
        omega
      · simp only [count_operation, outstanding, Latch.served, Bool.toNat_false, Bool.toNat_true] at hclaims hoperations ⊢
        omega
      · have hserved : served.toNat ≤ 1 := Bool.toNat_le served
        simp only [count_released, outstanding, Latch.served, Bool.toNat_false] at hclaims hoperations ⊢
        omega

end Latch

end RS2ServerFix.Lib
