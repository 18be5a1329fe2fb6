import Mathlib.Data.Nat.Basic
import Mathlib.Tactic.Ring

namespace RS2ServerFix.Lib

inductive Fault
  | wrapped | trapped
  deriving DecidableEq, Repr

abbrev Exactly (α : Type) : Type := Except Fault α

namespace Words

def add (a b : UInt64) : Exactly UInt64 := if a.toNat + b.toNat < 2 ^ 64 then .ok (a + b) else .error .wrapped

def sub (a b : UInt64) : Exactly UInt64 := if b ≤ a then .ok (a - b) else .error .wrapped

def mul (a b : UInt64) : Exactly UInt64 := if a.toNat * b.toNat < 2 ^ 64 then .ok (a * b) else .error .wrapped

def div (a b : UInt64) : Exactly UInt64 := if b = 0 then .error .trapped else .ok (a / b)

def mod (a b : UInt64) : Exactly UInt64 := if b = 0 then .error .trapped else .ok (a % b)

def umul128 (a b : UInt64) : UInt64 × UInt64 :=
  ((a.toNat * b.toNat / 2 ^ 64).toUInt64, (a.toNat * b.toNat % 2 ^ 64).toUInt64)

/-- Two words by one. The quotient has to fit a word. -/
def udiv128 (high low divisor : UInt64) : Exactly (UInt64 × UInt64) :=
  if divisor ≤ high then .error .trapped
  else .ok (((high.toNat * 2 ^ 64 + low.toNat) / divisor.toNat).toUInt64,
    ((high.toNat * 2 ^ 64 + low.toNat) % divisor.toNat).toUInt64)

theorem ok_bind {α β : Type} (a : α) (f : α → Exactly β) : (Except.ok a >>= f) = f a := rfl

variable {a b : UInt64}

theorem add_exact (h : a.toNat + b.toNat < 2 ^ 64) : ∃ c, add a b = .ok c ∧ c.toNat = a.toNat + b.toNat := by
  refine ⟨a + b, if_pos h, ?_⟩
  rw [UInt64.toNat_add, Nat.mod_eq_of_lt h]

theorem sub_exact (h : b.toNat ≤ a.toNat) : ∃ c, sub a b = .ok c ∧ c.toNat = a.toNat - b.toNat :=
  ⟨a - b, if_pos (UInt64.le_iff_toNat_le.mpr h), UInt64.toNat_sub_of_le _ _ (UInt64.le_iff_toNat_le.mpr h)⟩

theorem mul_exact (h : a.toNat * b.toNat < 2 ^ 64) : ∃ c, mul a b = .ok c ∧ c.toNat = a.toNat * b.toNat := by
  refine ⟨a * b, if_pos h, ?_⟩
  rw [UInt64.toNat_mul, Nat.mod_eq_of_lt h]

theorem div_exact (h : b ≠ 0) : ∃ c, div a b = .ok c ∧ c.toNat = a.toNat / b.toNat :=
  ⟨a / b, if_neg h, UInt64.toNat_div a b⟩

theorem mod_exact (h : b ≠ 0) : ∃ c, mod a b = .ok c ∧ c.toNat = a.toNat % b.toNat :=
  ⟨a % b, if_neg h, UInt64.toNat_mod a b⟩

theorem umul128_value (a b : UInt64) :
    (umul128 a b).1.toNat * 2 ^ 64 + (umul128 a b).2.toNat = a.toNat * b.toNat := by
  have ha := a.toNat_lt
  have hb := b.toNat_lt
  have hproduct : a.toNat * b.toNat < 2 ^ 64 * 2 ^ 64 := Nat.mul_lt_mul'' ha hb
  have hhigh : a.toNat * b.toNat / 2 ^ 64 < 2 ^ 64 := Nat.div_lt_of_lt_mul hproduct
  have hlow : a.toNat * b.toNat % 2 ^ 64 < 2 ^ 64 := Nat.mod_lt _ (by decide)
  have hfirst : (umul128 a b).1.toNat = a.toNat * b.toNat / 2 ^ 64 := UInt64.toNat_ofNat_of_lt' hhigh
  have hsecond : (umul128 a b).2.toNat = a.toNat * b.toNat % 2 ^ 64 := UInt64.toNat_ofNat_of_lt' hlow
  rw [hfirst, hsecond]
  exact Nat.div_add_mod' _ _

/-- A product divided by more than one factor fits a word. -/
theorem muldiv_exact {c : UInt64} (h : a.toNat < c.toNat) :
    ∃ q r, udiv128 (umul128 a b).1 (umul128 a b).2 c = .ok (q, r) ∧ q.toNat = a.toNat * b.toNat / c.toNat := by
  have hb := b.toNat_lt
  have hvalue := umul128_value a b
  have hlt : a.toNat * b.toNat < c.toNat * 2 ^ 64 := Nat.mul_lt_mul'' h hb
  have hhigh : ¬c ≤ (umul128 a b).1 := by
    intro hle
    have hle := Nat.mul_le_mul_right (2 ^ 64) (UInt64.le_iff_toNat_le.mp hle)
    omega
  have hquotient : a.toNat * b.toNat / c.toNat < 2 ^ 64 := Nat.div_lt_of_lt_mul hlt
  refine ⟨_, _, if_neg hhigh, ?_⟩
  rw [hvalue]
  exact UInt64.toNat_ofNat_of_lt' hquotient

end Words

end RS2ServerFix.Lib
