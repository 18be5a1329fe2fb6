import Mathlib.Data.Nat.ModEq

namespace RS2ServerFix.Lib

/-- A fixed number of slots behind a counter that only grows: counter `i`
uses slot `i % n`. -/
structure Slots (n : Nat) (α : Type) where
  cell : Fin n → α

namespace Slots

variable {n : Nat} [NeZero n] {α : Type}

def fill (v : α) : Slots n α := ⟨fun _ => v⟩

def get (s : Slots n α) (i : Nat) : α := s.cell (Fin.ofNat n i)

def set (s : Slots n α) (i : Nat) (v : α) : Slots n α := ⟨Function.update s.cell (Fin.ofNat n i) v⟩

@[simp] theorem get_fill (v : α) (i : Nat) : (fill v : Slots n α).get i = v := rfl

@[simp] theorem get_set_self (s : Slots n α) (i : Nat) (v : α) : (s.set i v).get i = v :=
  Function.update_self _ _ _

theorem slot_ne {i j : Nat} (hne : i ≠ j) (hi : i < j + n) (hj : j < i + n) : Fin.ofNat n i ≠ Fin.ofNat n j := by
  intro h
  have hmod : i % n = j % n := congrArg Fin.val h
  rcases Nat.lt_or_gt_of_ne hne with hlt | hlt
  · have hdvd := (Nat.modEq_iff_dvd' hlt.le).mp hmod
    have hle := Nat.le_of_dvd (by omega) hdvd
    omega
  · have hdvd := (Nat.modEq_iff_dvd' hlt.le).mp hmod.symm
    have hle := Nat.le_of_dvd (by omega) hdvd
    omega

theorem get_add_round (s : Slots n α) (i : Nat) : s.get (i + n) = s.get i := by
  have h : Fin.ofNat n (i + n) = Fin.ofNat n i := Fin.ext (by simp [Fin.ofNat])
  simp only [get, h]

/-- Two counters less than a round apart never share a slot. -/
theorem get_set_ne (s : Slots n α) {i j : Nat} (v : α) (hne : i ≠ j) (hi : i < j + n) (hj : j < i + n) :
    (s.set i v).get j = s.get j :=
  Function.update_of_ne (slot_ne hne.symm hj hi) _ _

theorem set_get (s : Slots n α) (i : Nat) : s.set i (s.get i) = s := by
  simp [set, get]

/-- The slots of the counters from `read` to `write` hold what `P` says. -/
def Holds (s : Slots n α) (read write : Nat) (P : Nat → α → Prop) : Prop :=
  ∀ i, read ≤ i → i < write → P i (s.get i)

namespace Holds

variable {s : Slots n α} {read write : Nat} {P Q : Nat → α → Prop}

theorem mono (h : s.Holds read write P) {r w : Nat} (hr : read ≤ r) (hw : w ≤ write) : s.Holds r w P :=
  fun i hi hi' => h i (hr.trans hi) (hi'.trans_le hw)

theorem imp (h : s.Holds read write P) (hpq : ∀ i, read ≤ i → i < write → ∀ v, P i v → Q i v) :
    s.Holds read write Q :=
  fun i hi hi' => hpq i hi hi' _ (h i hi hi')

theorem imp_get (h : s.Holds read write P) {t : Slots n α}
    (he : ∀ i, read ≤ i → i < write → t.get i = s.get i) : t.Holds read write P := by
  intro i hi hi'
  rw [he i hi hi']
  exact h i hi hi'

theorem empty (s : Slots n α) (i : Nat) (P : Nat → α → Prop) : s.Holds i i P :=
  fun _ hi hi' => absurd hi (by omega)

theorem update (h : s.Holds read write P) {i : Nat} {v : α} (hi : read ≤ i) (hi' : i < read + n)
    (hw : write ≤ read + n) (hv : i < write → P i v) : (s.set i v).Holds read write P := by
  intro j hj hj'
  by_cases hij : i = j
  · subst hij
    rw [get_set_self]
    exact hv hj'
  · rw [get_set_ne s v hij (by omega) (by omega)]
    exact h j hj hj'

theorem push (h : s.Holds read write P) {v : α} (hr : read ≤ write) (hw : write < read + n) (hv : P write v) :
    (s.set write v).Holds read (write + 1) P := by
  intro j hj hj'
  by_cases hij : write = j
  · subst hij
    rw [get_set_self]
    exact hv
  · rw [get_set_ne s v hij (by omega) (by omega)]
    exact h j hj (by omega)

end Holds

def list (s : Slots n α) (i count : Nat) : List α := (List.range count).map fun k => s.get (i + k)

theorem list_length (s : Slots n α) (i count : Nat) : (s.list i count).length = count := by
  rw [list, List.length_map, List.length_range]

theorem list_succ (s : Slots n α) (i count : Nat) : s.list i (count + 1) = s.get i :: s.list (i + 1) count := by
  rw [list, List.range_succ_eq_map, List.map_cons, List.map_map, list, Nat.add_zero]
  refine congrArg _ (List.map_congr_left fun k _ => ?_)
  exact congrArg s.get (by omega)

theorem list_mod (s : Slots n α) (i count : Nat) : s.list (i % n) count = s.list i count := by
  refine List.map_congr_left fun k _ => ?_
  have h : Fin.ofNat n (i % n + k) = Fin.ofNat n (i + k) := Fin.ext (by simp [Fin.ofNat])
  simp only [get, h]

theorem list_push (s : Slots n α) (i : Nat) {count : Nat} (h : count < n) (v : α) :
    (s.set (i + count) v).list i (count + 1) = s.list i count ++ [v] := by
  rw [list, List.range_succ, List.map_append, list, List.map_singleton, get_set_self]
  refine congrArg (· ++ [v]) (List.map_congr_left fun k hk => ?_)
  rw [List.mem_range] at hk
  exact get_set_ne s v (by omega) (by omega) (by omega)

end Slots

end RS2ServerFix.Lib
