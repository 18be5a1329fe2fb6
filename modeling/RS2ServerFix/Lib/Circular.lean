import Mathlib.Data.List.Basic
import Mathlib.Logic.Function.Basic

namespace RS2ServerFix.Lib

variable {α : Type}

/-- Cells that are used round and round, from the head on. -/
structure Circular (α : Type) where
  cells : Nat → α
  head : Nat
  count : Nat

namespace Circular

variable (capacity : Nat) (c : Circular α)

def contents : List α := (List.range c.count).map fun k => c.cells ((c.head + k) % capacity)

@[simp] theorem contents_length : (c.contents capacity).length = c.count := by
  rw [contents, List.length_map, List.length_range]

def push (a : α) : Circular α where
  cells := Function.update c.cells ((c.head + c.count) % capacity) a
  head := c.head
  count := c.count + 1

/-- The first `n`, each taken from the head and its cell overwritten. The count is left to the caller. -/
def drain (zero : α) : Nat → Circular α → List α × Circular α
  | 0, c => ([], c)
  | n + 1, c =>
      let rest := drain zero n { c with cells := Function.update c.cells c.head zero, head := (c.head + 1) % capacity }
      (c.cells c.head :: rest.1, rest.2)

def take (zero : α) (n : Nat) (c : Circular α) : List α × Circular α :=
  let drained := drain capacity zero n c
  (drained.1, { drained.2 with count := drained.2.count - n })

variable {capacity c}

theorem contents_push (h : c.count < capacity) (a : α) :
    (c.push capacity a).contents capacity = c.contents capacity ++ [a] := by
  have hne : ∀ k < c.count, (c.head + k) % capacity ≠ (c.head + c.count) % capacity := by
    intro k hk heq
    have hsub : (c.count - k) % capacity = 0 := by
      have hmod := Nat.sub_mod_eq_zero_of_mod_eq heq.symm
      rwa [Nat.add_sub_add_left] at hmod
    rw [Nat.mod_eq_of_lt (by omega)] at hsub
    omega
  simp only [contents, push, List.range_succ, List.map_append, List.map_cons, List.map_nil, Function.update_self]
  congr 1
  apply List.map_congr_left
  intro k hk
  exact Function.update_of_ne (hne k (List.mem_range.mp hk)) a c.cells

@[simp] theorem drain_count (zero : α) (n : Nat) (c : Circular α) : (drain capacity zero n c).2.count = c.count := by
  induction n generalizing c with
  | zero => rfl
  | succ n ih => exact ih _

theorem drain_head_lt (zero : α) (n : Nat) (hc : c.head < capacity) : (drain capacity zero n c).2.head < capacity := by
  induction n generalizing c with
  | zero => exact hc
  | succ n ih => exact ih (Nat.mod_lt _ (by omega))

theorem drain_withCount (zero : α) (n x : Nat) (c : Circular α) :
    drain capacity zero n { c with count := x } = ((drain capacity zero n c).1,
      { (drain capacity zero n c).2 with count := x }) := by
  induction n generalizing c with
  | zero => rfl
  | succ n ih =>
      have hrest := ih { c with cells := Function.update c.cells c.head zero, head := (c.head + 1) % capacity }
      exact congrArg (fun r : List α × Circular α => (c.cells c.head :: r.1, r.2)) hrest

/-- The held are the first one and the others. -/
theorem contents_cons {n : Nat} (hn : c.count = n + 1) (hc : c.head < capacity) :
    c.contents capacity = c.cells c.head ::
      (List.range n).map fun k => c.cells (((c.head + 1) % capacity + k) % capacity) := by
  rw [contents, hn, List.range_succ_eq_map, List.map_cons, List.map_map, Nat.add_zero, Nat.mod_eq_of_lt hc]
  congr 1
  apply List.map_congr_left
  intro k _
  rw [Function.comp, Nat.mod_add_mod, Nat.succ_eq_add_one, Nat.add_assoc, Nat.add_comm 1 k]

/-- What is taken is the front, and what is then held is the rest. -/
theorem contents_take (zero : α) {n : Nat} (hn : n ≤ c.count) (hcount : c.count ≤ capacity) (hc : c.head < capacity) :
    (take capacity zero n c).1 = (c.contents capacity).take n ∧
      (take capacity zero n c).2.contents capacity = (c.contents capacity).drop n := by
  induction n generalizing c with
  | zero => exact ⟨rfl, rfl⟩
  | succ n ih =>
      obtain ⟨m, hm⟩ : ∃ m, c.count = m + 1 := ⟨c.count - 1, by omega⟩
      let rest : Circular α := ⟨Function.update c.cells c.head zero, (c.head + 1) % capacity, m⟩
      have hrest : rest.contents capacity =
          (List.range m).map fun k => c.cells (((c.head + 1) % capacity + k) % capacity) := by
        apply List.map_congr_left
        intro k hk
        have hlt : k < m := List.mem_range.mp hk
        refine Function.update_of_ne (fun heq => ?_) zero c.cells
        rw [Nat.mod_add_mod] at heq
        have hsub : (k + 1) % capacity = 0 := by
          have hmod := Nat.sub_mod_eq_zero_of_mod_eq (heq.trans (Nat.mod_eq_of_lt hc).symm)
          rwa [Nat.add_assoc, Nat.add_sub_cancel_left, Nat.add_comm 1 k] at hmod
        rw [Nat.mod_eq_of_lt (by omega)] at hsub
        omega
      have hcontents : c.contents capacity = c.cells c.head :: rest.contents capacity := by
        rw [hrest, contents_cons hm hc]
      obtain ⟨htaken, hleft⟩ := @ih rest (by show n ≤ m; omega) (by show m ≤ capacity; omega) (Nat.mod_lt _ (by omega))
      have hall : take capacity zero (n + 1) c =
          (c.cells c.head :: (take capacity zero n rest).1, (take capacity zero n rest).2) := by
        have hdrain := @drain_withCount _ capacity zero n c.count rest
        simp only [take, drain]
        rw [hdrain]
        simp only [drain_count, Prod.mk.injEq, true_and, Circular.mk.injEq]
        show c.count - (n + 1) = m - n
        omega
      rw [hall, hcontents, List.take_succ_cons, List.drop_succ_cons, htaken, hleft]
      exact ⟨rfl, rfl⟩

end Circular

end RS2ServerFix.Lib
