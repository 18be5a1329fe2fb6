import Mathlib.Logic.Function.Basic

namespace RS2ServerFix.Lib

variable {ι X P : Type}

inductive Fate (ι P : Type)
  | unborn
  | held (i : ι)
  | published (p : P)
  | returned

/-- Things that are taken one after the other, each with its fate; `stray` counts
what was returned by somebody who did not hold it. -/
structure Custody (ι X P : Type) where
  next : Nat
  thing : Nat → X
  fate : Nat → Fate ι P
  stray : Nat

namespace Custody

variable (c c' : Custody ι X P) (i j : ι)

def empty (x : X) : Custody ι X P := ⟨0, fun _ => x, fun _ => .unborn, 0⟩

def take (x : X) : Custody ι X P where
  next := c.next + 1
  thing := Function.update c.thing c.next x
  fate := Function.update c.fate c.next (.held i)
  stray := c.stray

open Classical in
noncomputable def publish (p : P) : Custody ι X P where
  next := c.next
  thing := c.thing
  fate n := if c.fate n = .held i then .published p else c.fate n
  stray := c.stray

def give (n : Nat) : Custody ι X P where
  next := c.next
  thing := c.thing
  fate := Function.update c.fate n .returned
  stray := c.stray

def Returned (x : X) : Prop :=
  (∃ n, c.fate n = .held i ∧ c.thing n = x ∧ c' = c.give n) ∨
    (∀ n, c.fate n = .held i → c.thing n ≠ x) ∧ c' = { c with stray := c.stray + 1 }

structure Holds (hand : Option (Nat × X)) : Prop where
  held : ∀ n, c.fate n = .held i ↔ ∃ x, hand = some (n, x)
  thing : ∀ n x, hand = some (n, x) → c.thing n = x

def Born : Prop := ∀ n, c.fate n = .unborn ↔ c.next ≤ n

def Live (n : Nat) : Prop := c.fate n ≠ .unborn ∧ c.fate n ≠ .returned

variable {c c' i j} {x : X} {p : P} {n m : Nat} {hand : Option (Nat × X)}

theorem Born.take (h : c.Born) (i : ι) (x : X) : (c.take i x).Born := by
  intro n
  by_cases hn : n = c.next
  · subst hn
    simp [Custody.take]
  · simp only [Custody.take, Function.update_of_ne hn, h n]
    omega

theorem Born.publish (h : c.Born) (i : ι) (p : P) : (c.publish i p).Born := by
  intro n
  simp only [Custody.publish, ← h n]
  split
  · next hheld => simp [hheld]
  · exact Iff.rfl

theorem Born.give (h : c.Born) (hheld : c.fate n = .held i) : (c.give n).Born := by
  intro m
  by_cases hm : m = n
  · subst hm
    simp [Custody.give, ← h m, hheld]
  · simp only [Custody.give, Function.update_of_ne hm, h m]

theorem Born.next_unborn (h : c.Born) : c.fate c.next = .unborn := (h c.next).mpr (Nat.le_refl _)

theorem take_published (h : c.Born) (i : ι) (x : X) : (c.take i x).fate n = .published p ↔ c.fate n = .published p := by
  by_cases hn : n = c.next
  · subst hn
    simp [Custody.take, h.next_unborn]
  · simp [Custody.take, Function.update_of_ne hn]

theorem give_published (hheld : c.fate m = .held i) : (c.give m).fate n = .published p ↔ c.fate n = .published p := by
  by_cases hn : n = m
  · subst hn
    simp [Custody.give, hheld]
  · simp [Custody.give, Function.update_of_ne hn]

theorem publish_published (i : ι) (q : P) :
    (c.publish i q).fate n = .published p ↔ c.fate n = .published p ∨ c.fate n = .held i ∧ p = q := by
  simp only [Custody.publish]
  split
  · next hheld => simp [hheld, eq_comm]
  · next hno => simp [hno]

theorem take_live (i : ι) (x : X) : (c.take i x).Live n ↔ n = c.next ∨ c.Live n := by
  by_cases hn : n = c.next
  · subst hn
    simp [Live, Custody.take]
  · simp [Live, Custody.take, hn]

theorem give_live : (c.give m).Live n ↔ n ≠ m ∧ c.Live n := by
  by_cases hn : n = m
  · subst hn
    simp [Live, Custody.give]
  · simp [Live, Custody.give, hn]

theorem publish_live (i : ι) (q : P) : (c.publish i q).Live n ↔ c.Live n := by
  simp only [Live, Custody.publish]
  split
  · next hheld => simp [hheld]
  · exact Iff.rfl

theorem Holds.empty (x : X) (i : ι) : (Custody.empty x : Custody ι X P).Holds i none where
  held := by simp [Custody.empty]
  thing n y hno := by cases hno

theorem Born.empty (x : X) : (Custody.empty x : Custody ι X P).Born := by
  simp [Custody.Born, Custody.empty]

theorem Holds.take (h : c.Holds i none) (x : X) : (c.take i x).Holds i (some (c.next, x)) where
  held := by
    intro n
    by_cases hn : n = c.next
    · subst hn
      simp [Custody.take]
    · have hno : c.fate n ≠ .held i := by
        rw [ne_eq, h.held]
        simp
      simp only [Custody.take, Function.update_of_ne hn, hno, false_iff]
      rintro ⟨y, hy⟩
      exact hn (congrArg Prod.fst (Option.some.inj hy)).symm
  thing := by
    intro n y hy
    obtain ⟨rfl, rfl⟩ := Prod.mk.inj (Option.some.inj hy)
    simp [Custody.take]

theorem Holds.held_self (h : c.Holds i (some (n, x))) : c.fate n = .held i := (h.held n).mpr ⟨x, rfl⟩

theorem Holds.eq_of_held (h : c.Holds i (some (n, x))) (hm : c.fate m = .held i) : m = n := by
  obtain ⟨y, hy⟩ := (h.held m).mp hm
  exact (congrArg Prod.fst (Option.some.inj hy)).symm

/-- Who holds the thing returns it and no other. -/
theorem Holds.returned (h : c.Holds i (some (n, x))) (hr : c.Returned c' i x) : c' = c.give n := by
  rcases hr with ⟨m, hm, -, rfl⟩ | ⟨hno, -⟩
  · rw [h.eq_of_held hm]
  · exact absurd (h.thing n x rfl) (hno n h.held_self)

theorem Holds.give (h : c.Holds i (some (n, x))) : (c.give n).Holds i none where
  held := by
    intro m
    by_cases hm : m = n
    · subst hm
      simp [Custody.give]
    · simp only [Custody.give, Function.update_of_ne hm]
      constructor
      · exact fun hheld => absurd (h.eq_of_held hheld) hm
      · rintro ⟨y, hy⟩
        cases hy
  thing := by
    intro m y hy
    cases hy

theorem Holds.publish (p : P) : (c.publish i p).Holds i none where
  held := by
    intro m
    simp only [Custody.publish]
    split
    · simp
    · next hno => simp [hno]
  thing := by
    intro m y hy
    cases hy

theorem Holds.take_other (hborn : c.Born) (h : c.Holds j hand) (hne : j ≠ i) (x : X) : (c.take i x).Holds j hand where
  held := by
    intro n
    by_cases hn : n = c.next
    · subst hn
      have hno : c.fate c.next ≠ .held j := by simp [hborn.next_unborn]
      simp only [Custody.take, Function.update_self, Fate.held.injEq, hne.symm, false_iff]
      rw [← h.held]
      exact hno
    · simp only [Custody.take, Function.update_of_ne hn]
      exact h.held n
  thing := by
    intro n y hy
    have hheld : c.fate n = .held j := (h.held n).mpr ⟨y, hy⟩
    have hn : n ≠ c.next := by
      rintro rfl
      rw [hborn.next_unborn] at hheld
      cases hheld
    simp only [Custody.take, Function.update_of_ne hn]
    exact h.thing n y hy

theorem Holds.give_other (h : c.Holds j hand) (hne : j ≠ i) (hheld : c.fate n = .held i) : (c.give n).Holds j hand where
  held := by
    intro m
    by_cases hm : m = n
    · subst hm
      simp only [Custody.give, Function.update_self, reduceCtorEq, false_iff]
      rw [← h.held, hheld]
      exact fun heq => hne (Fate.held.inj heq).symm
    · simp only [Custody.give, Function.update_of_ne hm]
      exact h.held m
  thing := h.thing

theorem Holds.publish_other (h : c.Holds j hand) (hne : j ≠ i) (p : P) : (c.publish i p).Holds j hand where
  held := by
    intro m
    simp only [Custody.publish]
    split
    · next hheld =>
        rw [← h.held, hheld]
        simp [hne.symm]
    · exact h.held m
  thing := h.thing

/-- A fate that is the last one stays. -/
structure Kept (c c' : Custody ι X P) : Prop where
  born : ∀ n, c.fate n ≠ .unborn → c'.fate n ≠ .unborn
  thing : ∀ n, c.fate n ≠ .unborn → c'.thing n = c.thing n
  returned : ∀ n, c.fate n = .returned → c'.fate n = .returned
  published : ∀ n p, c.fate n = .published p → c'.fate n = .published p

namespace Kept

theorem refl (c : Custody ι X P) : c.Kept c := ⟨fun _ h => h, fun _ _ => rfl, fun _ h => h, fun _ _ h => h⟩

theorem trans {c'' : Custody ι X P} (h : c.Kept c') (h' : c'.Kept c'') : c.Kept c'' where
  born n hn := h'.born n (h.born n hn)
  thing n hn := (h'.thing n (h.born n hn)).trans (h.thing n hn)
  returned n hn := h'.returned n (h.returned n hn)
  published n p hn := h'.published n p (h.published n p hn)

theorem take (hborn : c.Born) (i : ι) (x : X) : c.Kept (c.take i x) := by
  have hold : ∀ n, c.fate n ≠ .unborn → n ≠ c.next := by
    rintro n hn rfl
    exact hn hborn.next_unborn
  have hsame : ∀ n, c.fate n ≠ .unborn → (c.take i x).fate n = c.fate n := by
    intro n hn
    simp [Custody.take, Function.update_of_ne (hold n hn)]
  refine ⟨fun n hn => ?_, fun n hn => ?_, fun n hn => ?_, fun n p hn => ?_⟩
  · rw [hsame n hn]
    exact hn
  · simp [Custody.take, Function.update_of_ne (hold n hn)]
  · rw [hsame n (by simp [hn]), hn]
  · rw [hsame n (by simp [hn]), hn]

theorem give (hheld : c.fate n = .held i) : c.Kept (c.give n) := by
  refine ⟨fun m hm => ?_, fun _ _ => rfl, fun m hm => ?_, fun m p hm => ?_⟩
  · by_cases hmn : m = n
    · simp [Custody.give, hmn]
    · simpa [Custody.give, Function.update_of_ne hmn] using hm
  · by_cases hmn : m = n
    · simp [Custody.give, hmn]
    · simpa [Custody.give, Function.update_of_ne hmn] using hm
  · have hmn : m ≠ n := by
      rintro rfl
      rw [hm] at hheld
      cases hheld
    simpa [Custody.give, Function.update_of_ne hmn] using hm

theorem publish (i : ι) (p : P) : c.Kept (c.publish i p) := by
  refine ⟨fun m hm => ?_, fun _ _ => rfl, fun m hm => ?_, fun m q hm => ?_⟩
  · simp only [Custody.publish]
    split
    · simp
    · exact hm
  · simp [Custody.publish, hm]
  · simp [Custody.publish, hm]

end Kept

end Custody

end RS2ServerFix.Lib
