import Mathlib.Data.List.Basic
import Mathlib.Data.List.Forall2
import Mathlib.Data.List.TakeWhile

namespace RS2ServerFix.Lib.Scan

variable {α β γ : Type} {p : α → Bool} {same : α → β → Bool} {text rest : List α} {cursor : Nat}

/-- Over the units that satisfy `p`, up to the end of the text. A read at or past
the end has no answer. -/
def skipWhile (p : α → Bool) (text : List α) (cursor : Nat) : Option Nat :=
  if cursor < text.length then do
    let c ← text[cursor]?
    if p c then skipWhile p text (cursor + 1) else some cursor
  else some cursor
termination_by text.length - cursor

/-- Over one unit for each expected one. The position after a refusal is where the texts part. -/
def expect (same : α → β → Bool) (text : List α) : List β → Nat → Option (Bool × Nat)
  | [], cursor => some (true, cursor)
  | e :: expected, cursor =>
      if cursor = text.length then some (false, cursor)
      else do
        let c ← text[cursor]?
        if same c e then expect same text expected (cursor + 1) else some (false, cursor)

def Rest (text : List α) (cursor : Nat) (rest : List α) : Prop :=
  cursor ≤ text.length ∧ text.drop cursor = rest

namespace Rest

theorem start (text : List α) : Rest text 0 text := ⟨Nat.zero_le _, rfl⟩

theorem length (h : Rest text cursor rest) : text.length = cursor + rest.length := by
  have hlength := congrArg List.length h.2
  rw [List.length_drop] at hlength
  have hle := h.1
  omega

theorem lt_iff (h : Rest text cursor rest) : cursor < text.length ↔ rest ≠ [] := by
  rw [h.length, ← List.length_pos_iff]
  omega

theorem end_iff (h : Rest text cursor rest) : cursor = text.length ↔ rest = [] := by
  rw [h.length, ← List.length_eq_zero_iff]
  omega

theorem read (h : Rest text cursor rest) : text[cursor]? = rest.head? := by
  rw [← h.2, List.head?_drop]

theorem next {c : α} (h : Rest text cursor (c :: rest)) : Rest text (cursor + 1) rest := by
  refine ⟨h.lt_iff.mpr (List.cons_ne_nil _ _), ?_⟩
  rw [← List.tail_drop, h.2, List.tail_cons]

theorem mem {c : α} (h : Rest text cursor rest) (hc : c ∈ rest) : c ∈ text := by
  rw [← h.2] at hc
  exact List.mem_of_mem_drop hc

end Rest

theorem skipWhile_rest (h : Rest text cursor rest) :
    ∃ d, skipWhile p text cursor = some d ∧ Rest text d (rest.dropWhile p) := by
  induction rest generalizing cursor with
  | nil =>
      refine ⟨cursor, ?_, h⟩
      rw [skipWhile, if_neg]
      exact fun hlt => h.lt_iff.mp hlt rfl
  | cons c rest ih =>
      rw [skipWhile, if_pos (h.lt_iff.mpr (List.cons_ne_nil _ _)), h.read]
      by_cases hc : p c = true
      · obtain ⟨d, hd, hrest⟩ := ih h.next
        refine ⟨d, ?_, ?_⟩
        · rw [List.head?_cons, Option.bind_eq_bind, Option.bind_some, if_pos hc, hd]
        · rwa [List.dropWhile_cons_of_pos hc]
      · refine ⟨cursor, ?_, ?_⟩
        · rw [List.head?_cons, Option.bind_eq_bind, Option.bind_some, if_neg hc]
        · rwa [List.dropWhile_cons_of_neg hc]

/-- The outcome of a reader at a position tells whether what follows can be taken
as `P` takes it, and ends where that leaves off. -/
def Decides (text : List α) (outcome : Option (Bool × Nat)) (P : List α → Prop) : Prop :=
  ∃ found d, outcome = some (found, d) ∧ (found = true ↔ ∃ tail, P tail) ∧ ∀ tail, P tail → Rest text d tail

theorem Decides.congr {outcome : Option (Bool × Nat)} {P Q : List α → Prop} (h : Decides text outcome P)
    (hPQ : ∀ tail, P tail ↔ Q tail) : Decides text outcome Q := by
  have hQ : P = Q := funext fun tail => propext (hPQ tail)
  rwa [← hQ]

theorem Decides.unique {outcome : Option (Bool × Nat)} {P : List α → Prop} {tail tail' : List α}
    (h : Decides text outcome P) (htail : P tail) (htail' : P tail') : tail = tail' := by
  obtain ⟨_, d, _, _, hrest⟩ := h
  rw [← (hrest tail htail).2, (hrest tail' htail').2]

theorem expect_decides (expected : List β) (h : Rest text cursor rest) :
    Decides text (expect same text expected cursor) fun tail =>
      ∃ word, rest = word ++ tail ∧ List.Forall₂ (fun c e => same c e = true) word expected := by
  induction expected generalizing cursor rest with
  | nil =>
      refine ⟨true, cursor, rfl, ⟨fun _ => ⟨rest, [], rfl, .nil⟩, fun _ => rfl⟩, ?_⟩
      rintro tail ⟨word, rfl, hword⟩
      cases hword
      exact h
  | cons e expected ih =>
      rw [expect]
      cases rest with
      | nil =>
          refine ⟨false, cursor, if_pos (h.end_iff.mpr rfl), ⟨fun hf => absurd hf Bool.false_ne_true, ?_⟩, ?_⟩
          · rintro ⟨tail, word, hrest, hword⟩
            cases hword
            cases hrest
          · rintro tail ⟨word, hrest, hword⟩
            cases hword
            cases hrest
      | cons c rest =>
          have hlive : ¬cursor = text.length := fun hend => List.cons_ne_nil _ _ (h.end_iff.mp hend)
          rw [if_neg hlive, h.read, List.head?_cons, Option.bind_eq_bind, Option.bind_some]
          by_cases hc : same c e = true
          · rw [if_pos hc]
            refine (ih h.next).congr fun tail => ?_
            constructor
            · rintro ⟨word, rfl, hword⟩
              exact ⟨c :: word, rfl, .cons hc hword⟩
            · rintro ⟨word, hrest, hword⟩
              cases hword with
              | cons hhead hword => exact ⟨_, (List.cons.inj hrest).2, hword⟩
          · rw [if_neg hc]
            have hnone : ∀ tail, ¬∃ word, c :: rest = word ++ tail ∧
                List.Forall₂ (fun c e => same c e = true) word (e :: expected) := by
              rintro tail ⟨word, hrest, hword⟩
              cases hword with
              | cons hhead hword =>
                  rw [← (List.cons.inj hrest).1] at hhead
                  exact hc hhead
            refine ⟨false, cursor, rfl, ⟨fun hf => absurd hf Bool.false_ne_true, ?_⟩, ?_⟩
            · rintro ⟨tail, htail⟩
              exact absurd htail (hnone tail)
            · exact fun tail htail => absurd htail (hnone tail)

/-- A run of skipped units ends where the next one does not satisfy `p`. -/
theorem dropWhile_run {run tail : List α} (hrun : ∀ c ∈ run, p c = true)
    (htail : ∀ c, tail.head? = some c → p c = false) :
    (run ++ tail).dropWhile p = tail := by
  rw [List.dropWhile_append_of_pos hrun]
  cases tail with
  | nil => rfl
  | cons c tail =>
      rw [List.dropWhile_cons_of_neg]
      rw [htail c rfl]
      exact Bool.false_ne_true

theorem takeWhile_run (p : α → Bool) (rest : List α) : ∀ c ∈ rest.takeWhile p, p c = true :=
  fun _ => List.mem_takeWhile_imp

theorem head_dropWhile {c : α} (h : (rest.dropWhile p).head? = some c) : p c = false := by
  have hnot := List.head?_dropWhile_not p rest
  rw [h] at hnot
  exact hnot

/-- The reader takes what follows as the one value and tail for which `P` holds, or refuses it where there is none. -/
inductive Reads {β : Type} (text : List α) (P : β → List α → Prop) : OptionT Option (β × Nat) → Prop
  | refused (h : ∀ b tail, ¬P b tail) : Reads text P (some none)
  | taken {b : β} {d : Nat} {tail : List α} (hrest : Rest text d tail) (hb : P b tail)
      (h : ∀ b' tail', P b' tail' → b' = b ∧ tail' = tail) : Reads text P (some (some (b, d)))

namespace Reads

variable {P P' : β → List α → Prop} {o : OptionT Option (β × Nat)}

theorem congr (h : Reads text P o) (hP : ∀ b tail, P b tail ↔ P' b tail) : Reads text P' o := by
  have heq : P = P' := funext fun b => funext fun tail => propext (hP b tail)
  rwa [← heq]

/-- A reader and then one that may depend on what the first has taken. -/
theorem bind {Q : β → List α → γ → List α → Prop} {f : β × Nat → OptionT Option (γ × Nat)} (h : Reads text P o)
    (hf : ∀ b d tail, P b tail → Rest text d tail → Reads text (Q b tail) (f (b, d))) :
    Reads text (fun c tail' => ∃ b tail, P b tail ∧ Q b tail c tail') (o >>= f) := by
  cases h with
  | refused h =>
      refine .refused ?_
      rintro c tail' ⟨b, tail, hP, -⟩
      exact h b tail hP
  | taken hrest hb h =>
      rename_i b d tail
      refine (hf b d tail hb hrest).congr fun c tail' => ?_
      constructor
      · exact fun hQ => ⟨b, tail, hb, hQ⟩
      · rintro ⟨b', tail'', hP, hQ⟩
        obtain ⟨rfl, rfl⟩ := h b' tail'' hP
        exact hQ

theorem refuse (h : ∀ b tail, ¬P b tail) : Reads text P failure := .refused h

theorem pure {b : β} {d : Nat} {tail : List α} (hrest : Rest text d tail) :
    Reads text (fun b' tail' => b' = b ∧ tail' = tail) (Pure.pure (b, d)) :=
  .taken hrest ⟨rfl, rfl⟩ fun _ _ h => h

theorem ite {c : Prop} [Decidable c] {o' : OptionT Option (β × Nat)} (h : c → Reads text P o) (h' : ¬c → Reads text P o') :
    Reads text P (if c then o else o') := by
  by_cases hc : c
  · rw [if_pos hc]
    exact h hc
  · rw [if_neg hc]
    exact h' hc

theorem skip {f : Nat → OptionT Option (β × Nat)} (hrest : Rest text cursor rest)
    (hf : ∀ d, Rest text d (rest.dropWhile p) → Reads text P (f d)) :
    Reads text P (OptionT.lift (skipWhile p text cursor) >>= f) := by
  obtain ⟨d, hskip, hd⟩ := skipWhile_rest hrest
  rw [hskip]
  exact hf d hd

theorem look {c : α} {f : α → OptionT Option (β × Nat)} (hrest : Rest text cursor (c :: rest)) (hf : Reads text P (f c)) :
    Reads text P (OptionT.lift text[cursor]? >>= f) := by
  rw [hrest.read]
  exact hf

end Reads

end RS2ServerFix.Lib.Scan
