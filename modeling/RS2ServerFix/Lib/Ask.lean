import Mathlib.Data.List.Basic
import Mathlib.Tactic.Common

namespace RS2ServerFix.Lib

/-- A program that asks its surroundings and goes on with whatever they
answer. -/
inductive Ask (Q : Type) (A : Q → Type) (α : Type) : Type
  | done (a : α)
  | ask (q : Q) (next : A q → Ask Q A α)

variable {Q : Type} {A : Q → Type} {α β : Type}

namespace Ask

def bind : Ask Q A α → (α → Ask Q A β) → Ask Q A β
  | done a, f => f a
  | ask q next, f => ask q fun answer => (next answer).bind f

instance : Monad (Ask Q A) where
  pure := done
  bind := bind

def query (q : Q) : Ask Q A (A q) := ask q done

@[simp] theorem pure_def (a : α) : (pure a : Ask Q A α) = done a := rfl

@[simp] theorem bind_def (p : Ask Q A α) (f : α → Ask Q A β) : p >>= f = p.bind f := rfl

theorem bind_bind {γ : Type} (p : Ask Q A α) (f : α → Ask Q A β) (g : β → Ask Q A γ) :
    (p.bind f).bind g = p.bind fun a => (f a).bind g := by
  induction p with
  | done a => rfl
  | ask q next ih => exact congrArg _ (funext ih)

theorem bind_done (p : Ask Q A α) : p.bind done = p := by
  induction p with
  | done a => rfl
  | ask q next ih => exact congrArg _ (funext ih)

/-- The talk with surroundings that have a state of their own. -/
def talk {σ : Type} (respond : σ → (q : Q) → A q × σ) : σ → Ask Q A α → List (Sigma A) × α
  | _, done a => ([], a)
  | s, ask q next =>
      let (answer, s) := respond s q
      let (events, a) := talk respond s (next answer)
      (⟨q, answer⟩ :: events, a)

end Ask

/-- The program ends with a result after these questions and answers. -/
inductive Yields : Ask Q A α → List (Sigma A) → α → Prop
  | done (a : α) : Yields (.done a) [] a
  | ask {q : Q} {next : A q → Ask Q A α} (answer : A q) {events : List (Sigma A)} {a : α}
      (h : Yields (next answer) events a) : Yields (.ask q next) (⟨q, answer⟩ :: events) a

namespace Yields

variable {p : Ask Q A α} {f : α → Ask Q A β} {events : List (Sigma A)} {a b : α} {c : β}

theorem done_iff : Yields (.done a : Ask Q A α) events b ↔ events = [] ∧ b = a := by
  constructor
  · intro h
    cases h with
    | done => exact ⟨rfl, rfl⟩
  · rintro ⟨rfl, rfl⟩
    exact .done _

theorem of_bind (h : Yields (p.bind f) events c) :
    ∃ before a after, events = before ++ after ∧ Yields p before a ∧ Yields (f a) after c := by
  induction p generalizing events with
  | done a => exact ⟨[], a, events, rfl, .done a, h⟩
  | ask q next ih =>
      cases h with
      | ask answer h =>
          obtain ⟨before, a, after, rfl, hp, hf⟩ := ih answer h
          exact ⟨_ :: before, a, after, rfl, .ask answer hp, hf⟩

theorem of_query {q : Q} {f : A q → Ask Q A β} (h : Yields ((Ask.query q).bind f) events c) :
    ∃ answer rest, events = ⟨q, answer⟩ :: rest ∧ Yields (f answer) rest c := by
  change Yields (.ask q f) events c at h
  cases h with
  | ask answer h => exact ⟨answer, _, rfl, h⟩

/-- A talk ends by itself: no two of one program are a beginning of the same. -/
theorem cut_unique {ev ev' rest rest' : List (Sigma A)} (h : Yields p ev a) (h' : Yields p ev' b)
    (he : ev ++ rest = ev' ++ rest') : a = b ∧ ev = ev' ∧ rest = rest' := by
  induction h generalizing ev' with
  | done a =>
      cases h' with
      | done => exact ⟨rfl, rfl, he⟩
  | ask answer _ ih =>
      cases h' with
      | ask answer' h' =>
          obtain ⟨hhead, htail⟩ := List.cons.inj he
          obtain rfl := eq_of_heq (Sigma.mk.inj hhead).2
          obtain ⟨rfl, rfl, rfl⟩ := ih h' htail
          exact ⟨rfl, rfl, rfl⟩

theorem talk {σ : Type} (respond : σ → (q : Q) → A q × σ) (s : σ) (p : Ask Q A α) :
    Yields p (p.talk respond s).1 (p.talk respond s).2 := by
  induction p generalizing s with
  | done a => exact .done a
  | ask q next ih => exact .ask _ (ih _ _)

theorem talk_pair {γ δ σ : Type} (respond : σ → (q : Q) → A q × σ) (s : σ) (p : Ask Q A (γ × δ)) :
    Yields p (p.talk respond s).1 ((p.talk respond s).2.1, (p.talk respond s).2.2) := talk respond s p

end Yields

namespace Ask

def Only (P : Q → Prop) : Ask Q A α → Prop
  | done _ => True
  | ask q next => P q ∧ ∀ answer, (next answer).Only P

namespace Only

variable {P : Q → Prop} {p : Ask Q A α}

theorem query {q : Q} (h : P q) : (Ask.query q : Ask Q A (A q)).Only P := ⟨h, fun _ => trivial⟩

theorem bind {f : α → Ask Q A β} (h : p.Only P) (hf : ∀ a, (f a).Only P) : (p.bind f).Only P := by
  induction p with
  | done a => exact hf a
  | ask q next ih => exact ⟨h.1, fun answer => ih answer (h.2 answer)⟩

theorem mono {P' : Q → Prop} (h : p.Only P) (hP : ∀ q, P q → P' q) : p.Only P' := by
  induction p with
  | done a => trivial
  | ask q next ih => exact ⟨hP q h.1, fun answer => ih answer (h.2 answer)⟩

theorem ite {c : Prop} [Decidable c] {p' : Ask Q A α} (h : p.Only P) (h' : p'.Only P) :
    (if c then p else p').Only P := by
  split
  · exact h
  · exact h'

theorem events (h : p.Only P) {events : List (Sigma A)} {a : α} (hy : Yields p events a) :
    ∀ e ∈ events, P e.1 := by
  induction hy with
  | done a => exact fun e he => absurd he List.not_mem_nil
  | ask answer _ ih =>
      intro e he
      rcases List.mem_cons.mp he with rfl | he
      · exact h.1
      · exact ih (h.2 answer) e he

theorem optionBind {p : OptionT (Ask Q A) α} {f : α → OptionT (Ask Q A) β} (h : Only P p.run)
    (hf : ∀ a, Only P (f a).run) : Only P (p >>= f).run := by
  refine Only.bind (p := p.run) h fun a => ?_
  cases a with
  | none => trivial
  | some a => exact hf a

theorem exceptBind {ε : Type} {p : ExceptT ε (Ask Q A) α} {f : α → ExceptT ε (Ask Q A) β} (h : Only P p.run)
    (hf : ∀ a, Only P (f a).run) : Only P (p >>= f).run := by
  refine Only.bind (p := p.run) h fun a => ?_
  cases a with
  | error e => trivial
  | ok a => exact hf a

end Only

/-- Every point the program may come to is one of `P`, with what goes on from there. -/
def Every (P : (q : Q) → (A q → Ask Q A α) → Prop) : Ask Q A α → Prop
  | done _ => True
  | ask q next => P q next ∧ ∀ answer, (next answer).Every P

namespace Every

variable {P : (q : Q) → (A q → Ask Q A β) → Prop}

theorem bind {p : Ask Q A α} {f : α → Ask Q A β} (h : p.Only fun q => ∀ next, P q next)
    (hf : ∀ a, (f a).Every P) : (p.bind f).Every P := by
  induction p with
  | done a => exact hf a
  | ask q next ih => exact ⟨h.1 _, fun answer => ih answer (h.2 answer)⟩

theorem ite {c : Prop} {_ : Decidable c} {p p' : Ask Q A β} (h : c → p.Every P) (h' : ¬c → p'.Every P) :
    (if c then p else p').Every P := by
  split
  · next hc => exact h hc
  · next hc => exact h' hc

end Every

def All (good : α → Prop) : Ask Q A α → Prop
  | done a => good a
  | ask _ next => ∀ answer, (next answer).All good

namespace All

variable {good better : α → Prop} {p : Ask Q A α}

theorem mono (h : p.All good) (hg : ∀ a, good a → better a) : p.All better := by
  induction p with
  | done a => exact hg a h
  | ask q next ih => exact fun answer => ih answer (h answer)

theorem bind {good : β → Prop} {f : α → Ask Q A β} (h : p.All fun a => (f a).All good) : (p.bind f).All good := by
  induction p with
  | done a => exact h
  | ask q next ih => exact fun answer => ih answer (h answer)

theorem yields (h : p.All good) {events : List (Sigma A)} {a : α} (hy : Yields p events a) : good a := by
  induction hy with
  | done a => exact h
  | ask answer _ ih => exact ih (h answer)

end All

def answered (table : (q : Q) → A q) : Ask Q A α → α
  | done a => a
  | ask q next => (next (table q)).answered table

section

variable (table : (q : Q) → A q)

@[simp] theorem answered_bind (p : Ask Q A α) (f : α → Ask Q A β) :
    (p.bind f).answered table = (f (p.answered table)).answered table := by
  induction p with
  | done a => rfl
  | ask q next ih => exact ih (table q)

theorem answered_optionBind {p : OptionT (Ask Q A) α} {f : α → OptionT (Ask Q A) β} {b : β} :
    (p >>= f).run.answered table = some b ↔
      ∃ a, p.run.answered table = some a ∧ (f a).run.answered table = some b := by
  have h : (p >>= f).run.answered table = (match p.run.answered table with
      | some a => (f a).run
      | none => .done none : Ask Q A (Option β)).answered table := answered_bind table p.run _
  rw [h]
  cases p.run.answered table with
  | none =>
      constructor
      · intro h
        cases h
      · rintro ⟨a, ha, _⟩
        cases ha
  | some a =>
      constructor
      · intro h
        exact ⟨a, rfl, h⟩
      · rintro ⟨_, ha, h⟩
        cases ha
        exact h

theorem answered_exceptBind {ε : Type} {p : ExceptT ε (Ask Q A) α} {f : α → ExceptT ε (Ask Q A) β} {b : β} :
    (p >>= f).run.answered table = .ok b ↔
      ∃ a, p.run.answered table = .ok a ∧ (f a).run.answered table = .ok b := by
  have h : (p >>= f).run.answered table = (ExceptT.bindCont f (p.run.answered table)).answered table :=
    answered_bind table p.run (ExceptT.bindCont f)
  rw [h]
  cases p.run.answered table with
  | error e =>
      constructor
      · intro h
        cases h
      · rintro ⟨a, ha, _⟩
        cases ha
  | ok a =>
      constructor
      · intro h
        exact ⟨a, rfl, h⟩
      · rintro ⟨_, ha, h⟩
        cases ha
        exact h

end

end Ask

end RS2ServerFix.Lib
