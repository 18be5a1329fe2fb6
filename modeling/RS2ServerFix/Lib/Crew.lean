import Mathlib.Logic.Function.Basic
import Mathlib.Logic.Relation
import RS2ServerFix.Lib.Act
import RS2ServerFix.Lib.World

namespace RS2ServerFix.Lib

open Relation

variable {ι Q : Type} {A : Q → Type} {σ τ ε L α β : Type}

/-- What one of several parties knows by itself: what it may ask then, and what
it may be answered and knows after. -/
structure View (Q : Type) (A : Q → Type) (L : Type) where
  may : Q → L → Prop
  answers : Responds Q A L

def Ask.Abides (v : View Q A L) : Ask Q A α → (α → L → Prop) → L → Prop
  | .done a, post, l => post a l
  | .ask q next, post, l => v.may q l ∧ ∀ answer l', v.answers q l answer l' → (next answer).Abides v post l'

namespace Ask.Abides

variable {v : View Q A L} {p : Ask Q A α} {post post' : α → L → Prop} {l : L}

theorem mono (h : p.Abides v post l) (hp : ∀ a l, post a l → post' a l) : p.Abides v post' l := by
  induction p generalizing l with
  | done a => exact hp a l h
  | ask q next ih => exact ⟨h.1, fun answer l' hl => ih answer (h.2 answer l' hl)⟩

theorem bind {f : α → Ask Q A β} {post : β → L → Prop} (h : p.Abides v (fun a => (f a).Abides v post) l) :
    (p.bind f).Abides v post l := by
  induction p generalizing l with
  | done a => exact h
  | ask q next ih => exact ⟨h.1, fun answer l' hl => ih answer (h.2 answer l' hl)⟩

theorem queryBind {q : Q} {g : A q → Ask Q A α} (hmay : v.may q l)
    (h : ∀ answer l', v.answers q l answer l' → (g answer).Abides v post l') : (Ask.query q >>= g).Abides v post l :=
  ⟨hmay, h⟩

theorem ite {c : Prop} {_ : Decidable c} {p' : Ask Q A α} (h : c → p.Abides v post l) (h' : ¬c → p'.Abides v post l) :
    (if c then p else p').Abides v post l := by
  split
  · next hc => exact h hc
  · next hc => exact h' hc

end Ask.Abides

namespace Act

/-- From this state and this knowledge the program asks only what it may, raises
nothing and ends in `post`. -/
def Abides (v : View Q A L) (p : Act Q A τ ε α) (post : α → τ → L → Prop) (s : τ) (l : L) : Prop :=
  (p s).Abides v (fun r l' => ∃ a, r.1 = .ok a ∧ post a r.2 l') l

namespace Abides

variable {v : View Q A L} {p p' : Act Q A τ ε α} {post post' : α → τ → L → Prop} {s : τ} {l : L}

theorem mono (h : p.Abides v post s l) (hp : ∀ a t l', post a t l' → post' a t l') : p.Abides v post' s l := by
  refine Ask.Abides.mono h ?_
  rintro r l' ⟨a, ha, ht⟩
  exact ⟨a, ha, hp a r.2 l' ht⟩

theorem done {a : α} (h : post a s l) : (Act.done a : Act Q A τ ε α).Abides v post s l := ⟨a, rfl, h⟩

theorem modify {f : τ → τ} {post : Unit → τ → L → Prop} (h : post () (f s) l) :
    (Act.modify f : Act Q A τ ε Unit).Abides v post s l := ⟨(), rfl, h⟩

theorem query {q : Q} {post : A q → τ → L → Prop} (hmay : v.may q l)
    (h : ∀ answer l', v.answers q l answer l' → post answer s l') :
    (Act.query q : Act Q A τ ε (A q)).Abides v post s l :=
  ⟨hmay, fun answer l' hl => ⟨answer, rfl, h answer l' hl⟩⟩

theorem bind {post : β → τ → L → Prop} {f : α → Act Q A τ ε β} (h : p.Abides v (fun a => (f a).Abides v post) s l) :
    (p >>= f).Abides v post s l := by
  apply Ask.Abides.bind
  refine Ask.Abides.mono h ?_
  rintro ⟨e | a, t⟩ l' ⟨a', ha, ht⟩
  · cases ha
  · cases ha
    exact ht

theorem getBind {f : τ → Act Q A τ ε β} {post : β → τ → L → Prop} (h : (f s).Abides v post s l) :
    (Act.get >>= f).Abides v post s l := h

theorem modifyBind {f : τ → τ} {g : Unit → Act Q A τ ε β} {post : β → τ → L → Prop} (h : (g ()).Abides v post (f s) l) :
    (Act.modify f >>= g).Abides v post s l := h

theorem queryBind {q : Q} {g : A q → Act Q A τ ε β} {post : β → τ → L → Prop} (hmay : v.may q l)
    (h : ∀ answer l', v.answers q l answer l' → (g answer).Abides v post s l') :
    (Act.query q >>= g).Abides v post s l :=
  bind (query hmay h)

theorem ite {c : Prop} {_ : Decidable c} (h : c → p.Abides v post s l) (h' : ¬c → p'.Abides v post s l) :
    (if c then p else p').Abides v post s l := by
  split
  · next hc => exact h hc
  · next hc => exact h' hc

end Abides

end Act

/-- Several parties at their programs, over a world that they share. -/
structure Crew (ι Q : Type) (A : Q → Type) (σ α : Type) where
  state : σ
  program : ι → Ask Q A α

namespace Crew

variable [DecidableEq ι] (responds : ι → Responds Q A σ) (starts : ι → α → Ask Q A α → σ → σ → Prop)
  (outside : σ → σ → Prop)

/-- One question of one party, its next program, or something from outside. -/
inductive Step : Crew ι Q A σ α → Crew ι Q A σ α → Prop
  | asks {x : Crew ι Q A σ α} {i : ι} {q : Q} {next : A q → Ask Q A α} {answer : A q} {t : σ}
      (h : x.program i = .ask q next) (ha : responds i q x.state answer t) :
      Step x ⟨t, Function.update x.program i (next answer)⟩
  | starts {x : Crew ι Q A σ α} {i : ι} {a : α} {p : Ask Q A α} {t : σ} (h : x.program i = .done a)
      (hs : starts i a p x.state t) : Step x ⟨t, Function.update x.program i p⟩
  | outside {x : Crew ι Q A σ α} {t : σ} (ho : outside x.state t) : Step x ⟨t, x.program⟩

def Run : Crew ι Q A σ α → Crew ι Q A σ α → Prop := ReflTransGen (Step responds starts outside)

variable {responds starts outside}

/-- One party by itself goes on with its program, while the others stand by. -/
theorem Run.leads {i : ι} {p p' : Ask Q A α} {s t : σ} (h : Leads (responds i) p s p' t) {program : ι → Ask Q A α}
    (hp : program i = p) : Run responds starts outside ⟨s, program⟩ ⟨t, Function.update program i p'⟩ := by
  induction h generalizing program with
  | here p s =>
      have hsame : Function.update program i p = program := by
        rw [← hp, Function.update_eq_self]
      rw [hsame]
      exact ReflTransGen.refl
  | ask ha _ ih =>
      have hnext := ih (Function.update_self i _ program)
      rw [Function.update_idem] at hnext
      exact ReflTransGen.head (Step.asks hp ha) hnext

theorem Run.alone {i : ι} {p : Ask Q A α} {s t : σ} {events : List (Sigma A)} {a : α}
    (h : Goes (responds i) p s events a t) {program : ι → Ask Q A α} (hp : program i = p) :
    Run responds starts outside ⟨s, program⟩ ⟨t, Function.update program i (.done a)⟩ := Run.leads h.leads hp

/-- A party that starts a program and comes to its end, while the others stand by. -/
theorem Run.turn {x : Crew ι Q A σ α} {i : ι} {a b : α} {p : Ask Q A α} {s t : σ} {events : List (Sigma A)}
    (h : x.program i = .done a) (hs : starts i a p x.state s) (hg : Goes (responds i) p s events b t) :
    Run responds starts outside x ⟨t, Function.update x.program i (.done b)⟩ := by
  have hgoes : Run responds starts outside ⟨s, Function.update x.program i p⟩ _ :=
    Run.alone hg (Function.update_self i p x.program)
  rw [Function.update_idem] at hgoes
  exact ReflTransGen.head (Step.starts h hs) hgoes

/-- What holds of every point of each program that is started holds of those under way. -/
theorem Run.every {P : (q : Q) → (A q → Ask Q A α) → Prop} {x y : Crew ι Q A σ α}
    (hstarts : ∀ i a p s t, starts i a p s t → p.Every P) (hx : ∀ i, (x.program i).Every P)
    (hr : Run responds starts outside x y) : ∀ i, (y.program i).Every P := by
  have hupdate : ∀ {program : ι → Ask Q A α} {i : ι} {p : Ask Q A α}, (∀ j, (program j).Every P) → p.Every P →
      ∀ j, (Function.update program i p j).Every P := by
    intro program i p h hp j
    by_cases hj : j = i
    · subst hj
      rw [Function.update_self]
      exact hp
    · rw [Function.update_of_ne hj]
      exact h j
  induction hr with
  | refl => exact hx
  | tail _ hs ih =>
      cases hs with
      | @asks i q next answer t h _ =>
          have hi := ih i
          rw [h] at hi
          exact hupdate ih (hi.2 answer)
      | starts _ hst => exact hupdate ih (hstarts _ _ _ _ _ hst)
      | outside _ => exact ih

/-- What the parties know goes together with the state of the world, whoever moves. -/
structure Sound (v : ι → View Q A L) (agrees : (ι → L) → σ → Prop) (rest : ι → α → L → Prop)
    (responds : ι → Responds Q A σ) (starts : ι → α → Ask Q A α → σ → σ → Prop) (outside : σ → σ → Prop) : Prop where
  asks : ∀ i q s answer t ls, agrees ls s → (v i).may q (ls i) → responds i q s answer t →
    ∃ l, (v i).answers q (ls i) answer l ∧ agrees (Function.update ls i l) t
  starts : ∀ i a p s t ls, agrees ls s → rest i a (ls i) → starts i a p s t →
    ∃ l, agrees (Function.update ls i l) t ∧ p.Abides (v i) (rest i) l
  outside : ∀ s t ls, agrees ls s → outside s t → agrees ls t

structure Going (v : ι → View Q A L) (agrees : (ι → L) → σ → Prop) (rest : ι → α → L → Prop) (x : Crew ι Q A σ α)
    (ls : ι → L) : Prop where
  agrees : agrees ls x.state
  abides : ∀ i, (x.program i).Abides (v i) (rest i) (ls i)

variable {v : ι → View Q A L} {agrees : (ι → L) → σ → Prop} {rest : ι → α → L → Prop} {x y : Crew ι Q A σ α}

theorem Going.replace {ls : ι → L} (h : Going v agrees rest x ls) {i : ι} {p : Ask Q A α} {l : L} {t : σ}
    (ht : agrees (Function.update ls i l) t) (hp : p.Abides (v i) (rest i) l) :
    Going v agrees rest ⟨t, Function.update x.program i p⟩ (Function.update ls i l) where
  agrees := ht
  abides := by
    intro j
    by_cases hj : j = i
    · subst hj
      simp only [Function.update_self]
      exact hp
    · simp only [Function.update_of_ne hj]
      exact h.abides j

/-- The step rule. -/
theorem Going.step (hsound : Sound v agrees rest responds starts outside) {ls : ι → L} (h : Going v agrees rest x ls)
    (hs : Step responds starts outside x y) : ∃ ls', Going v agrees rest y ls' := by
  cases hs with
  | @asks i q next answer t hp ha =>
      have habides := h.abides i
      rw [hp] at habides
      obtain ⟨l, hl, ht⟩ := hsound.asks i q _ answer t ls h.agrees habides.1 ha
      exact ⟨_, h.replace ht (habides.2 answer l hl)⟩
  | @starts i a p t hp hst =>
      have habides := h.abides i
      rw [hp] at habides
      obtain ⟨l, ht, hnew⟩ := hsound.starts i a p _ t ls h.agrees habides hst
      exact ⟨_, h.replace ht hnew⟩
  | outside ho => exact ⟨ls, hsound.outside _ _ ls h.agrees ho, h.abides⟩

/-- The run rule. -/
theorem Going.run (hsound : Sound v agrees rest responds starts outside) {ls : ι → L} (h : Going v agrees rest x ls)
    (hr : Run responds starts outside x y) : ∃ ls', Going v agrees rest y ls' := by
  induction hr with
  | refl => exact ⟨ls, h⟩
  | tail _ hs ih =>
      obtain ⟨ls', hgoing⟩ := ih
      exact hgoing.step hsound hs

end Crew

end RS2ServerFix.Lib
