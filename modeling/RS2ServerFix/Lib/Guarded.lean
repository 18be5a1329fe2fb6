import RS2ServerFix.Lib.Crew

namespace RS2ServerFix.Lib

open Relation

variable {ι Q : Type} {A : Q → Type} {σ α β : Type}

/-- What one of several parties may ask, how it is answered, and what the others
may do to the state meanwhile. -/
structure Terms (Q : Type) (A : Q → Type) (σ : Type) where
  may : Q → σ → Prop
  responds : Responds Q A σ
  others : σ → σ → Prop
  refl : ∀ s, others s s
  trans : ∀ s t u, others s t → others t u → others s u

/-- Whatever the others do before each question and after the last one, the
program asks only what it may, and ends in `post`. -/
def Ask.Guarded (v : Terms Q A σ) : Ask Q A α → (α → σ → Prop) → σ → Prop
  | .done a, post, s => ∀ t, v.others s t → post a t
  | .ask q next, post, s => ∀ t, v.others s t →
      v.may q t ∧ ∀ answer u, v.responds q t answer u → (next answer).Guarded v post u

namespace Ask.Guarded

variable {v : Terms Q A σ} {p : Ask Q A α} {post post' : α → σ → Prop} {s t : σ}

theorem later (h : p.Guarded v post s) (ht : v.others s t) : p.Guarded v post t := by
  cases p with
  | done a => exact fun u hu => h u (v.trans s t u ht hu)
  | ask q next => exact fun u hu => h u (v.trans s t u ht hu)

theorem mono (h : p.Guarded v post s) (hp : ∀ a t, post a t → post' a t) : p.Guarded v post' s := by
  induction p generalizing s with
  | done a => exact fun t ht => hp a t (h t ht)
  | ask q next ih => exact fun t ht => ⟨(h t ht).1, fun answer u hu => ih answer ((h t ht).2 answer u hu)⟩

theorem bind {f : α → Ask Q A β} {post : β → σ → Prop} (h : p.Guarded v (fun a => (f a).Guarded v post) s) :
    (p.bind f).Guarded v post s := by
  induction p generalizing s with
  | done a => exact h s (v.refl s)
  | ask q next ih => exact fun t ht => ⟨(h t ht).1, fun answer u hu => ih answer ((h t ht).2 answer u hu)⟩

end Ask.Guarded

/-- From a state in `I` the program ends in `post`, whatever the others do. -/
def Ask.Leads (v : Terms Q A σ) (I : σ → Prop) (p : Ask Q A α) (post : α → σ → Prop) : Prop :=
  ∀ s, I s → p.Guarded v post s

def Terms.Stable (v : Terms Q A σ) (I : σ → Prop) : Prop := ∀ s t, I s → v.others s t → I t

namespace Ask.Leads

variable {v : Terms Q A σ} {I J : σ → Prop} {p p' : Ask Q A α} {post post' : α → σ → Prop}

theorem mono (h : p.Leads v I post) (hI : ∀ s, J s → I s) (hp : ∀ a s, post a s → post' a s) : p.Leads v J post' :=
  fun s hs => (h s (hI s hs)).mono hp

theorem done {a : α} (hI : v.Stable I) (h : ∀ s, I s → post a s) : (Ask.done a : Ask Q A α).Leads v I post :=
  fun s hs t ht => h t (hI s t hs ht)

theorem bind {f : α → Ask Q A β} {post' : β → σ → Prop} (h : p.Leads v I post)
    (hf : ∀ a, (f a).Leads v (post a) post') : (p >>= f).Leads v I post' :=
  fun s hs => Ask.Guarded.bind ((h s hs).mono hf)

theorem query {q : Q} {post : A q → σ → Prop} (hI : v.Stable I) (hpost : ∀ a, v.Stable (post a))
    (hmay : ∀ s, I s → v.may q s) (h : ∀ s a t, I s → v.responds q s a t → post a t) :
    (Ask.query q : Ask Q A (A q)).Leads v I post := fun s hs t ht =>
  ⟨hmay t (hI s t hs ht), fun a u hu w hw => hpost a u w (h t a u (hI s t hs ht) hu) hw⟩

theorem ite {c : Prop} {_ : Decidable c} (h : c → p.Leads v I post) (h' : ¬c → p'.Leads v I post) :
    (if c then p else p').Leads v I post := by
  split
  · next hc => exact h hc
  · next hc => exact h' hc

theorem both {p p' : Ask Q A Bool} {mid post : Bool → σ → Prop} (h : p.Leads v I mid) (h' : p'.Leads v (mid true) post)
    (hstable : v.Stable (mid false)) (hfalse : ∀ s, mid false s → post false s) : (p <&&> p').Leads v I post :=
  bind h fun b => by
    cases b with
    | false => exact done hstable hfalse
    | true => exact h'

end Ask.Leads

namespace Crew

variable [DecidableEq ι]

/-- Each party's questions are within what the others expect of it. -/
structure Bound (terms : ι → Terms Q A σ) (rest : ι → α → σ → Prop)
    (starts : ι → α → Ask Q A α → σ → σ → Prop) (outside : σ → σ → Prop) : Prop where
  asks : ∀ i j q s answer t, j ≠ i → (terms i).may q s → (terms i).responds q s answer t → (terms j).others s t
  starts : ∀ i a p s t, rest i a s → starts i a p s t →
    p.Guarded (terms i) (rest i) t ∧ ∀ j, (terms j).others s t
  outside : ∀ j s t, outside s t → (terms j).others s t

variable {terms : ι → Terms Q A σ} {rest : ι → α → σ → Prop} {starts : ι → α → Ask Q A α → σ → σ → Prop}
  {outside : σ → σ → Prop} {x y : Crew ι Q A σ α}

def Guarded (terms : ι → Terms Q A σ) (rest : ι → α → σ → Prop) (x : Crew ι Q A σ α) : Prop :=
  ∀ i, (x.program i).Guarded (terms i) (rest i) x.state

theorem Guarded.replace (h : Guarded terms rest x) {i : ι} {p : Ask Q A α} {t : σ}
    (hp : p.Guarded (terms i) (rest i) t) (ht : ∀ j, j ≠ i → (terms j).others x.state t) :
    Guarded terms rest ⟨t, Function.update x.program i p⟩ := by
  intro j
  by_cases hj : j = i
  · subst hj
    simp only [Function.update_self]
    exact hp
  · simp only [Function.update_of_ne hj]
    exact (h j).later (ht j hj)

/-- The step rule. -/
theorem Guarded.step (hbound : Bound terms rest starts outside) (h : Guarded terms rest x)
    (hs : Step (fun i => (terms i).responds) starts outside x y) : Guarded terms rest y := by
  cases hs with
  | @asks i q next answer t hp ha =>
      have hi := h i
      rw [hp] at hi
      obtain ⟨hmay, hnext⟩ := hi x.state ((terms i).refl _)
      exact h.replace (hnext answer t ha) fun j hj => hbound.asks i j q _ answer t hj hmay ha
  | @starts i a p t hp hst =>
      have hi := h i
      rw [hp] at hi
      obtain ⟨hnext, hothers⟩ := hbound.starts i a p _ t (hi x.state ((terms i).refl _)) hst
      exact h.replace hnext fun j _ => hothers j
  | outside ho => exact fun j => (h j).later (hbound.outside j _ _ ho)

/-- The run rule. -/
theorem Guarded.run (hbound : Bound terms rest starts outside) (h : Guarded terms rest x)
    (hr : Run (fun i => (terms i).responds) starts outside x y) : Guarded terms rest y := by
  induction hr with
  | refl => exact h
  | tail _ hs ih => exact ih.step hbound hs

end Crew

end RS2ServerFix.Lib
