import RS2ServerFix.Lib.Ask

namespace RS2ServerFix.Lib

variable {Q : Type} {A : Q → Type} {σ ε α β : Type}

/-- What the surroundings may answer in a state, and the state they are in then. -/
abbrev Responds (Q : Type) (A : Q → Type) (σ : Type) : Type := (q : Q) → σ → A q → σ → Prop

/-- The program comes to a result in a world that answers it; the events are
what was asked and answered. -/
inductive Goes (responds : Responds Q A σ) : Ask Q A α → σ → List (Sigma A) → α → σ → Prop
  | done (a : α) (s : σ) : Goes responds (.done a) s [] a s
  | ask {q : Q} {next : A q → Ask Q A α} {answer : A q} {s t u : σ} {events : List (Sigma A)} {a : α}
      (ha : responds q s answer t) (h : Goes responds (next answer) t events a u) :
      Goes responds (.ask q next) s (⟨q, answer⟩ :: events) a u

/-- The program comes this far in a world that answers it. -/
inductive Leads (responds : Responds Q A σ) : Ask Q A α → σ → Ask Q A α → σ → Prop
  | here (p : Ask Q A α) (s : σ) : Leads responds p s p s
  | ask {q : Q} {next : A q → Ask Q A α} {answer : A q} {s t u : σ} {p : Ask Q A α}
      (ha : responds q s answer t) (h : Leads responds (next answer) t p u) : Leads responds (.ask q next) s p u

namespace Ask

/-- Whatever the world does, the program ends in `post`. -/
def Sure (responds : Responds Q A σ) : Ask Q A α → (α → σ → Prop) → σ → Prop
  | done a, post, s => post a s
  | ask q next, post, s => ∀ answer t, responds q s answer t → (next answer).Sure responds post t

namespace Sure

variable {responds : Responds Q A σ} {p : Ask Q A α} {post post' : α → σ → Prop} {s t : σ}

theorem mono (h : p.Sure responds post s) (hp : ∀ a t, post a t → post' a t) : p.Sure responds post' s := by
  induction p generalizing s with
  | done a => exact hp a s h
  | ask q next ih => exact fun answer t ht => ih answer (h answer t ht)

theorem bind {f : α → Ask Q A β} {post : β → σ → Prop} (h : p.Sure responds (fun a => (f a).Sure responds post) s) :
    (p.bind f).Sure responds post s := by
  induction p generalizing s with
  | done a => exact h
  | ask q next ih => exact fun answer t ht => ih answer (h answer t ht)

theorem goes (h : p.Sure responds post s) {events : List (Sigma A)} {a : α} (hg : Goes responds p s events a t) :
    post a t := by
  induction hg with
  | done a s => exact h
  | ask ha _ ih => exact ih (h _ _ ha)

end Sure

end Ask

namespace Goes

variable {responds : Responds Q A σ} {p : Ask Q A α} {s t : σ} {events : List (Sigma A)} {a : α}

theorem yields (h : Goes responds p s events a t) : Yields p events a := by
  induction h with
  | done a s => exact .done a
  | ask ha _ ih => exact .ask _ ih

theorem leads (h : Goes responds p s events a t) : Leads responds p s (.done a) t := by
  induction h with
  | done a s => exact .here _ _
  | ask ha _ ih => exact .ask ha ih

theorem of_bind {f : α → Ask Q A β} {c : β} (h : Goes responds (p.bind f) s events c t) :
    ∃ before after a u, events = before ++ after ∧ Goes responds p s before a u ∧ Goes responds (f a) u after c t := by
  induction p generalizing s events with
  | done a => exact ⟨[], events, a, s, rfl, .done a s, h⟩
  | ask q next ih =>
      cases h with
      | ask ha h =>
          obtain ⟨before, after, a, u, rfl, hp, hf⟩ := ih _ h
          exact ⟨_ :: before, after, a, u, rfl, .ask ha hp, hf⟩

/-- What every question of the program keeps. -/
theorem keeps {P : Q → Prop} {J : σ → Prop} (hp : p.Only P)
    (hJ : ∀ q s answer t, P q → responds q s answer t → J s → J t) (h : Goes responds p s events a t) (hs : J s) : J t := by
  induction h with
  | done a s => exact hs
  | ask ha _ ih => exact ih (hp.2 _) (hJ _ _ _ _ hp.1 ha hs)

theorem talk {J : σ → Prop} (answers : σ → (q : Q) → A q × σ)
    (ha : ∀ s q, J s → responds q s (answers s q).1 (answers s q).2 ∧ J (answers s q).2) (p : Ask Q A α) (hs : J s) :
    ∃ t, Goes responds p s (p.talk answers s).1 (p.talk answers s).2 t := by
  induction p generalizing s with
  | done a => exact ⟨s, .done a s⟩
  | ask q next ih =>
      obtain ⟨hq, hnext⟩ := ha s q hs
      obtain ⟨t, ht⟩ := ih (answers s q).1 hnext
      exact ⟨t, .ask hq ht⟩

end Goes

/-- A program that asks and has a place of its own beside it, for an error. -/
abbrev Told (Q : Type) (A : Q → Type) (ε α : Type) : Type := StateT ε (Ask Q A) α

namespace Told

/-- With a place of its own for the errors of `p`. -/
def aside (e : ε) (p : Told Q A ε α) : Told Q A ε α := fun kept => (p.run e).bind fun r => .done (r.1, kept)

def Sure (responds : Responds Q A σ) (p : Told Q A ε α) (post : α → σ → Prop) (s : σ) : Prop :=
  ∀ e, (p.run e).Sure responds (fun r => post r.1) s

namespace Sure

variable {responds : Responds Q A σ} {p : Told Q A ε α} {post post' : α → σ → Prop} {s : σ}

theorem mono (h : Sure responds p post s) (hp : ∀ a t, post a t → post' a t) : Sure responds p post' s :=
  fun e => Ask.Sure.mono (h e) fun r => hp r.1

theorem pure {a : α} (h : post a s) : Sure responds (Pure.pure a : Told Q A ε α) post s := fun _ => h

theorem bind {f : α → Told Q A ε β} {post : β → σ → Prop} (h : Sure responds p (fun a => Sure responds (f a) post) s) :
    Sure responds (p >>= f) post s :=
  fun e => Ask.Sure.bind (Ask.Sure.mono (h e) fun r _ hr => hr r.2)

theorem set {e : ε} {post : PUnit → σ → Prop} (h : post ⟨⟩ s) :
    Sure responds (MonadStateOf.set e : Told Q A ε PUnit) post s := fun _ => h

theorem get {post : ε → σ → Prop} (h : ∀ e, post e s) :
    Sure responds (MonadStateOf.get : Told Q A ε ε) post s := fun e => h e

theorem ite {c : Prop} [Decidable c] {p' : Told Q A ε α} (h : c → Sure responds p post s)
    (h' : ¬c → Sure responds p' post s) : Sure responds (if c then p else p') post s := by
  by_cases hc : c
  · rw [if_pos hc]
    exact h hc
  · rw [if_neg hc]
    exact h' hc

/-- The two parts of a conjunction, the second asked only where the first holds. -/
theorem both {p p' : Told Q A ε Bool} {post : Bool → σ → Prop}
    (h : Sure responds p (fun b t => (b = true → Sure responds p' post t) ∧ (b = false → post false t)) s) :
    Sure responds (p <&&> p') post s := by
  apply bind
  refine h.mono fun b t ht => ?_
  cases b with
  | false => exact pure (ht.2 rfl)
  | true => exact ht.1 rfl

/-- The two parts of a disjunction, the second asked only where the first fails. -/
theorem either {p p' : Told Q A ε Bool} {post : Bool → σ → Prop}
    (h : Sure responds p (fun b t => (b = true → post true t) ∧ (b = false → Sure responds p' post t)) s) :
    Sure responds (p <||> p') post s := by
  apply bind
  refine h.mono fun b t ht => ?_
  cases b with
  | false => exact ht.2 rfl
  | true => exact pure (ht.1 rfl)

end Sure

/-- A question of the program that leaves the world alone; a yes means `P`. -/
def Finds (responds : Responds Q A σ) (p : Told Q A ε Bool) (P : Prop) (s : σ) : Prop :=
  Sure responds p (fun b t => t = s ∧ (b = true → P)) s

namespace Finds

variable {responds : Responds Q A σ} {p p' : Told Q A ε Bool} {P P' : Prop} {s : σ}

theorem both (h : Finds responds p P s) (h' : Finds responds p' P' s) : Finds responds (p <&&> p') (P ∧ P') s := by
  refine Sure.both (h.mono ?_)
  rintro b _ ⟨rfl, hb⟩
  exact ⟨fun hyes => h'.mono fun b' _ ht => ⟨ht.1, fun hyes' => ⟨hb hyes, ht.2 hyes'⟩⟩, fun _ => ⟨rfl, fun hno => by cases hno⟩⟩

theorem either (h : Finds responds p P s) (h' : Finds responds p' P s) : Finds responds (p <||> p') P s := by
  refine Sure.either (h.mono ?_)
  rintro b _ ⟨rfl, hb⟩
  exact ⟨fun hyes => ⟨rfl, fun _ => hb hyes⟩, fun _ => h'⟩

/-- What follows a yes, and what follows a no. -/
theorem past {no yes : Told Q A ε α} {post : α → σ → Prop} (h : Finds responds p P s)
    (hno : Sure responds no post s) (hyes : P → Sure responds yes post s) :
    Sure responds (p >>= fun b => if !b then no else yes) post s := by
  refine Sure.bind (h.mono ?_)
  rintro b _ ⟨rfl, hb⟩
  cases b with
  | false => exact hno
  | true => exact hyes (hb rfl)

theorem gate {no yes : Told Q A ε α} {post : α → σ → Prop} (h : Finds responds p P s)
    (hyes : P → Sure responds yes post s) (hno : Sure responds no post s) :
    Sure responds (p >>= fun b => if b then yes else no) post s := by
  refine Sure.bind (h.mono ?_)
  rintro b _ ⟨rfl, hb⟩
  cases b with
  | false => exact hno
  | true => exact hyes (hb rfl)

end Finds

def Only (P : Q → Prop) (p : Told Q A ε α) : Prop := ∀ e, (p.run e).Only P

namespace Only

variable {P : Q → Prop} {p : Told Q A ε α}

theorem pure (a : α) : Only P (Pure.pure a : Told Q A ε α) := fun _ => trivial

theorem bind {f : α → Told Q A ε β} (h : Only P p) (hf : ∀ a, Only P (f a)) : Only P (p >>= f) :=
  fun e => Ask.Only.bind (h e) fun r => hf r.1 r.2

theorem set (e : ε) : Only P (MonadStateOf.set e : Told Q A ε PUnit) := fun _ => trivial

theorem get : Only P (MonadStateOf.get : Told Q A ε ε) := fun _ => trivial

theorem aside (e : ε) (h : Only P p) : Only P (p.aside e) := fun _ => Ask.Only.bind (h e) fun _ => trivial

theorem ite {c : Prop} [Decidable c] {p' : Told Q A ε α} (h : Only P p) (h' : Only P p') :
    Only P (if c then p else p') := by
  split
  · exact h
  · exact h'

theorem both {p p' : Told Q A ε Bool} (h : Only P p) (h' : Only P p') : Only P (p <&&> p') := by
  apply bind h
  intro b
  cases b with
  | false => exact pure false
  | true => exact h'

theorem either {p p' : Told Q A ε Bool} (h : Only P p) (h' : Only P p') : Only P (p <||> p') := by
  apply bind h
  intro b
  cases b with
  | false => exact h'
  | true => exact pure true

theorem mono {P' : Q → Prop} (h : Only P p) (hP : ∀ q, P q → P' q) : Only P' p :=
  fun e => (h e).mono hP

theorem still {responds : Responds Q A σ} (h : Only P p) (hP : ∀ q s answer t, P q → responds q s answer t → t = s)
    (s : σ) : Sure responds p (fun _ t => t = s) s := by
  intro e
  have hp := h e
  generalize p.run e = ask at hp
  induction ask with
  | done r => exact rfl
  | ask q next ih =>
      intro answer t ht
      obtain rfl := hP q s answer t hp.1 ht
      exact ih answer (hp.2 answer)

end Only

end Told

end RS2ServerFix.Lib
