import Mathlib.Order.Defs.Unbundled
import RS2ServerFix.Lib.Ask

namespace RS2ServerFix.Lib

/-- A program with a state of its own that asks its surroundings and may be
left by a raise. A raise leaves the state as it found it. -/
def Act (Q : Type) (A : Q → Type) (σ ε α : Type) : Type := σ → Ask Q A (Except ε α × σ)

variable {Q : Type} {A : Q → Type} {σ ε α β : Type}

namespace Act

def done (a : α) : Act Q A σ ε α := fun s => .done (.ok a, s)

def bind (p : Act Q A σ ε α) (f : α → Act Q A σ ε β) : Act Q A σ ε β := fun s =>
  (p s).bind fun (result, s) =>
    match result with
    | .ok a => f a s
    | .error e => .done (.error e, s)

instance : Monad (Act Q A σ ε) where
  pure := done
  bind := bind

def get : Act Q A σ ε σ := fun s => .done (.ok s, s)

def modify (f : σ → σ) : Act Q A σ ε Unit := fun s => .done (.ok (), f s)

def query (q : Q) : Act Q A σ ε (A q) := fun s => .ask q fun answer => .done (.ok answer, s)

def raise (e : ε) : Act Q A σ ε α := fun s => .done (.error e, s)

/-- A raise is shown to `filter` where it arises and goes on. -/
def filtered (p : Act Q A σ ε α) (filter : ε → Act Q A σ ε Unit) : Act Q A σ ε α := fun s =>
  (p s).bind fun (result, s) =>
    match result with
    | .ok a => .done (.ok a, s)
    | .error e => (filter e).bind (fun _ => raise e) s

/-- The cleanup runs however the program ends; it is told whether by a raise. -/
def cleaned (p : Act Q A σ ε α) (cleanup : Bool → Act Q A σ ε Unit) : Act Q A σ ε α := fun s =>
  (p s).bind fun (result, s) =>
    match result with
    | .ok a => (cleanup false).bind (fun _ => done a) s
    | .error e => (cleanup true).bind (fun _ => raise e) s

def each (f : β → Act Q A σ ε Unit) : List β → Act Q A σ ε Unit
  | [] => done ()
  | b :: rest => (f b).bind fun _ => each f rest

@[simp] theorem pure_def (a : α) : (pure a : Act Q A σ ε α) = done a := rfl

@[simp] theorem bind_def (p : Act Q A σ ε α) (f : α → Act Q A σ ε β) : p >>= f = p.bind f := rfl

theorem bind_bind {γ : Type} (p : Act Q A σ ε α) (f : α → Act Q A σ ε β) (g : β → Act Q A σ ε γ) :
    (p.bind f).bind g = p.bind fun a => (f a).bind g := by
  funext s
  refine (Ask.bind_bind _ _ _).trans (congrArg _ (funext fun r => ?_))
  obtain ⟨result, t⟩ := r
  cases result <;> rfl

theorem bind_done (p : Act Q A σ ε Unit) : p.bind (fun _ => done ()) = p := by
  funext s
  refine (congrArg (Ask.bind (p s)) (funext fun r => ?_)).trans (Ask.bind_done (p s))
  obtain ⟨result, t⟩ := r
  cases result <;> rfl

theorem ite_bind {c : Prop} [Decidable c] (p p' : Act Q A σ ε α) (f : α → Act Q A σ ε β) :
    (if c then p else p').bind f = if c then p.bind f else p'.bind f :=
  apply_ite (fun p : Act Q A σ ε α => p.bind f) c p p'

/-- From this state the program ends in `post`, or raises in `failed`. -/
def Ends (p : Act Q A σ ε α) (post : α → σ → Prop) (failed : σ → Prop) (s : σ) : Prop :=
  (p s).All fun r =>
    match r.1 with
    | .ok a => post a r.2
    | .error _ => failed r.2

namespace Ends

variable {p : Act Q A σ ε α} {post post' : α → σ → Prop} {failed failed' : σ → Prop} {s : σ}

theorem mono (h : p.Ends post failed s) (hp : ∀ a t, post a t → post' a t) (hf : ∀ t, failed t → failed' t) :
    p.Ends post' failed' s := by
  refine Ask.All.mono h ?_
  rintro ⟨a | a, t⟩ ht
  · exact hf t ht
  · exact hp a t ht

theorem done {a : α} (h : post a s) : (Act.done a : Act Q A σ ε α).Ends post failed s := h

theorem get {post : σ → σ → Prop} (h : post s s) : (Act.get : Act Q A σ ε σ).Ends post failed s := h

theorem modify {f : σ → σ} {post : Unit → σ → Prop} (h : post () (f s)) :
    (Act.modify f : Act Q A σ ε Unit).Ends post failed s := h

theorem query {q : Q} {post : A q → σ → Prop} (h : ∀ answer, post answer s) :
    (Act.query q : Act Q A σ ε (A q)).Ends post failed s := h

theorem bind {post : β → σ → Prop} {f : α → Act Q A σ ε β} (h : p.Ends (fun a => (f a).Ends post failed) failed s) :
    (p >>= f).Ends post failed s := by
  apply Ask.All.bind
  refine Ask.All.mono h ?_
  rintro ⟨a | a, t⟩ ht
  · exact ht
  · exact ht

theorem getBind {f : σ → Act Q A σ ε β} {post : β → σ → Prop} (h : (f s).Ends post failed s) :
    (Act.get >>= f).Ends post failed s := h

theorem ite {c : Prop} [Decidable c] {p' : Act Q A σ ε α} (h : c → p.Ends post failed s)
    (h' : ¬c → p'.Ends post failed s) : (if c then p else p').Ends post failed s := by
  split
  · rename_i hc
    exact h hc
  · rename_i hc
    exact h' hc

theorem filtered {filter : ε → Act Q A σ ε Unit}
    (h : p.Ends post (fun t => ∀ e, (filter e).Ends (fun _ => failed) failed t) s) :
    (p.filtered filter).Ends post failed s := by
  apply Ask.All.bind
  refine Ask.All.mono h ?_
  rintro ⟨e | a, t⟩ ht
  · exact Ends.bind (ht e)
  · exact ht

theorem cleaned {cleanup : Bool → Act Q A σ ε Unit}
    (h : p.Ends (fun a => (cleanup false).Ends (fun _ => post a) failed)
      ((cleanup true).Ends (fun _ => failed) failed) s) :
    (p.cleaned cleanup).Ends post failed s := by
  apply Ask.All.bind
  refine Ask.All.mono h ?_
  rintro ⟨e | a, t⟩ ht
  · exact Ends.bind (f := fun _ => Act.raise e) ht
  · exact Ends.bind (f := fun _ => Act.done a) ht

end Ends

/-- The two parts of a conjunction, the second asked only where the first holds. -/
theorem Ends.both {p p' : Act Q A σ ε Bool} {post : Bool → σ → Prop} {failed : σ → Prop} {s : σ}
    (h : p.Ends (fun b t => (b = true → p'.Ends post failed t) ∧ (b = false → post false t)) failed s) :
    (p <&&> p').Ends post failed s := by
  apply Ends.bind
  refine h.mono (fun b t ht => ?_) fun _ => id
  cases b with
  | false => exact ht.2 rfl
  | true => exact ht.1 rfl

/-- From this state the program ends in `post`, or is left by a raise as `left` says of what it raises. -/
def Exits (p : Act Q A σ ε α) (post : α → σ → Prop) (left : ε → σ → Prop) (s : σ) : Prop :=
  (p s).All fun r => match r.1 with
    | .ok a => post a r.2
    | .error e => left e r.2

namespace Exits

variable {p p' : Act Q A σ ε α} {post post' : α → σ → Prop} {left left' : ε → σ → Prop} {s : σ}

theorem mono (h : p.Exits post left s) (hp : ∀ a t, post a t → post' a t) (hl : ∀ e t, left e t → left' e t) :
    p.Exits post' left' s := by
  refine Ask.All.mono h ?_
  rintro ⟨e | a, t⟩ ht
  · exact hl e t ht
  · exact hp a t ht

theorem modify {f : σ → σ} {post : Unit → σ → Prop} (h : post () (f s)) :
    (Act.modify f : Act Q A σ ε Unit).Exits post left s := h

theorem query {q : Q} {post : A q → σ → Prop} (h : ∀ answer, post answer s) :
    (Act.query q : Act Q A σ ε (A q)).Exits post left s := h

theorem bind {post : β → σ → Prop} {f : α → Act Q A σ ε β}
    (h : p.Exits (fun a => (f a).Exits post left) left s) : (p >>= f).Exits post left s := by
  apply Ask.All.bind
  refine Ask.All.mono h ?_
  rintro ⟨e | a, t⟩ ht
  · exact ht
  · exact ht

theorem modifyBind {f : σ → σ} {g : Unit → Act Q A σ ε β} {post : β → σ → Prop} (h : (g ()).Exits post left (f s)) :
    (Act.modify f >>= g).Exits post left s := h

theorem queryBind {q : Q} {g : A q → Act Q A σ ε β} {post : β → σ → Prop}
    (h : ∀ answer, (g answer).Exits post left s) : (Act.query q >>= g).Exits post left s := h

theorem getBind {f : σ → Act Q A σ ε β} {post : β → σ → Prop} (h : (f s).Exits post left s) :
    (Act.get >>= f).Exits post left s := h

theorem ite {c : Prop} {_ : Decidable c} (h : c → p.Exits post left s) (h' : ¬c → p'.Exits post left s) :
    (if c then p else p').Exits post left s := by
  split
  · rename_i hc
    exact h hc
  · rename_i hc
    exact h' hc

end Exits

theorem Ends.exits {p : Act Q A σ ε α} {post : α → σ → Prop} {failed : σ → Prop} {s : σ} (h : p.Ends post failed s) :
    p.Exits post (fun _ => failed) s := by
  refine Ask.All.mono h ?_
  rintro ⟨e | a, t⟩ ht
  · exact ht
  · exact ht

def Still (p : Act Q A σ ε α) : Prop := ∀ s, p.Ends (fun _ t => t = s) (fun _ => False) s

namespace Still

variable {p p' : Act Q A σ ε α} {b b' : Act Q A σ ε Bool} {failed : σ → Prop} {s : σ}

theorem ends {post : α → σ → Prop} (h : Still p) (hpost : ∀ a, post a s) : p.Ends post failed s :=
  (h s).mono (fun a _ ht => ht ▸ hpost a) fun _ => False.elim

theorem bindEnds {f : α → Act Q A σ ε β} {post : β → σ → Prop} (h : Still p) (hf : ∀ a, (f a).Ends post failed s) :
    (p >>= f).Ends post failed s := Ends.bind (h.ends hf)

theorem bothEnds {post : Bool → σ → Prop} (h : Still b) (hb : b'.Ends post failed s) (hfalse : post false s) :
    (b <&&> b').Ends post failed s := by
  apply Ends.both
  exact h.ends fun _ => ⟨fun _ => hb, fun _ => hfalse⟩

theorem done (a : α) : Still (Act.done a : Act Q A σ ε α) := fun _ => rfl

theorem get : Still (Act.get : Act Q A σ ε σ) := fun _ => rfl

theorem query (q : Q) : Still (Act.query q : Act Q A σ ε (A q)) := fun _ _ => rfl

theorem bind {f : α → Act Q A σ ε β} (h : Still p) (hf : ∀ a, Still (f a)) : Still (p >>= f) := fun s =>
  h.bindEnds fun a => hf a s

theorem ite {c : Prop} [Decidable c] (h : Still p) (h' : Still p') : Still (if c then p else p') := by
  split
  · exact h
  · exact h'

theorem both (h : Still b) (h' : Still b') : Still (b <&&> b') := fun s => h.bothEnds (h' s) rfl

end Still

/-- From this state the program, however it ends, ends in `I` and as `R` says. -/
def StaysAt (I : σ → Prop) (R : σ → σ → Prop) (p : Act Q A σ ε α) (s : σ) : Prop :=
  p.Ends (fun _ t => I t ∧ R s t) (fun t => I t ∧ R s t) s

def Stays (I : σ → Prop) (R : σ → σ → Prop) (p : Act Q A σ ε α) : Prop := ∀ s, I s → p.StaysAt I R s

/-- Beside it, what the result says of the state. -/
def Gives (I : σ → Prop) (R : σ → σ → Prop) (p : Act Q A σ ε α) (post : α → σ → Prop) : Prop :=
  ∀ s, I s → p.Ends (fun a t => (I t ∧ R s t) ∧ post a t) (fun t => I t ∧ R s t) s

section Stays

variable {I J : σ → Prop} {R R' : σ → σ → Prop} {p p' : Act Q A σ ε α} {post : α → σ → Prop}

theorem Gives.stays (h : Gives I R p post) : Stays I R p := fun s hs => (h s hs).mono (fun _ _ ht => ht.1) fun _ => id

theorem Stays.gives (h : Stays I R p) : Gives I R p fun _ _ => True := fun s hs =>
  (h s hs).mono (fun _ _ ht => ⟨ht, trivial⟩) fun _ => id

theorem Gives.and (h : Gives I R p post) (hJ : ∀ s t, I s → I t → R s t → J s → J t) :
    Gives (fun s => I s ∧ J s) R p post := fun s hs =>
  (h s hs.1).mono (fun _ t ht => ⟨⟨⟨ht.1.1, hJ s t hs.1 ht.1.1 ht.1.2 hs.2⟩, ht.1.2⟩, ht.2⟩)
    fun t ht => ⟨⟨ht.1, hJ s t hs.1 ht.1 ht.2 hs.2⟩, ht.2⟩

theorem Stays.and (h : Stays I R p) (hJ : ∀ s t, I s → I t → R s t → J s → J t) : Stays (fun s => I s ∧ J s) R p :=
  (h.gives.and hJ).stays

theorem Stays.imp (h : Stays I R p) (hR : ∀ s t, I s → R s t → R' s t) : Stays I R' p := fun s hs =>
  (h s hs).mono (fun _ t ht => ⟨ht.1, hR s t hs ht.2⟩) fun t ht => ⟨ht.1, hR s t hs ht.2⟩

theorem Stays.modify {f : σ → σ} (h : ∀ s, I s → I (f s) ∧ R s (f s)) :
    Stays I R (Act.modify f : Act Q A σ ε Unit) := h

theorem StaysAt.weaken {s : σ} (h : p.StaysAt J R s) (hI : ∀ t, J t → I t) : p.StaysAt I R s :=
  h.mono (fun _ t ht => ⟨hI t ht.1, ht.2⟩) fun t ht => ⟨hI t ht.1, ht.2⟩

theorem StaysAt.bindEnds {f : α → Act Q A σ ε β} {post : β → σ → Prop} {failed : σ → Prop} {s : σ}
    (h : p.StaysAt I R s) (hfail : ∀ t, I t → R s t → failed t)
    (hf : ∀ a t, I t → R s t → (f a).Ends post failed t) : (p >>= f).Ends post failed s :=
  Ends.bind (h.mono (fun a t ht => hf a t ht.1 ht.2) fun t ht => hfail t ht.1 ht.2)

theorem Gives.modify {f : σ → σ} (post : Unit → σ → Prop) (h : Stays I R (Act.modify f : Act Q A σ ε Unit))
    (hp : ∀ s, I s → post () (f s)) : Gives I R (Act.modify f : Act Q A σ ε Unit) post :=
  fun s hs => ⟨h s hs, hp s hs⟩

theorem Stays.ite {c : Prop} [Decidable c] (h : Stays I R p) (h' : Stays I R p') :
    Stays I R (if c then p else p') := by
  split
  · exact h
  · exact h'

theorem Stays.getBind {f : σ → Act Q A σ ε β} (hf : ∀ s, I s → (f s).StaysAt I R s) :
    Stays I R (Act.get >>= f : Act Q A σ ε β) := hf

theorem Gives.ite {c : Prop} [Decidable c] (h : Gives I R p post) (h' : Gives I R p' post) :
    Gives I R (if c then p else p') post := by
  split
  · exact h
  · exact h'

variable [IsPreorder σ R]

theorem Still.stays (h : Still p) : Stays I R p := fun s hs => h.ends fun _ => ⟨hs, Std.Refl.refl s⟩

namespace StaysAt

variable {s t : σ}

theorem after (h : p.StaysAt I R t) (hR : R s t) :
    p.Ends (fun _ u => I u ∧ R s u) (fun u => I u ∧ R s u) t :=
  h.mono (fun _ u hu => ⟨hu.1, IsTrans.trans s t u hR hu.2⟩) fun u hu => ⟨hu.1, IsTrans.trans s t u hR hu.2⟩

end StaysAt

namespace Stays

theorem done (a : α) : Stays I R (Act.done a : Act Q A σ ε α) := fun s hs => ⟨hs, Std.Refl.refl s⟩

theorem raise (e : ε) : Stays I R (Act.raise e : Act Q A σ ε α) := fun s hs => ⟨hs, Std.Refl.refl s⟩

theorem get : Stays I R (Act.get : Act Q A σ ε σ) := fun s hs => ⟨hs, Std.Refl.refl s⟩

theorem query (q : Q) : Stays I R (Act.query q : Act Q A σ ε (A q)) := fun s hs _ => ⟨hs, Std.Refl.refl s⟩

/-- What the first part says of the state is there for the second. -/
theorem bindGives {f : α → Act Q A σ ε β} (h : Gives I R p post)
    (hf : ∀ a s, I s → post a s → (f a).StaysAt I R s) : Stays I R (p >>= f) := fun s hs =>
  Ends.bind ((h s hs).mono (fun a t ht => (hf a t ht.1.1 ht.2).after ht.1.2) fun _ ht => ht)

theorem bind {f : α → Act Q A σ ε β} (h : Stays I R p) (hf : ∀ a, Stays I R (f a)) : Stays I R (p >>= f) :=
  bindGives h.gives fun a s hs _ => hf a s hs

theorem both {p p' : Act Q A σ ε Bool} (h : Stays I R p) (h' : Stays I R p') : Stays I R (p <&&> p') :=
  bind h fun b => by
    cases b with
    | false => exact done false
    | true => exact h'

theorem filtered {filter : ε → Act Q A σ ε Unit} (h : Stays I R p) (hf : ∀ e, Stays I R (filter e)) :
    Stays I R (p.filtered filter) := fun s hs =>
  Ends.filtered ((h s hs).mono (fun _ _ ht => ht) fun t ht e =>
    (hf e t ht.1).mono (fun _ u hu => ⟨hu.1, IsTrans.trans s t u ht.2 hu.2⟩) fun u hu =>
      ⟨hu.1, IsTrans.trans s t u ht.2 hu.2⟩)

theorem cleaned {cleanup : Bool → Act Q A σ ε Unit} (h : Stays I R p)
    (hc : ∀ abnormal, Stays I R (cleanup abnormal)) : Stays I R (p.cleaned cleanup) := fun s hs =>
  Ends.cleaned ((h s hs).mono (fun _ t ht => (hc false t ht.1).after ht.2) fun t ht =>
    (hc true t ht.1).after ht.2)

theorem each {f : β → Act Q A σ ε Unit} (hf : ∀ b, Stays I R (f b)) (bs : List β) : Stays I R (Act.each f bs) := by
  induction bs with
  | nil => exact done ()
  | cons b rest ih => exact bind (hf b) fun _ => ih

end Stays

namespace Gives

theorem done {a : α} (h : ∀ s, I s → post a s) : Gives I R (Act.done a : Act Q A σ ε α) post := fun s hs =>
  ⟨⟨hs, Std.Refl.refl s⟩, h s hs⟩

theorem bindGives {f : α → Act Q A σ ε β} {post' : β → σ → Prop} (h : Gives I R p post)
    (hf : ∀ a s, I s → post a s → (f a).Ends (fun b t => (I t ∧ R s t) ∧ post' b t) (fun t => I t ∧ R s t) s) :
    Gives I R (p >>= f) post' := fun s hs =>
  Ends.bind ((h s hs).mono
    (fun a t ht => (hf a t ht.1.1 ht.2).mono
      (fun _ u hu => ⟨⟨hu.1.1, IsTrans.trans s t u ht.1.2 hu.1.2⟩, hu.2⟩)
      fun u hu => ⟨hu.1, IsTrans.trans s t u ht.1.2 hu.2⟩)
    fun _ ht => ht)

theorem bind {f : α → Act Q A σ ε β} {post' : β → σ → Prop} (h : Stays I R p) (hf : ∀ a, Gives I R (f a) post') :
    Gives I R (p >>= f) post' := bindGives h.gives fun a s hs _ => hf a s hs

/-- What the two parts of a conjunction say when it holds, the second part
keeping what the first one said. -/
theorem both {p p' : Act Q A σ ε Bool} {post : Bool → σ → Prop} (h : Stays I R p) (h' : Gives I R p' post)
    (hfalse : ∀ s, post false s) : Gives I R (p <&&> p') post :=
  bind h fun b => by
    cases b with
    | false => exact done fun s _ => hfalse s
    | true => exact h'

end Gives

end Stays

end Act

end RS2ServerFix.Lib
