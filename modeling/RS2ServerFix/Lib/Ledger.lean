import RS2ServerFix.Lib.Act

namespace RS2ServerFix.Lib

variable {Q : Type} {A : Q → Type} {L σ ε α β : Type}

section Ledger

variable (record : L → Sigma A → Option L)

/-- Every answered question may be entered by `record`, which is `none` where an
entry must not be, and the ledger and the result are as `post` says. -/
def Ask.Ledger : Ask Q A α → L → (L → α → Prop) → Prop
  | .done a, l, post => post l a
  | .ask q next, l, post => ∀ answer, ∃ l', record l ⟨q, answer⟩ = some l' ∧ (next answer).Ledger l' post

variable {record}

namespace Ask.Ledger

variable {p : Ask Q A α} {l : L} {post post' : L → α → Prop}

theorem mono (h : p.Ledger record l post) (hp : ∀ l' a, post l' a → post' l' a) : p.Ledger record l post' := by
  induction p generalizing l with
  | done a => exact hp l a h
  | ask q next ih =>
      intro answer
      obtain ⟨l', hentry, h⟩ := h answer
      exact ⟨l', hentry, ih answer h⟩

theorem bind {f : α → Ask Q A β} {post : L → β → Prop}
    (h : p.Ledger record l fun l' a => (f a).Ledger record l' post) : (p.bind f).Ledger record l post := by
  induction p generalizing l with
  | done a => exact h
  | ask q next ih =>
      intro answer
      obtain ⟨l', hentry, h⟩ := h answer
      exact ⟨l', hentry, ih answer h⟩

theorem all {good : α → Prop} (h : p.Ledger record l post) (hg : p.All good) :
    p.Ledger record l fun l' a => post l' a ∧ good a := by
  induction p generalizing l with
  | done a => exact ⟨h, hg⟩
  | ask q next ih =>
      intro answer
      obtain ⟨l', hentry, h⟩ := h answer
      exact ⟨l', hentry, ih answer h (hg answer)⟩

/-- The entries of a talk. -/
theorem yields (h : p.Ledger record l post) {events : List (Sigma A)} {a : α} (hy : Yields p events a) :
    ∃ l', events.foldlM record l = some l' ∧ post l' a := by
  induction hy generalizing l with
  | done a => exact ⟨l, rfl, h⟩
  | ask answer _ ih =>
      obtain ⟨next, hentry, h⟩ := h answer
      obtain ⟨l', hrest, ha⟩ := ih h
      refine ⟨l', ?_, ha⟩
      rw [List.foldlM_cons, hentry]
      exact hrest

end Ask.Ledger

namespace Act

variable (record)

/-- From this state and ledger the program ends in `post`, or is left by a raise in `left`. -/
def Logs (p : Act Q A σ ε α) (l : L) (s : σ) (post : L → α → σ → Prop) (left : L → ε → σ → Prop) : Prop :=
  (p s).Ledger record l fun l' r =>
    match r.1 with
    | .ok a => post l' a r.2
    | .error e => left l' e r.2

variable {record}

namespace Logs

variable {p p' : Act Q A σ ε α} {l : L} {s : σ} {post post' : L → α → σ → Prop} {left left' : L → ε → σ → Prop}

theorem mono (h : p.Logs record l s post left) (hp : ∀ l' a t, post l' a t → post' l' a t)
    (hl : ∀ l' e t, left l' e t → left' l' e t) : p.Logs record l s post' left' := by
  refine Ask.Ledger.mono h ?_
  rintro l' ⟨e | a, t⟩ ht
  · exact hl l' e t ht
  · exact hp l' a t ht

theorem ends {post' : α → σ → Prop} {failed : σ → Prop} (h : p.Logs record l s post left) (he : p.Ends post' failed s) :
    p.Logs record l s (fun l' a t => post l' a t ∧ post' a t) fun l' e t => left l' e t ∧ failed t := by
  refine (Ask.Ledger.all h he).mono ?_
  rintro l' ⟨e | a, t⟩ ht
  · exact ht
  · exact ht

theorem bind {post : L → β → σ → Prop} {f : α → Act Q A σ ε β}
    (h : p.Logs record l s (fun l' a t => (f a).Logs record l' t post left) left) :
    (p >>= f).Logs record l s post left := by
  apply Ask.Ledger.bind
  refine Ask.Ledger.mono h ?_
  rintro l' ⟨e | a, t⟩ ht
  · exact ht
  · exact ht

theorem getBind {f : σ → Act Q A σ ε β} {post : L → β → σ → Prop} (h : (f s).Logs record l s post left) :
    (Act.get >>= f).Logs record l s post left := h

theorem modifyBind {f : σ → σ} {g : Unit → Act Q A σ ε β} {post : L → β → σ → Prop}
    (h : (g ()).Logs record l (f s) post left) : (Act.modify f >>= g).Logs record l s post left := h

theorem queryBind {q : Q} {g : A q → Act Q A σ ε β} {post : L → β → σ → Prop}
    (h : ∀ answer, ∃ l', record l ⟨q, answer⟩ = some l' ∧ (g answer).Logs record l' s post left) :
    (Act.query q >>= g).Logs record l s post left := h

theorem ite {c : Prop} {_ : Decidable c} (h : c → p.Logs record l s post left)
    (h' : ¬c → p'.Logs record l s post left) : (if c then p else p').Logs record l s post left := by
  split
  · next hc => exact h hc
  · next hc => exact h' hc

theorem both {b b' : Act Q A σ ε Bool} {post : L → Bool → σ → Prop}
    (h : b.Logs record l s (fun l' c t => (c = true → b'.Logs record l' t post left) ∧ (c = false → post l' false t))
      left) : (b <&&> b').Logs record l s post left := by
  apply bind
  refine h.mono (fun l' c t ht => ?_) fun _ _ _ => id
  cases c with
  | false => exact ht.2 rfl
  | true => exact ht.1 rfl

theorem filtered {filter : ε → Act Q A σ ε Unit}
    (h : p.Logs record l s post fun l' e t =>
      (filter e).Logs record l' t (fun l'' _ u => left l'' e u) left) :
    (p.filtered filter).Logs record l s post left := by
  apply Ask.Ledger.bind
  refine Ask.Ledger.mono h ?_
  rintro l' ⟨e | a, t⟩ ht
  · exact bind (f := fun _ => Act.raise e) ht
  · exact ht

theorem cleaned {cleanup : Bool → Act Q A σ ε Unit}
    (h : p.Logs record l s
      (fun l' a t => (cleanup false).Logs record l' t (fun l'' _ u => post l'' a u) left)
      fun l' e t => (cleanup true).Logs record l' t (fun l'' _ u => left l'' e u) left) :
    (p.cleaned cleanup).Logs record l s post left := by
  apply Ask.Ledger.bind
  refine Ask.Ledger.mono h ?_
  rintro l' ⟨e | a, t⟩ ht
  · exact bind (f := fun _ => Act.raise e) ht
  · exact bind (f := fun _ => Act.done a) ht

/-- What a run has entered, and where it has come to. -/
theorem yields_ok (h : p.Logs record l s post left) {events : List (Sigma A)} {a : α} {t : σ}
    (hy : Yields (p s) events (.ok a, t)) : ∃ l', events.foldlM record l = some l' ∧ post l' a t :=
  Ask.Ledger.yields h hy

theorem yields_error (h : p.Logs record l s post left) {events : List (Sigma A)} {e : ε} {t : σ}
    (hy : Yields (p s) events (.error e, t)) : ∃ l', events.foldlM record l = some l' ∧ left l' e t :=
  Ask.Ledger.yields h hy

end Logs

variable (record) in
/-- The program enters nothing, keeps `I` and does to the state what `R` says. -/
def Quiet (I : σ → Prop) (R : σ → σ → Prop) (p : Act Q A σ ε α) : Prop :=
  ∀ l s, I s → p.Logs record l s (fun l' _ t => l' = l ∧ I t ∧ R s t) fun l' _ t => l' = l ∧ I t ∧ R s t

namespace Quiet

variable {I : σ → Prop} {R : σ → σ → Prop} {p p' : Act Q A σ ε α}

/-- A quiet part where the ledger is kept. -/
theorem logs (h : Quiet record I R p) {l : L} {s : σ} (hs : I s) {post : L → α → σ → Prop} {left : L → ε → σ → Prop}
    (hp : ∀ a t, I t → R s t → post l a t) (hl : ∀ e t, I t → R s t → left l e t) : p.Logs record l s post left := by
  refine (h l s hs).mono ?_ ?_
  · rintro l' a t ⟨rfl, ht, hR⟩
    exact hp a t ht hR
  · rintro l' e t ⟨rfl, ht, hR⟩
    exact hl e t ht hR

theorem bindLogs (h : Quiet record I R p) {l : L} {s : σ} (hs : I s) {f : α → Act Q A σ ε β}
    {post : L → β → σ → Prop} {left : L → ε → σ → Prop} (hf : ∀ a t, I t → R s t → (f a).Logs record l t post left)
    (hl : ∀ e t, I t → R s t → left l e t) : (p >>= f).Logs record l s post left :=
  Logs.bind (h.logs hs hf hl)

theorem modify {f : σ → σ} (h : ∀ s, I s → I (f s) ∧ R s (f s)) :
    Quiet record I R (Act.modify f : Act Q A σ ε Unit) := fun _ s hs => ⟨rfl, h s hs⟩

theorem getBind {f : σ → Act Q A σ ε β} (hf : ∀ s, Quiet record I R (f s)) :
    Quiet record I R (Act.get >>= f : Act Q A σ ε β) := fun l s hs => hf s l s hs

theorem ite {c : Prop} {_ : Decidable c} (h : c → Quiet record I R p) (h' : ¬c → Quiet record I R p') :
    Quiet record I R (if c then p else p') := by
  split
  · next hc => exact h hc
  · next hc => exact h' hc

variable [IsPreorder σ R]

theorem done (a : α) : Quiet record I R (Act.done a : Act Q A σ ε α) := fun _ s hs => ⟨rfl, hs, Std.Refl.refl s⟩

theorem raise (e : ε) : Quiet record I R (Act.raise e : Act Q A σ ε α) := fun _ s hs => ⟨rfl, hs, Std.Refl.refl s⟩

theorem query {q : Q} (h : ∀ l answer, record l ⟨q, answer⟩ = some l) :
    Quiet record I R (Act.query q : Act Q A σ ε (A q)) := fun l s hs answer =>
  ⟨l, h l answer, rfl, hs, Std.Refl.refl s⟩

theorem bind {f : α → Act Q A σ ε β} (h : Quiet record I R p) (hf : ∀ a, Quiet record I R (f a)) :
    Quiet record I R (p >>= f) := fun l s hs => by
  refine h.bindLogs hs (fun a t ht hR => ?_) fun e t ht hR => ⟨rfl, ht, hR⟩
  exact (hf a).logs ht (fun _ u hu hR' => ⟨rfl, hu, IsTrans.trans s t u hR hR'⟩)
    fun _ u hu hR' => ⟨rfl, hu, IsTrans.trans s t u hR hR'⟩

theorem both {b b' : Act Q A σ ε Bool} (h : Quiet record I R b) (h' : Quiet record I R b') :
    Quiet record I R (b <&&> b') :=
  bind h fun c => by
    cases c with
    | false => exact done false
    | true => exact h'

theorem each {f : β → Act Q A σ ε Unit} {bs : List β} (h : ∀ b, Quiet record I R (f b)) :
    Quiet record I R (Act.each f bs) := by
  induction bs with
  | nil => exact done ()
  | cons b bs ih => exact bind (h b) fun _ => ih

theorem filtered {filter : ε → Act Q A σ ε Unit} (h : Quiet record I R p) (hf : ∀ e, Quiet record I R (filter e)) :
    Quiet record I R (p.filtered filter) := fun l s hs => by
  apply Logs.filtered
  refine h.logs hs (fun a t ht hR => ⟨rfl, ht, hR⟩) fun e t ht hR => ?_
  exact (hf e).logs ht (fun _ u hu hR' => ⟨rfl, hu, IsTrans.trans s t u hR hR'⟩)
    fun _ u hu hR' => ⟨rfl, hu, IsTrans.trans s t u hR hR'⟩

theorem cleaned {cleanup : Bool → Act Q A σ ε Unit} (h : Quiet record I R p)
    (hc : ∀ abnormal, Quiet record I R (cleanup abnormal)) : Quiet record I R (p.cleaned cleanup) := fun l s hs => by
  apply Logs.cleaned
  refine h.logs hs (fun a t ht hR => ?_) fun e t ht hR => ?_
  · exact (hc false).logs ht (fun _ u hu hR' => ⟨rfl, hu, IsTrans.trans s t u hR hR'⟩)
      fun _ u hu hR' => ⟨rfl, hu, IsTrans.trans s t u hR hR'⟩
  · exact (hc true).logs ht (fun _ u hu hR' => ⟨rfl, hu, IsTrans.trans s t u hR hR'⟩)
      fun _ u hu hR' => ⟨rfl, hu, IsTrans.trans s t u hR hR'⟩

end Quiet

end Act

end Ledger

end RS2ServerFix.Lib
