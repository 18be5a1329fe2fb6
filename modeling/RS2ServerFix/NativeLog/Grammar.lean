import Mathlib.Data.Nat.Digits.Lemmas
import RS2ServerFix.NativeLog.Framing

namespace RS2ServerFix.NativeLog

def Cursor.more (c : Cursor) (tail : List UInt8) : Cursor := { c with rest := c.rest ++ tail }

@[simp] theorem Cursor.more_pos (c : Cursor) (tail : List UInt8) : (c.more tail).pos = c.pos := rfl

@[simp] theorem Cursor.more_rest (c : Cursor) (tail : List UInt8) : (c.more tail).rest = c.rest ++ tail := rfl

theorem Cursor.more_mk (pos : Nat) (rest tail : List UInt8) : (Cursor.mk pos rest).more tail = ⟨pos, rest ++ tail⟩ := rfl

/-- What a reader has decided is not changed by the bytes that follow. -/
def Online (f : Cursor → Match × Cursor) : Prop :=
  ∀ c m d tail, f c = (m, d) → m ≠ .part → f (c.more tail) = (m, d.more tail)

/-- A reader accepts exactly the texts of `P`, which may depend on where they start. -/
def Accepts (f : Cursor → Match × Cursor) (P : Nat → List UInt8 → Prop) : Prop :=
  ∀ c d, f c = (.yes, d) ↔ ∃ p, P c.pos p ∧ c.rest = p ++ d.rest ∧ d.pos = c.pos + p.length

/-- One reader after another, as the source chains them. -/
def andRead (f g : Cursor → Match × Cursor) (c : Cursor) : Match × Cursor :=
  match f c with
  | (.yes, d) => g d
  | r => r

section

variable {f g : Cursor → Match × Cursor} {P Q : Nat → List UInt8 → Prop} {c d : Cursor}

theorem andRead_yes (h : f c = (.yes, d)) : andRead f g c = g d := by
  rw [andRead, h]

theorem andRead_of_ne {m : Match} (h : f c = (m, d)) (hm : m ≠ .yes) : andRead f g c = (m, d) := by
  rw [andRead, h]
  cases m with
  | no => rfl
  | part => rfl
  | yes => exact absurd rfl hm

theorem Online.andRead (hf : Online f) (hg : Online g) : Online (andRead f g) := by
  intro c m d tail h hm
  rcases hr : f c with ⟨k, e⟩
  by_cases hk : k = .yes
  · subst hk
    rw [andRead_yes hr] at h
    rw [andRead_yes (hf c .yes e tail hr (by decide))]
    exact hg e m d tail h hm
  · rw [andRead_of_ne hr hk] at h
    cases h
    exact andRead_of_ne (hf c m d tail hr hm) hk

theorem Accepts.andRead (hf : Accepts f P) (hg : Accepts g Q) :
    Accepts (andRead f g) fun pos p => ∃ a b, p = a ++ b ∧ P pos a ∧ Q (pos + a.length) b := by
  intro c d
  constructor
  · intro h
    rcases hr : f c with ⟨k, e⟩
    by_cases hk : k = .yes
    · subst hk
      rw [andRead_yes hr] at h
      obtain ⟨a, ha, hca, hea⟩ := (hf c e).mp hr
      obtain ⟨b, hb, hcb, heb⟩ := (hg e d).mp h
      refine ⟨a ++ b, ⟨a, b, rfl, ha, hea ▸ hb⟩, ?_, ?_⟩
      · rw [hca, hcb, List.append_assoc]
      · rw [heb, hea, List.length_append]
        omega
    · rw [andRead_of_ne hr hk] at h
      cases h
      exact absurd rfl hk
  · rintro ⟨p, ⟨a, b, rfl, ha, hb⟩, hrest, hpos⟩
    have hfirst : f c = (.yes, ⟨c.pos + a.length, b ++ d.rest⟩) :=
      (hf c _).mpr ⟨a, ha, by rw [hrest, List.append_assoc], rfl⟩
    rw [andRead_yes hfirst]
    exact (hg _ d).mpr ⟨b, hb, rfl, by rw [hpos, List.length_append]; dsimp only; omega⟩

end

theorem literal_online (lit : List UInt8) : Online (literal lit) := by
  induction lit with
  | nil =>
      intro c m d tail h _
      cases h
      rfl
  | cons l lit ih =>
      rintro ⟨pos, rest⟩ m d tail h hm
      cases rest with
      | nil =>
          cases h
          exact absurd rfl hm
      | cons b rest =>
          rw [literal] at h
          rw [Cursor.more_mk, List.cons_append, literal]
          dsimp only at h ⊢
          by_cases hb : b = l
          · rw [if_pos hb] at h ⊢
            exact ih _ m d tail h hm
          · rw [if_neg hb] at h ⊢
            cases h
            rfl

theorem literal_accepts (lit : List UInt8) : Accepts (literal lit) fun _ p => p = lit := by
  induction lit with
  | nil =>
      rintro ⟨pos, rest⟩ ⟨pos', rest'⟩
      constructor
      · intro h
        cases h
        exact ⟨[], rfl, rfl, rfl⟩
      · rintro ⟨p, rfl, hrest, hpos⟩
        cases hrest
        cases hpos
        rfl
  | cons l lit ih =>
      rintro ⟨pos, rest⟩ d
      rw [literal]
      cases rest with
      | nil =>
          constructor
          · intro h
            cases h
          · rintro ⟨p, rfl, hrest, _⟩
            cases hrest
      | cons b rest =>
          dsimp only
          by_cases hb : b = l
          · subst hb
            rw [if_pos rfl, ih]
            constructor
            · rintro ⟨p, rfl, hrest, hpos⟩
              refine ⟨b :: p, rfl, congrArg (List.cons b) hrest, ?_⟩
              rw [hpos, List.length_cons]
              dsimp only
              omega
            · rintro ⟨p, rfl, hrest, hpos⟩
              refine ⟨lit, rfl, (List.cons.inj hrest).2, ?_⟩
              rw [hpos, List.length_cons]
              dsimp only
              omega
          · rw [if_neg hb]
            constructor
            · intro h
              cases h
            · rintro ⟨p, rfl, hrest, _⟩
              exact absurd (List.cons.inj hrest).1 hb

theorem twoDigits_online : Online twoDigits := by
  rintro ⟨pos, rest⟩ m d tail h hm
  rw [twoDigits.eq_def] at h ⊢
  cases rest with
  | nil =>
      cases h
      exact absurd rfl hm
  | cons a rest =>
      dsimp only [Cursor.more, List.cons_append] at h ⊢
      by_cases ha : digit a = true
      · rw [if_pos ha] at h ⊢
        cases rest with
        | nil =>
            cases h
            exact absurd rfl hm
        | cons b rest =>
            dsimp only [List.cons_append] at h ⊢
            by_cases hb : digit b = true
            · rw [if_pos hb] at h ⊢
              cases h
              rfl
            · rw [if_neg hb] at h ⊢
              cases h
              rfl
      · rw [if_neg ha] at h ⊢
        cases h
        rfl

theorem twoDigits_accepts :
    Accepts twoDigits fun _ p => ∃ a b, p = [a, b] ∧ digit a = true ∧ digit b = true := by
  rintro ⟨pos, rest⟩ ⟨pos', rest'⟩
  constructor
  · intro h
    rw [twoDigits.eq_def] at h
    cases rest with
    | nil => cases h
    | cons a rest =>
        dsimp only at h
        by_cases ha : digit a = true
        · rw [if_pos ha] at h
          cases rest with
          | nil => cases h
          | cons b rest =>
              dsimp only at h
              by_cases hb : digit b = true
              · rw [if_pos hb] at h
                cases h
                exact ⟨[a, b], ⟨a, b, rfl, ha, hb⟩, rfl, rfl⟩
              · rw [if_neg hb] at h
                cases h
        · rw [if_neg ha] at h
          cases h
  · rintro ⟨p, ⟨a, b, rfl, ha, hb⟩, hrest, hpos⟩
    dsimp only [List.cons_append, List.nil_append, List.length_cons, List.length_nil] at hrest hpos
    subst hrest hpos
    rw [twoDigits.eq_def]
    dsimp only
    rw [if_pos ha, if_pos hb]

theorem digitRun_more {pos : Nat} {rest : List UInt8} {d : Cursor} (tail : List UInt8)
    (h : digitRun pos rest = some d) (hd : d.rest ≠ []) : digitRun pos (rest ++ tail) = some (d.more tail) := by
  induction rest generalizing pos with
  | nil =>
      cases h
      exact absurd rfl hd
  | cons b rest ih =>
      rw [digitRun] at h
      rw [List.cons_append, digitRun]
      by_cases hb : digit b = true
      · rw [if_pos hb] at h ⊢
        by_cases hpos : kPrefixLimit - 10 ≤ pos
        · rw [if_pos hpos] at h
          cases h
        · rw [if_neg hpos] at h ⊢
          exact ih h
      · rw [if_neg hb] at h ⊢
        cases h
        rfl

theorem digitRun_refused {pos : Nat} {rest : List UInt8} (tail : List UInt8) (h : digitRun pos rest = none) :
    digitRun pos (rest ++ tail) = none := by
  induction rest generalizing pos with
  | nil => cases h
  | cons b rest ih =>
      rw [digitRun] at h
      rw [List.cons_append, digitRun]
      by_cases hb : digit b = true
      · rw [if_pos hb] at h ⊢
        by_cases hpos : kPrefixLimit - 10 ≤ pos
        · rw [if_pos hpos]
        · rw [if_neg hpos] at h ⊢
          exact ih h
      · rw [if_neg hb] at h
        cases h

theorem digitRun_some {pos : Nat} {rest : List UInt8} {d : Cursor} (h : digitRun pos rest = some d) :
    ∃ run, run.all digit = true ∧ rest = run ++ d.rest ∧ d.pos = pos + run.length ∧
      (run = [] ∨ d.pos + 10 ≤ kPrefixLimit) := by
  induction rest generalizing pos with
  | nil =>
      cases h
      exact ⟨[], rfl, rfl, rfl, Or.inl rfl⟩
  | cons b rest ih =>
      rw [digitRun] at h
      by_cases hb : digit b = true
      · rw [if_pos hb] at h
        by_cases hpos : kPrefixLimit - 10 ≤ pos
        · rw [if_pos hpos] at h
          cases h
        · rw [if_neg hpos] at h
          obtain ⟨run, hall, hrest, hend, hlimit⟩ := ih h
          refine ⟨b :: run, ?_, ?_, ?_, Or.inr ?_⟩
          · rw [List.all_cons, hb, hall]
            rfl
          · rw [hrest, List.cons_append]
          · rw [hend, List.length_cons]
            omega
          · rcases hlimit with rfl | hlimit
            · rw [hend, List.length_nil]
              have hbound : kPrefixLimit = 128 := rfl
              omega
            · exact hlimit
      · rw [if_neg hb] at h
        cases h
        exact ⟨[], rfl, rfl, rfl, Or.inl rfl⟩

theorem digitRun_stop {run : List UInt8} (hall : run.all digit = true) {b : UInt8} (hb : digit b = false)
    (rest : List UInt8) {pos : Nat} (hlimit : pos + run.length + 10 ≤ kPrefixLimit) :
    digitRun pos (run ++ b :: rest) = some ⟨pos + run.length, b :: rest⟩ := by
  induction run generalizing pos with
  | nil =>
      rw [List.nil_append, digitRun, if_neg (by rw [hb]; decide)]
      rfl
  | cons a run ih =>
      rw [List.all_cons, Bool.and_eq_true] at hall
      rw [List.length_cons] at hlimit ⊢
      rw [List.cons_append, digitRun, if_pos hall.1, if_neg (by omega), ih hall.2 (by omega)]
      congr 2
      omega

def afterSeconds : Cursor → Match × Cursor :=
  andRead (literal (ascii ".")) (andRead twoDigits (literal (ascii "] Log: ")))

theorem elapsedSeconds_eq (negative : Bool) (c : Cursor) :
    elapsedSeconds negative c =
      match digitRun c.pos c.rest with
      | none => (.no, c)
      | some d =>
          if d.rest = [] then (.part, d)
          else if d.pos - c.pos < (if negative then 3 else 4) ∨
              ((if negative then 3 else 4) < d.pos - c.pos ∧ c.rest.head? = some 48) then (.no, d)
          else afterSeconds d := rfl

theorem afterSeconds_online : Online afterSeconds :=
  (literal_online _).andRead (twoDigits_online.andRead (literal_online _))

theorem afterSeconds_accepts :
    Accepts afterSeconds fun _ p => ∃ a b, digit a = true ∧ digit b = true ∧
      p = ascii "." ++ ([a, b] ++ ascii "] Log: ") := by
  have h := (literal_accepts (ascii ".")).andRead (twoDigits_accepts.andRead (literal_accepts (ascii "] Log: ")))
  intro c d
  rw [afterSeconds, h c d]
  constructor
  · rintro ⟨p, ⟨dot, more, rfl, rfl, places, close, rfl, ⟨a, b, rfl, ha, hb⟩, rfl⟩, hrest, hpos⟩
    exact ⟨_, ⟨a, b, ha, hb, rfl⟩, hrest, hpos⟩
  · rintro ⟨p, ⟨a, b, ha, hb, rfl⟩, hrest, hpos⟩
    exact ⟨_, ⟨_, _, rfl, rfl, _, _, rfl, ⟨a, b, rfl, ha, hb⟩, rfl⟩, hrest, hpos⟩

theorem elapsedSeconds_online (negative : Bool) : Online (elapsedSeconds negative) := by
  rintro ⟨pos, rest⟩ m d tail h hm
  rw [elapsedSeconds_eq] at h ⊢
  rw [Cursor.more_mk]
  dsimp only at h ⊢
  cases hrun : digitRun pos rest with
  | none =>
      rw [hrun] at h
      rw [digitRun_refused tail hrun]
      cases h
      rfl
  | some e =>
      rw [hrun] at h
      dsimp only at h
      by_cases he : e.rest = []
      · rw [if_pos he] at h
        cases h
        exact absurd rfl hm
      · have hne : (e.more tail).rest ≠ [] := fun hnil => he (List.append_eq_nil_iff.mp hnil).1
        obtain ⟨run, _, hrest, hpos, _⟩ := digitRun_some hrun
        have hhead : (rest ++ tail).head? = rest.head? := by
          cases rest with
          | nil => exact absurd (List.append_eq_nil_iff.mp hrest.symm).2 he
          | cons b rest => rfl
        rw [if_neg he] at h
        rw [digitRun_more tail hrun he]
        dsimp only
        rw [if_neg hne, hhead, Cursor.more_pos]
        by_cases hshape : e.pos - pos < (if negative then 3 else 4) ∨
            ((if negative then 3 else 4) < e.pos - pos ∧ rest.head? = some 48)
        · rw [if_pos hshape] at h ⊢
          cases h
          rfl
        · rw [if_neg hshape] at h ⊢
          exact afterSeconds_online e m d tail h hm

/-- The digits of the whole seconds: at least `least` of them, and a leading zero only when there are no more. -/
def WholeSeconds (least : Nat) (whole : List UInt8) : Prop :=
  whole.all digit = true ∧ least ≤ whole.length ∧ (least < whole.length → whole.head? ≠ some 48)

/-- The sign takes one of the places of the padded number. -/
def leastDigits (negative : Bool) : Nat := if negative then 3 else 4

def SecondsText (negative : Bool) (pos : Nat) (p : List UInt8) : Prop :=
  pos + p.length ≤ kPrefixLimit ∧ ∃ whole a b, WholeSeconds (leastDigits negative) whole ∧
    digit a = true ∧ digit b = true ∧ p = whole ++ (ascii "." ++ ([a, b] ++ ascii "] Log: "))

theorem secondsText_length {whole : List UInt8} {a b : UInt8} :
    (whole ++ (ascii "." ++ ([a, b] ++ ascii "] Log: "))).length = whole.length + 10 := by
  simp only [List.length_append, List.length_cons, List.length_nil]
  rfl

theorem elapsedSeconds_accepts (negative : Bool) : Accepts (elapsedSeconds negative) (SecondsText negative) := by
  rintro ⟨pos, rest⟩ d
  rw [elapsedSeconds_eq]
  dsimp only
  constructor
  · intro h
    cases hrun : digitRun pos rest with
    | none =>
        rw [hrun] at h
        cases h
    | some e =>
        rw [hrun] at h
        dsimp only at h
        obtain ⟨whole, hall, hrest, hpos, hlimit⟩ := digitRun_some hrun
        by_cases he : e.rest = []
        · rw [if_pos he] at h
          cases h
        · rw [if_neg he] at h
          by_cases hshape : e.pos - pos < (if negative then 3 else 4) ∨
              ((if negative then 3 else 4) < e.pos - pos ∧ rest.head? = some 48)
          · rw [if_pos hshape] at h
            cases h
          · rw [if_neg hshape] at h
            obtain ⟨p, ⟨a, b, ha, hb, rfl⟩, htail, hend⟩ := (afterSeconds_accepts e d).mp h
            rw [show e.pos - pos = whole.length by omega, ← leastDigits, not_or, Nat.not_lt, not_and] at hshape
            have hsome : whole ≠ [] := by
              rintro rfl
              have hleast := hshape.1
              rw [leastDigits, List.length_nil] at hleast
              split at hleast <;> omega
            have hbound : e.pos + 10 ≤ kPrefixLimit := hlimit.resolve_left hsome
            have hhead : rest.head? = whole.head? := by
              rw [hrest]
              cases whole with
              | nil => exact absurd rfl hsome
              | cons w whole => rfl
            refine ⟨whole ++ (ascii "." ++ ([a, b] ++ ascii "] Log: ")),
              ⟨?_, whole, a, b, ⟨hall, hshape.1, ?_⟩, ha, hb, rfl⟩, ?_, ?_⟩
            · rw [secondsText_length]
              omega
            · rw [← hhead]
              exact hshape.2
            · rw [hrest, htail]
              simp only [List.append_assoc]
            · rw [hend, hpos, @List.length_append _ whole, Nat.add_assoc]
  · rintro ⟨p, ⟨hbound, whole, a, b, ⟨hall, hleast, hzero⟩, ha, hb, rfl⟩, hrest, hpos⟩
    rw [secondsText_length] at hbound hpos
    have hdot : ascii "." ++ ([a, b] ++ ascii "] Log: ") ++ d.rest =
        46 :: ([a, b] ++ ascii "] Log: " ++ d.rest) := rfl
    rw [List.append_assoc, hdot] at hrest
    have hrun : digitRun pos (whole ++ 46 :: ([a, b] ++ ascii "] Log: " ++ d.rest)) =
        some ⟨pos + whole.length, 46 :: ([a, b] ++ ascii "] Log: " ++ d.rest)⟩ :=
      digitRun_stop hall (by decide) _ (by omega)
    rw [← hrest] at hrun
    rw [hrun]
    dsimp only
    have hsome : whole ≠ [] := by
      rintro rfl
      rw [leastDigits, List.length_nil] at hleast
      split at hleast <;> omega
    have hhead : rest.head? = whole.head? := by
      rw [hrest]
      cases whole with
      | nil => exact absurd rfl hsome
      | cons w whole => rfl
    rw [if_neg (List.cons_ne_nil _ _), ← leastDigits, Nat.add_sub_cancel_left, hhead,
      if_neg (by
        rw [not_or, Nat.not_lt, not_and]
        exact ⟨hleast, hzero⟩)]
    exact (afterSeconds_accepts _ d).mpr ⟨_, ⟨a, b, ha, hb, rfl⟩, rfl, by
      rw [hpos, List.length_append, List.length_append]
      dsimp only
      have hsize : (ascii ".").length + ([a, b].length + (ascii "] Log: ").length) = 10 := rfl
      omega⟩

def signedSeconds (d : Cursor) : Match × Cursor :=
  match d.rest with
  | [] => (.part, d)
  | b :: rest => if b = 45 then elapsedSeconds true ⟨d.pos + 1, rest⟩ else elapsedSeconds false d

theorem linePrefix_elapsed : linePrefix .elapsedTime = andRead (literal (ascii "[")) signedSeconds := rfl

theorem signedSeconds_online : Online signedSeconds := by
  rintro ⟨pos, rest⟩ m d tail h hm
  rw [signedSeconds] at h ⊢
  cases rest with
  | nil =>
      cases h
      exact absurd rfl hm
  | cons b rest =>
      rw [Cursor.more_mk, List.cons_append]
      dsimp only at h ⊢
      by_cases hb : b = 45
      · rw [if_pos hb] at h ⊢
        exact elapsedSeconds_online true _ m d tail h hm
      · rw [if_neg hb] at h ⊢
        exact elapsedSeconds_online false _ m d tail h hm

def signText (negative : Bool) : List UInt8 := if negative then ascii "-" else []

theorem secondsText_head {pos : Nat} {negative : Bool} {p : List UInt8} (h : SecondsText negative pos p) :
    ∃ b rest, p = b :: rest ∧ b ≠ 45 := by
  obtain ⟨_, whole, a, b, ⟨hall, hleast, _⟩, _, _, rfl⟩ := h
  cases whole with
  | nil =>
      rw [leastDigits, List.length_nil] at hleast
      split at hleast <;> omega
  | cons w whole =>
      rw [List.all_cons, Bool.and_eq_true] at hall
      refine ⟨w, _, rfl, ?_⟩
      rintro rfl
      exact absurd hall.1 (by decide)

theorem signedSeconds_accepts :
    Accepts signedSeconds fun pos p =>
      ∃ negative q, p = signText negative ++ q ∧ SecondsText negative (pos + (signText negative).length) q := by
  rintro ⟨pos, rest⟩ d
  rw [signedSeconds]
  cases rest with
  | nil =>
      constructor
      · intro h
        cases h
      · rintro ⟨p, ⟨negative, q, rfl, hq⟩, hrest, _⟩
        obtain ⟨b, more, rfl, _⟩ := secondsText_head hq
        cases negative <;> cases hrest
  | cons b rest =>
      dsimp only
      by_cases hb : b = 45
      · subst hb
        rw [if_pos rfl, elapsedSeconds_accepts]
        dsimp only
        constructor
        · rintro ⟨q, hq, hrest, hpos⟩
          refine ⟨45 :: q, ⟨true, q, rfl, hq⟩, congrArg (List.cons 45) hrest, ?_⟩
          rw [hpos, List.length_cons]
          omega
        · rintro ⟨p, ⟨negative, q, rfl, hq⟩, hrest, hpos⟩
          cases negative with
          | false =>
              obtain ⟨c, more, rfl, hc⟩ := secondsText_head hq
              exact absurd (List.cons.inj hrest).1.symm hc
          | true =>
              refine ⟨q, hq, (List.cons.inj hrest).2, ?_⟩
              rw [hpos, signText, if_pos rfl, List.length_append, ← Nat.add_assoc]
              rfl
      · rw [if_neg hb, elapsedSeconds_accepts]
        dsimp only
        constructor
        · rintro ⟨q, hq, hrest, hpos⟩
          exact ⟨q, ⟨false, q, rfl, hq⟩, hrest, hpos⟩
        · rintro ⟨p, ⟨negative, q, rfl, hq⟩, hrest, hpos⟩
          cases negative with
          | false => exact ⟨q, hq, hrest, hpos⟩
          | true => exact absurd (List.cons.inj hrest).1 hb

/-- The prefixes that a line of the log may start with. -/
def LinePrefix (p : List UInt8) : PrefixMode → Prop
  | .logOnly => p = ascii "Log: "
  | .elapsedTime =>
      p.length ≤ kPrefixLimit ∧ ∃ negative whole a b, WholeSeconds (leastDigits negative) whole ∧
        digit a = true ∧ digit b = true ∧
        p = ascii "[" ++ (signText negative ++ (whole ++ (ascii "." ++ ([a, b] ++ ascii "] Log: "))))

theorem linePrefix_online (mode : PrefixMode) : Online (linePrefix mode) := by
  cases mode with
  | logOnly => exact literal_online _
  | elapsedTime =>
      rw [linePrefix_elapsed]
      exact (literal_online _).andRead signedSeconds_online

theorem linePrefix_accepts (mode : PrefixMode) (bytes : List UInt8) (d : Cursor) :
    linePrefix mode ⟨0, bytes⟩ = (.yes, d) ↔ ∃ p, LinePrefix p mode ∧ bytes = p ++ d.rest ∧ d.pos = p.length := by
  cases mode with
  | logOnly =>
      rw [linePrefix, literal_accepts]
      simp only [Nat.zero_add]
      rfl
  | elapsedTime =>
      rw [linePrefix_elapsed, (literal_accepts _).andRead signedSeconds_accepts]
      simp only [Nat.zero_add]
      constructor
      · rintro ⟨p, ⟨a, b, rfl, rfl, negative, q, rfl, hbound, whole, x, y, hw, hx, hy, rfl⟩, hrest, hpos⟩
        refine ⟨_, ⟨?_, negative, whole, x, y, hw, hx, hy, rfl⟩, hrest, hpos⟩
        rw [List.length_append, @List.length_append _ (signText negative)]
        omega
      · rintro ⟨p, ⟨hbound, negative, whole, x, y, hw, hx, hy, rfl⟩, hrest, hpos⟩
        refine ⟨_, ⟨_, _, rfl, rfl, negative, _, rfl, ?_, whole, x, y, hw, hx, hy, rfl⟩, hrest, hpos⟩
        rw [List.length_append, @List.length_append _ (signText negative)] at hbound
        omega

theorem LinePrefix.length_pos {p : List UInt8} {mode : PrefixMode} (h : LinePrefix p mode) : 0 < p.length := by
  cases mode with
  | logOnly =>
      rw [LinePrefix] at h
      rw [h]
      decide
  | elapsedTime =>
      obtain ⟨_, _, _, _, _, _, _, _, rfl⟩ := h
      rw [List.length_append]
      exact Nat.lt_of_lt_of_le (by decide) (Nat.le_add_right _ _)

theorem LinePrefix.length_le {p : List UInt8} {mode : PrefixMode} (h : LinePrefix p mode) :
    p.length ≤ kPrefixLimit := by
  cases mode with
  | logOnly =>
      rw [LinePrefix] at h
      rw [h]
      decide
  | elapsedTime => exact h.1

def selection (mode : PrefixMode) : Cursor → Match × Cursor := andRead (linePrefix mode) (literal kMarker)

theorem selection_online (mode : PrefixMode) : Online (selection mode) :=
  (linePrefix_online mode).andRead (literal_online _)

/-- The bound on the prefix that the source checks after its digits never decides. -/
theorem inspectLine_eq (bytes : List UInt8) (mode : PrefixMode) (complete : Bool) :
    inspectLine bytes mode complete =
      match selection mode ⟨0, bytes⟩ with
      | (.no, _) => .unrelated
      | (.part, _) => if complete then .unrelated else .incomplete
      | (.yes, d) =>
          let offset := (linePrefix mode ⟨0, bytes⟩).2.pos
          if complete then completeFrame bytes offset d.pos else ⟨.incomplete, offset, bytes.length - offset⟩ := by
  rw [inspectLine, selection, andRead]
  rcases hp : linePrefix mode ⟨0, bytes⟩ with ⟨m, c⟩
  cases m with
  | no => rfl
  | part => rfl
  | yes =>
      obtain ⟨p, hp, _, hpos⟩ := (linePrefix_accepts mode bytes c).mp hp
      have hbound := hp.length_le
      have hshort : ¬kPrefixLimit < c.pos := by omega
      rcases literal kMarker c with ⟨m, d⟩
      cases m <;> exact if_neg hshort

def Selected (mode : PrefixMode) (bytes p : List UInt8) : Prop := LinePrefix p mode ∧ p ++ kMarker <+: bytes

theorem selection_yes (mode : PrefixMode) (bytes : List UInt8) (d : Cursor) :
    selection mode ⟨0, bytes⟩ = (.yes, d) ↔
      ∃ p, LinePrefix p mode ∧ bytes = p ++ kMarker ++ d.rest ∧ d.pos = p.length + kMarker.length ∧
        linePrefix mode ⟨0, bytes⟩ = (.yes, ⟨p.length, kMarker ++ d.rest⟩) := by
  constructor
  · intro h
    rw [selection] at h
    rcases hc : linePrefix mode ⟨0, bytes⟩ with ⟨m, c⟩
    by_cases hm : m = .yes
    · subst hm
      rw [andRead_yes hc] at h
      obtain ⟨p, hp, hrest, hpos⟩ := (linePrefix_accepts mode bytes c).mp hc
      obtain ⟨_, rfl, hmark, hend⟩ := (literal_accepts kMarker c d).mp h
      refine ⟨p, hp, ?_, ?_, ?_⟩
      · rw [hrest, hmark, List.append_assoc]
      · rw [hend, hpos]
      · rw [← hmark, ← hpos]
    · rw [andRead_of_ne hc hm] at h
      cases h
      exact absurd rfl hm
  · rintro ⟨p, hp, hbytes, hpos, hprefix⟩
    rw [selection, andRead_yes hprefix]
    exact (literal_accepts kMarker _ d).mpr ⟨kMarker, rfl, rfl, hpos⟩

theorem completeFrame_offset (bytes : List UInt8) (offset stop : Nat) :
    (completeFrame bytes offset stop).messageOffset = offset := by
  rw [completeFrame]
  split
  · rfl
  · split <;> rfl

theorem inspectLine_selected {bytes p : List UInt8} {mode : PrefixMode} (h : Selected mode bytes p) (complete : Bool) :
    (inspectLine bytes mode complete).messageOffset = p.length := by
  obtain ⟨hp, rest, rfl⟩ := h
  have hprefix := (linePrefix_accepts mode (p ++ kMarker ++ rest) ⟨p.length, kMarker ++ rest⟩).mpr
    ⟨p, hp, List.append_assoc _ _ _, rfl⟩
  have hsel := (selection_yes mode (p ++ kMarker ++ rest) ⟨p.length + kMarker.length, rest⟩).mpr
    ⟨p, hp, rfl, rfl, hprefix⟩
  rw [inspectLine_eq, hsel, hprefix]
  dsimp only
  split
  · exact completeFrame_offset _ _ _
  · rfl

theorem inspectLine_offset {bytes : List UInt8} {mode : PrefixMode} {complete : Bool}
    (h : (inspectLine bytes mode complete).messageOffset ≠ 0) : ∃ p, Selected mode bytes p := by
  rw [inspectLine_eq] at h
  rcases hs : selection mode ⟨0, bytes⟩ with ⟨m, d⟩
  rw [hs] at h
  cases m with
  | no => exact absurd rfl h
  | part =>
      dsimp only at h
      split at h
      · exact absurd rfl h
      · exact absurd rfl h
  | yes =>
      obtain ⟨p, hp, hbytes, _⟩ := (selection_yes mode bytes d).mp hs
      exact ⟨p, hp, d.rest, hbytes.symm⟩

theorem inspectLine_unrelated {bytes : List UInt8} {mode : PrefixMode}
    (h : (inspectLine bytes mode false).kind = .unrelated) : ∃ d, selection mode ⟨0, bytes⟩ = (.no, d) := by
  rw [inspectLine_eq] at h
  rcases hs : selection mode ⟨0, bytes⟩ with ⟨m, d⟩
  rw [hs] at h
  cases m with
  | no => exact ⟨d, rfl⟩
  | part => cases h
  | yes => cases h

theorem inspectLine_extension {bytes : List UInt8} {mode : PrefixMode}
    (h : (inspectLine bytes mode false).kind = .unrelated) (tail : List UInt8) (complete : Bool) :
    (inspectLine (bytes ++ tail) mode complete).kind = .unrelated := by
  obtain ⟨d, hd⟩ := inspectLine_unrelated h
  have hmore := selection_online mode _ .no d tail hd (by decide)
  rw [Cursor.more_mk] at hmore
  rw [inspectLine_eq, hmore]
  rfl

theorem Selected.more {bytes p : List UInt8} {mode : PrefixMode} (h : Selected mode bytes p) (tail : List UInt8) :
    Selected mode (bytes ++ tail) p :=
  ⟨h.1, h.2.trans (List.prefix_append _ _)⟩

def decimalDigits (n : Nat) : List UInt8 := (Nat.digits 10 n).reverse.map fun d => 48 + d.toUInt8

def zeroPadded (places n : Nat) : List UInt8 :=
  List.replicate (places - (decimalDigits n).length) 48 ++ decimalDigits n

/-- The format `%0w.2f` of a signed finite value that rounds to so many hundredths. -/
def printedHundredths (width : Nat) (negative : Bool) (hundredths : Nat) : List UInt8 :=
  let body := zeroPadded 1 (hundredths / 100) ++ (ascii "." ++ zeroPadded 2 (hundredths % 100))
  signText negative ++ (List.replicate (width - ((signText negative).length + body.length)) 48 ++ body)

theorem digit_of_lt {d : Nat} (h : d < 10) : digit (48 + d.toUInt8) = true := by
  have : ∀ k : Fin 10, digit (48 + k.val.toUInt8) = true := by decide
  exact this ⟨d, h⟩

theorem digit_value {b : UInt8} (h : digit b = true) : b.toNat - 48 < 10 ∧ 48 + (b.toNat - 48).toUInt8 = b := by
  rw [digit, Bool.and_eq_true, decide_eq_true_eq, decide_eq_true_eq, UInt8.le_iff_toNat_le, UInt8.le_iff_toNat_le] at h
  obtain ⟨hlow, hhigh⟩ := h
  have hlow' : 48 ≤ b.toNat := hlow
  have hhigh' : b.toNat ≤ 57 := hhigh
  refine ⟨by omega, UInt8.toNat_inj.mp ?_⟩
  rw [UInt8.toNat_add, UInt8.toNat_ofNat']
  have hforty : (48 : UInt8).toNat = 48 := rfl
  omega

theorem decimalDigits_all (n : Nat) : (decimalDigits n).all digit = true := by
  rw [List.all_eq_true]
  intro b hb
  obtain ⟨d, hd, rfl⟩ := List.mem_map.mp hb
  exact digit_of_lt (Nat.digits_lt_base (by decide) (List.mem_reverse.mp hd))

theorem decimalDigits_length (n : Nat) : (decimalDigits n).length = (Nat.digits 10 n).length := by
  rw [decimalDigits, List.length_map, List.length_reverse]

theorem decimalDigits_head (n : Nat) : (decimalDigits n).head? ≠ some 48 := by
  intro h
  rw [decimalDigits, List.head?_map, List.head?_reverse] at h
  obtain ⟨d, hd, he⟩ := Option.map_eq_some_iff.mp h
  have hmem := List.mem_of_getLast? hd
  have hlt := Nat.digits_lt_base (by decide : 1 < 10) hmem
  have hne : d ≠ 0 := by
    rintro rfl
    have hn : n ≠ 0 := by
      rintro rfl
      rw [Nat.digits_zero] at hmem
      cases hmem
    have hlast := Nat.getLast_digit_ne_zero 10 hn
    rw [List.getLast?_eq_some_getLast (List.ne_nil_of_mem hmem)] at hd
    exact hlast (Option.some.inj hd)
  have hall : ∀ k : Fin 10, 48 + k.val.toUInt8 = (48 : UInt8) → k.val = 0 := by decide
  exact hne (hall ⟨d, hlt⟩ he)

/-- Digits without a leading zero are the decimal of the number they show. -/
theorem decimalDigits_of_all {ds : List UInt8} (hall : ds.all digit = true) (hhead : ds.head? ≠ some 48) :
    ∃ n, ds = decimalDigits n := by
  refine ⟨Nat.ofDigits 10 (ds.reverse.map fun b => b.toNat - 48), ?_⟩
  rw [List.all_eq_true] at hall
  rw [decimalDigits, Nat.digits_ofDigits 10 (by decide), ← List.map_reverse, List.reverse_reverse, List.map_map]
  · refine (List.map_id ds).symm.trans (List.map_congr_left fun b hb => ?_)
    exact (digit_value (hall b hb)).2.symm
  · intro d hd
    obtain ⟨b, hb, rfl⟩ := List.mem_map.mp hd
    exact (digit_value (hall b (List.mem_reverse.mp hb))).1
  · intro hne hlast
    rw [List.getLast_map, List.getLast_reverse] at hlast
    · cases ds with
      | nil => exact hne rfl
      | cons b ds =>
          have hb := (digit_value (hall b List.mem_cons_self)).2
          rw [List.head_cons] at hlast
          rw [hlast] at hb
          exact hhead (congrArg some hb.symm)

theorem zeroPadded_of_all {ds : List UInt8} (hall : ds.all digit = true) : ∃ n, ds = zeroPadded ds.length n := by
  induction ds with
  | nil => exact ⟨0, rfl⟩
  | cons b ds ih =>
      by_cases hb : b = 48
      · subst hb
        rw [List.all_cons, Bool.and_eq_true] at hall
        obtain ⟨n, hn⟩ := ih hall.2
        have hle : (decimalDigits n).length ≤ ds.length := by
          have hlen := congrArg List.length hn
          rw [zeroPadded, List.length_append, List.length_replicate] at hlen
          omega
        refine ⟨n, ?_⟩
        rw [zeroPadded, List.length_cons, Nat.succ_sub hle, List.replicate_succ, List.cons_append, ← zeroPadded, ← hn]
      · obtain ⟨n, hn⟩ := decimalDigits_of_all hall (fun h => hb (Option.some.inj h))
        refine ⟨n, ?_⟩
        rw [zeroPadded, ← hn, Nat.sub_self]
        rfl

theorem zeroPadded_length (places n : Nat) : (zeroPadded places n).length = max places (decimalDigits n).length := by
  rw [zeroPadded, List.length_append, List.length_replicate]
  omega

theorem zeroPadded_all (places n : Nat) : (zeroPadded places n).all digit = true := by
  rw [zeroPadded, List.all_append, decimalDigits_all, List.all_replicate]
  simp [digit]

theorem zeroPadded_pad {places : Nat} (h : 0 < places) (n : Nat) :
    List.replicate (places - (zeroPadded 1 n).length) 48 ++ zeroPadded 1 n = zeroPadded places n := by
  rw [zeroPadded_length, zeroPadded, zeroPadded, ← List.append_assoc, List.replicate_append_replicate]
  congr 2
  omega

/-- The whole seconds of the grammar are the padded numbers. -/
theorem wholeSeconds_iff (places : Nat) (whole : List UInt8) :
    WholeSeconds places whole ↔ ∃ n, whole = zeroPadded places n := by
  constructor
  · rintro ⟨hall, hleast, hzero⟩
    by_cases hlen : whole.length = places
    · obtain ⟨n, hn⟩ := zeroPadded_of_all hall
      exact ⟨n, hlen ▸ hn⟩
    · obtain ⟨n, rfl⟩ := decimalDigits_of_all hall (hzero (by omega))
      refine ⟨n, ?_⟩
      rw [zeroPadded, Nat.sub_eq_zero_of_le hleast]
      rfl
  · rintro ⟨n, rfl⟩
    have hlen := zeroPadded_length places n
    refine ⟨zeroPadded_all places n, by omega, fun hlt => ?_⟩
    have hle : places ≤ (decimalDigits n).length := by omega
    rw [zeroPadded, Nat.sub_eq_zero_of_le hle]
    exact decimalDigits_head n

theorem hundredths_iff (p : List UInt8) :
    (∃ a b, p = [a, b] ∧ digit a = true ∧ digit b = true) ↔ ∃ n, n < 100 ∧ p = zeroPadded 2 n := by
  constructor
  · rintro ⟨a, b, rfl, ha, hb⟩
    have hall : [a, b].all digit = true := by simp [ha, hb]
    obtain ⟨n, hn⟩ := zeroPadded_of_all hall
    have hlen := congrArg List.length hn
    rw [zeroPadded_length, decimalDigits_length, List.length_cons, List.length_cons, List.length_nil] at hlen
    exact ⟨n, (Nat.digits_length_le_iff (by decide : 1 < 10) (k := 2) n).mp (by omega), hn⟩
  · rintro ⟨n, hn, rfl⟩
    have hle := (Nat.digits_length_le_iff (by decide : 1 < 10) n).mpr (by omega : n < 10 ^ 2)
    have hlen := zeroPadded_length 2 n
    rw [decimalDigits_length] at hlen
    have hall := zeroPadded_all 2 n
    obtain ⟨a, b, hab⟩ := List.length_eq_two.mp (by omega : (zeroPadded 2 n).length = 2)
    rw [hab, List.all_cons, List.all_cons, Bool.and_eq_true, Bool.and_eq_true] at hall
    exact ⟨a, b, hab, hall.1, hall.2.1⟩

theorem printedHundredths_eq (negative : Bool) (hundredths : Nat) :
    printedHundredths 7 negative hundredths =
      signText negative ++ (zeroPadded (leastDigits negative) (hundredths / 100) ++
        (ascii "." ++ zeroPadded 2 (hundredths % 100))) := by
  have hlen := zeroPadded_length 2 (hundredths % 100)
  obtain ⟨a, b, hab, _⟩ := (hundredths_iff _).mpr ⟨hundredths % 100, Nat.mod_lt _ (by decide), rfl⟩
  have htail : (ascii "." ++ zeroPadded 2 (hundredths % 100)).length = 3 := by
    rw [hab]
    rfl
  have hplaces : 7 - ((signText negative).length + ((zeroPadded 1 (hundredths / 100)).length + 3)) =
      leastDigits negative - (zeroPadded 1 (hundredths / 100)).length := by
    cases negative
    · have hs : (signText false).length = 0 := rfl
      have hd : leastDigits false = 4 := rfl
      omega
    · have hs : (signText true).length = 1 := rfl
      have hd : leastDigits true = 3 := rfl
      omega
  rw [printedHundredths, List.length_append, htail, hplaces, ← List.append_assoc (List.replicate _ _),
    zeroPadded_pad (by cases negative <;> decide)]

/-- The prefixes of the elapsed time are what `[%07.2f] Log: ` prints, up to the bound. -/
theorem linePrefix_printed (p : List UInt8) :
    LinePrefix p .elapsedTime ↔ p.length ≤ kPrefixLimit ∧ ∃ negative hundredths,
      p = ascii "[" ++ (printedHundredths 7 negative hundredths ++ ascii "] Log: ") := by
  constructor
  · rintro ⟨hbound, negative, whole, a, b, hw, ha, hb, rfl⟩
    obtain ⟨n, rfl⟩ := (wholeSeconds_iff _ _).mp hw
    obtain ⟨k, hk, hab⟩ := (hundredths_iff _).mp ⟨a, b, rfl, ha, hb⟩
    refine ⟨hbound, negative, n * 100 + k, ?_⟩
    rw [printedHundredths_eq, show (n * 100 + k) / 100 = n by omega, show (n * 100 + k) % 100 = k by omega, ← hab]
    simp only [List.append_assoc]
  · rintro ⟨hbound, negative, hundredths, rfl⟩
    obtain ⟨a, b, hab, ha, hb⟩ := (hundredths_iff _).mpr ⟨hundredths % 100, Nat.mod_lt _ (by decide), rfl⟩
    refine ⟨hbound, negative, _, a, b, (wholeSeconds_iff _ _).mpr ⟨hundredths / 100, rfl⟩, ha, hb, ?_⟩
    rw [printedHundredths_eq, hab]
    simp only [List.append_assoc]

/-- The inspection selects exactly the lines of the grammar, and what it has
decided on a part of a line it decides on the whole of it. -/
theorem line_grammar (mode : PrefixMode) :
    (∀ bytes complete, (inspectLine bytes mode complete).messageOffset ≠ 0 ↔
        ∃ p, LinePrefix p mode ∧ p ++ kMarker <+: bytes) ∧
      (∀ bytes complete p, LinePrefix p mode → p ++ kMarker <+: bytes →
        (inspectLine bytes mode complete).messageOffset = p.length) ∧
      (∀ p, LinePrefix p .elapsedTime ↔ p.length ≤ kPrefixLimit ∧ ∃ negative hundredths,
        p = ascii "[" ++ (printedHundredths 7 negative hundredths ++ ascii "] Log: ")) ∧
      (∀ bytes, (inspectLine bytes mode false).kind = .unrelated → ∀ tail complete,
        (inspectLine (bytes ++ tail) mode complete).kind = .unrelated) ∧
      ∀ bytes read, (inspectLine bytes mode read).messageOffset ≠ 0 → ∀ tail complete,
        (inspectLine (bytes ++ tail) mode complete).messageOffset = (inspectLine bytes mode read).messageOffset := by
  refine ⟨fun bytes complete => ⟨inspectLine_offset, ?_⟩, fun bytes complete p hp hm => ?_, linePrefix_printed,
    fun bytes h tail complete => inspectLine_extension h tail complete, fun bytes read h tail complete => ?_⟩
  · rintro ⟨p, hp, hm⟩
    rw [inspectLine_selected ⟨hp, hm⟩]
    exact Nat.ne_of_gt hp.length_pos
  · exact inspectLine_selected ⟨hp, hm⟩ complete
  · obtain ⟨p, hp⟩ := inspectLine_offset h
    rw [inspectLine_selected hp, inspectLine_selected (hp.more tail)]

end RS2ServerFix.NativeLog
