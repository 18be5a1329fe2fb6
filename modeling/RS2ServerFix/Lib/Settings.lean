import Mathlib.Data.List.DropRight
import Mathlib.Data.List.Perm.Basic
import Mathlib.Data.List.TakeWhile
import Mathlib.Logic.Function.Basic
import Mathlib.Logic.Relation

namespace RS2ServerFix.Lib.Settings

def newline : UInt8 := 10
def carriageReturn : UInt8 := 13
def separator : UInt8 := 61

def blank (c : UInt8) : Bool := c == 32 || c == 9

def legible (c : UInt8) : Bool := !(c == 0 || 127 < c || (c < 32 && c != 9 && c != carriageReturn))

/-- A newline ends each line, and the last may lack it. -/
def lines : List UInt8 → List (List UInt8)
  | [] => []
  | c :: text =>
      if c == newline then [] :: lines text
      else
        match lines text with
        | [] => [[c]]
        | line :: rest => (c :: line) :: rest

theorem lines_eq_nil {text : List UInt8} : lines text = [] ↔ text = [] := by
  cases text with
  | nil => simp [lines]
  | cons c text =>
      rw [lines]
      constructor
      · intro h
        split at h
        · cases h
        · split at h <;> cases h
      · intro h
        cases h

def body (line : List UInt8) : List UInt8 :=
  if line.getLast? = some carriageReturn then line.dropLast else line

structure Setting where
  key : List UInt8
  value : List UInt8
  deriving DecidableEq, Repr

inductive Reading
  | malformed
  | blank
  | setting (setting : Setting)
  deriving DecidableEq, Repr

def split (shown : List UInt8) : Setting :=
  ⟨(shown.takeWhile fun c => c != separator).rdropWhile blank,
    ((shown.dropWhile fun c => c != separator).drop 1).dropWhile blank⟩

def readBody (text : List UInt8) : Reading :=
  let shown := (text.dropWhile blank).rdropWhile blank
  if shown = [] then .blank
  else if separator ∈ shown then .setting (split shown)
  else .malformed

def readLine (line : List UInt8) : Reading := if line.all legible then readBody (body line) else .malformed

variable {σ : Type}

def step (take : σ → Setting → Option σ) (s : σ) : Reading → Option σ
  | .malformed => none
  | .blank => some s
  | .setting e => take s e

/-- The state at the end of the lines, or at the first that is refused. -/
def readLines (take : σ → Setting → Option σ) : List (List UInt8) → σ → Except σ σ
  | [], s => .ok s
  | line :: rest, s =>
      match step take s (readLine line) with
      | some s' => readLines take rest s'
      | none => .error s

def readText (take : σ → Setting → Option σ) (text : List UInt8) (s : σ) : Except σ σ := readLines take (lines text) s

def Padding (s : List UInt8) : Prop := ∀ c ∈ s, blank c = true

def Trimmed (s : List UInt8) : Prop :=
  (∀ c, s.head? = some c → blank c = false) ∧ ∀ c, s.getLast? = some c → blank c = false

/-- The line is the text with or without a carriage return, which is never part of the text. -/
def Ended (line text : List UInt8) : Prop :=
  line = text ++ [carriageReturn] ∨ line = text ∧ text.getLast? ≠ some carriageReturn

/-- The text is padding, or a key and a value with padding around each. -/
inductive Shows : List UInt8 → Reading → Prop
  | padding {pad : List UInt8} : Padding pad → Shows pad .blank
  | setting {before key gap gap' value after : List UInt8} : Padding before → Padding gap → Padding gap' →
      Padding after → Trimmed key → Trimmed value → separator ∉ key →
      Shows (before ++ key ++ gap ++ separator :: (gap' ++ value ++ after)) (.setting ⟨key, value⟩)

def Says (line : List UInt8) (r : Reading) : Prop := (∀ c ∈ line, legible c = true) ∧ ∃ text, Ended line text ∧ Shows text r

theorem body_iff {line text : List UInt8} : Ended line text ↔ body line = text := by
  constructor
  · rintro (rfl | ⟨rfl, hlast⟩)
    · rw [body, if_pos List.getLast?_concat, List.dropLast_concat]
    · rw [body, if_neg hlast]
  · rintro rfl
    by_cases hlast : line.getLast? = some carriageReturn
    · refine .inl ?_
      rw [body, if_pos hlast]
      exact (List.dropLast_append_getLast? _ hlast).symm
    · refine .inr ?_
      rw [body, if_neg hlast]
      exact ⟨rfl, hlast⟩

theorem dropWhile_padded {pad s : List UInt8} (hpad : Padding pad) (hs : ∀ c, s.head? = some c → blank c = false) :
    (pad ++ s).dropWhile blank = s := by
  rw [List.dropWhile_append_of_pos hpad]
  cases s with
  | nil => rfl
  | cons c s =>
      rw [List.dropWhile_cons_of_neg]
      rw [hs c rfl]
      exact Bool.false_ne_true

theorem rdropWhile_padded {pad s : List UInt8} (hpad : Padding pad) (hs : ∀ c, s.getLast? = some c → blank c = false) :
    (s ++ pad).rdropWhile blank = s := by
  rw [List.rdropWhile, List.reverse_append, dropWhile_padded, List.reverse_reverse]
  · exact fun c hc => hpad c (List.mem_reverse.mp hc)
  · rwa [List.head?_reverse]

theorem padding_append {s t : List UInt8} (hs : Padding s) (ht : Padding t) : Padding (s ++ t) := by
  intro c hc
  exact (List.mem_append.mp hc).elim (hs c) (ht c)

theorem separator_not_blank : blank separator = false := rfl

theorem separator_not_padding {pad : List UInt8} (h : Padding pad) : separator ∉ pad := fun hmem =>
  Bool.false_ne_true (separator_not_blank.symm.trans (h separator hmem))

theorem takeWhile_rest (p : UInt8 → Bool) (s : List UInt8) : ∀ c, (s.dropWhile p).head? = some c → p c = false := by
  intro c hc
  have hnot := List.head?_dropWhile_not p s
  rw [hc] at hnot
  exact hnot

theorem rdropWhile_last (s : List UInt8) : ∀ c, (s.rdropWhile blank).getLast? = some c → blank c = false := by
  intro c hc
  rw [List.rdropWhile, List.getLast?_reverse] at hc
  exact takeWhile_rest _ _ c hc

theorem head_rdropWhile {s : List UInt8} (hs : ∀ c, s.head? = some c → blank c = false) :
    ∀ c, (s.rdropWhile blank).head? = some c → blank c = false := by
  intro c hc
  refine hs c ?_
  obtain ⟨t, ht⟩ := List.rdropWhile_prefix blank s
  rw [← ht, List.head?_append, hc]
  rfl

theorem padding_takeWhile (s : List UInt8) : Padding (s.takeWhile blank) := fun _ => List.mem_takeWhile_imp

theorem padding_rtakeWhile (s : List UInt8) : Padding (s.rtakeWhile blank) := by
  intro c hc
  rw [List.rtakeWhile, List.mem_reverse] at hc
  exact List.mem_takeWhile_imp hc

theorem dropWhile_key {before key gap : List UInt8} (rest : List UInt8) (hbefore : Padding before) (hkey : Trimmed key)
    (hgap : Padding gap) :
    ∃ gap', Padding gap' ∧ (before ++ key ++ gap ++ separator :: rest).dropWhile blank = key ++ gap' ++ separator :: rest := by
  rw [List.append_assoc, List.append_assoc]
  cases key with
  | nil =>
      refine ⟨[], fun _ h => absurd h List.not_mem_nil, ?_⟩
      rw [List.nil_append, ← List.append_assoc]
      refine dropWhile_padded (padding_append hbefore hgap) fun c hc => ?_
      cases hc
      exact separator_not_blank
  | cons d key =>
      refine ⟨gap, hgap, ?_⟩
      rw [List.append_assoc]
      exact dropWhile_padded hbefore fun c hc => hkey.1 c hc

theorem rdropWhile_value {gap value after : List UInt8} (start : List UInt8) (hgap : Padding gap) (hvalue : Trimmed value)
    (hafter : Padding after) :
    ∃ gap', Padding gap' ∧
      (start ++ separator :: (gap ++ value ++ after)).rdropWhile blank = start ++ separator :: (gap' ++ value) := by
  rcases List.eq_nil_or_concat value with rfl | ⟨value, d, rfl⟩
  · refine ⟨[], fun _ h => absurd h List.not_mem_nil, ?_⟩
    have hsplit : start ++ separator :: (gap ++ [] ++ after) = start ++ [separator] ++ (gap ++ after) := by simp
    rw [hsplit, rdropWhile_padded (padding_append hgap hafter)]
    · rfl
    · intro c hc
      rw [List.getLast?_concat] at hc
      cases hc
      exact separator_not_blank
  · refine ⟨gap, hgap, ?_⟩
    have hsplit : start ++ separator :: (gap ++ value.concat d ++ after) =
        start ++ separator :: (gap ++ value.concat d) ++ after := by simp
    rw [hsplit, rdropWhile_padded hafter]
    intro c hc
    refine hvalue.2 c ?_
    rw [List.concat_eq_append, ← List.append_assoc, List.append_cons, ← List.append_assoc, List.getLast?_concat] at hc
    rw [List.concat_eq_append, List.getLast?_concat, hc]

theorem separator_split {key : List UInt8} (rest : List UInt8) (hkey : separator ∉ key) :
    (key ++ separator :: rest).takeWhile (fun c => c != separator) = key ∧
      (key ++ separator :: rest).dropWhile (fun c => c != separator) = separator :: rest := by
  have hp : ∀ c ∈ key, (c != separator) = true := by
    intro c hc
    rw [bne_iff_ne]
    rintro rfl
    exact hkey hc
  rw [List.takeWhile_append_of_pos hp, List.dropWhile_append_of_pos hp, List.takeWhile_cons_of_neg, List.dropWhile_cons_of_neg,
    List.append_nil]
  · exact ⟨rfl, rfl⟩
  all_goals simp

theorem split_padded {key gap gap' value : List UInt8} (hgap : Padding gap) (hgap' : Padding gap') (hkey : Trimmed key)
    (hvalue : Trimmed value) (hseparator : separator ∉ key) :
    split (key ++ gap ++ separator :: (gap' ++ value)) = ⟨key, value⟩ := by
  have hnot : separator ∉ key ++ gap := by
    intro h
    exact (List.mem_append.mp h).elim hseparator (separator_not_padding hgap)
  obtain ⟨htake, hdrop⟩ := separator_split (gap' ++ value) hnot
  rw [split, htake, hdrop, rdropWhile_padded hgap hkey.2, List.drop_one, List.tail_cons, dropWhile_padded hgap' hvalue.1]

theorem Shows.reads {text : List UInt8} {r : Reading} (h : Shows text r) : readBody text = r := by
  cases h with
  | padding hpad =>
      have hnil : text.dropWhile blank = [] := List.dropWhile_eq_nil_iff.mpr hpad
      rw [readBody, hnil, List.rdropWhile_nil]
      rfl
  | setting hbefore hgap hgap' hafter hkey hvalue hseparator =>
      rename_i before key gap gap' value after
      obtain ⟨gap₁, hgap₁, hleft⟩ := dropWhile_key (gap' ++ value ++ after) hbefore hkey hgap
      obtain ⟨gap₂, hgap₂, hright⟩ := rdropWhile_value (key ++ gap₁) hgap' hvalue hafter
      have hmem : separator ∈ key ++ gap₁ ++ separator :: (gap₂ ++ value) :=
        List.mem_append_right _ List.mem_cons_self
      simp only [readBody]
      rw [hleft, hright, if_neg (List.ne_nil_of_mem hmem), if_pos hmem, split_padded hgap₁ hgap₂ hkey hvalue hseparator]

theorem Shows.of_reads {text : List UInt8} {r : Reading} (h : readBody text = r) (hr : r ≠ .malformed) : Shows text r := by
  have htext : text = text.takeWhile blank ++ ((text.dropWhile blank).rdropWhile blank ++
      (text.dropWhile blank).rtakeWhile blank) := by
    rw [List.rdropWhile_append_rtakeWhile, List.takeWhile_append_dropWhile]
  have hlast := rdropWhile_last (text.dropWhile blank)
  have hhead := head_rdropWhile (takeWhile_rest blank text)
  have hbefore := padding_takeWhile text
  have hafter := padding_rtakeWhile (text.dropWhile blank)
  simp only [readBody] at h
  generalize (text.dropWhile blank).rdropWhile blank = shown at *
  by_cases hnil : shown = []
  · rw [if_pos hnil] at h
    subst hnil
    rw [← h, htext]
    exact .padding (padding_append hbefore hafter)
  · rw [if_neg hnil] at h
    by_cases hmem : separator ∈ shown
    · rw [if_pos hmem] at h
      obtain ⟨name, rest, rfl, hname⟩ := List.eq_append_cons_of_mem hmem
      obtain ⟨htake, hdrop⟩ := separator_split rest hname
      rw [split, htake, hdrop, List.drop_one, List.tail_cons] at h
      have hwhole : text = text.takeWhile blank ++ name.rdropWhile blank ++ name.rtakeWhile blank ++
          separator :: (rest.takeWhile blank ++ rest.dropWhile blank ++ (text.dropWhile blank).rtakeWhile blank) := by
        rw [List.takeWhile_append_dropWhile, List.append_assoc (text.takeWhile blank), List.rdropWhile_append_rtakeWhile]
        simpa using htext
      rw [← h, hwhole]
      refine .setting hbefore (padding_rtakeWhile name) (padding_takeWhile rest) hafter ⟨?_, rdropWhile_last name⟩
        ⟨takeWhile_rest blank rest, ?_⟩ fun hin => hname ((List.rdropWhile_prefix blank name).subset hin)
      · refine head_rdropWhile fun c hc => hhead c ?_
        rw [List.head?_append, hc]
        rfl
      · intro c hc
        refine hlast c ?_
        obtain ⟨t, ht⟩ := List.dropWhile_suffix (l := rest) blank
        rw [List.append_cons, List.getLast?_append, ← ht, List.getLast?_append, hc]
        rfl
    · rw [if_neg hmem] at h
      exact absurd h.symm hr

theorem says_iff {line : List UInt8} {r : Reading} : Says line r ↔ readLine line = r ∧ r ≠ .malformed := by
  constructor
  · rintro ⟨hlegible, text, hended, hshows⟩
    constructor
    · rw [readLine, if_pos (List.all_eq_true.mpr hlegible), body_iff.mp hended]
      exact hshows.reads
    · rintro rfl
      cases hshows
  · rintro ⟨h, hr⟩
    rw [readLine] at h
    by_cases hlegible : line.all legible = true
    · rw [if_pos hlegible] at h
      exact ⟨List.all_eq_true.mp hlegible, body line, body_iff.mpr rfl, .of_reads h hr⟩
    · rw [if_neg hlegible] at h
      exact absurd h.symm hr

def entries (ls : List (List UInt8)) : List Reading := (ls.map readLine).filter fun r => r ≠ .blank

theorem entries_append (ls ls' : List (List UInt8)) : entries (ls ++ ls') = entries ls ++ entries ls' := by
  rw [entries, List.map_append, List.filter_append]
  rfl

theorem entries_blank {line : List UInt8} (ls : List (List UInt8)) (h : readLine line = .blank) :
    entries (line :: ls) = entries ls := by
  rw [entries, List.map_cons, h]
  rfl

theorem entries_congr {line line' : List UInt8} (ls : List (List UInt8)) (h : readLine line = readLine line') :
    entries (line :: ls) = entries (line' :: ls) := by
  rw [entries, entries, List.map_cons, List.map_cons, h]

/-- One change of the layout of a text, by its lines. -/
inductive Edit : List (List UInt8) → List (List UInt8) → Prop
  | reorder {ls ls' : List (List UInt8)} : ls.Perm ls' → Edit ls ls'
  | insertBlank (ls ls' : List (List UInt8)) {line pad : List UInt8} : Ended line pad → Padding pad →
      Edit (ls ++ ls') (ls ++ line :: ls')
  | ending (ls ls' : List (List UInt8)) {text : List UInt8} : text.getLast? ≠ some carriageReturn →
      Edit (ls ++ text :: ls') (ls ++ (text ++ [carriageReturn]) :: ls')
  | padding (ls ls' : List (List UInt8)) {line line' text text' : List UInt8} {e : Setting} : Ended line text →
      Ended line' text' → Shows text (.setting e) → Shows text' (.setting e) → Edit (ls ++ line :: ls') (ls ++ line' :: ls')

def SameSettings (text text' : List UInt8) : Prop := Relation.EqvGen Edit (lines text) (lines text')

theorem legible_blank {c : UInt8} (h : blank c = true) : legible c = true := by
  rw [blank, Bool.or_eq_true, beq_iff_eq, beq_iff_eq] at h
  rcases h with rfl | rfl <;> rfl

theorem legible_carriageReturn : legible carriageReturn = true := rfl

theorem Padding.legible {pad : List UInt8} (h : Padding pad) : ∀ c ∈ pad, legible c = true := fun c hc =>
  legible_blank (h c hc)

theorem Ended.legible {line text : List UInt8} (h : Ended line text) :
    (∀ c ∈ line, legible c = true) ↔ ∀ c ∈ text, legible c = true := by
  rcases h with rfl | ⟨rfl, -⟩
  · rw [List.forall_mem_append, List.forall_mem_singleton]
    exact and_iff_left legible_carriageReturn
  · rfl

theorem Shows.legible {text : List UInt8} {e : Setting} (h : Shows text (.setting e)) :
    (∀ c ∈ text, legible c = true) ↔ (∀ c ∈ e.key, legible c = true) ∧ ∀ c ∈ e.value, legible c = true := by
  cases h with
  | setting hbefore hgap hgap' hafter =>
      simp only [List.forall_mem_append, List.forall_mem_cons]
      have := hbefore.legible
      have := hgap.legible
      have := hgap'.legible
      have := hafter.legible
      have hs : Settings.legible separator = true := rfl
      tauto

theorem readLine_blank {line pad : List UInt8} (h : Ended line pad) (hpad : Padding pad) : readLine line = .blank :=
  (says_iff.mp ⟨h.legible.mpr hpad.legible, pad, h, .padding hpad⟩).1

theorem readLine_ending {text : List UInt8} (h : text.getLast? ≠ some carriageReturn) :
    readLine (text ++ [carriageReturn]) = readLine text := by
  have hended : Ended (text ++ [carriageReturn]) text := .inl rfl
  have hended' : Ended text text := .inr ⟨rfl, h⟩
  have hall : (text ++ [carriageReturn]).all Settings.legible = text.all Settings.legible := by
    rw [Bool.eq_iff_iff, List.all_eq_true, List.all_eq_true, hended.legible]
  rw [readLine, readLine, hall, body_iff.mp hended, body_iff.mp hended']

theorem readLine_padding {line line' text text' : List UInt8} {e : Setting} (h : Ended line text) (h' : Ended line' text')
    (hshows : Shows text (.setting e)) (hshows' : Shows text' (.setting e)) : readLine line = readLine line' := by
  have hall : line.all Settings.legible = line'.all Settings.legible := by
    rw [Bool.eq_iff_iff, List.all_eq_true, List.all_eq_true, h.legible, h'.legible, hshows.legible, hshows'.legible]
  rw [readLine, readLine, hall, body_iff.mp h, body_iff.mp h', hshows.reads, hshows'.reads]

theorem Edit.entries {ls ls' : List (List UInt8)} (h : Edit ls ls') : (entries ls).Perm (entries ls') := by
  cases h with
  | reorder hperm => exact (hperm.map readLine).filter _
  | insertBlank ls ls' h hpad => rw [entries_append, entries_append, entries_blank ls' (readLine_blank h hpad)]
  | ending ls ls' h => rw [entries_append, entries_append, entries_congr ls' (readLine_ending h)]
  | padding ls ls' h h' hshows hshows' =>
      rw [entries_append, entries_append, entries_congr ls' (readLine_padding h h' hshows hshows')]

theorem SameSettings.entries {text text' : List UInt8} (h : SameSettings text text') :
    (entries (lines text)).Perm (entries (lines text')) := by
  rw [SameSettings] at h
  generalize lines text = ls at h ⊢
  generalize lines text' = ls' at h ⊢
  induction h with
  | rel _ _ h => exact h.entries
  | refl => exact .refl _
  | symm _ _ _ ih => exact ih.symm
  | trans _ _ _ _ _ ih ih' => exact ih.trans ih'

def Lists (ls : List (List UInt8)) (es : List Setting) : Prop :=
  ∃ rs, List.Forall₂ Says ls rs ∧ rs.filter (fun r => r ≠ .blank) = es.map .setting

theorem readings_of_says {ls : List (List UInt8)} {rs : List Reading} (h : List.Forall₂ Says ls rs) :
    ls.map readLine = rs := by
  induction h with
  | nil => rfl
  | cons h _ ih => rw [List.map_cons, (says_iff.mp h).1, ih]

theorem lists_iff {ls : List (List UInt8)} {es : List Setting} : Lists ls es ↔ entries ls = es.map .setting := by
  constructor
  · rintro ⟨rs, hsays, hrs⟩
    rw [entries, readings_of_says hsays, hrs]
  · intro h
    refine ⟨ls.map readLine, ?_, h⟩
    rw [List.forall₂_map_right_iff, List.forall₂_same]
    intro line hline
    refine says_iff.mpr ⟨rfl, fun hmalformed => ?_⟩
    have hmem : Reading.malformed ∈ entries ls :=
      List.mem_filter.mpr ⟨List.mem_map.mpr ⟨line, hline, hmalformed⟩, rfl⟩
    rw [h, List.mem_map] at hmem
    obtain ⟨_, _, he⟩ := hmem
    cases he

theorem Lists.line {ls : List (List UInt8)} {es : List Setting} {e : Setting} (h : Lists ls es) (he : e ∈ es) :
    ∃ line ∈ ls, Says line (.setting e) := by
  have hmem : Reading.setting e ∈ entries ls := by
    rw [lists_iff.mp h]
    exact List.mem_map_of_mem he
  obtain ⟨line, hline, hread⟩ := List.mem_map.mp (List.mem_filter.mp hmem).1
  exact ⟨line, hline, says_iff.mpr ⟨hread, fun hmalformed => by cases hmalformed⟩⟩

theorem Lists.legible {ls : List (List UInt8)} {es : List Setting} {e : Setting} (h : Lists ls es) (he : e ∈ es) :
    ∀ c ∈ e.value, legible c = true := by
  obtain ⟨line, _, hlegible, text, hended, hshows⟩ := h.line he
  exact (hshows.legible.mp (hended.legible.mp hlegible)).2

theorem readLines_ok {take : σ → Setting → Option σ} {ls : List (List UInt8)} {s s' : σ} :
    readLines take ls s = .ok s' ↔ ∃ es : List Setting, entries ls = es.map .setting ∧ es.foldlM take s = some s' := by
  induction ls generalizing s with
  | nil =>
      rw [readLines]
      constructor
      · intro h
        cases h
        exact ⟨[], rfl, rfl⟩
      · rintro ⟨es, hes, h⟩
        cases es with
        | nil =>
            cases h
            rfl
        | cons e es => cases hes
  | cons line ls ih =>
      have hentries : entries (line :: ls) = if readLine line = .blank then entries ls else readLine line :: entries ls := by
        rw [entries, List.map_cons, List.filter_cons]
        by_cases h : readLine line = .blank <;> simp [h, entries]
      rw [readLines, hentries]
      cases readLine line with
      | malformed =>
          constructor
          · intro h
            cases h
          · rintro ⟨es, hes, -⟩
            cases es with
            | nil => cases hes
            | cons e es => cases hes
      | blank => exact ih
      | setting e =>
          simp only [step, reduceCtorEq, if_false]
          constructor
          · intro h
            cases htake : take s e with
            | none =>
                rw [htake] at h
                cases h
            | some t =>
                rw [htake] at h
                obtain ⟨es, hes, hfold⟩ := ih.mp h
                refine ⟨e :: es, by rw [hes, List.map_cons], ?_⟩
                rw [List.foldlM_cons, htake]
                exact hfold
          · rintro ⟨es, hes, hfold⟩
            cases es with
            | nil => cases hes
            | cons e' es =>
                rw [List.map_cons, List.cons.injEq, Reading.setting.injEq] at hes
                obtain ⟨rfl, hes⟩ := hes
                rw [List.foldlM_cons] at hfold
                cases htake : take s e with
                | none =>
                    rw [htake] at hfold
                    cases hfold
                | some t =>
                    rw [htake] at hfold
                    exact ih.mpr ⟨es, hes, hfold⟩

section Assign

variable {K : Type} [DecidableEq K] {known : List UInt8 → Option K} {valid : K → List UInt8 → Bool}

abbrev Assignment (K : Type) := K → Option (List UInt8)

def Assignment.empty : Assignment K := fun _ => none

def assign (known : List UInt8 → Option K) (valid : K → List UInt8 → Bool) (a : Assignment K) (e : Setting) :
    Option (Assignment K) :=
  (known e.key).bind fun k =>
    if valid k e.value && (a k).isNone then some (Function.update a k (some e.value)) else none

/-- The settings are valid values of known names, no name is set twice, and these are the values set. -/
structure Tells (known : List UInt8 → Option K) (valid : K → List UInt8 → Bool) (es : List Setting) (a : Assignment K) :
    Prop where
  valid : ∀ e ∈ es, ∃ k, known e.key = some k ∧ valid k e.value = true
  once : (es.map fun e => known e.key).Nodup
  value : ∀ k v, a k = some v ↔ ∃ e ∈ es, known e.key = some k ∧ e.value = v

omit [DecidableEq K] in
theorem Tells.perm {es es' : List Setting} {a : Assignment K} (h : Tells known valid es a) (hperm : es.Perm es') :
    Tells known valid es' a where
  valid e he := h.valid e (hperm.mem_iff.mpr he)
  once := (hperm.map _).nodup_iff.mp h.once
  value k v := by
    rw [h.value]
    exact exists_congr fun e => and_congr_left fun _ => hperm.mem_iff

theorem assign_some {a b : Assignment K} {e : Setting} :
    assign known valid a e = some b ↔
      ∃ k, known e.key = some k ∧ valid k e.value = true ∧ a k = none ∧ b = Function.update a k (some e.value) := by
  rw [assign, Option.bind_eq_some_iff]
  refine exists_congr fun k => and_congr_right fun _ => ?_
  rw [Option.ite_none_right_eq_some, Bool.and_eq_true, Option.isNone_iff_eq_none, and_assoc, Option.some.injEq,
    eq_comm (a := b)]

theorem Tells.snoc {es : List Setting} {a b : Assignment K} {e : Setting} (h : Tells known valid es a)
    (hassign : assign known valid a e = some b) : Tells known valid (es ++ [e]) b := by
  obtain ⟨k, hk, hvalid, hnone, rfl⟩ := assign_some.mp hassign
  refine ⟨?_, ?_, ?_⟩
  · intro e' he'
    rcases List.mem_append.mp he' with he' | he'
    · exact h.valid e' he'
    · rw [List.mem_singleton] at he'
      subst he'
      exact ⟨k, hk, hvalid⟩
  · rw [List.map_append, List.nodup_append]
    refine ⟨h.once, List.pairwise_singleton _ _, ?_⟩
    rintro x hx y hy rfl
    obtain ⟨e', he', hx⟩ := List.mem_map.mp hx
    rw [List.map_singleton, List.mem_singleton, hk] at hy
    have hset := (h.value k e'.value).mpr ⟨e', he', hx.trans hy, rfl⟩
    rw [hnone] at hset
    cases hset
  · intro k' v
    by_cases hkk : k' = k
    · subst hkk
      rw [Function.update_self]
      constructor
      · intro hv
        exact ⟨e, List.mem_append_right _ List.mem_cons_self, hk, Option.some.inj hv⟩
      · rintro ⟨e', he', hk', rfl⟩
        rcases List.mem_append.mp he' with he' | he'
        · have hset := (h.value k' e'.value).mpr ⟨e', he', hk', rfl⟩
          rw [hnone] at hset
          cases hset
        · rw [List.mem_singleton] at he'
          rw [he']
    · rw [Function.update_of_ne hkk, h.value]
      constructor
      · rintro ⟨e', he', hk', hv⟩
        exact ⟨e', List.mem_append_left _ he', hk', hv⟩
      · rintro ⟨e', he', hk', hv⟩
        rcases List.mem_append.mp he' with he' | he'
        · exact ⟨e', he', hk', hv⟩
        · rw [List.mem_singleton] at he'
          subst he'
          rw [hk, Option.some.injEq] at hk'
          exact absurd hk'.symm hkk

theorem Tells.unsnoc {es : List Setting} {b : Assignment K} {e : Setting} (h : Tells known valid (es ++ [e]) b) :
    ∃ a, Tells known valid es a ∧ assign known valid a e = some b := by
  obtain ⟨k, hk, hvalid⟩ := h.valid e (List.mem_append_right _ List.mem_cons_self)
  have hlast : b k = some e.value := (h.value k e.value).mpr ⟨e, List.mem_append_right _ List.mem_cons_self, hk, rfl⟩
  have honce := h.once
  rw [List.map_append, List.nodup_append] at honce
  obtain ⟨honce, -, hdisjoint⟩ := honce
  have hother : ∀ e' ∈ es, known e'.key ≠ some k := by
    intro e' he' hk'
    exact hdisjoint _ (List.mem_map_of_mem he') _ (List.mem_map_of_mem List.mem_cons_self) (hk'.trans hk.symm)
  refine ⟨Function.update b k none, ⟨?_, honce, ?_⟩, ?_⟩
  · exact fun e' he' => h.valid e' (List.mem_append_left _ he')
  · intro k' v
    by_cases hkk : k' = k
    · subst hkk
      rw [Function.update_self]
      constructor
      · intro hv
        cases hv
      · rintro ⟨e', he', hk', -⟩
        exact absurd hk' (hother e' he')
    · rw [Function.update_of_ne hkk, h.value]
      constructor
      · rintro ⟨e', he', hk', hv⟩
        rcases List.mem_append.mp he' with he' | he'
        · exact ⟨e', he', hk', hv⟩
        · rw [List.mem_singleton] at he'
          subst he'
          rw [hk, Option.some.injEq] at hk'
          exact absurd hk'.symm hkk
      · rintro ⟨e', he', hk', hv⟩
        exact ⟨e', List.mem_append_left _ he', hk', hv⟩
  · refine assign_some.mpr ⟨k, hk, hvalid, Function.update_self .., ?_⟩
    rw [Function.update_idem, ← hlast, Function.update_eq_self]

theorem foldlM_singleton {a : Assignment K} {e : Setting} :
    [e].foldlM (assign known valid) a = assign known valid a e := by
  rw [List.foldlM_cons]
  cases assign known valid a e <;> rfl

theorem assign_foldlM {es : List Setting} {a : Assignment K} :
    es.foldlM (assign known valid) Assignment.empty = some a ↔ Tells known valid es a := by
  induction es using List.reverseRecOn generalizing a with
  | nil =>
      constructor
      · intro h
        cases h
        refine ⟨fun _ h => absurd h List.not_mem_nil, List.nodup_nil, ?_⟩
        intro k v
        constructor
        · intro h
          cases h
        · rintro ⟨_, h, -⟩
          exact absurd h List.not_mem_nil
      · intro h
        refine congrArg some (funext fun k => ?_)
        cases hv : a k with
        | none => rfl
        | some v =>
            obtain ⟨_, hmem, -⟩ := (h.value k v).mp hv
            exact absurd hmem List.not_mem_nil
  | append_singleton es e ih =>
      rw [List.foldlM_append, Option.bind_eq_bind, Option.bind_eq_some_iff]
      constructor
      · rintro ⟨b, hb, he⟩
        rw [foldlM_singleton] at he
        exact (ih.mp hb).snoc he
      · intro h
        obtain ⟨b, hb, he⟩ := h.unsnoc
        refine ⟨b, ih.mpr hb, ?_⟩
        rw [foldlM_singleton]
        exact he

/-- What the settings of the lines say, if all are in order. -/
def assignment (known : List UInt8 → Option K) (valid : K → List UInt8 → Bool) (text : List UInt8) : Option (Assignment K) :=
  (readText (assign known valid) text .empty).toOption

theorem readLines_assign {ls : List (List UInt8)} {a : Assignment K} :
    readLines (assign known valid) ls .empty = .ok a ↔ ∃ es, Lists ls es ∧ Tells known valid es a := by
  rw [readLines_ok]
  exact exists_congr fun es => and_congr lists_iff.symm assign_foldlM

theorem assignment_iff {text : List UInt8} {a : Assignment K} :
    assignment known valid text = some a ↔ ∃ es, Lists (lines text) es ∧ Tells known valid es a := by
  rw [assignment, readText, ← readLines_assign]
  cases readLines (assign known valid) (lines text) Assignment.empty with
  | ok b => exact ⟨fun h => congrArg Except.ok (Option.some.inj h), fun h => congrArg some (Except.ok.inj h)⟩
  | error b => constructor <;> (intro h; cases h)

theorem SameSettings.lists {text text' : List UInt8} {es : List Setting} (h : SameSettings text text')
    (hlists : Lists (lines text) es) : ∃ es', Lists (lines text') es' ∧ es.Perm es' := by
  have hperm := h.entries
  rw [lists_iff.mp hlists] at hperm
  have hcomp := congrFun (congrFun (List.eq_map_comp_perm Reading.setting) (Settings.entries (lines text'))) es
  have hcomp := hcomp.mpr hperm.symm
  obtain ⟨es', hes', hperm'⟩ := hcomp
  exact ⟨es', lists_iff.mpr hes', hperm'.symm⟩

/-- The layout of a text makes no difference to what its settings say. -/
theorem SameSettings.assignment {text text' : List UInt8} (h : SameSettings text text') (known : List UInt8 → Option K)
    (valid : K → List UInt8 → Bool) : assignment known valid text = assignment known valid text' := by
  refine Option.ext fun a => ?_
  rw [assignment_iff, assignment_iff]
  constructor
  · rintro ⟨es, hlists, htells⟩
    obtain ⟨es', hlists', hperm⟩ := h.lists hlists
    exact ⟨es', hlists', htells.perm hperm⟩
  · rintro ⟨es, hlists, htells⟩
    obtain ⟨es', hlists', hperm⟩ := SameSettings.lists (h.symm _ _) hlists
    exact ⟨es', hlists', htells.perm hperm⟩

/-- Two readers of lines get to the same line, and there are in related states. -/
def Alike {τ : Type} (R : σ → τ → Prop) : Except σ σ → Except τ τ → Prop
  | .ok s, .ok t => R s t
  | .error s, .error t => R s t
  | _, _ => False

theorem readLines_alike {τ : Type} {R : σ → τ → Prop} {take : σ → Setting → Option σ} {take' : τ → Setting → Option τ}
    (hstep : ∀ s t e, R s t → Option.Rel R (take s e) (take' t e)) {s : σ} {t : τ} (h : R s t) (ls : List (List UInt8)) :
    Alike R (readLines take ls s) (readLines take' ls t) := by
  induction ls generalizing s t with
  | nil => exact h
  | cons line ls ih =>
      rw [readLines, readLines]
      cases readLine line with
      | malformed => exact h
      | blank => exact ih h
      | setting e =>
          have hrel := hstep s t e h
          simp only [step]
          generalize take s e = taken at hrel
          generalize take' t e = taken' at hrel
          cases hrel with
          | some h => exact ih h
          | none => exact h

/-- Where the state is what the settings say, a setting is taken once and with a valid value. -/
theorem once_told {told : Assignment K → σ} {a : Assignment K} {k : K} {value : List UInt8} {seen invalid ok : Bool} {p : σ}
    (hseen : seen = (a k).isSome) (hinvalid : invalid = !ok) (hp : p = told (Function.update a k (some value))) :
    Option.Rel (fun p a => p = told a) (if (seen || invalid) = true then none else some p)
      (if (ok && (a k).isNone) = true then some (Function.update a k (some value)) else none) := by
  subst hseen hinvalid
  cases a k with
  | some _ =>
      rw [Option.isNone_some, Bool.and_false]
      exact .none
  | none =>
      cases ok with
      | false => exact .none
      | true => exact .some hp

/-- A reader whose state is what the settings say gets to the end if they are in order. -/
theorem readLines_told {told : Assignment K → σ} {take : σ → Setting → Option σ} {ls : List (List UInt8)} {p : σ}
    (hstep : ∀ p a e, p = told a → Option.Rel (fun p a => p = told a) (take p e) (assign known valid a e)) :
    readLines take ls (told .empty) = .ok p ↔ ∃ es a, Lists ls es ∧ Tells known valid es a ∧ p = told a := by
  have halike : Alike (fun p a => p = told a) (readLines take ls (told .empty)) (readLines (assign known valid) ls .empty) :=
    readLines_alike hstep rfl ls
  constructor
  · intro hp
    rw [hp] at halike
    cases ha : readLines (assign known valid) ls .empty with
    | error _ =>
        rw [ha] at halike
        exact halike.elim
    | ok a =>
        rw [ha] at halike
        obtain ⟨es, hlists, htells⟩ := readLines_assign.mp ha
        exact ⟨es, a, hlists, htells, halike⟩
  · rintro ⟨es, a, hlists, htells, rfl⟩
    rw [readLines_assign.mpr ⟨es, hlists, htells⟩] at halike
    cases hp : readLines take ls (told .empty) with
    | error _ =>
        rw [hp] at halike
        exact halike.elim
    | ok p =>
        rw [hp] at halike
        exact congrArg Except.ok halike

/-- Readers that follow the settings by name end alike on texts of different layouts. -/
theorem SameSettings.ends {R : σ → Assignment K → Prop} {take : σ → Setting → Option σ} {s : σ} {text text' : List UInt8}
    (h : SameSettings text text') (hstep : ∀ s a e, R s a → Option.Rel R (take s e) (assign known valid a e))
    (hs : R s .empty) :
    (∃ a p p', R p a ∧ R p' a ∧ readText take text s = .ok p ∧ readText take text' s = .ok p') ∨
      ∃ p p', readText take text s = .error p ∧ readText take text' s = .error p' := by
  have halike := readLines_alike hstep hs (lines text)
  have halike' := readLines_alike hstep hs (lines text')
  have hsame := h.assignment known valid
  rw [Settings.assignment, Settings.assignment, readText, readText] at hsame
  rw [readText, readText]
  generalize readLines take (lines text) s = r at *
  generalize readLines take (lines text') s = r' at *
  generalize readLines (assign known valid) (lines text) .empty = b at *
  generalize readLines (assign known valid) (lines text') .empty = b' at *
  cases b with
  | ok a =>
      cases b' with
      | error _ => cases hsame
      | ok a' =>
          cases Option.some.inj hsame
          cases r with
          | error _ => exact halike.elim
          | ok p =>
              cases r' with
              | error _ => exact halike'.elim
              | ok p' => exact .inl ⟨a, p, p', halike, halike', rfl, rfl⟩
  | error a =>
      cases b' with
      | ok _ => cases hsame
      | error a' =>
          cases r with
          | ok _ => exact halike.elim
          | error p =>
              cases r' with
              | ok _ => exact halike'.elim
              | error p' => exact .inr ⟨p, p', rfl, rfl⟩

end Assign

def reached : Except σ σ → σ
  | .ok s => s
  | .error s => s

/-- A reader takes some of the lines from the start, and no more than those can be taken. -/
theorem readLines_furthest (take : σ → Setting → Option σ) (ls : List (List UInt8)) (s : σ) :
    ∃ pre, pre <+: ls ∧ readLines take pre s = .ok (reached (readLines take ls s)) ∧
      ∀ pre' t, pre' <+: ls → readLines take pre' s = .ok t → pre' <+: pre := by
  induction ls generalizing s with
  | nil => exact ⟨[], List.nil_prefix, rfl, fun pre' _ h _ => h⟩
  | cons line ls ih =>
      cases hstep : step take s (readLine line) with
      | none =>
          refine ⟨[], List.nil_prefix, ?_, fun pre' t hpre hread => ?_⟩
          · rw [readLines, readLines, hstep]
            rfl
          · cases pre' with
            | nil => exact List.prefix_rfl
            | cons line' pre' =>
                obtain ⟨rfl, -⟩ := List.cons_prefix_cons.mp hpre
                rw [readLines, hstep] at hread
                cases hread
      | some s' =>
          obtain ⟨pre, hpre, hread, hmax⟩ := ih s'
          refine ⟨line :: pre, List.cons_prefix_cons.mpr ⟨rfl, hpre⟩, ?_, fun pre' t hpre' hread' => ?_⟩
          · rw [readLines, readLines, hstep]
            exact hread
          · cases pre' with
            | nil => exact List.nil_prefix
            | cons line' pre' =>
                obtain ⟨rfl, htail⟩ := List.cons_prefix_cons.mp hpre'
                rw [readLines, hstep] at hread'
                exact List.cons_prefix_cons.mpr ⟨rfl, hmax pre' t htail hread'⟩

theorem Lists.mem_of_prefix {ls ls' : List (List UInt8)} {es es' : List Setting} (h : Lists ls es) (h' : Lists ls' es')
    (hpre : ls <+: ls') : es ⊆ es' := by
  obtain ⟨rest, rfl⟩ := hpre
  intro e he
  have hmem : Reading.setting e ∈ es'.map Reading.setting := by
    rw [← lists_iff.mp h', entries_append, lists_iff.mp h]
    exact List.mem_append_left _ (List.mem_map_of_mem he)
  obtain ⟨e', he', heq⟩ := List.mem_map.mp hmem
  cases heq
  exact he'

end RS2ServerFix.Lib.Settings
