import RS2ServerFix.Lib.Scan
import RS2ServerFix.NativeLog.Framing

namespace RS2ServerFix.Control

open Lib.Scan NativeLog

def kConsoleCommandCharacters : Nat := 96
def kConsoleConfirmationCharacters : Nat := 16

inductive ConsoleCommand
  | unrelated
  | invalid
  | status
  | recover
  deriving DecidableEq, Repr

abbrev RunId := Vector UInt8 16

abbrev Confirmation := Vector UInt8 (kConsoleConfirmationCharacters + 1)

def Confirmation.characters (confirmation : Confirmation) : List UInt8 :=
  confirmation.toList.take kConsoleConfirmationCharacters

def Confirmation.terminator (confirmation : Confirmation) : UInt8 :=
  confirmation.get ⟨kConsoleConfirmationCharacters, Nat.lt_succ_self _⟩

def wide (s : String) : List UInt16 := s.toList.map fun c => c.toNat.toUInt16

def space : UInt16 := 32

def lower (c : UInt16) : UInt16 := if 65 ≤ c && c ≤ 90 then c + 32 else c

def consoleConfirmation (runId : RunId) : Confirmation :=
  ⟨(hex (runId.toList.take (kConsoleConfirmationCharacters / 2)) ++ [0]).toArray, by
    simp [hex, kConsoleConfirmationCharacters]⟩

def skipSpaces (text : List UInt16) (cursor : Nat) : Option Nat := skipWhile (fun c => c == space) text cursor

def letters (text expected : List UInt16) (cursor : Nat) : Option (Bool × Nat) :=
  expect (fun c e => lower c == e) text expected cursor

def word (text expected : List UInt16) (cursor : Nat) : Option (Bool × Nat) := do
  let cursor ← skipSpaces text cursor
  let (found, cursor) ← letters text expected cursor
  if found && cursor != text.length then
    let c ← text[cursor]?
    return (c == space, cursor)
  else return (found, cursor)

def hexCharacter (e : UInt8) : Bool := (48 ≤ e && e ≤ 57) || (97 ≤ e && e ≤ 102)

def quoted (text : List UInt16) : List UInt8 → Nat → Option (Bool × Nat)
  | [], cursor => some (true, cursor)
  | e :: expected, cursor =>
      if !hexCharacter e || cursor == text.length then some (false, cursor)
      else do
        let c ← text[cursor]?
        if c == e.toUInt16 then quoted text expected (cursor + 1) else some (false, cursor)

/-- A unit that would make the prefix the beginning of another command. -/
def foreign (text : List UInt16) (cursor : Nat) : Option Bool :=
  if cursor < text.length then do
    let c ← text[cursor]?
    return space < c && c ≤ 126
  else return false

def unprintable (c : UInt16) : Bool := c < space || 126 < c

def ending (text : List UInt16) (command : ConsoleCommand) (cursor : Nat) : Option ConsoleCommand := do
  let cursor ← skipSpaces text cursor
  return if cursor = text.length then command else .invalid

def recoverArgument (text : List UInt16) (confirmation : Confirmation) (argument : Nat) : Option ConsoleCommand := do
  let (found, cursor) ← word text (wide "recover") argument
  if !found || cursor == text.length || confirmation.terminator != 0 then return .invalid
  let cursor ← skipSpaces text cursor
  let (found, cursor) ← quoted text confirmation.characters cursor
  if !found then return .invalid
  ending text .recover cursor

/-- The argument of the command, which is tried as one word and then as the other. -/
def consoleArgument (text : List UInt16) (confirmation : Confirmation) (argument : Nat) : Option ConsoleCommand := do
  let (found, cursor) ← word text (wide "status") argument
  if found then ending text .status cursor
  else recoverArgument text confirmation argument

/-- The outcome is missing where the source would read at or past the count. -/
def parseConsoleCommand (text : List UInt16) (confirmation : Confirmation) : Option ConsoleCommand := do
  if text = [] ∨ kConsoleCommandCharacters < text.length then return .unrelated
  let cursor ← skipSpaces text 0
  let (found, cursor) ← letters text (wide "rs2leech") cursor
  if !found then return .unrelated
  -- Another command may share the prefix.
  if ← foreign text cursor then return .unrelated
  if text.any unprintable then return .invalid
  consoleArgument text confirmation cursor

def Spaces (s : List UInt16) : Prop := ∀ c ∈ s, c = space

def upper (e : UInt16) : UInt16 := if 97 ≤ e && e ≤ 122 then e - 32 else e

def Spells (expected s : List UInt16) : Prop := List.Forall₂ (fun c e => c = e ∨ c = upper e) s expected

def Spoken (expected text tail : List UInt16) : Prop :=
  ∃ spaces s, text = spaces ++ (s ++ tail) ∧ Spaces spaces ∧ Spells expected s

def Apart (tail : List UInt16) : Prop := ∀ c, tail.head? = some c → c = space

def Confirmation.Quotable (confirmation : Confirmation) : Prop :=
  (∀ e ∈ confirmation.characters, hexCharacter e = true) ∧ confirmation.terminator = 0

def StatusText (text : List UInt16) : Prop :=
  ∃ before name gap s after, text = before ++ name ++ gap ++ s ++ after ∧ Spaces before ∧ Spells (wide "rs2leech") name ∧
    Spaces gap ∧ gap ≠ [] ∧ Spells (wide "status") s ∧ Spaces after

def RecoverText (confirmation : Confirmation) (text : List UInt16) : Prop :=
  confirmation.Quotable ∧ ∃ before name gap s gap' after,
    text = before ++ name ++ gap ++ s ++ gap' ++ confirmation.characters.map UInt8.toUInt16 ++ after ∧
    Spaces before ∧ Spells (wide "rs2leech") name ∧ Spaces gap ∧ gap ≠ [] ∧ Spells (wide "recover") s ∧
    Spaces gap' ∧ gap' ≠ [] ∧ Spaces after

/-- The text does not begin with the name, or the name is the beginning of a longer one. -/
def UnrelatedText (text : List UInt16) : Prop :=
  ∀ tail, Spoken (wide "rs2leech") text tail → ∃ c, tail.head? = some c ∧ space < c ∧ c ≤ 126

def ConsoleCommand.Text (confirmation : Confirmation) : ConsoleCommand → List UInt16 → Prop
  | .recover, text => RecoverText confirmation text
  | .status, text => StatusText text
  | .unrelated, text => UnrelatedText text
  | .invalid, text => ¬RecoverText confirmation text ∧ ¬StatusText text ∧ ¬UnrelatedText text

theorem lower_eq_iff {c e : UInt16} (he : lower e = e) : lower c = e ↔ c = e ∨ c = upper e := by
  grind [lower, upper]

structure Plain (expected : List UInt16) : Prop where
  letters : ∀ e ∈ expected, lower e = e ∧ e ≠ space ∧ unprintable e = false ∧ unprintable (upper e) = false
  some_letter : expected ≠ []

theorem wide_name : wide "rs2leech" = [114, 115, 50, 108, 101, 101, 99, 104] := by simp [wide]

theorem wide_status : wide "status" = [115, 116, 97, 116, 117, 115] := by simp [wide]

theorem wide_recover : wide "recover" = [114, 101, 99, 111, 118, 101, 114] := by simp [wide]

theorem plain_name : Plain (wide "rs2leech") := by
  rw [wide_name]
  exact ⟨by simp [lower, upper, space, unprintable], List.cons_ne_nil _ _⟩

theorem plain_status : Plain (wide "status") := by
  rw [wide_status]
  exact ⟨by simp [lower, upper, space, unprintable], List.cons_ne_nil _ _⟩

theorem plain_recover : Plain (wide "recover") := by
  rw [wide_recover]
  exact ⟨by simp [lower, upper, space, unprintable], List.cons_ne_nil _ _⟩

theorem spaces_iff {s : List UInt16} : Spaces s ↔ ∀ c ∈ s, (c == space) = true := by
  simp [Spaces]

variable {text expected rest tail s : List UInt16} {cursor : Nat}

theorem spells_iff (h : ∀ e ∈ expected, lower e = e) :
    List.Forall₂ (fun c e => (lower c == e) = true) s expected ↔ Spells expected s := by
  induction expected generalizing s with
  | nil =>
      rw [Spells, List.forall₂_nil_right_iff, List.forall₂_nil_right_iff]
  | cons e expected ih =>
      cases s with
      | nil =>
          constructor <;> intro hs <;> cases hs
      | cons c s =>
          have htail := ih (s := s) fun e he => h e (List.mem_cons_of_mem _ he)
          rw [Spells] at htail ⊢
          rw [List.forall₂_cons, List.forall₂_cons, beq_iff_eq, lower_eq_iff (h e List.mem_cons_self), htail]

theorem Spells.head (hs : Spells expected s) (h : Plain expected) :
    ∃ c tail, s = c :: tail ∧ c ≠ space ∧ some (lower c) = expected.head? := by
  cases hs with
  | nil => exact absurd rfl h.some_letter
  | cons hc hs =>
      rename_i c e s expected
      obtain ⟨hlower, hspace, _, _⟩ := h.letters e List.mem_cons_self
      have hc := (lower_eq_iff hlower).mpr hc
      refine ⟨c, s, rfl, ?_, ?_⟩
      · rintro rfl
        exact hspace hc.symm
      · rw [hc, List.head?_cons]

theorem Spells.printable (hs : Spells expected s) (h : Plain expected) : ∀ c ∈ s, unprintable c = false := by
  have hletters := h.letters
  clear h
  induction hs with
  | nil => exact fun c hc => absurd hc List.not_mem_nil
  | cons hc hs ih =>
      rename_i c e s expected
      intro d hd
      obtain ⟨_, _, hplain, hupper⟩ := hletters e List.mem_cons_self
      rcases List.mem_cons.mp hd with rfl | hd
      · rcases hc with rfl | rfl
        · exact hplain
        · exact hupper
      · exact ih (fun e he => hletters e (List.mem_cons_of_mem _ he)) d hd

theorem Spaces.printable (hs : Spaces s) : ∀ c ∈ s, unprintable c = false := by
  intro c hc
  rw [hs c hc]
  decide

theorem spoken_iff (h : Plain expected) :
    Spoken expected rest tail ↔ ∃ s, rest.dropWhile (fun c => c == space) = s ++ tail ∧ Spells expected s := by
  constructor
  · rintro ⟨spaces, s, rfl, hspaces, hs⟩
    refine ⟨s, ?_, hs⟩
    obtain ⟨c, s', rfl, hc, _⟩ := hs.head h
    refine dropWhile_run (spaces_iff.mp hspaces) fun d hd => ?_
    cases hd
    exact beq_false_of_ne hc
  · rintro ⟨s, hdrop, hs⟩
    refine ⟨rest.takeWhile (fun c => c == space), s, ?_, spaces_iff.mpr (takeWhile_run _ rest), hs⟩
    rw [← hdrop, List.takeWhile_append_dropWhile]

theorem Spoken.head (h : Spoken expected rest tail) (hp : Plain expected) :
    (rest.dropWhile fun c => c == space).head?.map lower = expected.head? := by
  obtain ⟨s, hdrop, hs⟩ := (spoken_iff hp).mp h
  obtain ⟨c, s', rfl, _, hc⟩ := hs.head hp
  rw [hdrop, ← hc]
  rfl

/-- After spaces, the first letter tells the two arguments apart. -/
theorem not_both_arguments {tail' : List UInt16} (h : Spoken (wide "status") rest tail)
    (h' : Spoken (wide "recover") rest tail') : False := by
  have hhead := (h.head plain_status).symm.trans (h'.head plain_recover)
  exact absurd hhead (by decide)

theorem Spoken.gap_iff (hs : Spells expected s) (hp : Plain expected) {gap : List UInt16} (hgap : Spaces gap) :
    Apart (gap ++ (s ++ tail)) ↔ gap ≠ [] := by
  obtain ⟨c, s', rfl, hc, _⟩ := hs.head hp
  cases gap with
  | nil => exact ⟨fun h => absurd (h c rfl) hc, fun h => absurd rfl h⟩
  | cons d gap =>
      refine ⟨fun _ => List.cons_ne_nil _ _, fun _ e he => ?_⟩
      cases he
      exact hgap _ List.mem_cons_self

theorem letters_decides (h : Rest text cursor rest) (hp : Plain expected) :
    ∃ d, skipSpaces text cursor = some d ∧ Decides text (letters text expected d) (Spoken expected rest) := by
  obtain ⟨d, hskip, hd⟩ := skipWhile_rest (p := fun c => c == space) h
  refine ⟨d, hskip, (expect_decides expected hd).congr fun tail => ?_⟩
  rw [spoken_iff hp]
  exact exists_congr fun s => and_congr_right fun _ => spells_iff fun e he => (hp.letters e he).1

theorem word_decides (h : Rest text cursor rest) (hp : Plain expected) :
    Decides text (word text expected cursor) fun tail => Spoken expected rest tail ∧ Apart tail := by
  obtain ⟨d, hskip, found, e, hletters, hfound, hrest⟩ := letters_decides h hp
  rw [word, hskip, Option.bind_eq_bind, Option.bind_some, hletters, Option.bind_eq_bind, Option.bind_some]
  dsimp only
  cases found with
  | false =>
      refine ⟨false, e, rfl, ⟨fun hf => absurd hf Bool.false_ne_true, ?_⟩, fun tail htail => hrest tail htail.1⟩
      rintro ⟨tail, htail, _⟩
      exact hfound.mpr ⟨tail, htail⟩
  | true =>
      obtain ⟨tail, htail⟩ := hfound.mp rfl
      have hunique : ∀ tail', Spoken expected rest tail' → tail' = tail := by
        intro tail' htail'
        rw [← (hrest tail' htail').2, (hrest tail htail).2]
      have he := hrest tail htail
      cases tail with
      | nil =>
          have hend := he.end_iff.mpr rfl
          refine ⟨true, e, ?_, ⟨fun _ => ⟨[], htail, ?_⟩, fun _ => rfl⟩, fun tail' htail' => hrest tail' htail'.1⟩
          · simp [hend]
          · intro c hc
            cases hc
      | cons c tail =>
          have hlive : e ≠ text.length := fun hend => List.cons_ne_nil _ _ (he.end_iff.mp hend)
          refine ⟨c == space, e, ?_, ?_, fun tail' htail' => hrest tail' htail'.1⟩
          · simp [hlive, he.read]
          · rw [beq_iff_eq]
            constructor
            · rintro rfl
              refine ⟨_, htail, fun d hd => ?_⟩
              cases hd
              rfl
            · rintro ⟨tail', htail', hapart⟩
              rw [hunique tail' htail'] at hapart
              exact hapart c rfl

theorem quoted_eq (expected : List UInt8) (h : Rest text cursor rest) :
    quoted text expected cursor = expect (fun c e => hexCharacter e && c == e.toUInt16) text expected cursor := by
  induction expected generalizing cursor rest with
  | nil => rfl
  | cons e expected ih =>
      rw [quoted, expect]
      cases rest with
      | nil =>
          have hend := h.end_iff.mpr rfl
          rw [if_pos hend, if_pos]
          rw [beq_iff_eq.mpr hend, Bool.or_true]
      | cons c rest =>
          have hlive : ¬cursor = text.length := fun hend => List.cons_ne_nil _ _ (h.end_iff.mp hend)
          rw [if_neg hlive, beq_false_of_ne hlive, Bool.or_false, h.read, List.head?_cons, Option.bind_eq_bind,
            Option.bind_some, Option.bind_some]
          cases hexCharacter e with
          | false => rfl
          | true =>
              rw [ih h.next]
              rfl

theorem quotes_iff {expected : List UInt8} :
    List.Forall₂ (fun c e => (hexCharacter e && c == e.toUInt16) = true) s expected ↔
      (∀ e ∈ expected, hexCharacter e = true) ∧ s = expected.map UInt8.toUInt16 := by
  constructor
  · intro hs
    induction hs with
    | nil => exact ⟨fun e he => absurd he List.not_mem_nil, rfl⟩
    | cons hc _ ih =>
        obtain ⟨he, hc⟩ := Bool.and_eq_true_iff.mp hc
        exact ⟨List.forall_mem_cons.mpr ⟨he, ih.1⟩, by rw [List.map_cons, ← ih.2, eq_of_beq hc]⟩
  · rintro ⟨hhex, rfl⟩
    rw [List.forall₂_map_left_iff, List.forall₂_same]
    intro e he
    rw [hhex e he, beq_self_eq_true]
    rfl

theorem quoted_decides (expected : List UInt8) (h : Rest text cursor rest) :
    Decides text (quoted text expected cursor) fun tail =>
      (∀ e ∈ expected, hexCharacter e = true) ∧ rest = expected.map UInt8.toUInt16 ++ tail := by
  rw [quoted_eq expected h]
  refine (expect_decides expected h).congr fun tail => ?_
  constructor
  · rintro ⟨s, rfl, hs⟩
    obtain ⟨hhex, rfl⟩ := quotes_iff.mp hs
    exact ⟨hhex, rfl⟩
  · rintro ⟨hhex, rfl⟩
    exact ⟨_, rfl, quotes_iff.mpr ⟨hhex, rfl⟩⟩

theorem foreign_rest (h : Rest text cursor rest) :
    foreign text cursor = some (rest.head?.any fun c => space < c && c ≤ 126) := by
  rw [foreign]
  cases rest with
  | nil =>
      rw [if_neg fun hlt => h.lt_iff.mp hlt rfl]
      rfl
  | cons c rest =>
      rw [if_pos (h.lt_iff.mpr (List.cons_ne_nil _ _)), h.read]
      rfl

theorem ending_rest (h : Rest text cursor rest) (command : ConsoleCommand) :
    ∃ r, ending text command cursor = some r ∧ (Spaces rest ∧ r = command ∨ ¬Spaces rest ∧ r = .invalid) := by
  obtain ⟨d, hskip, hd⟩ := skipWhile_rest (p := fun c => c == space) h
  have hspaces : rest.dropWhile (fun c => c == space) = [] ↔ Spaces rest := by
    rw [List.dropWhile_eq_nil_iff, spaces_iff]
  refine ⟨if d = text.length then command else .invalid, ?_, ?_⟩
  · rw [ending, skipSpaces, hskip]
    rfl
  · by_cases hrest : Spaces rest
    · exact .inl ⟨hrest, if_pos (hd.end_iff.mpr (hspaces.mpr hrest))⟩
    · exact .inr ⟨hrest, if_neg fun hend => hrest (hspaces.mp (hd.end_iff.mp hend))⟩

variable {confirmation : Confirmation}

theorem statusText_iff : StatusText text ↔
    ∃ tail after, Spoken (wide "rs2leech") text tail ∧ Apart tail ∧ Spoken (wide "status") tail after ∧ Spaces after := by
  constructor
  · rintro ⟨before, name, gap, s, after, rfl, hbefore, hname, hgap, hne, hs, hafter⟩
    refine ⟨gap ++ (s ++ after), after, ⟨before, name, ?_, hbefore, hname⟩, ?_, ⟨gap, s, rfl, hgap, hs⟩, hafter⟩
    · simp only [List.append_assoc]
    · exact (Spoken.gap_iff hs plain_status hgap).mpr hne
  · rintro ⟨tail, after, ⟨before, name, rfl, hbefore, hname⟩, hapart, ⟨gap, s, rfl, hgap, hs⟩, hafter⟩
    refine ⟨before, name, gap, s, after, ?_, hbefore, hname, hgap, ?_, hs, hafter⟩
    · simp only [List.append_assoc]
    · exact (Spoken.gap_iff hs plain_status hgap).mp hapart

def Quoting (confirmation : Confirmation) (rest : List UInt16) : Prop :=
  ∃ gap after, rest = gap ++ (confirmation.characters.map UInt8.toUInt16 ++ after) ∧ Spaces gap ∧ gap ≠ [] ∧ Spaces after

theorem recoverText_iff : RecoverText confirmation text ↔
    ∃ tail rest, Spoken (wide "rs2leech") text tail ∧ Apart tail ∧ Spoken (wide "recover") tail rest ∧
      confirmation.Quotable ∧ Quoting confirmation rest := by
  constructor
  · rintro ⟨hquotable, before, name, gap, s, gap', after, rfl, hbefore, hname, hgap, hne, hs, hgap', hne', hafter⟩
    refine ⟨_, _, ⟨before, name, ?_, hbefore, hname⟩, (Spoken.gap_iff hs plain_recover hgap).mpr hne,
      ⟨gap, s, rfl, hgap, hs⟩, hquotable, ⟨gap', after, rfl, hgap', hne', hafter⟩⟩
    simp only [List.append_assoc]
  · rintro ⟨tail, rest, ⟨before, name, rfl, hbefore, hname⟩, hapart, ⟨gap, s, rfl, hgap, hs⟩, hquotable,
      ⟨gap', after, rfl, hgap', hne', hafter⟩⟩
    refine ⟨hquotable, before, name, gap, s, gap', after, ?_, hbefore, hname, hgap, ?_, hs, hgap', hne', hafter⟩
    · simp only [List.append_assoc]
    · exact (Spoken.gap_iff hs plain_recover hgap).mp hapart

theorem hexCharacter_printable {e : UInt8} (he : hexCharacter e = true) :
    unprintable e.toUInt16 = false ∧ e.toUInt16 ≠ space := by
  simp only [hexCharacter, Bool.or_eq_true, Bool.and_eq_true, decide_eq_true_eq, UInt8.le_iff_toNat_le,
    UInt8.reduceToNat] at he
  simp only [unprintable, space, Bool.or_eq_false_iff, decide_eq_false_iff_not, UInt16.lt_iff_toNat_lt, ne_eq,
    ← UInt16.toNat_inj, UInt8.toNat_toUInt16, UInt16.reduceToNat]
  omega

theorem Confirmation.Quotable.printable (h : confirmation.Quotable) :
    ∀ c ∈ confirmation.characters.map UInt8.toUInt16, unprintable c = false ∧ c ≠ space := by
  intro c hc
  obtain ⟨e, he, rfl⟩ := List.mem_map.mp hc
  exact hexCharacter_printable (h.1 e he)

theorem Confirmation.characters_ne_nil (confirmation : Confirmation) : confirmation.characters ≠ [] := by
  have hlength : confirmation.characters.length = kConsoleConfirmationCharacters := by
    simp [characters]
  intro h
  rw [h] at hlength
  exact absurd hlength (by decide)

theorem quoting_iff (h : confirmation.Quotable) :
    Quoting confirmation rest ↔ rest ≠ [] ∧ Apart rest ∧ ∃ after,
      rest.dropWhile (fun c => c == space) = confirmation.characters.map UInt8.toUInt16 ++ after ∧ Spaces after := by
  constructor
  · rintro ⟨gap, after, rfl, hgap, hne, hafter⟩
    obtain ⟨c, gap, rfl⟩ := List.exists_cons_of_ne_nil hne
    have hcharacters : confirmation.characters.map UInt8.toUInt16 ≠ [] :=
      fun hnil => confirmation.characters_ne_nil (List.map_eq_nil_iff.mp hnil)
    refine ⟨List.cons_ne_nil _ _, fun d hd => ?_, after, ?_, hafter⟩
    · cases hd
      exact hgap _ List.mem_cons_self
    · refine dropWhile_run (spaces_iff.mp hgap) fun d hd => beq_false_of_ne ?_
      refine (h.printable d ?_).2
      rw [List.head?_append_of_ne_nil _ hcharacters] at hd
      exact List.mem_of_mem_head? hd
  · rintro ⟨hne, hapart, after, hdrop, hafter⟩
    refine ⟨rest.takeWhile (fun c => c == space), after, ?_, spaces_iff.mpr (takeWhile_run _ rest), ?_, hafter⟩
    · rw [← hdrop, List.takeWhile_append_dropWhile]
    · obtain ⟨c, rest, rfl⟩ := List.exists_cons_of_ne_nil hne
      rw [List.takeWhile_cons, if_pos (beq_iff_eq.mpr (hapart c rfl))]
      exact List.cons_ne_nil _ _

def RecoverArgument (confirmation : Confirmation) (rest : List UInt16) : Prop :=
  ∃ tail, Spoken (wide "recover") rest tail ∧ confirmation.Quotable ∧ Quoting confirmation tail

theorem recoverArgument_rest (confirmation : Confirmation) (h : Rest text cursor rest) :
    ∃ r, recoverArgument text confirmation cursor = some r ∧
    (RecoverArgument confirmation rest ∧ r = .recover ∨ ¬RecoverArgument confirmation rest ∧ r = .invalid) := by
  have hword := word_decides h plain_recover
  obtain ⟨found, d, hread, hfound, hrest⟩ := hword
  rw [recoverArgument, hread, Option.bind_eq_bind, Option.bind_some]
  dsimp only
  by_cases hgo : found = true ∧ d ≠ text.length ∧ confirmation.terminator = 0
  · obtain ⟨rfl, hlive, hterminator⟩ := hgo
    obtain ⟨tail, hspoken, hapart⟩ := hfound.mp rfl
    have htail := hrest tail ⟨hspoken, hapart⟩
    have hne : tail ≠ [] := fun hnil => hlive (htail.end_iff.mpr hnil)
    have hiff : RecoverArgument confirmation rest ↔ (∀ e ∈ confirmation.characters, hexCharacter e = true) ∧
        ∃ after, tail.dropWhile (fun c => c == space) = confirmation.characters.map UInt8.toUInt16 ++ after ∧
          Spaces after := by
      constructor
      · rintro ⟨tail', hspoken', hquotable, hquoting⟩
        obtain ⟨_, hapart', hafter⟩ := (quoting_iff hquotable).mp hquoting
        obtain rfl := word_decides h plain_recover |>.unique ⟨hspoken, hapart⟩ ⟨hspoken', hapart'⟩
        exact ⟨hquotable.1, hafter⟩
      · rintro ⟨hhex, hafter⟩
        have hquotable : confirmation.Quotable := ⟨hhex, hterminator⟩
        exact ⟨tail, hspoken, hquotable, (quoting_iff hquotable).mpr ⟨hne, hapart, hafter⟩⟩
    obtain ⟨e, hskip, he⟩ := skipWhile_rest (p := fun c => c == space) htail
    obtain ⟨found, f, hquoted, hmatch, hafter⟩ := quoted_decides confirmation.characters he
    have hgo : (!true || d == text.length || confirmation.terminator != 0) = false := by
      simp [hlive, hterminator]
    simp only [hgo, Bool.false_eq_true, if_false, skipSpaces, hskip, hquoted, Option.bind_eq_bind, Option.bind_some,
      hiff]
    cases found with
    | false =>
        refine ⟨.invalid, rfl, .inr ⟨?_, rfl⟩⟩
        rintro ⟨hhex, after, hdrop, _⟩
        exact absurd (hmatch.mpr ⟨after, hhex, hdrop⟩) Bool.false_ne_true
    | true =>
        obtain ⟨after, hhex, hdrop⟩ := hmatch.mp rfl
        obtain ⟨r, hending, hr⟩ := ending_rest (hafter after ⟨hhex, hdrop⟩) .recover
        refine ⟨r, hending, ?_⟩
        have hspaces : (∃ after, tail.dropWhile (fun c => c == space) =
            confirmation.characters.map UInt8.toUInt16 ++ after ∧ Spaces after) ↔ Spaces after := by
          constructor
          · rintro ⟨after', hdrop', hspaces⟩
            rwa [List.append_cancel_left (hdrop.symm.trans hdrop')]
          · exact fun hspaces => ⟨after, hdrop, hspaces⟩
        rw [hspaces]
        rcases hr with ⟨hspaces, hr⟩ | ⟨hspaces, hr⟩
        · exact .inl ⟨⟨hhex, hspaces⟩, hr⟩
        · exact .inr ⟨fun hboth => hspaces hboth.2, hr⟩
  · have hrefused : (!found || d == text.length || confirmation.terminator != 0) = true := by
      by_contra hnot
      simp only [Bool.or_eq_true, Bool.not_eq_true', beq_iff_eq, bne_iff_ne, not_or, Bool.not_eq_false,
        not_not] at hnot
      exact hgo ⟨hnot.1.1, hnot.1.2, hnot.2⟩
    rw [hrefused, if_pos rfl]
    refine ⟨.invalid, rfl, .inr ⟨?_, rfl⟩⟩
    rintro ⟨tail, hspoken, hquotable, hquoting⟩
    obtain ⟨hne, hapart, _⟩ := (quoting_iff hquotable).mp hquoting
    have htail := hrest tail ⟨hspoken, hapart⟩
    exact hgo ⟨hfound.mpr ⟨tail, hspoken, hapart⟩, fun hend => hne (htail.end_iff.mp hend), hquotable.2⟩

theorem Spaces.apart (h : Spaces s) : Apart s := fun c hc => h c (List.mem_of_mem_head? hc)

def StatusArgument (rest : List UInt16) : Prop := ∃ after, Spoken (wide "status") rest after ∧ Spaces after

theorem consoleArgument_rest (confirmation : Confirmation) (h : Rest text cursor rest) :
    ∃ r, consoleArgument text confirmation cursor = some r ∧
    (StatusArgument rest ∧ r = .status ∨ RecoverArgument confirmation rest ∧ r = .recover ∨
      ¬StatusArgument rest ∧ ¬RecoverArgument confirmation rest ∧ r = .invalid) := by
  obtain ⟨found, d, hread, hfound, hrest⟩ := word_decides h plain_status
  rw [consoleArgument, hread, Option.bind_eq_bind, Option.bind_some]
  dsimp only
  cases found with
  | false =>
      have hstatus : ¬StatusArgument rest := by
        rintro ⟨after, hspoken, hspaces⟩
        exact absurd (hfound.mpr ⟨after, hspoken, hspaces.apart⟩) Bool.false_ne_true
      obtain ⟨r, hr, hcase⟩ := recoverArgument_rest confirmation h
      refine ⟨r, hr, .inr ?_⟩
      rcases hcase with ⟨hrecover, hr⟩ | ⟨hrecover, hr⟩
      · exact .inl ⟨hrecover, hr⟩
      · exact .inr ⟨hstatus, hrecover, hr⟩
  | true =>
      obtain ⟨after, hspoken, hapart⟩ := hfound.mp rfl
      obtain ⟨r, hr, hcase⟩ := ending_rest (hrest after ⟨hspoken, hapart⟩) .status
      refine ⟨r, hr, ?_⟩
      rcases hcase with ⟨hspaces, hr⟩ | ⟨hspaces, hr⟩
      · exact .inl ⟨⟨after, hspoken, hspaces⟩, hr⟩
      · refine .inr (.inr ⟨?_, ?_, hr⟩)
        · rintro ⟨after', hspoken', hspaces'⟩
          obtain rfl := (word_decides h plain_status).unique ⟨hspoken, hapart⟩ ⟨hspoken', hspaces'.apart⟩
          exact hspaces hspaces'
        · rintro ⟨tail, hrecover, _, _⟩
          exact not_both_arguments hspoken hrecover

theorem statusText_argument :
    StatusText text ↔ ∃ tail, Spoken (wide "rs2leech") text tail ∧ Apart tail ∧ StatusArgument tail := by
  rw [statusText_iff]
  constructor
  · rintro ⟨tail, after, hname, hapart, hargument⟩
    exact ⟨tail, hname, hapart, after, hargument⟩
  · rintro ⟨tail, hname, hapart, after, hargument⟩
    exact ⟨tail, after, hname, hapart, hargument⟩

theorem recoverText_argument : RecoverText confirmation text ↔
    ∃ tail, Spoken (wide "rs2leech") text tail ∧ Apart tail ∧ RecoverArgument confirmation tail := by
  rw [recoverText_iff]
  constructor
  · rintro ⟨tail, rest, hname, hapart, hargument⟩
    exact ⟨tail, hname, hapart, rest, hargument⟩
  · rintro ⟨tail, hname, hapart, rest, hargument⟩
    exact ⟨tail, rest, hname, hapart, hargument⟩

theorem StatusText.printable (h : StatusText text) : ∀ c ∈ text, unprintable c = false := by
  obtain ⟨before, name, gap, s, after, rfl, hbefore, hname, hgap, _, hs, hafter⟩ := h
  intro c hc
  simp only [List.mem_append] at hc
  rcases hc with (((hc | hc) | hc) | hc) | hc
  · exact hbefore.printable c hc
  · exact hname.printable plain_name c hc
  · exact hgap.printable c hc
  · exact hs.printable plain_status c hc
  · exact hafter.printable c hc

theorem RecoverText.printable (h : RecoverText confirmation text) : ∀ c ∈ text, unprintable c = false := by
  obtain ⟨hquotable, before, name, gap, s, gap', after, rfl, hbefore, hname, hgap, _, hs, hgap', _, hafter⟩ := h
  intro c hc
  simp only [List.mem_append] at hc
  rcases hc with (((((hc | hc) | hc) | hc) | hc) | hc) | hc
  · exact hbefore.printable c hc
  · exact hname.printable plain_name c hc
  · exact hgap.printable c hc
  · exact hs.printable plain_recover c hc
  · exact hgap'.printable c hc
  · exact (hquotable.printable c hc).1
  · exact hafter.printable c hc

theorem apart_of_printable (hprintable : ∀ c ∈ rest, unprintable c = false)
    (hforeign : (rest.head?.any fun c => space < c && c ≤ 126) = false) : Apart rest := by
  intro c hc
  rw [hc, Option.any_some] at hforeign
  have hc := hprintable c (List.mem_of_mem_head? hc)
  grind [unprintable, space]

theorem parseConsoleCommand_text (confirmation : Confirmation) (hlimit : text.length ≤ kConsoleCommandCharacters) :
    ∃ r, parseConsoleCommand text confirmation = some r ∧ r.Text confirmation text := by
  rw [parseConsoleCommand]
  by_cases hnil : text = []
  · subst hnil
    refine ⟨.unrelated, rfl, ?_⟩
    rintro tail ⟨spaces, s, hs, _, hname⟩
    obtain ⟨c, s, rfl, _, _⟩ := hname.head plain_name
    simp at hs
  · have hsize : ¬(text = [] ∨ kConsoleCommandCharacters < text.length) := by
      rintro (h | h)
      · exact hnil h
      · omega
    rw [if_neg hsize]
    obtain ⟨d, hskip, found, e, hletters, hfound, hrest⟩ := letters_decides (Rest.start text) plain_name
    simp only [hskip, hletters, Option.bind_eq_bind, Option.bind_some]
    cases found with
    | false =>
        refine ⟨.unrelated, rfl, fun tail htail => ?_⟩
        exact absurd (hfound.mpr ⟨tail, htail⟩) Bool.false_ne_true
    | true =>
        obtain ⟨tail, hname⟩ := hfound.mp rfl
        have he := hrest tail hname
        have hunique : ∀ tail', Spoken (wide "rs2leech") text tail' → tail' = tail := by
          intro tail' htail'
          rw [← (hrest tail' htail').2, he.2]
        simp only [Bool.not_true, Bool.false_eq_true, if_false, foreign_rest he, Option.bind_some]
        cases hforeign : tail.head?.any fun c => space < c && c ≤ 126 with
        | true =>
            refine ⟨.unrelated, rfl, fun tail' htail' => ?_⟩
            rw [hunique tail' htail']
            obtain ⟨c, hc, hprintable⟩ := (Option.any_eq_true _ _).mp hforeign
            exact ⟨c, hc, by simpa using hprintable⟩
        | false =>
            have hrelated : ¬UnrelatedText text := by
              intro hunrelated
              obtain ⟨c, hc, hprintable⟩ := hunrelated tail hname
              rw [hc, Option.any_some] at hforeign
              simp [hprintable] at hforeign
            simp only [Bool.false_eq_true, if_false]
            cases hall : text.any unprintable with
            | true =>
                obtain ⟨c, hc, hbad⟩ := List.any_eq_true.mp hall
                refine ⟨.invalid, rfl, fun h => ?_, fun h => ?_, hrelated⟩
                · exact absurd ((h.printable c hc).symm.trans hbad) Bool.false_ne_true
                · exact absurd ((h.printable c hc).symm.trans hbad) Bool.false_ne_true
            | false =>
                have hapart : Apart tail := by
                  refine apart_of_printable (fun c hc => ?_) hforeign
                  exact Bool.eq_false_iff.mpr fun hbad =>
                    Bool.eq_false_iff.mp hall (List.any_eq_true.mpr ⟨c, he.mem hc, hbad⟩)
                have hstatus : StatusText text ↔ StatusArgument tail := by
                  rw [statusText_argument]
                  constructor
                  · rintro ⟨tail', hname', _, h⟩
                    exact hunique tail' hname' ▸ h
                  · exact fun h => ⟨tail, hname, hapart, h⟩
                have hrecover : RecoverText confirmation text ↔ RecoverArgument confirmation tail := by
                  rw [recoverText_argument]
                  constructor
                  · rintro ⟨tail', hname', _, h⟩
                    exact hunique tail' hname' ▸ h
                  · exact fun h => ⟨tail, hname, hapart, h⟩
                obtain ⟨r, hr, hcase⟩ := consoleArgument_rest confirmation he
                refine ⟨r, hr, ?_⟩
                rcases hcase with ⟨h, rfl⟩ | ⟨h, rfl⟩ | ⟨hno, hno', rfl⟩
                · exact hstatus.mpr h
                · exact hrecover.mpr h
                · exact ⟨fun h => hno' (hrecover.mp h), fun h => hno (hstatus.mp h), hrelated⟩

/-- A text has the form of one command only. -/
theorem ConsoleCommand.text_unique {r r' : ConsoleCommand} (h : r.Text confirmation text)
    (h' : r'.Text confirmation text) : r = r' := by
  have hstatus : StatusText text → ¬UnrelatedText text := by
    intro hs hu
    obtain ⟨tail, hname, hapart, _⟩ := statusText_argument.mp hs
    obtain ⟨c, hc, hprintable, _⟩ := hu tail hname
    exact absurd hprintable (hapart c hc ▸ UInt16.lt_irrefl _)
  have hrecover : RecoverText confirmation text → ¬UnrelatedText text := by
    intro hs hu
    obtain ⟨tail, hname, hapart, _⟩ := recoverText_argument.mp hs
    obtain ⟨c, hc, hprintable, _⟩ := hu tail hname
    exact absurd hprintable (hapart c hc ▸ UInt16.lt_irrefl _)
  have hboth : StatusText text → ¬RecoverText confirmation text := by
    intro hs hr
    obtain ⟨tail, hname, _, after, hargument, _⟩ := statusText_argument.mp hs
    obtain ⟨tail', hname', _, rest, hargument', _⟩ := recoverText_argument.mp hr
    obtain ⟨d, _, hdecides⟩ := letters_decides (Rest.start text) plain_name
    obtain rfl := hdecides.unique hname hname'
    exact not_both_arguments hargument hargument'
  cases r <;> cases r' <;> simp only [Text] at h h' <;> tauto

theorem hex_length (bytes : List UInt8) : (hex bytes).length = 2 * bytes.length := by
  simp [hex, mul_comm]

theorem halfId_length (runId : RunId) :
    (hex (runId.toList.take (kConsoleConfirmationCharacters / 2))).length = kConsoleConfirmationCharacters := by
  simp [hex_length, kConsoleConfirmationCharacters]

theorem consoleConfirmation_toList (runId : RunId) : (consoleConfirmation runId).toList =
    hex (runId.toList.take (kConsoleConfirmationCharacters / 2)) ++ [0] := rfl

theorem consoleConfirmation_characters (runId : RunId) :
    (consoleConfirmation runId).characters = hex (runId.toList.take (kConsoleConfirmationCharacters / 2)) := by
  rw [Confirmation.characters, consoleConfirmation_toList]
  exact List.take_left' (halfId_length runId)

theorem consoleConfirmation_terminator (runId : RunId) : (consoleConfirmation runId).terminator = 0 := by
  have hlast : (consoleConfirmation runId).toList[kConsoleConfirmationCharacters]? = some 0 := by
    rw [consoleConfirmation_toList, List.getElem?_append_right (halfId_length runId).le, halfId_length, Nat.sub_self]
    rfl
  rw [Vector.getElem?_toList, Vector.getElem?_eq_getElem (Nat.lt_succ_self _)] at hlast
  exact Option.some.inj hlast

theorem high_toNat (v : UInt8) : (v >>> 4).toNat = v.toNat / 16 := by
  rw [UInt8.toNat_shiftRight]
  exact Nat.shiftRight_eq_div_pow v.toNat 4

theorem low_toNat (v : UInt8) : (v &&& 15).toNat = v.toNat % 16 := by
  rw [UInt8.toNat_and]
  exact Nat.and_two_pow_sub_one_eq_mod v.toNat 4

theorem nibbles_lt (v : UInt8) : v >>> 4 < 16 ∧ v &&& 15 < 16 := by
  have hv := v.toNat_lt
  rw [UInt8.lt_iff_toNat_lt, UInt8.lt_iff_toNat_lt, high_toNat, low_toNat]
  exact ⟨Nat.div_lt_of_lt_mul hv, Nat.mod_lt _ (by decide)⟩

theorem hexDigit_hexCharacter {v : UInt8} (h : v < 16) : hexCharacter (hexDigit v) = true := by
  grind [hexCharacter, hexDigit]

theorem hexDigit_inj {v w : UInt8} (hv : v < 16) (hw : w < 16) (h : hexDigit v = hexDigit w) : v = w := by
  grind [hexDigit]

theorem hex_inj {bytes bytes' : List UInt8} (h : hex bytes = hex bytes') : bytes = bytes' := by
  induction bytes generalizing bytes' with
  | nil =>
      cases bytes' with
      | nil => rfl
      | cons w bytes' => cases h
  | cons v bytes ih =>
      cases bytes' with
      | nil => cases h
      | cons w bytes' =>
          rw [hex, List.flatMap_cons, hex, List.flatMap_cons] at h
          obtain ⟨hhigh, h⟩ := List.cons.inj h
          obtain ⟨hlow, h⟩ := List.cons.inj h
          have hhigh := congrArg UInt8.toNat (hexDigit_inj (nibbles_lt v).1 (nibbles_lt w).1 hhigh)
          have hlow := congrArg UInt8.toNat (hexDigit_inj (nibbles_lt v).2 (nibbles_lt w).2 hlow)
          rw [high_toNat, high_toNat] at hhigh
          rw [low_toNat, low_toNat] at hlow
          have hv : v = w := UInt8.toNat_inj.mp (by omega)
          rw [hv, ih h]

theorem consoleConfirmation_quotable (runId : RunId) : (consoleConfirmation runId).Quotable := by
  refine ⟨?_, consoleConfirmation_terminator runId⟩
  rw [consoleConfirmation_characters]
  intro e he
  obtain ⟨v, _, he⟩ := List.mem_flatMap.mp he
  rcases List.mem_pair.mp he with rfl | rfl
  · exact hexDigit_hexCharacter (nibbles_lt v).1
  · exact hexDigit_hexCharacter (nibbles_lt v).2

theorem RecoverText.characters_unique {confirmation' : Confirmation} (h : RecoverText confirmation text)
    (h' : RecoverText confirmation' text) : confirmation.characters = confirmation'.characters := by
  obtain ⟨tail, hname, _, rest, hrecover, hquotable, hquoting⟩ := recoverText_argument.mp h
  obtain ⟨tail', hname', _, rest', hrecover', hquotable', hquoting'⟩ := recoverText_argument.mp h'
  obtain ⟨d, _, hdecides⟩ := letters_decides (Rest.start text) plain_name
  obtain rfl := hdecides.unique hname hname'
  obtain ⟨d, _, hdecides⟩ := letters_decides (Rest.start tail) plain_recover
  obtain rfl := hdecides.unique hrecover hrecover'
  obtain ⟨_, _, after, hdrop, _⟩ := (quoting_iff hquotable).mp hquoting
  obtain ⟨_, _, after', hdrop', _⟩ := (quoting_iff hquotable').mp hquoting'
  have hlength : (confirmation.characters.map UInt8.toUInt16).length =
      (confirmation'.characters.map UInt8.toUInt16).length := by
    simp [Confirmation.characters]
  have heq := (List.append_inj (hdrop.symm.trans hdrop') hlength).1
  exact List.map_injective_iff.mpr (fun _ _ => UInt8.toUInt16_inj.mp) heq

theorem RecoverText.quotes (h : RecoverText confirmation text) {confirmation' : Confirmation}
    (hcharacters : confirmation.characters = confirmation'.characters) (hquotable : confirmation'.Quotable) :
    RecoverText confirmation' text := by
  obtain ⟨_, before, name, gap, s, gap', after, htext, hrest⟩ := h
  rw [hcharacters] at htext
  exact ⟨hquotable, before, name, gap, s, gap', after, htext, hrest⟩

/-- The first half of a run id, which is what its confirmation shows. -/
def RunId.half (runId : RunId) : List UInt8 := runId.toList.take (kConsoleConfirmationCharacters / 2)

theorem parseConsoleCommand_iff (hlimit : text.length ≤ kConsoleCommandCharacters) (r : ConsoleCommand) :
    parseConsoleCommand text confirmation = some r ↔ r.Text confirmation text := by
  obtain ⟨s, hs, htext⟩ := parseConsoleCommand_text confirmation hlimit
  rw [hs, Option.some_inj]
  constructor
  · rintro rfl
    exact htext
  · exact fun h => ConsoleCommand.text_unique htext h

/-- A text within the limit is a command exactly when it has its form, and no
reading of it passes its end. The command that quotes the confirmation of a run is
accepted for that half of the run id only. -/
theorem console_command_grammar (text : List UInt16) (confirmation : Confirmation)
    (hlimit : text.length ≤ kConsoleCommandCharacters) :
    (∃ r, parseConsoleCommand text confirmation = some r) ∧
    (∀ r, parseConsoleCommand text confirmation = some r ↔ r.Text confirmation text) ∧
    (∀ c ∈ text, unprintable c = true → parseConsoleCommand text confirmation ≠ some .recover ∧
      parseConsoleCommand text confirmation ≠ some .status) ∧
    ∀ runId other : RunId, (consoleConfirmation runId).Quotable ∧
      (RecoverText (consoleConfirmation runId) text →
        (parseConsoleCommand text (consoleConfirmation other) = some .recover ↔ other.half = runId.half)) := by
  refine ⟨?_, parseConsoleCommand_iff hlimit, fun c hc hbad => ⟨fun h => ?_, fun h => ?_⟩, ?_⟩
  · obtain ⟨r, hr, _⟩ := parseConsoleCommand_text confirmation hlimit
    exact ⟨r, hr⟩
  · have htext : RecoverText confirmation text := (parseConsoleCommand_iff hlimit .recover).mp h
    exact absurd ((htext.printable c hc).symm.trans hbad) Bool.false_ne_true
  · have htext : StatusText text := (parseConsoleCommand_iff hlimit .status).mp h
    exact absurd ((htext.printable c hc).symm.trans hbad) Bool.false_ne_true
  · refine fun runId other => ⟨consoleConfirmation_quotable runId, fun hquoted => ?_⟩
    rw [parseConsoleCommand_iff hlimit]
    constructor
    · intro h
      have hsame := RecoverText.characters_unique h hquoted
      rw [consoleConfirmation_characters, consoleConfirmation_characters] at hsame
      exact hex_inj hsame
    · intro h
      refine hquoted.quotes ?_ (consoleConfirmation_quotable other)
      rw [consoleConfirmation_characters, consoleConfirmation_characters]
      exact congrArg hex h.symm

theorem spells_self (expected : List UInt16) : Spells expected expected :=
  List.forall₂_same.mpr fun _ _ => .inl rfl

theorem sample_quotes : RecoverText (consoleConfirmation (Vector.replicate 16 26))
    (wide " rs2leech recover  1a1a1a1a1a1a1a1a") := by
  refine ⟨consoleConfirmation_quotable _, [space], wide "rs2leech", [space], wide "recover", [space, space], [],
    by decide +kernel, ?_, spells_self _, ?_, List.cons_ne_nil _ _, spells_self _, ?_, List.cons_ne_nil _ _, ?_⟩
  all_goals simp [Spaces]

theorem console_command_grammar_sample :
    parseConsoleCommand (wide " rs2leech recover  1a1a1a1a1a1a1a1a") (consoleConfirmation (Vector.replicate 16 26)) =
      some .recover :=
  (((console_command_grammar _ (consoleConfirmation (Vector.replicate 16 26)) (by decide)).2.2.2
    (Vector.replicate 16 26) (Vector.replicate 16 26)).2 sample_quotes).mpr rfl

end RS2ServerFix.Control
