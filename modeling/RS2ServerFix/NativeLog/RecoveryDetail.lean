import Mathlib.Data.Set.Card
import RS2ServerFix.NativeLog.SubmissionOrder

namespace RS2ServerFix.NativeLog

open Reporting Lib

variable {config : ConfigV3} {rs : List ReportRecordV3} {a e r : ReportRecordV3} {s : RecoveryDetailState} {i j k n q : Nat}

def Entered (r : ReportRecordV3) : Prop := RecordKindV3.ofCode r.header.kind = some .builderEnter

def Closes (e r : ReportRecordV3) : Prop :=
  (RecordKindV3.ofCode r.header.kind = some .builderReturn ∨ RecordKindV3.ofCode r.header.kind = some .builderUnwind) ∧
    e.payload.builder.buildSequence = r.payload.builder.buildSequence ∧ e.header.sourceEpoch = r.header.sourceEpoch ∧
    e.header.bindingEpoch = r.header.bindingEpoch

def Requests (r : ReportRecordV3) : Prop :=
  RecordKindV3.ofCode r.header.kind = some .recovery ∧ r.payload.recovery.phase = recoveryPhaseRequested

def Terminates (r : ReportRecordV3) : Prop :=
  RecordKindV3.ofCode r.header.kind = some .recovery ∧ r.payload.recovery.flagged RecoveryFlags.terminal = true

/-- Before record `n`, the entry at `i` has neither been closed nor followed by another. -/
def Open (rs : List ReportRecordV3) (e : ReportRecordV3) (i n : Nat) : Prop :=
  rs[i]? = some e ∧ Entered e ∧ i < n ∧ ∀ k r, i < k → k < n → rs[k]? = some r → ¬Entered r ∧ ¬Closes e r

def Pair (rs : List ReportRecordV3) (i j : Nat) : Prop := ∃ e r, Open rs e i j ∧ rs[j]? = some r ∧ Closes e r

/-- The last request before record `n` is the one at `q`. -/
def Attempt (rs : List ReportRecordV3) (a : ReportRecordV3) (q n : Nat) : Prop :=
  rs[q]? = some a ∧ Requests a ∧ q < n ∧ ∀ k r, q < k → k < n → rs[k]? = some r → ¬Requests r

def Terminated (rs : List ReportRecordV3) (q n : Nat) : Prop := ∃ t r, q ≤ t ∧ t < n ∧ rs[t]? = some r ∧ Terminates r

/-- The entry comes after the terminal record of the attempt or not before its deadline, if it has one. -/
def Late (rs : List ReportRecordV3) (a : ReportRecordV3) (q i : Nat) : Prop :=
  Terminated rs q i ∨ a.payload.recovery.overallDeadlineQpc ≠ 0 ∧
    ∃ e, rs[i]? = some e ∧ a.payload.recovery.overallDeadlineQpc ≤ e.header.qpc

/-- The late entries of the attempt whose pairs are complete before record `n`. -/
def finished (rs : List ReportRecordV3) (a : ReportRecordV3) (q n : Nat) : Set Nat :=
  {i | q < i ∧ Late rs a q i ∧ ∃ j, j < n ∧ Pair rs i j}

theorem recoveryDetail_recovery (hmode : config.diagnostics = .operational)
    (h : RecordKindV3.ofCode r.header.kind = some .recovery) :
    (recoveryDetail config s r).1 = true ∧
    (Requests r → (recoveryDetail config s r).2 =
      { s with
        recoveryDetail := true, terminalDetailSeen := r.payload.recovery.flagged RecoveryFlags.terminal
        detailBoundaryPairs := 0, detailOverallDeadlineQpc := r.payload.recovery.overallDeadlineQpc
        builderPostBoundary := false }) ∧
    (¬Requests r → (recoveryDetail config s r).2 =
      { s with terminalDetailSeen := s.terminalDetailSeen ||
        (s.recoveryDetail && r.payload.recovery.flagged RecoveryFlags.terminal) }) := by
  rw [recoveryDetail, if_neg (not_not.mpr hmode), h]
  dsimp only
  refine ⟨rfl, fun hr => ?_, fun hr => ?_⟩
  · rw [if_pos hr.2, Bool.true_and]
    cases r.payload.recovery.flagged RecoveryFlags.terminal <;> rfl
  · rw [if_neg fun hphase => hr ⟨h, hphase⟩]
    by_cases hterm : (s.recoveryDetail && r.payload.recovery.flagged RecoveryFlags.terminal) = true
    · rw [if_pos hterm, hterm, Bool.or_true]
    · rw [if_neg hterm, Bool.eq_false_of_not_eq_true hterm, Bool.or_false]

theorem recoveryDetail_enter (hmode : config.diagnostics = .operational) (h : Entered r) :
    recoveryDetail config s r = (s.recoveryDetail,
      { s with
        builderDetailActive := true, builderDetail := s.recoveryDetail
        builderPostBoundary := s.recoveryDetail && (s.terminalDetailSeen ||
          (s.detailOverallDeadlineQpc ≠ 0 && s.detailOverallDeadlineQpc ≤ r.header.qpc))
        detailBuildSequence := r.payload.builder.buildSequence
        detailSourceEpoch := r.header.sourceEpoch, detailBindingEpoch := r.header.bindingEpoch }) := by
  rw [recoveryDetail, if_neg (not_not.mpr hmode), h]

def RecoveryDetailState.Matches (s : RecoveryDetailState) (r : ReportRecordV3) : Prop :=
  s.builderDetailActive = true ∧ s.detailBuildSequence = r.payload.builder.buildSequence ∧
    s.detailSourceEpoch = r.header.sourceEpoch ∧ s.detailBindingEpoch = r.header.bindingEpoch

theorem recoveryDetail_close (hmode : config.diagnostics = .operational)
    (h : RecordKindV3.ofCode r.header.kind = some .builderReturn ∨
      RecordKindV3.ofCode r.header.kind = some .builderUnwind) :
    (s.Matches r → recoveryDetail config s r = (s.builderDetail,
      { s with
        builderDetailActive := false
        detailBoundaryPairs := if s.builderPostBoundary then s.detailBoundaryPairs + 1 else s.detailBoundaryPairs
        recoveryDetail := s.recoveryDetail && !(s.builderPostBoundary &&
          4 ≤ if s.builderPostBoundary then s.detailBoundaryPairs + 1 else s.detailBoundaryPairs) })) ∧
    (¬s.Matches r → recoveryDetail config s r = (false, s)) := by
  have hdecide : (s.builderDetailActive && s.detailBuildSequence = r.payload.builder.buildSequence &&
      s.detailSourceEpoch = r.header.sourceEpoch && s.detailBindingEpoch = r.header.bindingEpoch) = true ↔
        s.Matches r := by
    simp only [RecoveryDetailState.Matches, Bool.and_eq_true, decide_eq_true_eq, and_assoc]
  rw [recoveryDetail, if_neg (not_not.mpr hmode)]
  rcases h with h | h
  · rw [h]
    exact ⟨fun hm => if_pos (hdecide.mpr hm), fun hm => if_neg fun hd => hm (hdecide.mp hd)⟩
  · rw [h]
    exact ⟨fun hm => if_pos (hdecide.mpr hm), fun hm => if_neg fun hd => hm (hdecide.mp hd)⟩

theorem recoveryDetail_other (hmode : config.diagnostics = .operational)
    (h : RecordKindV3.ofCode r.header.kind ≠ some .recovery) (henter : ¬Entered r)
    (hreturn : RecordKindV3.ofCode r.header.kind ≠ some .builderReturn)
    (hunwind : RecordKindV3.ofCode r.header.kind ≠ some .builderUnwind) :
    recoveryDetail config s r = (s.recoveryDetail, s) := by
  rw [recoveryDetail, if_neg (not_not.mpr hmode)]
  split
  · exact absurd ‹_› h
  · exact absurd ‹_› henter
  · exact absurd ‹_› hreturn
  · exact absurd ‹_› hunwind
  · rfl

theorem lt_succ_cases (h : k < n + 1) : k < n ∨ k = n := Nat.lt_or_eq_of_le (Nat.le_of_lt_succ h)

theorem open_succ (hr : rs[n]? = some r) :
    Open rs e i (n + 1) ↔ Open rs e i n ∧ ¬Entered r ∧ ¬Closes e r ∨ i = n ∧ e = r ∧ Entered r := by
  constructor
  · rintro ⟨he, hentered, hlt, hrest⟩
    rcases lt_succ_cases hlt with hlt | rfl
    · refine .inl ⟨⟨he, hentered, hlt, fun k r hik hkn => hrest k r hik (Nat.lt_succ_of_lt hkn)⟩, ?_⟩
      exact hrest n r hlt (Nat.lt_succ_self n) hr
    · obtain rfl := Option.some.inj (he.symm.trans hr)
      exact .inr ⟨rfl, rfl, hentered⟩
  · rintro (⟨⟨he, hentered, hlt, hrest⟩, hnew⟩ | ⟨rfl, rfl, hentered⟩)
    · refine ⟨he, hentered, Nat.lt_succ_of_lt hlt, fun k r' hik hkn hr' => ?_⟩
      rcases lt_succ_cases hkn with hkn | rfl
      · exact hrest k r' hik hkn hr'
      · exact Option.some.inj (hr.symm.trans hr') ▸ hnew
    · exact ⟨hr, hentered, Nat.lt_succ_self _, fun k r' hik hkn => absurd hkn (by omega)⟩

theorem attempt_succ (hr : rs[n]? = some r) :
    Attempt rs a q (n + 1) ↔ Attempt rs a q n ∧ ¬Requests r ∨ q = n ∧ a = r ∧ Requests r := by
  constructor
  · rintro ⟨ha, hreq, hlt, hrest⟩
    rcases lt_succ_cases hlt with hlt | rfl
    · refine .inl ⟨⟨ha, hreq, hlt, fun k r hqk hkn => hrest k r hqk (Nat.lt_succ_of_lt hkn)⟩, ?_⟩
      exact hrest n r hlt (Nat.lt_succ_self n) hr
    · obtain rfl := Option.some.inj (ha.symm.trans hr)
      exact .inr ⟨rfl, rfl, hreq⟩
  · rintro (⟨⟨ha, hreq, hlt, hrest⟩, hnew⟩ | ⟨rfl, rfl, hreq⟩)
    · refine ⟨ha, hreq, Nat.lt_succ_of_lt hlt, fun k r' hqk hkn hr' => ?_⟩
      rcases lt_succ_cases hkn with hkn | rfl
      · exact hrest k r' hqk hkn hr'
      · exact Option.some.inj (hr.symm.trans hr') ▸ hnew
    · exact ⟨hr, hreq, Nat.lt_succ_self _, fun k r' hqk hkn => absurd hkn (by omega)⟩

theorem terminated_succ (hr : rs[n]? = some r) (hq : q ≤ n) :
    Terminated rs q (n + 1) ↔ Terminated rs q n ∨ Terminates r := by
  constructor
  · rintro ⟨t, r', hqt, htn, ht, hterm⟩
    rcases lt_succ_cases htn with htn | rfl
    · exact .inl ⟨t, r', hqt, htn, ht, hterm⟩
    · exact .inr (Option.some.inj (hr.symm.trans ht) ▸ hterm)
  · rintro (⟨t, r', hqt, htn, ht, hterm⟩ | hterm)
    · exact ⟨t, r', hqt, Nat.lt_succ_of_lt htn, ht, hterm⟩
    · exact ⟨n, r, hq, Nat.lt_succ_self n, hr, hterm⟩

/-- No two entries are open at once. -/
theorem Open.unique {e' : ReportRecordV3} {i' : Nat} (h : Open rs e i n) (h' : Open rs e' i' n) : i = i' ∧ e = e' := by
  obtain ⟨he, hentered, hlt, hrest⟩ := h
  obtain ⟨he', hentered', hlt', hrest'⟩ := h'
  rcases Nat.lt_trichotomy i i' with hii | rfl | hii
  · exact absurd hentered' (hrest i' e' hii hlt' he').1
  · exact ⟨rfl, Option.some.inj (he.symm.trans he')⟩
  · exact absurd hentered (hrest' i e hii hlt he).1

theorem finished_finite : (finished rs a q n).Finite := by
  refine (Set.finite_lt_nat n).subset ?_
  rintro i ⟨-, -, j, hjn, e, r, ⟨-, -, hij, -⟩, -⟩
  exact hij.trans hjn

theorem finished_request : finished rs a n (n + 1) = ∅ := by
  refine Set.eq_empty_of_forall_notMem ?_
  rintro i ⟨hni, -, j, hjn, e, r, ⟨-, -, hij, -⟩, -⟩
  omega

theorem finished_same (hr : rs[n]? = some r) (h : ∀ e i, Open rs e i n → Closes e r → q < i → ¬Late rs a q i) :
    finished rs a q (n + 1) = finished rs a q n := by
  ext i
  constructor
  · rintro ⟨hqi, hlate, j, hjn, hpair⟩
    rcases lt_succ_cases hjn with hjn | rfl
    · exact ⟨hqi, hlate, j, hjn, hpair⟩
    · obtain ⟨e, r', hopen, hr', hcloses⟩ := hpair
      obtain rfl := Option.some.inj (hr.symm.trans hr')
      exact absurd hlate (h e i hopen hcloses hqi)
  · rintro ⟨hqi, hlate, j, hjn, hpair⟩
    exact ⟨hqi, hlate, j, Nat.lt_succ_of_lt hjn, hpair⟩

/-- A record that closes a late entry is counted once. -/
theorem finished_close (hr : rs[n]? = some r) (hopen : Open rs e i n) (hcloses : Closes e r) (hqi : q < i)
    (hlate : Late rs a q i) : (finished rs a q (n + 1)).ncard = (finished rs a q n).ncard + 1 := by
  have hnew : i ∉ finished rs a q n := by
    rintro ⟨-, -, j, hjn, e', r', ⟨he', hentered, hij, -⟩, hr', hcloses'⟩
    obtain rfl := Option.some.inj (he'.symm.trans hopen.1)
    exact (hopen.2.2.2 j r' hij hjn hr').2 hcloses'
  have hall : finished rs a q (n + 1) = insert i (finished rs a q n) := by
    ext i'
    rw [Set.mem_insert_iff]
    constructor
    · rintro ⟨hqi', hlate', j, hjn, hpair⟩
      rcases lt_succ_cases hjn with hjn | rfl
      · exact .inr ⟨hqi', hlate', j, hjn, hpair⟩
      · obtain ⟨e', r', hopen', -, -⟩ := hpair
        exact .inl (hopen'.unique hopen).1
    · rintro (rfl | ⟨hqi', hlate', j, hjn, hpair⟩)
      · exact ⟨hqi, hlate, n, Nat.lt_succ_self n, e, r, hopen, hr, hcloses⟩
      · exact ⟨hqi', hlate', j, Nat.lt_succ_of_lt hjn, hpair⟩
  rw [hall, Set.ncard_insert_of_notMem hnew finished_finite]

theorem finished_mono : (finished rs a q n).ncard ≤ (finished rs a q (n + 1)).ncard := by
  refine Set.ncard_le_ncard ?_ finished_finite
  rintro i ⟨hqi, hlate, j, hjn, hpair⟩
  exact ⟨hqi, hlate, j, Nat.lt_succ_of_lt hjn, hpair⟩

def detailAfter (config : ConfigV3) (rs : List ReportRecordV3) : RecoveryDetailState :=
  rs.foldl (fun s r => (recoveryDetail config s r).2) .clear

theorem detailAfter_succ (config : ConfigV3) (hr : rs[n]? = some r) :
    detailAfter config (rs.take (n + 1)) = (recoveryDetail config (detailAfter config (rs.take n)) r).2 := by
  rw [List.take_add_one, hr, detailAfter, List.foldl_append]
  rfl

/-- What the state after the first `n` records says of them. -/
structure DetailInv (config : ConfigV3) (rs : List ReportRecordV3) (n : Nat) (s : RecoveryDetailState) : Prop where
  idle : (∀ a q, ¬Attempt rs a q n) → s.recoveryDetail = false
  deadline : ∀ a q, Attempt rs a q n → s.detailOverallDeadlineQpc = a.payload.recovery.overallDeadlineQpc
  count : ∀ a q, Attempt rs a q n → (s.recoveryDetail = true ↔ (finished rs a q n).ncard < 4)
  pairs : ∀ a q, Attempt rs a q n → s.recoveryDetail = true → s.detailBoundaryPairs = (finished rs a q n).ncard
  terminal : ∀ a q, Attempt rs a q n → s.recoveryDetail = true → (s.terminalDetailSeen = true ↔ Terminated rs q n)
  active : s.builderDetailActive = true → ∃ e i, Open rs e i n
  entered : ∀ e i, Open rs e i n → s.builderDetailActive = true ∧
    s.detailBuildSequence = e.payload.builder.buildSequence ∧ s.detailSourceEpoch = e.header.sourceEpoch ∧
    s.detailBindingEpoch = e.header.bindingEpoch ∧ s.builderDetail = (detailAfter config (rs.take i)).recoveryDetail
  boundary : ∀ e i a q, Open rs e i n → Attempt rs a q n → s.recoveryDetail = true →
    (s.builderPostBoundary = true ↔ q < i ∧ Late rs a q i)

namespace DetailInv

theorem start (config : ConfigV3) (rs : List ReportRecordV3) : DetailInv config rs 0 .clear := by
  have hattempt : ∀ a q, ¬Attempt rs a q 0 := fun a q h => Nat.not_lt_zero _ h.2.2.1
  have hopen : ∀ e i, ¬Open rs e i 0 := fun e i h => Nat.not_lt_zero _ h.2.2.1
  refine ⟨fun _ => rfl, fun a q h => absurd h (hattempt a q), fun a q h => absurd h (hattempt a q),
    fun a q h => absurd h (hattempt a q), fun a q h => absurd h (hattempt a q), ?_, fun e i h => absurd h (hopen e i),
    fun e i a q h => absurd h (hopen e i)⟩
  intro h
  cases h

variable (hr : rs[n]? = some r) (h : DetailInv config rs n s)
include hr h

theorem quiet (henter : ¬Entered r) (hcloses : ∀ e i, Open rs e i n → ¬Closes e r) (hreq : ¬Requests r)
    {seen : Bool} (hseen : s.recoveryDetail = true → (seen = true ↔ s.terminalDetailSeen = true ∨ Terminates r)) :
    DetailInv config rs (n + 1) { s with terminalDetailSeen := seen } := by
  have hopen : ∀ {e i}, Open rs e i (n + 1) → Open rs e i n := by
    intro e i ho
    rcases (open_succ hr).mp ho with ⟨ho, -⟩ | ⟨-, -, he⟩
    · exact ho
    · exact absurd he henter
  have hattempt : ∀ {a q}, Attempt rs a q (n + 1) → Attempt rs a q n := by
    intro a q ha
    rcases (attempt_succ hr).mp ha with ⟨ha, -⟩ | ⟨-, -, he⟩
    · exact ha
    · exact absurd he hreq
  have hsame : ∀ a q, finished rs a q (n + 1) = finished rs a q n := fun a q =>
    finished_same hr fun e i ho hc => absurd hc (hcloses e i ho)
  refine ⟨fun hidle => ?_, fun a q ha => h.deadline a q (hattempt ha), fun a q ha => ?_, fun a q ha hd => ?_,
    fun a q ha hd => ?_, fun hactive => ?_, fun e i ho => h.entered e i (hopen ho), fun e i a q ho ha hd => ?_⟩
  · exact h.idle fun a q ha => hidle a q ((attempt_succ hr).mpr (.inl ⟨ha, hreq⟩))
  · rw [hsame]
    exact h.count a q (hattempt ha)
  · rw [hsame]
    exact h.pairs a q (hattempt ha) hd
  · rw [terminated_succ hr (hattempt ha).2.2.1.le, ← h.terminal a q (hattempt ha) hd]
    exact hseen hd
  · obtain ⟨e, i, ho⟩ := h.active hactive
    exact ⟨e, i, (open_succ hr).mpr (.inl ⟨ho, henter, hcloses e i ho⟩)⟩
  · exact h.boundary e i a q (hopen ho) (hattempt ha) hd

theorem request (hreq : Requests r) :
    DetailInv config rs (n + 1)
      { s with
        recoveryDetail := true, terminalDetailSeen := r.payload.recovery.flagged RecoveryFlags.terminal
        detailBoundaryPairs := 0, detailOverallDeadlineQpc := r.payload.recovery.overallDeadlineQpc
        builderPostBoundary := false } := by
  have henter : ¬Entered r := by
    intro he
    cases he.symm.trans hreq.1
  have hcloses : ∀ e, ¬Closes e r := by
    rintro e ⟨hkind | hkind, -⟩
    · cases hkind.symm.trans hreq.1
    · cases hkind.symm.trans hreq.1
  have hattempt : ∀ {a q}, Attempt rs a q (n + 1) → q = n ∧ a = r := by
    intro a q ha
    rcases (attempt_succ hr).mp ha with ⟨-, hno⟩ | ⟨hq, he, -⟩
    · exact absurd hreq hno
    · exact ⟨hq, he⟩
  have hopen : ∀ {e i}, Open rs e i (n + 1) → Open rs e i n := by
    intro e i ho
    rcases (open_succ hr).mp ho with ⟨ho, -⟩ | ⟨-, -, he⟩
    · exact ho
    · exact absurd he henter
  refine ⟨fun hidle => ?_, fun a q ha => ?_, fun a q ha => ?_, fun a q ha _ => ?_, fun a q ha _ => ?_, fun hactive =>
    ?_,
    fun e i ho => h.entered e i (hopen ho), fun e i a q ho ha _ => ?_⟩
  · exact absurd ((attempt_succ hr).mpr (.inr ⟨rfl, rfl, hreq⟩)) (hidle r n)
  · rw [(hattempt ha).2]
  · rw [(hattempt ha).1, finished_request, Set.ncard_empty]
    exact ⟨fun _ => by decide, fun _ => rfl⟩
  · rw [(hattempt ha).1, finished_request, Set.ncard_empty]
  · rw [(hattempt ha).1, terminated_succ hr le_rfl]
    constructor
    · exact fun hterm => .inr ⟨hreq.1, hterm⟩
    · rintro (⟨t, _, hnt, htn, -⟩ | hterm)
      · omega
      · exact hterm.2
  · obtain ⟨e, i, ho⟩ := h.active hactive
    exact ⟨e, i, (open_succ hr).mpr (.inl ⟨ho, henter, hcloses e⟩)⟩
  · rw [(hattempt ha).1]
    constructor
    · intro hfalse
      cases hfalse
    · rintro ⟨hni, -⟩
      exact absurd (hopen ho).2.2.1 (by omega)

theorem enter (hs : s = detailAfter config (rs.take n)) (henter : Entered r) :
    DetailInv config rs (n + 1)
      { s with
        builderDetailActive := true, builderDetail := s.recoveryDetail
        builderPostBoundary := s.recoveryDetail && (s.terminalDetailSeen ||
          (s.detailOverallDeadlineQpc ≠ 0 && s.detailOverallDeadlineQpc ≤ r.header.qpc))
        detailBuildSequence := r.payload.builder.buildSequence
        detailSourceEpoch := r.header.sourceEpoch, detailBindingEpoch := r.header.bindingEpoch } := by
  have hreq : ¬Requests r := by
    intro hreq
    cases henter.symm.trans hreq.1
  have hterm : ¬Terminates r := by
    intro hterm
    cases henter.symm.trans hterm.1
  have hcloses : ∀ e, ¬Closes e r := by
    rintro e ⟨hkind | hkind, -⟩
    · cases hkind.symm.trans henter
    · cases hkind.symm.trans henter
  have hattempt : ∀ {a q}, Attempt rs a q (n + 1) → Attempt rs a q n := by
    intro a q ha
    rcases (attempt_succ hr).mp ha with ⟨ha, -⟩ | ⟨-, -, he⟩
    · exact ha
    · exact absurd he hreq
  have hopen : ∀ {e i}, Open rs e i (n + 1) → i = n ∧ e = r := by
    intro e i ho
    rcases (open_succ hr).mp ho with ⟨-, hno, -⟩ | ⟨hi, he, -⟩
    · exact absurd henter hno
    · exact ⟨hi, he⟩
  have hsame : ∀ a q, finished rs a q (n + 1) = finished rs a q n := fun a q =>
    finished_same hr fun e i ho hc => absurd hc (hcloses e)
  refine ⟨fun hidle => ?_, fun a q ha => h.deadline a q (hattempt ha), fun a q ha => ?_, fun a q ha hd => ?_,
    fun a q ha hd => ?_, fun _ => ⟨r, n, (open_succ hr).mpr (.inr ⟨rfl, rfl, henter⟩)⟩, fun e i ho => ?_,
    fun e i a q ho ha hd => ?_⟩
  · exact h.idle fun a q ha => hidle a q ((attempt_succ hr).mpr (.inl ⟨ha, hreq⟩))
  · rw [hsame]
    exact h.count a q (hattempt ha)
  · rw [hsame]
    exact h.pairs a q (hattempt ha) hd
  · rw [terminated_succ hr (hattempt ha).2.2.1.le, or_iff_left hterm]
    exact h.terminal a q (hattempt ha) hd
  · obtain ⟨rfl, rfl⟩ := hopen ho
    exact ⟨rfl, rfl, rfl, rfl, congrArg RecoveryDetailState.recoveryDetail hs⟩
  · obtain ⟨rfl, rfl⟩ := hopen ho
    have hd : s.recoveryDetail = true := hd
    dsimp only
    rw [hd, Bool.true_and, Bool.or_eq_true, h.terminal a q (hattempt ha) hd, h.deadline a q (hattempt ha), Late,
      and_iff_right (hattempt ha).2.2.1, Bool.and_eq_true, decide_eq_true_eq, decide_eq_true_eq]
    refine or_congr Iff.rfl (and_congr Iff.rfl ?_)
    constructor
    · exact fun hle => ⟨e, hr, hle⟩
    · rintro ⟨e', he', hle⟩
      exact Option.some.inj (hr.symm.trans he') ▸ hle

theorem close (hkind : RecordKindV3.ofCode r.header.kind = some .builderReturn ∨
      RecordKindV3.ofCode r.header.kind = some .builderUnwind) (hmatches : s.Matches r) :
    DetailInv config rs (n + 1)
      { s with
        builderDetailActive := false
        detailBoundaryPairs := if s.builderPostBoundary then s.detailBoundaryPairs + 1 else s.detailBoundaryPairs
        recoveryDetail := s.recoveryDetail && !(s.builderPostBoundary &&
          4 ≤ if s.builderPostBoundary then s.detailBoundaryPairs + 1 else s.detailBoundaryPairs) } := by
  have hnot : ∀ {kind}, RecordKindV3.ofCode r.header.kind = some kind → kind = .builderReturn ∨
    kind = .builderUnwind := by
    intro kind hk
    rcases hkind with hkind | hkind
    · exact .inl (Option.some.inj (hk.symm.trans hkind))
    · exact .inr (Option.some.inj (hk.symm.trans hkind))
  have henter : ¬Entered r := fun he => by rcases hnot he with hk | hk <;> cases hk
  have hreq : ¬Requests r := fun he => by rcases hnot he.1 with hk | hk <;> cases hk
  have hterm : ¬Terminates r := fun he => by rcases hnot he.1 with hk | hk <;> cases hk
  obtain ⟨e, i, ho⟩ := h.active hmatches.1
  obtain ⟨-, hbuild, hsource, hbinding, -⟩ := h.entered e i ho
  have hcloses : Closes e r :=
    ⟨hkind, hbuild.symm.trans hmatches.2.1, hsource.symm.trans hmatches.2.2.1, hbinding.symm.trans hmatches.2.2.2⟩
  have hattempt : ∀ {a q}, Attempt rs a q (n + 1) → Attempt rs a q n := by
    intro a q ha
    rcases (attempt_succ hr).mp ha with ⟨ha, -⟩ | ⟨-, -, he⟩
    · exact ha
    · exact absurd he hreq
  have hopen : ∀ e' i', ¬Open rs e' i' (n + 1) := by
    intro e' i' ho'
    rcases (open_succ hr).mp ho' with ⟨ho', -, hno⟩ | ⟨-, -, he⟩
    · obtain ⟨-, rfl⟩ := ho.unique ho'
      exact hno hcloses
    · exact henter he
  -- The count grows exactly when the entry was past the boundary.
  have hcount : ∀ a q, Attempt rs a q n → s.recoveryDetail = true →
      (finished rs a q (n + 1)).ncard = if s.builderPostBoundary then s.detailBoundaryPairs + 1 else s.detailBoundaryPairs := by
    intro a q ha hd
    have hboundary := h.boundary e i a q ho ha hd
    rw [h.pairs a q ha hd]
    by_cases hpost : s.builderPostBoundary = true
    · obtain ⟨hqi, hlate⟩ := hboundary.mp hpost
      rw [if_pos hpost, finished_close hr ho hcloses hqi hlate]
    · rw [if_neg hpost, finished_same hr]
      intro e' i' ho' _ hqi hlate
      obtain ⟨rfl, rfl⟩ := ho.unique ho'
      exact hpost (hboundary.mpr ⟨hqi, hlate⟩)
  refine ⟨fun hidle => ?_, fun a q ha => h.deadline a q (hattempt ha), fun a q ha => ?_, fun a q ha hd => ?_,
    fun a q ha hd => ?_, fun hactive => ?_, fun e i ho => absurd ho (hopen e i), fun e i a q ho =>
      absurd ho (hopen e i)⟩
  · have hoff := h.idle fun a q ha => hidle a q ((attempt_succ hr).mpr (.inl ⟨ha, hreq⟩))
    dsimp only
    rw [hoff, Bool.false_and]
  · have hold := h.count a q (hattempt ha)
    dsimp only
    by_cases hd : s.recoveryDetail = true
    · rw [hcount a q (hattempt ha) hd, hd, Bool.true_and, Bool.not_eq_true']
      have hsmall := hold.mp hd
      rw [← h.pairs a q (hattempt ha) hd] at hsmall
      by_cases hpost : s.builderPostBoundary = true
      · rw [hpost, if_pos rfl, Bool.true_and, decide_eq_false_iff_not, not_le]
      · rw [Bool.eq_false_of_not_eq_true hpost, Bool.false_and, if_neg Bool.false_ne_true]
        exact iff_of_true rfl hsmall
    · rw [Bool.eq_false_of_not_eq_true hd, Bool.false_and]
      have hlarge := fun hlt => hd (hold.mpr hlt)
      exact iff_of_false Bool.false_ne_true fun hlt => hlarge (finished_mono.trans_lt hlt)
  · exact (hcount a q (hattempt ha) (Bool.and_eq_true_iff.mp hd).1).symm
  · rw [terminated_succ hr (hattempt ha).2.2.1.le, or_iff_left hterm]
    exact h.terminal a q (hattempt ha) (Bool.and_eq_true_iff.mp hd).1
  · cases hactive

/-- One record more. -/
theorem step (hmode : config.diagnostics = .operational) (hs : s = detailAfter config (rs.take n)) :
    DetailInv config rs (n + 1) (recoveryDetail config s r).2 := by
  have hquiet : ∀ {seen}, ¬Entered r → (∀ e i, Open rs e i n → ¬Closes e r) → ¬Requests r →
      (s.recoveryDetail = true → (seen = true ↔ s.terminalDetailSeen = true ∨ Terminates r)) →
      DetailInv config rs (n + 1) { s with terminalDetailSeen := seen } := fun he hc hq hseen =>
        h.quiet hr he hc hq hseen
  by_cases hrecovery : RecordKindV3.ofCode r.header.kind = some .recovery
  · obtain ⟨-, hrequest, hother⟩ := recoveryDetail_recovery (s := s) hmode hrecovery
    by_cases hreq : Requests r
    · rw [hrequest hreq]
      exact h.request hr hreq
    · rw [hother hreq]
      refine hquiet ?_ ?_ hreq fun hd => ?_
      · intro he
        cases he.symm.trans hrecovery
      · rintro e i - ⟨hkind | hkind, -⟩
        · cases hkind.symm.trans hrecovery
        · cases hkind.symm.trans hrecovery
      · rw [hd, Bool.true_and, Bool.or_eq_true, Terminates, and_iff_right hrecovery]
  by_cases henter : Entered r
  · rw [recoveryDetail_enter hmode henter]
    exact h.enter hr hs henter
  have hreq : ¬Requests r := fun hreq => hrecovery hreq.1
  have hterm : ¬Terminates r := fun hterm => hrecovery hterm.1
  have hstays : s.recoveryDetail = true → (s.terminalDetailSeen = true ↔ s.terminalDetailSeen = true ∨ Terminates r) :=
    fun _ => (or_iff_left hterm).symm
  by_cases hclose : RecordKindV3.ofCode r.header.kind = some .builderReturn ∨
      RecordKindV3.ofCode r.header.kind = some .builderUnwind
  · obtain ⟨hmatch, hmiss⟩ := recoveryDetail_close (s := s) hmode hclose
    by_cases hmatches : s.Matches r
    · rw [hmatch hmatches]
      exact h.close hr hclose hmatches
    · rw [hmiss hmatches]
      refine hquiet henter (fun e i ho hcloses => hmatches ?_) hreq hstays
      obtain ⟨hactive, hbuild, hsource, hbinding, -⟩ := h.entered e i ho
      exact ⟨hactive, hbuild.trans hcloses.2.1, hsource.trans hcloses.2.2.1, hbinding.trans hcloses.2.2.2⟩
  · rw [not_or] at hclose
    rw [recoveryDetail_other hmode hrecovery henter hclose.1 hclose.2]
    refine hquiet henter ?_ hreq hstays
    rintro e i - ⟨hkind | hkind, -⟩
    · exact hclose.1 hkind
    · exact hclose.2 hkind

omit hr h in
theorem run (hmode : config.diagnostics = .operational) (rs : List ReportRecordV3) {n : Nat} (hn : n ≤ rs.length) :
    DetailInv config rs n (detailAfter config (rs.take n)) := by
  induction n with
  | zero => exact start config rs
  | succ n ih =>
      have hr : rs[n]? = some rs[n] := List.getElem?_eq_getElem hn
      rw [detailAfter_succ config hr]
      exact (ih (Nat.le_of_succ_le hn)).step hr hmode rfl

end DetailInv

def detailOf (config : ConfigV3) (rs : List ReportRecordV3) (n : Nat) : Option Bool :=
  rs[n]?.map fun r => (recoveryDetail config (detailAfter config (rs.take n)) r).1

theorem detailOf_pair (hmode : config.diagnostics = .operational) (h : Pair rs i j) :
    detailOf config rs j = detailOf config rs i := by
  obtain ⟨e, r, ho, hr, hcloses⟩ := h
  obtain ⟨hj, -⟩ := List.getElem?_eq_some_iff.mp hr
  obtain ⟨hactive, hbuild, hsource, hbinding, hdetail⟩ := (DetailInv.run hmode rs hj.le).entered e i ho
  rw [detailOf, detailOf, hr, ho.1, Option.map_some, Option.map_some, recoveryDetail_enter hmode ho.2.1,
    (recoveryDetail_close hmode hcloses.1).1
      ⟨hactive, hbuild.trans hcloses.2.1, hsource.trans hcloses.2.2.1, hbinding.trans hcloses.2.2.2⟩, hdetail]

theorem detailOf_enter (hmode : config.diagnostics = .operational) (ha : Attempt rs a q n) (he : rs[n]? = some e)
    (hentered : Entered e) : detailOf config rs n = some true ↔ (finished rs a q n).ncard < 4 := by
  obtain ⟨hn, -⟩ := List.getElem?_eq_some_iff.mp he
  rw [detailOf, he, Option.map_some, recoveryDetail_enter hmode hentered, Option.some.injEq]
  exact (DetailInv.run hmode rs hn.le).count a q ha

variable {κ : Type} {ops : NativeHashOps κ} {c c' : NativeChannel κ} {format : NativeFormatContext}
  {f : NativeReadyFrame} {detail detail' tested tested' : Bool} {log : List (ReportRecordV3 × NativeReadyFrame)}

structure Shows (format : NativeFormatContext) (r : ReportRecordV3) (f : NativeReadyFrame) (detail : Bool) : Prop where
  sequence : f.sequence = r.header.sequence.toNat
  text : ∃ text, formatNativeRecord format r (kMessageLimit + 1) detail = some text ∧ f.chars = text.length ∧
    f.message = text.map UInt8.toUInt16 ++ [0]

theorem detailText_ne {rest rest' : List UInt8} : detailText true ++ rest ≠ detailText false ++ rest' := by
  intro h
  have hchar : (detailText true ++ rest)[11]? = (detailText false ++ rest')[11]? := congrArg (·[11]?) h
  have hleft : 11 < (detailText true).length := by decide
  have hright : 11 < (detailText false).length := by decide
  rw [List.getElem?_append_left hleft, List.getElem?_append_left hright] at hchar
  exact absurd hchar (by decide)

/-- The text of a builder record says which detail it has. -/
theorem Shows.unique (hmode : format.config.diagnostics = .operational)
    (hkind : ∀ kind, RecordKindV3.ofCode r.header.kind = some kind → kind.compact = true)
    (h : Shows format r f detail) (h' : Shows format r f detail') : detail = detail' := by
  obtain ⟨m, htext, -, hm⟩ := h.text
  obtain ⟨m', htext', -, hm'⟩ := h'.text
  have hsame : m.map UInt8.toUInt16 = m'.map UInt8.toUInt16 := List.append_cancel_right (hm.symm.trans hm')
  have heq : m = m' := List.map_injective_iff.mpr (fun _ _ => UInt8.toUInt16_inj.mp) hsame
  obtain ⟨kind, utc, hcode, hutc, rfl⟩ := formatNativeRecord_some htext
  obtain ⟨kind', utc', hcode', hutc', rfl⟩ := formatNativeRecord_some htext'
  obtain rfl := Option.some.inj (hcode.symm.trans hcode')
  obtain rfl := Option.some.inj (hutc.symm.trans hutc')
  have htexts := List.append_cancel_left (List.append_cancel_right heq)
  rw [recordTexts, recordTexts, hmode, if_pos rfl, if_pos rfl, hkind kind hcode, List.flatten_cons,
    List.flatten_cons] at htexts
  have hrest := List.append_cancel_left htexts
  cases detail with
  | true =>
      cases detail' with
      | true => rfl
      | false => exact absurd hrest.symm detailText_ne
  | false =>
      cases detail' with
      | true => exact absurd hrest detailText_ne
      | false => rfl

/-- The frames that the second loop of a preparation puts into the ready queue, each with its record. -/
def formattedReports (ops : NativeHashOps κ) (qpc : Nat) : Nat → NativeChannel κ → List (ReportRecordV3 × NativeReadyFrame)
  | 0, _ => []
  | count + 1, c =>
      match (c.pipeline.ledger.get c.pipeline.nextFormat).body, formatNext ops c qpc with
      | .scalar r, .next c' => (r, c'.pipeline.ready.get c.pipeline.readyWrite) :: formattedReports ops qpc count c'
      | _, _ => []

def preparedReports (ops : NativeHashOps κ) (c : NativeChannel κ) (qpc : Nat) : List (ReportRecordV3 × NativeReadyFrame) :=
  if !c.pipeline.initialized ∨ qpc = 0 ∨ !ledgerValid c.pipeline then []
  else
    match drainReports kReportBatchLimit c with
    | (_, false) => []
    | (c, true) => formattedReports ops qpc (c.pipeline.ledgerWrite - c.pipeline.nextFormat) c

/-- An action of anybody between the worker's test and its preparation; nobody opens a revoked status again. -/
def NativeAction.Beside (s : NativeSystem κ) : NativeAction → Prop
  | .prepare _ => False
  | .latch status => statusRevoked s.channel.status = true → statusRevoked status = true
  | _ => True

/-- A run with the frames prepared in it. The worker prepares after a test that saw the status
open; what it saw may be revoked by then. -/
inductive FormatRun (ops : NativeHashOps κ) : NativeSystem κ → Bool → List (ReportRecordV3 × NativeReadyFrame) → Prop
  | init {s : NativeSystem κ} (h : s.Initial) : FormatRun ops s false []
  | test {s : NativeSystem κ} {tested : Bool} {log : List (ReportRecordV3 × NativeReadyFrame)}
      (h : FormatRun ops s tested log) (hopen : statusRevoked s.channel.status = false) : FormatRun ops s true log
  | prepare {s : NativeSystem κ} {log : List (ReportRecordV3 × NativeReadyFrame)} (h : FormatRun ops s true log)
      (qpc : Nat) : FormatRun ops (s.next ops (.prepare qpc)) false (log ++ preparedReports ops s.channel qpc)
  | other {s : NativeSystem κ} {tested : Bool} {log : List (ReportRecordV3 × NativeReadyFrame)} {a : NativeAction}
      (h : FormatRun ops s tested log) (allowed : a.Allowed s) (beside : a.Beside s) :
      FormatRun ops (s.next ops a) tested log

theorem FormatRun.run {s : NativeSystem κ} (h : FormatRun ops s tested log) : NativeRun ops s := by
  induction h with
  | init h => exact .init h
  | test _ _ ih => exact ih
  | prepare _ qpc ih => exact .step (a := .prepare qpc) ih trivial
  | other _ allowed _ ih => exact .step ih allowed

/-- Every record has been formatted once, in order, with the detail that those before it give. -/
structure Formatted (c : NativeChannel κ) (tested : Bool) (log : List (ReportRecordV3 × NativeReadyFrame)) : Prop where
  shown : ∀ k r f, log[k]? = some (r, f) →
    ∃ detail, detailOf c.pipeline.format.config (log.map Prod.fst) k = some detail ∧ Shows c.pipeline.format r f detail
  state : tested = true ∨ statusRevoked c.status = false →
    c.pipeline.detail = detailAfter c.pipeline.format.config (log.map Prod.fst)
  next : c.pipeline.nextFormat = log.length + 1
  sequences : ∀ k r f, log[k]? = some (r, f) → r.header.sequence.toNat = k + 1

namespace Formatted

theorem still (h : Formatted c tested log) (hformat : c'.pipeline.format = c.pipeline.format)
    (hnext : c'.pipeline.nextFormat = c.pipeline.nextFormat)
    (hdetail : tested' = true ∨ statusRevoked c'.status = false →
      (tested = true ∨ statusRevoked c.status = false) ∧ c'.pipeline.detail = c.pipeline.detail) :
    Formatted c' tested' log := by
  refine ⟨?_, fun hready => ?_, hnext.trans h.next, h.sequences⟩
  · rw [hformat]
    exact h.shown
  · obtain ⟨hbefore, hsame⟩ := hdetail hready
    rw [hsame, hformat]
    exact h.state hbefore

theorem untested (h : Formatted c tested log) : Formatted c false log :=
  h.still rfl rfl fun hready => ⟨.inr (hready.resolve_left Bool.false_ne_true), rfl⟩

theorem closed (h : Formatted c tested log) (hformat : c'.pipeline.format = c.pipeline.format)
    (hnext : c'.pipeline.nextFormat = c.pipeline.nextFormat) (hclosed : statusRevoked c'.status = true) :
    Formatted c' false log := by
  refine h.still hformat hnext fun hready => ?_
  cases hclosed.symm.trans (hready.resolve_left Bool.false_ne_true)

theorem detailAfter_append (config : ConfigV3) (rs : List ReportRecordV3) (r : ReportRecordV3) :
    detailAfter config (rs ++ [r]) = (recoveryDetail config (detailAfter config rs) r).2 := by
  rw [detailAfter, List.foldl_append]
  rfl

theorem detailOf_append (config : ConfigV3) (rs : List ReportRecordV3) (r : ReportRecordV3) (k : Nat) :
    detailOf config (rs ++ [r]) k =
      if k < rs.length then detailOf config rs k
      else if k = rs.length then some (recoveryDetail config (detailAfter config rs) r).1 else none := by
  rw [detailOf, detailOf]
  by_cases hlt : k < rs.length
  · rw [if_pos hlt, List.getElem?_append_left hlt, List.take_append_of_le_length hlt.le]
  · rw [if_neg hlt, List.getElem?_append_right (Nat.le_of_not_lt hlt)]
    by_cases heq : k = rs.length
    · rw [if_pos heq, heq, Nat.sub_self, List.take_left]
      rfl
    · rw [if_neg heq, List.getElem?_eq_none]
      · rfl
      · rw [List.length_singleton]
        omega

theorem getElem?_snoc {α : Type} {l : List α} {a b : α} {k : Nat} (h : (l ++ [a])[k]? = some b) :
    l[k]? = some b ∧ k < l.length ∨ k = l.length ∧ a = b := by
  rw [List.getElem?_append] at h
  split at h
  · exact .inl ⟨h, ‹_›⟩
  · obtain ⟨hlast, hget⟩ := List.getElem?_eq_some_iff.mp h
    rw [List.length_singleton] at hlast
    have hzero : k - l.length = 0 := by omega
    simp only [hzero, List.getElem_cons_zero] at hget
    exact .inr ⟨by omega, hget⟩

theorem snoc (h : Formatted c true log) {r : ReportRecordV3} (hr : r.header.sequence.toNat = c.pipeline.nextFormat)
    (hformat : c'.pipeline.format = c.pipeline.format)
    (hshows : Shows c.pipeline.format r f (recoveryDetail c.pipeline.format.config c.pipeline.detail r).1)
    (hdetail : c'.pipeline.detail = (recoveryDetail c.pipeline.format.config c.pipeline.detail r).2)
    (hnext : c'.pipeline.nextFormat = c.pipeline.nextFormat + 1) : Formatted c' true (log ++ [(r, f)]) := by
  have hstate := h.state (.inl rfl)
  refine ⟨fun k r' f' hk => ?_, fun _ => ?_, ?_, fun k r' f' hk => ?_⟩
  · rw [hformat, List.map_append, List.map_singleton, detailOf_append, List.length_map]
    rcases getElem?_snoc hk with ⟨hk, hlt⟩ | ⟨rfl, heq⟩
    · rw [if_pos hlt]
      exact h.shown k r' f' hk
    · obtain ⟨rfl, rfl⟩ := Prod.mk.inj heq
      rw [if_neg (Nat.lt_irrefl _), if_pos rfl, ← hstate]
      exact ⟨_, rfl, hshows⟩
  · rw [hdetail, hformat, List.map_append, List.map_singleton, detailAfter_append, hstate]
  · rw [hnext, h.next, List.length_append, List.length_singleton]
  · rcases getElem?_snoc hk with ⟨hk, -⟩ | ⟨rfl, heq⟩
    · exact h.sequences k r' f' hk
    · obtain ⟨rfl, rfl⟩ := Prod.mk.inj heq
      rw [hr, h.next]

theorem renderRecord_detail (ops : NativeHashOps κ) (p : NativePipeline κ) (r : ReportRecordV3) :
    (renderRecord ops p r).1.detail = (recoveryDetail p.format.config p.detail r).2 ∧
      (renderRecord ops p r).1.format = p.format ∧ (renderRecord ops p r).1.nextFormat = p.nextFormat := by
  unfold renderRecord
  dsimp only
  split
  · exact ⟨rfl, rfl, rfl⟩
  · exact ⟨rfl, rfl, rfl⟩

theorem loseStatus_revoked (s : StatusWords) (reason : Reason) (h : reasonMask reason ≠ 0) :
    statusRevoked (loseStatus s reason) = true := by
  refine (statusRevoked_iff _).mpr (.inl ?_)
  change s.revokeReasons ||| reasonMask reason ≠ 0
  rw [UInt64.or_comm]
  exact or_ne_zero h

theorem formattedReports_full {qpc count : Nat} (h : formatNext ops c qpc = .full c') :
    formattedReports ops qpc (count + 1) c = [] := by
  rw [formattedReports, h]
  split
  · cases ‹FormatStep.full c' = _›
  · rfl

theorem formattedReports_lost {qpc count : Nat} (h : formatNext ops c qpc = .lost c') :
    formattedReports ops qpc (count + 1) c = [] := by
  rw [formattedReports, h]
  split
  · cases ‹FormatStep.lost c' = _›
  · rfl

theorem formattedReports_next {qpc count : Nat} {r : ReportRecordV3}
    (hbody : (c.pipeline.ledger.get c.pipeline.nextFormat).body = .scalar r) (hnext : formatNext ops c qpc = .next c') :
    formattedReports ops qpc (count + 1) c =
      (r, c'.pipeline.ready.get c.pipeline.readyWrite) :: formattedReports ops qpc count c' := by
  rw [formattedReports, hbody, hnext]

/-- A frame that was put into the ready queue shows its record with the detail of the moment. -/
theorem storeFormatted_shows {qpc : Nat} {r : ReportRecordV3} {p : NativePipeline κ} {text : List UInt8}
    {wide : List UInt16} {digest : Sha256Digest} (render : renderRecord ops c.pipeline r = (p, some (text, wide, digest)))
    (hsequence : (c.pipeline.ledger.get c.pipeline.nextFormat).sequence = r.header.sequence.toNat) :
    Shows c.pipeline.format r ((storeFormatted c p qpc text wide digest).pipeline.ready.get c.pipeline.readyWrite)
      (recoveryDetail c.pipeline.format.config c.pipeline.detail r).1 := by
  obtain ⟨htext, hwide, -⟩ := renderRecord_some render
  obtain ⟨detail, context, hp⟩ := renderRecord_eq ops c.pipeline r
  rw [render] at hp
  have hp : p = { c.pipeline with detail := detail, hashContext := context } := hp
  have hslot : (storeFormatted c p qpc text wide digest).pipeline.ready.get c.pipeline.readyWrite =
      ⟨c.pipeline.readyWrite + 1, (c.pipeline.ledger.get c.pipeline.nextFormat).sequence,
        c.pipeline.nextFormat % kNativeLedgerCapacity, text.length, wide⟩ := by
    rw [hp]
    exact Slots.get_set_self _ _ _
  rw [hslot]
  exact ⟨hsequence, text, htext, rfl, prepareMessage_eq hwide⟩

/-- The round that formats a record adds its frame. -/
theorem formatNext {qpc : Nat} {r : ReportRecordV3} {u : NativeChannel κ} (h : Formatted c true log) (hc : ChannelInv c)
    (pending : c.pipeline.nextFormat < c.pipeline.ledgerWrite)
    (hbody : (c.pipeline.ledger.get c.pipeline.nextFormat).body = .scalar r) (hstep : PrepareStep ops qpc c u)
    (hnext : u.pipeline.nextFormat = c.pipeline.nextFormat + 1) :
    Formatted u true (log ++ [(r, u.pipeline.ready.get c.pipeline.readyWrite)]) := by
  obtain ⟨hseq, -, r', hbody', hsequence⟩ := hc.scalarEntries _ le_rfl pending
  obtain rfl : r = r' := LedgerBody.scalar.inj (hbody.symm.trans hbody')
  cases hstep with
  | drain =>
      have hsame : c.pipeline.nextFormat = c.pipeline.nextFormat + 1 := hnext
      omega
  | format room pending hbody' hrender =>
      rw [hbody, LedgerBody.scalar.injEq] at hbody'
      rw [← hbody'] at hrender
      obtain ⟨hdetail, hformat, -⟩ := renderRecord_detail ops c.pipeline r
      rw [hrender] at hdetail hformat
      exact h.snoc hsequence hformat (storeFormatted_shows hrender (hseq.trans hsequence.symm)) hdetail hnext

theorem formatReports {qpc count : Nat} (h : Formatted c true log) (hc : ChannelInv c)
    (hcount : c.pipeline.ledgerWrite - c.pipeline.nextFormat = count) :
    Formatted (formatReports ops qpc count c).1 false (log ++ formattedReports ops qpc count c) := by
  induction count generalizing c log with
  | zero =>
      rw [NativeLog.formatReports, formattedReports, List.append_nil]
      exact h.untested
  | succ count ih =>
      have pending : c.pipeline.nextFormat < c.pipeline.ledgerWrite := by omega
      rw [NativeLog.formatReports]
      rcases formatNext_spec ops qpc hc pending with ⟨hf, -⟩ | ⟨hf, -⟩ | ⟨r, hbody,
        ⟨hf, -⟩ | ⟨u, hf, hstep, hstatus, -, hnext, hwrite⟩⟩
      · rw [formattedReports_full hf, List.append_nil, hf]
        exact h.untested
      · rw [formattedReports_lost hf, List.append_nil, hf]
        exact h.closed rfl rfl (loseStatus_revoked _ _ (by decide))
      · rw [formattedReports_lost hf, List.append_nil, hf]
        -- The record has moved the detail on, but nothing is prepared any more.
        obtain ⟨-, hformat, hsame⟩ := renderRecord_detail ops c.pipeline r
        exact h.closed hformat hsame (loseStatus_revoked _ _ (by decide))
      · have hrest := ih (h.formatNext hc pending hbody hstep hnext) (hstep.inv hc) (by omega)
        rw [formattedReports_next hbody hf, hf]
        rwa [List.append_assoc, List.singleton_append] at hrest

theorem drainReports_still (count : Nat) (c : NativeChannel κ) :
    (drainReports count c).1.pipeline.format = c.pipeline.format ∧
      (drainReports count c).1.pipeline.detail = c.pipeline.detail ∧
      (drainReports count c).1.pipeline.nextFormat = c.pipeline.nextFormat := by
  induction count generalizing c with
  | zero => exact ⟨rfl, rfl, rfl⟩
  | succ count ih =>
      rw [drainReports]
      dsimp only
      split
      · exact ⟨rfl, rfl, rfl⟩
      · split
        · exact ⟨rfl, rfl, rfl⟩
        · split
          · exact ⟨rfl, rfl, rfl⟩
          · split
            · exact ih _
            · exact ⟨rfl, rfl, rfl⟩
            · exact ⟨rfl, rfl, rfl⟩

theorem prepare (h : Formatted c true log) (hc : ChannelInv c) (qpc : Nat) :
    Formatted (prepareNativeFrames ops c qpc).1 false (log ++ preparedReports ops c qpc) := by
  by_cases hq : qpc = 0
  · rw [prepareNativeFrames, if_pos (.inr hq), preparedReports, if_pos (.inr (.inl hq)), List.append_nil]
    exact h.untested
  · have hready : ¬((!c.pipeline.initialized) = true ∨ qpc = 0) := by simp [hc.initialized, hq]
    have hready' : ¬((!c.pipeline.initialized) = true ∨ qpc = 0 ∨ (!ledgerValid c.pipeline) = true) := by
      simp [hc.initialized, hq, hc.ledgerValid]
    rw [prepareNativeFrames, if_neg hready, if_neg (by simp [hc.ledgerValid]), preparedReports, if_neg hready']
    obtain ⟨hformat, hdetail, hnext⟩ := drainReports_still kReportBatchLimit c
    obtain ⟨u, hrun, hstatus, ⟨hd, -⟩ | ⟨hd, -⟩⟩ := drainReports_spec ops qpc kReportBatchLimit hc
    · rw [hd] at hformat hdetail hnext ⊢
      have hu : Formatted u true log := h.still hformat hnext fun _ => ⟨.inl rfl, hdetail⟩
      exact hu.formatReports (Prepares.inv hrun hc) rfl
    · rw [hd] at hformat hdetail hnext ⊢
      rw [List.append_nil]
      exact h.closed hformat hnext (loseStatus_revoked _ _ (by decide))

end Formatted

structure Unmoved (c c' : NativeChannel κ) : Prop where
  format : c'.pipeline.format = c.pipeline.format
  detail : c'.pipeline.detail = c.pipeline.detail
  next : c'.pipeline.nextFormat = c.pipeline.nextFormat
  revoked : statusRevoked c.status = true → statusRevoked c'.status = true

namespace Unmoved

theorem refl (c : NativeChannel κ) : Unmoved c c := ⟨rfl, rfl, rfl, id⟩

theorem trans {c'' : NativeChannel κ} (h : Unmoved c c') (h' : Unmoved c' c'') : Unmoved c c'' :=
  ⟨h'.format.trans h.format, h'.detail.trans h.detail, h'.next.trans h.next, fun hr => h'.revoked (h.revoked hr)⟩

theorem lose (c : NativeChannel κ) (reason : Reason) : Unmoved c (c.lose reason) :=
  ⟨rfl, rfl, rfl, loseStatus_keeps _ _⟩

theorem formatted (h : Unmoved c c') (hc : Formatted c tested log) : Formatted c' tested log := by
  refine hc.still h.format h.next fun hready => ⟨hready.imp_right fun hopen => ?_, h.detail⟩
  by_contra hrevoked
  rw [h.revoked (Bool.eq_true_of_not_eq_false hrevoked)] at hopen
  cases hopen

theorem peek (c : NativeChannel κ) : Unmoved c (peekNativeFrame c).1 := by
  rw [peekNativeFrame]
  dsimp only
  split
  · exact refl c
  · split
    · exact lose c _
    · split
      · exact refl c
      · split
        · exact lose c _
        · exact refl c

theorem release (c : NativeChannel κ) (ticket : Nat) : Unmoved c (releaseNativeFrame c ticket).1 := by
  have hpeek := peek c
  rw [releaseNativeFrame]
  split
  · rename_i hp
    rw [hp] at hpeek
    exact hpeek.trans (lose _ _)
  · rename_i hp
    rw [hp] at hpeek
    split
    · exact hpeek.trans (lose _ _)
    · exact hpeek.trans ⟨rfl, rfl, rfl, id⟩

theorem receipt (ops : NativeHashOps κ) (c : NativeChannel κ) (bytes : List UInt8) :
    Unmoved c (matchNativeReceipt ops c bytes).2 := by
  rw [matchNativeReceipt]
  dsimp only
  split
  · exact refl c
  · split
    · exact ⟨rfl, rfl, rfl, loseStatus_keeps _ _⟩
    · split
      · exact ⟨rfl, rfl, rfl, id⟩
      · split
        · exact ⟨rfl, rfl, rfl, id⟩
        · exact ⟨rfl, rfl, rfl, id⟩

theorem acknowledge (c : NativeChannel κ) (owner : OwnerSnapshotV3) :
    Unmoved c (acknowledgeNativeReceipt c owner).1 := by
  rw [acknowledgeNativeReceipt]
  dsimp only
  split
  · exact refl c
  · split
    · exact lose c _
    · split
      · split
        · exact refl c
        · exact ⟨rfl, rfl, rfl, id⟩
      · split
        · exact refl c
        · split
          · exact lose c _
          · exact ⟨rfl, rfl, rfl, id⟩

theorem enqueue (status : StatusWords) (ring : ReportRingV3) (thread : UInt32) (r : ReportRecordV3)
    (h : statusRevoked status = true) : statusRevoked (enqueueReport status ring thread r).1 = true := by
  rw [enqueueReport]
  dsimp only
  split
  · exact h
  · split
    · exact revokeStatus_keeps _ _ h
    · split
      · exact h
      · split
        · exact loseStatus_keeps _ _ h
        · split
          · exact loseStatus_keeps _ _ h
          · split
            · exact loseStatus_keeps _ _ h
            · split
              · exact loseStatus_keeps _ _ h
              · exact h

theorem action {s : NativeSystem κ} {a : NativeAction} (beside : a.Beside s) :
    Unmoved s.channel (s.next ops a).channel := by
  cases a with
  | enqueue r => exact ⟨rfl, rfl, rfl, enqueue _ _ _ _⟩
  | peek => exact peek s.channel
  | submit =>
      rw [NativeSystem.next]
      split
      · exact refl _
      · rw [NativeSystem.submit]
        split
        · exact lose _ _
        · split
          · exact refl _
          · exact refl _
  | release =>
      rw [NativeSystem.next]
      split
      · exact refl _
      · exact release _ _
  | publish => exact refl _
  | prepare qpc => exact beside.elim
  | receipt bytes => exact receipt ops _ bytes
  | acknowledge o => exact acknowledge _ o
  | latch status => exact ⟨rfl, rfl, rfl, beside⟩

end Unmoved

theorem NativeSystem.Initial.formatted {s : NativeSystem κ} (h : s.Initial) : Formatted s.channel false [] := by
  obtain ⟨records, status, owner, hashContext, oldHash, context, old, qpc, -, hinit, -⟩ := h
  generalize s.channel = c at hinit ⊢
  rw [initializeNativePipeline] at hinit
  split at hinit
  · cases hinit
  · split at hinit
    · cases hinit
    · cases hinit
      refine ⟨fun k r f hk => ?_, fun _ => rfl, rfl, fun k r f hk => ?_⟩
      · cases hk
      · cases hk

theorem FormatRun.formatted {s : NativeSystem κ} (h : FormatRun ops s tested log) : Formatted s.channel tested log := by
  induction h with
  | init h => exact h.formatted
  | test _ hopen ih => exact ih.still rfl rfl fun _ => ⟨.inr hopen, rfl⟩
  | prepare hrun qpc ih => exact ih.prepare hrun.run.inv.channel qpc
  | other _ _ beside ih => exact (Unmoved.action beside).formatted ih

theorem Entered.compact (h : Entered r) (kind : RecordKindV3) (hkind : RecordKindV3.ofCode r.header.kind = some kind) :
    kind.compact = true := by
  obtain rfl := Option.some.inj (h.symm.trans hkind)
  rfl

theorem Closes.compact (h : Closes e r) (kind : RecordKindV3) (hkind : RecordKindV3.ofCode r.header.kind = some kind) :
    kind.compact = true := by
  obtain ⟨hr | hr, -⟩ := h
  · obtain rfl := Option.some.inj (hr.symm.trans hkind)
    rfl
  · obtain rfl := Option.some.inj (hr.symm.trans hkind)
    rfl

theorem getElem?_fst {x : ReportRecordV3 × NativeReadyFrame} (h : log[n]? = some x) :
    (log.map Prod.fst)[n]? = some x.1 := by
  rw [List.getElem?_map, h]
  rfl

/-- The records are formatted once each, in order, and the text of each frame shows one detail. A builder pair has one
detail. From a request on every pair entered is detailed until four late pairs are complete, and then none until the
next request. -/
theorem recovery_detail_pairing {s : NativeSystem κ} (h : FormatRun ops s tested log)
    (hmode : s.channel.pipeline.format.config.diagnostics = .operational) :
    (∀ n r f, log[n]? = some (r, f) →
      r.header.sequence.toNat = n + 1 ∧ ∃ detail, Shows s.channel.pipeline.format r f detail) ∧
    (∀ i j e f r g detail detail', Pair (log.map Prod.fst) i j → log[i]? = some (e, f) → log[j]? = some (r, g) →
      Shows s.channel.pipeline.format e f detail → Shows s.channel.pipeline.format r g detail' → detail' = detail) ∧
    ∀ a q n e f detail, Attempt (log.map Prod.fst) a q n → log[n]? = some (e, f) → Entered e →
      Shows s.channel.pipeline.format e f detail →
        (detail = true ↔ (finished (log.map Prod.fst) a q n).ncard < 4) := by
  have hf := h.formatted
  refine ⟨fun n r f hn => ?_, fun i j e f r g detail detail' hpair hi hj hshows hshows' => ?_,
    fun a q n e f detail hattempt hn hentered hshows => ?_⟩
  · obtain ⟨detail, -, hshows⟩ := hf.shown n r f hn
    exact ⟨hf.sequences n r f hn, detail, hshows⟩
  · obtain ⟨e', r', hopen, hr', hcloses⟩ := id hpair
    obtain rfl := Option.some.inj (hopen.1.symm.trans (getElem?_fst hi))
    obtain rfl := Option.some.inj (hr'.symm.trans (getElem?_fst hj))
    obtain ⟨d, hd, hd'⟩ := hf.shown i _ f hi
    obtain ⟨d', he, he'⟩ := hf.shown j _ g hj
    rw [hshows.unique hmode hopen.2.1.compact hd', hshows'.unique hmode hcloses.compact he']
    exact Option.some.inj (he.symm.trans ((detailOf_pair hmode hpair).trans hd))
  · obtain ⟨d, hd, hd'⟩ := hf.shown n e f hn
    rw [hshows.unique hmode hentered.compact hd', ← detailOf_enter hmode hattempt (getElem?_fst hn) hentered, hd]
    exact Option.some_inj.symm

def detailedFormat : NativeFormatContext := { sampleFormat with config := ⟨.repair, .operational⟩ }

def detailedChannel : NativeChannel Unit × TransportReason :=
  initializeNativePipeline ⟨.clear, initializeReportRing 9, .zeroed () detailedFormat⟩ detailedFormat () 1

def sampleRequest : ReportRecordV3 :=
  ⟨{ (default : ReportHeader) with qpc := 100, kind := RecordKindV3.recovery.code },
    { (default : ReportPayloadV3) with recovery := { (default : ReportRecoveryPayload) with phase := recoveryPhaseRequested } }⟩

def sampleEntry : ReportRecordV3 :=
  ⟨{ (default : ReportHeader) with qpc := 101, kind := RecordKindV3.builderEnter.code }, default⟩

def sampleReturn : ReportRecordV3 :=
  ⟨{ (default : ReportHeader) with qpc := 102, kind := RecordKindV3.builderReturn.code }, default⟩

def recordedSystem : NativeSystem Unit :=
  (((NativeSystem.fresh detailedChannel.1).next constantOps (.enqueue sampleRequest)).next constantOps
    (.enqueue sampleEntry)).next constantOps (.enqueue sampleReturn)

/-- The status is revoked between the worker's test and its preparation. -/
def revokedSystem : NativeSystem Unit :=
  recordedSystem.next constantOps (.latch (revokeStatus recordedSystem.channel.status .clockFailed))

def sampleFormatted : List (ReportRecordV3 × NativeReadyFrame) := preparedReports constantOps revokedSystem.channel 1

theorem sampleFormatted_checked : detailedChannel.2 = .none ∧
    ((NativeSystem.fresh detailedChannel.1).next constantOps (.enqueue sampleRequest)).generatedSequence = 1 ∧
    (((NativeSystem.fresh detailedChannel.1).next constantOps (.enqueue sampleRequest)).next constantOps
      (.enqueue sampleEntry)).generatedSequence = 2 ∧
    statusRevoked recordedSystem.channel.status = false ∧
    (revokedSystem.next constantOps (.prepare 1)).channel.pipeline.format.config.diagnostics = .operational ∧
    sampleFormatted.map Prod.fst = [canonicalRecord sampleRequest 1 9, canonicalRecord sampleEntry 2 9,
      canonicalRecord sampleReturn 3 9] := by decide +kernel

theorem sampleFormatted_run : ∃ s log, FormatRun constantOps s false log ∧
    s.channel.pipeline.format.config.diagnostics = .operational ∧
    log.map Prod.fst = [canonicalRecord sampleRequest 1 9, canonicalRecord sampleEntry 2 9,
      canonicalRecord sampleReturn 3 9] := by
  obtain ⟨hready, hone, htwo, hopen, hchecked⟩ := sampleFormatted_checked
  have heq : initializeNativePipeline ⟨.clear, initializeReportRing 9, .zeroed () detailedFormat⟩ detailedFormat () 1 =
      (detailedChannel.1, .none) := by
    have h := pair_eq hready
    rw [detailedChannel] at h ⊢
    exact h
  have hinit : FormatRun constantOps (NativeSystem.fresh detailedChannel.1) false [] :=
    .init ⟨[], NativeSystem.fresh_initial heq⟩
  have hfirst := hinit.other (a := .enqueue sampleRequest) (Nat.lt_add_left _ (Nat.zero_lt_succ 255)) trivial
  have hsecond := hfirst.other (a := .enqueue sampleEntry)
    (by rw [NativeAction.Allowed, hone]; exact Nat.lt_add_left _ (by decide)) trivial
  have hthird := hsecond.other (a := .enqueue sampleReturn)
    (by rw [NativeAction.Allowed, htwo]; exact Nat.lt_add_left _ (by decide)) trivial
  have hrecorded : FormatRun constantOps recordedSystem false [] := hthird
  have htested := hrecorded.test hopen
  have hrevoked := htested.other (a := .latch (revokeStatus recordedSystem.channel.status .clockFailed)) trivial
    (revokeStatus_keeps _ _)
  rw [← revokedSystem] at hrevoked
  have hrun := hrevoked.prepare 1
  rw [List.nil_append, ← sampleFormatted] at hrun
  exact ⟨_, _, hrun, hchecked⟩

/-- The pair after a request is detailed, though the status is closed by then. -/
theorem recovery_detail_pairing_sample : ∃ s log, FormatRun constantOps s false log ∧ Pair (log.map Prod.fst) 1 2 ∧
    ∃ e f r g, log[1]? = some (e, f) ∧ log[2]? = some (r, g) ∧
      Shows s.channel.pipeline.format e f true ∧ Shows s.channel.pipeline.format r g true := by
  obtain ⟨s, log, hrun, hmode, hlog⟩ := sampleFormatted_run
  have hlength : log.length = 3 := List.length_map Prod.fst ▸ congrArg List.length hlog
  have hone : log[1]? = some (log[1].1, log[1].2) := List.getElem?_eq_getElem (by omega)
  have htwo : log[2]? = some (log[2].1, log[2].2) := List.getElem?_eq_getElem (by omega)
  have hpair : Pair (log.map Prod.fst) 1 2 := by
    rw [hlog]
    exact ⟨_, _, ⟨rfl, rfl, by decide, fun k r hk hk' => by omega⟩, rfl, .inl rfl, rfl, rfl, rfl⟩
  have hattempt : Attempt (log.map Prod.fst) (canonicalRecord sampleRequest 1 9) 0 1 := by
    rw [hlog]
    exact ⟨rfl, ⟨rfl, rfl⟩, by decide, fun k r hk hk' => by omega⟩
  have hentered : Entered log[1].1 := by
    have hentry := (getElem?_fst hone).symm.trans (congrArg (·[1]?) hlog)
    rw [Option.some.inj hentry]
    rfl
  obtain ⟨hall, hpairs, hentries⟩ := recovery_detail_pairing hrun hmode
  obtain ⟨-, detail, hshows⟩ := hall _ _ _ hone
  obtain ⟨-, detail', hshows'⟩ := hall _ _ _ htwo
  have hdetail : detail = true := by
    rw [hentries _ _ _ _ _ _ hattempt hone hentered hshows, finished_request, Set.ncard_empty]
    decide
  have hsame := hpairs 1 2 _ _ _ _ _ _ hpair hone htwo hshows hshows'
  rw [hsame, hdetail] at hshows'
  rw [hdetail] at hshows
  exact ⟨s, log, hrun, hpair, _, _, _, _, hone, htwo, hshows, hshows'⟩

end RS2ServerFix.NativeLog
