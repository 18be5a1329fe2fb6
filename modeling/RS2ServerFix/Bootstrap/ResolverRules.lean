import RS2ServerFix.Bootstrap.ResolverRuns

namespace RS2ServerFix.Bootstrap

open Lib

variable {κ : Type}

abbrev Callers (κ : Type) : Type := Crew κ Op Op.Answer (World κ) GenuineDispatchLease

def unresolved : World κ where
  normal := none
  fallbackState := .empty
  record := fun _ => noDispatch
  writer := none
  modules := Custody.empty 0
  records := Custody.empty 0

def start : Callers κ := ⟨unresolved, fun _ => .done noLease⟩

def unknowing : Known := ⟨none, none, false, fun _ => none⟩

theorem fits_start (i : κ) : Fits unresolved i unknowing where
  modules := Custody.Holds.empty 0 i
  records := Custody.Holds.empty 0 i
  writing := by simp [unknowing, unresolved]
  sees p d hno := by cases hno

theorem not_published_start (p : Place) : ¬(unresolved : World κ).Published p := by
  simp [World.Published, unresolved]

theorem whole_start : Whole (unresolved : World κ) where
  bornModules := Custody.Born.empty 0
  bornRecords := Custody.Born.empty 0
  strayModules := rfl
  strayRecords := rfl
  writer := by simp [unresolved]
  apart n m hn := absurd rfl hn.1
  normal p hp := by cases hp
  complete p hp := absurd hp (not_published_start p)
  retained p hp := absurd hp (not_published_start p)
  once r r' p hr := by cases hr
  modulesPublished r p hr := by cases hr
  recordsPublished n p hn := by cases hn

section Runs

variable [DecidableEq κ] {ops : GenuineResolverOps} {bootstrap : Nat}

def Reaches (ops : GenuineResolverOps) (bootstrap : Nat) : Callers κ → Callers κ → Prop :=
  Crew.Run (responds bootstrap) (starts ops bootstrap) outside

/-- What the callers know, since a state that is long past. -/
abbrev Going (ops : GenuineResolverOps) (bootstrap : Nat) (past : World κ) : Callers κ → (κ → Known) → Prop :=
  Crew.Going (fun _ => view bootstrap) (fun ls s => Agrees ls s ∧ Keeps past s) (fun _ => Rest ops)

theorem sound (past : World κ) :
    Crew.Sound (fun _ => view bootstrap) (fun ls s => Agrees ls s ∧ Keeps past s) (fun _ => Rest ops)
      (responds bootstrap) (starts ops bootstrap) outside where
  asks i q s answer t ls h hmay hr := by
    obtain ⟨l, hl, ht, hkeeps⟩ := h.1.asks hmay hr
    exact ⟨l, hl, ht, h.2.trans hkeeps⟩
  starts i lease p s t ls h hrest hstarts := by
    obtain ⟨rfl, rfl | ⟨hinvalid, rfl⟩⟩ := hstarts
    · exact ⟨ls i, ⟨h.1.keep i, h.2⟩, release_abides hrest⟩
    · refine ⟨ls i, ⟨h.1.keep i, h.2⟩, acquire_abides ⟨?_, hrest.record, hrest.writing⟩⟩
      rw [hrest.nothing fun hno => by simp [hinvalid] at hno]
      rfl
  outside s t ls h hno := hno.elim

omit [DecidableEq κ] in
theorem going_start : Going ops bootstrap unresolved (start : Callers κ) fun _ => unknowing where
  agrees := ⟨⟨fits_start, whole_start⟩, .refl _⟩
  abides i := {
    record := rfl
    writing := rfl
    complete := fun hno => by cases hno
    carries := fun hno => by cases hno
    nothing := fun _ => rfl }

/-- Each reference that was taken was returned, or is behind a published record, or
is in the hands of a caller: on the way, or with its lease. -/
structure Accounted (x : Callers κ) : Prop where
  strays : x.state.modules.stray = 0 ∧ x.state.records.stray = 0
  references : ∀ r < x.state.modules.next, x.state.modules.fate r = .returned ∨
    (∃ p, x.state.modules.fate r = .published p ∧ x.state.Published p) ∨
    ∃ i, x.state.modules.fate r = .held i ∧ ∀ lease, x.program i = .done lease →
      lease.valid = true ∧ lease.releaseModuleOnClose = true ∧ lease.dispatch.module = x.state.modules.thing r
  retained : ∀ p, x.state.Published p → isCompleteDispatch (x.state.record p) = true ∧ ∃ r,
    x.state.modules.fate r = .published p ∧ x.state.modules.thing r = (x.state.record p).module ∧
      ∀ r', x.state.modules.fate r' = .published p → r' = r
  records : ∀ n < x.state.records.next, x.state.records.fate n = .returned ∨
    x.state.records.fate n = .published (.heap (x.state.records.thing n)) ∧
      x.state.Published (.heap (x.state.records.thing n)) ∨
    ∃ i, x.state.records.fate n = .held i ∧ ∀ lease, x.program i ≠ .done lease
  leases : ∀ i lease, x.program i = .done lease → lease.valid = true → isCompleteDispatch lease.dispatch = true ∧
    (lease.releaseModuleOnClose = true → ∃ r, x.state.modules.fate r = .held i ∧
      x.state.modules.thing r = lease.dispatch.module ∧ ∀ r', x.state.modules.fate r' = .held i → r' = r)

/-- The reference that a lease carries is there until its release, which returns it. -/
def Carried (ops : GenuineResolverOps) (x z : Callers κ) : Prop :=
  ∀ i lease r, x.program i = .done lease → lease.valid = true → lease.releaseModuleOnClose = true →
    x.state.modules.fate r = .held i →
    z.state.modules.fate r = .returned ∨ z.state.modules.fate r = .held i ∧
      (z.program i = .done lease ∨ z.program i = releaseGenuineX3AudioLease ops lease)

omit [DecidableEq κ] in
theorem accounted {past : World κ} {x : Callers κ} {ls : κ → Known} (h : Going ops bootstrap past x ls) :
    Accounted x := by
  have hwhole := h.agrees.1.whole
  have hrest : ∀ i lease, x.program i = .done lease → Rest ops lease (ls i) := by
    intro i lease hlease
    have habides := h.abides i
    rw [hlease] at habides
    exact habides
  refine ⟨⟨hwhole.strayModules, hwhole.strayRecords⟩, fun r hr => ?_, fun p hp => ?_, fun n hn => ?_,
    fun i lease hlease hvalid => ?_⟩
  · cases hfate : x.state.modules.fate r with
    | unborn =>
        have hno := (hwhole.bornModules r).mp hfate
        omega
    | returned => exact Or.inl rfl
    | published p => exact Or.inr (Or.inl ⟨p, rfl, hwhole.modulesPublished r p hfate⟩)
    | held i =>
        refine Or.inr (Or.inr ⟨i, rfl, fun lease hlease => ?_⟩)
        have hmodules := (h.agrees.1.fits i).modules
        obtain ⟨m, hm⟩ := (hmodules.held r).mp hfate
        have hcarries : lease.valid = true ∧ lease.releaseModuleOnClose = true := by
          by_contra hno
          have hnone := (hrest i lease hlease).nothing fun hvalid => by
            by_contra hrelease
            exact hno ⟨hvalid, by simpa using hrelease⟩
          rw [hnone] at hm
          cases hm
        obtain ⟨-, r', hr'⟩ := (hrest i lease hlease).carries hcarries.1 hcarries.2
        rw [hr'] at hmodules
        rw [hmodules.eq_of_held hfate]
        exact ⟨hcarries.1, hcarries.2, (hmodules.thing r' _ rfl).symm⟩
  · obtain ⟨r, hr, hmodule⟩ := hwhole.retained p hp
    exact ⟨hwhole.complete p hp, r, hr, hmodule, fun r' hr' => hwhole.once r' r p hr' hr⟩
  · cases hfate : x.state.records.fate n with
    | unborn =>
        have hno := (hwhole.bornRecords n).mp hfate
        omega
    | returned => exact Or.inl rfl
    | published p =>
        obtain ⟨hp, rfl⟩ := hwhole.recordsPublished n p hfate
        exact Or.inr (Or.inl ⟨rfl, hp⟩)
    | held i =>
        refine Or.inr (Or.inr ⟨i, rfl, fun lease hlease => ?_⟩)
        obtain ⟨a, ha⟩ := ((h.agrees.1.fits i).records.held n).mp hfate
        rw [(hrest i lease hlease).record] at ha
        cases ha
  · refine ⟨(hrest i lease hlease).complete hvalid, fun hrelease => ?_⟩
    obtain ⟨-, r, hr⟩ := (hrest i lease hlease).carries hvalid hrelease
    have hmodules := (h.agrees.1.fits i).modules
    rw [hr] at hmodules
    exact ⟨r, hmodules.held_self, hmodules.thing r _ rfl, fun r' hr' => hmodules.eq_of_held hr'⟩

theorem release_eq {lease : GenuineDispatchLease} {l : Known} (h : Rest ops lease l) (hvalid : lease.valid = true)
    (hrelease : lease.releaseModuleOnClose = true) : releaseGenuineX3AudioLease ops lease =
      .ask (.freeLibrary lease.dispatch.module) fun _ => .done noLease := by
  have hcomplete := h.complete hvalid
  have hops := (h.carries hvalid hrelease).1
  simp only [isCompleteDispatch, Bool.and_eq_true, decide_eq_true_eq] at hcomplete
  rw [releaseGenuineX3AudioLease, if_pos ⟨hvalid, hrelease, hcomplete.1.1.2, hops⟩]
  rfl

theorem held_other {past : World κ} {x : Callers κ} {ls : κ → Known} (h : Going ops bootstrap past x ls) {i j : κ}
    (hne : i ≠ j) {l : Known} {t : World κ} (ht : Agrees (Function.update ls j l) t) {r : Nat}
    (hheld : x.state.modules.fate r = .held i) : t.modules.fate r = .held i := by
  have hfits := ht.fits i
  rw [Function.update_of_ne hne] at hfits
  exact (hfits.modules.held r).mpr (((h.agrees.1.fits i).modules.held r).mp hheld)

theorem carried_step {past : World κ} {x y : Callers κ} {ls : κ → Known} (h : Going ops bootstrap past x ls) {i : κ}
    {lease : GenuineDispatchLease} {r : Nat} (hvalid : lease.valid = true)
    (hask : releaseGenuineX3AudioLease ops lease = .ask (.freeLibrary lease.dispatch.module) fun _ => .done noLease)
    (hheld : x.state.modules.fate r = .held i)
    (hat : x.program i = .done lease ∨ x.program i = releaseGenuineX3AudioLease ops lease)
    (hs : Crew.Step (responds bootstrap) (starts ops bootstrap) outside x y) :
    y.state.modules.fate r = .returned ∨ y.state.modules.fate r = .held i ∧
      (y.program i = .done lease ∨ y.program i = releaseGenuineX3AudioLease ops lease) := by
  cases hs with
  | @asks j q next answer t hp hr =>
      by_cases hji : i = j
      · subst hji
        rw [hp, hask] at hat
        rcases hat with hno | heq
        · cases hno
        · have habides := h.abides i
          rw [hp, heq] at habides
          obtain ⟨r', hhand⟩ := habides.1
          have hmodules := (h.agrees.1.fits i).modules
          rw [hhand] at hmodules
          cases heq
          obtain ⟨c, hc, rfl⟩ := hr
          rw [hmodules.returned hc, hmodules.eq_of_held hheld]
          exact Or.inl (Function.update_self _ _ _)
      · have habides := h.abides j
        rw [hp] at habides
        obtain ⟨l, -, ht, -⟩ := h.agrees.1.asks habides.1 hr
        refine Or.inr ⟨held_other h hji ht hheld, ?_⟩
        simp only [Function.update_of_ne hji]
        exact hat
  | @starts j a p t hp hstarts =>
      obtain ⟨rfl, hprogram⟩ := hstarts
      refine Or.inr ⟨hheld, ?_⟩
      by_cases hji : i = j
      · subst hji
        rw [hp, hask] at hat
        simp only [Function.update_self]
        rcases hat with heq | hno
        · cases heq
          rcases hprogram with hrelease | ⟨hno, -⟩
          · exact Or.inr hrelease
          · rw [hvalid] at hno
            cases hno
        · cases hno
      · simp only [Function.update_of_ne hji]
        exact hat
  | outside hno => exact hno.elim

theorem carried {past : World κ} {x z : Callers κ} {ls : κ → Known} (h : Going ops bootstrap past x ls)
    (hr : Reaches ops bootstrap x z) : Carried ops x z := by
  intro i lease r hlease hvalid hrelease hheld
  have hrest := h.abides i
  rw [hlease] at hrest
  have hask := release_eq hrest hvalid hrelease
  induction hr with
  | refl => exact Or.inr ⟨hheld, Or.inl hlease⟩
  | @tail y z hxy hs ih =>
      obtain ⟨ls', hgoing⟩ := Crew.Going.run (sound past) h hxy
      rcases ih with hreturned | ⟨hheld', hat⟩
      · obtain ⟨ls'', hlater⟩ := Crew.Going.step (sound y.state) ⟨⟨hgoing.agrees.1, .refl _⟩, hgoing.abides⟩ hs
        exact Or.inl (hlater.agrees.2.modules.returned r hreturned)
      · exact carried_step hgoing hvalid hask hheld' hat hs

theorem resolver_accounts {x : Callers κ} (hr : Reaches ops bootstrap start x) :
    Accounted x ∧ ∀ z, Reaches ops bootstrap x z → Keeps x.state z.state ∧ Carried ops x z := by
  obtain ⟨ls, h⟩ := Crew.Going.run (sound unresolved) going_start hr
  refine ⟨accounted h, fun z hz => ⟨?_, carried h hz⟩⟩
  obtain ⟨ls', h'⟩ := Crew.Going.run (sound x.state) ⟨⟨h.agrees.1, .refl _⟩, h.abides⟩ hz
  exact h'.agrees.2

end Runs

section Sample

def sampleDispatch : X3AudioDispatch := ⟨5, 7, 8, .ok, 0⟩

/-- A caller has its reference and its record, and has not written there yet. -/
def World.prepare (s : World Bool) (i : Bool) (address : Nat) : World Bool :=
  { s.load i 5 with records := s.records.take i address }

theorem prepares {s : World Bool} (hempty : s.fallbackState = .empty) (i : Bool) {address : Nat}
    (hfresh : ∀ n, s.records.Live n → s.records.thing n ≠ address) :
    Leads (responds 1 i) (acquireGenuineX3Audio productionGenuineResolverOps 1) s
      (publishRecord productionGenuineResolverOps sampleDispatch (.heap address)) (s.prepare i address) := by
  have hrefused : ∀ checkOnly (t : World Bool), responds 1 i (.beginOnce checkOnly) t (false, true, .null) t :=
    fun _ _ => ⟨(fun hno => by cases hno), rfl⟩
  have hbegun : responds 1 i (.beginOnce false) s (true, true, .null) s := ⟨(fun _ hno => by cases hno), rfl⟩
  have hfallback : responds 1 i .fallbackState s .empty s := ⟨hempty.symm, rfl⟩
  have hpath : responds 1 i .buildSystemPath s (true, [], 0) s := rfl
  have hload : responds 1 i (.loadSystemLibrary []) s (5, 0) (s.load i 5) := rfl
  have hmodule : responds 1 i (.getModulePath 5) (s.load i 5) (true, [], 0) (s.load i 5) := rfl
  have hidentity : responds 1 i (.queryFileIdentity []) (s.load i 5) (true, ⟨0, 0, 0, true⟩, 0) (s.load i 5) := rfl
  have hfirst : responds 1 i (.getExport 5 .x3DAudioInitialize) (s.load i 5) (7, 0) (s.load i 5) := rfl
  have hsecond : responds 1 i (.getExport 5 .x3DAudioCalculate) (s.load i 5) (8, 0) (s.load i 5) := rfl
  have hbase : ∀ f, responds 1 i (.queryAllocationBase f) (s.load i 5) (true, 5, 0) (s.load i 5) := fun _ => rfl
  have hloaded : responds 1 i .fallbackState (s.load i 5) .empty (s.load i 5) := ⟨hempty.symm, rfl⟩
  have hallocate : responds 1 i .allocateDispatch (s.load i 5) (.heap address) (s.prepare i address) :=
    Or.inr ⟨address, rfl, hfresh, rfl⟩
  exact .ask (hrefused _ _) (.ask hfallback (.ask hbegun (.ask hpath (.ask hload (.ask hmodule (.ask hidentity
    (.ask hidentity (.ask hfirst (.ask hsecond (.ask (hbase _) (.ask (hbase _) (.ask (hrefused _ _) (.ask hloaded
      (.ask hallocate (.here _ _)))))))))))))))

theorem publishes {s : World Bool} (hnormal : s.normal = none) :
    ∃ events, Goes (responds 1 true) (publishRecord productionGenuineResolverOps sampleDispatch (.heap 4)) s events
      (persistent sampleDispatch) ((s.write (.heap 4) sampleDispatch).complete true (.heap 4)) := by
  have hwrite : responds 1 true (.writeRecord (.heap 4) sampleDispatch) s () (s.write (.heap 4) sampleDispatch) := rfl
  have hcomplete : responds 1 true (.completeOnce (.heap 4)) (s.write (.heap 4) sampleDispatch) true
      ((s.write (.heap 4) sampleDispatch).complete true (.heap 4)) := Or.inl ⟨rfl, hnormal, rfl⟩
  have hwritten : ((s.write (.heap 4) sampleDispatch).complete true (.heap 4)).record (.heap 4) = sampleDispatch := by
    simp [World.complete, World.write]
  exact ⟨_, .ask hwrite (.ask hcomplete (.ask ⟨hwritten.symm, rfl⟩ (.done _ _)))⟩

def World.withdraw (s : World Bool) : World Bool :=
  { s.write (.heap 8) sampleDispatch with records := s.records.give 0, modules := s.modules.give 0 }

theorem loses {s : World Bool} (hnormal : s.normal = some (.heap 4)) (hrecord : s.record (.heap 4) = sampleDispatch)
    (hmodule : s.modules.fate 0 = .held false ∧ s.modules.thing 0 = 5)
    (hallocated : s.records.fate 0 = .held false ∧ s.records.thing 0 = 8) :
    ∃ events, Goes (responds 1 false) (publishRecord productionGenuineResolverOps sampleDispatch (.heap 8)) s events
      (persistent sampleDispatch) s.withdraw := by
  have hwrite : responds 1 false (.writeRecord (.heap 8) sampleDispatch) s () (s.write (.heap 8) sampleDispatch) := rfl
  have hlate : responds 1 false (.completeOnce (.heap 8)) (s.write (.heap 8) sampleDispatch) false
      (s.write (.heap 8) sampleDispatch) := Or.inr ⟨rfl, rfl⟩
  have hbegun : responds 1 false (.beginOnce true) (s.write (.heap 8) sampleDispatch) (true, false, .heap 4)
      (s.write (.heap 8) sampleDispatch) := ⟨fun _ _ _ => hnormal, rfl⟩
  have hother : (s.write (.heap 8) sampleDispatch).record (.heap 4) = sampleDispatch := by
    simp [World.write, hrecord]
  have hread : responds 1 false (.readRecord (.heap 4)) (s.write (.heap 8) sampleDispatch) sampleDispatch
      (s.write (.heap 8) sampleDispatch) := ⟨hother.symm, rfl⟩
  have hfree : responds 1 false (.freeDispatch (.heap 8)) (s.write (.heap 8) sampleDispatch) true
      { s.write (.heap 8) sampleDispatch with records := s.records.give 0 } :=
    ⟨8, _, rfl, Or.inl ⟨0, hallocated.1, hallocated.2, rfl⟩, rfl⟩
  have hreturn : responds 1 false (.freeLibrary 5)
      { s.write (.heap 8) sampleDispatch with records := s.records.give 0 } true s.withdraw :=
    ⟨_, Or.inl ⟨0, hmodule.1, hmodule.2, rfl⟩, rfl⟩
  exact ⟨_, .ask hwrite (.ask hlate (.ask hbegun (.ask hread (.ask hread (.ask hfree (.ask hreturn (.done _ _)))))))⟩

/-- Two callers have prepared, and the second one has published. -/
noncomputable def overtaken : World Bool :=
  (((unresolved.prepare false 8).prepare true 4).write (.heap 4) sampleDispatch).complete true (.heap 4)

theorem overtaken_record : overtaken.record (.heap 4) = sampleDispatch := by
  simp [overtaken, World.complete, World.write]

theorem overtaken_modules : overtaken.modules.fate 0 = .held false ∧ overtaken.modules.thing 0 = 5 ∧
    overtaken.modules.fate 1 = .published (.heap 4) := by
  simp [overtaken, World.complete, World.write, World.prepare, World.load, unresolved, Custody.publish, Custody.take,
    Custody.empty]

theorem overtaken_records : overtaken.records.fate 0 = .held false ∧ overtaken.records.thing 0 = 8 ∧
    overtaken.records.fate 1 = .published (.heap 4) := by
  simp [overtaken, World.complete, World.write, World.prepare, World.load, unresolved, Custody.publish, Custody.take,
    Custody.empty]

/-- Two callers resolve at once: one publishes, and the other one frees its record
and its reference. -/
theorem overtaken_reached : ∃ program, Reaches productionGenuineResolverOps 1 start ⟨overtaken.withdraw, program⟩ ∧
    ∀ i, program i = .done (persistent sampleDispatch) := by
  have hnone : ∀ n, (unresolved : World Bool).records.Live n → (unresolved : World Bool).records.thing n ≠ 8 :=
    fun n hn => absurd rfl hn.1
  have hapart : ∀ n, (unresolved.prepare false 8).records.Live n → (unresolved.prepare false 8).records.thing n ≠ 4 := by
    intro n hn
    rcases (Custody.take_live false 8).mp hn with rfl | hn
    · decide
    · exact absurd rfl hn.1
  obtain ⟨_, hpublishes⟩ := publishes (s := (unresolved.prepare false 8).prepare true 4) rfl
  obtain ⟨_, hloses⟩ := loses (s := overtaken) rfl overtaken_record
    ⟨overtaken_modules.1, overtaken_modules.2.1⟩ ⟨overtaken_records.1, overtaken_records.2.1⟩
  have hstarted : Reaches productionGenuineResolverOps 1 (start : Callers Bool) _ :=
    Relation.ReflTransGen.single (.starts (i := false) rfl ⟨rfl, Or.inr ⟨rfl, rfl⟩⟩)
  have hloser := hstarted.trans (Crew.Run.leads (prepares rfl false hnone) (Function.update_self ..))
  have hwinner := (hloser.tail (.starts (i := true) rfl ⟨rfl, Or.inr ⟨rfl, rfl⟩⟩)).trans
    (Crew.Run.leads (prepares rfl true hapart) (Function.update_self ..))
  have hpublished := hwinner.trans (Crew.Run.alone hpublishes (Function.update_self ..))
  refine ⟨_, hpublished.trans (Crew.Run.alone hloses rfl), fun i => ?_⟩
  cases i <;> rfl

theorem resolver_accounts_published : ∃ x : Callers Bool, Reaches productionGenuineResolverOps 1 start x ∧
    x.state.normal = some (.heap 4) ∧ (∀ i, x.program i = .done (persistent sampleDispatch)) ∧
    x.state.modules.fate 0 = .returned ∧ x.state.records.fate 0 = .returned ∧
    x.state.modules.fate 1 = .published (.heap 4) ∧ x.state.records.fate 1 = .published (.heap 4) ∧
    Accounted x ∧ ∀ z, Reaches productionGenuineResolverOps 1 x z →
      Keeps x.state z.state ∧ Carried productionGenuineResolverOps x z := by
  obtain ⟨program, hreached, hprogram⟩ := overtaken_reached
  refine ⟨_, hreached, rfl, hprogram, rfl, rfl, ?_, ?_, resolver_accounts hreached⟩
  · exact (Function.update_of_ne Nat.one_ne_zero Fate.returned _).trans overtaken_modules.2.2
  · exact (Function.update_of_ne Nat.one_ne_zero Fate.returned _).trans overtaken_records.2.2

end Sample

end RS2ServerFix.Bootstrap
