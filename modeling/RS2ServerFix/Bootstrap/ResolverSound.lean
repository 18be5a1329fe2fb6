import RS2ServerFix.Bootstrap.ResolverWorld

namespace RS2ServerFix.Bootstrap

open Lib

variable {κ : Type} {bootstrap : Nat} {s t : World κ} {i j : κ} {l : Known} {p : Place} {d : X3AudioDispatch}

/-- What is published stays, and so does a fate that is the last one. -/
structure Keeps (s t : World κ) : Prop where
  published : ∀ p, s.Published p → t.Published p ∧ t.record p = s.record p
  modules : s.modules.Kept t.modules
  records : s.records.Kept t.records

theorem Keeps.refl (s : World κ) : Keeps s s := ⟨fun _ h => ⟨h, rfl⟩, .refl _, .refl _⟩

theorem Keeps.trans {u : World κ} (h : Keeps s t) (h' : Keeps t u) : Keeps s u where
  published p hp := by
    obtain ⟨ht, hrecord⟩ := h.published p hp
    obtain ⟨hu, hrecord'⟩ := h'.published p ht
    exact ⟨hu, hrecord'.trans hrecord⟩
  modules := h.modules.trans h'.modules
  records := h.records.trans h'.records

namespace Fits

theorem owns_apart (hwhole : Whole s) (hi : Fits s i l) (hp : l.Owns p) :
    ¬s.Published p ∧ ∀ {j l'}, j ≠ i → Fits s j l' → ¬l'.Owns p := by
  rcases hp with ⟨n, a, hrecord, rfl⟩ | ⟨rfl, hwriting⟩
  · have hheld : s.records.fate n = .held i := (hi.records.held n).mpr ⟨a, hrecord⟩
    have hthing := hi.records.thing n a hrecord
    have hlive : s.records.Live n := by simp [Custody.Live, hheld]
    constructor
    · rintro (hnormal | ⟨hno, -⟩)
      · rcases hwhole.normal _ hnormal with ⟨hno, -⟩ | ⟨m, hm, hpublished⟩
        · cases hno
        · have hsame := hwhole.apart n m hlive (by simp [Custody.Live, hpublished]) (hthing.trans (Place.heap.inj hm))
          rw [← hsame, hheld] at hpublished
          cases hpublished
      · cases hno
    · rintro j l' hj hfits (⟨m, b, hrecord', hb⟩ | ⟨hno, -⟩)
      · have hheld' : s.records.fate m = .held j := (hfits.records.held m).mpr ⟨b, hrecord'⟩
        have hthing' := hfits.records.thing m b hrecord'
        have hsame := hwhole.apart n m hlive (by simp [Custody.Live, hheld'])
          (hthing.trans ((Place.heap.inj hb).trans hthing'.symm))
        rw [← hsame, hheld] at hheld'
        exact hj (Fate.held.inj hheld').symm
      · cases hno
  · have hwriter := hi.writing.mp hwriting
    have hstate : s.fallbackState = .writing := hwhole.writer.mp (by simp [hwriter])
    constructor
    · rintro (hnormal | ⟨-, hready⟩)
      · rcases hwhole.normal _ hnormal with ⟨-, hready⟩ | ⟨m, hm, -⟩
        · rw [hstate] at hready
          cases hready
        · cases hm
      · rw [hstate] at hready
        cases hready
    · rintro j l' hj hfits (⟨m, b, -, hb⟩ | ⟨-, hwriting'⟩)
      · cases hb
      · have hwriter' := hfits.writing.mp hwriting'
        rw [hwriter] at hwriter'
        exact hj (Option.some.inj hwriter').symm

/-- The other one sees what it saw, since that is published or its own. -/
theorem stands (h : Fits s j l) (hmodules : t.modules.Holds j l.reference) (hrecords : t.records.Holds j l.record)
    (hwriter : t.writer = some j ↔ s.writer = some j) (hpublished : ∀ p, s.Published p → t.Published p)
    (hrecord : ∀ p, s.Published p ∨ l.Owns p → t.record p = s.record p) : Fits t j l where
  modules := hmodules
  records := hrecords
  writing := h.writing.trans hwriter.symm
  sees p d hd := by
    obtain ⟨hsame, hwhy⟩ := h.sees p d hd
    refine ⟨(hrecord p hwhy).trans hsame, ?_⟩
    rcases hwhy with hp | hp
    · exact Or.inl (hpublished p hp)
    · exact Or.inr hp

theorem see (h : Fits s i l) (hp : s.Published p) : Fits s i (l.see p (s.record p)) where
  modules := h.modules
  records := h.records
  writing := h.writing
  sees q d hq := by
    by_cases hqp : q = p
    · subst hqp
      simp only [Known.see, Function.update_self, Option.some.injEq] at hq
      exact ⟨hq, Or.inl hp⟩
    · simp only [Known.see, Function.update_of_ne hqp] at hq
      exact h.sees q d hq

end Fits

namespace Whole

theorem withModules (h : Whole s) {c : Custody κ Nat Place} (hborn : c.Born) (hstray : c.stray = 0)
    (hpublished : ∀ r p, c.fate r = .published p ↔ s.modules.fate r = .published p)
    (hthing : ∀ r p, s.modules.fate r = .published p →
      c.thing r = s.modules.thing r) : Whole { s with modules := c } where
  bornModules := hborn
  bornRecords := h.bornRecords
  strayModules := hstray
  strayRecords := h.strayRecords
  writer := h.writer
  apart := h.apart
  normal := h.normal
  complete := h.complete
  retained p hp := by
    obtain ⟨r, hr, hmodule⟩ := h.retained p hp
    exact ⟨r, (hpublished r p).mpr hr, (hthing r p hr).trans hmodule⟩
  once r r' p hr hr' := h.once r r' p ((hpublished r p).mp hr) ((hpublished r' p).mp hr')
  modulesPublished r p hr := h.modulesPublished r p ((hpublished r p).mp hr)
  recordsPublished := h.recordsPublished

theorem withRecords (h : Whole s) {c : Custody κ Nat Place} (hborn : c.Born) (hstray : c.stray = 0)
    (hapart : ∀ n m, c.Live n → c.Live m → c.thing n = c.thing m → n = m)
    (hpublished : ∀ n p, c.fate n = .published p ↔ s.records.fate n = .published p)
    (hthing : ∀ n p, s.records.fate n = .published p →
      c.thing n = s.records.thing n) : Whole { s with records := c } where
  bornModules := h.bornModules
  bornRecords := hborn
  strayModules := h.strayModules
  strayRecords := hstray
  writer := h.writer
  apart := hapart
  normal p hp := by
    rcases h.normal p hp with hfallback | ⟨n, hn, hfate⟩
    · exact Or.inl hfallback
    · refine Or.inr ⟨n, ?_, (hpublished n p).mpr hfate⟩
      rw [hthing n p hfate]
      exact hn
  complete := h.complete
  retained := h.retained
  once := h.once
  modulesPublished := h.modulesPublished
  recordsPublished n p hn := by
    have hfate := (hpublished n p).mp hn
    obtain ⟨hp, hplace⟩ := h.recordsPublished n p hfate
    exact ⟨hp, hplace.trans (congrArg Place.heap (hthing n p hfate)).symm⟩

end Whole

variable [DecidableEq κ] {ls : κ → Known}

theorem Agrees.move (hi : Fits t i l) (hothers : ∀ j ≠ i, Fits t j (ls j)) (hwhole : Whole t) :
    Agrees (Function.update ls i l) t where
  fits := by
    intro j
    by_cases hj : j = i
    · subst hj
      rw [Function.update_self]
      exact hi
    · rw [Function.update_of_ne hj]
      exact hothers j hj
  whole := hwhole

namespace Agrees

theorem keep (h : Agrees ls s) (i : κ) : Agrees (Function.update ls i (ls i)) s := by
  rw [Function.update_eq_self]
  exact h

theorem see (h : Agrees ls s) (i : κ) (hp : s.Published p) :
    Agrees (Function.update ls i ((ls i).see p (s.record p))) s :=
  move ((h.fits i).see hp) (fun j _ => h.fits j) h.whole

theorem load (h : Agrees ls s) (hnone : (ls i).reference = none) (module : Nat) :
    Agrees (Function.update ls i ((ls i).take s.modules.next module)) (s.load i module) ∧
      Keeps s (s.load i module) := by
  have hborn := h.whole.bornModules
  have hkept := Custody.Kept.take hborn i module
  refine ⟨move ?_ (fun j hj => ?_) ?_, ⟨fun p hp => ⟨hp, rfl⟩, hkept, .refl _⟩⟩
  · have hi := (h.fits i).modules
    rw [hnone] at hi
    exact ⟨hi.take module, (h.fits i).records, (h.fits i).writing, (h.fits i).sees⟩
  · exact ⟨(h.fits j).modules.take_other hborn hj module, (h.fits j).records, (h.fits j).writing, (h.fits j).sees⟩
  · refine h.whole.withModules (hborn.take i module) h.whole.strayModules (fun r p =>
      Custody.take_published hborn i module) ?_
    intro r p hr
    exact hkept.thing r (by simp [hr])

theorem freeLibrary (h : Agrees ls s) {r module : Nat} (hhand : (ls i).reference = some (r, module))
    {c : Custody κ Nat Place} (hc : s.modules.Returned c i module) :
    Agrees (Function.update ls i (ls i).give) { s with modules := c } ∧ Keeps s { s with modules := c } := by
  have hi := (h.fits i).modules
  rw [hhand] at hi
  have hheld := hi.held_self
  rw [hi.returned hc]
  have hkept := Custody.Kept.give hheld
  refine ⟨move ?_ (fun j hj => ?_) ?_, ⟨fun p hp => ⟨hp, rfl⟩, hkept, .refl _⟩⟩
  · exact ⟨hi.give, (h.fits i).records, (h.fits i).writing, (h.fits i).sees⟩
  · exact ⟨(h.fits j).modules.give_other hj hheld, (h.fits j).records, (h.fits j).writing, (h.fits j).sees⟩
  · exact h.whole.withModules (h.whole.bornModules.give hheld) h.whole.strayModules
      (fun r p => Custody.give_published hheld) fun _ _ _ => rfl

theorem allocate (h : Agrees ls s) (hnone : (ls i).record = none) {a : Nat}
    (ha : ∀ n, s.records.Live n → s.records.thing n ≠ a) :
    Agrees (Function.update ls i ((ls i).allocate s.records.next a)) { s with records := s.records.take i a } ∧
      Keeps s { s with records := s.records.take i a } := by
  have hborn := h.whole.bornRecords
  have hkept := Custody.Kept.take hborn i a
  have hold : ∀ n, s.records.Live n → n ≠ s.records.next := by
    rintro n hn rfl
    exact hn.1 hborn.next_unborn
  refine ⟨move ?_ (fun j hj => ?_) ?_, ⟨fun p hp => ⟨hp, rfl⟩, .refl _, hkept⟩⟩
  · have hi := (h.fits i).records
    rw [hnone] at hi
    refine ⟨(h.fits i).modules, hi.take a, (h.fits i).writing, fun p d hd => ?_⟩
    obtain ⟨hsame, hp | ⟨n, b, hno, -⟩ | hp⟩ := (h.fits i).sees p d hd
    · exact ⟨hsame, Or.inl hp⟩
    · rw [hnone] at hno
      cases hno
    · exact ⟨hsame, Or.inr (Or.inr hp)⟩
  · exact ⟨(h.fits j).modules, (h.fits j).records.take_other hborn hj a, (h.fits j).writing, (h.fits j).sees⟩
  · refine h.whole.withRecords (hborn.take i a) h.whole.strayRecords (fun n m hn hm hsame => ?_)
      (fun n p => Custody.take_published hborn i a) fun n p hn => hkept.thing n (by simp [hn])
    rw [Custody.take_live] at hn hm
    by_cases hn' : n = s.records.next
    · rcases hm with hm | hm
      · exact hn'.trans hm.symm
      · subst hn'
        simp only [Custody.take, Function.update_self, Function.update_of_ne (hold m hm)] at hsame
        exact absurd hsame.symm (ha m hm)
    · have hlive := hn.resolve_left hn'
      rcases hm with rfl | hm
      · simp only [Custody.take, Function.update_self, Function.update_of_ne hn'] at hsame
        exact absurd hsame (ha n hlive)
      · simp only [Custody.take, Function.update_of_ne hn', Function.update_of_ne (hold m hm)] at hsame
        exact h.whole.apart n m hlive hm hsame

theorem freeDispatch (h : Agrees ls s) {n a : Nat} (hhand : (ls i).record = some (n, a)) {c : Custody κ Nat Place}
    (hc : s.records.Returned c i a) :
    Agrees (Function.update ls i ((ls i).forget (.heap a))) { s with records := c } ∧
      Keeps s { s with records := c } := by
  have hi := (h.fits i).records
  rw [hhand] at hi
  have hheld := hi.held_self
  rw [hi.returned hc]
  have hkept := Custody.Kept.give hheld
  refine ⟨move ?_ (fun j hj => ?_) ?_, ⟨fun p hp => ⟨hp, rfl⟩, .refl _, hkept⟩⟩
  · refine ⟨(h.fits i).modules, hi.give, (h.fits i).writing, fun p d hd => ?_⟩
    by_cases hpa : p = .heap a
    · subst hpa
      simp [Known.forget] at hd
    · simp only [Known.forget, Function.update_of_ne hpa] at hd
      obtain ⟨hsame, hp | ⟨m, b, hrecord, rfl⟩ | hp⟩ := (h.fits i).sees p d hd
      · exact ⟨hsame, Or.inl hp⟩
      · rw [hhand] at hrecord
        obtain ⟨-, rfl⟩ := Prod.mk.inj (Option.some.inj hrecord)
        exact absurd rfl hpa
      · exact ⟨hsame, Or.inr (Or.inr hp)⟩
  · exact ⟨(h.fits j).modules, (h.fits j).records.give_other hj hheld, (h.fits j).writing, (h.fits j).sees⟩
  · refine h.whole.withRecords (h.whole.bornRecords.give hheld) h.whole.strayRecords (fun m m' hm hm' hsame => ?_)
      (fun n p => Custody.give_published hheld) fun _ _ _ => rfl
    rw [Custody.give_live] at hm hm'
    exact h.whole.apart m m' hm.2 hm'.2 hsame

theorem write (h : Agrees ls s) (hp : (ls i).Owns p) (d : X3AudioDispatch) :
    Agrees (Function.update ls i ((ls i).see p d)) (s.write p d) ∧ Keeps s (s.write p d) := by
  obtain ⟨hnot, hapart⟩ := (h.fits i).owns_apart h.whole hp
  have hrecord : ∀ q, s.Published q → (s.write p d).record q = s.record q := by
    intro q hq
    have hqp : q ≠ p := by
      rintro rfl
      exact hnot hq
    simp [World.write, Function.update_of_ne hqp]
  refine ⟨move ?_ (fun j hj => ?_) ?_, ⟨fun q hq => ⟨hq, hrecord q hq⟩, .refl _, .refl _⟩⟩
  · refine ⟨(h.fits i).modules, (h.fits i).records, (h.fits i).writing, fun q e hq => ?_⟩
    by_cases hqp : q = p
    · subst hqp
      simp only [Known.see, Function.update_self, Option.some.injEq] at hq
      exact ⟨by simp [World.write, hq], Or.inr hp⟩
    · simp only [Known.see, Function.update_of_ne hqp] at hq
      obtain ⟨hsame, hwhy⟩ := (h.fits i).sees q e hq
      exact ⟨by simpa [World.write, Function.update_of_ne hqp] using hsame, hwhy⟩
  · refine (h.fits j).stands (h.fits j).modules (h.fits j).records Iff.rfl (fun q hq => hq) fun q hq => ?_
    rcases hq with hq | hq
    · exact hrecord q hq
    · have hqp : q ≠ p := by
        rintro rfl
        exact hapart hj (h.fits j) hq
      simp [World.write, Function.update_of_ne hqp]
  · exact { h.whole with
      complete := fun q hq => by
        rw [hrecord q hq]
        exact h.whole.complete q hq
      retained := fun q hq => by
        rw [hrecord q hq]
        exact h.whole.retained q hq }

theorem startWriting (h : Agrees ls s) (hempty : s.fallbackState = .empty) :
    Agrees (Function.update ls i (ls i).startWriting) (s.startWriting i) ∧ Keeps s (s.startWriting i) := by
  have hwriter : s.writer = none := by
    by_contra hno
    have hstate := h.whole.writer.mp hno
    rw [hempty] at hstate
    cases hstate
  have hpublished : ∀ p, s.Published p ↔ (s.startWriting i).Published p := by
    intro p
    simp [World.Published, World.startWriting, hempty]
  refine ⟨move ?_ (fun j hj => ?_) ?_, ⟨fun p hp => ⟨(hpublished p).mp hp, rfl⟩, .refl _, .refl _⟩⟩
  · refine ⟨(h.fits i).modules, (h.fits i).records, ⟨fun _ => rfl, fun _ => rfl⟩, fun p d hd => ?_⟩
    obtain ⟨hsame, hp | hp | ⟨rfl, -⟩⟩ := (h.fits i).sees p d hd
    · exact ⟨hsame, Or.inl ((hpublished p).mp hp)⟩
    · exact ⟨hsame, Or.inr (Or.inl hp)⟩
    · exact ⟨hsame, Or.inr (Or.inr ⟨rfl, rfl⟩)⟩
  · refine (h.fits j).stands (h.fits j).modules (h.fits j).records ?_ (fun q hq => (hpublished q).mp hq) fun _ _ => rfl
    simp [World.startWriting, hwriter, hj.symm]
  · exact { h.whole with
      writer := by simp [World.startWriting]
      normal := fun p hp => by
        rcases h.whole.normal p hp with ⟨-, hready⟩ | hheap
        · rw [hempty] at hready
          cases hready
        · exact Or.inr hheap
      complete := fun p hp => h.whole.complete p ((hpublished p).mpr hp)
      retained := fun p hp => h.whole.retained p ((hpublished p).mpr hp)
      modulesPublished := fun r p hr => (hpublished p).mp (h.whole.modulesPublished r p hr)
      recordsPublished := fun n p hn => by
        obtain ⟨hp, hplace⟩ := h.whole.recordsPublished n p hn
        exact ⟨(hpublished p).mp hp, hplace⟩ }

omit [DecidableEq κ] in
theorem retained_publish (h : Agrees ls s) (hnot : ¬s.Published p) (hbehind : (ls i).Behind p)
    (hpublished : ∀ q, t.Published q ↔ s.Published q ∨ q = p) (hrecord : t.record = s.record)
    (hmodules : t.modules = s.modules.publish i p) :
    (∀ q, t.Published q → isCompleteDispatch (t.record q) = true) ∧
      (∀ q, t.Published q → ∃ r, t.modules.fate r = .published q ∧ t.modules.thing r = (t.record q).module) ∧
        (∀ r r' q, t.modules.fate r = .published q → t.modules.fate r' = .published q → r = r') ∧
          ∀ r q, t.modules.fate r = .published q → t.Published q := by
  obtain ⟨d, r, hsees, hcomplete, hhand⟩ := hbehind
  have hd := ((h.fits i).sees p d hsees).1
  have hi := (h.fits i).modules
  rw [hhand] at hi
  have hfate : ∀ r q, t.modules.fate r = .published q ↔
      s.modules.fate r = .published q ∨ s.modules.fate r = .held i ∧ q = p := by
    intro r q
    rw [hmodules]
    exact Custody.publish_published i p
  have hno : ∀ r, s.modules.fate r ≠ .published p := fun r hr => hnot (h.whole.modulesPublished r p hr)
  refine ⟨fun q hq => ?_, fun q hq => ?_, fun r' r'' q hr' hr'' => ?_, fun r' q hr' => ?_⟩
  · rw [hrecord]
    rcases (hpublished q).mp hq with hq | rfl
    · exact h.whole.complete q hq
    · rw [hd]
      exact hcomplete
  · rw [hrecord]
    rcases (hpublished q).mp hq with hq | rfl
    · obtain ⟨r', hr', hmodule⟩ := h.whole.retained q hq
      refine ⟨r', (hfate r' q).mpr (Or.inl hr'), ?_⟩
      rw [hmodules]
      exact hmodule
    · refine ⟨r, (hfate r q).mpr (Or.inr ⟨hi.held_self, rfl⟩), ?_⟩
      rw [hmodules, hd]
      exact hi.thing r d.module rfl
  · rcases (hfate r' q).mp hr' with hr' | ⟨hr', rfl⟩
    · rcases (hfate r'' q).mp hr'' with hr'' | ⟨-, rfl⟩
      · exact h.whole.once r' r'' q hr' hr''
      · exact absurd hr' (hno r')
    · rcases (hfate r'' _).mp hr'' with hr'' | ⟨hr'', -⟩
      · exact absurd hr'' (hno r'')
      · exact (hi.eq_of_held hr').trans (hi.eq_of_held hr'').symm
  · rw [hpublished]
    rcases (hfate r' q).mp hr' with hr' | ⟨-, rfl⟩
    · exact Or.inl (h.whole.modulesPublished r' q hr')
    · exact Or.inr rfl

theorem setReady (h : Agrees ls s) (hwriting : (ls i).writing = true) (hbehind : (ls i).Behind .fallback) :
    Agrees (Function.update ls i (ls i).setReady) (s.setReady i) ∧ Keeps s (s.setReady i) := by
  have hwriter := (h.fits i).writing.mp hwriting
  have hstate : s.fallbackState = .writing := h.whole.writer.mp (by simp [hwriter])
  have hnot := ((h.fits i).owns_apart h.whole (Or.inr ⟨rfl, hwriting⟩)).1
  have hpublished : ∀ q, (s.setReady i).Published q ↔ s.Published q ∨ q = .fallback := by
    intro q
    simp [World.Published, World.setReady, hstate]
  obtain ⟨hcomplete, hretained, honce, hmodules⟩ := h.retained_publish hnot hbehind hpublished rfl rfl
  refine ⟨move ?_ (fun j hj => ?_) ?_,
    ⟨fun p hp => ⟨(hpublished p).mpr (Or.inl hp), rfl⟩, Custody.Kept.publish i _, .refl _⟩⟩
  · have hnone : (s.modules.publish i Place.fallback).Holds i none := Custody.Holds.publish _
    refine ⟨hnone, (h.fits i).records, ?_, fun p d hd => ?_⟩
    · simp [Known.setReady, World.setReady]
    · obtain ⟨hsame, hp | hp | ⟨rfl, -⟩⟩ := (h.fits i).sees p d hd
      · exact ⟨hsame, Or.inl ((hpublished p).mpr (Or.inl hp))⟩
      · exact ⟨hsame, Or.inr (Or.inl hp)⟩
      · exact ⟨hsame, Or.inl ((hpublished _).mpr (Or.inr rfl))⟩
  · refine (h.fits j).stands ((h.fits j).modules.publish_other hj .fallback) (h.fits j).records ?_
      (fun q hq => (hpublished q).mpr (Or.inl hq)) fun _ _ => rfl
    simp [World.setReady, hwriter, hj.symm]
  · exact {
      bornModules := h.whole.bornModules.publish i .fallback
      bornRecords := h.whole.bornRecords
      strayModules := h.whole.strayModules
      strayRecords := h.whole.strayRecords
      writer := by simp [World.setReady]
      apart := h.whole.apart
      normal := fun p hp => by
        rcases h.whole.normal p hp with ⟨hfallback, -⟩ | hheap
        · exact Or.inl ⟨hfallback, rfl⟩
        · exact Or.inr hheap
      complete := hcomplete
      retained := hretained
      once := honce
      modulesPublished := hmodules
      recordsPublished := fun n p hn => by
        obtain ⟨hp, hplace⟩ := h.whole.recordsPublished n p hn
        exact ⟨(hpublished p).mpr (Or.inl hp), hplace⟩ }

theorem completeFallback (h : Agrees ls s) (hnormal : s.normal = none) (hp : s.Published .fallback) :
    Agrees (Function.update ls i (ls i)) (s.complete i .fallback) ∧ Keeps s (s.complete i .fallback) := by
  have hready : s.fallbackState = .ready := by
    rcases hp with hno | ⟨-, hready⟩
    · rw [hnormal] at hno
      cases hno
    · exact hready
  have hpublished : ∀ q, ({ s with normal := some .fallback } : World κ).Published q ↔ s.Published q := by
    intro q
    simp only [World.Published, hnormal, hready, Option.some.injEq, reduceCtorEq, false_or, and_true]
    exact ⟨fun hq => hq.elim Eq.symm id, Or.inr⟩
  rw [World.complete, if_pos rfl]
  refine ⟨move ?_ (fun j hj => ?_) ?_, ⟨fun q hq => ⟨(hpublished q).mpr hq, rfl⟩, .refl _, .refl _⟩⟩
  · exact (h.fits i).stands (h.fits i).modules (h.fits i).records Iff.rfl (fun q hq =>
      (hpublished q).mpr hq) fun _ _ => rfl
  · exact (h.fits j).stands (h.fits j).modules (h.fits j).records Iff.rfl (fun q hq =>
      (hpublished q).mpr hq) fun _ _ => rfl
  · exact { h.whole with
      normal := fun q hq => Or.inl ⟨(Option.some.inj hq).symm, hready⟩
      complete := fun q hq => h.whole.complete q ((hpublished q).mp hq)
      retained := fun q hq => h.whole.retained q ((hpublished q).mp hq)
      modulesPublished := fun r q hr => (hpublished q).mpr (h.whole.modulesPublished r q hr)
      recordsPublished := fun n q hn => by
        obtain ⟨hq, hplace⟩ := h.whole.recordsPublished n q hn
        exact ⟨(hpublished q).mpr hq, hplace⟩ }

theorem completeRecord (h : Agrees ls s) (hnormal : s.normal = none) {n a : Nat} (hhand : (ls i).record = some (n, a))
    (hbehind : (ls i).Behind (.heap a)) :
    Agrees (Function.update ls i (ls i).publish) (s.complete i (.heap a)) ∧ Keeps s (s.complete i (.heap a)) := by
  have hnot := ((h.fits i).owns_apart h.whole (Or.inl ⟨n, a, hhand, rfl⟩)).1
  have hi := (h.fits i).records
  rw [hhand] at hi
  have hcase : s.complete i (.heap a) = { s with
      normal := some (.heap a), modules := s.modules.publish i (.heap a), records := s.records.publish i (.heap a) } :=
    if_neg (by simp)
  have hpublished : ∀ q, (s.complete i (.heap a)).Published q ↔ s.Published q ∨ q = .heap a := by
    intro q
    rw [hcase]
    simp only [World.Published, hnormal, Option.some.injEq, reduceCtorEq, false_or]
    tauto
  have hfate : ∀ m q, (s.records.publish i (.heap a)).fate m = .published q ↔
      s.records.fate m = .published q ∨ s.records.fate m = .held i ∧ q = .heap a := fun m q =>
        Custody.publish_published i _
  obtain ⟨hcomplete, hretained, honce, hmodules⟩ := h.retained_publish hnot hbehind hpublished (by rw [hcase]) (by rw [hcase])
  rw [hcase] at hpublished hcomplete hretained honce hmodules ⊢
  refine ⟨move ?_ (fun j hj => ?_) ?_,
    ⟨fun p hp => ⟨(hpublished p).mpr (Or.inl hp), rfl⟩, Custody.Kept.publish i _, Custody.Kept.publish i _⟩⟩
  · refine ⟨Custody.Holds.publish _, Custody.Holds.publish _, (h.fits i).writing, fun p d hd => ?_⟩
    obtain ⟨hsame, hp | ⟨m, b, hrecord, rfl⟩ | hp⟩ := (h.fits i).sees p d hd
    · exact ⟨hsame, Or.inl ((hpublished p).mpr (Or.inl hp))⟩
    · rw [hhand] at hrecord
      obtain ⟨-, rfl⟩ := Prod.mk.inj (Option.some.inj hrecord)
      exact ⟨hsame, Or.inl ((hpublished _).mpr (Or.inr rfl))⟩
    · exact ⟨hsame, Or.inr (Or.inr hp)⟩
  · exact (h.fits j).stands ((h.fits j).modules.publish_other hj _) ((h.fits j).records.publish_other hj _) Iff.rfl
      (fun q hq => (hpublished q).mpr (Or.inl hq)) fun _ _ => rfl
  · exact {
      bornModules := h.whole.bornModules.publish i _
      bornRecords := h.whole.bornRecords.publish i _
      strayModules := h.whole.strayModules
      strayRecords := h.whole.strayRecords
      writer := h.whole.writer
      apart := fun m m' hm hm' hsame =>
        h.whole.apart m m' ((Custody.publish_live i _).mp hm) ((Custody.publish_live i _).mp hm') hsame
      normal := fun p hp => by
        obtain rfl := Option.some.inj hp
        refine Or.inr ⟨n, ?_, (hfate n _).mpr (Or.inr ⟨hi.held_self, rfl⟩)⟩
        exact congrArg Place.heap (hi.thing n a rfl).symm
      complete := hcomplete
      retained := hretained
      once := honce
      modulesPublished := hmodules
      recordsPublished := fun m q hm => by
        rcases (hfate m q).mp hm with hold | ⟨hheld, rfl⟩
        · obtain ⟨hq, hplace⟩ := h.whole.recordsPublished m q hold
          exact ⟨(hpublished q).mpr (Or.inl hq), hplace⟩
        · refine ⟨(hpublished _).mpr (Or.inr rfl), ?_⟩
          rw [hi.eq_of_held hheld]
          exact congrArg Place.heap (hi.thing n a rfl).symm }

end Agrees

end RS2ServerFix.Bootstrap
