import RS2ServerFix.Image.Memory
import RS2ServerFix.Lib.Serve

namespace RS2ServerFix.Image

open Reporting Lib
open RS2ServerFix.Task (MemoryRegion memCommit memImage pageReadOnly pageReadWrite pageWriteCopy field)

def kReadScopeRegions : Nat := 24
def memPrivate : Nat := 0x20000
def memMapped : Nat := 0x40000
def errorNoAccess : UInt32 := 998

inductive Look
  | query (address : Nat)
  | read (address size : Nat)

def Look.Answer : Look → Type
  | .query _ => Option MemoryRegion × UInt32
  | .read _ size => Option (Vector UInt8 size) × UInt32

def lookQuery (address : Nat) : Told Look Look.Answer UInt32 (Option MemoryRegion) := do
  let answer : Option MemoryRegion × UInt32 ← Told.query (Look.query address)
  set answer.2
  return answer.1

def lookRead (address size : Nat) : Told Look Look.Answer UInt32 (Option (Vector UInt8 size)) := do
  let answer : Option (Vector UInt8 size) × UInt32 ← Told.query (Look.read address size)
  set answer.2
  return answer.1

def lookOps : MemoryOps Look Look.Answer := ⟨some lookQuery, some lookRead⟩

structure ReadScope where
  regions : List MemoryRegion
  deriving DecidableEq, Repr

def cacheable (region : MemoryRegion) (address : Nat) : Bool :=
  region.size ≠ 0 && region.base ≤ address && region.size ≤ uint64Max - region.base && address - region.base < region.size &&
    region.state = memCommit && region.allocationBase ≠ 0 && region.allocationBase ≤ region.base &&
    (region.type = memPrivate || region.type = memImage || region.type = memMapped) && readable region.protect

def ReadScope.lookup (scope : ReadScope) (address : Nat) : Option MemoryRegion :=
  scope.regions.find? fun region => region.base ≤ address && address - region.base < region.size

/-- The answers of the scope, which asks the original operations for what it does not have. -/
def ReadScope.respond (original : (q : Look) → q.Answer) (scope : ReadScope) : (q : Look) → q.Answer × ReadScope
  | .query address =>
      match scope.lookup address with
      | some region => ((some region, errorSuccess), scope)
      | none =>
          let answer : Option MemoryRegion × UInt32 := original (.query address)
          match answer.1 with
          | none => (answer, scope)
          | some region =>
              if scope.regions.length < kReadScopeRegions && cacheable region address then
                (answer, ⟨scope.regions ++ [region]⟩)
              else (answer, scope)
  | .read address size => (original (.read address size), scope)

inductive LoadResult
  | ready (sections : List SectionHeader)
  | fallback
  | invalid

section Sections

variable {Q : Type} {A : Q → Type} (ops : MemoryOps Q A) (base imageSize : Nat)

def readonly (rva size : Nat) : Told Q A UInt32 Bool :=
  Told.aside 0 (imageRangeProtection ops base imageSize rva size pageReadOnly)

def outside (imageSize : Nat) (s : SectionHeader) : Bool :=
  imageSize < s.virtualAddress || imageSize - s.virtualAddress < s.virtualSize

def loadSections (ntRva : Nat) (nt : NtHeaders) : Told Q A UInt32 LoadResult := do
  if !ntPasses imageSize ntRva nt then return .invalid
  let sectionRva := (ntRva + ntHeadersBytes) % 2 ^ 32
  let bytes := nt.numberOfSections * sectionHeaderBytes
  if nt.sizeOfHeaders < sectionRva || nt.sizeOfHeaders - sectionRva < bytes then return .invalid
  if !(← readonly ops base imageSize sectionRva bytes) then return .fallback
  match ← readImageRange ops base imageSize sectionRva bytes with
  | none => return .invalid
  | some sections =>
      let list := (List.range nt.numberOfSections).map (sectionHeader sections.toList)
      if list.any (outside imageSize) then return .invalid
      return .ready list

/-- Headers that are not read-only are not kept: the uncached check reads them at each call. -/
def load : Told Q A UInt32 LoadResult := Told.aside 0 do
  if !(← readonly ops base imageSize 0 dosHeaderBytes) then return .fallback
  match ← readImageRange ops base imageSize 0 dosHeaderBytes with
  | none => return .invalid
  | some dos =>
      if !dosPasses dos.toList then return .invalid
      let ntRva := dosNew dos.toList
      if !(← readonly ops base imageSize ntRva ntHeadersBytes) then return .fallback
      match ← readImageRange ops base imageSize ntRva ntHeadersBytes with
      | none => return .invalid
      | some bytes => loadSections ops base imageSize ntRva (ntHeaders bytes.toList)

def counted (rva size required forbidden : Nat) : List SectionHeader → Option Nat
  | [] => some 0
  | s :: rest =>
      if s.virtualAddress ≤ rva && rva - s.virtualAddress < s.virtualSize &&
          size ≤ s.virtualSize - (rva - s.virtualAddress) then
        if s.characteristics &&& required ≠ required || s.characteristics &&& forbidden ≠ 0 then none
        else (counted rva size required forbidden rest).map (· + 1)
      else counted rva size required forbidden rest

def cachedSectionMatches (kept : Option (List SectionHeader)) (rva size required forbidden : Nat) :
    Told Q A UInt32 (Bool × Option (List SectionHeader)) := do
  if !range base imageSize rva size then return (false, kept)
  match kept with
  | some sections => return (counted rva size required forbidden sections = some 1, kept)
  | none =>
      match ← load ops base imageSize with
      | .fallback => return (← imageSectionMatches ops base imageSize rva size required forbidden, none)
      | .invalid => return (false, none)
      | .ready sections => return (counted rva size required forbidden sections = some 1, some sections)

end Sections

structure Extent where
  start : Nat
  stop : Nat
  allocationBase : Nat
  state : Nat
  type : Nat
  protect : Nat
  deriving DecidableEq, Repr

/-- A fixed partition. What is read may change from moment to moment, except where all of it is read-only. -/
structure Memory where
  extent : Nat → Option Extent
  /-- Where the region begins that a query from the address finds. -/
  suffix : Nat → Nat
  read : (moment address size : Nat) → Option (Vector UInt8 size)
  within : ∀ a x, extent a = some x → x.start ≤ suffix a ∧ suffix a ≤ a ∧ a < x.stop
  partition : ∀ a b x, extent a = some x → x.start ≤ b → b < x.stop → extent b = some x
  steady : ∀ moment moment' address size,
    (∀ a, address ≤ a → a < address + size → ∃ x, extent a = some x ∧ x.protect = pageReadOnly) →
      read moment address size = read moment' address size

namespace Memory

variable (m : Memory)

def query (address : Nat) : Option MemoryRegion :=
  (m.extent address).map fun x =>
    ⟨m.suffix address, x.allocationBase, x.stop - m.suffix address, x.state, x.type, x.protect⟩

def answers (moment : Nat) : (q : Look) → q.Answer
  | .query address => (m.query address, if (m.query address).isSome then errorSuccess else errorInvalidAddress)
  | .read address size =>
      (m.read moment address size, if (m.read moment address size).isSome then errorSuccess else errorNoAccess)

/-- The region is that of the address, from the address or from one before it. -/
def Holds (address : Nat) (region : MemoryRegion) : Prop :=
  ∃ x, m.extent address = some x ∧ x.start ≤ region.base ∧ region.base ≤ address ∧
    region = ⟨region.base, x.allocationBase, x.stop - region.base, x.state, x.type, x.protect⟩

/-- Whoever answers tells of each address the region that it is in, and reads what is there at the moment. -/
structure Truthful {σ : Type} (moment : Nat) (respond : σ → (q : Look) → q.Answer × σ) (I : σ → Prop) : Prop where
  found : ∀ s a x, I s → m.extent a = some x → ∃ region e, (respond s (.query a)).1 = (some region, e) ∧ m.Holds a region
  missing : ∀ s a, I s → m.extent a = none → ∃ e, (respond s (.query a)).1 = (none, e)
  queried : ∀ s a, I s → I (respond s (.query a)).2
  looked : ∀ s a size, I s → ∃ e, (respond s (.read a size)).1 = (m.read moment a size, e) ∧ I (respond s (.read a size)).2

variable {m} in
theorem query_holds {a : Nat} {region : MemoryRegion} (h : m.query a = some region) : m.Holds a region := by
  obtain ⟨x, hx, rfl⟩ := Option.map_eq_some_iff.mp h
  obtain ⟨hstart, hle, -⟩ := m.within a x hx
  exact ⟨x, hx, hstart, hle, rfl⟩

theorem answers_truthful (moment : Nat) (σ : Type) :
    m.Truthful moment (fun (s : σ) q => (m.answers moment q, s)) fun _ => True where
  found _ a x _ hx := by
    have hquery : m.query a = some _ := congrArg _ hx
    exact ⟨_, _, by rw [answers, hquery], query_holds hquery⟩
  missing _ a _ hx := by
    have hquery : m.query a = none := by rw [query, hx, Option.map_none]
    exact ⟨_, by rw [answers, hquery]⟩
  queried _ _ _ := trivial
  looked _ _ _ _ := ⟨_, rfl, trivial⟩

variable {m} in
theorem Truthful.under {σ : Type} {moment : Nat} (h : m.Truthful moment (fun (s : σ) q => (m.answers moment q, s)) fun _ => True)
    (I : σ → Prop) : m.Truthful moment (fun (s : σ) q => (m.answers moment q, s)) I where
  found s a x _ := h.found s a x trivial
  missing s a _ := h.missing s a trivial
  queried _ _ hs := hs
  looked _ _ _ hs := ⟨_, rfl, hs⟩

/-- Every region that the scope keeps was the answer to some query. -/
def Kept (scope : ReadScope) : Prop := ∀ region ∈ scope.regions, ∃ a, m.query a = some region

theorem lookup_holds {scope : ReadScope} (h : m.Kept scope) {a : Nat} {region : MemoryRegion}
    (hlookup : scope.lookup a = some region) : m.Holds a region := by
  obtain ⟨b, hb⟩ := h region (List.mem_of_find?_eq_some hlookup)
  obtain ⟨x, hx, hstart, hle, heq⟩ := query_holds hb
  have hin := List.find?_some hlookup
  simp only [Bool.and_eq_true, decide_eq_true_eq] at hin
  obtain ⟨hbase, hsize⟩ := hin
  have hstop : region.size = x.stop - region.base := congrArg MemoryRegion.size heq
  refine ⟨x, m.partition b a x hx (hstart.trans hbase) (by omega), hstart, hbase, heq⟩

theorem respond_truthful (moment : Nat) :
    m.Truthful moment (fun scope => scope.respond (m.answers moment)) m.Kept where
  found scope a x hkept hx := by
    have hquery : m.query a = some _ := congrArg _ hx
    rw [ReadScope.respond]
    cases hlookup : scope.lookup a with
    | some region => exact ⟨region, _, rfl, m.lookup_holds hkept hlookup⟩
    | none =>
        simp only [answers, hquery]
        split <;> exact ⟨_, _, rfl, query_holds hquery⟩
  missing scope a hkept hx := by
    have hquery : m.query a = none := by rw [query, hx, Option.map_none]
    rw [ReadScope.respond]
    cases hlookup : scope.lookup a with
    | some region =>
        obtain ⟨x, hfound, -⟩ := m.lookup_holds hkept hlookup
        rw [hx] at hfound
        cases hfound
    | none =>
        simp only [answers, hquery]
        exact ⟨_, rfl⟩
  queried scope a hkept := by
    rw [ReadScope.respond]
    cases hlookup : scope.lookup a with
    | some region => exact hkept
    | none =>
        simp only [answers]
        cases hquery : m.query a with
        | none => exact hkept
        | some region =>
            simp only
            split
            · intro r hr
              rcases List.mem_append.mp hr with hr | hr
              · exact hkept r hr
              · rw [List.mem_singleton] at hr
                exact ⟨a, hr ▸ hquery⟩
            · exact hkept
  looked scope a size hkept := ⟨_, rfl, hkept⟩

def extentPasses (base exactProtection : Nat) (x : Extent) : Bool :=
  x.allocationBase = base && x.state = memCommit && x.type = memImage && readable x.protect &&
    (exactProtection = 0 || x.protect = exactProtection) && x.stop ≤ uint64Max

def walked (base exactProtection last : Nat) : Nat → Nat → Bool
  | 0, cursor => last ≤ cursor
  | left + 1, cursor =>
      if cursor < last then
        (m.extent cursor).any fun x => extentPasses base exactProtection x && walked base exactProtection last left (min last x.stop)
      else true

def passes (base imageSize rva size exactProtection : Nat) : Bool :=
  range base imageSize rva size && m.walked base exactProtection (base + rva + size) size (base + rva)

def looked (moment base imageSize rva size : Nat) : Option (Vector UInt8 size) :=
  if m.passes base imageSize rva size 0 then m.read moment (base + rva) size else none

variable {m} in
theorem holds_passes (base exactProtection : Nat) {cursor : Nat} {x : Extent} {region : MemoryRegion} (hx : m.extent cursor = some x)
    (h : m.Holds cursor region) :
    regionPasses base exactProtection cursor region = extentPasses base exactProtection x ∧
      region.base + region.size = x.stop := by
  obtain ⟨y, hy, hstart, hle, heq⟩ := h
  rw [hx, Option.some.injEq] at hy
  subst hy
  obtain ⟨-, -, hstop⟩ := m.within cursor x hx
  rw [heq]
  have hend : region.base + (x.stop - region.base) = x.stop := by omega
  refine ⟨?_, hend⟩
  have hsize : (x.stop - region.base ≤ uint64Max - region.base) = (x.stop ≤ uint64Max) := by
    apply propext
    omega
  have hne : x.stop - region.base ≠ 0 := by omega
  simp only [regionPasses, extentPasses, hend, hle, hstop, hsize, hne, decide_true, Bool.and_true, ne_eq, not_false_eq_true]

section Truthful

variable {m} {σ : Type} {moment : Nat} {respond : σ → (q : Look) → q.Answer × σ} {I : σ → Prop}
  (ht : m.Truthful moment respond I)

include ht

theorem Truthful.lookQuery {β : Type} {a : Nat} {f : Option MemoryRegion → Told Look Look.Answer UInt32 β} {b : β}
    (hnone : m.extent a = none → Told.Comes respond I (f none) b)
    (hsome : ∀ x region, m.extent a = some x → m.Holds a region → Told.Comes respond I (f (some region)) b) :
    Told.Comes respond I (Image.lookQuery a >>= f) b := by
  intro e s hs
  have hkept := ht.queried s a hs
  cases hx : m.extent a with
  | none =>
      obtain ⟨code, hanswer⟩ := ht.missing s a hs hx
      have hrun : ((Image.lookQuery a >>= f).run e).served respond s =
          ((f (respond s (.query a)).1.1).run (respond s (.query a)).1.2).served respond (respond s (.query a)).2 := rfl
      rw [hrun, hanswer]
      exact hnone hx _ _ hkept
  | some x =>
      obtain ⟨region, code, hanswer, hholds⟩ := ht.found s a x hs hx
      have hrun : ((Image.lookQuery a >>= f).run e).served respond s =
          ((f (respond s (.query a)).1.1).run (respond s (.query a)).1.2).served respond (respond s (.query a)).2 := rfl
      rw [hrun, hanswer]
      exact hsome x region hx hholds _ _ hkept

theorem Truthful.lookRead (a size : Nat) : Told.Comes respond I (Image.lookRead a size) (m.read moment a size) := by
  intro e s hs
  obtain ⟨code, hanswer, hkept⟩ := ht.looked s a size hs
  have hrun : ((Image.lookRead a size).run e).served respond s =
      (((respond s (.read a size)).1.1, (respond s (.read a size)).1.2), (respond s (.read a size)).2) := rfl
  rw [hrun, hanswer]
  exact ⟨rfl, hkept⟩

theorem Truthful.regionsFrom (base exactProtection last left cursor : Nat) :
    Told.Comes respond I (Image.regionsFrom Image.lookQuery base exactProtection last left cursor)
      (m.walked base exactProtection last left cursor) := by
  induction left generalizing cursor with
  | zero => exact .pure
  | succ left ih =>
      rw [Image.regionsFrom, walked]
      by_cases hlive : cursor < last
      · rw [if_pos hlive, if_pos hlive]
        refine ht.lookQuery (fun hx => ?_) fun x region hx hholds => ?_
        · rw [hx]
          exact .pure
        · obtain ⟨hpasses, hstop⟩ := holds_passes base exactProtection hx hholds
          simp only [hx, Option.any_some, hpasses, hstop]
          cases extentPasses base exactProtection x with
          | false => exact .pure
          | true => exact ih _
      · rw [if_neg hlive, if_neg hlive]
        exact .pure

theorem Truthful.regions (base imageSize rva size exactProtection : Nat) :
    Told.Comes respond I (Image.regions lookOps base imageSize rva size exactProtection)
      (m.passes base imageSize rva size exactProtection) := by
  refine .bind (.set _) ?_
  rw [passes]
  cases range base imageSize rva size with
  | false => exact .pure
  | true =>
      refine .bind (ht.regionsFrom _ _ _ _ _) ?_
      cases m.walked base exactProtection (base + rva + size) size (base + rva) with
      | false => exact .pure
      | true => exact .bind (.set _) .pure

theorem Truthful.imageRangeProtection (base imageSize rva size protection : Nat) :
    Told.Comes respond I (Image.imageRangeProtection lookOps base imageSize rva size protection)
      (protection ≠ 0 && m.passes base imageSize rva size protection) := by
  rw [Image.imageRangeProtection]
  by_cases hp : protection = 0
  · rw [if_pos hp]
    simp only [hp, ne_eq, not_true_eq_false, decide_false, Bool.false_and]
    exact .pure
  · rw [if_neg hp]
    simp only [hp, ne_eq, not_false_eq_true, decide_true, Bool.true_and]
    exact ht.regions _ _ _ _ _

theorem Truthful.readImageRange (base imageSize rva size : Nat) :
    Told.Comes respond I (Image.readImageRange lookOps base imageSize rva size) (m.looked moment base imageSize rva size) := by
  refine .bind (ht.regions _ _ _ _ _) ?_
  rw [Memory.looked]
  cases m.passes base imageSize rva size 0 with
  | false => exact .pure
  | true => exact ht.lookRead _ _

end Truthful

def headed (moment base imageSize : Nat) : Option (NtHeaders × Nat) :=
  (m.looked moment base imageSize 0 dosHeaderBytes).bind fun dos =>
    if dosPasses dos.toList then
      (m.looked moment base imageSize (dosNew dos.toList) ntHeadersBytes).bind fun bytes =>
        if ntPasses imageSize (dosNew dos.toList) (ntHeaders bytes.toList) then
          some (ntHeaders bytes.toList, dosNew dos.toList)
        else none
    else none

def sectionRva (ntRva : Nat) : Nat := (ntRva + ntHeadersBytes) % 2 ^ 32

def overlong (nt : NtHeaders) (ntRva : Nat) : Bool :=
  nt.sizeOfHeaders < sectionRva ntRva || nt.sizeOfHeaders - sectionRva ntRva < nt.numberOfSections * sectionHeaderBytes

def sectioned (moment base imageSize : Nat) : Option (List SectionHeader) :=
  (m.headed moment base imageSize).bind fun found =>
    if overlong found.1 found.2 then none
    else
      (m.looked moment base imageSize (sectionRva found.2) (found.1.numberOfSections * sectionHeaderBytes)).map fun sections =>
        (List.range found.1.numberOfSections).map (sectionHeader sections.toList)

def matched (moment base imageSize rva size required forbidden : Nat) : Bool :=
  range base imageSize rva size &&
    (m.sectioned moment base imageSize).any fun list => matching imageSize rva size required forbidden list = some 1

section Truthful

variable {m} {σ : Type} {moment : Nat} {respond : σ → (q : Look) → q.Answer × σ} {I : σ → Prop}
  (ht : m.Truthful moment respond I)

include ht

theorem Truthful.headers (base imageSize : Nat) :
    Told.Comes respond I (Image.headers lookOps base imageSize) (m.headed moment base imageSize) := by
  refine .aside 0 (.bind (ht.readImageRange _ _ _ _) ?_)
  rw [headed]
  cases m.looked moment base imageSize 0 dosHeaderBytes with
  | none => exact .pure
  | some dos =>
      rw [Option.bind_some]
      simp only
      cases dosPasses dos.toList with
      | false => exact .pure
      | true =>
          refine .bind (ht.readImageRange _ _ _ _) ?_
          rw [if_pos rfl]
          cases m.looked moment base imageSize (dosNew dos.toList) ntHeadersBytes with
          | none => exact .pure
          | some bytes =>
              simp only [Option.bind_some]
              cases ntPasses imageSize (dosNew dos.toList) (ntHeaders bytes.toList) with
              | false => exact .pure
              | true => exact .pure

theorem Truthful.imageSectionMatches (base imageSize rva size required forbidden : Nat) :
    Told.Comes respond I (Image.imageSectionMatches lookOps base imageSize rva size required forbidden)
      (m.matched moment base imageSize rva size required forbidden) := by
  rw [Image.imageSectionMatches, matched, sectioned]
  cases range base imageSize rva size with
  | false => exact .pure
  | true =>
      refine .bind (ht.headers _ _) ?_
      rcases m.headed moment base imageSize with _ | ⟨nt, ntRva⟩
      · exact .pure
      · rw [Option.bind_some]
        change Told.Comes respond I (if overlong nt ntRva = true then _ else _) _
        cases overlong nt ntRva with
        | true => exact .pure
        | false =>
            refine .bind (.aside 0 (ht.readImageRange _ _ _ _)) ?_
            rw [← sectionRva]
            simp only [Bool.false_eq_true, if_false]
            cases m.looked moment base imageSize (sectionRva ntRva) (nt.numberOfSections * sectionHeaderBytes) with
            | none => exact .pure
            | some sections => exact .pure

end Truthful

theorem walked_readonly {base last left cursor : Nat} (h : m.walked base pageReadOnly last left cursor = true) :
    ∀ a, cursor ≤ a → a < last → ∃ x, m.extent a = some x ∧ x.protect = pageReadOnly := by
  induction left generalizing cursor with
  | zero =>
      rw [walked, decide_eq_true_eq] at h
      intro a ha hlast
      omega
  | succ left ih =>
      intro a ha hlast
      rw [walked, if_pos (by omega)] at h
      cases hx : m.extent cursor with
      | none =>
          rw [hx] at h
          cases h
      | some x =>
          rw [hx, Option.any_some, Bool.and_eq_true] at h
          by_cases hstop : a < x.stop
          · refine ⟨x, m.partition cursor a x hx ?_ hstop, ?_⟩
            · exact (m.within cursor x hx).1.trans ((m.within cursor x hx).2.1.trans ha)
            · have hpasses := h.1
              simp only [extentPasses, Bool.and_eq_true, Bool.or_eq_true, decide_eq_true_eq] at hpasses
              exact hpasses.1.2.resolve_left (by decide)
          · exact ih h.2 a (by omega) hlast

theorem looked_steady {base imageSize rva size : Nat} (h : m.passes base imageSize rva size pageReadOnly = true)
    (moment moment' : Nat) : m.looked moment base imageSize rva size = m.looked moment' base imageSize rva size := by
  rw [passes, Bool.and_eq_true] at h
  rw [looked, looked, m.steady moment moment' (base + rva) size (m.walked_readonly h.2)]

theorem matching_outside {imageSize rva size required forbidden : Nat} {list : List SectionHeader}
    (h : list.any (outside imageSize) = true) : matching imageSize rva size required forbidden list = none := by
  induction list with
  | nil => cases h
  | cons s list ih =>
      rw [List.any_cons, Bool.or_eq_true] at h
      rw [matching, ← outside]
      by_cases hs : outside imageSize s = true
      · exact if_pos hs
      · rw [if_neg hs, ih (h.resolve_left hs)]
        split
        · split <;> rfl
        · rfl

theorem matching_inside {imageSize rva size required forbidden : Nat} {list : List SectionHeader}
    (h : list.any (outside imageSize) = false) :
    matching imageSize rva size required forbidden list = counted rva size required forbidden list := by
  induction list with
  | nil => rfl
  | cons s list ih =>
      rw [List.any_cons, Bool.or_eq_false_iff] at h
      have hs : ¬outside imageSize s = true := by
        rw [h.1]
        exact Bool.false_ne_true
      rw [matching, counted, ih h.2]
      exact if_neg hs

/-- What a load says of the uncached checks at its moment and, where the sections are kept, at any other. -/
def Reported (moment base imageSize : Nat) : LoadResult → Prop
  | .fallback => True
  | .invalid => ∀ rva size required forbidden, m.matched moment base imageSize rva size required forbidden = false
  | .ready sections => ∀ moment' rva size required forbidden, m.matched moment' base imageSize rva size required forbidden =
      (range base imageSize rva size && decide (counted rva size required forbidden sections = some 1))

variable {m} in
theorem reported_invalid {moment base imageSize : Nat}
    (h : ∀ list, m.sectioned moment base imageSize = some list → list.any (outside imageSize) = true) :
    m.Reported moment base imageSize .invalid := by
  intro rva size required forbidden
  rw [matched]
  cases hlist : m.sectioned moment base imageSize with
  | none => rw [Option.any_none, Bool.and_false]
  | some list =>
      rw [Option.any_some, matching_outside (h list hlist)]
      simp

variable {m} in
theorem reported_ready {moment base imageSize : Nat} {list : List SectionHeader}
    (h : ∀ moment', m.sectioned moment' base imageSize = some list) (hinside : list.any (outside imageSize) = false) :
    m.Reported moment base imageSize (.ready list) := by
  intro moment' rva size required forbidden
  rw [matched, h, Option.any_some, matching_inside hinside]

section Truthful

variable {m} {σ : Type} {moment : Nat} {respond : σ → (q : Look) → q.Answer × σ} {I : σ → Prop}
  (ht : m.Truthful moment respond I)

include ht

theorem Truthful.readonly (base imageSize rva size : Nat) :
    Told.Comes respond I (Image.readonly lookOps base imageSize rva size) (m.passes base imageSize rva size pageReadOnly) :=
  .aside 0 (ht.imageRangeProtection _ _ _ _ _)

/-- The load once it has read both headers, of which each is read-only. -/
theorem Truthful.loadTable {base imageSize : Nat} {dos : Vector UInt8 dosHeaderBytes} {bytes : Vector UInt8 ntHeadersBytes}
    (hdosHeader : m.passes base imageSize 0 dosHeaderBytes pageReadOnly = true) (hdos : dosPasses dos.toList = true)
    (hntHeaders : m.passes base imageSize (dosNew dos.toList) ntHeadersBytes pageReadOnly = true)
    (hlook : m.looked moment base imageSize 0 dosHeaderBytes = some dos)
    (hlook' : m.looked moment base imageSize (dosNew dos.toList) ntHeadersBytes = some bytes) :
    Told.ComesTo respond I (loadSections lookOps base imageSize (dosNew dos.toList) (ntHeaders bytes.toList))
      (m.Reported moment base imageSize) := by
  have hheaded : ∀ moment', m.headed moment' base imageSize =
      if ntPasses imageSize (dosNew dos.toList) (ntHeaders bytes.toList) then
        some (ntHeaders bytes.toList, dosNew dos.toList) else none := by
    intro moment'
    rw [headed, m.looked_steady hdosHeader moment' moment, hlook, Option.bind_some, if_pos hdos,
      m.looked_steady hntHeaders moment' moment, hlook', Option.bind_some]
  generalize dosNew dos.toList = ntRva at *
  generalize ntHeaders bytes.toList = nt at *
  rw [loadSections]
  cases hnt : ntPasses imageSize ntRva nt with
  | false =>
      refine .pure (reported_invalid fun list h => ?_)
      rw [sectioned, hheaded, hnt] at h
      cases h
  | true =>
      have hheaded : ∀ moment', m.headed moment' base imageSize = some (nt, ntRva) := fun moment' => by
        rw [hheaded, hnt]
        rfl
      change Told.ComesTo respond I (if overlong nt ntRva = true then _ else _) _
      cases hlong : overlong nt ntRva with
      | true =>
          refine .pure (reported_invalid fun list h => ?_)
          rw [sectioned, hheaded, Option.bind_some, if_pos hlong] at h
          cases h
      | false =>
          have hfits : ¬overlong nt ntRva = true := by
            rw [hlong]
            exact Bool.false_ne_true
          refine .bind (ht.readonly _ _ _ _) ?_
          rw [← sectionRva]
          cases hsections : m.passes base imageSize (sectionRva ntRva) (nt.numberOfSections * sectionHeaderBytes) pageReadOnly with
          | false => exact .pure trivial
          | true =>
              refine .bind (ht.readImageRange _ _ _ _) ?_
              cases htable : m.looked moment base imageSize (sectionRva ntRva) (nt.numberOfSections * sectionHeaderBytes) with
              | none =>
                  refine .pure (reported_invalid fun list h => ?_)
                  rw [sectioned, hheaded, Option.bind_some, if_neg hfits, htable] at h
                  cases h
              | some sections =>
                  have hsectioned : ∀ moment', m.sectioned moment' base imageSize =
                      some ((List.range nt.numberOfSections).map (sectionHeader sections.toList)) := by
                    intro moment'
                    rw [sectioned, hheaded, Option.bind_some, if_neg hfits, m.looked_steady hsections moment' moment, htable]
                    rfl
                  simp only
                  cases hinside : ((List.range nt.numberOfSections).map (sectionHeader sections.toList)).any (outside imageSize) with
                  | true =>
                      refine .pure (reported_invalid fun list h => ?_)
                      rw [hsectioned, Option.some.injEq] at h
                      rw [← h, hinside]
                  | false => exact .pure (reported_ready hsectioned hinside)

theorem Truthful.load (base imageSize : Nat) :
    Told.ComesTo respond I (Image.load lookOps base imageSize) (m.Reported moment base imageSize) := by
  refine .aside 0 (.bind (ht.readonly _ _ _ _) ?_)
  cases hdosHeader : m.passes base imageSize 0 dosHeaderBytes pageReadOnly with
  | false => exact .pure trivial
  | true =>
      refine .bind (ht.readImageRange _ _ _ _) ?_
      cases hlook : m.looked moment base imageSize 0 dosHeaderBytes with
      | none =>
          refine .pure (reported_invalid fun list h => ?_)
          rw [sectioned, headed, hlook] at h
          cases h
      | some dos =>
          simp only
          cases hdos : dosPasses dos.toList with
          | false =>
              refine .pure (reported_invalid fun list h => ?_)
              rw [sectioned, headed, hlook, Option.bind_some, hdos] at h
              cases h
          | true =>
              have hhead : ∀ moment', m.looked moment' base imageSize 0 dosHeaderBytes = some dos := fun moment' =>
                (m.looked_steady hdosHeader moment' moment).trans hlook
              refine .bind (ht.readonly _ _ _ _) ?_
              cases hntHeaders : m.passes base imageSize (dosNew dos.toList) ntHeadersBytes pageReadOnly with
              | false => exact .pure trivial
              | true =>
                  refine .bind (ht.readImageRange _ _ _ _) ?_
                  cases hlook' : m.looked moment base imageSize (dosNew dos.toList) ntHeadersBytes with
                  | none =>
                      refine .pure (reported_invalid fun list h => ?_)
                      rw [sectioned, headed, hlook, Option.bind_some, hdos, if_pos rfl, hlook'] at h
                      cases h
                  | some bytes => exact ht.loadTable hdosHeader hdos hntHeaders hlook hlook'

/-- Sections that are kept say of every moment what the uncached check does. -/
def Known (m : Memory) (base imageSize : Nat) (kept : Option (List SectionHeader)) : Prop :=
  ∀ list ∈ kept, ∀ moment, m.Reported moment base imageSize (.ready list)

theorem Truthful.cachedSectionMatches {base imageSize : Nat} {kept : Option (List SectionHeader)}
    (hkept : m.Known base imageSize kept) (rva size required forbidden : Nat) :
    Told.ComesTo respond I (Image.cachedSectionMatches lookOps base imageSize kept rva size required forbidden) fun r =>
      r.1 = m.matched moment base imageSize rva size required forbidden ∧ m.Known base imageSize r.2 := by
  unfold Image.cachedSectionMatches
  cases hrange : range base imageSize rva size with
  | false =>
      refine .pure ⟨?_, hkept⟩
      rw [matched, hrange, Bool.false_and]
  | true =>
      cases kept with
      | some list =>
          refine .pure ⟨?_, hkept⟩
          rw [hkept list rfl moment moment, hrange, Bool.true_and]
      | none =>
          obtain ⟨r, hload, hreported⟩ := ht.load base imageSize
          refine .bind hload ?_
          cases r with
          | fallback => exact .bind (ht.imageSectionMatches _ _ _ _ _ _) (.pure ⟨rfl, hkept⟩)
          | invalid => exact .pure ⟨(hreported rva size required forbidden).symm, hkept⟩
          | ready list =>
              refine .pure ⟨?_, ?_⟩
              · rw [hreported moment, hrange, Bool.true_and]
              · intro list' hlist'
                cases hlist'
                exact fun _ => hreported

end Truthful

end Memory

inductive Request
  | protection (base imageSize rva size protection : Nat)
  | read (base imageSize rva size : Nat)
  | sections (rva size required forbidden : Nat)
  | resetScope
  | resetSections

inductive Reply
  | passed (b : Bool)
  | bytes (b : Option (List UInt8))
  | done
  deriving DecidableEq, Repr

structure ReadPass where
  scope : ReadScope
  kept : Option (List SectionHeader)

def ReadPass.fresh : ReadPass := ⟨⟨[]⟩, none⟩

section Pass

variable (m : Memory) (base imageSize : Nat)

def sectionRespond (through : Bool) (moment : Nat) (scope : ReadScope) (q : Look) : q.Answer × ReadScope :=
  if through then scope.respond (m.answers moment) q else (m.answers moment q, scope)

def ReadPass.perform (through : Bool) (moment : Nat) (pass : ReadPass) : Request → Reply × ReadPass
  | .protection base imageSize rva size protection =>
      let r := ((imageRangeProtection lookOps base imageSize rva size protection).run errorSuccess).served
        (fun scope => scope.respond (m.answers moment)) pass.scope
      (.passed r.1.1, { pass with scope := r.2 })
  | .read base imageSize rva size =>
      let r := ((readImageRange lookOps base imageSize rva size).run errorSuccess).served
        (fun scope => scope.respond (m.answers moment)) pass.scope
      (.bytes (r.1.1.map Vector.toList), { pass with scope := r.2 })
  | .sections rva size required forbidden =>
      let r := ((cachedSectionMatches lookOps base imageSize pass.kept rva size required forbidden).run errorSuccess).served
        (sectionRespond m through moment) pass.scope
      (.passed r.1.1.1, ⟨r.2, r.1.1.2⟩)
  | .resetScope => (.done, { pass with scope := ⟨[]⟩ })
  | .resetSections => (.done, { pass with kept := none })

def uncached (moment : Nat) : Request → Reply
  | .protection base imageSize rva size protection =>
      .passed (((imageRangeProtection lookOps base imageSize rva size protection).run errorSuccess).answered (m.answers moment)).1
  | .read base imageSize rva size =>
      .bytes ((((readImageRange lookOps base imageSize rva size).run errorSuccess).answered (m.answers moment)).1.map Vector.toList)
  | .sections rva size required forbidden =>
      .passed (((imageSectionMatches lookOps base imageSize rva size required forbidden).run errorSuccess).answered
        (m.answers moment)).1
  | .resetScope => .done
  | .resetSections => .done

def ReadPass.performEach (through : Bool) : ReadPass → List (Nat × Request) → List Reply
  | _, [] => []
  | pass, (moment, request) :: rest =>
      (pass.perform m base imageSize through moment request).1 ::
        ReadPass.performEach through (pass.perform m base imageSize through moment request).2 rest

variable {m base imageSize}

theorem uncached_comes {α : Type} {p : Told Look Look.Answer UInt32 α} {a : α} {moment : Nat}
    (h : Told.Comes (fun (s : Unit) q => (m.answers moment q, s)) (fun _ => True) p a) :
    ((p.run errorSuccess).answered (m.answers moment)).1 = a := by
  have hrun := (h errorSuccess () trivial).1
  rwa [Ask.served_answered] at hrun

theorem sectionRespond_truthful (through : Bool) (moment : Nat) :
    m.Truthful moment (sectionRespond m through moment) m.Kept := by
  cases through with
  | true => exact m.respond_truthful moment
  | false => exact (m.answers_truthful moment ReadScope).under m.Kept

structure ReadPass.Sound (m : Memory) (base imageSize : Nat) (pass : ReadPass) : Prop where
  scope : m.Kept pass.scope
  kept : m.Known base imageSize pass.kept

theorem ReadPass.perform_sound {pass : ReadPass} (h : pass.Sound m base imageSize) (through : Bool) (moment : Nat)
    (request : Request) :
    (pass.perform m base imageSize through moment request).1 = uncached m base imageSize moment request ∧
      (pass.perform m base imageSize through moment request).2.Sound m base imageSize := by
  have hscope := m.respond_truthful moment
  have hplain := m.answers_truthful moment Unit
  cases request with
  | protection b i rva size protection =>
      obtain ⟨hpassed, hkept⟩ := hscope.imageRangeProtection b i rva size protection errorSuccess pass.scope h.scope
      refine ⟨congrArg Reply.passed ?_, hkept, h.kept⟩
      rw [hpassed, uncached_comes (hplain.imageRangeProtection b i rva size protection)]
  | read b i rva size =>
      obtain ⟨hread, hkept⟩ := hscope.readImageRange b i rva size errorSuccess pass.scope h.scope
      refine ⟨congrArg Reply.bytes (congrArg (Option.map Vector.toList) ?_), hkept, h.kept⟩
      rw [hread, uncached_comes (hplain.readImageRange b i rva size)]
  | sections rva size required forbidden =>
      obtain ⟨r, hcomes, hmatched, hknown⟩ :=
        (sectionRespond_truthful through moment).cachedSectionMatches h.kept rva size required forbidden
      obtain ⟨hr, hkept⟩ := hcomes errorSuccess pass.scope h.scope
      refine ⟨congrArg Reply.passed ?_, hkept, ?_⟩
      · rw [hr, hmatched, uncached_comes (hplain.imageSectionMatches base imageSize rva size required forbidden)]
      · dsimp only [ReadPass.perform]
        rw [hr]
        exact hknown
  | resetScope => exact ⟨rfl, fun _ h => absurd h List.not_mem_nil, h.kept⟩
  | resetSections => exact ⟨rfl, h.scope, fun _ h => by cases h⟩

theorem ReadPass.performEach_sound {pass : ReadPass} (h : pass.Sound m base imageSize) (through : Bool)
    (requests : List (Nat × Request)) :
    pass.performEach m base imageSize through requests = requests.map fun r => uncached m base imageSize r.1 r.2 := by
  induction requests generalizing pass with
  | nil => rfl
  | cons r requests ih =>
      obtain ⟨hreply, hsound⟩ := ReadPass.perform_sound h through r.1 r.2
      rw [ReadPass.performEach, List.map_cons, hreply, ih hsound]

end Pass

/-- Through one scope and one pass over the sections of an image, every request is answered as the
original operations would at its moment, whatever was asked before. -/
theorem read_scope_agrees (m : Memory) (base imageSize : Nat) (through : Bool) (requests : List (Nat × Request)) :
    ReadPass.fresh.performEach m base imageSize through requests =
      requests.map fun r => uncached m base imageSize r.1 r.2 :=
  ReadPass.performEach_sound ⟨fun _ h => absurd h List.not_mem_nil, fun _ h => by cases h⟩ through requests

/-- Two pages of an image that are read-only, and two after them that are not. -/
def sampleExtent (address : Nat) : Option Extent :=
  if 4096 ≤ address ∧ address < 12288 then some ⟨4096, 12288, 4096, memCommit, memImage, pageReadOnly⟩
  else if 12288 ≤ address ∧ address < 20480 then some ⟨12288, 20480, 4096, memCommit, memImage, pageReadWrite⟩
  else none

theorem sampleExtent_cases {a : Nat} {x : Extent} (h : sampleExtent a = some x) :
    4096 ≤ a ∧ a < 12288 ∧ x = ⟨4096, 12288, 4096, memCommit, memImage, pageReadOnly⟩ ∨
      12288 ≤ a ∧ a < 20480 ∧ x = ⟨12288, 20480, 4096, memCommit, memImage, pageReadWrite⟩ := by
  rw [sampleExtent] at h
  split at h
  · rename_i hfirst
    exact .inl ⟨hfirst.1, hfirst.2, (Option.some.inj h).symm⟩
  · split at h
    · rename_i hsecond
      exact .inr ⟨hsecond.1, hsecond.2, (Option.some.inj h).symm⟩
    · cases h

/-- A query finds the region from the page of its address on. What is not read-only shows the moment. -/
def sampleMemory : Memory where
  extent := sampleExtent
  suffix address := address / 4096 * 4096
  read moment address size :=
    some (Vector.replicate size (if address + size ≤ 12288 then 0 else moment.toUInt8))
  within a x hx := by
    obtain ⟨hlow, hhigh, rfl⟩ | ⟨hlow, hhigh, rfl⟩ := sampleExtent_cases hx
    · dsimp only
      omega
    · dsimp only
      omega
  partition a b x hx hstart hstop := by
    obtain ⟨hlow, hhigh, rfl⟩ | ⟨hlow, hhigh, rfl⟩ := sampleExtent_cases hx
    · exact if_pos ⟨hstart, hstop⟩
    · have hstart : 12288 ≤ b := hstart
      rw [sampleExtent, if_neg (by omega)]
      exact if_pos ⟨hstart, hstop⟩
  steady moment moment' address size hreadonly := by
    cases size with
    | zero => rfl
    | succ size =>
        obtain ⟨x, hx, hprotect⟩ := hreadonly (address + size) (by omega) (by omega)
        obtain ⟨-, hhigh, rfl⟩ | ⟨-, -, rfl⟩ := sampleExtent_cases hx
        · rw [if_pos (by omega), if_pos (by omega)]
        · cases hprotect

/-- Over the border of the regions, twice again from what the scope keeps, and before that. -/
def sampleRequests : List (Nat × Request) :=
  [(0, .read 4096 16384 8188 6), (0, .protection 4096 16384 8188 6 pageReadOnly), (1, .read 4096 16384 8188 6),
    (1, .protection 4096 16384 100 200 pageReadOnly)]

theorem read_scope_agrees_sample :
    ((ReadPass.fresh.perform sampleMemory 4096 16384 true 0 (.read 4096 16384 8188 6)).2.scope.regions.map
      fun region => (region.base, region.size)) = [(8192, 4096), (12288, 8192)] ∧
    ReadPass.fresh.performEach sampleMemory 4096 16384 true sampleRequests =
      [.bytes (some [0, 0, 0, 0, 0, 0]), .passed false, .bytes (some [1, 1, 1, 1, 1, 1]), .passed true] :=
  ⟨by decide +kernel, (read_scope_agrees sampleMemory 4096 16384 true sampleRequests).trans (by decide +kernel)⟩

end RS2ServerFix.Image
