import RS2ServerFix.PeReader.Tables

namespace RS2ServerFix.PeReader

def maximumFileBytes : Nat := 512 * 1024 * 1024

def parsePeBytes (bytes : List UInt8) : Except String Image := do
  let (headers, parsed) ← readHeaders bytes
  let reader : RvaReader := ⟨bytes, headers⟩
  let normalImports ← parseImports reader
  let delayImports ← parseDelayImports reader
  parseTls reader
  let (exportFunctionCount, exportSymbols) ← parseExports reader
  return { parsed with
    normalImports := normalImports
    delayImports := delayImports
    exportFunctionCount := exportFunctionCount
    exportSymbols := exportSymbols
    rawBytes := bytes }

/-- What is returned, the output as it is left and the text of the error.
`threw` tells that memory ran out before the parse had come to an end. -/
def readPeBytes (threw : Bool) (bytes : List UInt8) : Bool × Image × String :=
  let image := Image.empty
  if bytes.isEmpty ∨ maximumFileBytes < bytes.length then (false, image, "invalid file size")
  else
    match (if threw then .error "PE parsing allocation failure" else parsePeBytes bytes) with
    | .error text => (false, image, text)
    | .ok parsed => (true, parsed, "")

def Section.span (s : Section) : Nat := max s.virtualSize s.rawSize

def findSection (image : Image) (rva size : Nat) : Option Section :=
  image.sections.find? fun s =>
    s.virtualAddress ≤ rva && rva - s.virtualAddress < s.span && size ≤ s.span - (rva - s.virtualAddress)

def rawOffset (image : Image) (rva size : Nat) : Option Nat :=
  if rva < image.sizeOfHeaders then if size > image.sizeOfHeaders - rva then none else some rva
  else
    match findSection image rva size with
    | none => none
    | some s =>
        if rva - s.virtualAddress > s.rawSize || size > s.rawSize - (rva - s.virtualAddress) then none
        else some (s.rawOffset + rva - s.virtualAddress)

def mapImageRva (image : Image) (rva size : Nat) : Option Nat :=
  if image.sizeOfImage ≤ rva || size > image.sizeOfImage - rva then none
  else
    match rawOffset image rva size with
    | none => none
    | some raw => if raw > image.rawBytes.length || size > image.rawBytes.length - raw then none else some raw

structure InSection (s : Section) (rva size raw : Nat) : Prop where
  start : s.virtualAddress ≤ rva
  stop : rva + size ≤ s.virtualAddress + s.rawSize
  raw : raw = s.rawOffset + (rva - s.virtualAddress)

structure InHeaders (sizeOfHeaders rva size raw : Nat) : Prop where
  stop : rva + size ≤ sizeOfHeaders
  raw : raw = rva

/-- The place of a range, by the headers or by a section behind them. -/
def PlacedAt (headers : ParsedHeaders) (rva size raw : Nat) : Prop :=
  InHeaders headers.sizeOfHeaders rva size raw ∨
    headers.sizeOfHeaders ≤ rva ∧ ∃ s ∈ headers.sections, InSection s.exposed rva size raw

theorem find_of_pairwise {α : Type} {p : α → Bool} {as : List α} {a : α}
    (h : as.Pairwise fun b c => p c = true → p b = false) (ha : a ∈ as) (hp : p a = true) : as.find? p = some a := by
  induction as with
  | nil => exact absurd ha List.not_mem_nil
  | cons b as ih =>
      obtain ⟨hb, has⟩ := List.pairwise_cons.mp h
      rcases List.mem_cons.mp ha with rfl | ha
      · exact List.find?_cons_of_pos hp
      · rw [List.find?_cons_of_neg (by rw [hb a ha hp]; decide)]
        exact ih has ha

theorem holds_iff {s : SectionHeader} {rva : Nat} :
    s.holds rva = true ↔ s.virtualAddress ≤ rva ∧ rva < s.virtualAddress + s.span := by
  simp only [SectionHeader.holds, Bool.and_eq_true, decide_eq_true_eq]
  omega

variable {file : List UInt8} {headers : ParsedHeaders} {image : Image} {rva size raw : Nat}

theorem holds_apart (h : Checked file headers image) (rva : Nat) :
    headers.sections.Pairwise fun b c => c.holds rva = true → b.holds rva = false := by
  refine h.laid.apart.imp fun hapart hc => ?_
  obtain ⟨hstart, hstop⟩ := holds_iff.mp hc
  refine Bool.eq_false_iff.mpr fun hb => ?_
  obtain ⟨hstart', hstop'⟩ := holds_iff.mp hb
  exact hapart.image rva hstart hstop hstart' hstop'

theorem holds_of_inSection {s : SectionHeader} (hsize : 1 ≤ size) (h : InSection s.exposed rva size raw) :
    s.holds rva = true ∧ size ≤ s.span - (rva - s.virtualAddress) := by
  have hstart : s.virtualAddress ≤ rva := h.start
  have hstop : rva + size ≤ s.virtualAddress + s.sizeOfRawData := h.stop
  have hspan : s.sizeOfRawData ≤ s.span := le_max_right _ _
  rw [holds_iff]
  omega

/-- A section with bytes of the file lies in the image and in the file. -/
theorem inSection_bounds (h : Checked file headers image) {s : SectionHeader} (hs : s ∈ headers.sections)
    (hsize : 1 ≤ size) (hin : InSection s.exposed rva size raw) :
    rva + size ≤ image.sizeOfImage ∧ raw + size ≤ file.length ∧ headers.sizeOfHeaders ≤ raw := by
  have hplaced := h.laid.placed s hs
  have hstart : s.virtualAddress ≤ rva := hin.start
  have hstop : rva + size ≤ s.virtualAddress + s.sizeOfRawData := hin.stop
  have hraw : raw = s.pointerToRawData + (rva - s.virtualAddress) := hin.raw
  have hspan : s.sizeOfRawData ≤ s.span := le_max_right _ _
  have himage := hplaced.image
  obtain ⟨hbehind, hfile⟩ := hplaced.raw (by omega)
  omega

/-- The mapper of the parse. -/
theorem map_iff (h : Checked file headers image) (hsize : 1 ≤ size) :
    ((⟨file, headers⟩ : RvaReader).map rva size).map Prod.fst = some raw ↔ PlacedAt headers rva size raw := by
  unfold RvaReader.map PlacedAt
  have hinFile := h.inFile
  by_cases hheaders : rva < headers.sizeOfHeaders
  · rw [if_pos hheaders]
    dsimp only
    by_cases hfits : size > min (headers.sizeOfHeaders - rva) (file.length - rva)
    · rw [if_pos hfits]
      constructor
      · intro hmap
        cases hmap
      · rintro (⟨hstop, -⟩ | ⟨hbehind, -⟩) <;> omega
    · rw [if_neg hfits]
      constructor
      · intro hmap
        injection hmap with hraw
        exact .inl ⟨by omega, hraw.symm⟩
      · rintro (⟨-, rfl⟩ | ⟨hbehind, -⟩)
        · rfl
        · omega
  · rw [if_neg hheaders]
    have hfound : ∀ s ∈ headers.sections, InSection s.exposed rva size raw →
        headers.sections.find? (fun s => s.holds rva) = some s := fun s hs hin =>
      find_of_pairwise (holds_apart h rva) hs (holds_of_inSection hsize hin).1
    cases hfind : headers.sections.find? (fun s => s.holds rva) with
    | none =>
        constructor
        · intro hmap
          cases hmap
        · rintro (⟨hstop, -⟩ | ⟨-, s, hs, hin⟩)
          · omega
          · have hsome := hfound s hs hin
            rw [hfind] at hsome
            cases hsome
    | some s =>
        have hs := List.mem_of_find?_eq_some hfind
        obtain ⟨hstart, -⟩ := holds_iff.mp (List.find?_some (p := fun s : SectionHeader => s.holds rva) hfind)
        have honly : PlacedAt headers rva size raw ↔ InSection s.exposed rva size raw := by
          constructor
          · rintro (⟨hstop, -⟩ | ⟨-, s', hs', hin⟩)
            · omega
            · have hsome := hfound s' hs' hin
              rw [hfind] at hsome
              injection hsome with hsome
              rw [hsome]
              exact hin
          · exact fun hin => .inr ⟨by omega, s, hs, hin⟩
        refine Iff.trans ?_ honly.symm
        dsimp only
        constructor
        · intro hmap
          split at hmap
          · cases hmap
          · split at hmap
            · cases hmap
            · next hdelta hchecked =>
              injection hmap with hraw
              rw [Bool.or_eq_true, not_or, decide_eq_true_eq] at hchecked
              refine ⟨hstart, ?_, hraw.symm⟩
              change rva + size ≤ s.virtualAddress + s.sizeOfRawData
              omega
        · intro hin
          obtain ⟨-, hfile, -⟩ := inSection_bounds h hs hsize hin
          have hstop : rva + size ≤ s.virtualAddress + s.sizeOfRawData := hin.stop
          have hraw : raw = s.pointerToRawData + (rva - s.virtualAddress) := hin.raw
          have hcontains : contains file raw size = true := contains_iff.mpr hfile
          rw [if_neg (by omega), ← hraw, hcontains, if_neg (by simp; omega)]
          rfl

theorem findSection_of_inSection (h : Checked file headers image) {s : SectionHeader} (hs : s ∈ headers.sections)
    (hsize : 1 ≤ size) (hin : InSection s.exposed rva size raw) : findSection image rva size = some s.exposed := by
  obtain ⟨hholds, hfits⟩ := holds_of_inSection hsize hin
  obtain ⟨hstart, hstop⟩ := holds_iff.mp hholds
  unfold findSection
  rw [h.sections]
  refine find_of_pairwise ?_ (List.mem_map_of_mem hs) ?_
  · rw [List.pairwise_map]
    refine (holds_apart h rva).imp fun {b c} hapart hc => ?_
    rw [Bool.and_eq_true] at hc
    have hb : (decide (b.virtualAddress ≤ rva) && decide (rva - b.virtualAddress < b.span)) = false := hapart hc.1
    exact Bool.and_eq_false_imp.mpr fun hb' => absurd (hb'.symm.trans hb) (by decide)
  · rw [Bool.and_eq_true]
    exact ⟨hholds, decide_eq_true hfits⟩

theorem rawOffset_iff (h : Checked file headers image) (hsize : 1 ≤ size) :
    rawOffset image rva size = some raw ↔ PlacedAt headers rva size raw := by
  unfold rawOffset PlacedAt
  rw [h.sizeOfHeaders]
  by_cases hheaders : rva < headers.sizeOfHeaders
  · rw [if_pos hheaders]
    constructor
    · intro hmap
      split at hmap
      · cases hmap
      · injection hmap with hraw
        exact .inl ⟨by omega, hraw.symm⟩
    · rintro (⟨hstop, rfl⟩ | ⟨hbehind, -⟩)
      · exact if_neg (by omega)
      · omega
  · rw [if_neg hheaders]
    constructor
    · intro hmap
      cases hfind : findSection image rva size with
      | none =>
          rw [hfind] at hmap
          cases hmap
      | some found =>
          rw [hfind] at hmap
          have hmem := List.mem_of_find?_eq_some hfind
          have hpasses := List.find?_some hfind
          rw [h.sections] at hmem
          obtain ⟨s, hs, rfl⟩ := List.mem_map.mp hmem
          simp only [Bool.and_eq_true, decide_eq_true_eq] at hpasses
          dsimp only at hmap
          split at hmap
          · cases hmap
          · next hchecked =>
            rw [Bool.or_eq_true, not_or, decide_eq_true_eq, decide_eq_true_eq] at hchecked
            injection hmap with hraw
            exact .inr ⟨by omega, s, hs, hpasses.1.1, by omega, by omega⟩
    · rintro (⟨hstop, -⟩ | ⟨-, s, hs, hin⟩)
      · omega
      · rw [findSection_of_inSection h hs hsize hin]
        have hstart := hin.start
        have hstop := hin.stop
        have hraw := hin.raw
        dsimp only
        rw [if_neg (by rw [Bool.or_eq_true, not_or, decide_eq_true_eq, decide_eq_true_eq]; omega), hraw]
        exact congrArg some (by omega)

/-- A place is in the image and in the file. -/
theorem PlacedAt.bounds (h : Checked file headers image) (hsize : 1 ≤ size) (hat : PlacedAt headers rva size raw) :
    rva + size ≤ image.sizeOfImage ∧ raw + size ≤ file.length := by
  have hinImage := h.inImage
  have hinFile := h.inFile
  rcases hat with ⟨hstop, rfl⟩ | ⟨-, s, hs, hin⟩
  · omega
  · obtain ⟨himage, hfile, -⟩ := inSection_bounds h hs hsize hin
    exact ⟨himage, hfile⟩

/-- The mapper of the image that is handed out. -/
theorem mapImageRva_iff (h : Checked file headers image) (hbytes : image.rawBytes = file) (hsize : 1 ≤ size) :
    mapImageRva image rva size = some raw ↔ PlacedAt headers rva size raw := by
  rw [← rawOffset_iff h hsize]
  unfold mapImageRva
  constructor
  · intro hmap
    split at hmap
    · cases hmap
    · cases hraw : rawOffset image rva size with
      | none =>
          rw [hraw] at hmap
          cases hmap
      | some found =>
          rw [hraw] at hmap
          dsimp only at hmap
          split at hmap
          · cases hmap
          · exact hmap
  · intro hraw
    obtain ⟨himage, hfile⟩ := ((rawOffset_iff h hsize).mp hraw).bounds h hsize
    rw [hraw, hbytes]
    dsimp only
    rw [if_neg (by rw [Bool.or_eq_true, not_or, decide_eq_true_eq, decide_eq_true_eq]; omega),
      if_neg (by rw [Bool.or_eq_true, not_or, decide_eq_true_eq, decide_eq_true_eq]; omega)]

def SectionHeader.holdsRaw (s : SectionHeader) (offset : Nat) : Bool :=
  s.pointerToRawData ≤ offset && offset < s.pointerToRawData + s.sizeOfRawData

theorem holdsRaw_iff {s : SectionHeader} {offset : Nat} :
    s.holdsRaw offset = true ↔ s.pointerToRawData ≤ offset ∧ offset < s.pointerToRawData + s.sizeOfRawData := by
  rw [SectionHeader.holdsRaw, Bool.and_eq_true, decide_eq_true_eq, decide_eq_true_eq]

theorem holdsRaw_apart (h : Checked file headers image) (offset : Nat) :
    headers.sections.Pairwise fun b c => c.holdsRaw offset = true → b.holdsRaw offset = false := by
  refine h.laid.apart.imp fun hapart hc => ?_
  obtain ⟨hstart, hstop⟩ := holdsRaw_iff.mp hc
  refine Bool.eq_false_iff.mpr fun hb => ?_
  obtain ⟨hstart', hstop'⟩ := holdsRaw_iff.mp hb
  exact hapart.raw offset hstart hstop hstart' hstop'

theorem unique_of_pairwise {α : Type} {p : α → Bool} {as : List α} {a b : α}
    (h : as.Pairwise fun b c => p c = true → p b = false) (ha : a ∈ as) (hb : b ∈ as) (hpa : p a = true)
    (hpb : p b = true) : a = b := by
  have hfind := find_of_pairwise h ha hpa
  rw [find_of_pairwise h hb hpb] at hfind
  injection hfind with hfind
  exact hfind.symm

theorem holdsRaw_of_inSection {s : SectionHeader} (hsize : 1 ≤ size) (h : InSection s.exposed rva size raw) :
    s.holdsRaw raw = true := by
  have hstart : s.virtualAddress ≤ rva := h.start
  have hstop : rva + size ≤ s.virtualAddress + s.sizeOfRawData := h.stop
  have hraw : raw = s.pointerToRawData + (rva - s.virtualAddress) := h.raw
  rw [holdsRaw_iff]
  omega

/-- Two addresses have the same place only where they are the same. -/
theorem PlacedAt.injective (h : Checked file headers image) {rva' size' : Nat} (hsize : 1 ≤ size) (hsize' : 1 ≤ size')
    (hat : PlacedAt headers rva size raw) (hat' : PlacedAt headers rva' size' raw) : rva = rva' := by
  rcases hat with ⟨hstop, hraw⟩ | ⟨-, s, hs, hin⟩ <;> rcases hat' with ⟨hstop', hraw'⟩ | ⟨-, s', hs', hin'⟩
  · omega
  · obtain ⟨-, -, hbehind⟩ := inSection_bounds h hs' hsize' hin'
    omega
  · obtain ⟨-, -, hbehind⟩ := inSection_bounds h hs hsize hin
    omega
  · obtain rfl := unique_of_pairwise (holdsRaw_apart h raw) hs hs' (holdsRaw_of_inSection hsize hin)
      (holdsRaw_of_inSection hsize' hin')
    have hstart := hin.start
    have hstart' := hin'.start
    have hraw := hin.raw
    have hraw' := hin'.raw
    omega

/-- The addresses of an image that `ReadPeBytes` hands out for these bytes. -/
structure AddressMapping (bytes : List UInt8) (image : Image) : Prop where
  /-- The mapper of the parse and the mapper of the image are the same. -/
  agree : ∃ headers parsed, readHeaders bytes = .ok (headers, parsed) ∧ ∀ rva size, 1 ≤ size →
    mapImageRva image rva size = ((⟨bytes, headers⟩ : RvaReader).map rva size).map Prod.fst
  inFile : ∀ rva size raw, 1 ≤ size → mapImageRva image rva size = some raw → raw + size ≤ bytes.length
  inside : ∀ rva size raw, 1 ≤ size → mapImageRva image rva size = some raw →
    InHeaders image.sizeOfHeaders rva size raw ∨ ∃! s, s ∈ image.sections ∧ InSection s rva size raw
  distinct : ∀ rva rva' size size' raw raw', 1 ≤ size → 1 ≤ size' → mapImageRva image rva size = some raw →
    mapImageRva image rva' size' = some raw' → rva ≠ rva' → raw ≠ raw'

theorem parsePeBytes_checked {bytes : List UInt8} (h : parsePeBytes bytes = .ok image) :
    ∃ headers parsed, readHeaders bytes = .ok (headers, parsed) ∧ Checked bytes headers image ∧
      image.rawBytes = bytes := by
  obtain ⟨⟨headers, parsed⟩, hheaders, h⟩ := ok_of_bind h
  obtain ⟨normalImports, -, h⟩ := ok_of_bind h
  obtain ⟨delayImports, -, h⟩ := ok_of_bind h
  obtain ⟨⟨⟩, -, h⟩ := ok_of_bind h
  obtain ⟨⟨exportFunctionCount, exportSymbols⟩, -, h⟩ := ok_of_bind h
  injection h with h
  subst h
  obtain ⟨hlaid, hinFile, hinImage, hsize, hsections⟩ := readHeaders_checked hheaders
  exact ⟨headers, parsed, hheaders, ⟨hlaid, hinFile, hinImage, hsize, hsections⟩, rfl⟩

theorem addressMapping_of_checked {bytes : List UInt8} {parsed : Image} (hheaders : readHeaders bytes = .ok (headers, parsed))
    (h : Checked bytes headers image) (hbytes : image.rawBytes = bytes) : AddressMapping bytes image := by
  constructor
  · refine ⟨headers, parsed, hheaders, fun rva size hsize => Option.ext fun raw => ?_⟩
    rw [mapImageRva_iff h hbytes hsize, map_iff h hsize]
  · intro rva size raw hsize hmap
    exact ((mapImageRva_iff h hbytes hsize).mp hmap).bounds h hsize |>.2
  · intro rva size raw hsize hmap
    rcases (mapImageRva_iff h hbytes hsize).mp hmap with hin | ⟨-, s, hs, hin⟩
    · rw [h.sizeOfHeaders]
      exact .inl hin
    · refine .inr ⟨s.exposed, ⟨?_, hin⟩, ?_⟩
      · rw [h.sections]
        exact List.mem_map_of_mem hs
      · rintro s' ⟨hs', hin'⟩
        rw [h.sections] at hs'
        obtain ⟨t, ht, rfl⟩ := List.mem_map.mp hs'
        rw [unique_of_pairwise (holds_apart h rva) ht hs (holds_of_inSection hsize hin').1
          (holds_of_inSection hsize hin).1]
  · intro rva rva' size size' raw raw' hsize hsize' hmap hmap' hne heq
    subst heq
    exact hne (((mapImageRva_iff h hbytes hsize).mp hmap).injective h hsize hsize'
      ((mapImageRva_iff h hbytes hsize').mp hmap'))

/-- Nothing is handed out, or the image of a parse that came to its end. -/
theorem readPeBytes_cases (threw : Bool) (bytes : List UInt8) :
    (∃ text, readPeBytes threw bytes = (false, Image.empty, text)) ∨
      ∃ image, parsePeBytes bytes = .ok image ∧ readPeBytes threw bytes = (true, image, "") := by
  unfold readPeBytes
  dsimp only
  by_cases hsize : bytes.isEmpty ∨ maximumFileBytes < bytes.length
  · exact .inl ⟨_, if_pos hsize⟩
  · rw [if_neg hsize]
    cases threw with
    | true => exact .inl ⟨_, rfl⟩
    | false =>
        cases hparse : parsePeBytes bytes with
        | error text => exact .inl ⟨text, rfl⟩
        | ok image => exact .inr ⟨image, rfl, rfl⟩

/-- What a caller of `ReadPeBytes` is left with. -/
structure PeOutcome (threw : Bool) (bytes : List UInt8) : Prop where
  accepted : (readPeBytes threw bytes).1 = true → AddressMapping bytes (readPeBytes threw bytes).2.1
  rejected : (readPeBytes threw bytes).1 = false → (readPeBytes threw bytes).2.1 = Image.empty

theorem pe_address_mapping (threw : Bool) (bytes : List UInt8) : PeOutcome threw bytes := by
  rcases readPeBytes_cases threw bytes with ⟨text, hread⟩ | ⟨image, hparse, hread⟩
  · constructor
    · rw [hread]
      exact fun hno => absurd hno Bool.false_ne_true
    · rw [hread]
      exact fun _ => rfl
  · obtain ⟨headers, parsed, hheaders, hchecked, hbytes⟩ := parsePeBytes_checked hparse
    constructor
    · rw [hread]
      exact fun _ => addressMapping_of_checked hheaders hchecked hbytes
    · rw [hread]
      exact fun hno => absurd hno.symm Bool.false_ne_true

def littleEndian (n : Nat) (bytes : Nat) : List UInt8 := (List.range bytes).map fun i => (n / 256 ^ i).toUInt8

def smallFile : List UInt8 :=
  littleEndian 0x5a4d 2 ++ List.replicate 58 0 ++ littleEndian 64 4 ++
  littleEndian 0x4550 4 ++ littleEndian 0x8664 2 ++ littleEndian 1 2 ++ List.replicate 12 0 ++ littleEndian 240 2 ++
  List.replicate 2 0 ++
  littleEndian 0x20b 2 ++ List.replicate 54 0 ++ littleEndian 0x2000 4 ++ littleEndian 0x200 4 ++
  List.replicate 44 0 ++ littleEndian 16 4 ++ List.replicate 128 0 ++
  List.replicate 8 0x41 ++ littleEndian 0x100 4 ++ littleEndian 0x1000 4 ++ littleEndian 0x40 4 ++
  littleEndian 0x200 4 ++ List.replicate 16 0 ++ List.replicate 208 0

example : (readPeBytes false smallFile).1 = true ∧
    mapImageRva (readPeBytes false smallFile).2.1 0x1010 4 = some 0x210 ∧
    mapImageRva (readPeBytes false smallFile).2.1 0x1040 4 = none := by decide +kernel

end RS2ServerFix.PeReader
