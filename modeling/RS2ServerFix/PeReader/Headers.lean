import RS2ServerFix.Image.Memory

namespace RS2ServerFix.PeReader

open RS2ServerFix.Task (field)
open RS2ServerFix.Image (dosHeaderBytes sectionHeaderBytes dosMagic dosNew imageDosSignature imageNtSignature directoryEntries)

def sizeMax : Nat := 2 ^ 64 - 1

def addSize (left right : Nat) : Option Nat := if right > sizeMax - left then none else some (left + right)

def multiplySize (left right : Nat) : Option Nat :=
  if left ≠ 0 ∧ right > sizeMax / left then none else some (left * right)

def contains (file : List UInt8) (offset size : Nat) : Bool := offset ≤ file.length && size ≤ file.length - offset

def read (file : List UInt8) (offset size : Nat) : Option (List UInt8) :=
  if contains file offset size then some ((file.drop offset).take size) else none

/-- A check of the source: where it does not pass, the text is the error. -/
def require (passes : Bool) (text : String) : Except String Unit := if passes then .ok () else .error text

def expect {α : Type} (a : Option α) (text : String) : Except String α := a.elim (.error text) .ok

structure ImportSymbol where
  byOrdinal : Bool
  ordinal : Nat
  name : List UInt8
  iatRva : Nat

structure ImportModule where
  name : List UInt8
  symbols : List ImportSymbol

structure ExportSymbol where
  name : List UInt8
  ordinal : Nat
  rva : Nat
  forwarder : List UInt8

structure Section where
  name : List UInt8
  virtualAddress : Nat
  virtualSize : Nat
  rawOffset : Nat
  rawSize : Nat
  characteristics : Nat

structure DataDirectory where
  virtualAddress : Nat
  size : Nat

structure Image where
  machine : Nat
  characteristics : Nat
  optionalMagic : Nat
  dllCharacteristics : Nat
  coffTimestamp : Nat
  sizeOfImage : Nat
  checksum : Nat
  tlsDirectoryRva : Nat
  tlsDirectorySize : Nat
  imageBase : Nat
  entryPointRva : Nat
  sizeOfHeaders : Nat
  dataDirectories : List DataDirectory
  exportFunctionCount : Nat
  normalImports : List ImportModule
  delayImports : List ImportModule
  exportSymbols : List ExportSymbol
  sections : List Section
  rawBytes : List UInt8

def Image.empty : Image :=
  ⟨0, 0, 0, 0, 0, 0, 0, 0, 0, 0, 0, 0, List.replicate directoryEntries ⟨0, 0⟩, 0, [], [], [], [], []⟩

structure SectionHeader where
  name : List UInt8
  virtualSize : Nat
  virtualAddress : Nat
  sizeOfRawData : Nat
  pointerToRawData : Nat
  characteristics : Nat

def SectionHeader.span (s : SectionHeader) : Nat := max s.virtualSize s.sizeOfRawData

structure ParsedHeaders where
  pe32Plus : Bool
  sizeOfHeaders : Nat
  numberOfRvaAndSizes : Nat
  exportDirectory : DataDirectory
  importDirectory : DataDirectory
  delayDirectory : DataDirectory
  tlsDirectory : DataDirectory
  imageBase : Nat
  sections : List SectionHeader

/-- Where the two forms of the optional header differ. -/
structure OptionalForm where
  pe32Plus : Bool
  bytes : Nat
  imageBaseOffset : Nat
  imageBaseBytes : Nat
  numberOffset : Nat
  tooShort : String
  invalid : String

def optionalHeader64 : OptionalForm :=
  ⟨true, 240, 24, 8, 108, "short PE32+ optional header", "invalid PE32+ optional header"⟩

def optionalHeader32 : OptionalForm :=
  ⟨false, 224, 28, 4, 92, "short PE32 optional header", "invalid PE32 optional header"⟩

def optionalForm (magic : Nat) : Option OptionalForm :=
  if magic = 0x20b then some optionalHeader64 else if magic = 0x10b then some optionalHeader32 else none

structure OptionalHeader where
  pe32Plus : Bool
  optionalMagic : Nat
  entryPointRva : Nat
  imageBase : Nat
  sizeOfImage : Nat
  sizeOfHeaders : Nat
  checksum : Nat
  dllCharacteristics : Nat
  numberOfRvaAndSizes : Nat
  dataDirectories : List DataDirectory

def optionalHeader (form : OptionalForm) (bytes : List UInt8) : OptionalHeader where
  pe32Plus := form.pe32Plus
  optionalMagic := field bytes 0 2
  entryPointRva := field bytes 16 4
  imageBase := field bytes form.imageBaseOffset form.imageBaseBytes
  sizeOfImage := field bytes 56 4
  sizeOfHeaders := field bytes 60 4
  checksum := field bytes 64 4
  dllCharacteristics := field bytes 70 2
  numberOfRvaAndSizes := field bytes form.numberOffset 4
  dataDirectories := (List.range directoryEntries).map fun i =>
    if i < field bytes form.numberOffset 4 then
      ⟨field bytes (form.numberOffset + 4 + i * 8) 4, field bytes (form.numberOffset + 8 + i * 8) 4⟩
    else ⟨0, 0⟩

def OptionalHeader.directory (optional : OptionalHeader) (i : Nat) : DataDirectory :=
  (optional.dataDirectories[i]?).getD ⟨0, 0⟩

def imageDirectoryEntryExport : Nat := 0
def imageDirectoryEntryImport : Nat := 1
def imageDirectoryEntrySecurity : Nat := 4
def imageDirectoryEntryTls : Nat := 9
def imageDirectoryEntryDelayImport : Nat := 13

def readOptionalHeader (file : List UInt8) (optionalOffset sizeOfOptionalHeader : Nat) :
    Except String OptionalHeader := do
  let magic ← expect (read file optionalOffset 2) "missing optional-header magic"
  let form ← expect (optionalForm (field magic 0 2)) "unsupported optional-header magic"
  require (form.bytes ≤ sizeOfOptionalHeader) form.tooShort
  let bytes ← expect (read file optionalOffset form.bytes) form.invalid
  return optionalHeader form bytes

def partialEntry (directory : DataDirectory) : Bool := (directory.virtualAddress = 0) != (directory.size = 0)

/-- The certificates are a range of the file, all others are one of the image. -/
def readDirectory (file : List UInt8) (sizeOfImage : Nat) (i : Nat) (directory : DataDirectory) :
    Except String Unit := do
  require (!partialEntry directory) "partial data-directory entry"
  if directory.virtualAddress = 0 then return ()
  else if i = imageDirectoryEntrySecurity then
    require (contains file directory.virtualAddress directory.size) "invalid certificate file range"
  else require (directory.virtualAddress + directory.size ≤ sizeOfImage) "directory exceeds image"

def readDirectories (file : List UInt8) (optional : OptionalHeader) : Except String Unit := do
  require (optional.numberOfRvaAndSizes ≤ directoryEntries) "too many data directories"
  (List.range directoryEntries).forM fun i => readDirectory file optional.sizeOfImage i (optional.directory i)

def sectionHeader (bytes : List UInt8) : SectionHeader where
  name := (bytes.take 8).takeWhile (· ≠ 0)
  virtualSize := field bytes 8 4
  virtualAddress := field bytes 12 4
  sizeOfRawData := field bytes 16 4
  pointerToRawData := field bytes 20 4
  characteristics := field bytes 36 4

def SectionHeader.exposed (s : SectionHeader) : Section :=
  ⟨s.name, s.virtualAddress, s.virtualSize, s.pointerToRawData, s.sizeOfRawData, s.characteristics⟩

def overlapping (start size start' size' : Nat) : Bool :=
  size ≠ 0 && size' ≠ 0 && start < start' + size' && start' < start + size

def apartFrom (s previous : SectionHeader) : Except String Unit := do
  require (!overlapping s.virtualAddress s.span previous.virtualAddress previous.span) "overlapping virtual sections"
  require (!overlapping s.pointerToRawData s.sizeOfRawData previous.pointerToRawData previous.sizeOfRawData)
    "overlapping raw sections"

def readSection (file : List UInt8) (sizeOfHeaders sizeOfImage sectionOffset : Nat) (sections : List SectionHeader)
    (index : Nat) : Except String (List SectionHeader) := do
  let bytes ← expect (read file (sectionOffset + index * sectionHeaderBytes) sectionHeaderBytes)
    "invalid section header"
  let s := sectionHeader bytes
  require (s.sizeOfRawData = 0 || sizeOfHeaders ≤ s.pointerToRawData && contains file s.pointerToRawData s.sizeOfRawData)
    "invalid section raw range"
  require (s.virtualAddress + s.span ≤ sizeOfImage && (s.span = 0 || sizeOfHeaders ≤ s.virtualAddress))
    "section RVA overflow"
  sections.forM (apartFrom s)
  return sections ++ [s]

def readSections (file : List UInt8) (sizeOfHeaders sizeOfImage sectionOffset numberOfSections : Nat) :
    Except String (List SectionHeader) :=
  (List.range numberOfSections).foldlM (readSection file sizeOfHeaders sizeOfImage sectionOffset) []

def sectionTable (file : List UInt8) (sectionOffset numberOfSections sizeOfHeaders : Nat) : Except String Unit := do
  let sectionBytes ← expect (multiplySize numberOfSections sectionHeaderBytes) "invalid section table"
  require (contains file sectionOffset sectionBytes) "invalid section table"
  let sectionEnd ← expect (addSize sectionOffset sectionBytes) "invalid header size"
  require (sectionEnd ≤ sizeOfHeaders && sizeOfHeaders ≤ file.length) "invalid header size"

structure FileHeader where
  machine : Nat
  numberOfSections : Nat
  timeDateStamp : Nat
  sizeOfOptionalHeader : Nat
  characteristics : Nat

def fileHeaderBytes : Nat := 20

def fileHeader (bytes : List UInt8) : FileHeader :=
  ⟨field bytes 0 2, field bytes 2 2, field bytes 4 4, field bytes 16 2, field bytes 18 2⟩

/-- The offset of the new headers is signed. -/
def readNtOffset (file : List UInt8) : Except String Nat := do
  let dos ← expect (read file 0 dosHeaderBytes) "invalid DOS header"
  require (dosMagic dos = imageDosSignature && dosHeaderBytes ≤ dosNew dos && dosNew dos < 2 ^ 31) "invalid DOS header"
  let signature ← expect (read file (dosNew dos) 4) "invalid NT signature"
  require (field signature 0 4 = imageNtSignature) "invalid NT signature"
  return dosNew dos

def readFileHeader (file : List UInt8) (ntOffset : Nat) : Except String (FileHeader × Nat) := do
  let offset ← expect (addSize ntOffset 4) "NT header overflow"
  let bytes ← expect (read file offset fileHeaderBytes) "invalid file header"
  let header := fileHeader bytes
  require (header.numberOfSections ≠ 0 && header.numberOfSections ≤ 96) "invalid file header"
  let optionalOffset ← expect (addSize offset fileHeaderBytes) "invalid optional-header range"
  require (contains file optionalOffset header.sizeOfOptionalHeader) "invalid optional-header range"
  return (header, optionalOffset)

def parsedHeaders (optional : OptionalHeader) (sections : List SectionHeader) : ParsedHeaders where
  pe32Plus := optional.pe32Plus
  sizeOfHeaders := optional.sizeOfHeaders
  numberOfRvaAndSizes := optional.numberOfRvaAndSizes
  exportDirectory := optional.directory imageDirectoryEntryExport
  importDirectory := optional.directory imageDirectoryEntryImport
  delayDirectory := optional.directory imageDirectoryEntryDelayImport
  tlsDirectory := optional.directory imageDirectoryEntryTls
  imageBase := optional.imageBase
  sections := sections

def parsedImage (header : FileHeader) (optional : OptionalHeader) (sections : List SectionHeader) : Image :=
  { Image.empty with
    machine := header.machine
    characteristics := header.characteristics
    optionalMagic := optional.optionalMagic
    dllCharacteristics := optional.dllCharacteristics
    coffTimestamp := header.timeDateStamp
    sizeOfImage := optional.sizeOfImage
    checksum := optional.checksum
    tlsDirectoryRva := (optional.directory imageDirectoryEntryTls).virtualAddress
    tlsDirectorySize := (optional.directory imageDirectoryEntryTls).size
    imageBase := optional.imageBase
    entryPointRva := optional.entryPointRva
    sizeOfHeaders := optional.sizeOfHeaders
    dataDirectories := optional.dataDirectories
    sections := sections.map SectionHeader.exposed }

def readHeaders (file : List UInt8) : Except String (ParsedHeaders × Image) := do
  let ntOffset ← readNtOffset file
  let (header, optionalOffset) ← readFileHeader file ntOffset
  let optional ← readOptionalHeader file optionalOffset header.sizeOfOptionalHeader
  readDirectories file optional
  require (optional.sizeOfImage ≠ 0 && optional.sizeOfHeaders ≤ optional.sizeOfImage &&
    optional.entryPointRva < optional.sizeOfImage) "invalid image size or entry point"
  let sectionOffset ← expect (addSize optionalOffset header.sizeOfOptionalHeader) "invalid section table"
  sectionTable file sectionOffset header.numberOfSections optional.sizeOfHeaders
  let sections ← readSections file optional.sizeOfHeaders optional.sizeOfImage sectionOffset header.numberOfSections
  return (parsedHeaders optional sections, parsedImage header optional sections)

theorem require_ok {passes : Bool} {text : String} : require passes text = .ok () ↔ passes = true := by
  cases passes with
  | true => exact ⟨fun _ => rfl, fun _ => rfl⟩
  | false =>
      constructor
      · intro h
        cases h
      · intro h
        cases h

theorem require_bind {α : Type} {passes : Bool} {text : String} {f : Unit → Except String α} {a : α} :
    (require passes text >>= f) = .ok a ↔ passes = true ∧ f () = .ok a := by
  cases passes with
  | true => exact ⟨fun h => ⟨rfl, h⟩, fun h => h.2⟩
  | false =>
      constructor
      · intro h
        cases h
      · rintro ⟨h, -⟩
        cases h

theorem expect_bind {α β : Type} {o : Option β} {text : String} {f : β → Except String α} {a : α} :
    (expect o text >>= f) = .ok a ↔ ∃ b, o = some b ∧ f b = .ok a := by
  cases o with
  | none =>
      constructor
      · intro h
        cases h
      · rintro ⟨b, hb, -⟩
        cases hb
  | some b =>
      constructor
      · intro h
        exact ⟨b, rfl, h⟩
      · rintro ⟨b', hb, h⟩
        injection hb with hb
        subst hb
        exact h

theorem ok_of_bind {α β : Type} {p : Except String α} {f : α → Except String β} {b : β} (h : (p >>= f) = .ok b) :
    ∃ a, p = .ok a ∧ f a = .ok b := by
  cases p with
  | error e => cases h
  | ok a => exact ⟨a, rfl, h⟩

/-- A section by itself: its bytes are in the file behind the headers, and it is
in the image behind the headers. -/
structure Placed (file : List UInt8) (sizeOfHeaders sizeOfImage : Nat) (s : SectionHeader) : Prop where
  raw : s.sizeOfRawData ≠ 0 →
    sizeOfHeaders ≤ s.pointerToRawData ∧ s.pointerToRawData + s.sizeOfRawData ≤ file.length
  image : s.virtualAddress + s.span ≤ sizeOfImage
  headers : s.span ≠ 0 → sizeOfHeaders ≤ s.virtualAddress

structure Apart (previous s : SectionHeader) : Prop where
  image : ∀ rva, s.virtualAddress ≤ rva → rva < s.virtualAddress + s.span → previous.virtualAddress ≤ rva →
    ¬rva < previous.virtualAddress + previous.span
  raw : ∀ offset, s.pointerToRawData ≤ offset → offset < s.pointerToRawData + s.sizeOfRawData →
    previous.pointerToRawData ≤ offset → ¬offset < previous.pointerToRawData + previous.sizeOfRawData

structure Laid (file : List UInt8) (sizeOfHeaders sizeOfImage : Nat) (sections : List SectionHeader) : Prop where
  placed : ∀ s ∈ sections, Placed file sizeOfHeaders sizeOfImage s
  apart : sections.Pairwise Apart

theorem contains_iff {file : List UInt8} {offset size : Nat} :
    contains file offset size = true ↔ offset + size ≤ file.length := by
  simp only [contains, Bool.and_eq_true, decide_eq_true_eq]
  omega

theorem not_overlapping {start size start' size' x : Nat} (h : overlapping start size start' size' = false)
    (hl : start ≤ x) (hr : x < start + size) (hl' : start' ≤ x) : ¬x < start' + size' := by
  intro hr'
  have hover : overlapping start size start' size' = true := by
    simp only [overlapping, Bool.and_eq_true, decide_eq_true_eq]
    omega
  rw [h] at hover
  cases hover

theorem apartFrom_ok {s previous : SectionHeader} (h : apartFrom s previous = .ok ()) : Apart previous s := by
  obtain ⟨himage, h⟩ := require_bind.mp h
  have hraw := require_ok.mp h
  rw [Bool.not_eq_true'] at himage hraw
  exact ⟨fun rva => not_overlapping himage, fun offset => not_overlapping hraw⟩

theorem forM_ok {α : Type} {f : α → Except String Unit} {as : List α} (h : as.forM f = .ok ()) :
    ∀ a ∈ as, f a = .ok () := by
  induction as with
  | nil => exact fun a ha => absurd ha List.not_mem_nil
  | cons a as ih =>
      obtain ⟨⟨⟩, hfirst, hrest⟩ := ok_of_bind (p := f a) h
      exact List.forall_mem_cons.mpr ⟨hfirst, ih hrest⟩

variable {file : List UInt8} {sizeOfHeaders sizeOfImage sectionOffset : Nat}

theorem readSection_laid {sections sections' : List SectionHeader} {index : Nat}
    (h : readSection file sizeOfHeaders sizeOfImage sectionOffset sections index = .ok sections')
    (hlaid : Laid file sizeOfHeaders sizeOfImage sections) : Laid file sizeOfHeaders sizeOfImage sections' := by
  obtain ⟨bytes, -, h⟩ := expect_bind.mp h
  obtain ⟨hraw, h⟩ := require_bind.mp h
  obtain ⟨himage, h⟩ := require_bind.mp h
  obtain ⟨⟨⟩, hapart, h⟩ := ok_of_bind h
  injection h with h
  subst h
  simp only [Bool.or_eq_true, Bool.and_eq_true, decide_eq_true_eq, contains_iff] at hraw himage
  have hplaced : Placed file sizeOfHeaders sizeOfImage (sectionHeader bytes) :=
    ⟨fun hne => hraw.resolve_left hne, himage.1, fun hne => himage.2.resolve_left hne⟩
  constructor
  · intro s hs
    rcases List.mem_append.mp hs with hs | hs
    · exact hlaid.placed s hs
    · rw [List.mem_singleton.mp hs]
      exact hplaced
  · rw [List.pairwise_append]
    refine ⟨hlaid.apart, List.pairwise_singleton _ _, fun previous hprevious s hs => ?_⟩
    rw [List.mem_singleton.mp hs]
    exact apartFrom_ok (forM_ok hapart previous hprevious)

theorem foldlM_laid {indices : List Nat} {sections sections' : List SectionHeader}
    (h : indices.foldlM (readSection file sizeOfHeaders sizeOfImage sectionOffset) sections = .ok sections')
    (hlaid : Laid file sizeOfHeaders sizeOfImage sections) : Laid file sizeOfHeaders sizeOfImage sections' := by
  induction indices generalizing sections with
  | nil =>
      injection h with h
      subst h
      exact hlaid
  | cons index indices ih =>
      rw [List.foldlM_cons] at h
      obtain ⟨next, hnext, h⟩ := ok_of_bind h
      exact ih h (readSection_laid hnext hlaid)

/-- What the checks of the headers come to for the two mappers. -/
structure Checked (file : List UInt8) (headers : ParsedHeaders) (image : Image) : Prop where
  laid : Laid file headers.sizeOfHeaders image.sizeOfImage headers.sections
  inFile : headers.sizeOfHeaders ≤ file.length
  inImage : headers.sizeOfHeaders ≤ image.sizeOfImage
  sizeOfHeaders : image.sizeOfHeaders = headers.sizeOfHeaders
  sections : image.sections = headers.sections.map SectionHeader.exposed

theorem sectionTable_ok {numberOfSections : Nat} (h : sectionTable file sectionOffset numberOfSections sizeOfHeaders = .ok ()) :
    sizeOfHeaders ≤ file.length := by
  obtain ⟨sectionBytes, -, h⟩ := expect_bind.mp h
  obtain ⟨-, h⟩ := require_bind.mp h
  obtain ⟨sectionEnd, -, h⟩ := expect_bind.mp h
  have hpasses := require_ok.mp h
  rw [Bool.and_eq_true, decide_eq_true_eq, decide_eq_true_eq] at hpasses
  exact hpasses.2

theorem readHeaders_checked {headers : ParsedHeaders} {image : Image} (h : readHeaders file = .ok (headers, image)) :
    Checked file headers image := by
  obtain ⟨ntOffset, -, h⟩ := ok_of_bind h
  obtain ⟨⟨header, optionalOffset⟩, -, h⟩ := ok_of_bind h
  obtain ⟨optional, -, h⟩ := ok_of_bind h
  obtain ⟨⟨⟩, -, h⟩ := ok_of_bind h
  obtain ⟨hsize, h⟩ := require_bind.mp h
  obtain ⟨tableOffset, -, h⟩ := expect_bind.mp h
  obtain ⟨⟨⟩, htable, h⟩ := ok_of_bind h
  obtain ⟨sections, hsections, h⟩ := ok_of_bind h
  injection h with h
  obtain ⟨rfl, rfl⟩ := Prod.mk.inj h
  simp only [Bool.and_eq_true, decide_eq_true_eq] at hsize
  exact ⟨foldlM_laid hsections ⟨fun s hs => absurd hs List.not_mem_nil, List.Pairwise.nil⟩, sectionTable_ok htable,
    hsize.1.2, rfl, rfl⟩

end RS2ServerFix.PeReader
