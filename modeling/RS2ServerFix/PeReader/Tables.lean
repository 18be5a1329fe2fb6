import RS2ServerFix.PeReader.Headers

namespace RS2ServerFix.PeReader

open RS2ServerFix.Task (field)

def uint32Max : Nat := 2 ^ 32 - 1

structure RvaReader where
  file : List UInt8
  headers : ParsedHeaders

def SectionHeader.holds (s : SectionHeader) (rva : Nat) : Bool :=
  s.virtualAddress ≤ rva && rva - s.virtualAddress < s.span

namespace RvaReader

/-- Some tables may lie in the tail of a section that the loader zeroes. -/
def mapped (reader : RvaReader) (rva needed : Nat) : Bool :=
  if rva < reader.headers.sizeOfHeaders then needed ≤ reader.headers.sizeOfHeaders - rva
  else reader.headers.sections.any fun s => s.holds rva && needed ≤ s.span - (rva - s.virtualAddress)

def map (reader : RvaReader) (rva needed : Nat) : Option (Nat × Nat) :=
  if rva < reader.headers.sizeOfHeaders then
    let mapped := min (reader.headers.sizeOfHeaders - rva) (reader.file.length - rva)
    if needed > mapped then none else some (rva, mapped)
  else
    match reader.headers.sections.find? fun s => s.holds rva with
    | none => none
    | some s =>
        let delta := rva - s.virtualAddress
        if s.sizeOfRawData ≤ delta then none
        else
          let raw := s.pointerToRawData + delta
          let sectionAvailable := s.sizeOfRawData - delta
          if needed > sectionAvailable || !contains reader.file raw needed then none
          else some (raw, min sectionAvailable (reader.file.length - raw))

def read (reader : RvaReader) (rva size : Nat) : Option (List UInt8) :=
  (reader.map rva size).bind fun place => PeReader.read reader.file place.1 size

def kMaximumName : Nat := 4096

def cstring (reader : RvaReader) (rva : Nat) : Option (List UInt8) := do
  let (offset, available) ← reader.map rva 1
  let bytes := (reader.file.drop offset).take (min available kMaximumName)
  if bytes.contains 0 && bytes.takeWhile (· ≠ 0) ≠ [] then return bytes.takeWhile (· ≠ 0) else none

end RvaReader

def directoryPresent (directory : DataDirectory) : Except String Unit :=
  require (!partialEntry directory) "partial data-directory entry"

def pointerBytes (pe32Plus : Bool) : Nat := if pe32Plus then 8 else 4

def ordinalFlag (pe32Plus : Bool) : UInt64 := if pe32Plus then 0x8000000000000000 else 0x80000000

def readThunk (reader : RvaReader) (pe32Plus : Bool) (thunkRva iatRva index : Nat) : Except String (UInt64 × Nat) := do
  let entrySize := pointerBytes pe32Plus
  let entryRva := thunkRva + index * entrySize
  require (entryRva ≤ uint32Max) "import thunk RVA overflow"
  let currentIat := iatRva + index * entrySize
  require (currentIat ≤ uint32Max && (reader.map currentIat entrySize).isSome) "invalid import IAT range"
  let raw ← expect (reader.read entryRva entrySize)
    (if pe32Plus then "invalid PE32+ import thunk" else "invalid PE32 import thunk")
  return ((field raw 0 entrySize).toUInt64, currentIat)

def importSymbol (reader : RvaReader) (pe32Plus : Bool) (value : UInt64) (currentIat : Nat) :
    Except String ImportSymbol := do
  if value &&& ordinalFlag pe32Plus ≠ 0 then
    require (value &&& ~~~(ordinalFlag pe32Plus ||| 0xffff) = 0) "invalid ordinal import"
    return ⟨true, (value &&& 0xffff).toNat, [], currentIat⟩
  else
    require (value.toNat ≤ uint32Max) "import-name RVA overflow"
    require ((reader.read value.toNat 2).isSome && value.toNat ≤ uint32Max - 2) "invalid import-by-name entry"
    let name ← expect (reader.cstring (value.toNat + 2)) "invalid import-by-name entry"
    return ⟨false, 0, name, currentIat⟩

def importSymbols (reader : RvaReader) (pe32Plus : Bool) (thunkRva iatRva : Nat) :
    List Nat → Except String (List ImportSymbol)
  | [] => .error "unterminated import thunk"
  | index :: rest => do
      let (value, currentIat) ← readThunk reader pe32Plus thunkRva iatRva index
      if value = 0 then return []
      else
        let symbol ← importSymbol reader pe32Plus value currentIat
        let symbols ← importSymbols reader pe32Plus thunkRva iatRva rest
        return symbol :: symbols

def parseImportSymbols (reader : RvaReader) (pe32Plus : Bool) (thunkRva iatRva : Nat) :
    Except String (List ImportSymbol) := do
  require (thunkRva ≠ 0 && iatRva ≠ 0) "missing import thunk"
  let (_, available) ← expect (reader.map thunkRva (pointerBytes pe32Plus)) "invalid import thunk range"
  importSymbols reader pe32Plus thunkRva iatRva (List.range (available / pointerBytes pe32Plus))

structure ImportDescriptor where
  originalFirstThunk : Nat
  timeDateStamp : Nat
  forwarderChain : Nat
  name : Nat
  firstThunk : Nat

def importDescriptorBytes : Nat := 20

def importDescriptor (bytes : List UInt8) : ImportDescriptor :=
  ⟨field bytes 0 4, field bytes 4 4, field bytes 8 4, field bytes 12 4, field bytes 16 4⟩

def ImportDescriptor.terminal (d : ImportDescriptor) : Bool :=
  d.originalFirstThunk = 0 && d.timeDateStamp = 0 && d.forwarderChain = 0 && d.name = 0 && d.firstThunk = 0

def importModule (reader : RvaReader) (d : ImportDescriptor) : Except String ImportModule := do
  require (d.name ≠ 0) "missing import module name"
  let name ← expect (reader.cstring d.name) "invalid import module name"
  let thunk := if d.originalFirstThunk ≠ 0 then d.originalFirstThunk else d.firstThunk
  let symbols ← parseImportSymbols reader reader.headers.pe32Plus thunk d.firstThunk
  return ⟨name, symbols⟩

def importModules (reader : RvaReader) (directory : DataDirectory) : List Nat → Except String (List ImportModule)
  | [] => .error "unterminated import directory"
  | index :: rest => do
      let descriptorRva := directory.virtualAddress + index * importDescriptorBytes
      require (descriptorRva ≤ uint32Max) "import descriptor RVA overflow"
      let bytes ← expect (reader.read descriptorRva importDescriptorBytes) "invalid import descriptor"
      if (importDescriptor bytes).terminal then return []
      else
        let module ← importModule reader (importDescriptor bytes)
        let modules ← importModules reader directory rest
        return module :: modules

def parseImports (reader : RvaReader) : Except String (List ImportModule) := do
  let directory := reader.headers.importDirectory
  directoryPresent directory
  if directory.virtualAddress = 0 then return []
  else
    require (importDescriptorBytes ≤ directory.size) "short import directory"
    require (reader.map directory.virtualAddress directory.size).isSome "invalid import directory range"
    importModules reader directory (List.range (directory.size / importDescriptorBytes))

structure DelayDescriptor where
  attributes : Nat
  name : Nat
  moduleHandle : Nat
  iat : Nat
  lookup : Nat
  bound : Nat
  unload : Nat

def delayDescriptorBytes : Nat := 32

def delayDescriptor (bytes : List UInt8) : DelayDescriptor :=
  ⟨field bytes 0 4, field bytes 4 4, field bytes 8 4, field bytes 12 4, field bytes 16 4, field bytes 20 4,
    field bytes 24 4⟩

def relative (imageBase address : Nat) : Except String Nat :=
  if address = 0 then .ok 0
  else if address < imageBase || address - imageBase > uint32Max then .error "invalid VA delay field"
  else .ok (address - imageBase)

/-- Without the first attribute the members are addresses of memory. -/
def DelayDescriptor.normal (d : DelayDescriptor) (imageBase : Nat) : Except String DelayDescriptor := do
  if d.attributes % 2 ≠ 0 then return d
  else
    let name ← relative imageBase d.name
    let moduleHandle ← relative imageBase d.moduleHandle
    let iat ← relative imageBase d.iat
    let lookup ← relative imageBase d.lookup
    let bound ← relative imageBase d.bound
    let unload ← relative imageBase d.unload
    return ⟨d.attributes, name, moduleHandle, iat, lookup, bound, unload⟩

def delayModule (reader : RvaReader) (bytes : List UInt8) : Except String ImportModule := do
  require ((delayDescriptor bytes).attributes ≤ 1) "unsupported delay attributes"
  let d ← (delayDescriptor bytes).normal reader.headers.imageBase
  let pointerSize := pointerBytes reader.headers.pe32Plus
  require (d.name ≠ 0 && d.moduleHandle ≠ 0 && d.iat ≠ 0 && d.lookup ≠ 0 && reader.mapped d.moduleHandle pointerSize)
    "missing or invalid delay required field"
  let name ← expect (reader.cstring d.name) "invalid delay module name"
  let symbols ← parseImportSymbols reader reader.headers.pe32Plus d.lookup d.iat
  let tableSize := (symbols.length + 1) * pointerSize
  require ((d.bound = 0 || (reader.map d.bound tableSize).isSome) &&
    (d.unload = 0 || (reader.map d.unload tableSize).isSome)) "invalid delay optional table"
  return ⟨name, symbols⟩

def delayModules (reader : RvaReader) (directory : DataDirectory) : List Nat → Except String (List ImportModule)
  | [] => .error "unterminated delay directory"
  | index :: rest => do
      let rva := directory.virtualAddress + index * delayDescriptorBytes
      require (rva ≤ uint32Max) "invalid delay descriptor"
      let bytes ← expect (reader.read rva delayDescriptorBytes) "invalid delay descriptor"
      if bytes.all (· = 0) then return []
      else
        let module ← delayModule reader bytes
        let modules ← delayModules reader directory rest
        return module :: modules

def parseDelayImports (reader : RvaReader) : Except String (List ImportModule) := do
  let directory := reader.headers.delayDirectory
  directoryPresent directory
  if directory.virtualAddress = 0 then return []
  else
    require (delayDescriptorBytes ≤ directory.size && (reader.map directory.virtualAddress directory.size).isSome)
      "invalid delay directory range"
    delayModules reader directory (List.range (directory.size / delayDescriptorBytes))

def parseTls (reader : RvaReader) : Except String Unit := do
  let directory := reader.headers.tlsDirectory
  directoryPresent directory
  if directory.virtualAddress = 0 then return ()
  else
    require ((if reader.headers.pe32Plus then 40 else 24) ≤ directory.size &&
      (reader.map directory.virtualAddress directory.size).isSome) "invalid TLS directory range"

structure ExportDirectory where
  base : Nat
  numberOfFunctions : Nat
  numberOfNames : Nat
  addressOfFunctions : Nat
  addressOfNames : Nat
  addressOfNameOrdinals : Nat

def exportDirectoryBytes : Nat := 40

def exportDirectory (bytes : List UInt8) : ExportDirectory :=
  ⟨field bytes 16 4, field bytes 20 4, field bytes 24 4, field bytes 28 4, field bytes 32 4, field bytes 36 4⟩

structure ExportArrays where
  functionOffset : Nat
  nameOffset : Nat
  ordinalOffset : Nat

def exportForwarder (reader : RvaReader) (directory : DataDirectory) (functionRva : Nat) :
    Except String (List UInt8) := do
  let directoryEnd := directory.virtualAddress + directory.size
  if directory.virtualAddress ≤ functionRva ∧ functionRva < directoryEnd then
    let forwarder ← expect (reader.cstring functionRva) "invalid export forwarder"
    require (forwarder.length + 1 ≤ directoryEnd - functionRva) "invalid export forwarder"
    return forwarder
  else
    require (reader.mapped functionRva 1) "invalid export address"
    return []

def exportSymbol (reader : RvaReader) (directory : DataDirectory) (e : ExportDirectory) (arrays : ExportArrays)
    (previous : List ExportSymbol) (index : Nat) : Except String (List ExportSymbol) := do
  let nameRva ← expect (read reader.file (arrays.nameOffset + index * 4) 4) "invalid named export index"
  let functionIndex ← expect (read reader.file (arrays.ordinalOffset + index * 2) 2) "invalid named export index"
  require (field functionIndex 0 2 < e.numberOfFunctions) "invalid named export index"
  let ordinal := e.base + field functionIndex 0 2
  require (ordinal ≤ uint32Max) "export ordinal overflow"
  let name ← expect (reader.cstring (field nameRva 0 4)) "invalid export name"
  let functionRva ← expect (read reader.file (arrays.functionOffset + field functionIndex 0 2 * 4) 4)
    "null named export address"
  require (field functionRva 0 4 ≠ 0) "null named export address"
  let forwarder ← exportForwarder reader directory (field functionRva 0 4)
  require (previous.all fun symbol => symbol.name ≠ name) "duplicate export name"
  return previous ++ [⟨name, ordinal, field functionRva 0 4, forwarder⟩]

def exportArrays (reader : RvaReader) (e : ExportDirectory) (functionOffset : Nat) : Except String ExportArrays := do
  let nameBytes ← expect (multiplySize e.numberOfNames 4) "export name count overflow"
  let ordinalBytes ← expect (multiplySize e.numberOfNames 2) "export name count overflow"
  require (e.addressOfNames ≠ 0 && e.addressOfNameOrdinals ≠ 0) "invalid export name arrays"
  let (nameOffset, _) ← expect (reader.map e.addressOfNames nameBytes) "invalid export name arrays"
  let (ordinalOffset, _) ← expect (reader.map e.addressOfNameOrdinals ordinalBytes) "invalid export name arrays"
  return ⟨functionOffset, nameOffset, ordinalOffset⟩

def parseExports (reader : RvaReader) : Except String (Nat × List ExportSymbol) := do
  let directory := reader.headers.exportDirectory
  directoryPresent directory
  if directory.virtualAddress = 0 then return (0, [])
  else
    require (exportDirectoryBytes ≤ directory.size) "short export directory"
    require (reader.map directory.virtualAddress directory.size).isSome "invalid export directory range"
    let bytes ← expect (reader.read directory.virtualAddress exportDirectoryBytes) "invalid export directory"
    let e := exportDirectory bytes
    require (e.numberOfNames ≤ e.numberOfFunctions) "export name count exceeds functions"
    if e.numberOfFunctions = 0 then
      require (e.numberOfNames = 0) "names without export functions"
      return (0, [])
    else
      let functionBytes ← expect (multiplySize e.numberOfFunctions 4) "export function count overflow"
      require (e.addressOfFunctions ≠ 0) "invalid export function array"
      let (functionOffset, _) ← expect (reader.map e.addressOfFunctions functionBytes) "invalid export function array"
      require (contains reader.file functionOffset functionBytes) "invalid export function array"
      if e.numberOfNames = 0 then return (e.numberOfFunctions, [])
      else
        let arrays ← exportArrays reader e functionOffset
        let symbols ← (List.range e.numberOfNames).foldlM (exportSymbol reader directory e arrays) []
        return (e.numberOfFunctions, symbols)

end RS2ServerFix.PeReader
