import ModuleScope.Elf.Kind
import ModuleScope.Text.Lossy

/-! The dynamic section of a module: its own name, the libraries it needs and where to look for them. -/

namespace ModuleScope.Elf

/-- An entry of a dynamic section. -/
structure DynamicEntry where
  /-- What the entry is about. -/
  tag : Nat
  /-- The value, which for names is a place among the texts. -/
  value : Nat
deriving DecidableEq, Repr

/-- Texts that follow one another, each up to a zero byte; there may be none at all. -/
abbrev StringTable := Option (List UInt8)

/-- The first number that is too great for four bytes. -/
def offsetEnd : Nat := 0x100000000

/-- The first number that is too great for eight bytes. -/
def addressEnd : Nat := 0x10000000000000000

/-- The text at a place, if a zero byte ends it. -/
def StringTable.get? (table : StringTable) (offset : Nat) : Option (List Char) := do
  -- A text that is not ended is no text, and places are numbers of four bytes.
  let bytes := (← table).drop offset
  if offset < offsetEnd && bytes.contains 0 then some (Text.decodeLossy (bytes.takeWhile (· ≠ 0)))
  else none

/-- What a dynamic section says about references. -/
structure Linkage where
  /-- The name that the module declares for itself. -/
  soname : Option (List Char) := none
  /-- The libraries that the module needs, in order. -/
  needed : List (List Char) := []
  /-- The directories to search. -/
  runpath : Option (List Char) := none
  /-- The directories to search by an older rule. -/
  rpath : Option (List Char) := none
deriving DecidableEq, Repr

namespace Linkage

/-- Takes account of an entry. -/
def add (strings : StringTable) (info : Linkage) (entry : DynamicEntry) :
    Except FormatError Linkage :=
  -- Entries about other things are passed over.
  let read := match strings.get? entry.value with
    | some text => .ok text
    | none => Except.error FormatError.badDynamic
  match entry.tag with
  | 1 => do .ok { info with needed := info.needed ++ [← read] }
  | 14 => do .ok { info with soname := some (← read) }
  | 15 => do .ok { info with rpath := some (← read) }
  | 29 => do .ok { info with runpath := some (← read) }
  | _ => .ok info

/-- What the entries of a section say. -/
def ofEntries (strings : StringTable) (entries : List DynamicEntry) : Except FormatError Linkage :=
  entries.foldlM (add strings) {}

end Linkage

/-- What the header of a section says. -/
structure SectionHeader where
  /-- What the section holds. -/
  kind : Nat
  /-- Where it starts. -/
  offset : Nat
  /-- How many bytes it has. -/
  size : Nat
  /-- The section that belongs to it. -/
  link : Nat
deriving DecidableEq, Repr

/-- The layout of a file. -/
structure Layout where
  /-- The size of its words. -/
  words : WordSize
  /-- The order of bytes. -/
  order : ByteOrder

namespace Layout

/-- The bytes of the header of a file. -/
def headerSize (layout : Layout) : Nat :=
  match layout.words with
  | .four => 52
  | .eight => 64

/-- The bytes of the header of a section. -/
def sectionSize (layout : Layout) : Nat :=
  match layout.words with
  | .four => 40
  | .eight => 64

/-- The layout that the start of a file tells. -/
def of? (data : ByteArray) (words : WordSize) : Option Layout := do
  -- The whole header has to be there, in a version that is known.
  let order ← match number? data .little 5 1 with
    | some 1 => some .little
    | some 2 => some .big
    | _ => none
  let layout : Layout := ⟨words, order⟩
  if number? data .little 6 1 = some 1 && layout.headerSize ≤ data.size then some layout else none

/-- The header of a section at a place. -/
def section? (layout : Layout) (data : ByteArray) (offset : Nat) : Option SectionHeader := do
  let word := fun at_ => number? data layout.order (offset + at_) layout.words.bytes
  let half := fun at_ => number? data layout.order (offset + at_) 4
  let _ ← slice? data offset layout.sectionSize
  match layout.words with
  | .four => some ⟨← half 4, ← half 16, ← half 20, ← half 24⟩
  | .eight => some ⟨← half 4, ← word 24, ← word 32, ← half 40⟩

/-- The headers of all sections. -/
def sections? (layout : Layout) (data : ByteArray) : Option (List SectionHeader) := do
  -- A file without sections is no mistake; a count that does not fit stands in the first section.
  let (place, size, count) := match layout.words with
    | .four => (32, 46, 48)
    | .eight => (40, 58, 60)
  let offset ← number? data layout.order place layout.words.bytes
  if offset = 0 then some []
  else
    let size ← number? data layout.order size 2
    let count ← number? data layout.order count 2
    let fits := size = layout.sectionSize
    let count ← if 0 < count then some count
      else if fits then (layout.section? data offset).map SectionHeader.size
      else none
    if count = 0 then some []
    else if fits && offset + count * layout.sectionSize ≤ data.size then
      (List.range count).mapM fun index => layout.section? data (offset + index * layout.sectionSize)
    else none

/-- Whether the names of the sections are where the header says. -/
def hasSectionNames (layout : Layout) (data : ByteArray) (sections : List SectionHeader) : Bool :=
  -- An index that does not fit stands in the first section, and the first section itself has no names.
  let place := match layout.words with
    | .four => 50
    | .eight => 62
  match number? data layout.order place 2, sections with
  | none, _ => false
  | some _, [] => true
  | some index, first :: _ =>
    let index := if index = 0xFFFF then first.link else index
    match sections[index]? with
    | none => false
    | some names => index ≠ 0 && (names.kind = 8 || names.offset + names.size < addressEnd)

/-- The bytes of a section; one of kind eight has none in the file. -/
def bytes? (data : ByteArray) (header : SectionHeader) : Option (List UInt8) :=
  if header.kind = 8 then some [] else slice? data header.offset header.size

/-- So many entries of a dynamic section. -/
def entriesFrom (layout : Layout) : Nat → List UInt8 → List DynamicEntry
  | 0, _ => []
  | count + 1, bytes =>
    -- A tag and a value are a word each.
    let word := layout.words.bytes
    ⟨numberOf layout.order (bytes.take word), numberOf layout.order ((bytes.drop word).take word)⟩
      :: entriesFrom layout count (bytes.drop (2 * word))

/-- The entries of a dynamic section, which have to fill it. -/
def entries? (layout : Layout) (bytes : List UInt8) : Option (List DynamicEntry) :=
  let size := 2 * layout.words.bytes
  if bytes.length % size = 0 then some (layout.entriesFrom (bytes.length / size) bytes) else none

/-- The texts of the section with an index; the index zero stands for no section. -/
def strings? (data : ByteArray) (sections : List SectionHeader) (index : Nat) : Option StringTable :=
  -- Bytes past the end of the file are noticed only when a text is asked for.
  if index = 0 then some none
  else
    match sections[index]? with
    | none => none
    | some header =>
      if header.kind ≠ 3 || addressEnd ≤ header.offset + header.size then none
      else some (slice? data header.offset header.size)

end Layout

/-- What a file says about references. -/
def parse (data : ByteArray) : Except FormatError Linkage := do
  -- A file without a dynamic section refers to nothing.
  let words ← wordSizeOf data
  let layout ← (Layout.of? data words).elim (.error .badHeader) .ok
  let sections ← (layout.sections? data).elim (.error .badHeader) .ok
  if !layout.hasSectionNames data sections then .error .badHeader
  else
    match sections.find? fun header => header.kind = 6 with
    | none => .ok {}
    | some header =>
      let entries ← ((Layout.bytes? data header).bind layout.entries?).elim (.error .badDynamic) .ok
      let strings ← (Layout.strings? data sections header.link).elim (.error .badDynamic) .ok
      Linkage.ofEntries strings entries

end ModuleScope.Elf
