import ModuleScope.Elf.Bytes

/-! Kinds of binary files, by the bytes at their start. -/

namespace ModuleScope.Elf

/-- Why a file is no module. -/
inductive FormatError
  /-- The file has no bytes. -/
  | emptyFile
  /-- The file is a binary of another kind. -/
  | unsupported (kind : String)
  /-- The file is no binary of a known kind. -/
  | unknown
  /-- The headers of the file cannot be read. -/
  | badHeader
  /-- The dynamic section or its texts cannot be read. -/
  | badDynamic
deriving DecidableEq, Repr

namespace FormatError

/-- What is said about the file. -/
def message : FormatError → String
  | emptyFile => "empty file"
  | unsupported kind => "Unsupported module format: " ++ kind
  | unknown => "Unknown file magic"
  | badHeader => "Invalid ELF header"
  | badDynamic => "Invalid ELF dynamic section"

end FormatError

/-- The word size of a file. -/
inductive WordSize
  /-- Words of four bytes. -/
  | four
  /-- Words of eight bytes. -/
  | eight
deriving DecidableEq, Repr

namespace WordSize

/-- The bytes of a word. -/
def bytes : WordSize → Nat
  | four => 4
  | eight => 8

end WordSize

/-- The kind that the header of a Windows program tells. -/
def windowsKind? (data : ByteArray) : Option String := do
  -- The first header leads to the second, which has a mark and tells the size of words.
  let _ ← slice? data 0 64
  let offset ← number? data .little 0x3C 4
  let _ ← slice? data offset 120
  let mark ← slice? data offset 4
  if mark ≠ [0x50, 0x45, 0, 0] then none
  else
    match ← number? data .little (offset + 24) 2 with
    | 0x10B => some "Pe32"
    | 0x20B => some "Pe64"
    | _ => none

/-- The mark of object files with many sections. -/
def manySectionsMark : List UInt8 :=
  [0xC7, 0xA1, 0xBA, 0xD1, 0xEE, 0xBA, 0xA9, 0x4B, 0xAF, 0x20, 0xFA, 0xF6, 0x6A, 0xA4, 0xDC, 0xB8]

/-- The word size of a file of the kind that is read, or why it is none. -/
def wordSizeOf (data : ByteArray) : Except FormatError WordSize :=
  -- Sixteen bytes are looked at, whatever the kind.
  match slice? data 0 16 with
  | none => .error .unknown
  | some start =>
    match start.map UInt8.toNat with
    | 0x7F :: 0x45 :: 0x4C :: 0x46 :: 1 :: _ => .ok .four
    | 0x7F :: 0x45 :: 0x4C :: 0x46 :: 2 :: _ => .ok .eight
    | 0x21 :: 0x3C :: 0x61 :: 0x72 :: 0x63 :: 0x68 :: 0x3E :: 0x0A :: _ => .error (.unsupported "Archive")
    | 0x21 :: 0x3C :: 0x74 :: 0x68 :: 0x69 :: 0x6E :: 0x3E :: 0x0A :: _ => .error (.unsupported "Archive")
    | 0x64 :: 0x79 :: 0x6C :: 0x64 :: 0x5F :: 0x76 :: 0x31 :: 0x20 :: _ => .error (.unsupported "DyldCache")
    | 0xFE :: 0xED :: 0xFA :: 0xCE :: _ => .error (.unsupported "MachO32")
    | 0xCE :: 0xFA :: 0xED :: 0xFE :: _ => .error (.unsupported "MachO32")
    | 0xFE :: 0xED :: 0xFA :: 0xCF :: _ => .error (.unsupported "MachO64")
    | 0xCF :: 0xFA :: 0xED :: 0xFE :: _ => .error (.unsupported "MachO64")
    | 0xCA :: 0xFE :: 0xBA :: 0xBE :: _ => .error (.unsupported "MachOFat32")
    | 0xCA :: 0xFE :: 0xBA :: 0xBF :: _ => .error (.unsupported "MachOFat64")
    | 0x4D :: 0x5A :: _ =>
      match windowsKind? data with
      | some kind => .error (.unsupported kind)
      | none => .error .unknown
    | 0xC4 :: 0x01 :: _ => .error (.unsupported "Coff")
    | 0x64 :: 0xAA :: _ => .error (.unsupported "Coff")
    | 0x41 :: 0xA6 :: _ => .error (.unsupported "Coff")
    | 0x4C :: 0x01 :: _ => .error (.unsupported "Coff")
    | 0x64 :: 0x86 :: _ => .error (.unsupported "Coff")
    | 0x00 :: 0x00 :: 0xFF :: 0xFF :: 0x00 :: 0x00 :: _ => .error (.unsupported "CoffImport")
    | 0x00 :: 0x00 :: 0xFF :: 0xFF :: 0x02 :: 0x00 :: _ =>
      if slice? data 12 16 = some manySectionsMark && (slice? data 0 32).isSome then
        .error (.unsupported "CoffBig")
      else .error .unknown
    | 0x01 :: 0xDF :: _ => .error (.unsupported "Xcoff32")
    | 0x01 :: 0xF7 :: _ => .error (.unsupported "Xcoff64")
    | _ => .error .unknown

end ModuleScope.Elf
