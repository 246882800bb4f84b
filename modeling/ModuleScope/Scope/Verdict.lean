import ModuleScope.Filter.Basic
import ModuleScope.Module.Found

/-! Verdicts: whether a module that was found is in scope, and how that is written. -/

namespace ModuleScope

/-- Why a module is in scope or not. -/
inductive VerdictReason
  /-- Its assembly is covered. -/
  | covered
  /-- Its assembly is not covered. -/
  | assemblyFiltered
  /-- Its file is excluded. -/
  | fileExcluded
deriving DecidableEq, Repr

namespace VerdictReason

/-- The reason as it is written. -/
def display : VerdictReason → String
  | covered => "covered"
  | assemblyFiltered => "assembly_filtered"
  | fileExcluded => "file_excluded"

end VerdictReason

/-- The verdict on a module. -/
structure Verdict where
  /-- The name of its file. -/
  name : List Char
  /-- The name by which coverage was decided. -/
  assembly : List Char
  /-- Where it was found. -/
  path : Path
  /-- The digest of its bytes. -/
  digest : Digest
  /-- Why it is in scope or not. -/
  reason : VerdictReason
deriving DecidableEq, Repr

namespace Verdict

/-- Whether the module is in scope. -/
def inScope (verdict : Verdict) : Bool := verdict.reason = .covered

/-- The verdict of a filter on a module. -/
def evaluate (filter : Filter) (module : FoundModule) : Verdict :=
  -- Excluded files are out of scope whatever their assembly.
  let reason :=
    if filter.excludesFile (String.ofList module.name) then VerdictReason.fileExcluded
    else if filter.coversAssembly (String.ofList module.assemblyName) then .covered
    else .assemblyFiltered
  ⟨module.name, module.assemblyName, module.path, module.digest, reason⟩

/-- The digits of a digest that a line of text shows. -/
def shownDigits : Nat := 12

/-- The characters of the verdict's line of text. -/
def textChars (verdict : Verdict) : List Char :=
  -- Blanks stand between the sign, the name, the digest and the path.
  (if verdict.inScope then '+' else '-') :: ' ' :: verdict.name ++ ' ' ::
    verdict.digest.hex.toList.take shownDigits ++ ' ' :: verdict.path.chars

/-- The verdict as a line of text. -/
def textLine (verdict : Verdict) : String := String.ofList verdict.textChars

/-- A character as it stands in a JSON text. -/
def escapeJson (c : Char) : List Char :=
  -- Only quotes, backslashes and control characters are escaped.
  match c with
  | '"' => ['\\', '"']
  | '\\' => ['\\', '\\']
  | '\x08' => ['\\', 'b']
  | '\t' => ['\\', 't']
  | '\n' => ['\\', 'n']
  | '\x0c' => ['\\', 'f']
  | '\r' => ['\\', 'r']
  | _ =>
    if c.toNat < 0x20 then ['\\', 'u'] ++ '0' :: '0' :: Digest.hexByte (UInt8.ofNat c.toNat) else [c]

/-- A JSON text. -/
def quoteJson (chars : List Char) : List Char := '"' :: chars.flatMap escapeJson ++ ['"']

/-- The verdict as a JSON object. -/
def jsonLine (verdict : Verdict) : String :=
  -- The fields come in a fixed order, without blanks.
  let text := fun (name : String) (value : List Char) =>
    quoteJson name.toList ++ ':' :: quoteJson value
  let fields := [text "name" verdict.name, text "assembly" verdict.assembly,
    text "path" verdict.path.chars, text "digest" verdict.digest.hex.toList,
    quoteJson "in_scope".toList ++ ':' :: (if verdict.inScope then "true" else "false").toList,
    text "reason" verdict.reason.display.toList]
  String.ofList ('\x7b' :: [','].intercalate fields ++ ['\x7d'])

end Verdict

end ModuleScope
