import ModuleScope.Path.Basic
import ModuleScope.Unicode.Property

/-! Paths in quotes, with the characters escaped that cannot be seen. -/

namespace ModuleScope.Path

/-- Characters without a form of their own: control and format characters, blanks but for the plain one, and all that
are not assigned. -/
def unprintable : Unicode.CharSet :=
  (Unicode.CharSet.ofRanges (["Cc", "Cf", "Co", "Cn", "Zl", "Zp", "Zs"].map fun short =>
    (Unicode.category short).ranges).flatten).diff (.single ' ')

/-- Characters that change the one before them. -/
def extending : Unicode.CharSet := (Unicode.spansOf? Unicode.binarySpans "Grapheme_Extend").getD .empty

/-- A number in lower-case hexadecimal digits. -/
def hexOf (number : Nat) : List Char := Nat.toDigits 16 number

/-- A character as it stands in quotes. -/
def escape (c : Char) : List Char :=
  -- Quotes of both kinds are escaped.
  match c with
  | '\x00' => ['\\', '0']
  | '\t' => ['\\', 't']
  | '\r' => ['\\', 'r']
  | '\n' => ['\\', 'n']
  | '"' => ['\\', '"']
  | '\'' => ['\\', '\'']
  | '\\' => ['\\', '\\']
  | _ =>
    if extending.contains c || unprintable.contains c then
      ['\\', 'u', '\x7b'] ++ hexOf c.toNat ++ ['\x7d']
    else [c]

/-- The path in quotes. -/
def debug (path : Path) : String :=
  String.ofList ('"' :: path.chars.flatMap escape ++ ['"'])

end ModuleScope.Path
