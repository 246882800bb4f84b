import ModuleScope.Digest.Sha256
import ModuleScope.Files.Tree
import ModuleScope.Module.Failure

/-! Digests of the contents of modules. -/

namespace ModuleScope

/-- The digest of a module's bytes. -/
structure Digest where
  /-- Its bytes. -/
  bytes : Vector UInt8 32
deriving DecidableEq, Repr

namespace Digest

/-- The lower-case hexadecimal digit of a number below sixteen. -/
def hexDigit (value : Nat) : Char := Char.ofNat (if value < 10 then 48 + value else 87 + value)

/-- The two digits of a byte. -/
def hexByte (byte : UInt8) : List Char := [hexDigit (byte.toNat / 16), hexDigit (byte.toNat % 16)]

/-- The digest in hexadecimal digits. -/
def hex (digest : Digest) : String := String.ofList (digest.bytes.toList.flatMap hexByte)

/-- The digest of the file at a path. -/
def ofFile (tree : FileTree) (path : Path) : Except ModuleFailure Digest :=
  match tree.read path with
  | .ok content => .ok ⟨Sha256.hash content⟩
  | .error error => .error (.ofSystem path error)

end Digest

end ModuleScope
