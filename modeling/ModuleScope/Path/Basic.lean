/-! Paths as texts, and the parts that decide whether two of them are the same. -/

namespace ModuleScope

/-- A path as it was written. -/
structure Path where
  /-- The characters. -/
  chars : List Char
deriving DecidableEq, Repr

namespace Path

/-- A part of a path. -/
inductive Part
  /-- The root directory. -/
  | root
  /-- The current directory, which counts only at the start of a path. -/
  | here
  /-- The directory above. -/
  | up
  /-- A name in a directory. -/
  | name (chars : List Char)
deriving DecidableEq, Repr

/-- The path that a text is. -/
def ofString (text : String) : Path := ⟨text.toList⟩

/-- The path as text. -/
def display (path : Path) : String := String.ofList path.chars

/-- The pieces of a text between its slashes. -/
def pieces : List Char → List (List Char)
  | [] => [[]]
  | c :: rest =>
    -- There is always a last piece, which the other characters are put before.
    if c = '/' then [] :: pieces rest
    else (c :: (pieces rest).headD []) :: (pieces rest).tail

/-- The text that pieces make with slashes between them. -/
def joinPieces : List (List Char) → List Char
  | [] => []
  | [piece] => piece
  | piece :: rest => piece ++ '/' :: joinPieces rest

/-- The part that a piece stands for; empty pieces and single dots stand for nothing. -/
def partOf? (piece : List Char) : Option Part :=
  -- A dot counts only at the start of a path.
  if piece = [] || piece = ['.'] then none
  else if piece = ['.', '.'] then some .up
  else some (.name piece)

/-- The pieces of a path after its root or its dot at the start, and what stands there. -/
def split (path : Path) : Option Part × List (List Char) :=
  match path.chars with
  | '/' :: rest => (some .root, pieces rest)
  | chars =>
    match pieces chars with
    | ['.'] :: rest => (some .here, rest)
    | all => (none, all)

/-- The parts of a path. -/
def parts (path : Path) : List Part :=
  -- Slashes side by side or at the end make no difference.
  path.split.1.toList ++ path.split.2.filterMap partOf?

/-- Two paths are the same if they have the same parts. -/
def Same (a b : Path) : Prop := a.parts = b.parts

instance (a b : Path) : Decidable (Same a b) := inferInstanceAs (Decidable (a.parts = b.parts))

/-- The path starts at the root. -/
def isAbsolute (path : Path) : Bool := path.chars.head? = some '/'

/-- A path taken from another one on. -/
def join (base path : Path) : Path :=
  -- An absolute path stands for itself.
  if path.isAbsolute || base.chars = [] then path
  else if base.chars.getLast? = some '/' then ⟨base.chars ++ path.chars⟩
  else ⟨base.chars ++ '/' :: path.chars⟩

/-- Pieces without those at the end that stand for nothing. -/
def trimEnd (pieces : List (List Char)) : List (List Char) :=
  (pieces.reverse.dropWhile fun piece => (partOf? piece).isNone).reverse

/-- The path without its last part. -/
def parent? (path : Path) : Option Path :=
  -- What stood before the last part is kept as it was written, but for what stands for nothing at its end.
  let (start, body) := path.split
  let body := trimEnd body
  let kept := trimEnd body.dropLast
  match start, body with
  | none, [] => none
  | none, _ => some ⟨joinPieces kept⟩
  | some .root, [] => none
  | some .root, _ => some ⟨'/' :: joinPieces kept⟩
  | some _, [] => some ⟨[]⟩
  | some _, _ => some ⟨joinPieces (['.'] :: kept)⟩

/-- The name at the end of a path. -/
def fileName? (path : Path) : Option (List Char) :=
  -- The path must not end with the root, the current directory or the one above.
  match path.parts.getLast? with
  | some (.name name) => some name
  | _ => none

/-- A name without its last extension. -/
def stem (name : List Char) : List Char :=
  -- A dot at the start of a name starts no extension.
  match (name.reverse.dropWhile (· ≠ '.')).tail.reverse with
  | [] => name
  | before => before

end Path

end ModuleScope
