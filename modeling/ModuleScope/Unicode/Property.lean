import ModuleScope.Unicode.Age
import ModuleScope.Unicode.Binary
import ModuleScope.Unicode.Category
import ModuleScope.Unicode.CharSet
import ModuleScope.Unicode.Names
import ModuleScope.Unicode.Script
import ModuleScope.Unicode.ScriptExtension
import ModuleScope.Unicode.Segmentation

/-! Character properties by name, with the loose matching of names that the standard asks for. -/

namespace ModuleScope.Unicode

/-- The characters of a name that count: blanks, hyphens, underscores, case and a leading `is` do not. -/
def looseName (name : List Char) : String :=
  -- The letter `c` alone would be a category, but after `is` it abbreviates a comment property.
  let hasIs := (name.take 2).map Char.toLower = ['i', 's']
  let kept := (if hasIs then name.drop 2 else name).filter fun c =>
    c.toNat < 128 && c ≠ ' ' && c ≠ '_' && c ≠ '-'
  let loose := String.ofList (kept.map Char.toLower)
  if hasIs && loose = "c" then "isc" else loose

/-- The first entry of the row whose blank-separated names include `loose`. -/
def rowNamed? (rows : List (String × String)) (loose : String) : Option String :=
  -- A name belongs to at most one row.
  (rows.find? fun row => (row.2.splitOn " ").contains loose).map Prod.fst

/-- The set that a table of spans gives for a name. -/
def spansOf? (table : List (String × String)) (name : String) : Option CharSet :=
  -- Rows are read only when they are asked for.
  (table.lookup name).map CharSet.ofSpans

/-- The characters of one general category, by its short name. -/
def category (short : String) : CharSet :=
  -- The unassigned characters are the ones that no row and no surrogate takes.
  if short = "Cn" then
    ((categorySpans.map fun row => (CharSet.ofSpans row.2).ranges).flatten ++ [(0xD800, 0xDFFF)]
      |> CharSet.ofRanges).complement
  else
    (spansOf? categorySpans short).getD .empty

/-- The characters of a general category or a group of categories, by a loose name. -/
def category? (loose : String) : Option CharSet :=
  -- Three names stand for sets that are no category.
  match loose with
  | "any" => some .all
  | "assigned" => some (category "Cn").complement
  | "ascii" => some ⟨[(0, 127)]⟩
  | _ =>
    (categoryNames.find? fun row => (row.1.splitOn " ").contains loose).map fun row =>
      CharSet.ofRanges ((row.2.splitOn " ").map fun short => (category short).ranges).flatten

/-- The characters of a script, by a loose name. -/
def script? (loose : String) : Option CharSet := do
  -- Scripts are kept by their short names.
  let short ← rowNamed? scriptNames loose
  spansOf? scriptSpans short

/-- The characters that a script uses, by a loose name. -/
def scriptExtension? (loose : String) : Option CharSet := do
  -- A script without a row of its own uses just the characters that belong to it.
  let short ← rowNamed? scriptNames loose
  (spansOf? scriptExtensionSpans short).or (spansOf? scriptSpans short)

/-- The characters that a version of the standard and the ones before it have assigned. -/
def age? (loose : String) : Option CharSet :=
  -- A version may be written with a point or as the letter V and an underscore.
  let wanted := fun (row : String × String) =>
    let name := row.1.toList
    loose = looseName name ||
      loose.toList = (name.drop 1).map fun c => if c = '_' then '.' else c
  if ageSpans.any wanted then
    let before := ageSpans.takeWhile fun row => !wanted row
    let last := ageSpans.filter wanted
    some (CharSet.ofRanges ((before ++ last).map fun row => (CharSet.ofSpans row.2).ranges).flatten)
  else none

/-- The characters that have a yes-or-no property, by a loose name. -/
def binary? (loose : String) : Option CharSet := do
  -- Properties are kept by their long names.
  let long ← rowNamed? binaryNames loose
  spansOf? binarySpans long

/-- The characters that have the property, category or script of this name. -/
def named? (name : List Char) : Option CharSet :=
  -- A property hides a category of its name, and a category hides a script.
  let loose := looseName name
  (binary? loose).or ((category? loose).or (script? loose))

/-- The characters whose property `name` has the value `value`. -/
def valued? (name value : List Char) : Option CharSet :=
  -- Only properties with named values can be asked for in this way.
  let loose := looseName value
  match looseName name with
  | "gc" | "generalcategory" | "category" => category? loose
  | "sc" | "script" => script? loose
  | "scx" | "scriptextensions" => scriptExtension? loose
  | "age" => age? loose
  | "gcb" | "graphemeclusterbreak" => do spansOf? graphemeBreakSpans (← rowNamed? graphemeBreakNames loose)
  | "wb" | "wordbreak" => do spansOf? wordBreakSpans (← rowNamed? wordBreakNames loose)
  | "sb" | "sentencebreak" => do spansOf? sentenceBreakSpans (← rowNamed? sentenceBreakNames loose)
  | _ => none

/-- White space. -/
def blankSet : CharSet := (spansOf? binarySpans "White_Space").getD .empty

/-- Decimal digits of all scripts. -/
def digitSet : CharSet := category "Nd"

/-- Letters, marks, decimal digits, connectors and join controls. -/
def wordSet : CharSet :=
  -- The characters that words are made of.
  CharSet.ofRanges (["Alphabetic", "Join_Control"].map fun name =>
      ((spansOf? binarySpans name).getD .empty).ranges).flatten
    |>.union (CharSet.ofRanges (["Mc", "Me", "Mn", "Nd", "Pc"].map fun short =>
      (category short).ranges).flatten)

/-- Letters and letter-like characters. -/
def letterSet : CharSet := (spansOf? binarySpans "Alphabetic").getD .empty

/-- Numbers of all kinds. -/
def numberSet : CharSet := (category? "n").getD .empty

/-- Whether a character is white space. -/
def isBlank (c : Char) : Bool := blankSet.contains c

end ModuleScope.Unicode
