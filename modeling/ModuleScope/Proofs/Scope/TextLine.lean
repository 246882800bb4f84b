import ModuleScope.Proofs.Scope.Verdict

/-! What a line of text tells of a verdict: though nothing is quoted, no two ways to read it are left. -/

namespace ModuleScope

namespace Path

/-- The last part that pieces of a path stand for. -/
def lastPart? (pieces : List (List Char)) : Option Part := (pieces.filterMap partOf?).getLast?

/-- What stands at the start of a path is no name, and all other parts are those of its pieces. -/
theorem parts_eq (path : Path) :
    ∃ start : Option Part, path.parts = start.toList ++ (pieces path.chars).filterMap partOf? ∧
      ∀ name, start ≠ some (.name name) := by
  -- A root is an empty first piece, and a dot is a first piece of its own: both count for nothing there.
  unfold parts split
  split
  · rename_i rest rooted
    exact ⟨some .root, by simp [rooted, pieces, partOf?], by simp⟩
  · split
    · rename_i rest dotted
      exact ⟨some .here, by simp [dotted, partOf?], by simp⟩
    · exact ⟨none, by simp, by simp⟩

/-- A path ends with a name just if that is the last thing its pieces stand for. -/
theorem endsWith_iff_lastPart? {path : Path} {name : List Char} :
    path.EndsWith name ↔ lastPart? (pieces path.chars) = some (.name name) := by
  obtain ⟨start, parts, unnamed⟩ := path.parts_eq
  unfold EndsWith
  rw [← List.getLast?_eq_some_iff, parts, List.getLast?_append]
  show (lastPart? (pieces path.chars)).or start.toList.getLast? = _ ↔ _
  cases lastPart? (pieces path.chars) with
  | some part => simp
  | none =>
    -- Only what stands at the start is left, and that is no name.
    cases start with
    | none => simp
    | some part => simpa using unnamed name

/-- A text without slashes joins the first piece of what follows it. -/
theorem pieces_prepend {front : List Char} (slashless : '/' ∉ front) (text : List Char) :
    ∃ first rest, pieces text = first :: rest ∧ pieces (front ++ text) = (front ++ first) :: rest := by
  obtain ⟨first, rest, split⟩ := List.exists_cons_of_ne_nil (pieces_ne_nil text)
  refine ⟨first, rest, split, ?_⟩
  induction front with
  | nil => exact split
  | cons c front ih =>
    -- A character that is no slash goes in front of the first piece.
    simp only [List.mem_cons, not_or] at slashless
    simp [pieces, Ne.symm slashless.1, ih slashless.2]

/-- A slash stands between two pieces. -/
theorem pieces_append_slash (front rest : List Char) :
    pieces (front ++ '/' :: rest) = pieces front ++ pieces rest := by
  induction front with
  | nil => simp [pieces]
  | cons c front ih =>
    -- A slash starts another piece, and any other character joins the first one.
    by_cases slash : c = '/'
    · simp [pieces, slash, ih]
    · obtain ⟨first, others, split⟩ := List.exists_cons_of_ne_nil (pieces_ne_nil front)
      simp [pieces, slash, ih, split]

/-- The last part of more pieces is that of the later ones, if they stand for anything. -/
theorem lastPart?_append (front back : List (List Char)) :
    lastPart? (front ++ back) = (lastPart? back).or (lastPart? front) := by
  simp [lastPart?, List.filterMap_append, List.getLast?_append]

/-- A single piece stands for itself. -/
theorem lastPart?_singleton (piece : List Char) : lastPart? [piece] = partOf? piece := by
  cases found : partOf? piece <;> simp [lastPart?, found]

/-- A piece with a blank in it is a name. -/
theorem partOf?_of_blank {piece : List Char} (blank : ' ' ∈ piece) : partOf? piece = some (.name piece) := by
  have filled : piece ≠ [] := List.ne_nil_of_mem blank
  -- Neither dots nor nothing at all has a blank in it.
  have single : piece ≠ ['.'] := by
    rintro rfl
    simp at blank
  have double : piece ≠ ['.', '.'] := by
    rintro rfl
    simp at blank
  simp [partOf?, filled, single, double]

end Path

namespace Digest

/-- A digit is no slash. -/
theorem hexDigit_ne_slash {value : Nat} (small : value < 16) : hexDigit value ≠ '/' := by
  -- Sixteen characters, each looked at once.
  revert value
  decide

/-- No slash stands in a digest. -/
theorem slashless_hex (digest : Digest) : '/' ∉ digest.hex.toList := by
  rw [hex, String.toList_ofList, List.mem_flatMap]
  rintro ⟨byte, _, inside⟩
  have bound : byte.toNat < 256 := byte.toNat_lt
  rcases List.mem_cons.mp inside with high | low
  · exact hexDigit_ne_slash (by omega) high.symm
  · exact hexDigit_ne_slash (by omega) (List.mem_singleton.mp low).symm

/-- A digest is written with two digits for each of its bytes. -/
theorem length_hex (digest : Digest) : digest.hex.toList.length = 64 := by
  -- The digits are counted byte by byte.
  have bytes : ∀ bytes : List UInt8, (bytes.flatMap hexByte).length = 2 * bytes.length := by
    intro bytes
    induction bytes with
    | nil => rfl
    | cons byte bytes ih =>
      rw [List.flatMap_cons, List.length_append, ih, List.length_cons]
      simp only [hexByte, List.length_cons, List.length_nil]
      omega
  rw [hex, String.toList_ofList, bytes, Vector.length_toList]

end Digest

/-- The name of a module is what its path ends with, or the whole path if that ends with no name. -/
theorem FoundModule.name_cases (module : FoundModule) :
    (module.path.EndsWith module.name ∧ '/' ∉ module.name) ∨
      (module.name = module.path.chars ∧ ∀ name, ¬ module.path.EndsWith name) := by
  cases found : module.path.fileName? with
  | none =>
    refine .inr ⟨by rw [name, found, Option.getD_none], fun name ends => ?_⟩
    rw [Path.fileName?_eq_some.mpr ends] at found
    cases found
  | some name =>
    -- What a path ends with is one of its parts, and there are no slashes in those.
    have ends : module.path.EndsWith name := Path.fileName?_eq_some.mp found
    obtain ⟨front, parts⟩ := ends
    have member : Path.Part.name name ∈ module.path.parts := by simp [parts]
    rw [module.name_of_endsWith ⟨front, parts⟩]
    exact .inl ⟨⟨front, parts⟩, (Path.isPiece_of_mem_parts member).1.slashless⟩

namespace Verdict

open ModuleScope.Path

/-- The text after the sign: a name, some digits and a path, with blanks between them. -/
def textAfterSign (name digits path : List Char) : List Char := name ++ ' ' :: digits ++ ' ' :: path

variable {name digits path name' digits' path' : List Char}

/-- The text is as long as its parts and the two blanks. -/
theorem length_textAfterSign :
    (textAfterSign name digits path).length = name.length + digits.length + path.length + 2 := by
  simp only [textAfterSign, List.length_append, List.length_cons]
  omega

/-- Texts with equally long names and digits have the same parts. -/
theorem textAfterSign_inj (same : textAfterSign name digits path = textAfterSign name' digits' path')
    (names : name.length = name'.length) (equal : digits.length = digits'.length) :
    name = name' ∧ digits = digits' ∧ path = path' := by
  unfold textAfterSign at same
  obtain ⟨before, paths⟩ := List.append_inj same (by simp [names, equal])
  obtain ⟨front, after⟩ := List.append_inj before names
  exact ⟨front, (List.cons.inj after).2, (List.cons.inj paths).2⟩

/-- How a text after the sign is cut into pieces, if its path ends with its name. -/
structure NamedText (name digits path text : List Char) : Prop where
  /-- The text is made of these parts. -/
  made : text = textAfterSign name digits path
  /-- The name is a single piece. -/
  slashless : '/' ∉ name
  /-- So are the digits. -/
  plain : '/' ∉ digits
  /-- The path ends with the name. -/
  ends : lastPart? (pieces path) = some (.name name)

/-- The first piece of such a text starts with the name and the digits, and the last is the name, unless the path is
nothing but the name and what counts for nothing. -/
theorem NamedText.pieces_eq {text : List Char} (named : NamedText name digits path text) :
    ∃ first rest, pieces text = textAfterSign name digits first :: rest ∧
      (lastPart? rest = some (.name name) ∨ lastPart? rest = none ∧ first = name) := by
  -- Up to the path there is no slash.
  have front : '/' ∉ name ++ ' ' :: digits ++ [' '] := by
    simp [named.slashless, named.plain]
  obtain ⟨first, rest, split, joined⟩ := pieces_prepend front path
  refine ⟨first, rest, ?_, ?_⟩
  · rw [named.made]
    simpa [textAfterSign] using joined
  · -- The name is one of the later pieces, or the first one if those count for nothing.
    have ends := named.ends
    rw [split, ← List.singleton_append, lastPart?_append, lastPart?_singleton] at ends
    cases later : lastPart? rest with
    | some part =>
      rw [later, Option.some_or] at ends
      exact .inl ends
    | none =>
      rw [later, Option.none_or] at ends
      exact .inr ⟨rfl, partOf?_eq_name ends⟩

/-- The last part of such a text is a name. -/
theorem NamedText.lastPart?_name {text : List Char} (named : NamedText name digits path text) :
    ∃ last, lastPart? (pieces text) = some (.name last) := by
  obtain ⟨first, rest, split, last | ⟨later, _⟩⟩ := named.pieces_eq
  · exact ⟨name, by rw [split, ← List.singleton_append, lastPart?_append, last, Option.some_or]⟩
  · have blank : ' ' ∈ textAfterSign name digits first := by simp [textAfterSign]
    refine ⟨textAfterSign name digits first, ?_⟩
    rw [split, ← List.singleton_append, lastPart?_append, lastPart?_singleton, later, Option.none_or,
      partOf?_of_blank blank]

/-- Two readings of a text with a path that ends with its name give the same name. -/
theorem NamedText.length_eq {text : List Char} (one : NamedText name digits path text)
    (other : NamedText name' digits' path' text) (equal : digits.length = digits'.length) :
    name.length = name'.length := by
  obtain ⟨first, rest, split, last⟩ := one.pieces_eq
  obtain ⟨first', rest', split', last'⟩ := other.pieces_eq
  obtain ⟨same, rfl⟩ := List.cons.inj (split.symm.trans split')
  rcases last with found | ⟨lost, rfl⟩
  · -- Whether the later pieces count for something is the same in both readings.
    rcases last' with found' | ⟨lost', _⟩
    · -- Both names are the last piece.
      cases found.symm.trans found'
      rfl
    · cases found.symm.trans lost'
  · rcases last' with found' | ⟨_, rfl⟩
    · cases lost.symm.trans found'
    · -- Both names stand twice in the first piece.
      have lengths := congrArg List.length same
      rw [length_textAfterSign, length_textAfterSign] at lengths
      omega

/-- If the name is the whole path, because that ends with no name, no name of another length is read from the text. -/
theorem NamedText.length_eq_twice {text : List Char} (one : NamedText name digits path text)
    (twice : text = textAfterSign path' digits' path') (plain : '/' ∉ digits')
    (equal : digits.length = digits'.length)
    (unnamed : ∀ last, lastPart? (pieces path') ≠ some (.name last)) : name.length = path'.length := by
  obtain ⟨first, rest, split, last⟩ := one.pieces_eq
  by_cases slash : '/' ∈ path'
  · exfalso
    obtain ⟨front, back, rfl, slashless⟩ := List.eq_append_cons_of_mem slash
    -- The first piece of the path is that of the text, which has blanks in it.
    have begins : text = front ++ '/' :: (back ++ ' ' :: digits' ++ ' ' :: (front ++ '/' :: back)) := by
      simp [twice, textAfterSign]
    rw [begins, pieces_append slashless] at split
    have blank : ' ' ∈ front := by
      rw [(List.cons.inj split).1]
      simp [textAfterSign]
    -- So the path leads upwards behind it, and the text ends as the path does.
    have parts : lastPart? (pieces (front ++ '/' :: back)) = (lastPart? (pieces back)).or (some (.name front)) := by
      rw [pieces_append slashless, ← List.singleton_append, lastPart?_append, lastPart?_singleton,
        partOf?_of_blank blank]
    have ending : text = textAfterSign (front ++ '/' :: back) digits' front ++ '/' :: back := by
      simp [twice, textAfterSign]
    obtain ⟨last, named⟩ := one.lastPart?_name
    rw [ending, pieces_append_slash, lastPart?_append] at named
    cases above : lastPart? (pieces back) with
    | none => exact unnamed front (by rw [parts, above, Option.none_or])
    | some part =>
      rw [above, Option.some_or] at named
      exact unnamed last (by rw [parts, above, Option.some_or, named])
  · -- Without slashes the text is a single piece, in which the name stands twice.
    have whole : pieces text = [text] := pieces_slashless (by simp [twice, textAfterSign, slash, plain])
    obtain ⟨same, rfl⟩ := List.cons.inj (whole.symm.trans split)
    rcases last with found | ⟨_, rfl⟩
    · cases found
    · have lengths := congrArg List.length (twice.symm.trans same)
      rw [length_textAfterSign, length_textAfterSign] at lengths
      omega

/-- The digits that a line of text shows of a digest. -/
def shownHex (digest : Digest) : List Char := digest.hex.toList.take shownDigits

/-- All digests show as many digits. -/
theorem length_shownHex_eq (digest digest' : Digest) : (shownHex digest).length = (shownHex digest').length := by
  rw [shownHex, shownHex, List.length_take, List.length_take, digest.length_hex, digest'.length_hex]

/-- No slash stands among the digits shown. -/
theorem slashless_shownHex (digest : Digest) : '/' ∉ shownHex digest :=
  fun inside => digest.slashless_hex (List.mem_of_mem_take inside)

/-- The text that the line of a module has after the sign. -/
def moduleText (module : FoundModule) : List Char :=
  textAfterSign module.name (shownHex module.digest) module.path.chars

/-- If the path ends with a name, the line's text is cut accordingly. -/
theorem namedText_of_endsWith {module : FoundModule} (ends : module.path.EndsWith module.name)
    (slashless : '/' ∉ module.name) :
    NamedText module.name (shownHex module.digest) module.path.chars (moduleText module) where
  made := rfl
  slashless := slashless
  plain := slashless_shownHex module.digest
  ends := endsWith_iff_lastPart?.mp ends

/-- A path that ends with no name, and so is the name itself, gives no line that can be read with a name of another
length. -/
theorem length_name_eq_of_unnamed {module module' : FoundModule} (same : moduleText module = moduleText module')
    (ends : module.path.EndsWith module.name) (slashless : '/' ∉ module.name)
    (whole : module'.name = module'.path.chars) (unnamed : ∀ name, ¬ module'.path.EndsWith name) :
    module.name.length = module'.name.length := by
  have twice : moduleText module =
      textAfterSign module'.path.chars (shownHex module'.digest) module'.path.chars := by
    rw [same, moduleText, whole]
  rw [whole]
  exact (namedText_of_endsWith ends slashless).length_eq_twice twice (slashless_shownHex module'.digest)
    (length_shownHex_eq ..) fun last found => unnamed last (endsWith_iff_lastPart?.mpr found)

/-- Lines with the same text after the sign are about names of the same length. -/
theorem length_name_eq {module module' : FoundModule} (same : moduleText module = moduleText module') :
    module.name.length = module'.name.length := by
  -- Each path ends with its name, or it is the name.
  rcases module.name_cases with ⟨ends, slashless⟩ | ⟨whole, unnamed⟩ <;>
    rcases module'.name_cases with ⟨ends', slashless'⟩ | ⟨whole', unnamed'⟩
  · have named' := namedText_of_endsWith ends' slashless'
    exact (namedText_of_endsWith ends slashless).length_eq (same ▸ named') (length_shownHex_eq ..)
  · exact length_name_eq_of_unnamed same ends slashless whole' unnamed'
  · exact (length_name_eq_of_unnamed same.symm ends' slashless' whole unnamed).symm
  · -- Both names are whole paths, which stand twice in the text.
    have digits := length_shownHex_eq module.digest module'.digest
    have lengths := congrArg List.length same
    rw [moduleText, moduleText, length_textAfterSign, length_textAfterSign, whole, whole'] at lengths
    rw [whole, whole']
    omega

/-- The line of a module is the sign, a blank and the module's text. -/
theorem textLine_evaluate (filter : Filter) (module : FoundModule) :
    (evaluate filter module).textLine =
      String.ofList ((if (evaluate filter module).inScope then '+' else '-') :: ' ' :: moduleText module) := by
  simp [textLine, textChars, moduleText, textAfterSign, shownHex, evaluate]

/-- There is a sign for modules in scope and another for those out of it. -/
theorem sign_inj {one other : Bool} (same : (if one then '+' else '-') = if other then '+' else '-') :
    one = other := by
  revert one other
  decide

/-- What a line of text tells of a verdict is the same for both. -/
structure LooksLike (one other : Verdict) : Prop where
  /-- The sign. -/
  sign : one.inScope = other.inScope
  /-- The name. -/
  name : one.name = other.name
  /-- The digits shown of the digest. -/
  digits : one.digest.hex.toList.take shownDigits = other.digest.hex.toList.take shownDigits
  /-- The path as it is displayed. -/
  path : one.path.display = other.path.display

/-- Two verdicts on modules are written as the same line just if all that a line tells is the same. -/
theorem textLine_eq_iff (filter filter' : Filter) (module module' : FoundModule) :
    (evaluate filter module).textLine = (evaluate filter' module').textLine ↔
      (evaluate filter module).LooksLike (evaluate filter' module') := by
  constructor
  · intro same
    rw [textLine_evaluate, textLine_evaluate, String.ofList_inj] at same
    obtain ⟨signs, rest⟩ := List.cons.inj same
    have texts : moduleText module = moduleText module' := (List.cons.inj rest).2
    -- With equally long names and digits the text has one reading.
    obtain ⟨names, shown, paths⟩ := textAfterSign_inj texts (length_name_eq texts) (length_shownHex_eq ..)
    exact ⟨sign_inj signs, names, shown, congrArg String.ofList paths⟩
  · -- The line is made of these four and of nothing else.
    rintro ⟨sign, names, digits, paths⟩
    have texts : module.path.chars = module'.path.chars := String.ofList_inj.mp paths
    have found : module.name = module'.name := names
    have shown : shownHex module.digest = shownHex module'.digest := digits
    rw [textLine_evaluate, textLine_evaluate, sign, moduleText, moduleText, found, shown, texts]

-- A verdict whose name is not that of its path could be taken for another one.
example :
    let digest : Digest := ⟨Vector.replicate 32 0⟩
    Verdict.textChars ⟨"a".toList, [], .ofString "b 000000000000 c", digest, .covered⟩ =
      Verdict.textChars ⟨"a 000000000000 b".toList, [], .ofString "c", digest, .covered⟩ := by
  decide +kernel

end Verdict

end ModuleScope
