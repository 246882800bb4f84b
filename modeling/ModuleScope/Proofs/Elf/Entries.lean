import ModuleScope.Proofs.Elf.References

/-! What the entries of a dynamic section tell, and when those behind the one that ends it change nothing. -/

namespace ModuleScope.Elf

/-- What an entry with a text can name. -/
inductive NameKind
  /-- A library that the module needs. -/
  | needed
  /-- The module itself. -/
  | soname
  /-- The directories to search by an older rule. -/
  | rpath
  /-- The directories to search. -/
  | runpath
deriving DecidableEq, Repr

namespace NameKind

/-- The tag of the entries of a kind. -/
def tag : NameKind → Nat
  | needed => 1
  | soname => 14
  | rpath => 15
  | runpath => 29

/-- The entries of a kind, in order. -/
def among (kind : NameKind) (entries : List DynamicEntry) : List DynamicEntry :=
  entries.filter fun entry => entry.tag = kind.tag

/-- The text of the last entry of a kind. -/
def last? (kind : NameKind) (strings : StringTable) (entries : List DynamicEntry) : Option (List Char) :=
  (kind.among entries).getLast?.bind fun entry => strings.get? entry.value

/-- Takes a text for what the kind names. -/
def note (kind : NameKind) (text : List Char) (info : Linkage) : Linkage :=
  match kind with
  | needed => { info with needed := info.needed ++ [text] }
  | soname => { info with soname := some text }
  | rpath => { info with rpath := some text }
  | runpath => { info with runpath := some text }

variable {kind other : NameKind} {strings : StringTable} {entry : DynamicEntry}

/-- No two kinds have the same tag. -/
theorem tag_inj : kind.tag = other.tag ↔ kind = other := by
  cases kind <;> cases other <;> decide

/-- The entries of a kind in two lists. -/
theorem among_append (front tail : List DynamicEntry) :
    kind.among (front ++ tail) = kind.among front ++ kind.among tail := List.filter_append ..

/-- An entry of the kind comes last among those of the kind. -/
theorem among_snoc_same (front : List DynamicEntry) (same : entry.tag = kind.tag) :
    kind.among (front ++ [entry]) = kind.among front ++ [entry] := by
  simp [among, same]

/-- Other entries do not count. -/
theorem among_snoc_other (front : List DynamicEntry) (different : entry.tag ≠ kind.tag) :
    kind.among (front ++ [entry]) = kind.among front := by
  simp [among, different]

/-- An entry of the kind is the last one. -/
theorem last?_snoc_same (front : List DynamicEntry) (same : entry.tag = kind.tag) :
    kind.last? strings (front ++ [entry]) = strings.get? entry.value := by
  simp [last?, among_snoc_same front same]

/-- Other entries leave the last one of the kind as it was. -/
theorem last?_snoc_other (front : List DynamicEntry) (different : entry.tag ≠ kind.tag) :
    kind.last? strings (front ++ [entry]) = kind.last? strings front := by
  rw [last?, last?, among_snoc_other front different]

end NameKind

/-- All entries that name something have a text. -/
def Readable (strings : StringTable) (entries : List DynamicEntry) : Prop :=
  ∀ entry ∈ entries, ∀ kind : NameKind, entry.tag = kind.tag → ∃ text, strings.get? entry.value = some text

/-- The latest text of a kind in what a dynamic section says. -/
def Linkage.latest? (info : Linkage) : NameKind → Option (List Char)
  | .needed => info.needed.getLast?
  | .soname => info.soname
  | .rpath => info.rpath
  | .runpath => info.runpath

/-- What entries tell: each library that is needed, and what the last entry of each kind names. -/
structure Linkage.IsToldBy (info : Linkage) (strings : StringTable) (entries : List DynamicEntry) : Prop where
  /-- Each entry about a library names one that is needed, in order. -/
  needed : (NameKind.needed.among entries).map (fun entry => strings.get? entry.value) = info.needed.map some
  /-- The last entry of a kind counts. -/
  latest (kind : NameKind) : info.latest? kind = kind.last? strings entries

/-- What comes of reading entries. -/
inductive Tells (strings : StringTable) (entries : List DynamicEntry) : Except FormatError Linkage → Prop
  /-- All texts can be read, and the entries tell this. -/
  | told {info : Linkage} (readable : Readable strings entries) (told : info.IsToldBy strings entries) :
    Tells strings entries (.ok info)
  /-- Some text cannot be read. -/
  | refused (lost : ¬ Readable strings entries) : Tells strings entries (.error .badDynamic)

namespace Linkage

variable {strings : StringTable} {info : Linkage} {entry : DynamicEntry} {kind : NameKind} {text : List Char}
  {front tail entries : List DynamicEntry}

/-- An entry with a text is noted. -/
theorem add_of_found (same : entry.tag = kind.tag) (found : strings.get? entry.value = some text) :
    add strings info entry = .ok (kind.note text info) := by
  unfold add
  cases kind <;> rw [same, found] <;> rfl

/-- An entry whose text cannot be read is refused. -/
theorem add_of_lost (same : entry.tag = kind.tag) (lost : strings.get? entry.value = none) :
    add strings info entry = .error .badDynamic := by
  unfold add
  cases kind <;> rw [same, lost] <;> rfl

/-- An entry about anything else is passed over. -/
theorem add_of_other (other : ∀ kind : NameKind, entry.tag ≠ kind.tag) : add strings info entry = .ok info := by
  have needed := other .needed
  have soname := other .soname
  have rpath := other .rpath
  have runpath := other .runpath
  simp only [NameKind.tag] at needed soname rpath runpath
  -- Whether there is a text is not asked then.
  unfold add
  dsimp only
  split
  · contradiction
  · contradiction
  · contradiction
  · contradiction
  · rfl

/-- One more entry is looked at after all others. -/
theorem ofEntries_snoc : ofEntries strings (front ++ [entry]) =
    ofEntries strings front >>= fun info => add strings info entry := by
  simp [ofEntries, List.foldlM_append]

/-- The text that is noted is the latest of its kind. -/
theorem latest?_note_same : (kind.note text info).latest? kind = some text := by
  cases kind <;> simp [NameKind.note, latest?]

/-- The other kinds keep theirs. -/
theorem latest?_note_other {other : NameKind} (different : kind ≠ other) :
    (kind.note text info).latest? other = info.latest? other := by
  cases kind <;> cases other <;> first | contradiction | rfl

/-- Without entries nothing is told. -/
theorem isToldBy_nil : IsToldBy {} strings [] where
  needed := rfl
  latest kind := by cases kind <;> rfl

/-- An entry about anything else tells nothing. -/
theorem IsToldBy.pass (told : info.IsToldBy strings front) (other : ∀ kind : NameKind, entry.tag ≠ kind.tag) :
    info.IsToldBy strings (front ++ [entry]) where
  needed := by rw [NameKind.among_snoc_other front (other _), told.needed]
  latest kind := by rw [NameKind.last?_snoc_other front (other kind), told.latest]

/-- An entry with a text adds it to what the earlier ones tell. -/
theorem IsToldBy.note (told : info.IsToldBy strings front) (same : entry.tag = kind.tag)
    (found : strings.get? entry.value = some text) : (kind.note text info).IsToldBy strings (front ++ [entry]) where
  needed := by
    by_cases library : kind = .needed
    · subst library
      simp [NameKind.among_snoc_same front same, told.needed, found, NameKind.note]
    · -- Entries of other kinds are no entries about libraries.
      have apart : entry.tag ≠ NameKind.needed.tag := by rwa [same, Ne, NameKind.tag_inj]
      rw [NameKind.among_snoc_other front apart, told.needed]
      cases kind <;> first | contradiction | rfl
  latest other := by
    by_cases equal : kind = other
    · -- The entry is the latest of its kind from now on.
      subst equal
      rw [latest?_note_same, NameKind.last?_snoc_same front same, found]
    · have apart : entry.tag ≠ other.tag := by rwa [same, Ne, NameKind.tag_inj]
      rw [latest?_note_other equal, NameKind.last?_snoc_other front apart, told.latest]

/-- Entries can be read if those in front and those behind can. -/
theorem readable_append : Readable strings (front ++ tail) ↔ Readable strings front ∧ Readable strings tail := by
  simp only [Readable, List.mem_append, or_imp, forall_and]

/-- What comes of entries is what they tell, or a refusal. -/
theorem tells_ofEntries (strings : StringTable) (entries : List DynamicEntry) :
    Tells strings entries (ofEntries strings entries) := by
  -- Induction from the last entry, which adds to what all earlier ones tell.
  induction entries using List.reverseRecOn with
  | nil => exact .told (by simp [Readable]) isToldBy_nil
  | append_singleton front entry ih =>
    rw [ofEntries_snoc]
    generalize ofEntries strings front = outcome at ih ⊢
    cases ih with
    -- Once an entry is refused, the rest does not matter.
    | refused lost => exact .refused fun readable => lost (readable_append.mp readable).1
    | @told info readable told =>
      show Tells strings (front ++ [entry]) (add strings info entry)
      -- The last entry is about a name, which has a text or none, or it is about something else.
      by_cases names : ∃ kind : NameKind, entry.tag = kind.tag
      · obtain ⟨kind, same⟩ := names
        cases found : strings.get? entry.value with
        | some text =>
          rw [add_of_found same found]
          refine .told (readable_append.mpr ⟨readable, ?_⟩) (told.note same found)
          simp [Readable, found]
        | none =>
          rw [add_of_lost same found]
          refine .refused fun all => ?_
          obtain ⟨text, some⟩ := all entry (by simp) kind same
          cases found.symm.trans some
      · -- An entry about something else is passed over.
        rw [not_exists] at names
        rw [add_of_other names]
        refine .told (readable_append.mpr ⟨readable, ?_⟩) (told.pass names)
        simpa [Readable] using fun kind same => absurd same (names kind)

end Linkage

variable {strings : StringTable} {front tail entries : List DynamicEntry} {info : Linkage}

/-- Entries tell one thing. -/
theorem Linkage.IsToldBy.unique {other : Linkage} (one : info.IsToldBy strings entries)
    (also : other.IsToldBy strings entries) : info = other := by
  -- The list of libraries is told entry by entry, and each of the other names by its last entry.
  have needed : info.needed = other.needed :=
    List.map_injective_iff.mpr (fun _ _ same => Option.some.inj same) (one.needed.symm.trans also.needed)
  have latest (kind : NameKind) : info.latest? kind = other.latest? kind :=
    (one.latest kind).trans (also.latest kind).symm
  cases info
  cases other
  simp only [Linkage.mk.injEq]
  exact ⟨latest .soname, needed, latest .runpath, latest .rpath⟩

/-- One thing comes of reading entries. -/
theorem tells_iff {outcome : Except FormatError Linkage} :
    Tells strings entries outcome ↔ outcome = Linkage.ofEntries strings entries := by
  have tells := Linkage.tells_ofEntries strings entries
  constructor
  · intro also
    generalize Linkage.ofEntries strings entries = result at tells ⊢
    cases tells with
    | told readable told =>
      cases also with
      | told _ told' => rw [told'.unique told]
      | refused lost => exact absurd readable lost
    | refused lost =>
      cases also with
      -- Entries that can be read are not refused.
      | told readable _ => exact absurd readable lost
      | refused _ => rfl
  · rintro rfl
    exact tells

/-- The last entry of a kind stands behind if any of them does. -/
theorem NameKind.last?_append (kind : NameKind) (readable : Readable strings tail) :
    kind.last? strings (front ++ tail) = (kind.last? strings tail).or (kind.last? strings front) := by
  rw [last?, among_append, List.getLast?_append, last?, last?]
  cases last : (kind.among tail).getLast? with
  | none => simp
  | some entry =>
    -- The entry has a text, so the search is over.
    obtain ⟨member, same⟩ := List.mem_filter.mp (List.mem_of_getLast? last)
    obtain ⟨text, found⟩ := readable entry member kind (by simpa using same)
    simp [found]

/-- Entries behind others change nothing: they can be read, name no library, and say again what was said last. -/
structure AddsNothing (strings : StringTable) (front tail : List DynamicEntry) : Prop where
  /-- All texts behind can be read. -/
  readable : Readable strings tail
  /-- No library is needed. -/
  needless : NameKind.needed.among tail = []
  /-- The last entry of a kind has the text of the last one in front. -/
  again (kind : NameKind) (text : List Char) (found : kind.last? strings tail = some text) :
    kind.last? strings front = some text

/-- Entries that name nothing change nothing. -/
theorem addsNothing_of_nameless (nameless : ∀ entry ∈ tail, ∀ kind : NameKind, entry.tag ≠ kind.tag) :
    AddsNothing strings front tail := by
  -- None of the entries is of any kind.
  have none (kind : NameKind) : kind.among tail = [] := by
    simpa [NameKind.among, List.filter_eq_nil_iff] using fun entry member => nameless entry member kind
  refine ⟨fun entry member kind same => absurd same (nameless entry member kind), none .needed, ?_⟩
  intro kind text found
  rw [NameKind.last?, none kind] at found
  cases found

/-- What all entries tell is told by those in front if and only if those behind change nothing. -/
theorem Linkage.IsToldBy.front_iff (told : info.IsToldBy strings (front ++ tail)) (readable : Readable strings tail) :
    info.IsToldBy strings front ↔ AddsNothing strings front tail := by
  constructor
  · intro before
    refine ⟨readable, ?_, fun kind text found => ?_⟩
    · -- As many libraries are told by the front as by all, so the tail has none.
      have lengths := congrArg List.length (told.needed.trans before.needed.symm)
      rw [NameKind.among_append, List.length_map, List.length_map, List.length_append] at lengths
      exact List.length_eq_zero_iff.mp (by omega)
    · -- What the tail has last of a kind is what the front has.
      have same := (before.latest kind).symm.trans (told.latest kind)
      rw [same, kind.last?_append readable, found, Option.some_or]
  · -- A tail that changes nothing may be left off.
    intro nothing
    refine ⟨?_, fun kind => ?_⟩
    · rw [← told.needed, NameKind.among_append, nothing.needless, List.append_nil]
    · rw [told.latest kind, kind.last?_append readable]
      cases found : kind.last? strings tail with
      | none => rw [Option.none_or]
      | some text => rw [nothing.again kind text found, Option.some_or]

/-- What comes of all entries comes of those in front if and only if those cannot be read, or the ones behind change
nothing. -/
theorem tells_front_iff : Tells strings front (Linkage.ofEntries strings (front ++ tail)) ↔
    ¬ Readable strings front ∨ AddsNothing strings front tail := by
  have tells := Linkage.tells_ofEntries strings (front ++ tail)
  generalize Linkage.ofEntries strings (front ++ tail) = outcome at tells ⊢
  cases tells with
  | told readable told =>
    obtain ⟨before, behind⟩ := Linkage.readable_append.mp readable
    constructor
    · intro part
      cases part with
      | told _ part => exact .inr ((told.front_iff behind).mp part)
    · rintro (lost | nothing)
      · exact absurd before lost
      · exact .told before ((told.front_iff behind).mpr nothing)
  | refused lost =>
    constructor
    · intro part
      cases part with
      | refused unread => exact .inl unread
    · rintro (unread | nothing)
      · exact .refused unread
      · -- A refusal in the tail is excluded, as it can be read.
        exact .refused fun readable => lost (Linkage.readable_append.mpr ⟨readable, nothing.readable⟩)

/-- The texts and the entries of the dynamic section that the headers of a file lead to, if they lead to one. -/
def dynamicSection? (data : ByteArray) : Option (StringTable × List DynamicEntry) := do
  let words ← (wordSizeOf data).toOption
  let layout ← Layout.of? data words
  let sections ← (layout.sections? data).filter (layout.hasSectionNames data)
  let header ← sections.find? fun header => header.kind = 6
  let entries ← (Layout.bytes? data header).bind layout.entries?
  let strings ← Layout.strings? data sections header.link
  some (strings, entries)

/-- What a file says about references is what comes of reading the entries of its dynamic section. -/
theorem parse_eq_ofEntries {data : ByteArray} (found : dynamicSection? data = some (strings, entries)) :
    parse data = Linkage.ofEntries strings entries := by
  simp only [dynamicSection?, bind, Option.bind_eq_some_iff, Option.filter_eq_some_iff] at found
  obtain ⟨words, kind, layout, start, sections, ⟨listed, named⟩, header, dynamic, entries', filled, strings', texts,
    same⟩ := found
  cases same
  -- The first header says how wide the words are.
  have word : wordSizeOf data = .ok words := by
    cases told : wordSizeOf data with
    | error error => simp [told, Except.toOption] at kind
    | ok size => simpa [told, Except.toOption] using kind
  -- Each header that is asked for is there.
  unfold parse
  simp only [word, start, listed, named, dynamic, Option.bind_eq_some_iff.mpr filled, texts, bind, Except.bind,
    Option.elim, Bool.not_true, Bool.false_eq_true, if_false]

/-- The entries before the first one of tag zero, with which the list ends for the loader. -/
def untilNull (entries : List DynamicEntry) : List DynamicEntry := entries.takeWhile fun entry => entry.tag ≠ 0

/-- That entry and what follows it. -/
def fromNull (entries : List DynamicEntry) : List DynamicEntry := entries.dropWhile fun entry => entry.tag ≠ 0

/-- A small module with such entries in its dynamic section and such texts. -/
def moduleOf (entries : List DynamicEntry) (texts : List (List Char)) : ByteArray :=
  let mark : List UInt8 := [0x7F, 0x45, 0x4C, 0x46, 1, 1, 1] ++ List.replicate 9 0
  let header := mark ++ [3, 3].flatMap shortBytes ++ [1, 0, 0, 52, 0].flatMap wordBytes ++
    [52, 0, 0, 40, 3, 2].flatMap shortBytes
  let dynamic := entries.flatMap fun entry => wordBytes entry.tag ++ wordBytes entry.value
  let names := texts.flatMap fun text => (text.map fun c => UInt8.ofNat c.toNat) ++ [0]
  -- After the section without a kind there are the dynamic one and that of its texts.
  let sections := sectionBytes 0 0 0 0 ++ sectionBytes 6 172 dynamic.length 2 ++
    sectionBytes 3 (172 + dynamic.length) names.length 0
  ⟨(header ++ sections ++ dynamic ++ names).toArray⟩

/-- What a file says about references is told by all entries of its dynamic section, and by those before the end of the
list if and only if the others change nothing, or one of those before it cannot be read. -/
theorem parse_ends_at_null_iff {data : ByteArray} (found : dynamicSection? data = some (strings, entries)) :
    Tells strings entries (parse data) ∧
      (Tells strings (untilNull entries) (parse data) ↔
        ¬ Readable strings (untilNull entries) ∨ AddsNothing strings (untilNull entries) (fromNull entries)) := by
  rw [parse_eq_ofEntries found]
  refine ⟨Linkage.tells_ofEntries strings entries, ?_⟩
  -- The list is cut in two at its end.
  have whole : untilNull entries ++ fromNull entries = entries := List.takeWhile_append_dropWhile
  rw [← tells_front_iff, whole]

/-- The rest of a section that is not in use does no harm. -/
theorem parse_padded_module :
    let data := moduleOf [⟨1, 0⟩, ⟨14, 2⟩, ⟨0, 0⟩, ⟨0, 0⟩] [['b'], ['a']]
    dynamicSection? data = some (some [98, 0, 97, 0], [⟨1, 0⟩, ⟨14, 2⟩, ⟨0, 0⟩, ⟨0, 0⟩]) ∧
      Tells (some [98, 0, 97, 0]) [⟨1, 0⟩, ⟨14, 2⟩] (parse data) := by
  intro data
  have found : dynamicSection? data = some (some [98, 0, 97, 0], [⟨1, 0⟩, ⟨14, 2⟩, ⟨0, 0⟩, ⟨0, 0⟩]) := by
    decide +kernel
  refine ⟨found, (parse_ends_at_null_iff found).2.mpr (.inr (addsNothing_of_nameless ?_))⟩
  intro entry member kind
  -- Behind the end there are only empty entries.
  have empty : entry = ⟨0, 0⟩ := by simpa [fromNull] using member
  subst empty
  cases kind <;> decide

/-- An entry behind the end of the list adds a reference, or makes the module one that cannot be read. -/
theorem entries_after_null_count :
    let stray (value : Nat) := moduleOf [⟨0, 0⟩, ⟨1, value⟩] [['b']]
    (dynamicSection? (stray 0) = some (some [98, 0], [⟨0, 0⟩, ⟨1, 0⟩]) ∧
        parse (stray 0) = .ok { needed := [['b']] } ∧
        ¬ Tells (some [98, 0]) (untilNull [⟨0, 0⟩, ⟨1, 0⟩]) (parse (stray 0))) ∧
      dynamicSection? (stray 9) = some (some [98, 0], [⟨0, 0⟩, ⟨1, 9⟩]) ∧
        parse (stray 9) = .error .badDynamic ∧
        ¬ Tells (some [98, 0]) (untilNull [⟨0, 0⟩, ⟨1, 9⟩]) (parse (stray 9)) := by
  -- Without an entry before the end of the list, nothing should be told.
  simp only [tells_iff]
  decide +kernel

end ModuleScope.Elf
