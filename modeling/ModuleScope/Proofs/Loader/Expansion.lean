import Mathlib.Data.List.Forall2
import Mathlib.Tactic.LinearCombination
import ModuleScope.Loader.SearchList
import ModuleScope.Proofs.Text.Replace

/-! When the directories of a list come of replacing each word for the module's own directory once. -/

namespace ModuleScope.Loader

open Text

/-- What a directory text becomes when each word for the module's own directory is replaced once. -/
inductive Expands (origin : List Char) : List Char → List Char → Prop
  /-- Nothing is left. -/
  | nil : Expands origin [] []
  /-- The word in braces is replaced. -/
  | braced {rest out : List Char} (later : Expands origin rest out) :
    Expands origin (bracedOrigin ++ rest) (origin ++ out)
  /-- The word without braces is replaced. -/
  | plain {rest out : List Char} (later : Expands origin rest out) :
    Expands origin (plainOrigin ++ rest) (origin ++ out)
  /-- Where no word starts a character is copied. -/
  | copied {c : Char} {rest out : List Char} (unbraced : ¬bracedOrigin <+: c :: rest)
    (unnamed : ¬plainOrigin <+: c :: rest) (later : Expands origin rest out) :
    Expands origin (c :: rest) (c :: out)

/-- The word in braces starts with a dollar sign and has no other one. -/
theorem bracedOrigin_eq : bracedOrigin = '$' :: "\x7bORIGIN\x7d".toList := rfl

/-- The word without braces starts with a dollar sign and has no other one. -/
theorem plainOrigin_eq : plainOrigin = '$' :: "ORIGIN".toList := rfl

/-- The word without braces is not empty. -/
theorem plain_ne_nil : plainOrigin ≠ [] := List.cons_ne_nil _ _

/-- The two words do not start in the same place. -/
theorem not_plain_of_braced {text : List Char} (braced : bracedOrigin <+: text) :
    ¬plainOrigin <+: text := by
  intro plain
  -- Both would start the text, so the shorter word would start the longer one, and it does not.
  have short : plainOrigin.length ≤ bracedOrigin.length := by decide
  exact absurd (List.prefix_of_prefix_length_le plain braced short) (by decide)

/-- A text starts with one of the two words or with a character that is copied. -/
theorem starts_cases (text : List Char) :
    text = [] ∨ (∃ rest, text = bracedOrigin ++ rest) ∨ (∃ rest, text = plainOrigin ++ rest) ∨
      ∃ c rest, text = c :: rest ∧ ¬bracedOrigin <+: text ∧ ¬plainOrigin <+: text := by
  cases text with
  | nil => exact .inl rfl
  | cons c rest =>
    -- The word in braces is asked for first, as it is replaced first.
    by_cases braced : bracedOrigin <+: c :: rest
    · exact .inr (.inl (braced.imp fun _ => Eq.symm))
    by_cases plain : plainOrigin <+: c :: rest
    · exact .inr (.inr (.inl (plain.imp fun _ => Eq.symm)))
    · exact .inr (.inr (.inr ⟨c, rest, rfl, braced, plain⟩))

section

variable {origin : List Char}

/-- An induction over a text as its words are read. -/
theorem induction_words {motive : List Char → Prop} (nil : motive [])
    (braced : ∀ rest, motive rest → motive (bracedOrigin ++ rest))
    (plain : ∀ rest, motive rest → motive (plainOrigin ++ rest))
    (copied : ∀ c rest, ¬bracedOrigin <+: c :: rest → ¬plainOrigin <+: c :: rest → motive rest →
      motive (c :: rest)) (text : List Char) : motive text := by
  induction size : text.length using Nat.strong_induction_on generalizing text with
  | _ size ih =>
    subst size
    rcases starts_cases text with rfl | ⟨rest, rfl⟩ | ⟨rest, rfl⟩ | ⟨c, rest, rfl, unbraced, unnamed⟩
    · exact nil
    · exact braced rest (ih rest.length (by simp [bracedOrigin_eq]; omega) rest rfl)
    · exact plain rest (ih rest.length (by simp [plainOrigin_eq]; omega) rest rfl)
    · exact copied c rest unbraced unnamed (ih rest.length (Nat.lt_succ_self _) rest rfl)

/-- Every directory text can be expanded. -/
theorem Expands.total (text : List Char) : ∃ out, Expands origin text out := by
  induction text using induction_words with
  | nil => exact ⟨[], .nil⟩
  -- What a word becomes goes in front of what the rest becomes.
  | braced rest ih => exact ih.imp' (origin ++ ·) fun _ => .braced
  | plain rest ih => exact ih.imp' (origin ++ ·) fun _ => .plain
  | copied c rest unbraced unnamed ih => exact ih.imp' (c :: ·) fun _ => .copied unbraced unnamed

/-- What a text with the word in braces in front becomes. -/
theorem Expands.of_braced {rest out : List Char} (expands : Expands origin (bracedOrigin ++ rest) out) :
    ∃ later, Expands origin rest later ∧ out = origin ++ later := by
  generalize same : bracedOrigin ++ rest = text at expands
  cases expands with
  | nil => simp [bracedOrigin_eq] at same
  | braced later => exact ⟨_, List.append_cancel_left same ▸ later, rfl⟩
  -- Neither the other word nor a copied character starts where this word does.
  | plain later => exact absurd (List.prefix_append _ _) (not_plain_of_braced ⟨rest, same⟩)
  | copied unbraced _ _ => exact absurd ⟨rest, same⟩ unbraced

/-- What a text with the word without braces in front becomes. -/
theorem Expands.of_plain {rest out : List Char} (expands : Expands origin (plainOrigin ++ rest) out) :
    ∃ later, Expands origin rest later ∧ out = origin ++ later := by
  generalize same : plainOrigin ++ rest = text at expands
  cases expands with
  | nil => simp [plainOrigin_eq] at same
  -- Here, too, the text starts in one way only.
  | braced later => exact absurd ⟨rest, same⟩ (not_plain_of_braced (List.prefix_append _ _))
  | plain later => exact ⟨_, List.append_cancel_left same ▸ later, rfl⟩
  | copied _ unnamed _ => exact absurd ⟨rest, same⟩ unnamed

/-- What a text becomes that starts with neither word. -/
theorem Expands.of_copied {c : Char} {rest out : List Char} (unbraced : ¬bracedOrigin <+: c :: rest)
    (unnamed : ¬plainOrigin <+: c :: rest) (expands : Expands origin (c :: rest) out) :
    ∃ later, Expands origin rest later ∧ out = c :: later := by
  generalize same : c :: rest = text at expands
  cases expands with
  | nil => exact absurd same (List.cons_ne_nil _ _)
  -- Both words are ruled out by assumption.
  | braced later => exact absurd (same ▸ List.prefix_append _ _) unbraced
  | plain later => exact absurd (same ▸ List.prefix_append _ _) unnamed
  | copied _ _ later =>
    obtain ⟨rfl, rfl⟩ := List.cons.inj same
    exact ⟨_, later, rfl⟩

/-- A directory text has a single expansion. -/
theorem Expands.unique {text first second : List Char} (one : Expands origin text first)
    (other : Expands origin text second) : first = second := by
  induction one generalizing second with
  | nil => cases other with | nil => rfl
  | braced _ ih =>
    -- The front of the text decides which rule made the other expansion.
    obtain ⟨later, expands, rfl⟩ := other.of_braced
    rw [ih expands]
  | plain _ ih =>
    obtain ⟨later, expands, rfl⟩ := other.of_plain
    rw [ih expands]
  | copied unbraced unnamed _ ih =>
    obtain ⟨later, expands, rfl⟩ := other.of_copied unbraced unnamed
    rw [ih expands]

/-- The first replacement passes over the word without braces. -/
theorem replaceAll_plain (rest : List Char) :
    replaceAll bracedOrigin origin (plainOrigin ++ rest) =
      plainOrigin ++ replaceAll bracedOrigin origin rest := by
  have first : ¬bracedOrigin <+: plainOrigin ++ rest := fun braced =>
    not_plain_of_braced braced (List.prefix_append _ _)
  -- Behind its dollar sign the word has none, so the word in braces starts nowhere in it.
  have bare : '$' ∉ "ORIGIN".toList := by decide
  have later := replaceAll_of_bare "\x7bORIGIN\x7d".toList origin bare rest
  rw [plainOrigin_eq, List.cons_append] at first ⊢
  rw [replaceAll_cons first, bracedOrigin_eq, later, List.cons_append]

/-- The word in braces is no place of the word without braces. -/
theorem occurrences_braced (rest : List Char) :
    occurrences plainOrigin (bracedOrigin ++ rest) = occurrences plainOrigin rest := by
  have first : ¬plainOrigin <+: bracedOrigin ++ rest :=
    not_plain_of_braced (List.prefix_append _ _)
  rw [bracedOrigin_eq, List.cons_append] at first ⊢
  rw [occurrences_cons_miss first, plainOrigin_eq, occurrences_append_of_bare (by decide)]

/-- The word without braces is no place of the word in braces. -/
theorem occurrences_braced_plain (rest : List Char) :
    occurrences bracedOrigin (plainOrigin ++ rest) = occurrences bracedOrigin rest := by
  have first : ¬bracedOrigin <+: plainOrigin ++ rest := fun braced =>
    not_plain_of_braced braced (List.prefix_append _ _)
  rw [plainOrigin_eq, List.cons_append] at first ⊢
  rw [occurrences_cons_miss first, bracedOrigin_eq, occurrences_append_of_bare (by decide)]

/-- The word without braces is one place. -/
theorem occurrences_plain (rest : List Char) :
    occurrences plainOrigin (plainOrigin ++ rest) = occurrences plainOrigin rest + 1 := by
  rw [plainOrigin_eq, occurrences_word (by decide)]

/-- The first replacement takes no places of the word without braces away. -/
theorem occurrences_le (origin text : List Char) :
    occurrences plainOrigin text ≤ occurrences plainOrigin (replaceAll bracedOrigin origin text) := by
  induction text using induction_words with
  | nil => exact Nat.le_refl _
  | braced rest ih =>
    -- What is put in may hold the word, and the rest holds as many as before.
    rw [replaceAll_word (by decide), occurrences_braced]
    exact Nat.le_trans ih (occurrences_le_append _ origin _)
  | plain rest ih =>
    rw [replaceAll_plain, occurrences_plain, occurrences_plain]
    exact Nat.succ_le_succ ih
  | copied c rest unbraced unnamed ih =>
    -- A character that is copied takes no place away.
    rw [replaceAll_cons unbraced, occurrences_cons_miss unnamed]
    exact Nat.le_trans ih (occurrences_le_append _ [c] _)

/-- Without a new place of the word each word is replaced once. -/
theorem expands_of_occurrences {text : List Char}
    (same : occurrences plainOrigin (replaceAll bracedOrigin origin text) =
      occurrences plainOrigin text) :
    Expands origin text (replaceAll plainOrigin origin (replaceAll bracedOrigin origin text)) := by
  induction text using induction_words with
  | nil => exact .nil
  | braced rest ih =>
    rw [replaceAll_word (by decide), occurrences_braced] at same
    rw [replaceAll_word (by decide)]
    have fewer := occurrences_le origin rest
    -- A word that starts in the module's directory would be a new place.
    rcases replaceAll_front origin plain_ne_nil origin
      (replaceAll bracedOrigin origin rest) with ⟨past, equal⟩ | ⟨more, _⟩
    · rw [past]
      exact .braced (ih (by omega))
    · omega
  | plain rest ih =>
    -- The word is still there for the second replacement.
    rw [replaceAll_plain, occurrences_plain, occurrences_plain] at same
    rw [replaceAll_plain, replaceAll_word (by decide)]
    exact .plain (ih (Nat.succ.inj same))
  | copied c rest unbraced unnamed ih =>
    rw [replaceAll_cons unbraced, occurrences_cons_miss unnamed] at same
    rw [replaceAll_cons unbraced]
    have fewer := occurrences_le origin rest
    -- Nor can a word start at the copied character that did not start there before.
    rcases replaceAll_front origin plain_ne_nil [c]
      (replaceAll bracedOrigin origin rest) with ⟨past, equal⟩ | ⟨more, _⟩
    · have behind := past
      simp only [List.singleton_append] at behind equal
      rw [behind]
      exact .copied unbraced unnamed (ih (by omega))
    · simp only [List.singleton_append] at more
      omega

/-- Where the module's directory is the word itself the second replacement changes nothing. -/
theorem expands_of_plain (text : List Char) :
    Expands plainOrigin text
      (replaceAll plainOrigin plainOrigin (replaceAll bracedOrigin plainOrigin text)) := by
  rw [replaceAll_self (by decide)]
  induction text using induction_words with
  | nil => exact .nil
  | braced rest ih =>
    -- The first replacement puts in the other word, which stands for the directory itself.
    rw [replaceAll_word (by decide)]
    exact .braced ih
  | plain rest ih =>
    rw [replaceAll_plain]
    exact .plain ih
  | copied c rest unbraced unnamed ih =>
    rw [replaceAll_cons unbraced]
    exact .copied unbraced unnamed ih

/-- How long an expanded directory text is. -/
theorem Expands.length_eq {text out : List Char} (expands : Expands origin text out) :
    out.length + occurrences bracedOrigin text * bracedOrigin.length +
        occurrences plainOrigin text * plainOrigin.length =
      text.length + (occurrences bracedOrigin text + occurrences plainOrigin text) * origin.length := by
  induction expands with
  | nil => simp [occurrences]
  | braced _ ih =>
    -- Each rule takes the length of its word away and adds that of the directory.
    rw [occurrences_braced, bracedOrigin_eq, occurrences_word (by decide), ← bracedOrigin_eq]
    simp only [List.length_append, Nat.add_mul, Nat.one_mul] at ih ⊢
    omega
  | plain _ ih =>
    rw [occurrences_plain, occurrences_braced_plain]
    simp only [List.length_append, Nat.add_mul, Nat.one_mul] at ih ⊢
    omega
  | copied unbraced unnamed _ ih =>
    rw [occurrences_cons_miss unbraced, occurrences_cons_miss unnamed]
    simp only [List.length_cons] at ih ⊢
    omega

/-- What starts the text behind the first replacement starts its expansion, if it has no dollar sign. -/
theorem Expands.starts {text out word : List Char} (expands : Expands origin text out)
    (bare : '$' ∉ word) (starts : word <+: replaceAll bracedOrigin origin text) : word <+: out := by
  induction expands generalizing word with
  | nil => exact starts
  | braced _ ih =>
    rw [replaceAll_word (by decide)] at starts
    -- The word ends inside the directory that was put in, or it goes on behind that.
    rcases prefix_append_cases starts with inside | ⟨behind, rfl, later⟩
    · exact List.prefix_append_of_prefix inside
    · have free : '$' ∉ behind := fun member => bare (List.mem_append_right origin member)
      exact (List.prefix_append_right_inj origin).mpr (ih free later)
  | plain _ _ =>
    -- Here the text starts with a dollar sign, so only the empty word starts it.
    rw [replaceAll_plain, plainOrigin_eq, List.cons_append] at starts
    cases word with
    | nil => exact List.nil_prefix
    | cons c word =>
      exact absurd ((List.cons_prefix_cons.mp starts).1 ▸ List.mem_cons_self) bare
  | copied unbraced _ _ ih =>
    rw [replaceAll_cons unbraced] at starts
    cases word with
    | nil => exact List.nil_prefix
    | cons c word =>
      obtain ⟨rfl, later⟩ := List.cons_prefix_cons.mp starts
      exact List.cons_prefix_cons.mpr ⟨rfl, ih (fun member => bare (.tail _ member)) later⟩

/-- No word starts in the front of a text whose front a replacement of the same length keeps. -/
theorem passes_over (front : List Char) {rest out : List Char} (size : origin.length = plainOrigin.length)
    (other : origin ≠ plainOrigin)
    (agrees : ∀ word : List Char, '$' ∉ word → word <+: rest → word <+: out)
    (kept : replaceAll plainOrigin origin (front ++ rest) = front ++ out) :
    out = replaceAll plainOrigin origin rest ∧
      occurrences plainOrigin (front ++ rest) = occurrences plainOrigin rest := by
  -- If no word starts in the front, the second replacement goes over it.
  rcases replaceAll_front origin plain_ne_nil front rest with
    ⟨past, equal⟩ | ⟨_, before, middle, after, rfl, filled, starts, replaced⟩
  · exact ⟨List.append_cancel_left (kept.symm.trans past), equal⟩
  · -- The word still starts there, so it is what the new text is.
    rw [replaced, List.append_assoc] at kept
    have new := List.append_cancel_left kept
    have begins : plainOrigin <+: middle ++ out := by
      -- What the word has behind the front is free of dollar signs, so it is there afterwards, too.
      rcases prefix_append_cases starts with inside | ⟨behind, split, later⟩
      · exact List.prefix_append_of_prefix inside
      · have free : '$' ∉ behind := by
          cases middle with
          | nil => exact absurd rfl filled
          | cons c middle =>
            have tail : "ORIGIN".toList = middle ++ behind := (List.cons.inj split).2
            exact fun member =>
              absurd (tail ▸ List.mem_append_right middle member) (by decide : '$' ∉ "ORIGIN".toList)
        rw [split]
        exact (List.prefix_append_right_inj middle).mpr (agrees behind free later)
    -- As the lengths are the same, the directory is the word, which it is not.
    have named : plainOrigin <+: origin :=
      List.prefix_of_prefix_length_le (new ▸ begins) (List.prefix_append _ _) (Nat.le_of_eq size.symm)
    exact absurd (named.eq_of_length size.symm).symm other

/-- A directory of the word's length that is not the word makes no new place of it. -/
theorem occurrences_of_same_length {text : List Char} (size : origin.length = plainOrigin.length)
    (other : origin ≠ plainOrigin)
    (expands : Expands origin text
      (replaceAll plainOrigin origin (replaceAll bracedOrigin origin text))) :
    occurrences plainOrigin (replaceAll bracedOrigin origin text) = occurrences plainOrigin text := by
  induction text using induction_words with
  | nil => rfl
  | braced rest ih =>
    rw [replaceAll_word (by decide)] at expands ⊢
    obtain ⟨later, expanded, same⟩ := expands.of_braced
    -- The directory that was put in is itself passed over by the second replacement.
    obtain ⟨rfl, equal⟩ := passes_over origin size other (fun _ => expanded.starts) same
    rw [equal, occurrences_braced, ih expanded]
  | plain rest ih =>
    rw [replaceAll_plain, replaceAll_word (by decide)] at expands
    obtain ⟨later, expanded, same⟩ := expands.of_plain
    -- Both the expansion and the replacement put the directory in.
    obtain rfl := List.append_cancel_left same
    rw [replaceAll_plain, occurrences_plain, occurrences_plain, ih expanded]
  | copied c rest unbraced unnamed ih =>
    rw [replaceAll_cons unbraced] at expands ⊢
    obtain ⟨later, expanded, same⟩ := expands.of_copied unbraced unnamed
    obtain ⟨rfl, equal⟩ :=
      passes_over [c] size other (fun _ => expanded.starts) same
    rw [List.singleton_append] at equal
    rw [equal, occurrences_cons_miss unnamed, ih expanded]

/-- A directory of another length than the word makes no new place of it. -/
theorem occurrences_of_other_length {text : List Char} (size : origin.length ≠ plainOrigin.length)
    (expands : Expands origin text
      (replaceAll plainOrigin origin (replaceAll bracedOrigin origin text))) :
    occurrences plainOrigin (replaceAll bracedOrigin origin text) = occurrences plainOrigin text := by
  have braces : '$' ∉ "\x7bORIGIN\x7d".toList := by decide
  have letters : '$' ∉ "ORIGIN".toList := by decide
  -- The length of the result is counted twice: by the two replacements, and by the expansion.
  have first := length_replaceAll origin braces text
  have second := length_replaceAll origin letters (replaceAll bracedOrigin origin text)
  have both := expands.length_eq
  rw [← bracedOrigin_eq] at first
  rw [← plainOrigin_eq] at second
  simp only [Nat.add_mul] at both
  -- Every new place would change the length by the same amount.
  have products : occurrences plainOrigin text * plainOrigin.length +
        occurrences plainOrigin (replaceAll bracedOrigin origin text) * origin.length =
      occurrences plainOrigin text * origin.length +
        occurrences plainOrigin (replaceAll bracedOrigin origin text) * plainOrigin.length := by
    omega
  have zero : ((occurrences plainOrigin (replaceAll bracedOrigin origin text) : ℤ) -
      occurrences plainOrigin text) * ((origin.length : ℤ) - plainOrigin.length) = 0 := by
    have whole : ((_ : ℕ) : ℤ) = ((_ : ℕ) : ℤ) := congrArg Nat.cast products
    push_cast at whole
    linear_combination whole
  -- As the lengths differ, there is no new place.
  rcases mul_eq_zero.mp zero with places | lengths
  · exact_mod_cast sub_eq_zero.mp places
  · exact absurd (by exact_mod_cast sub_eq_zero.mp lengths) size

/-- Exactly when the two replacements replace each word once. -/
theorem expandOrigin_iff (text : List Char) :
    Expands origin text (expandOrigin ⟨origin⟩ text).chars ↔
      origin = plainOrigin ∨
        occurrences plainOrigin (replaceAll bracedOrigin origin text) =
          occurrences plainOrigin text := by
  constructor
  · intro expands
    -- A directory that is the word is always put in right, and others are told apart by length.
    by_cases word : origin = plainOrigin
    · exact .inl word
    by_cases size : origin.length = plainOrigin.length
    · exact .inr (occurrences_of_same_length size word expands)
    · exact .inr (occurrences_of_other_length size expands)
  · rintro (rfl | same)
    · exact expands_of_plain text
    · exact expands_of_occurrences same

/-- In a rooted directory without dollar signs no new place of the word arises. -/
theorem occurrences_of_rooted {rest : List Char} (bare : '$' ∉ origin) (rooted : origin = '/' :: rest)
    (text : List Char) :
    occurrences plainOrigin (replaceAll bracedOrigin origin text) = occurrences plainOrigin text := by
  induction text using induction_words with
  | nil => rfl
  | braced rest ih =>
    -- The directory has no dollar sign, so nothing starts in it.
    rw [replaceAll_word (by decide), occurrences_braced, plainOrigin_eq,
      occurrences_append_of_bare bare, ← plainOrigin_eq, ih]
  | plain rest ih => rw [replaceAll_plain, occurrences_plain, occurrences_plain, ih]
  | copied c rest unbraced unnamed ih =>
    -- The slash of the directory cannot complete a word that starts at the character before it.
    have still : ¬plainOrigin <+: c :: replaceAll bracedOrigin origin rest := by
      intro starts
      obtain ⟨mark, name⟩ := List.cons_prefix_cons.mp starts
      -- No slash is in the word, so the word stood there before.
      rw [rooted] at name
      exact unnamed (List.cons_prefix_cons.mpr
        ⟨mark, prefix_of_prefix_replaceAll (by decide) (by decide) name⟩)
    rw [replaceAll_cons unbraced, occurrences_cons_miss still,
      occurrences_cons_miss unnamed, ih]

end

/-- A rooted directory without dollar signs stands once for each word of a directory text. -/
theorem expandOrigin_of_rooted {origin : Path} {rest : List Char} (bare : '$' ∉ origin.chars)
    (rooted : origin.chars = '/' :: rest) (text : List Char) :
    Expands origin.chars text (expandOrigin origin text).chars :=
  (expandOrigin_iff text).mpr (.inr (occurrences_of_rooted bare rooted text))

/-- A list gives one directory for each piece that is not empty, and each of them has every word
replaced once exactly when the first replacement makes no new place of the other word. -/
theorem listedDirectories_expand_iff {list : List Char} {pieces : List (List Char)} (origin : Path)
    (separated : Separated ':' list pieces) :
    (listedDirectories list origin).length = (pieces.filter (· ≠ [])).length ∧
      (List.Forall₂ (fun piece directory => Expands origin.chars piece directory.chars)
          (pieces.filter (· ≠ [])) (listedDirectories list origin) ↔
        origin.chars = plainOrigin ∨
          ∀ piece ∈ pieces, occurrences plainOrigin (replaceAll bracedOrigin origin.chars piece) =
            occurrences plainOrigin piece) := by
  -- The pieces are what the list is split into, and the empty ones are left out.
  have listed : listedDirectories list origin =
      (pieces.filter (· ≠ [])).map (expandOrigin origin) := by
    rw [listedDirectories, words, separated.splitOn_eq]
  refine ⟨by rw [listed, List.length_map], ?_⟩
  rw [listed, List.forall₂_map_right_iff, List.forall₂_same]
  constructor
  · intro expands
    by_cases word : origin.chars = plainOrigin
    · exact .inl word
    refine .inr fun piece member => ?_
    -- The empty pieces have no directory, but no place of the word either.
    by_cases empty : piece = []
    · subst empty
      rfl
    · have filled : piece ∈ pieces.filter (· ≠ []) := by simpa using ⟨member, empty⟩
      exact ((expandOrigin_iff piece).mp (expands piece filled)).resolve_left word
  · intro condition piece filled
    have member : piece ∈ pieces := (List.mem_filter.mp filled).1
    exact (expandOrigin_iff piece).mpr (condition.imp_right fun same => same piece member)

/-- A list with both words and empty pieces names the directories that it says. -/
theorem vendor_list_expands :
    Separated ':' "$ORIGIN/../lib:$\x7bORIGIN\x7d:/opt/vendor::".toList
        ["$ORIGIN/../lib".toList, bracedOrigin, "/opt/vendor".toList, [], []] ∧
      List.Forall₂ (fun piece directory => Expands "/app/bin".toList piece directory.chars)
        ["$ORIGIN/../lib".toList, bracedOrigin, "/opt/vendor".toList]
        (listedDirectories "$ORIGIN/../lib:$\x7bORIGIN\x7d:/opt/vendor::".toList
          ⟨"/app/bin".toList⟩) := by
  have separated : Separated ':' "$ORIGIN/../lib:$\x7bORIGIN\x7d:/opt/vendor::".toList
      ["$ORIGIN/../lib".toList, bracedOrigin, "/opt/vendor".toList, [], []] :=
    ⟨by decide, by decide, by decide⟩
  exact ⟨separated,
    (listedDirectories_expand_iff ⟨"/app/bin".toList⟩ separated).2.mpr (.inr (by decide))⟩

/-- A directory with the word in its own name is put into itself again. -/
theorem origin_is_expanded_again :
    listedDirectories bracedOrigin ⟨"/srv/$ORIGIN".toList⟩ = [⟨"/srv//srv/$ORIGIN".toList⟩] ∧
      Expands "/srv/$ORIGIN".toList bracedOrigin "/srv/$ORIGIN".toList ∧
      ¬List.Forall₂ (fun piece directory => Expands "/srv/$ORIGIN".toList piece directory.chars)
        [bracedOrigin] (listedDirectories bracedOrigin ⟨"/srv/$ORIGIN".toList⟩) := by
  have once : Expands "/srv/$ORIGIN".toList bracedOrigin "/srv/$ORIGIN".toList := .braced .nil
  have twice : listedDirectories bracedOrigin ⟨"/srv/$ORIGIN".toList⟩ =
      [⟨"/srv//srv/$ORIGIN".toList⟩] := by decide
  refine ⟨twice, once, ?_⟩
  rw [twice, List.forall₂_cons]
  -- The word in braces has a single expansion, and that holds the directory once.
  rintro ⟨expands, _⟩
  exact absurd (once.unique expands) (by decide)

end ModuleScope.Loader
