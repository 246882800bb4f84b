/-! Replacing words in a text. -/

namespace ModuleScope.Text

/-- Replaces a word after leaving out `skip` characters. -/
def replaceFrom (word new : List Char) : Nat → List Char → List Char
  | _, [] => []
  | skip + 1, _ :: rest => replaceFrom word new skip rest
  | 0, c :: rest =>
    -- The search goes on behind the word that was found.
    if word.isPrefixOf (c :: rest) then new ++ replaceFrom word new (word.length - 1) rest
    else c :: replaceFrom word new 0 rest

/-- The text with every place replaced where a word stands, from left to right. -/
def replaceAll (word new text : List Char) : List Char :=
  replaceFrom word new 0 text

/-- The pieces of a text between the characters of a class. -/
def splitOn (isMark : Char → Bool) : List Char → List (List Char)
  | [] => [[]]
  | c :: rest =>
    -- There is always a last piece, which the other characters are put before.
    if isMark c then [] :: splitOn isMark rest
    else (c :: (splitOn isMark rest).headD []) :: (splitOn isMark rest).tail

/-- The pieces that are not empty. -/
def words (isMark : Char → Bool) (text : List Char) : List (List Char) :=
  (splitOn isMark text).filter (· ≠ [])

end ModuleScope.Text
