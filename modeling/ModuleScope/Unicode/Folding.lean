import ModuleScope.Unicode.CaseFold
import ModuleScope.Unicode.CharSet

/-! Closing a set of characters under changes of case. -/

namespace ModuleScope.Unicode

/-- Reads groups of numbers: a comma goes on with a group and a blank starts a new one. -/
def readGroups (group : List Nat) (current : Nat) : List Char → List (List Nat)
  | [] => [(current :: group).reverse]
  | c :: rest =>
    -- Every other character is a digit.
    if c = ',' then readGroups (current :: group) 0 rest
    else if c = ' ' then (current :: group).reverse :: readGroups [] 0 rest
    else readGroups group (10 * current + (c.toNat - '0'.toNat)) rest

/-- The groups of code points that differ only in case. -/
def caseOrbits : List (List Nat) := readGroups [] 0 caseOrbitText.toList

namespace CharSet

/-- The set with every character that differs from one of its own only in case. -/
def foldCase (set : CharSet) : CharSet :=
  -- A group joins the set as a whole if one of its characters is there.
  ofRanges (set.ranges ++
    ((caseOrbits.filter fun orbit => orbit.any set.containsCode).flatten.map fun code => (code, code)))

/-- The set closed under changing the case of the letters below 128. -/
def foldAsciiCase (set : CharSet) : CharSet :=
  -- Upper and lower case letters are 32 code points apart.
  ofRanges (set.ranges ++ (List.range 26).flatMap fun letter =>
    if set.containsCode (65 + letter) || set.containsCode (97 + letter) then
      [(65 + letter, 65 + letter), (97 + letter, 97 + letter)]
    else [])

end CharSet

end ModuleScope.Unicode
