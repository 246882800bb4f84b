import ModuleScope.Filter.RuleError
import ModuleScope.Pattern.Wildcard
import ModuleScope.Regex.Compile

/-! Patterns over names, compiled when they are used for the first time. -/

namespace ModuleScope

/-- The matcher of an expression, which has to cover the whole name if it is anchored. -/
def matcherOf (expression : String) (anchored : Bool) : Except Regex.SyntaxError Regex :=
  -- The anchors stand around a group, so that they hold for every branch.
  Regex.compile
    (if anchored then "^(?:".toList ++ expression.toList ++ ")$".toList else expression.toList)

/-- A pattern over names. -/
structure Pattern where
  /-- The regular expression. -/
  expression : String
  /-- Whether it has to match the whole name. -/
  anchored : Bool
  /-- The outcome of compiling it, once that has been done. -/
  matcher? : Option (Except Regex.SyntaxError Regex) := none
  /-- Only the outcome for this very expression is kept. -/
  kept : ∀ found, matcher? = some found → found = matcherOf expression anchored := by simp

namespace Pattern

/-- The anchored pattern of a regular expression. -/
def regex (expression : String) : Pattern := { expression, anchored := true }

/-- The anchored pattern of wildcard text. -/
def wildcard (text : String) (kind : NameKind) : Except RuleError Pattern :=
  -- Reserved characters are refused before the text becomes an expression.
  if Wildcard.hasReserved kind text.toList then .error (.reserved text kind)
  else .ok (regex (String.ofList (Wildcard.expression text.toList)))

/-- Whether the pattern has been compiled. -/
def isCompiled (pattern : Pattern) : Bool := pattern.matcher?.isSome

/-- The outcome of compiling the pattern. -/
def matcher (pattern : Pattern) : Except Regex.SyntaxError Regex :=
  -- What was found before is not computed again.
  pattern.matcher?.getD (matcherOf pattern.expression pattern.anchored)

/-- The outcome of compiling depends on the expression and the anchoring alone. -/
theorem matcher_eq (pattern : Pattern) :
    pattern.matcher = matcherOf pattern.expression pattern.anchored := by
  -- A kept outcome is the right one.
  unfold matcher
  cases found : pattern.matcher? with
  | none => rfl
  | some outcome => exact pattern.kept outcome found

/-- The pattern with the outcome of compiling it. -/
def compiled (pattern : Pattern) : Pattern :=
  -- A failure is kept like a success.
  { pattern with
    matcher? := some pattern.matcher
    kept := fun _ same => by rw [← Option.some.inj same, matcher_eq] }

/-- Whether the pattern matches a name; one that is no regular expression matches nothing. -/
def isMatch (pattern : Pattern) (name : String) : Bool :=
  -- The matcher looks at the characters.
  match pattern.matcher with
  | .ok regex => regex.isMatch name.toList
  | .error _ => false

/-- Whether the pattern matches each of the names, and the pattern after that. -/
def matchAll (pattern : Pattern) (names : List String) : List Bool × Pattern :=
  -- The first name makes the pattern be compiled.
  let used := if names.isEmpty then pattern else pattern.compiled
  (names.map used.isMatch, used)

/-- The compiled pattern, unless it is no regular expression. -/
def check (pattern : Pattern) : Except RuleError Pattern :=
  -- Patterns are checked before they become part of a filter.
  let used := pattern.compiled
  match used.matcher with
  | .ok _ => .ok used
  | .error cause => .error (.invalidPattern pattern.expression cause)

end Pattern

end ModuleScope
