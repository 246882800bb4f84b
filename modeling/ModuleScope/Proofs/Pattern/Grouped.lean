import ModuleScope.Proofs.Pattern.Anchored
import ModuleScope.Proofs.Regex.Grouped

/-! Parentheses around a whole expression make no difference to the names that its pattern matches. -/

namespace ModuleScope

open Regex (Spans Footprint ofText anchoredText groupedText between)

/-- An expression takes no more room between anchors than in parentheses between anchors. -/
theorem between_bytes_le (cost : Unicode.CharSet → Nat) (group : Nat) (regex : Regex) :
    (Footprint.ofRegex cost group (between regex)).bytes ≤
      (Footprint.ofRegex cost group (between (.capture regex))).bytes := by
  -- An expression without states of its own has some as a group.
  simp only [between, Footprint.ofRegex, Footprint.seq]
  by_cases absent : (Footprint.ofRegex cost group regex).absent = true
  · simp [absent]
  · simp [absent]

/-- An expression fits between anchors if it does in parentheses. -/
theorem fits_of_grouped {regex : Regex} (fits : (between (.capture regex)).fits = true) :
    (between regex).fits = true := by
  -- The parentheses only add to the size in both directions.
  have forward := between_bytes_le Regex.setForward (2 * Regex.stateBytes) regex
  have backward := between_bytes_le Regex.setBackward 0 regex
  simp only [Regex.fits, Bool.and_eq_true, decide_eq_true_eq] at fits ⊢
  -- Both start and end with the anchors.
  have start : (between regex).startsWith .textStart =
      (between (.capture regex)).startsWith .textStart := rfl
  have stop : (between regex).endsWith .textEnd = (between (.capture regex)).endsWith .textEnd := rfl
  rw [start, stop]
  omega

/-- Without the parentheses a valid expression compiles between anchors to a regex that matches the same texts. -/
theorem compile_of_grouped {text : List Char} {regex whole : Regex} (valid : ofText text = .ok regex)
    (compiles : Regex.compile (anchoredText (groupedText text)) = .ok whole) :
    ofText (groupedText text) = .ok (.capture regex) ∧
      Regex.compile (anchoredText text) = .ok (between regex) := by
  obtain ⟨grouped, anchored⟩ := Regex.grouped_valid valid (ofText_of_compile compiles)
  have fits := fits_of_grouped (compile_anchored grouped compiles).2
  exact ⟨grouped, (compile_of_ofText anchored).trans (if_pos fits)⟩

end ModuleScope
