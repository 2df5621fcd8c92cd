import RefViewer.Proofs.Json.Numerals

/-!
# Floats stay floats

The text of a float has a point or the mark of an exponent behind its first digits, so it is
never read as an integer. A float whose text is read as its value is therefore read back as it
was: `Number.Rereads.numeral`.
-/

namespace RefViewer

namespace Json

-- ---------------------------------------------------------------------------
-- Reading the text of a float
-- ---------------------------------------------------------------------------

namespace Reader

theorem floatOf_float (h : floatOf negative significand exponent = .ok n) :
    ∃ x, n = .float x := by
  unfold floatOf at h
  cases hs : scale 8 (.ofNat significand) exponent with
  | error cause =>
    rw [hs] at h
    cases h
  | ok x =>
    rw [hs] at h
    exact ⟨_, (Except.ok.inj h).symm⟩

theorem exponentPart_float (h : exponentPart negative significand exponent rest = .ok n) :
    ∃ x, n = .float x := by
  unfold exponentPart at h
  split at h
  · split at h
    · extract_lets down digits count at h
      split at h
      · exact floatOf_float h
      · cases h
    · exact floatOf_float h
  · exact floatOf_float h

theorem fractionPart_float (h : fractionPart negative significand exponent rest = .ok n) :
    ∃ x, n = .float x := by
  unfold fractionPart at h
  split at h
  · exact exponentPart_float h
  · cases h

theorem afterDigits_float (hmark : mark = '.' ∨ mark = 'e')
    (h : afterDigits negative significand dropped (some mark :: rest) = .ok n) :
    ∃ x, n = .float x := by
  rcases hmark with rfl | rfl
  · exact fractionPart_float h
  · have hne : ∀ digits, some 'e' :: rest ≠ some '.' :: digits := by
      rintro digits ⟨⟩
    rw [afterDigits_of_ne hne, if_neg (by simp [isExponentMark])] at h
    exact exponentPart_float h

theorem number_float (hf : Fractional body) (h : number negative (body.map some) = .ok n) :
    ∃ x, n = .float x := by
  obtain ⟨digits, mark, rest, rfl, hne, hd, hmark⟩ := hf
  have hstop : (some mark :: rest.map some).head?.any isDigit = false := by
    rcases hmark with rfl | rfl <;> rfl
  have hdrop := dropWhile_digits_append hd hstop
  rw [← takeDigits_dropWhile 0] at hdrop
  rw [List.map_append, List.map_cons] at h
  obtain ⟨first, more, rfl⟩ := List.exists_cons_of_ne_nil hne
  have hfirst := isDigit_some (hd first List.mem_cons_self)
  rw [List.map_cons, List.cons_append] at h hdrop
  rw [number_digits hfirst] at h
  split at h
  · cases h
  · simp only [hdrop] at h
    exact afterDigits_float hmark h

theorem value_fractional (hf : Fractional body) (negative : Bool) (fuel : Nat) :
    value (fuel + 1) ((Shortest.sign negative ++ body).map some) =
      numberNode negative (body.map some) := by
  cases negative with
  | true => exact value_minus fuel _
  | false =>
    obtain ⟨digits, mark, rest, rfl, hne, hd, -⟩ := hf
    obtain ⟨first, more, rfl⟩ := List.exists_cons_of_ne_nil hne
    exact value_digit (hd first List.mem_cons_self) fuel _

end Reader

end Json

-- ---------------------------------------------------------------------------
-- Floats that are read back
-- ---------------------------------------------------------------------------

def Number.reread? (x : Number) : Option Numeral :=
  (Json.Document.ofText (.ofString (Json.text (.number (.float x))))).numeral?

theorem Number.reread_float {x : Number} (h : x.reread? = some n) : ∃ y, n = .float y := by
  cases x with
  | nan => cases h
  | infinity negative => cases negative <;> cases h
  | finite negative units =>
    obtain ⟨body, htext, hf⟩ := Json.toDocument_fractional negative units
    have hvalue := Json.Reader.value_fractional hf negative
    rw [reread?, Json.ofText_number, Json.Writer.numeral, htext] at h
    obtain ⟨rest, hnode, -⟩ := Json.numberNode_of_numeral hvalue h
    exact Json.Reader.number_float hf (Json.Reader.numberNode_ok hnode).1

/-- The text of a number is read as the same value. -/
def Number.Rereads (x : Number) : Prop := x.reread?.map Numeral.toNumber = some x

instance (x : Number) : Decidable x.Rereads := inferInstanceAs (Decidable (_ = some x))

theorem Number.Rereads.numeral {x : Number} (h : x.Rereads) : (Numeral.float x).Rereads := by
  obtain ⟨n, hn, hx⟩ := Option.map_eq_some_iff.mp h
  obtain ⟨y, rfl⟩ := Number.reread_float hn
  obtain rfl : y = x := hx
  exact hn

end RefViewer
