import RefViewer.Proofs.Query.Tokens
import RefViewer.Query.Resolve

/-!
# Literals as text

The plain text of a finite number is a number of the grammar, and a string with its quote and
its backslashes escaped is what stands between quotes. A pattern is kept with its text.
-/

namespace RefViewer

open Query.Grammar (Quote UnsignedToken NumberToken)

-- ---------------------------------------------------------------------------
-- Decimal text
-- ---------------------------------------------------------------------------

namespace Shortest

theorem digits_isDigit (d : Decimal) : ∀ c ∈ digits d, c.isDigit = true :=
  fun _ hc => Nat.isDigit_of_mem_toDigits (by decide) (by decide) hc

theorem zeros_isDigit (count : Int) : ∀ c ∈ zeros count, c.isDigit = true := by
  intro c hc
  rw [List.eq_of_mem_replicate hc]
  rfl

theorem unsigned_point {whole places : List Char} (given : whole ≠ [])
    (all : ∀ c ∈ whole, c.isDigit = true) (placed : places ≠ [])
    (digits : ∀ c ∈ places, c.isDigit = true) : UnsignedToken (whole ++ '.' :: places) := by
  obtain ⟨first, more, rfl⟩ := List.exists_cons_of_ne_nil placed
  exact .fraction given all (digits first List.mem_cons_self)
    fun c hc => digits c (List.mem_cons_of_mem _ hc)

theorem unsigned_positional (d : Decimal) : UnsignedToken (positional d) := by
  have all := digits_isDigit d
  have given : digits d ≠ [] := Nat.toDigits_ne_nil
  have length : 0 < (digits d).length := List.length_pos_iff.mpr given
  unfold positional
  simp only
  split
  · next =>
    refine .whole (List.append_ne_nil_of_left_ne_nil given _) fun c hc => ?_
    rcases List.mem_append.mp hc with hc | hc
    · exact all c hc
    · exact zeros_isDigit _ c hc
  · next small =>
    split
    · next point =>
      -- the point stands inside the digits, so there are some on either side
      refine unsigned_point ?_ (fun c hc => all c (List.mem_of_mem_take hc)) ?_
        fun c hc => all c (List.mem_of_mem_drop hc)
      · rw [← List.length_pos_iff, List.length_take]
        omega
      · rw [← List.length_pos_iff, List.length_drop]
        omega
    · next =>
      refine unsigned_point (List.cons_ne_nil '0' []) (List.all_eq_true.mp rfl)
        (List.append_ne_nil_of_right_ne_nil _ given) fun c hc => ?_
      rcases List.mem_append.mp hc with hc | hc
      · exact zeros_isDigit _ c hc
      · exact all c hc

end Shortest

theorem Number.numberToken_toText (negative : Bool) (units : Nat) :
    NumberToken (Number.finite negative units).toText.toList := by
  rw [Number.toText, String.toList_ofList]
  cases negative with
  | true => exact .negative (Shortest.unsigned_positional _)
  | false => exact .plain (Shortest.unsigned_positional _)

/-- The number is finite and its decimal text is read back as the number. -/
def Number.Readable (n : Number) : Prop :=
  (∃ negative units, n = .finite negative units) ∧ Number.ofText? n.toText = some n

theorem Pattern.ofText?_source (pattern : Pattern) :
    Pattern.ofText? pattern.source = some pattern := by
  unfold Pattern.ofText?
  split
  · next regex h => exact congrArg some (Pattern.eq_of_source rfl)
  · next h => exact absurd (h.symm.trans pattern.written) (Option.some_ne_none _).symm

namespace Query

-- ---------------------------------------------------------------------------
-- Strings
-- ---------------------------------------------------------------------------

def escape (quote : Quote) (text : List Char) : List Char :=
  text.flatMap fun c => if c = quote.char ∨ c = '\\' then ['\\', c] else [c]

theorem escaped_escape (quote : Quote) (text : List Char) :
    Grammar.Escaped quote (escape quote text) := by
  induction text with
  | nil => exact .stop
  | cons c rest ih =>
    rw [escape, List.flatMap_cons]
    by_cases special : c = quote.char ∨ c = '\\'
    · rw [if_pos special]
      exact .escape ih
    · rw [if_neg special]
      exact .plain (fun h => special (.inl h)) (fun h => special (.inr h)) ih

theorem unescape_cons (plain : c ≠ '\\') (rest : List Char) :
    unescape (c :: rest) = c :: unescape rest := by
  rw [unescape]
  · intro h _
    exact plain h
  · intro _ _ h _
    exact plain h

theorem unescape_escape (quote : Quote) (text : List Char) :
    unescape (escape quote text) = text := by
  induction text with
  | nil => rfl
  | cons c rest ih =>
    rw [escape, List.flatMap_cons]
    by_cases special : c = quote.char ∨ c = '\\'
    · rw [if_pos special]
      have itself : (if c = 'n' then '\n' else if c = 't' then '\t' else
          if c = 'r' then '\r' else c) = c := by
        rcases special with rfl | rfl
        · cases quote <;> rfl
        · rfl
      change (if c = 'n' then '\n' else if c = 't' then '\t' else if c = 'r' then '\r' else c) ::
        unescape (escape quote rest) = c :: rest
      rw [itself, ih]
    · rw [if_neg special]
      change unescape (c :: escape quote rest) = c :: rest
      rw [unescape_cons (fun h => special (.inr h)), ih]

end Query

end RefViewer
