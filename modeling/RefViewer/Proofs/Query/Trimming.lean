import Mathlib.Data.List.DropRight
import RefViewer.Query.Reader
import RefViewer.Unicode.Letter

/-!
# Trimming

A trimmed text is not trimmed further. It begins with no gap, and a text that neither begins nor
ends with a blank is trimmed.
-/

namespace RefViewer.Unicode

theorem trimChars_eq (text : List Char) :
    trimChars text = (text.dropWhile isBlank).rdropWhile isBlank := rfl

theorem dropWhile_trimChars (text : List Char) :
    (trimChars text).dropWhile isBlank = trimChars text := by
  rw [trimChars_eq, List.dropWhile_eq_self_iff]
  intro given
  -- What is left begins as the text without its leading blanks.
  obtain ⟨after, split⟩ := List.rdropWhile_prefix isBlank (text.dropWhile isBlank)
  obtain ⟨c, rest, left⟩ := List.exists_cons_of_length_pos given
  rw [left, List.cons_append] at split
  have first := List.dropWhile_eq_self_iff.mp (List.dropWhile_idempotent isBlank text)
  simp only [← split, List.length_cons, Nat.zero_lt_succ, List.getElem_cons_zero,
    forall_const] at first
  simpa only [left, List.getElem_cons_zero] using first

theorem trimChars_trimChars (text : List Char) : trimChars (trimChars text) = trimChars text := by
  rw [trimChars_eq (trimChars text), dropWhile_trimChars, trimChars_eq]
  exact List.rdropWhile_idempotent isBlank (text.dropWhile isBlank)

theorem trim_trim (text : String) : trim (trim text) = trim text := by
  rw [trim, trim, String.toList_ofList, trimChars_trimChars]

theorem isBlank_of_isGap (gap : Query.Reader.isGap c = true) : isBlank c = true := by
  simp only [Query.Reader.isGap, Bool.or_eq_true, decide_eq_true_eq] at gap
  rcases gap with ((rfl | rfl) | rfl) | rfl <;> rfl

theorem dropGap_of_trimmed {text : String} (trimmed : trim text = text) :
    text.toList.dropWhile Query.Reader.isGap = text.toList := by
  have chars : trimChars text.toList = text.toList := by
    have same := congrArg String.toList trimmed
    rwa [trim, String.toList_ofList] at same
  cases given : text.toList with
  | nil => rfl
  | cons c rest =>
    refine List.dropWhile_cons_of_neg fun gap => ?_
    have kept := dropWhile_trimChars text.toList
    rw [chars, given, List.dropWhile_cons_of_pos (isBlank_of_isGap gap)] at kept
    have shorter := (List.dropWhile_sublist isBlank (l := rest)).length_le
    rw [kept, List.length_cons] at shorter
    exact absurd shorter (Nat.not_succ_le_self _)

theorem trim_of_ends {text : String} (chars : text.toList = first :: (mid ++ [last]))
    (starts : ¬ isBlank first = true) (ends : ¬ isBlank last = true) : trim text = text := by
  have kept : trimChars text.toList = text.toList := by
    rw [trimChars_eq, chars, List.dropWhile_cons_of_neg starts, ← List.cons_append]
    exact List.rdropWhile_concat_neg isBlank (first :: mid) last ends
  rw [trim, kept, String.ofList_toList]

end RefViewer.Unicode
