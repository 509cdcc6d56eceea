-- SUMMARY: Texts that have no white space around them.
import HistorySearch.Text.Blank
import Mathlib.Data.List.DropRight

/-!
# White space

Trimming leaves a text alone in which no character is blank, such as one of visible ASCII
characters.
-/

namespace HistorySearch

/-- What is in a class is nothing that is outside of it. -/
theorem ne_of_holds {α : Type} {p : α → Bool} {a b : α} (ha : p a) (hb : p b = false) : a ≠ b :=
  ne_of_apply_ne p (by simp [ha, hb])

/-- Nothing is dropped from a list of which no element is to go. -/
theorem dropWhile_of_forall {α : Type} {p : α → Bool} {as : List α} (h : ∀ a ∈ as, p a = false) :
    as.dropWhile p = as := by
  cases as with
  | nil => rfl
  | cons a as => exact List.dropWhile_cons_of_neg (by simp [h a List.mem_cons_self])

/-- Elements are taken up to the first one that is not to be taken, and the others are left. -/
theorem takeWhile_dropWhile_append {α : Type} {p : α → Bool} {as bs : List α}
    (has : ∀ a ∈ as, p a) (hbs : ∀ b ∈ bs.head?, p b = false) :
    (as ++ bs).takeWhile p = as ∧ (as ++ bs).dropWhile p = bs := by
  rw [List.takeWhile_append_of_pos has, List.dropWhile_append_of_pos has]
  cases bs with
  | nil => simp
  | cons b bs => simp [hbs b rfl]

namespace Blank

theorem isBlank_of_visible {c : Char} (hlow : 0x20 < c.toNat) (hhigh : c.toNat < 0x7F) :
    isBlank c = false := by
  have hspace : c ≠ ' ' := by
    rintro rfl
    exact absurd hlow (by decide)
  simp only [isBlank, wideRanges, List.any_cons, List.any_nil, Bool.or_eq_false_iff,
    decide_eq_false_iff_not, Bool.and_eq_false_iff]
  exact ⟨⟨hspace, by omega⟩, by omega, by omega, by omega, by omega, by omega, by omega, by omega,
    by omega, trivial⟩

/-- A text without blank characters is not trimmed. -/
theorem trim_eq_self {cs : List Char} (h : ∀ c ∈ cs, isBlank c = false) : trim cs = cs := by
  have hreverse : ∀ c ∈ cs.reverse, isBlank c = false := fun c hc => h c (List.mem_reverse.mp hc)
  rw [trim, trimStart, trimStart, dropWhile_of_forall h, dropWhile_of_forall hreverse,
    List.reverse_reverse]

/-- Nothing is dropped in front of a text that starts with another character. -/
theorem trimStart_eq_self {cs : List Char} (h : ∀ c ∈ cs.head?, isBlank c = false) :
    trimStart cs = cs := by
  cases cs with
  | nil => rfl
  | cons c cs => exact List.dropWhile_cons_of_neg (by simp [h c rfl])

theorem isBlank_of_head?_trimStart {cs : List Char} {c : Char} (h : c ∈ (trimStart cs).head?) :
    isBlank c = false := by
  have hhead := List.head?_dropWhile_not isBlank cs
  rw [trimStart] at h
  rw [h] at hhead
  simpa using hhead

/-- Trimming a text again changes nothing. -/
theorem trim_trim (cs : List Char) : trim (trim cs) = trim cs := by
  have hstart : trimStart (trim cs) = trim cs := by
    obtain ⟨rest, hrest⟩ : trim cs <+: trimStart cs := List.rdropWhile_prefix isBlank _
    refine trimStart_eq_self fun c hc => ?_
    have hhead : c ∈ (trimStart cs).head? := by
      rw [← hrest]
      exact List.mem_head?_append_of_mem_head? hc
    exact isBlank_of_head?_trimStart hhead
  rw [trim, hstart, trim, List.reverse_reverse]
  exact congrArg List.reverse (List.dropWhile_idempotent isBlank _)

end Blank

end HistorySearch
