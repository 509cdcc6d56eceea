-- SUMMARY: Which second a posted date stands for, whether it was edited or kept.
import HistorySearch.Proofs.Web.Posted

/-!
# Posted dates

A date that is posted as the page shows it is kept, and any other text is read. Since what is shown
of a date is read as the same second, the second does not depend on which of the two happens. That
holds for a text that is posted for the first time and for what the page then shows of it.
-/

namespace HistorySearch

namespace FormState

theorem IsWritable.isInRange {s : FormState} (h : s.IsWritable) :
    (∀ t ∈ s.earliest, t.IsInRange) ∧ ∀ t ∈ s.latest, t.IsInRange :=
  ⟨fun t ht => (h.earliest t ht).isInRange, fun t ht => (h.latest t ht).isInRange⟩

/-- Forms that differ in no more than how their dates are written ask for the same search. -/
theorem validate_congr {s t : FormState} (hkey : s.key = t.key)
    (hfilter : s.tokenFilter = t.tokenFilter) (haddress : s.ipAddress = t.ipAddress)
    (hearliest : s.earliest.map Timestamp.epoch = t.earliest.map Timestamp.epoch)
    (hlatest : s.latest.map Timestamp.epoch = t.latest.map Timestamp.epoch) :
    s.validate = t.validate := by
  rw [validate, validate, hasGoodKey, hasGoodKey, hkey, hfilter, haddress, hearliest, hlatest]

end FormState

namespace PostedForm

theorem decode_trimmed (s : String) : Timestamp.decode (trimmed s) = Timestamp.decode s := by
  rw [Timestamp.decode, Timestamp.decode, trimmed, String.toList_ofList, Blank.trim_trim]

theorem decodeLenient_trimmed {s : String} {date : Option Timestamp}
    (h : Timestamp.decode s = .ok date) : Timestamp.decodeLenient (some (trimmed s)) = date := by
  rw [Timestamp.decodeLenient, Timestamp.decode?, decode_trimmed, h]

/-- What is read of a date that is shown is the date up to its second. -/
theorem epoch_of_decode_inputText {date read : Option Timestamp} (hdate : ∀ t ∈ date, t.IsInRange)
    (h : Timestamp.decode (Timestamp.inputText date) = .ok read) :
    date.map Timestamp.epoch = read.map Timestamp.epoch := by
  cases date with
  | none =>
    cases h
    rfl
  | some t =>
    change Timestamp.decode t.inputValue = .ok read at h
    rw [Timestamp.decode_inputValue (hdate t rfl)] at h
    split at h
    · cases h
      rfl
    · cases h

/-- A posted date that can be read gives the second that is read, even if it is taken for the date
that the page showed and not read at all. -/
theorem epoch_redated {posted : String} {seeded date : Option Timestamp}
    (hseeded : ∀ t ∈ seeded, t.IsInRange) (h : Timestamp.decode posted = .ok date) :
    (redated posted seeded).map Timestamp.epoch = date.map Timestamp.epoch := by
  unfold redated dateEdit?
  split
  · rename_i hkept
    have htext : trimmed posted = Timestamp.inputText seeded := of_decide_eq_true hkept
    rw [← decode_trimmed, htext] at h
    exact epoch_of_decode_inputText hseeded h
  · rw [Option.getD_some, decodeLenient_trimmed h]

/-- A posted date can be shown again: it is the one that was shown, or none can be read of it, or
its year in UTC has four digits. -/
def IsShowable (posted : String) (seeded : Option Timestamp) : Prop :=
  ∀ t, Timestamp.decode posted = .ok (some t) → isUntouched posted seeded ∨ t.hasPlainUtcYear

/-- What is shown of a date after it was posted stands for the same second when it is posted in
its turn, whatever the first of the two posts made of the date. -/
theorem epoch_redated_redated {posted : String} {seeded : Option Timestamp}
    (hseeded : ∀ t ∈ seeded, t.IsInRange) (h : IsShowable posted seeded) :
    (redated (Timestamp.inputText (redated posted seeded)) seeded).map Timestamp.epoch =
      (redated posted seeded).map Timestamp.epoch := by
  by_cases hkept : isUntouched posted seeded
  · have hsame : redated posted seeded = seeded := by
      rw [redated, dateEdit?, if_pos hkept, Option.getD_none]
    rw [hsame, redated_inputText]
  · have hread : redated posted seeded = Timestamp.decodeLenient (some (trimmed posted)) := by
      rw [redated, dateEdit?, if_neg hkept, Option.getD_some]
    rw [hread]
    cases hdate : Timestamp.decodeLenient (some (trimmed posted)) with
    | none =>
      have hblank : Timestamp.decode (Timestamp.inputText none) = .ok none := rfl
      exact epoch_redated hseeded hblank
    | some t =>
      have hdecode : Timestamp.decode posted = .ok (some t) := by
        rw [← decode_trimmed]
        exact Timestamp.decode_of_decodeLenient hdate
      have hyear : t.hasPlainUtcYear := (h t hdecode).resolve_left hkept
      have hshown := Timestamp.decode_inputValue (Timestamp.isWritable_of_decode hdecode).isInRange
      rw [if_pos hyear] at hshown
      calc (redated t.inputValue seeded).map Timestamp.epoch
          = (some t.asShown).map Timestamp.epoch := epoch_redated hseeded hshown
        _ = (some t).map Timestamp.epoch := rfl

end PostedForm

end HistorySearch
