-- SUMMARY: The options of the command ask for the same search as a form with their texts.
import HistorySearch.Command.Predicate
import HistorySearch.Proofs.Search.Successive
import HistorySearch.Proofs.Web.Redated

/-!
# Options and posted forms

The command reads every date that it is given, while a posted form keeps the date it was filled
with if the text is what the page shows for it. Given the same texts both lead to the same outcome
on every store, since a date that is kept stands for the second that would be read.
-/

namespace HistorySearch.PredicateOptions

/-- The options that give each field the text of a form. -/
def ofPosted (url : String) (f : PostedForm) : PredicateOptions where
  url := url
  key := some f.key
  tokenType := some f.tokenType
  ipAddress := some f.ipAddress
  since := some f.sinceDate
  before := some f.untilDate

variable {f : PostedForm} {since before : Option Timestamp}

/-- Options that can be read set every field. -/
theorem edits_ofPosted (url : String) {filter : TokenFilter}
    (htype : TokenFilter.read f.tokenType = .ok filter)
    (hsince : Timestamp.decode f.sinceDate = .ok since)
    (hbefore : Timestamp.decode f.untilDate = .ok before) :
    (ofPosted url f).edits =
      .ok [.key f.key, .tokenType filter, .ipAddress f.ipAddress, .sinceDate since,
        .untilDate before] := by
  simp only [edits, ofPosted, readOption, htype, hsince, hbefore]
  rfl

/-- The search of the options on a form is that of the edits which the same texts are posted as. -/
theorem validate_ofPosted {s : FormState} (hs : s.IsWritable) {filter : TokenFilter}
    (htype : TokenFilter.read f.tokenType = .ok filter)
    (hsince : Timestamp.decode f.sinceDate = .ok since)
    (hbefore : Timestamp.decode f.untilDate = .ok before) :
    (s.editAll [.key f.key, .tokenType filter, .ipAddress f.ipAddress, .sinceDate since,
      .untilDate before]).validate = (s.editAll (f.edits s)).validate := by
  have hearliest := PostedForm.epoch_redated hs.isInRange.1 hsince
  have hlatest := PostedForm.epoch_redated hs.isInRange.2 hbefore
  rw [PostedForm.editAll_edits]
  refine FormState.validate_congr rfl ?_ rfl hearliest.symm hlatest.symm
  rw [PostedForm.filter, htype]
  rfl

/-- On every store the options that give all fields have the same outcome as the form that is
posted with the same texts, if the token type is one that a page offers and the dates can be
read. -/
theorem same_outcome_as_posted (store : Store) (url : String)
    (htype : f.tokenType ∈ TokenFilter.all.map TokenFilter.name)
    (hsince : Timestamp.decode f.sinceDate = .ok since)
    (hbefore : Timestamp.decode f.untilDate = .ok before) :
    ∃ edits, (ofPosted url f).edits = .ok edits ∧
      (Form.submitEdited store edits).outcome =
        (Form.submitEdited store (f.edits (Form.mount store).state)).outcome := by
  obtain ⟨filter, _, hname⟩ := List.mem_map.mp htype
  have hread : TokenFilter.read f.tokenType = .ok filter := by
    rw [← hname, TokenFilter.read_name]
  refine ⟨_, edits_ofPosted url hread hsince hbefore, Form.outcome_eq_of_validate ?_ _ _⟩
  rw [Form.updateAll_state, Form.updateAll_state]
  exact validate_ofPosted (FormState.isWritable_ofParams store.params) hread hsince hbefore

/-- The texts of a page, posted from it unchanged: the page shows a leap second with an offset and
a date before 1970, both cut off at milliseconds. -/
theorem same_outcome_as_posted_leap :
    let store := Store.ofQuery
      "sinceDate=2016-12-31T23:59:60.2505-01:00&untilDate=1969-12-31T23:59:59.9996Z"
    let f : PostedForm :=
      ⟨"", "user", "::1/64 & é", " 2017-01-01T00:59:60.250\t", "1969-12-31T23:59:59.999"⟩
    f.tokenType ∈ TokenFilter.all.map TokenFilter.name ∧
      (∃ since, Timestamp.decode f.sinceDate = .ok since) ∧
      (∃ before, Timestamp.decode f.untilDate = .ok before) ∧
      ∃ edits, (ofPosted "" f).edits = .ok edits ∧
        (Form.submitEdited store edits).outcome =
          (Form.submitEdited store (f.edits (Form.mount store).state)).outcome := by
  intro store f
  have htype : f.tokenType ∈ TokenFilter.all.map TokenFilter.name := by decide
  have hsince : Timestamp.decode f.sinceDate = .ok (some ⟨1483232399, 1250000000, 0⟩) := by
    decide +kernel
  have hbefore : Timestamp.decode f.untilDate = .ok (some ⟨-1, 999000000, 0⟩) := by
    decide +kernel
  exact ⟨htype, ⟨_, hsince⟩, ⟨_, hbefore⟩, same_outcome_as_posted store "" htype hsince hbefore⟩

end HistorySearch.PredicateOptions
