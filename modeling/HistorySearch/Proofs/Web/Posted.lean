-- SUMMARY: What becomes of a form by what is posted from its page.
import HistorySearch.Proofs.Calendar.Shown
import HistorySearch.Proofs.Search.RoundTrip
import HistorySearch.Web.Posted
import HistorySearch.Web.Server

/-!
# Posted forms

A form that is posted as the page shows it edits nothing, although the page shows less of a date
than the form holds. Whatever is posted, the form can still be written to a URL.
-/

namespace HistorySearch

namespace Timestamp

/-- What an input shows of a date is not trimmed. -/
theorem trimmed_inputText (date : Option Timestamp) :
    PostedForm.trimmed (inputText date) = inputText date := by
  cases date with
  | none => rfl
  | some t =>
    change String.ofList (Blank.trim (String.ofList t.inputValueChars).toList) = _
    rw [String.toList_ofList, Timestamp.trim_inputValueChars]
    rfl

end Timestamp

namespace PostedForm

/-! ## Edited forms -/

def redated (posted : String) (seeded : Option Timestamp) : Option Timestamp :=
  (dateEdit? posted seeded).getD seeded

/-- All that edits make of a form: texts and choice are those that were posted, and a date is the
one that was posted if it was edited. -/
theorem editAll_edits (f : PostedForm) (s : FormState) :
    s.editAll (f.edits s) =
      { key := f.key
        tokenFilter := filter f.tokenType
        ipAddress := f.ipAddress
        earliest := redated f.sinceDate s.earliest
        latest := redated f.untilDate s.latest } := by
  -- Whether a date is edited is all that the list of edits depends on.
  unfold edits redated
  generalize dateEdit? f.sinceDate s.earliest = sinceEdit
  generalize dateEdit? f.untilDate s.latest = untilEdit
  cases sinceEdit <;> cases untilEdit <;> rfl

theorem isWritable_redated (posted : String) {seeded : Option Timestamp}
    (h : ∀ t ∈ seeded, t.IsWritable) : ∀ t ∈ redated posted seeded, t.IsWritable := by
  unfold redated dateEdit?
  split
  · exact h
  · intro t ht
    rw [Option.getD_some] at ht
    exact Timestamp.isWritable_of_decodeLenient (Option.mem_def.mp ht)

/-- Edits that are posted leave a form one that can be written. -/
theorem isWritable_editAll_edits (f : PostedForm) {s : FormState} (h : s.IsWritable) :
    (s.editAll (f.edits s)).IsWritable := by
  have hearliest := isWritable_redated f.sinceDate h.earliest
  have hlatest := isWritable_redated f.untilDate h.latest
  rw [editAll_edits]
  generalize redated f.sinceDate s.earliest = earliest at hearliest ⊢
  generalize redated f.untilDate s.latest = latest at hlatest ⊢
  exact ⟨hearliest, hlatest⟩

/-! ## Forms as they are shown -/

/-- The form that is posted from a page on which nothing was changed. -/
def shown (s : FormState) : PostedForm where
  key := s.key
  tokenType := s.tokenFilter.name
  ipAddress := s.ipAddress
  sinceDate := Timestamp.inputText s.earliest
  untilDate := Timestamp.inputText s.latest

theorem redated_inputText (date : Option Timestamp) :
    redated (Timestamp.inputText date) date = date := by
  have hkept : dateEdit? (Timestamp.inputText date) date = none :=
    if_pos (decide_eq_true (Timestamp.trimmed_inputText date))
  rw [redated, hkept, Option.getD_none]

theorem filter_name (f : TokenFilter) : filter f.name = f := by
  rw [filter, TokenFilter.read_name]

/-- A form that is posted as it is shown stays what it is: its dates are not edited, and its other
fields are set to what they hold. -/
theorem editAll_edits_shown (s : FormState) : s.editAll ((shown s).edits s) = s := by
  simp only [editAll_edits, shown, redated_inputText, filter_name]

/-! ## Bodies -/

def text (f : PostedForm) : Field → String
  | .key => f.key
  | .tokenType => f.tokenType
  | .ipAddress => f.ipAddress
  | .sinceDate => f.sinceDate
  | .untilDate => f.untilDate

/-- The pairs that are sent for a form, in the order of its fields. -/
def toPairs (f : PostedForm) : List FormEncoded.Pair :=
  Field.all.map fun field => (field.name, f.text field)

/-- The octets that are sent for a form. -/
def body (f : PostedForm) : List UInt8 :=
  Utf8.encode (FormEncoded.writeChars f.toPairs)

theorem ofPairs_toPairs (f : PostedForm) : ofPairs f.toPairs = .ok f := by
  have hrepeated : repeated? [] f.toPairs = none := by
    simp [toPairs, Field.all, repeated?]
  have htext : ∀ field, textOf f.toPairs field = f.text field := by
    intro field
    cases field <;> rfl
  simp only [ofPairs, hrepeated, htext]
  rfl

theorem readOctets_body (f : PostedForm) : FormEncoded.readOctets f.body = f.toPairs := by
  have hread := FormEncoded.read_write f.toPairs
  rwa [FormEncoded.read, FormEncoded.write, String.toList_ofList] at hread

end PostedForm

/-- A form that is sent is the form that is taken. -/
theorem Request.form_of_body {r : Request} {f : PostedForm} (htype : r.carriesForm)
    (hbody : r.body = f.body) (hlength : r.body.length ≤ maxBody) : r.form = .ok f := by
  rw [form, htype, if_neg (by decide), if_neg (Nat.not_lt.mpr hlength), hbody,
    PostedForm.readOctets_body, PostedForm.ofPairs_toPairs]
  rfl

end HistorySearch
