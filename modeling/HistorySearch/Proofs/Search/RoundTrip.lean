-- SUMMARY: A form that was written to a store is filled from it again.
import HistorySearch.Proofs.Calendar.Written
import HistorySearch.Proofs.Search.Merge
import HistorySearch.Search.FormState

/-!
# Round trip of the form

A form writes all its fields, so that nothing of what a store held for them is left, and each is
read back as it was. Dates come back with their offset and their nanoseconds.
-/

namespace HistorySearch

namespace FormState

/-- The dates of a form can be written. -/
structure IsWritable (s : FormState) : Prop where
  earliest : ∀ t ∈ s.earliest, t.IsWritable
  latest : ∀ t ∈ s.latest, t.IsWritable

/-- What a form writes for a field; nothing removes the field. -/
def text? (s : FormState) : Field → Option String
  | .key => nonEmpty? s.key
  | .tokenType => some s.tokenFilter.name
  | .ipAddress => nonEmpty? s.ipAddress
  | .sinceDate => s.earliest.map Timestamp.encode
  | .untilDate => s.latest.map Timestamp.encode

theorem getD_nonEmpty? (s : String) : (nonEmpty? s).getD "" = s := by
  unfold nonEmpty?
  split
  · rename_i hempty
    exact hempty.symm
  · rfl

theorem encode_ne_empty (t : Timestamp) : t.encode ≠ "" := by
  intro hempty
  have hchars := congrArg String.toList hempty
  rw [Timestamp.encode, String.toList_ofList] at hchars
  exact t.encodeChars_ne_nil hchars

theorem text?_ne_empty (s : FormState) (field : Field) : s.text? field ≠ some "" := by
  cases field with
  | key => simp [text?, nonEmpty?]
  | ipAddress => simp [text?, nonEmpty?]
  | tokenType =>
    intro hempty
    have hname : s.tokenFilter.name = "" := Option.some.inj hempty
    have hread := TokenFilter.read_name s.tokenFilter
    rw [hname] at hread
    cases hread
  | sinceDate => simp [text?, encode_ne_empty]
  | untilDate => simp [text?, encode_ne_empty]

theorem bind_text? (s : FormState) (field : Field) :
    (s.text? field).bind nonEmpty? = s.text? field :=
  QueryUpdate.bind_nonEmpty?_eq_self (s.text?_ne_empty field)

/-- The update of a form has an entry for every field. -/
theorem get?_toUpdate (s : FormState) (field : Field) :
    s.toUpdate.get? field = some (s.text? field) := by
  rw [← s.bind_text? field]
  cases field
  all_goals
    simp only [toUpdate, QueryUpdate.ofList, List.foldl_cons, List.foldl_nil, QueryUpdate.get?_set]
    rfl

theorem isProper_toUpdate (s : FormState) : s.toUpdate.IsProper :=
  QueryUpdate.isProper_ofList _

/-- What a store holds for a field once a form was written to it. -/
theorem firstValue?_set (store : Store) (s : FormState) (field : Field) :
    QueryParams.firstValue? (store.set s.toUpdate).pairs field.name = s.text? field := by
  rw [Store.pairs_set, Query.firstValue?_merge s.isProper_toUpdate, get?_toUpdate]
  rfl

theorem decodeLenient_encode? {date : Option Timestamp} (h : ∀ t ∈ date, t.IsWritable) :
    Timestamp.decodeLenient (date.map Timestamp.encode) = date := by
  cases date with
  | none => rfl
  | some t => exact Timestamp.decodeLenient_encode (h t rfl)

/-- A form is filled from what it wrote, whatever the store held before. -/
theorem ofParams_set (store : Store) {s : FormState} (h : s.IsWritable) :
    ofParams (store.set s.toUpdate).params = s := by
  obtain ⟨key, tokenFilter, ipAddress, earliest, latest⟩ := s
  have hvalue := firstValue?_set store ⟨key, tokenFilter, ipAddress, earliest, latest⟩
  simp only [Store.params, QueryParams.ofPairs, ofParams, hvalue, text?, getD_nonEmpty?,
    Option.getD_some, TokenFilter.read_name, decodeLenient_encode? h.earliest,
    decodeLenient_encode? h.latest]

/-- Every form that is filled from a store can be written. -/
theorem isWritable_ofParams (q : QueryParams) : (ofParams q).IsWritable :=
  ⟨fun _ h => Timestamp.isWritable_of_decodeLenient h,
    fun _ h => Timestamp.isWritable_of_decodeLenient h⟩

/-- A form with the dates of any parameters that can be read is filled from a store as it was
written to it, whatever the store held. -/
theorem filled_as_written :
    (∀ text t, Timestamp.decode text = .ok (some t) → t.IsWritable) ∧
      ∀ (store : Store) (s : FormState), s.IsWritable →
        ofParams (store.set s.toUpdate).params = s :=
  ⟨fun _ _ h => Timestamp.isWritable_of_decode h, fun store _ h => ofParams_set store h⟩

/-- A form with a leap second, written over a query with malformed and repeated values. -/
theorem filled_as_written_leap :
    let store := Store.url
      ⟨"https", some (Authority.ofHost (.name "example.com")), .hierarchy ["tokens"],
        some "key=%zz&other=1&key=&sinceDate=%FF&other=2", none⟩
    let s : FormState :=
      ⟨"a&b=c+d%20é", .only .user, "::1/64", some ⟨1483228799, 1500000000, 330⟩,
        some ⟨-62167219200, 1, 0⟩⟩
    s.IsWritable ∧ ofParams (store.set s.toUpdate).params = s := by
  intro store s
  have hearliest : ∀ t ∈ s.earliest, t.IsWritable := by
    rintro t ⟨⟩
    exact ⟨by decide +kernel, by decide, .inr (by decide +kernel)⟩
  have hlatest : ∀ t ∈ s.latest, t.IsWritable := by
    rintro t ⟨⟩
    exact ⟨by decide +kernel, by decide, .inl (by decide)⟩
  exact ⟨⟨hearliest, hlatest⟩, filled_as_written.2 store s ⟨hearliest, hlatest⟩⟩

end FormState

/-! ## Edits -/

def FieldEdit.date? : FieldEdit → Option Timestamp
  | sinceDate date => date
  | untilDate date => date
  | _ => none

/-- Some text is read as the date that an edit sets, if it sets one. -/
def FieldEdit.IsReadable (e : FieldEdit) : Prop :=
  ∀ t ∈ e.date?, ∃ text, Timestamp.decode text = .ok (some t)

theorem FormState.isWritable_edit {s : FormState} (h : s.IsWritable) {e : FieldEdit}
    (he : e.IsReadable) : (s.edit e).IsWritable := by
  have hdate : ∀ t ∈ e.date?, t.IsWritable := by
    intro t ht
    obtain ⟨text, hread⟩ := he t ht
    exact Timestamp.isWritable_of_decode hread
  cases e with
  | sinceDate date => exact ⟨hdate, h.latest⟩
  | untilDate date => exact ⟨h.earliest, hdate⟩
  | _ => exact ⟨h.earliest, h.latest⟩

/-- Edits leave a form one that can be written. -/
theorem FormState.isWritable_editAll {s : FormState} (h : s.IsWritable) {edits : List FieldEdit}
    (hedits : ∀ e ∈ edits, e.IsReadable) : (s.editAll edits).IsWritable := by
  induction edits generalizing s with
  | nil => exact h
  | cons e es ih =>
    have he := isWritable_edit h (hedits e List.mem_cons_self)
    exact ih he fun d hd => hedits d (List.mem_cons_of_mem _ hd)

/-- A leap second, half over, with an offset. -/
def Timestamp.sampleLeap : Timestamp :=
  ⟨1483228799, 1500000000, 330⟩

theorem Timestamp.decode_sampleLeap :
    decode "2017-01-01T05:29:60.5+05:30" = .ok (some sampleLeap) := by
  decide +kernel

theorem FieldEdit.isReadable_sampleLeap {e : FieldEdit}
    (h : e.date? = some Timestamp.sampleLeap) : e.IsReadable := by
  intro t ht
  rw [h] at ht
  cases ht
  exact ⟨_, Timestamp.decode_sampleLeap⟩

theorem FieldEdit.isReadable_of_date?_eq_none {e : FieldEdit} (h : e.date? = none) :
    e.IsReadable := by
  intro t ht
  rw [h] at ht
  cases ht

end HistorySearch
