-- SUMMARY: A rejected form that is corrected on its page is the form that was meant.
import HistorySearch.Proofs.Web.Outcome
import HistorySearch.Proofs.Web.Redated
import HistorySearch.Proofs.Web.Resubmission

/-!
# Corrected forms

The page of a rejected form shows what was posted, with its dates written anew. Correcting the key
on that page and posting it to the same URL has the outcome that the form would have had with that
key from the start. Both posts are compared with what the URL fills the form with, and a date that
is kept by one and read by the other stands for the same second.
-/

namespace HistorySearch

namespace PostedForm

def withKey (f : PostedForm) (key : String) : PostedForm :=
  { f with key := key }

/-- The dates of a form can be shown again once they were posted for a seeded form. -/
structure HasShowableDates (f : PostedForm) (seeded : FormState) : Prop where
  since : IsShowable f.sinceDate seeded.earliest
  before : IsShowable f.untilDate seeded.latest

/-- What is shown of an edited form, with another key, asks for the same search as what was posted
with that key. -/
theorem validate_corrected {f : PostedForm} {seeded : FormState} (hseeded : seeded.IsWritable)
    (hdates : f.HasShowableDates seeded) (key : String) :
    (seeded.editAll (((shown (seeded.editAll (f.edits seeded))).withKey key).edits seeded)).validate
      = (seeded.editAll ((f.withKey key).edits seeded)).validate := by
  have hearliest := epoch_redated_redated hseeded.isInRange.1 hdates.since
  have hlatest := epoch_redated_redated hseeded.isInRange.2 hdates.before
  simp only [editAll_edits, shown, withKey, filter_name]
  refine FormState.validate_congr rfl rfl rfl ?_ ?_
  · simpa only using hearliest
  · simpa only using hlatest

end PostedForm

namespace Site

variable {s : Site} {posted : PostedForm} {store : Store}

/-- A rejected form is shown again as it was edited, to be posted to the same place. -/
theorem response_of_rejected {r : Request} (h : s.Takes r posted store)
    (hstatus : (s.respond r).response.status = 422) :
    ∃ errors, (s.respond r).response =
      Response.html 422 (Page.render (submitted posted store) errors (relative store)) := by
  rw [h.respond] at hstatus ⊢
  rcases submitForm_cases posted store with haccepted | hrejected
  · obtain ⟨p, _, hresponse, _⟩ := haccepted
    rw [hresponse, Response.seeOther] at hstatus
    exact absurd hstatus (show 303 ≠ 422 by decide)
  · obtain ⟨errors, _, hresponse, _⟩ := hrejected
    exact ⟨errors, hresponse⟩

/-- A form that is posted to the place that its page names is submitted on the same store. -/
theorem Serves.takes_action {publicUrl path q : String} {r : Request}
    (hs : s.Serves publicUrl path) (hr : r.IsFor path q) (h : s.Takes r posted store) :
    ∃ own, relative store = path ++ own ∧
      ∀ {again : Request} {f : PostedForm}, again.IsFor path own → again.method = "POST" →
        again.form = .ok f → s.Takes again f store := by
  obtain ⟨rest, hrooted⟩ := hs.plain.isRooted
  obtain ⟨htarget, hquery⟩ := target_of_isFor hrooted hr
  obtain ⟨u, hjoin, _, _⟩ := hs.join hrooted hquery
  have hstore : s.store r = .ok (.url u) := by
    rw [Site.store, htarget, hjoin]
    rfl
  obtain rfl := Except.ok.inj (h.seeded.symm.trans hstore)
  have hrootless := Url.isRootless_of_parse hs.address hs.kind
  obtain ⟨own, _, hrelative, hagain⟩ := Url.join_relative hs.kind hrootless hrooted hquery hjoin
  refine ⟨own, hrelative, fun hfor hmethod hform => ⟨hmethod, ?_, hform, ?_⟩⟩
  · have hrouted := h.routed
    rw [htarget] at hrouted
    rw [(target_of_isFor hrooted hfor).1]
    exact hrouted
  · rw [Site.store, (target_of_isFor hrooted hfor).1, hagain]
    rfl

/-- Correcting the key on the page of a rejected form loses nothing of the form: posted to the same
URL, the form of that page has the outcome that the rejected form has with the new key. -/
theorem correction_loses_nothing {rejected corrected meant : Request} {key : String}
    (hrejected : s.Takes rejected posted store)
    (hstatus : (s.respond rejected).response.status = 422)
    (hdates : posted.HasShowableDates (Form.mount store).state)
    (hcorrected : s.Takes corrected
      ((PostedForm.ofTags (Tag.read (s.respond rejected).response.body)).withKey key) store)
    (hmeant : s.Takes meant (posted.withKey key) store) :
    (∃ errors, (s.respond rejected).response =
      Response.html 422 (Page.render (submitted posted store) errors (relative store))) ∧
    ∃ outcome, (s.respond corrected).Shows outcome ∧ (s.respond meant).Shows outcome := by
  obtain ⟨errors, hpage⟩ := response_of_rejected hrejected hstatus
  rw [hpage, Response.body_html, Page.ofTags_render] at hcorrected
  have hsame : (Form.submitEdited store (((PostedForm.shown (submitted posted store)).withKey
      key).edits (Form.mount store).state)).outcome = (Form.submitEdited store
        ((posted.withKey key).edits (Form.mount store).state)).outcome := by
    refine Form.outcome_eq_of_validate ?_ _ _
    rw [submitted, Form.updateAll_state, Form.updateAll_state, Form.updateAll_state]
    exact PostedForm.validate_corrected (FormState.isWritable_ofParams store.params) hdates key
  refine ⟨⟨errors, hpage⟩, _, ?_, hmeant.respond ▸ shows_submitForm _ _⟩
  rw [hcorrected.respond, ← hsame]
  exact shows_submitForm _ _

/-- What a request for the page with the sample query is resolved to. -/
def sampleUrl : Url :=
  { sample.address with
    path := .hierarchy ["tokens", "history"]
    query := some sampleQuery }

theorem form_sampleRequest {f : PostedForm} (hlength : f.body.length ≤ Request.maxBody) :
    (sampleRequest "POST" "/tokens/history" f.body).form = .ok f :=
  Request.form_of_body rfl (body_sampleRequest "POST" "/tokens/history" f.body) hlength

theorem takes_sample (f : PostedForm) (hlength : f.body.length ≤ Request.maxBody) :
    sample.Takes (sampleRequest "POST" "/tokens/history" f.body) f (.url sampleUrl) where
  method := rfl
  routed := by
    change sample.pageRoute.isMatch "/tokens/history".toList
    decide +kernel
  form := form_sampleRequest hlength
  seeded := by
    have hjoin : sample.address.join ("/tokens/history" ++ ("?" ++ sampleQuery)) =
        .ok sampleUrl := by
      decide +kernel
    rw [Site.store, sampleRequest, hjoin]
    rfl

/-- A form with a key that is too short, a date that the page shows like the one of the query, from
which it differs by less than a millisecond, and a text that is no date. -/
def sampleRejected : PostedForm :=
  ⟨"short", "user", "1::/8 & \"", " 2017-01-01T00:59:60.2509", "tomorrow"⟩

def sampleKey : String := "0123456789abcdefghij-_"

/-- What is read from the page on which that form is shown again, with another key. -/
def sampleCorrected : PostedForm :=
  (PostedForm.ofTags (Tag.read (sample.respond
    (sampleRequest "POST" "/tokens/history" sampleRejected.body)).response.body)).withKey sampleKey

theorem hasShowableDates_sampleRejected :
    sampleRejected.HasShowableDates (Form.mount (.url sampleUrl)).state := by
  have hsince : Timestamp.decode sampleRejected.sinceDate =
      .ok (some ⟨1483232399, 1250900000, 0⟩) := by
    decide +kernel
  have hbefore : (Timestamp.decode sampleRejected.untilDate).toOption = none := by decide +kernel
  refine ⟨fun t ht => .inr ?_, fun t ht => ?_⟩
  · rw [hsince] at ht
    cases ht
    decide +kernel
  · rw [ht] at hbefore
    cases hbefore

theorem correction_loses_nothing_leap :
    ∃ outcome,
      (sample.respond (sampleRequest "POST" "/tokens/history" sampleCorrected.body)).Shows outcome ∧
      (sample.respond (sampleRequest "POST" "/tokens/history"
        (sampleRejected.withKey sampleKey).body)).Shows outcome := by
  have hrejected := takes_sample sampleRejected (by decide +kernel)
  have hmeant := takes_sample (sampleRejected.withKey sampleKey) (by decide +kernel)
  have hstatus : (submitForm sampleRejected (.url sampleUrl)).response.status = 422 := by
    decide +kernel
  rw [← hrejected.respond] at hstatus
  obtain ⟨errors, hpage⟩ := response_of_rejected hrejected hstatus
  have hshown : sampleCorrected =
      (PostedForm.shown (submitted sampleRejected (.url sampleUrl))).withKey sampleKey := by
    rw [sampleCorrected, hpage, Response.body_html, Page.ofTags_render]
  have hlength : sampleCorrected.body.length ≤ Request.maxBody := by
    rw [hshown]
    decide +kernel
  -- The corrected form is posted to the place that the page names.
  obtain ⟨own, haction, hagain⟩ :=
    sample_serves.takes_action (isFor_samplePage "POST" sampleRejected.body) hrejected
  have hown : own = "?" ++ sampleQuery := by
    have hsame : relative (.url sampleUrl) = "/tokens/history" ++ ("?" ++ sampleQuery) := by
      decide +kernel
    rw [haction, String.append_right_inj] at hsame
    exact hsame
  have hcorrected := hagain (hown ▸ isFor_samplePage "POST" sampleCorrected.body) rfl
    (form_sampleRequest hlength)
  exact (correction_loses_nothing hrejected hstatus hasShowableDates_sampleRejected hcorrected
    hmeant).2

end Site

end HistorySearch
