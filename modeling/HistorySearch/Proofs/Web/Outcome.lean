-- SUMMARY: Which requests submit a form, and what the replies to them show of the outcome.
import HistorySearch.Proofs.Search.Successive
import HistorySearch.Proofs.Web.Site

/-!
# Outcomes of requests

A form is submitted only by a request that is posted to the page, carries a form and is for a URL.
Every other request is answered quietly: nothing is handed off and the browser is sent nowhere.
-/

namespace HistorySearch

/-! ## Quiet replies -/

/-- A reply that hands off nothing and does not send the browser anywhere. -/
structure Reply.IsQuiet (reply : Reply) : Prop where
  dispatched : reply.dispatched = []
  stays : reply.response.Stays

theorem Response.stays_html {status : Nat} (h : status ≠ 303) (body : String) :
    (html status body).Stays :=
  ⟨h, rfl⟩

theorem ApiError.stays_toResponse (e : ApiError) : e.toResponse.Stays := by
  cases e with
  | notFound what => exact ⟨show 404 ≠ 303 by decide, rfl⟩
  | invalid reason => exact ⟨show 400 ≠ 303 by decide, rfl⟩
  | invalidFields errors => exact ⟨show 422 ≠ 303 by decide, rfl⟩

theorem Response.stays_methodNotAllowed (allow : String) : (methodNotAllowed allow).Stays :=
  ⟨show 405 ≠ 303 by decide, rfl⟩

namespace Site

variable {s : Site} {r : Request} {posted : PostedForm} {store : Store}

theorem isQuiet_quietly {response : Response} (h : response.Stays) : (quietly response).IsQuiet :=
  ⟨rfl, h⟩

theorem isQuiet_showPage (s : Site) (r : Request) : (s.showPage r).IsQuiet := by
  unfold showPage
  split
  · exact isQuiet_quietly (ApiError.stays_toResponse _)
  · exact ⟨rfl, Response.stays_html (by decide) _⟩

theorem stays_predicateResponse (state : FormState) : (predicateResponse state).Stays := by
  unfold predicateResponse
  split
  · exact ⟨show 200 ≠ 303 by decide, rfl⟩
  · exact ApiError.stays_toResponse _

theorem isQuiet_onPredicate (s : Site) (r : Request) : (s.onPredicate r).IsQuiet := by
  unfold onPredicate showPredicate
  split
  · split
    · exact isQuiet_quietly (ApiError.stays_toResponse _)
    · exact ⟨rfl, stays_predicateResponse _⟩
  · exact isQuiet_quietly (Response.stays_methodNotAllowed _)

/-! ## Requests that submit a form -/

/-- A request submits a form on a store: it is posted to the page, its body is the form, and what
it is for is resolved to the URL that is the store. -/
structure Takes (s : Site) (r : Request) (posted : PostedForm) (store : Store) : Prop where
  method : r.method = "POST"
  routed : s.pageRoute.isMatch r.target.path.toList
  form : r.form = .ok posted
  seeded : s.store r = .ok store

theorem Takes.respond (h : s.Takes r posted store) : s.respond r = submitForm posted store := by
  have hhead : r.method ≠ "HEAD" := by
    rw [h.method]
    decide
  have hshown : ¬(r.method = "GET" ∨ r.method = "HEAD") := by
    rw [h.method]
    decide
  rw [Site.respond, if_neg hhead, route, if_pos h.routed, onPage, if_neg hshown, if_pos h.method,
    takeForm]
  simp only [h.form, h.seeded]

theorem takes_or_isQuiet_onPage (hpage : s.pageRoute.isMatch r.target.path.toList) :
    (∃ posted store, s.Takes r posted store) ∨ (s.onPage r).IsQuiet := by
  unfold onPage takeForm
  split
  · exact .inr (isQuiet_showPage s r)
  split
  · rename_i hmethod
    split
    · rename_i hform
      exact .inr (isQuiet_quietly (Request.stays_of_form hform))
    · rename_i posted hform
      split
      · exact .inr (isQuiet_quietly (ApiError.stays_toResponse _))
      · rename_i store hstore
        exact .inl ⟨posted, store, hmethod, hpage, hform, hstore⟩
  · exact .inr (isQuiet_quietly (Response.stays_methodNotAllowed _))

theorem takes_or_isQuiet_route (s : Site) (r : Request) :
    (∃ posted store, s.Takes r posted store) ∨ (s.route r).IsQuiet := by
  unfold route
  split
  · rename_i hpage
    exact takes_or_isQuiet_onPage hpage
  split
  · exact .inr (isQuiet_onPredicate s r)
  · exact .inr (isQuiet_quietly (ApiError.stays_toResponse _))

/-- A request that submits no form is answered quietly, whatever is asked for. -/
theorem takes_or_isQuiet (s : Site) (r : Request) :
    (∃ posted store, s.Takes r posted store) ∨ (s.respond r).IsQuiet := by
  rcases takes_or_isQuiet_route s r with htakes | hquiet
  · exact .inl htakes
  · unfold respond
    split
    · exact .inr ⟨hquiet.dispatched, hquiet.stays.status, hquiet.stays.location⟩
    · exact .inr hquiet

end Site

/-! ## Outcomes -/

/-- What is seen of the outcome of a submission: a redirect and the predicate that is handed off,
or the page with the errors. -/
inductive Reply.Shows (reply : Reply) : Outcome → Prop
  | submitted (p : Predicate) (redirected : reply.response.status = 303)
      (dispatched : reply.dispatched = [p]) : Shows reply (.submitted p)
  | rejected (e : FieldErrors) (state : FormState) (action : String)
      (shown : reply.response = Response.html 422 (Page.render state e action))
      (dispatched : reply.dispatched = []) : Shows reply (.rejected e)

theorem Site.shows_submitForm (posted : PostedForm) (store : Store) :
    (submitForm posted store).Shows
      (Form.submitEdited store (posted.edits (Form.mount store).state)).outcome := by
  rcases submitForm_cases posted store with haccepted | hrejected
  · obtain ⟨p, hvalid, hresponse, hcalls⟩ := haccepted
    rw [Form.submitEdited, Form.submit_of_ok hvalid]
    refine .submitted p ?_ hcalls
    rw [hresponse, Response.seeOther]
  · obtain ⟨e, hvalid, hresponse, hcalls⟩ := hrejected
    rw [Form.submitEdited, Form.submit_of_error hvalid]
    exact .rejected e _ _ hresponse hcalls

end HistorySearch
