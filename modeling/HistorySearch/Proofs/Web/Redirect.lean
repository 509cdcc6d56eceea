-- SUMMARY: The link that a search is redirected to is about the search that was run.
import HistorySearch.Proofs.Web.Posted
import HistorySearch.Proofs.Web.Site

/-!
# Redirects

After an accepted submission the browser is sent to the page with the search in its query. Asking
for that link fills the form as it was submitted and gives the predicate that was handed off, and
what the query held for others is still there.
-/

namespace HistorySearch.Site

variable {s : Site} {publicUrl path q : String} {r : Request}

/-! ## Written stores -/

/-- The pairs that a form makes of others; there are always some, since the token type is always
written. -/
theorem merge_toUpdate_ne_nil (ps : List FormEncoded.Pair) (state : FormState) :
    Query.merge ps state.toUpdate ≠ [] := by
  intro hnil
  have htype := FormState.firstValue?_set (.memory ps 0) state .tokenType
  rw [Store.pairs_set, Store.pairs, hnil] at htype
  contradiction

/-- Where a URL leads once pairs were written to it. -/
theorem relative_setPairs (u : Url) {ps : List FormEncoded.Pair} (h : ps ≠ []) :
    (u.setPairs ps).relative = String.ofList u.path.toChars ++ "?" ++ FormEncoded.write ps := by
  rw [Url.setPairs_of_ne_nil u h, ← String.toList_inj]
  simp [Url.relative, Url.queryChars]

theorem relative_set {u : Url} (hchars : u.path.toChars = path.toList)
    (hpairs : u.pairs = Url.queryPairs q) (state : FormState) :
    relative ((Store.url u).set state.toUpdate) =
      path ++ ("?" ++ FormEncoded.write (Query.merge (Url.queryPairs q) state.toUpdate)) := by
  have hne := merge_toUpdate_ne_nil (Url.queryPairs q) state
  rw [Store.set, relative, hpairs, relative_setPairs u hne, hchars, String.ofList_toList,
    String.append_assoc]

/-- The query that a form was written to fills it again. -/
theorem ofQuery_merge {state : FormState} (h : state.IsWritable) (ps : List FormEncoded.Pair) :
    FormState.ofQuery ("?" ++ FormEncoded.write (Query.merge ps state.toUpdate)) = state := by
  have hfilled := FormState.ofParams_set (.memory ps 0) h
  rwa [FormState.ofQuery, Url.queryPairs_write]

/-! ## Submitted forms -/

/-- The form that is submitted can be written. -/
theorem isWritable_submitted (posted : PostedForm) (store : Store) :
    (submitted posted store).IsWritable := by
  rw [submitted, Form.updateAll_state]
  exact posted.isWritable_editAll_edits (FormState.isWritable_ofParams store.params)

/-- Behind every redirect after a post is a form that was accepted. -/
theorem Serves.accepted (hs : s.Serves publicUrl path)
    (hq : RequestTarget.IsQueryPart q.toList) (htarget : r.target = ⟨path, path ++ q⟩)
    (hmethod : r.method = "POST") (hstatus : (s.respond r).response.status = 303) :
    ∃ u posted p, s.store r = .ok (.url u) ∧ u.path.toChars = path.toList ∧
      u.pairs = Url.queryPairs q ∧ r.form = .ok posted ∧
      (submitted posted (.url u)).validate = .ok p ∧
      (s.respond r).response =
        Response.seeOther (relative ((Store.url u).set (submitted posted (.url u)).toUpdate)) ∧
      (s.respond r).dispatched = [p] := by
  obtain ⟨u, hstore, hchars, hpairs, hreply⟩ := hs.respond_posted hq htarget hmethod
  cases hform : r.form with
  | error response =>
    rw [hreply, hform] at hstatus
    exact absurd hstatus (Request.stays_of_form hform).status
  | ok posted =>
    simp only [hform] at hreply
    rw [hreply] at hstatus ⊢
    rcases submitForm_cases posted (.url u) with haccepted | hrejected
    · obtain ⟨p, hvalid, hresponse, hcalls⟩ := haccepted
      exact ⟨u, posted, p, hstore, hchars, hpairs, rfl, hvalid, hresponse, hcalls⟩
    · obtain ⟨e, _, hresponse, _⟩ := hrejected
      rw [hresponse, Response.status_html] at hstatus
      exact absurd hstatus (by decide)

/-- A link is about the search that a request submitted: it leads to the page of the site, which
it fills with the form that was submitted, its query gives the predicate that was handed off, and
what the query of the request held for others is in it, in the same order. -/
structure IsSearchLink (s : Site) (path q : String) (r : Request) (link query : String)
    (store : Store) (posted : PostedForm) (p : Predicate) : Prop where
  seeded : s.store r = .ok store
  taken : r.form = .ok posted
  dispatched : (s.respond r).dispatched = [p]
  leads : link = path ++ ("?" ++ query)
  filled : ∃ u, s.address.join link = .ok u ∧ (Form.mount (.url u)).state = submitted posted store
  answered : ∀ asked : Request, asked.method = "GET" →
    asked.target = ⟨predicatePath path, predicatePath path ++ ("?" ++ query)⟩ →
    (s.respond asked).response = Response.json 200 (Json.success p.toData)
  kept : Query.foreign (FormEncoded.read query) = Query.foreign (Url.queryPairs q)

/-- Every redirect after a post is to a link that is about the search that was submitted. -/
theorem redirect_is_search (hs : s.Serves publicUrl path) (hr : r.IsFor path q)
    (hmethod : r.method = "POST") {link : String}
    (hstatus : (s.respond r).response.status = 303)
    (hlocation : (s.respond r).response.location = some link) :
    ∃ query store posted p, IsSearchLink s path q r link query store posted p := by
  obtain ⟨rest, hrooted⟩ := hs.plain.isRooted
  obtain ⟨htarget, hquery⟩ := target_of_isFor hrooted hr
  obtain ⟨u, posted, p, hstore, hchars, hpairs, hform, hvalid, hresponse, hcalls⟩ :=
    hs.accepted hquery htarget hmethod hstatus
  have hlink : link = relative ((Store.url u).set (submitted posted (.url u)).toUpdate) := by
    rw [hresponse] at hlocation
    exact (Option.some.inj hlocation).symm
  rw [relative_set hchars hpairs] at hlink
  have hfilled := ofQuery_merge (isWritable_submitted posted (.url u)) (Url.queryPairs q)
  refine ⟨_, .url u, posted, p, hstore, hform, hcalls, hlink, ?_, ?_, ?_⟩
  · -- The query of the link holds the same pairs once it was parsed again.
    obtain ⟨v, hjoin, _, hv⟩ := hs.join hrooted (Url.isQueryPart_write _)
    rw [hlink]
    exact ⟨v, hjoin, (ofParams_url hv).trans hfilled⟩
  · intro asked hget hasked
    have hanswer := (hs.respond_predicatePath (Url.isQueryPart_write _) hasked hget).1
    rw [hanswer, hfilled, predicateResponse, hvalid]
  · rw [FormEncoded.read_write, Query.foreign_merge]

/-- A form without a key in which the date is posted back as the page shows it. -/
def sampleSubmission : Request :=
  sampleRequest "POST" "/tokens/history"
    (Utf8.encode "key=&tokenType=user&ipAddress=1::/8+%26&sinceDate=2017-01-01T00:59:60.250".toList)

/-- The link that it is redirected to, on which the date is still the one of the query. -/
def sampleLink : String :=
  "/tokens/history?a=%25zz&sinceDate=2016-12-31T23%3A59%3A60.250500-01%3A00&a=2" ++
    "&tokenType=user&ipAddress=1%3A%3A%2F8+%26"

theorem response_sampleSubmission :
    (sample.respond sampleSubmission).response = Response.seeOther sampleLink := by
  decide +kernel

theorem redirect_is_search_leap :
    ∃ query store posted p, IsSearchLink sample "/tokens/history" ("?" ++ sampleQuery)
      sampleSubmission sampleLink query store posted p := by
  have hr : sampleSubmission.IsFor "/tokens/history" ("?" ++ sampleQuery) :=
    isFor_samplePage "POST" _
  refine redirect_is_search sample_serves hr rfl ?_ ?_
  · exact congrArg Response.status response_sampleSubmission
  · exact congrArg Response.location response_sampleSubmission

end HistorySearch.Site
