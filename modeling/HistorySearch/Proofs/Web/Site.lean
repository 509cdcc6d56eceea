-- SUMMARY: Which requests a site answers by its two paths, and the forms they are about.
import HistorySearch.Proofs.Url.Reference
import HistorySearch.Proofs.Web.Route
import HistorySearch.Web.Server

/-!
# Requests to a site

A site on the web with a plain path serves its page on that path and the predicate on a longer
one. A request for either is about the form that its query fills; nothing else of the URL matters.
-/

namespace HistorySearch

/-- The form that a query with its sign fills. -/
def FormState.ofQuery (q : String) : FormState :=
  ofParams (QueryParams.ofPairs (Url.queryPairs q))

theorem Response.status_html (status : Nat) (body : String) : (html status body).status = status :=
  rfl

theorem Response.status_json (status : Nat) (body : Json) : (json status body).status = status :=
  rfl

theorem Response.body_html (status : Nat) (body : String) : (html status body).body = body :=
  rfl

/-- A response that does not send the browser anywhere. -/
structure Response.Stays (response : Response) : Prop where
  status : response.status ≠ 303
  location : response.location = none

/-- A body that is refused is not answered by a redirect. -/
theorem Request.stays_of_form {r : Request} {response : Response}
    (h : r.form = .error response) : response.Stays := by
  unfold form at h
  split at h
  · cases h
    exact ⟨by decide, rfl⟩
  split at h
  · cases h
    exact ⟨by decide, rfl⟩
  · cases hpairs : PostedForm.ofPairs (FormEncoded.readOctets r.body) with
    | ok posted =>
      rw [hpairs] at h
      cases h
    | error field =>
      rw [hpairs] at h
      cases h
      exact ⟨show 422 ≠ 303 by decide, rfl⟩

namespace Site

/-- The path of the predicate beside a page. -/
def predicatePath (path : String) : String :=
  "/api" ++ path ++ "/predicate"

/-- A site is the one that is made for an address on the web and a plain path. -/
structure Serves (s : Site) (publicUrl path : String) : Prop where
  address : Url.parse publicUrl = .ok s.address
  web : s.address.scheme = "http" ∨ s.address.scheme = "https"
  plain : Path.IsPlain path
  made : make? s.address path = some s

/-- A site whose address has a port and a path of its own. -/
def sample : Site where
  address :=
    ⟨"https", some ⟨"", "", .name "example.com", some 8443⟩, .hierarchy ["x"], none, none⟩
  pageRoute := Route.literal "/tokens/history".toList
  predicateRoute := Route.literal (predicatePath "/tokens/history").toList

theorem sample_serves : sample.Serves "https://example.com:8443/x" "/tokens/history" where
  address := by decide +kernel
  web := .inr rfl
  plain := .inr ⟨["tokens", "history"], by simp, by simp [Path.isLetter], by decide⟩
  made := by decide +kernel

end Site

/-- A request that was read is for a path, with a query or without one. -/
structure Request.IsFor (r : Request) (path q : String) : Prop where
  read : ∃ text, RequestTarget.read text = some r.target
  query : q = "" ∨ ∃ text, q = "?" ++ text
  reference : r.target.reference = path ++ q

namespace Site

/-- A query with special characters, malformed text, a leap second and pairs of others. -/
def sampleQuery : String :=
  "key=%22%26%3C&a=%zz&sinceDate=2016-12-31T23:59:60.2505-01:00&key=&a=2"

/-- A request that carries a form for that query. -/
def sampleRequest (method path : String) (body : List UInt8) : Request :=
  ⟨method, ⟨path, path ++ ("?" ++ sampleQuery)⟩, some Request.formType, body⟩

theorem body_sampleRequest (method path : String) (body : List UInt8) :
    (sampleRequest method path body).body = body := rfl

theorem isFor_sampleRequest {path : String} (method : String) (body : List UInt8)
    (h : RequestTarget.read (path ++ ("?" ++ sampleQuery)) =
      some ⟨path, path ++ ("?" ++ sampleQuery)⟩) :
    (sampleRequest method path body).IsFor path ("?" ++ sampleQuery) :=
  ⟨⟨_, h⟩, .inr ⟨sampleQuery, rfl⟩, rfl⟩

theorem isFor_samplePage (method : String) (body : List UInt8) :
    (sampleRequest method "/tokens/history" body).IsFor "/tokens/history" ("?" ++ sampleQuery) :=
  isFor_sampleRequest method body (by decide +kernel)

variable {s : Site} {publicUrl path q : String} {r : Request}

/-! ## Routes -/

/-- Where the path of the page stands for itself, so does that of the predicate. -/
theorem routes_of_make? {address : Url} (hmade : make? address path = some s)
    (hroute : Route.parse? path = some (Route.literal path.toList)) :
    s.pageRoute = Route.literal path.toList ∧
      s.predicateRoute = Route.literal (predicatePath path).toList := by
  rw [make?, hroute] at hmade
  have hsite := Option.some.inj hmade
  refine ⟨by rw [← hsite], ?_⟩
  rw [← hsite, predicatePath, String.toList_append, String.toList_append]
  simp [Route.literal]

theorem Serves.routes (h : s.Serves publicUrl path) :
    s.pageRoute = Route.literal path.toList ∧
      s.predicateRoute = Route.literal (predicatePath path).toList := by
  obtain ⟨rest, hrooted⟩ := h.plain.isRooted
  exact routes_of_make? h.made (Route.parse?_rooted hrooted)

theorem predicatePath_ne (path : String) : path.toList ≠ (predicatePath path).toList := by
  intro heq
  have hlength := congrArg List.length heq
  rw [predicatePath, String.toList_append, String.toList_append, List.length_append,
    List.length_append] at hlength
  have hprefix : "/api".toList.length = 4 := rfl
  omega

theorem Serves.respond_page (h : s.Serves publicUrl path) (hpath : r.target.path = path)
    (hmethod : r.method ≠ "HEAD") : s.respond r = s.onPage r := by
  rw [respond, if_neg hmethod, route, h.routes.1, Route.isMatch_literal, hpath]
  exact if_pos (decide_eq_true rfl)

theorem Serves.respond_predicate (h : s.Serves publicUrl path)
    (hpath : r.target.path = predicatePath path) (hmethod : r.method ≠ "HEAD") :
    s.respond r = s.onPredicate r := by
  rw [respond, if_neg hmethod, route, h.routes.1, h.routes.2, Route.isMatch_literal,
    Route.isMatch_literal, hpath, if_neg (by simpa using predicatePath_ne path),
    if_pos (decide_eq_true rfl)]

/-! ## Stores -/

theorem Serves.kind (h : s.Serves publicUrl path) : s.address.kind = .web := by
  rcases h.web with hscheme | hscheme
  · rw [Url.kind, hscheme]
    decide
  · rw [Url.kind, hscheme]
    decide

/-- What a plain path and a query are resolved to on a site. -/
theorem Serves.join (h : s.Serves publicUrl path) {own : String} {rest : List Char}
    (hown : Path.IsRooted own rest) (hq : RequestTarget.IsQueryPart q.toList) :
    ∃ u, s.address.join (own ++ q) = .ok u ∧ u.path.toChars = own.toList ∧
      u.pairs = Url.queryPairs q :=
  Url.join_plain h.kind (Url.isRootless_of_parse h.address h.kind) hown hq

/-- A request for a plain path is routed by it, and only characters of a query follow it. -/
theorem target_of_isFor {own : String} {rest : List Char} (hown : Path.IsRooted own rest)
    (hr : r.IsFor own q) :
    r.target = ⟨own, own ++ q⟩ ∧ RequestTarget.IsQueryPart q.toList := by
  obtain ⟨text, hread⟩ := hr.read
  obtain ⟨hpath, hquery⟩ := RequestTarget.of_reference hread hown hr.query hr.reference
  exact ⟨by rw [← hr.reference, ← hpath], hquery⟩

/-- A request for a plain path is about the URL with the pairs of its query. -/
theorem Serves.store (h : s.Serves publicUrl path) {own : String} {rest : List Char}
    (hown : Path.IsRooted own rest) (hq : RequestTarget.IsQueryPart q.toList)
    (htarget : r.target = ⟨own, own ++ q⟩) :
    ∃ u, s.store r = .ok (.url u) ∧ u.path.toChars = own.toList ∧
      u.pairs = Url.queryPairs q := by
  obtain ⟨u, hjoin, hchars, hpairs⟩ := h.join hown hq
  refine ⟨u, ?_, hchars, hpairs⟩
  rw [Site.store, htarget, hjoin]
  rfl

theorem ofParams_url {u : Url} (h : u.pairs = Url.queryPairs q) :
    FormState.ofParams (Store.url u).params = FormState.ofQuery q := by
  rw [FormState.ofQuery, Store.params, Store.pairs, h]

/-- The predicate of a query is what the form that the query fills is validated to. -/
theorem Serves.respond_predicatePath (h : s.Serves publicUrl path)
    (hq : RequestTarget.IsQueryPart q.toList)
    (htarget : r.target = ⟨predicatePath path, predicatePath path ++ q⟩)
    (hmethod : r.method = "GET") :
    (s.respond r).response = predicateResponse (FormState.ofQuery q) ∧
      (s.respond r).dispatched = [] := by
  obtain ⟨rest, hrooted⟩ := h.plain.isRooted
  obtain ⟨u, hstore, _, hpairs⟩ := h.store hrooted.predicate hq htarget
  have hroute := h.respond_predicate (congrArg RequestTarget.path htarget) (by rw [hmethod]; decide)
  rw [hroute, onPredicate, if_pos (.inl hmethod)]
  simp only [showPredicate, hstore, ofParams_url hpairs, and_self]

/-! ## Submissions -/

/-- What a posted form makes of the form that a store fills. -/
def submitted (posted : PostedForm) (store : Store) : FormState :=
  ((Form.mount store).updateAll (posted.edits (Form.mount store).state)).state

/-- All that a posted form can lead to: its predicate is handed off and the browser is sent to the
store that was written, or the page is shown again with the errors of the form. -/
theorem submitForm_cases (posted : PostedForm) (store : Store) :
    (∃ p, (submitted posted store).validate = .ok p ∧
      (submitForm posted store).response =
        Response.seeOther (relative (store.set (submitted posted store).toUpdate)) ∧
      (submitForm posted store).dispatched = [p]) ∨
    (∃ e, (submitted posted store).validate = .error e ∧
      (submitForm posted store).response =
        Response.html 422 (Page.render (submitted posted store) e (relative store)) ∧
      (submitForm posted store).dispatched = []) := by
  cases hvalid : (submitted posted store).validate with
  | ok p =>
    refine .inl ⟨p, rfl, ?_⟩
    simp only [submitForm, Form.submit_of_ok hvalid, answerSubmission, List.map_cons, List.map_nil,
      submitted, and_self]
  | error e =>
    refine .inr ⟨e, rfl, ?_⟩
    simp only [submitForm, Form.submit_of_error hvalid, answerSubmission, List.map_nil, submitted,
      Form.state_finish, Form.state_begin, and_self]

/-- A posted form is submitted on the URL that the request is for, and a body without one is
refused. -/
theorem Serves.respond_posted (h : s.Serves publicUrl path)
    (hq : RequestTarget.IsQueryPart q.toList) (htarget : r.target = ⟨path, path ++ q⟩)
    (hmethod : r.method = "POST") :
    ∃ u, s.store r = .ok (.url u) ∧ u.path.toChars = path.toList ∧ u.pairs = Url.queryPairs q ∧
      s.respond r =
        match r.form with
        | .ok posted => submitForm posted (.url u)
        | .error response => quietly response := by
  obtain ⟨rest, hrooted⟩ := h.plain.isRooted
  obtain ⟨u, hstore, hchars, hpairs⟩ := h.store hrooted hq htarget
  refine ⟨u, hstore, hchars, hpairs, ?_⟩
  have hroute := h.respond_page (congrArg RequestTarget.path htarget) (by rw [hmethod]; decide)
  rw [hroute, onPage, if_neg (by rw [hmethod]; decide), if_pos hmethod, takeForm]
  cases r.form with
  | ok posted => simp only [hstore]
  | error response => rfl

end Site

end HistorySearch
