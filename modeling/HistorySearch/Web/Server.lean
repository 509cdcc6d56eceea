-- SUMMARY: The site: its routes, and its responses to requests.
import HistorySearch.Search.Form
import HistorySearch.Settings.Config
import HistorySearch.Web.Page
import HistorySearch.Web.Posted
import HistorySearch.Web.Response
import HistorySearch.Web.Route
import HistorySearch.Web.Target

/-!
# The site

Two paths are served: the search page, to which its form is posted, and the predicate that the
parameters of a URL stand for. An accepted form is handed off and answered by a redirect to the
page with the parameters of the search; a rejected one is shown again with its errors.
-/

namespace HistorySearch

structure Request where
  method : String
  target : RequestTarget
  contentType : Option String
  body : List UInt8
  deriving DecidableEq

namespace Request

def isMethodChar (c : Char) : Bool :=
  c.isAlphanum || "!#$%&'*+-.^_`|~".toList.contains c

/-- Whether a character may stand in the value of a header. -/
def isHeaderChar (c : Char) : Bool :=
  (0x20 ≤ c.toNat && c.toNat ≠ 0x7F) || c = '\t'

/-- The request with these parts, if they are well formed. -/
def make? (method target : String) (contentType : Option String) (body : List UInt8) :
    Option Request := do
  let parsed ← RequestTarget.read target
  if method ≠ "" ∧ method.toList.all isMethodChar ∧
      contentType.all fun s => s.toList.all isHeaderChar then
    some ⟨method, parsed, contentType, body⟩
  else none

def formType : String := "application/x-www-form-urlencoded"

/-- Whether the request says that it carries a form. Only a header in ASCII is looked at. -/
def carriesForm (r : Request) : Bool :=
  match r.contentType with
  | some s => s.toList.all (·.toNat < 0x7F) && formType.toList.isPrefixOf s.toList
  | none => false

/-- The largest body in octets. -/
def maxBody : Nat := 2 * 1024 * 1024

/-- The form in the body, or the response that refuses it. -/
def form (r : Request) : Except Response PostedForm :=
  if !r.carriesForm then
    .error (Response.plain 415
      "Form requests must have `Content-Type: application/x-www-form-urlencoded`")
  else if maxBody < r.body.length then
    .error (Response.plain 413 "Failed to buffer the request body: length limit exceeded")
  else
    (PostedForm.ofPairs (FormEncoded.readOctets r.body)).mapError fun f =>
      Response.plain 422 ("Failed to deserialize form body: duplicate field `" ++ f.name ++ "`")

end Request

/-- A site: its address and the routes of its two paths. -/
structure Site where
  address : Url
  pageRoute : Route
  predicateRoute : Route
  deriving DecidableEq

/-- A response, the predicates that were handed off for it, and what was noted on the way. -/
structure Reply where
  response : Response
  dispatched : List Predicate
  events : List Event
  deriving DecidableEq

/-- What the receiver of a predicate notes. -/
def dispatchEvents (p : Predicate) : List Event :=
  [⟨.info, "Token change history search submitted", [("query", p.toQuery)]⟩]

namespace Site

/-- The site with an address and a path for its page; `none` if the path gives no route. -/
def make? (address : Url) (basePath : String) : Option Site :=
  (Route.parse? basePath).map fun route =>
    { address := address
      pageRoute := route
      predicateRoute :=
        Route.literal "/api".toList ++ route ++ Route.literal "/predicate".toList }

/-- A response without any effect. -/
def quietly (response : Response) : Reply :=
  ⟨response, [], []⟩

/-- The store on the URL that a request is for. -/
def store (s : Site) (r : Request) : Except ApiError Store :=
  ((s.address.join r.target.reference).map Store.url).mapError ApiError.ofUrl

-- ---------------------------------------------------------------------------
-- The search page
-- ---------------------------------------------------------------------------

/-- Where a URL store leads within the site. -/
def relative : Store → String
  | .url u => u.relative
  | .memory _ _ => ""

def showPage (s : Site) (r : Request) : Reply :=
  match s.store r with
  | .error e => quietly e.toResponse
  | .ok store =>
    let form := Form.mount store
    { response := Response.html 200 (Page.render form.state form.errors (relative store))
      dispatched := []
      events := Form.mountEvents store }

/-- Answers a submission. The page of a rejected one is posted to the same place again. -/
def answerSubmission (action : String) (s : Submission) : Response :=
  match s.outcome with
  | .submitted _ => Response.seeOther (relative s.store)
  | .rejected errors => Response.html 422 (Page.render s.form.state errors action)

def answerEvents (s : Submission) : List Event :=
  match s.outcome with
  | .submitted _ => [Event.debug ("Redirecting to " ++ relative s.store)]
  | .rejected _ => []

def submitForm (posted : PostedForm) (store : Store) : Reply :=
  let seeded := Form.mount store
  let edited := seeded.updateAll (posted.edits seeded.state)
  let submission := edited.submit store
  { response := answerSubmission (relative store) submission
    dispatched := submission.calls.map (·.predicate)
    events :=
      Form.mountEvents store ++ posted.editEvents seeded.state ++
        edited.submitEvents store dispatchEvents ++ answerEvents submission }

def takeForm (s : Site) (r : Request) : Reply :=
  match r.form with
  | .error response => quietly response
  | .ok posted =>
    match s.store r with
    | .error e => quietly e.toResponse
    | .ok store => submitForm posted store

-- ---------------------------------------------------------------------------
-- The predicate
-- ---------------------------------------------------------------------------

/-- The response with the predicate of a form, or with the errors of its fields. -/
def predicateResponse (state : FormState) : Response :=
  match state.validate with
  | .ok p => Response.json 200 (Json.success p.toData)
  | .error e => (ApiError.invalidFields e).toResponse

def showPredicate (s : Site) (r : Request) : Reply :=
  match s.store r with
  | .error e => quietly e.toResponse
  | .ok store => ⟨predicateResponse (FormState.ofParams store.params), [], Form.mountEvents store⟩

-- ---------------------------------------------------------------------------
-- Routing
-- ---------------------------------------------------------------------------

def onPage (s : Site) (r : Request) : Reply :=
  if r.method = "GET" ∨ r.method = "HEAD" then s.showPage r
  else if r.method = "POST" then s.takeForm r
  else quietly (Response.methodNotAllowed "GET,HEAD,POST")

def onPredicate (s : Site) (r : Request) : Reply :=
  if r.method = "GET" ∨ r.method = "HEAD" then s.showPredicate r
  else quietly (Response.methodNotAllowed "GET,HEAD")

def route (s : Site) (r : Request) : Reply :=
  if s.pageRoute.isMatch r.target.path.toList then s.onPage r
  else if s.predicateRoute.isMatch r.target.path.toList then s.onPredicate r
  else quietly (ApiError.missing "Route" r.target.path).toResponse

/-- Responds to a request. A `HEAD` request is answered like a `GET` request, without the body. -/
def respond (s : Site) (r : Request) : Reply :=
  if r.method = "HEAD" then { s.route r with response := (s.route r).response.withoutBody }
  else s.route r

end Site

end HistorySearch
