-- SUMMARY: Responses, and the errors that become responses.
import HistorySearch.Search.Exchange
import HistorySearch.Url.Error

/-!
# Responses

An answer for programs is an object that says whether the request succeeded, with either its data
or its error.
-/

namespace HistorySearch

/-- A response with the headers that matter here. -/
structure Response where
  status : Nat
  contentType : Option String := none
  location : Option String := none
  allow : Option String := none
  body : String := ""
  deriving DecidableEq

namespace Response

def html (status : Nat) (body : String) : Response :=
  { status := status, contentType := some "text/html; charset=utf-8", body := body }

def plain (status : Nat) (body : String) : Response :=
  { status := status, contentType := some "text/plain; charset=utf-8", body := body }

def json (status : Nat) (body : Json) : Response :=
  { status := status, contentType := some "application/json", body := body.compact }

/-- A redirect after a post. -/
def seeOther (location : String) : Response :=
  { status := 303, location := some location }

/-- The answer to a method that a path does not have. -/
def methodNotAllowed (allow : String) : Response :=
  { status := 405, allow := some allow }

/-- The response to a request for the headers alone. -/
def withoutBody (r : Response) : Response :=
  { r with body := "" }

end Response

/-! ## Data -/

/-- A predicate together with its query text, as the data of an answer. -/
def Predicate.toData (p : Predicate) : Json :=
  Json.ofMembers [("predicate", p.toJson), ("query", Json.ofText p.toQuery)]

def Json.success (data : Json) : Json :=
  Json.ofMembers [("success", .bool true), ("data", data)]

def Json.failure (message : String) (details : List (String × Json)) : Json :=
  Json.ofMembers ([("success", .bool false), ("error", Json.ofText message)] ++ details)

/-! ## Errors -/

/-- Why a request has no proper answer. -/
inductive ApiError
  | notFound (what : String)
  | invalid (reason : String)
  | invalidFields (errors : FieldErrors)
  deriving DecidableEq

namespace ApiError

def missing (resource id : String) : ApiError :=
  notFound (resource ++ " " ++ id ++ " not found")

def ofUrl (e : UrlError) : ApiError :=
  invalid ("Invalid request URL: " ++ e.message)

def message : ApiError → String
  | notFound what => "Not found: " ++ what
  | invalid reason => "Validation error: " ++ reason
  | invalidFields errors => "Validation error: " ++ errors.message

def toResponse : ApiError → Response
  | notFound what => Response.json 404 (Json.failure what [])
  | invalid reason => Response.json 400 (Json.failure reason [])
  | invalidFields errors =>
    Response.json 422 (Json.failure errors.message [("field_errors", errors.toJson)])

end ApiError

end HistorySearch
