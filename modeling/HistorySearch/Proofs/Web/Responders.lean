-- SUMMARY: To what each request of a literal base path is routed.
import HistorySearch.Proofs.Web.Serving

/-!
# Responders

A base path in which nothing has a special meaning is a route that only the path itself matches, and
so is the path of the predicate that is made from it. The two are never the same, since the second is
longer. So every request goes to exactly one responder: by its method if it is for one of the paths,
and to none of the handlers otherwise, however close its path comes to them.
-/

namespace HistorySearch

-- ---------------------------------------------------------------------------
-- Literal paths
-- ---------------------------------------------------------------------------

namespace Route

/-- Nothing in a path has a special meaning: no braces, and no sign at the start of a segment. -/
structure IsLiteral (path : String) : Prop where
  unbraced : ∀ c ∈ path.toList, c ≠ '\x7b' ∧ c ≠ '\x7d'
  unsigned : ∀ seg ∈ path.toList.splitOn '/', seg.head? ≠ some ':' ∧ seg.head? ≠ some '*'

variable {path : String}

theorem IsLiteral.hasRefusedSegment (h : IsLiteral path) :
    hasRefusedSegment path.toList = false := by
  refine List.any_eq_false.mpr fun seg hseg => ?_
  simp [h.unsigned seg hseg]

/-- A literal path gives the route that only the path itself matches. -/
theorem IsLiteral.parse? (h : IsLiteral path) : parse? path = some (literal path.toList) := by
  rw [parse?_of_unbraced h.unbraced, h.hasRefusedSegment]
  rfl

end Route

-- ---------------------------------------------------------------------------
-- Responders
-- ---------------------------------------------------------------------------

/-- What a request may be routed to. -/
inductive Responder
  | page
  | submission
  | predicate
  /-- The refusal of a method on a path that has others. -/
  | refusal (allow : String)
  | missing
  deriving DecidableEq

namespace Responder

def reply (s : Site) (r : Request) : Responder → Reply
  | page => s.showPage r
  | submission => s.takeForm r
  | predicate => s.showPredicate r
  | refusal allow => Site.quietly (Response.methodNotAllowed allow)
  | missing => Site.quietly (ApiError.missing "Route" r.target.path).toResponse

end Responder

/-- The reply as it is sent: a `HEAD` request is sent no body. -/
def Reply.sent (reply : Reply) (method : String) : Reply :=
  if method = "HEAD" then { reply with response := reply.response.withoutBody } else reply

/-- Which responder a request for a site with this base path goes to. -/
inductive Request.GoesTo (r : Request) (basePath : String) : Responder → Prop
  | page (hpath : r.target.path = basePath) (hmethod : r.method = "GET" ∨ r.method = "HEAD") :
    GoesTo r basePath .page
  | submission (hpath : r.target.path = basePath) (hmethod : r.method = "POST") :
    GoesTo r basePath .submission
  | pageRefusal (hpath : r.target.path = basePath)
    (hmethod : r.method ∉ ["GET", "HEAD", "POST"]) :
    GoesTo r basePath (.refusal "GET,HEAD,POST")
  | predicate (hpath : r.target.path = Site.predicatePath basePath)
    (hmethod : r.method = "GET" ∨ r.method = "HEAD") :
    GoesTo r basePath .predicate
  | predicateRefusal (hpath : r.target.path = Site.predicatePath basePath)
    (hmethod : r.method ∉ ["GET", "HEAD"]) :
    GoesTo r basePath (.refusal "GET,HEAD")
  | missing (hpage : r.target.path ≠ basePath)
    (hpredicate : r.target.path ≠ Site.predicatePath basePath) :
    GoesTo r basePath .missing

namespace Request

variable {r : Request} {basePath : String} {who who' : Responder}

theorem ne_predicatePath (path : String) : path ≠ Site.predicatePath path :=
  ne_of_apply_ne String.toList (Site.predicatePath_ne path)

theorem exists_goesTo (r : Request) (basePath : String) : ∃ who, r.GoesTo basePath who := by
  by_cases hpage : r.target.path = basePath
  · by_cases hshown : r.method = "GET" ∨ r.method = "HEAD"
    · exact ⟨_, .page hpage hshown⟩
    by_cases hposted : r.method = "POST"
    · exact ⟨_, .submission hpage hposted⟩
    · exact ⟨_, .pageRefusal hpage (by simp_all)⟩
  by_cases hpredicate : r.target.path = Site.predicatePath basePath
  · by_cases hshown : r.method = "GET" ∨ r.method = "HEAD"
    · exact ⟨_, .predicate hpredicate hshown⟩
    · exact ⟨_, .predicateRefusal hpredicate (by simpa using hshown)⟩
  · exact ⟨_, .missing hpage hpredicate⟩

/-- No request goes to two responders. -/
theorem GoesTo.unique (h : r.GoesTo basePath who) (h' : r.GoesTo basePath who') : who = who' := by
  have hpaths := ne_predicatePath basePath
  -- Responders of one path differ in the method, and the two paths are not the same.
  cases h <;> cases h' <;> simp_all

end Request

namespace Site

variable {s : Site} {c : Config} {r : Request} {basePath : String} {who : Responder}

/-- A site of two literal paths gives the reply of the responder that a request goes to. -/
theorem route_of_goesTo (hpage : s.pageRoute = Route.literal basePath.toList)
    (hpredicate : s.predicateRoute = Route.literal (predicatePath basePath).toList)
    (h : r.GoesTo basePath who) : s.route r = who.reply s r := by
  have hmatch (path path' : String) :
      (Route.literal path.toList).isMatch path'.toList = decide (path = path') := by
    rw [Route.isMatch_literal]
    exact decide_eq_decide.mpr String.toList_inj
  have hother : basePath ≠ predicatePath basePath := Request.ne_predicatePath basePath
  rw [route, hpage, hpredicate, hmatch, hmatch]
  cases h with
  | page hpath hmethod =>
    rw [hpath, if_pos (decide_eq_true rfl), onPage, if_pos hmethod]
    rfl
  | submission hpath hmethod =>
    have hshown : ¬(r.method = "GET" ∨ r.method = "HEAD") := by
      rw [hmethod]
      decide
    rw [hpath, if_pos (decide_eq_true rfl), onPage, if_neg hshown, if_pos hmethod]
    rfl
  | pageRefusal hpath hmethod =>
    simp only [List.mem_cons, List.not_mem_nil, or_false, not_or] at hmethod
    obtain ⟨hget, hhead, hpost⟩ := hmethod
    rw [hpath, if_pos (decide_eq_true rfl), onPage, if_neg (not_or.mpr ⟨hget, hhead⟩),
      if_neg hpost]
    rfl
  | predicate hpath hmethod =>
    rw [hpath, if_neg (by simpa using hother), if_pos (decide_eq_true rfl), onPredicate,
      if_pos hmethod]
    rfl
  | predicateRefusal hpath hmethod =>
    simp only [List.mem_cons, List.not_mem_nil, or_false] at hmethod
    rw [hpath, if_neg (by simpa using hother), if_pos (decide_eq_true rfl), onPredicate,
      if_neg hmethod]
    rfl
  | missing hpage hpredicate =>
    rw [if_neg (by simpa using hpage.symm), if_neg (by simpa using hpredicate.symm)]
    rfl

/-- Accepted settings have a site if their base path is a route. -/
theorem exists_isOf (h : c.problem? = none)
    (hroute : ∃ route, Route.parse? c.basePath = some route) : ∃ s : Site, s.IsOf c := by
  obtain ⟨⟨u, hu⟩, _⟩ := Config.of_accepted h
  obtain ⟨s, hmade⟩ := (exists_make?_iff u c.basePath).mpr hroute
  have haddress : s.address = u := by
    obtain ⟨route, _, rfl⟩ := Option.map_eq_some_iff.mp hmade
    rfl
  subst haddress
  exact ⟨s, h, hu, hmade⟩

end Site

-- ---------------------------------------------------------------------------
-- Paths beside those that are served
-- ---------------------------------------------------------------------------

/-- A path that comes close to one of a site with this base path. -/
inductive IsBeside (basePath : String) : String → Prop
  | slashedPage : IsBeside basePath (basePath ++ "/")
  | slashedPredicate : IsBeside basePath (Site.predicatePath basePath ++ "/")
  /-- A part of the path of the page. -/
  | within {path : String} (h : path.toList <+: basePath.toList) (hne : path ≠ basePath) :
    IsBeside basePath path
  /-- The path of the predicate and more. -/
  | beyond {path : String} (h : (Site.predicatePath basePath).toList <+: path.toList)
    (hne : path ≠ Site.predicatePath basePath) : IsBeside basePath path

theorem length_lt_of_isPrefix {path longer : String} (h : path.toList <+: longer.toList)
    (hne : path ≠ longer) : path.length < longer.length := by
  have hle : path.toList.length ≤ longer.toList.length := h.length_le
  refine lt_of_le_of_ne hle fun heq => hne ?_
  exact String.toList_inj.mp (h.eq_of_length heq)

/-- Neither of the two paths is as long as one beside them. -/
theorem IsBeside.ne {basePath path : String} (h : IsBeside basePath path) :
    path ≠ basePath ∧ path ≠ Site.predicatePath basePath := by
  have hpredicate : (Site.predicatePath basePath).length = 4 + basePath.length + 10 := by
    rw [Site.predicatePath, String.length_append, String.length_append]
    rfl
  have hslash : "/".length = 1 := rfl
  suffices hlength : path.length < basePath.length ∨ path.length = basePath.length + 1 ∨
      (Site.predicatePath basePath).length < path.length by
    constructor
    · refine ne_of_apply_ne String.length ?_
      omega
    · refine ne_of_apply_ne String.length ?_
      omega
  cases h with
  | slashedPage =>
    rw [String.length_append]
    exact .inr (.inl rfl)
  | slashedPredicate =>
    rw [String.length_append]
    exact .inr (.inr (Nat.lt_succ_self _))
  | within h hne => exact .inl (length_lt_of_isPrefix h hne)
  | beyond h hne => exact .inr (.inr (length_lt_of_isPrefix h (Ne.symm hne)))

-- ---------------------------------------------------------------------------
-- Exact routing
-- ---------------------------------------------------------------------------

/-- A site responds to each request as the one responder that it goes to does. Refused methods and
paths that are not served have no effect. -/
structure Site.RoutesExactly (s : Site) (basePath : String) : Prop where
  unique (r : Request) : ∃! who, r.GoesTo basePath who
  responds (r : Request) (who : Responder) :
    r.GoesTo basePath who → s.respond r = (who.reply s r).sent r.method
  refused (r : Request) (allow : String) : r.GoesTo basePath (.refusal allow) →
    (s.respond r).response = Response.methodNotAllowed allow ∧
      (s.respond r).dispatched = [] ∧ (s.respond r).events = []
  missing (r : Request) : r.GoesTo basePath .missing →
    (s.respond r).response.status = 404 ∧
      (s.respond r).dispatched = [] ∧ (s.respond r).events = []
  beside (r : Request) : IsBeside basePath r.target.path → r.GoesTo basePath .missing

theorem Reply.sent_quietly (response : Response) (method : String) :
    (Site.quietly response).sent method =
      Site.quietly (if method = "HEAD" then response.withoutBody else response) := by
  unfold sent
  split_ifs
  · rfl
  · rfl

namespace Config

variable {c : Config}

/-- Accepted settings with a literal base path have a site, and it routes exactly. -/
theorem routes_exactly (h : c.problem? = none) (hliteral : Route.IsLiteral c.basePath) :
    (∃ s : Site, s.IsOf c) ∧ ∀ s : Site, s.IsOf c → s.RoutesExactly c.basePath := by
  refine ⟨Site.exists_isOf h ⟨_, hliteral.parse?⟩, fun s hs => ?_⟩
  obtain ⟨hpage, hpredicate⟩ := Site.routes_of_make? hs.made hliteral.parse?
  have hresponds {r : Request} {who : Responder} (hgoes : r.GoesTo c.basePath who) :
      s.respond r = (who.reply s r).sent r.method :=
    congrArg (Reply.sent · r.method) (Site.route_of_goesTo hpage hpredicate hgoes)
  constructor
  case unique =>
    intro r
    obtain ⟨who, hgoes⟩ := r.exists_goesTo c.basePath
    exact ⟨who, hgoes, fun who' hgoes' => hgoes'.unique hgoes⟩
  case responds => exact fun r who => hresponds
  case refused =>
    intro r allow hgoes
    rw [hresponds hgoes, Responder.reply, Reply.sent_quietly]
    exact ⟨ite_self (Response.methodNotAllowed allow), rfl, rfl⟩
  case missing =>
    intro r hgoes
    rw [hresponds hgoes, Responder.reply, Reply.sent_quietly]
    refine ⟨?_, rfl, rfl⟩
    split_ifs
    · rfl
    · rfl
  case beside =>
    intro r hbeside
    obtain ⟨hpage, hpredicate⟩ := hbeside.ne
    exact .missing hpage hpredicate

/-- Settings with the root as their base path. -/
def rooted : Config :=
  { defaults with basePath := "/" }

/-- Two slashes are in the path of the predicate then, but they are not the page. -/
theorem routes_exactly_rooted :
    ∃ s : Site, s.IsOf rooted ∧
      (∀ r : Request, r.target.path = "/api//predicate" → r.method = "GET" →
        s.respond r = s.showPredicate r) ∧
      ∀ r : Request, r.target.path = "//" → (s.respond r).response.status = 404 := by
  have haccepted : rooted.problem? = none := by decide +kernel
  have hliteral : Route.IsLiteral rooted.basePath :=
    ⟨List.forall_mem_singleton.mpr (by decide), by decide +kernel⟩
  obtain ⟨⟨s, hs⟩, hroutes⟩ := routes_exactly haccepted hliteral
  refine ⟨s, hs, fun r hpath hmethod => ?_, fun r hpath => ?_⟩
  · have hresponds := (hroutes s hs).responds r _ (.predicate hpath (.inl hmethod))
    rwa [hmethod] at hresponds
  · refine ((hroutes s hs).missing r ((hroutes s hs).beside r ?_)).1
    rw [hpath]
    exact .slashedPage

end Config

end HistorySearch
