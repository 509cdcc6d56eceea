-- SUMMARY: Which of the settings that are accepted can serve their search page.
import HistorySearch.Proofs.Web.Handoff

/-!
# Settings that can serve

Settings are accepted if their public URL is read and their base path starts with a slash and does
not end in one. Routes and references have rules of their own: not every such path is a route, and
against a URL without a hierarchy no request is resolved. Of the accepted settings with a regular
path these are the ones that cannot serve.
-/

namespace HistorySearch

namespace Url

/-! ## References within a site -/

/-- A reference that starts with a query or with the one slash of a path. -/
inductive IsLocal : List Char → Prop
  | query (cs : List Char) : IsLocal ('?' :: cs)
  | path {cs : List Char} (h : ∀ c ∈ cs.head?, c ≠ '/' ∧ c ≠ '\\') : IsLocal ('/' :: cs)

theorem exists_readRelative (b : Url) {cs : List Char} (h : IsLocal cs) :
    ∃ v, readRelative b cs = .ok v := by
  cases h with
  | query cs => exact ⟨_, rfl⟩
  | @path rest hsingle =>
    have hslashes : rest.takeWhile (fun c => c = '/' || c = '\\') = [] := by
      cases rest with
      | nil => rfl
      | cons c cs => simp [hsingle c rfl]
    refine ⟨readPathOnto b ⟨[], false⟩ rest, ?_⟩
    simp [readRelative, hslashes]

theorem exists_readFile (b : Url) (whole : List Char) {cs : List Char} (h : IsLocal cs) :
    ∃ v, readFile (some b) whole cs = .ok v := by
  cases h with
  | query cs => exact ⟨_, rfl⟩
  | @path rest hsingle =>
    cases rest with
    | nil => exact ⟨_, rfl⟩
    | cons c cs =>
      have hfirst : SchemeKind.isSeparator .file '/' = true := rfl
      have hsecond : SchemeKind.isSeparator .file c = false := by
        simp [SchemeKind.isSeparator, hsingle c rfl]
      simp only [readFile, hfirst, hsecond]
      exact ⟨_, rfl⟩

/-- A reference within a site is resolved against every URL with a hierarchy, and no other. -/
theorem exists_join_iff {u : Url} {text : String} (h : IsLocal text.toList)
    (hvisible : ∀ c ∈ text.toList, 0x20 < c.toNat) :
    (∃ v, u.join text = .ok v) ↔ u.isRootless = false := by
  rw [join, trim_eq_self hvisible, readChars, Path.visible_eq_self hvisible]
  generalize text.toList = cs at h
  have hscheme : splitScheme? cs = none := by
    cases h with
    | query rest =>
      rw [splitScheme?]
      exact if_neg (by decide)
    | path _ => exact splitScheme?_slash _
  have hfragment : cs.head? ≠ some '#' := by
    cases h <;> simp
  simp only [hscheme, if_neg hfragment]
  cases hrootless : u.isRootless with
  | true => simp
  | false =>
    simp only [Bool.false_eq_true, if_false, iff_true]
    split
    · exact exists_readFile u cs h
    · exact exists_readRelative u h

end Url

/-- What is routed by a path with one slash in front is resolved as a reference within the site. -/
theorem RequestTarget.isLocal_reference {text : String} {t : RequestTarget}
    (h : read text = some t) {rest : List Char} (hpath : t.path.toList = '/' :: rest)
    (hsingle : ∀ c ∈ rest.head?, c ≠ '/' ∧ c ≠ '\\') :
    Url.IsLocal t.reference.toList ∧ ∀ c ∈ t.reference.toList, 0x20 < c.toNat := by
  rcases cases_of_read h with rfl | rfl | ⟨path, query, hchars, hquery, rfl⟩
  · simp at hpath
  · simp at hpath
  · have hvisible : ∀ c ∈ path ++ query, 0x20 < c.toNat := by
      intro c hc
      rcases List.mem_append.mp hc with hc | hc
      · have hchar := hchars c hc
        simp only [isPathChar, Bool.and_eq_true, decide_eq_true_eq] at hchar
        exact hchar.1.1
      · exact Url.visible_of_isQueryPart hquery c hc
    by_cases hnil : path = []
    · -- Without a path the root is routed, and the query is resolved on its own.
      subst hnil
      rcases hquery with rfl | ⟨ds, rfl, _⟩
      · refine ⟨.path (by simp), fun c hc => ?_⟩
        obtain rfl := List.mem_singleton.mp hc
        decide
      · simpa [orRoot] using And.intro (Url.IsLocal.query ds) hvisible
    · have hsame : path = '/' :: rest := by simpa [orRoot, hnil] using hpath
      have hreference : (orRoot (path ++ query)).toList = path ++ query := by simp [orRoot, hnil]
      simp only [hreference]
      refine ⟨?_, hvisible⟩
      rw [hsame, List.cons_append]
      refine .path fun c hc => ?_
      cases rest with
      | cons d ds => exact hsingle c hc
      | nil =>
        have hsign := Url.endsPath_of_isQueryPart hquery c hc
        constructor <;> rintro rfl <;> exact absurd hsign (by decide)

/-! ## Settings -/

/-- A request that was read is for the search page of the settings. -/
structure Request.AsksForPage (r : Request) (c : Config) : Prop where
  read : ∃ text, RequestTarget.read text = some r.target
  method : r.method = "GET"
  path : r.target.path = c.basePath

/-- A request is answered by the search page that the URL of the request fills. -/
def Site.ShowsPage (s : Site) (r : Request) : Prop :=
  ∃ u, s.address.join r.target.reference = .ok u ∧
    (s.respond r).response =
      Response.html 200
        (Page.render (Form.mount (.url u)).state (Form.mount (.url u)).errors u.relative)

namespace Config

/-- Settings have a site, and it shows its search page whenever it is asked for it. -/
def CanServe (c : Config) : Prop :=
  ∃ s : Site, s.IsOf c ∧ ∀ r : Request, r.AsksForPage c → s.ShowsPage r

/-- The base path matches itself if it is a route, and on its own it is not an authority. -/
structure HasRegularPath (c : Config) : Prop where
  regular : Route.IsRegular c.basePath.toList
  single : ∀ ch ∈ (c.basePath.toList.drop 1).head?, ch ≠ '/' ∧ ch ≠ '\\'

def HasHierarchy (c : Config) : Prop :=
  ∃ u, c.site = .ok u ∧ u.isRootless = false

variable {c : Config}

/-- What accepted settings are known to satisfy. -/
theorem of_accepted (h : c.problem? = none) :
    (∃ u, c.site = .ok u) ∧ ∃ rest, c.basePath.toList = '/' :: rest := by
  unfold problem? at h
  split at h
  · contradiction
  split at h
  · contradiction
  split at h
  · exact ⟨⟨_, ‹_›⟩, _, ‹_›⟩
  · contradiction

/-- A plain path is regular. -/
theorem hasRegularPath_of_plain (h : Path.IsPlain c.basePath) : c.HasRegularPath := by
  obtain ⟨rest, hrooted⟩ := h.isRooted
  have hplain := Route.not_isSpecial_of_rooted hrooted
  refine ⟨Route.isRegular_of_unbraced (Route.unbraced_of_plain hplain), fun ch hch => ?_⟩
  rw [hrooted.toList_eq] at hch
  refine ⟨fun hslash => hrooted.single (hslash ▸ hch), ?_⟩
  exact (Path.visible_of_isLetterOrSlash (hrooted.letters ch (List.mem_of_mem_head? hch))).2.2.2

end Config

namespace Site

variable {c : Config} {s : Site} {r : Request}

theorem exists_make?_iff (address : Url) (basePath : String) :
    (∃ s, make? address basePath = some s) ↔ ∃ route, Route.parse? basePath = some route := by
  simp [make?]

/-- The regular path of a site is routed to its page. -/
theorem IsOf.isMatch_basePath (h : s.IsOf c) (hregular : Route.IsRegular c.basePath.toList) :
    s.pageRoute.isMatch c.basePath.toList := by
  obtain ⟨route, hroute, hs⟩ := Option.map_eq_some_iff.mp h.made
  rw [← hs]
  exact Route.isMatch_parse? hregular hroute

/-- On its route the page is shown if the request is resolved. -/
theorem showsPage_iff_of_isMatch (hmethod : r.method = "GET")
    (hroute : s.pageRoute.isMatch r.target.path.toList) :
    s.ShowsPage r ↔ ∃ u, s.address.join r.target.reference = .ok u := by
  refine ⟨fun ⟨u, hu, _⟩ => ⟨u, hu⟩, fun ⟨u, hu⟩ => ⟨u, hu, ?_⟩⟩
  have hstore : s.store r = .ok (.url u) := by
    rw [Site.store, hu]
    rfl
  have hother : r.method ≠ "HEAD" := by
    rw [hmethod]
    decide
  rw [respond, if_neg hother, route, if_pos hroute, onPage, if_pos (.inl hmethod), showPage]
  simp only [hstore, relative]

theorem IsOf.showsPage_iff (h : s.IsOf c) (hpath : c.HasRegularPath) (hr : r.AsksForPage c) :
    s.ShowsPage r ↔ s.address.isRootless = false := by
  obtain ⟨_, rest, hrooted⟩ := Config.of_accepted h.accepted
  obtain ⟨text, hread⟩ := hr.read
  have hsingle := hpath.single
  have hroute := h.isMatch_basePath hpath.regular
  rw [hrooted] at hsingle
  rw [← hr.path] at hrooted hroute
  obtain ⟨hlocal, hvisible⟩ := RequestTarget.isLocal_reference hread hrooted hsingle
  rw [showsPage_iff_of_isMatch hr.method hroute, Url.exists_join_iff hlocal hvisible]

end Site

namespace Config

variable {c : Config}

/-- Accepted settings with a regular path can serve exactly if the path is a route and, as far as
requests for the page are possible, the public URL has a hierarchy. -/
theorem canServe_iff (h : c.problem? = none) (hpath : c.HasRegularPath) :
    c.CanServe ↔
      (∃ route, Route.parse? c.basePath = some route) ∧
        ∀ r : Request, r.AsksForPage c → c.HasHierarchy := by
  constructor
  · rintro ⟨s, hs, hserves⟩
    refine ⟨(Site.exists_make?_iff s.address c.basePath).mp ⟨s, hs.made⟩, fun r hr => ?_⟩
    exact ⟨s.address, hs.address, (hs.showsPage_iff hpath hr).mp (hserves r hr)⟩
  · rintro ⟨hroute, hbase⟩
    obtain ⟨⟨u, hu⟩, _⟩ := of_accepted h
    obtain ⟨s, hmade⟩ := (Site.exists_make?_iff u c.basePath).mpr hroute
    have haddress : s.address = u := by
      obtain ⟨route, _, rfl⟩ := Option.map_eq_some_iff.mp hmade
      rfl
    subst haddress
    have hs : s.IsOf c := ⟨h, hu, hmade⟩
    refine ⟨s, hs, fun r hr => (hs.showsPage_iff hpath hr).mpr ?_⟩
    obtain ⟨v, hv, hrooted⟩ := hbase r hr
    obtain rfl := Except.ok.inj (hu.symm.trans hv)
    exact hrooted

/-- Settings with a parameter in the base path. -/
def parameterized : Config :=
  { Site.sampleConfig with basePath := "/\x7bsite\x7d/history" }

/-- A request in which the parameter stands for itself. -/
def parameterizedRequest : Request :=
  ⟨"GET", ⟨"/\x7bsite\x7d/history", "/\x7bsite\x7d/history"⟩, none, []⟩

theorem canServe_parameterized :
    parameterized.CanServe ∧ parameterizedRequest.AsksForPage parameterized := by
  have hsite : parameterized.site = .ok Site.sample.address := by
    have hsample := Site.site_sampleConfig
    rw [site] at hsample ⊢
    exact hsample
  have haccepted : parameterized.problem? = none := by
    rw [problem?, hsite]
    decide +kernel
  have hpath : parameterized.HasRegularPath :=
    ⟨⟨by decide +kernel, by decide +kernel, by decide +kernel⟩, by simp [parameterized]⟩
  have hroute : (Route.parse? parameterized.basePath).isSome := by decide +kernel
  refine ⟨(canServe_iff haccepted hpath).mpr ⟨Option.isSome_iff_exists.mp hroute, ?_⟩, ?_, rfl, rfl⟩
  · exact fun _ _ => ⟨Site.sample.address, hsite, rfl⟩
  · exact ⟨parameterizedRequest.target.path, by decide +kernel⟩

/-- Settings of which the path is no route. -/
def unrouted : Config :=
  { defaults with basePath := "/:tokens" }

/-- Settings of which the public URL has no hierarchy. -/
def unbased : Config :=
  { defaults with publicUrl := "mailto:tokens" }

/-- Both are accepted, but there is no site of the first, and that of the second does not show its
page. -/
theorem not_canServe_of_accepted :
    (unrouted.problem? = none ∧ ¬unrouted.CanServe) ∧
      (unbased.problem? = none ∧ ¬unbased.CanServe) := by
  have hsite : unbased.site = .ok ⟨"mailto", none, .rootless "tokens", none, none⟩ := by
    decide +kernel
  refine ⟨⟨by decide +kernel, ?_⟩, by decide +kernel, ?_⟩
  · rintro ⟨s, hs, _⟩
    obtain ⟨route, hroute⟩ := (Site.exists_make?_iff _ _).mp ⟨s, hs.made⟩
    have hnone : Route.parse? unrouted.basePath = none := by decide +kernel
    rw [hnone] at hroute
    contradiction
  · rintro ⟨s, hs, hserves⟩
    have hr : (Site.sampleRequest "GET" "/tokens/history" []).AsksForPage unbased :=
      ⟨(Site.isFor_samplePage "GET" []).read, rfl, rfl⟩
    have hpath : unbased.HasRegularPath := hasRegularPath_of_plain Site.sample_serves.plain
    have hrooted := (hs.showsPage_iff hpath hr).mp (hserves _ hr)
    rw [← Except.ok.inj (hsite.symm.trans hs.address)] at hrooted
    contradiction

end Config

end HistorySearch
