-- SUMMARY: A predicate is handed off exactly with the redirect that answers its submission.
import HistorySearch.Proofs.Url.Printable
import HistorySearch.Proofs.Web.Outcome
import HistorySearch.Proofs.Web.Redirect

/-!
# Handed-off predicates

Of all the requests that a site answers, those by which a form is submitted and accepted are the
ones for which a predicate is handed off, and they are the ones that are answered by a redirect.
The handoff comes first, so a redirect that could not be sent would leave a search that runs
without its answer. It can always be sent: where it leads is a text that a header may hold.
-/

namespace HistorySearch

theorem Request.isHeaderChar_of_isPrintable {c : Char} (h : isPrintable c) : isHeaderChar c := by
  simp only [isPrintable, Bool.and_eq_true, decide_eq_true_eq] at h
  obtain ⟨hlow, hhigh⟩ := h
  simp only [isHeaderChar, Bool.or_eq_true, Bool.and_eq_true, decide_eq_true_eq]
  exact .inl ⟨hlow, Nat.ne_of_lt hhigh⟩

theorem FormEncoded.isPrintable_write (ps : List Pair) : (write ps).toList.all isPrintable := by
  rw [write, String.toList_ofList]
  refine List.all_eq_true.mpr fun c hc => ?_
  have hwritten := isWritten_of_mem_writeChars hc
  have hlt := Url.isWritten_lt hwritten
  revert hwritten
  exact of_ascii (P := fun c => isWritten c → isPrintable c) (by decide) hlt

namespace Site

/-- A site is the one of settings that are accepted. -/
structure IsOf (s : Site) (c : Config) : Prop where
  accepted : c.problem? = none
  address : c.site = .ok s.address
  made : make? s.address c.basePath = some s

variable {s : Site} {c : Config} {r : Request} {posted : PostedForm} {store : Store}

/-! ## Where redirects lead -/

theorem IsOf.isPrintable_address (h : s.IsOf c) : s.address.path.IsPrintable := by
  have haddress := h.address
  cases hparse : Url.parse c.publicUrl with
  | error e =>
    rw [Config.site, hparse] at haddress
    cases haddress
  | ok u =>
    rw [Config.site, hparse] at haddress
    cases haddress
    exact Url.isPrintable_parse hparse

/-- The store of a request is a URL, whose path is printable if that of the site is. -/
theorem isPrintable_store (haddress : s.address.path.IsPrintable) (h : s.store r = .ok store) :
    ∃ u, store = .url u ∧ u.path.IsPrintable := by
  cases hjoin : s.address.join r.target.reference with
  | error e =>
    rw [Site.store, hjoin] at h
    cases h
  | ok u =>
    rw [Site.store, hjoin] at h
    cases h
    exact ⟨u, rfl, Url.isPrintable_join haddress hjoin⟩

theorem isPrintable_relative_set {u : Url} (h : u.path.IsPrintable) (state : FormState) :
    (relative ((Store.url u).set state.toUpdate)).toList.all isPrintable := by
  have hne := merge_toUpdate_ne_nil u.pairs state
  have hsign : isPrintable '?' := by decide
  have hpath : u.path.toChars.all isPrintable := h
  rw [Store.set, relative, relative_setPairs u hne]
  simp [hpath, hsign, FormEncoded.isPrintable_write]

/-! ## Handoffs and redirects -/

/-- The reply to a request hands off at most one predicate, and one exactly if it is a redirect.
The redirect can be sent. The predicate is the one of the form that the request submits, edited as
it was posted; without such a form, or if that is rejected, there is none. -/
structure HandsOffWithRedirect (s : Site) (r : Request) (reply : Reply) : Prop where
  single : reply.dispatched.length ≤ 1
  redirected : reply.dispatched ≠ [] ↔ reply.response.status = 303
  located : reply.response.status = 303 ↔ ∃ link, reply.response.location = some link
  sendable : ∀ link, reply.response.location = some link → link.toList.all Request.isHeaderChar
  accepted : ∀ p, p ∈ reply.dispatched ↔
    ∃ posted store, s.Takes r posted store ∧ (submitted posted store).validate = .ok p

/-- A quiet reply is right for a request by which no form is submitted that is accepted. -/
theorem handsOff_of_isQuiet
    (hnone : ∀ posted store p, s.Takes r posted store → (submitted posted store).validate ≠ .ok p)
    {reply : Reply} (h : reply.IsQuiet) : s.HandsOffWithRedirect r reply where
  single := by simp [h.dispatched]
  redirected := by simp [h.dispatched, h.stays.status]
  located := by simp [h.stays.status, h.stays.location]
  sendable := by simp [h.stays.location]
  accepted p := by
    rw [h.dispatched]
    refine ⟨fun hp => absurd hp List.not_mem_nil, ?_⟩
    rintro ⟨posted, store, htakes, hvalid⟩
    exact absurd hvalid (hnone posted store p htakes)

/-- A request submits one form on one store. -/
theorem Takes.unique (h : s.Takes r posted store) {other : PostedForm} {seed : Store}
    (hother : s.Takes r other seed) : other = posted ∧ seed = store :=
  ⟨Except.ok.inj (hother.form.symm.trans h.form),
    Except.ok.inj (hother.seeded.symm.trans h.seeded)⟩

/-- The redirect of a form that is accepted is right for the request that submits it. -/
theorem Takes.handsOff_of_accepted (h : s.Takes r posted store)
    (haddress : s.address.path.IsPrintable) {p : Predicate}
    (hvalid : (Site.submitted posted store).validate = .ok p) {reply : Reply}
    (hresponse : reply.response =
      Response.seeOther (relative (store.set (Site.submitted posted store).toUpdate)))
    (hcalls : reply.dispatched = [p]) : s.HandsOffWithRedirect r reply where
  single := by simp [hcalls]
  redirected := by simp [hcalls, hresponse, Response.seeOther]
  located := by simp [hresponse, Response.seeOther]
  sendable link hlink := by
    obtain ⟨u, rfl, hpath⟩ := isPrintable_store haddress h.seeded
    rw [hresponse, Response.seeOther, Option.some.injEq] at hlink
    have hprintable := isPrintable_relative_set hpath (Site.submitted posted (.url u))
    rw [← hlink]
    exact List.all_eq_true.mpr fun c hc =>
      Request.isHeaderChar_of_isPrintable (List.all_eq_true.mp hprintable c hc)
  accepted q := by
    rw [hcalls, List.mem_singleton]
    constructor
    · rintro rfl
      exact ⟨posted, store, h, hvalid⟩
    · rintro ⟨other, seed, hother, hq⟩
      obtain ⟨rfl, rfl⟩ := h.unique hother
      exact Except.ok.inj (hq.symm.trans hvalid)

theorem Takes.handsOff (h : s.Takes r posted store) (haddress : s.address.path.IsPrintable) :
    s.HandsOffWithRedirect r (submitForm posted store) := by
  rcases submitForm_cases posted store with haccepted | hrejected
  · obtain ⟨p, hvalid, hresponse, hcalls⟩ := haccepted
    exact h.handsOff_of_accepted haddress hvalid hresponse hcalls
  · obtain ⟨e, hvalid, hresponse, hcalls⟩ := hrejected
    refine handsOff_of_isQuiet (fun other seed p hother hp => ?_) ⟨hcalls, ?_⟩
    · obtain ⟨rfl, rfl⟩ := h.unique hother
      rw [hvalid] at hp
      cases hp
    · rw [hresponse]
      exact Response.stays_html (by decide) _

/-- Whatever is requested of the site of accepted settings, a predicate is handed off exactly with
a redirect. -/
theorem handoff_is_redirect (h : s.IsOf c) (r : Request) :
    s.HandsOffWithRedirect r (s.respond r) := by
  by_cases htaken : ∃ posted store, s.Takes r posted store
  · obtain ⟨posted, store, htakes⟩ := htaken
    rw [htakes.respond]
    exact htakes.handsOff h.isPrintable_address
  · have hquiet := (takes_or_isQuiet s r).resolve_left htaken
    exact handsOff_of_isQuiet (fun posted store _ htakes => absurd ⟨posted, store, htakes⟩ htaken)
      hquiet

def sampleConfig : Config :=
  { Config.defaults with publicUrl := "https://example.com:8443/x" }

theorem site_sampleConfig : sampleConfig.site = .ok sample.address := by
  have hparse : Url.parse sampleConfig.publicUrl = .ok sample.address := sample_serves.address
  rw [Config.site, hparse]
  rfl

theorem sample_isOf : sample.IsOf sampleConfig where
  accepted := by
    rw [Config.problem?, site_sampleConfig]
    rfl
  address := site_sampleConfig
  made := sample_serves.made

/-- A form that is redirected had its predicate handed off. -/
theorem handoff_is_redirect_leap :
    sample.HandsOffWithRedirect sampleSubmission (sample.respond sampleSubmission) ∧
      (sample.respond sampleSubmission).dispatched ≠ [] := by
  have hreply := handoff_is_redirect sample_isOf sampleSubmission
  exact ⟨hreply, hreply.redirected.mpr (congrArg Response.status response_sampleSubmission)⟩

end Site

end HistorySearch
