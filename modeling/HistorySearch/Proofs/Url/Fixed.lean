-- SUMMARY: A web URL with an ASCII host is read as it is written.
import HistorySearch.Proofs.Url.Host
import HistorySearch.Proofs.Url.Reference
import HistorySearch.Proofs.Url.SamePlace

/-!
# URLs that are read as they are written

What is read of a text is written in normal form. If the host in the text is of ASCII characters
without percent signs, then every part of the URL is read again as it stands in the normal form, so
that the URL gives a text that is read as the same URL.
-/

namespace HistorySearch

/-! ## Authorities -/

/-- An authority of which every part is read as it is written. -/
structure Authority.IsSettled (scheme : String) (a : Authority) : Prop where
  username : ∀ c ∈ a.username.toList, Url.isUserPlain c
  password : ∀ c ∈ a.password.toList, Url.isUserPlain c
  host : a.host.IsSettled
  port : ∀ p ∈ a.port, p ≤ 65535 ∧ Url.defaultPort? scheme ≠ some p

/-- The user name and the password, without the sign after them. -/
def Authority.userText (a : Authority) : List Char :=
  a.username.toList ++ if a.password = "" then [] else ':' :: a.password.toList

def Authority.portChars (a : Authority) : List Char :=
  match a.port with
  | some port => ':' :: Decimal.digits port
  | none => []

namespace Url

variable {scheme : String} {cs left : List Char}

theorem isUserPlain_readUser (cs : List Char) :
    (∀ c ∈ (readUser cs).1.toList, isUserPlain c) ∧
      ∀ c ∈ (readUser cs).2.toList, isUserPlain c := by
  constructor <;> intro c hc <;> rw [readUser, String.toList_ofList] at hc <;>
    exact Percent.keep_of_mem_encode (by decide) hc

/-- A user name and a password that need no encoding are read as they are. -/
theorem readUser_append {username password : String}
    (husername : ∀ c ∈ username.toList, isUserPlain c)
    (hpassword : ∀ c ∈ password.toList, isUserPlain c) :
    readUser (username.toList ++ if password = "" then [] else ':' :: password.toList) =
      (username, password) := by
  have hcolon : ∀ c ∈ username.toList, decide (c ≠ ':') := fun c hc =>
    decide_eq_true (ne_of_holds (husername c hc) (by decide))
  have hrest : ∀ c ∈ (if password = "" then [] else ':' :: password.toList).head?,
      decide (c ≠ ':') = false := by
    split <;> simp
  obtain ⟨htake, hdrop⟩ := takeWhile_dropWhile_append hcolon hrest
  rw [readUser, htake, hdrop]
  simp only [Percent.encode_eq_self husername, String.ofList_toList]
  split
  · rename_i hempty
    rw [hempty]
    rfl
  · rw [List.drop_one, List.tail_cons, Percent.encode_eq_self hpassword, String.ofList_toList]

/-- Without the sign there is no user information. -/
theorem splitUser?_of_not_mem (h : '@' ∉ cs) : splitUser? cs = none := by
  have hall : cs.reverse.takeWhile (· ≠ '@') = cs.reverse := by
    refine List.takeWhile_eq_self_iff.mpr fun c hc => decide_eq_true ?_
    rintro rfl
    exact h (List.mem_reverse.mp hc)
  rw [splitUser?, hall]
  simp

theorem splitUser?_append {user rest : List Char} (h : '@' ∉ rest) :
    splitUser? (user ++ '@' :: rest) = some (user, rest) := by
  have hrest : ∀ c ∈ rest.reverse, decide (c ≠ '@') := by
    intro c hc
    refine decide_eq_true ?_
    rintro rfl
    exact h (List.mem_reverse.mp hc)
  have hafter : (user ++ '@' :: rest).reverse.takeWhile (· ≠ '@') = rest.reverse := by
    have hreverse : (user ++ '@' :: rest).reverse = rest.reverse ++ '@' :: user.reverse := by simp
    rw [hreverse]
    exact (takeWhile_dropWhile_append hrest (by simp)).1
  have hlength : (user ++ '@' :: rest).length - rest.reverse.length - 1 = user.length := by
    simp only [List.length_append, List.length_cons, List.length_reverse]
    omega
  rw [splitUser?, hafter, hlength, List.take_left, List.reverse_reverse, if_neg]
  simp only [List.length_append, List.length_cons, List.length_reverse]
  omega

theorem of_readPort {port : Option Nat} (h : readPort scheme cs = .ok (port, left)) :
    ∀ p ∈ port, p ≤ 65535 ∧ defaultPort? scheme ≠ some p := by
  unfold readPort at h
  split at h
  · dsimp only at h
    split at h
    · contradiction
    · rename_i hvalid
      cases h
      intro p hp
      split at hp
      · contradiction
      · rename_i hgiven
        obtain rfl := Option.some.inj hp
        exact ⟨by omega, fun hdefault => hgiven (.inr hdefault)⟩
  · cases h
    simp

theorem readPort_portChars {a : Authority}
    (h : ∀ p ∈ a.port, p ≤ 65535 ∧ defaultPort? scheme ≠ some p) :
    readPort scheme a.portChars = .ok (a.port, []) := by
  unfold Authority.portChars
  cases hport : a.port with
  | none => rfl
  | some p =>
    obtain ⟨hsmall, hgiven⟩ := h p hport
    have hdigits : ∀ c ∈ Decimal.digits p, Decimal.isDigit c := fun _ =>
      Decimal.isDigit_of_mem_digits
    have htake : (Decimal.digits p).takeWhile Decimal.isDigit = Decimal.digits p :=
      List.takeWhile_eq_self_iff.mpr hdigits
    have hdrop : (Decimal.digits p).dropWhile Decimal.isDigit = [] :=
      List.dropWhile_eq_nil_iff.mpr hdigits
    have hne : Decimal.digits p ≠ [] := Nat.toDigits_ne_nil
    simp [readPort, htake, hdrop, Decimal.value_digits, hne, hgiven]
    omega

/-- The host of a web URL is what stands before the port. -/
theorem of_readHostPort {hasUser : Bool} {host : Host} {port : Option Nat}
    (h : readHostPort .web scheme hasUser cs = .ok (host, port, left)) :
    Host.parseWeb (hostChars false cs) = .ok host ∧
      ∀ p ∈ port, p ≤ 65535 ∧ defaultPort? scheme ≠ some p := by
  unfold readHostPort at h
  dsimp only at h
  split at h
  · contradiction
  · rw [if_neg (by decide)] at h
    obtain ⟨_, hhost, h⟩ := ok_of_bind h
    obtain ⟨⟨_, rest⟩, hport, h⟩ := ok_of_bind h
    split at h
    · contradiction
    · cases h
      exact ⟨hhost, of_readPort hport⟩

theorem readHostPort_chars {a : Authority} (h : a.IsSettled scheme) (hasUser : Bool) :
    readHostPort .web scheme hasUser (a.host.toChars ++ a.portChars) =
      .ok (a.host, a.port, []) := by
  have hcolon : ∀ c ∈ a.portChars.head?, c = ':' := by
    unfold Authority.portChars
    split <;> simp [eq_comm]
  have hne := h.host.toChars_ne_nil
  have hnone : a.host ≠ .none := by
    intro hnone
    rw [hnone] at hne
    exact hne rfl
  have hport : readPort scheme a.portChars = .ok (a.port, []) := readPort_portChars h.port
  unfold readHostPort
  dsimp only
  rw [h.host.whole _ hcolon, List.drop_left, if_neg (by simp [hne]), if_neg (by decide),
    h.host.reads, hport]
  simp only [bind, Except.bind, hnone]
  rfl

/-! ## Whole authorities -/

/-- The host in the text of an authority. -/
def hostText (cs : List Char) : List Char :=
  hostChars false
    (match splitUser? cs with
    | some (_, rest) => rest
    | none => cs)

theorem isSettled_of_readAuthority {ended : Bool} {a : Authority}
    (hhost : ∀ c ∈ hostText cs, c.toNat < 0x80 ∧ c ≠ '%')
    (h : readAuthority .web scheme cs ended = .ok (a, left)) : a.IsSettled scheme := by
  unfold hostText at hhost
  unfold readAuthority at h
  split at h
  · rename_i hsplit
    rw [hsplit] at hhost
    obtain ⟨⟨host, port, _⟩, hread, h⟩ := ok_of_bind h
    cases h
    obtain ⟨hparse, hport⟩ := of_readHostPort hread
    exact ⟨by simp, by simp, Host.isSettled_of_parseWeb hhost hparse, hport⟩
  · rename_i user rest hsplit
    rw [hsplit] at hhost
    dsimp only at h
    split at h
    · contradiction
    · obtain ⟨⟨host, port, _⟩, hread, h⟩ := ok_of_bind h
      cases h
      obtain ⟨hparse, hport⟩ := of_readHostPort hread
      obtain ⟨husername, hpassword⟩ := isUserPlain_readUser user
      exact ⟨husername, hpassword, Host.isSettled_of_parseWeb hhost hparse, hport⟩

variable {a : Authority}

theorem userinfo_eq (a : Authority) :
    a.userinfo = if a.userText = [] then [] else a.userText ++ ['@'] := by
  have huser : a.userText = a.username.toList ++
      (if a.password = "" then [] else ':' :: a.password.toList) := rfl
  rw [Authority.userinfo, ← huser]
  cases a.userText <;> rfl

theorem toChars_eq (a : Authority) : a.toChars = a.userinfo ++ (a.host.toChars ++ a.portChars) := by
  rw [Authority.toChars, List.append_assoc]
  rfl

theorem isInner_of_isUserPlain {c : Char} (h : isUserPlain c) : Host.isInner c := by
  simp only [isUserPlain, Bool.and_eq_true, Bool.not_eq_true'] at h
  obtain ⟨hvisible, hquestion, hhash⟩ := Path.visible_of_isPlain h.1
  have hothers : c ≠ '/' ∧ c ≠ '@' ∧ c ≠ '\\' := by
    refine ⟨?_, ?_, ?_⟩ <;> rintro rfl <;> exact absurd h.2 (by decide)
  simp [Host.isInner, hvisible, hquestion, hhash, hothers]

theorem isInner_of_mem_portChars {c : Char} (h : c ∈ a.portChars) : Host.isInner c := by
  unfold Authority.portChars at h
  split at h
  · rcases List.mem_cons.mp h with rfl | h
    · decide
    · have hdigit : DomainName.isNumeric c := by
        simp [DomainName.isNumeric, Decimal.isDigit_of_mem_digits h]
      exact Host.isInner_of_isForbidden (DomainName.of_isNumeric hdigit).2.1
  · contradiction

/-- After the user information no sign of one comes. -/
theorem isInner_of_mem_host (h : a.IsSettled scheme) {c : Char}
    (hc : c ∈ a.host.toChars ++ a.portChars) : Host.isInner c := by
  rcases List.mem_append.mp hc with hc | hc
  · exact h.host.inner c hc
  · exact isInner_of_mem_portChars hc

theorem isInner_of_mem_userText (h : a.IsSettled scheme) {c : Char} (hc : c ∈ a.userText) :
    Host.isInner c := by
  rcases List.mem_append.mp hc with hc | hc
  · exact isInner_of_isUserPlain (h.username c hc)
  · split at hc
    · contradiction
    · rcases List.mem_cons.mp hc with rfl | hc
      · decide
      · exact isInner_of_isUserPlain (h.password c hc)

/-- The characters of an authority are visible and do not end it. -/
theorem of_mem_toChars (h : a.IsSettled scheme) {c : Char} (hc : c ∈ a.toChars) :
    0x20 < c.toNat ∧ endsAuthority .web c = false := by
  have hopen : ∀ d, Host.isInner d → 0x20 < d.toNat ∧ endsAuthority .web d = false := by
    intro d hd
    simp only [Host.isInner, Bool.and_eq_true, decide_eq_true_eq, Bool.not_eq_true'] at hd
    have hne : ∀ e ∈ "#/?@\\".toList, d ≠ e := by
      rintro e he rfl
      rw [List.contains_iff_mem.mpr he] at hd
      exact absurd hd.2 (by simp)
    have hhash := hne '#' (by decide)
    have hslash := hne '/' (by decide)
    have hquestion := hne '?' (by decide)
    have hback := hne '\\' (by decide)
    refine ⟨hd.1, ?_⟩
    simp [endsAuthority, SchemeKind.isSeparator, endsPath, hhash, hslash, hquestion, hback]
  rw [toChars_eq, userinfo_eq] at hc
  rcases List.mem_append.mp hc with hc | hc
  · split at hc
    · exact absurd hc List.not_mem_nil
    · rcases List.mem_append.mp hc with hc | hc
      · exact hopen c (isInner_of_mem_userText h hc)
      · obtain rfl := List.mem_singleton.mp hc
        decide
  · exact hopen c (isInner_of_mem_host h hc)

theorem toChars_ne_nil (h : a.IsSettled scheme) : a.toChars ≠ [] := by
  rw [toChars_eq]
  simp [h.host.toChars_ne_nil]

/-- A settled authority is read as it is written. -/
theorem readAuthority_toChars (h : a.IsSettled scheme) (ended : Bool) :
    readAuthority .web scheme a.toChars ended = .ok (a, []) := by
  have hat : '@' ∉ a.host.toChars ++ a.portChars := fun hmem =>
    absurd (isInner_of_mem_host h hmem) (by decide)
  rw [toChars_eq, userinfo_eq]
  by_cases hempty : a.userText = []
  · have hnone : a.username = "" ∧ a.password = "" := by
      simpa [Authority.userText] using hempty
    obtain ⟨username, password, host, port⟩ := a
    obtain ⟨rfl, rfl⟩ := hnone
    rw [if_pos hempty, List.nil_append, readAuthority, splitUser?_of_not_mem hat]
    simp only [readHostPort_chars h, bind, Except.bind]
    rfl
  · have huser : readUser a.userText = (a.username, a.password) :=
      readUser_append h.username h.password
    rw [if_neg hempty, List.append_assoc, List.singleton_append, readAuthority,
      splitUser?_append hat]
    simp only [List.isEmpty_eq_false_iff.mpr hempty, huser, readHostPort_chars h, bind, Except.bind]
    rfl

/-! ## Tails -/

/-- What is read as a fragment needs no encoding. -/
theorem isFragmentPlain_of_readFragment :
    ∀ f ∈ readFragment cs, ∀ c ∈ f.toList, isFragmentPlain c := by
  intro f hf c hc
  unfold readFragment at hf
  split at hf
  · obtain rfl := Option.some.inj hf
    rw [String.toList_ofList] at hc
    exact Percent.keep_of_mem_encode (by decide) hc
  · contradiction

/-- A URL of which every part is read as it is written. -/
structure IsFixed (u : Url) : Prop where
  kind : u.kind = .web
  authority : ∃ a, u.authority = some a ∧ a.IsSettled u.scheme
  settled : u.IsSettled
  fragment : ∀ f ∈ u.fragment, ∀ c ∈ f.toList, isFragmentPlain c

variable {u : Url}

/-- The path of such a URL, and what follows it. -/
def tailChars (u : Url) : List Char :=
  u.queryChars ++ u.fragmentChars

theorem head_fragmentChars (u : Url) : ∀ c ∈ u.fragmentChars.head?, c = '#' := by
  unfold fragmentChars
  split <;> simp [eq_comm]

theorem head_tailChars (u : Url) : ∀ c ∈ u.tailChars.head?, endsPath c := by
  intro c hc
  unfold tailChars queryChars at hc
  split at hc
  · obtain rfl := Option.some.inj hc
    decide
  · rw [List.nil_append] at hc
    rw [head_fragmentChars u c hc]
    decide

theorem IsFixed.visible_of_mem_tailChars (h : u.IsFixed) {c : Char} (hc : c ∈ u.tailChars) :
    0x20 < c.toNat := by
  rcases List.mem_append.mp hc with hc | hc
  · exact visible_of_isQueryPart h.settled.isQueryPart c hc
  · unfold fragmentChars at hc
    split at hc
    · rename_i f hf
      rcases List.mem_cons.mp hc with rfl | hc
      · decide
      · have hplain := h.fragment f hf c hc
        simp only [isFragmentPlain, Bool.and_eq_true, decide_eq_true_eq] at hplain
        exact hplain.1.1
    · contradiction

/-- The query and the fragment are read as they are written. -/
theorem IsFixed.withTail_tailChars (h : u.IsFixed) {v : Url} (hkind : v.kind = .web) :
    withTail v u.tailChars = { v with query := u.query, fragment := u.fragment } := by
  have hhash : ∀ c ∈ u.fragmentChars.head?, decide (c ≠ '#') = false := fun c hc => by
    simp [head_fragmentChars u c hc]
  have hquery : readQuery v.kind u.tailChars = u.query := by
    unfold tailChars queryChars
    split
    · rename_i q hq
      have hplain := h.settled.query q hq
      have hopen : ∀ c ∈ q.toList, decide (c ≠ '#') := fun c hc =>
        decide_eq_true (ne_of_holds (hplain c hc) (by decide))
      rw [List.cons_append, readQuery, (takeWhile_dropWhile_append hopen hhash).1, hkind,
        Percent.encode_eq_self hplain, String.ofList_toList, hq]
    · rename_i hq
      rw [List.nil_append, hq]
      unfold readQuery
      split
      · rename_i hcons
        have hsign := head_fragmentChars u '?' (by simp [hcons])
        exact absurd hsign (by decide)
      · rfl
  have hfragment : readFragment (u.tailChars.dropWhile (· ≠ '#')) = u.fragment := by
    have hopen : ∀ c ∈ u.queryChars, decide (c ≠ '#') := fun c hc =>
      decide_eq_true (ne_hash_of_isQueryPart h.settled.isQueryPart c hc)
    rw [tailChars, (takeWhile_dropWhile_append hopen hhash).2]
    unfold fragmentChars
    split
    · rename_i f hf
      rw [readFragment, Percent.encode_eq_self (h.fragment f hf), String.ofList_toList, hf]
    · rename_i hf
      rw [hf]
      rfl
  rw [withTail, hquery, hfragment]

/-! ## Whole URLs -/

/-- A scheme of the web is read as it is written. -/
theorem splitScheme?_web (hscheme : SchemeKind.ofScheme scheme = .web) (cs : List Char) :
    splitScheme? (scheme.toList ++ ':' :: cs) = some (scheme, cs) ∧
      ∀ c ∈ scheme.toList, 0x20 < c.toNat := by
  have hweb : scheme ∈ ["http", "https", "ws", "wss", "ftp"] := by
    unfold SchemeKind.ofScheme at hscheme
    split at hscheme
    · contradiction
    · split at hscheme
      · rename_i hmem
        exact List.contains_iff_mem.mp hmem
      · contradiction
  simp only [List.mem_cons, List.not_mem_nil, or_false] at hweb
  rcases hweb with rfl | rfl | rfl | rfl | rfl <;> exact ⟨rfl, by simp⟩

/-- After the slashes all parts are read as they are written. -/
theorem IsFixed.readAfterSlashes_chars (h : u.IsFixed) (hauthority : u.authority = some a)
    (ha : a.IsSettled u.scheme) :
    readAfterSlashes .web u.scheme (a.toChars ++ (u.path.toChars ++ u.tailChars)) = .ok u := by
  obtain ⟨seg, segs, hpath, hsegs⟩ := h.settled.eq_hierarchy
  have hpathChars : u.path.toChars = '/' :: (seg.toList ++ Path.toChars segs) := by
    rw [hpath]
    rfl
  have htext : authorityText .web (a.toChars ++ (u.path.toChars ++ u.tailChars)) = a.toChars := by
    refine (takeWhile_dropWhile_append (fun c hc => ?_) fun c hc => ?_).1
    · rw [(of_mem_toChars ha hc).2]
      rfl
    · rw [hpathChars] at hc
      obtain rfl := Option.some.inj hc
      decide
  have hopen : ∀ c ∈ u.path.toChars, endsPath c = false := by
    intro c hc
    rw [hpath] at hc
    obtain ⟨_, hquestion, hhash⟩ := Path.visible_of_isPlain (plain_of_mem_toChars hsegs hc).1
    simp [endsPath, hquestion, hhash]
  obtain ⟨htake, hdrop⟩ := takeWhile_endsPath hopen u.head_tailChars
  have hread : pathAfterAuthority .web u.path.toChars = seg :: segs := by
    rw [hpathChars, pathAfterAuthority, if_pos (by decide), Path.toPath_read hsegs]
  unfold readAfterSlashes
  simp only [htext, List.drop_left, readAuthority_toChars ha, bind, Except.bind, List.nil_append,
    htake, hdrop, hread]
  have hkind : Url.kind ⟨u.scheme, some a, .hierarchy (seg :: segs), none, none⟩ = .web := h.kind
  rw [h.withTail_tailChars hkind, ← hpath, ← hauthority]
  rfl

theorem IsFixed.visible_of_mem_after (h : u.IsFixed) (ha : a.IsSettled scheme) {c : Char}
    (hc : c ∈ a.toChars ++ (u.path.toChars ++ u.tailChars)) : 0x20 < c.toNat := by
  obtain ⟨seg, segs, hpath, hsegs⟩ := h.settled.eq_hierarchy
  rcases List.mem_append.mp hc with hc | hc
  · exact (of_mem_toChars ha hc).1
  rcases List.mem_append.mp hc with hc | hc
  · rw [hpath] at hc
    exact (Path.visible_of_isPlain (plain_of_mem_toChars hsegs hc).1).1
  · exact h.visible_of_mem_tailChars hc

/-- What is written of a URL that is fixed is read as the same URL. -/
theorem IsFixed.parse_toText (h : u.IsFixed) : parse u.toText = .ok u := by
  obtain ⟨a, hauthority, ha⟩ := h.authority
  have hscheme : SchemeKind.ofScheme u.scheme = .web := h.kind
  have hrest := h.readAfterSlashes_chars hauthority ha
  generalize hafter : a.toChars ++ (u.path.toChars ++ u.tailChars) = after at hrest
  obtain ⟨hsplit, hsigns⟩ := splitScheme?_web hscheme ('/' :: '/' :: after)
  have htext : u.toText.toList = u.scheme.toList ++ ':' :: '/' :: '/' :: after := by
    rw [toText, String.toList_ofList, authorityChars, hauthority, ← hafter, tailChars]
    simp
  have hvisible : ∀ c ∈ u.toText.toList, 0x20 < c.toNat := by
    intro c hc
    rw [htext, List.mem_append, List.mem_cons, List.mem_cons, List.mem_cons] at hc
    rcases hc with hc | rfl | rfl | rfl | hc
    · exact hsigns c hc
    · decide
    · decide
    · decide
    · exact h.visible_of_mem_after ha (hafter ▸ hc)
  have hslashes : ('/' :: '/' :: after).takeWhile (fun c => c = '/' || c = '\\') = ['/', '/'] := by
    have hfirst : ∀ c ∈ after.head?, (decide (c = '/') || decide (c = '\\')) = false := by
      intro c hc
      have hmem : c ∈ a.toChars := by
        rw [← hafter, List.head?_append_of_ne_nil _ (toChars_ne_nil ha)] at hc
        exact List.mem_of_mem_head? hc
      have hopen := (of_mem_toChars ha hmem).2
      simp only [endsAuthority, SchemeKind.isSeparator, Bool.or_eq_false_iff] at hopen
      simpa [SchemeKind.hasBackslash] using hopen.1
    have hboth : ∀ c ∈ ['/', '/'], (decide (c = '/') || decide (c = '\\')) = true := by simp
    exact (takeWhile_dropWhile_append hboth hfirst).1
  rw [parse, trim_eq_self hvisible, readChars, Path.visible_eq_self hvisible, htext, hsplit]
  simp only [hscheme, readWeb, hslashes]
  exact hrest

/-! ## What is read of a text -/

/-- The host in a text of the web as it is given: what stands before the port. -/
def hostOf (text : String) : List Char :=
  match splitScheme? (Path.visible (trim text.toList)) with
  | some (_, rest) =>
    let slashes := rest.takeWhile fun c => c = '/' || c = '\\'
    hostText (authorityText .web (rest.drop slashes.length))
  | none => []

/-- The host in a text is of ASCII characters without percent signs. -/
def HasPlainHost (text : String) : Prop :=
  ∀ c ∈ hostOf text, c.toNat < 0x80 ∧ c ≠ '%'

/-- A URL of the web is read from what follows the slashes after its scheme. -/
theorem of_parse_web {text : String} (h : parse text = .ok u) (hkind : u.kind = .web) :
    ∃ scheme rest, splitScheme? (Path.visible (trim text.toList)) = some (scheme, rest) ∧
      SchemeKind.ofScheme scheme = .web ∧
      readAfterSlashes .web scheme
        (rest.drop (rest.takeWhile fun c => c = '/' || c = '\\').length) = .ok u := by
  simp only [parse, readChars] at h
  split at h
  · rename_i scheme rest hsplit
    refine ⟨scheme, rest, hsplit, ?_⟩
    split at h
    · rw [kind, scheme_readFile (by simp) h] at hkind
      contradiction
    · rename_i hweb
      exact ⟨hweb, h⟩
    · rename_i hother
      rw [kind, scheme_readOther h, hother] at hkind
      contradiction
  · contradiction

/-- What is read of a text with such a host is fixed. -/
theorem isFixed_of_parse {text : String} (h : parse text = .ok u) (hkind : u.kind = .web)
    (hhost : HasPlainHost text) : u.IsFixed := by
  have hsettled : u.IsSettled := isSettled_readChars (by simp) h hkind
  obtain ⟨scheme, rest, hsplit, _, hread⟩ := of_parse_web h hkind
  obtain ⟨a, _, _, tail, hauthority, _, rfl⟩ := of_readAfterSlashes hread
  rw [HasPlainHost, hostOf, hsplit] at hhost
  exact ⟨hkind, ⟨a, rfl, isSettled_of_readAuthority hhost hauthority⟩, hsettled,
    isFragmentPlain_of_readFragment⟩

/-- Writing of pairs to the query leaves a URL fixed. -/
theorem IsFixed.setPairs (h : u.IsFixed) (ps : List FormEncoded.Pair) : (u.setPairs ps).IsFixed := by
  obtain ⟨a, hauthority, ha⟩ := h.authority
  have hscheme := scheme_setPairs u ps
  have hkept : (u.setPairs ps).authority = u.authority ∧ (u.setPairs ps).fragment = u.fragment := by
    by_cases hnil : ps = []
    · rw [hnil]
      exact ⟨rfl, rfl⟩
    · rw [setPairs_of_ne_nil u hnil]
      exact ⟨rfl, rfl⟩
  refine ⟨?_, ⟨a, hkept.1.trans hauthority, hscheme.symm ▸ ha⟩, isSettled_setPairs h.settled ps, ?_⟩
  · rw [Url.kind, hscheme]
    exact h.kind
  · rw [hkept.2]
    exact h.fragment

end Url

end HistorySearch
