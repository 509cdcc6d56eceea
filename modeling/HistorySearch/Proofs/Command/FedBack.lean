-- SUMMARY: The URL that the command prints can be given to it again, and which problem it reports.
import HistorySearch.Command.Predicate
import HistorySearch.Proofs.Fallible
import HistorySearch.Proofs.Search.Successive
import HistorySearch.Proofs.Url.Fixed

/-!
# The command on its own output

After an accepted submission the command shows a URL. Given the text of this URL and no options it
submits the same predicate and shows the same text. A rejected submission shows the URL that was
given. If something cannot be read, the first such thing is reported: the URL, then the token type,
then the two dates.
-/

namespace HistorySearch

namespace TokenFilter

theorem mem_all (f : TokenFilter) : f ∈ all := by
  cases f with
  | any => exact List.mem_cons_self
  | only t => exact List.mem_cons_of_mem _ (List.mem_map_of_mem (TokenType.mem_all t))

/-- The five words for a choice of a token type. -/
def IsName (word : String) : Prop :=
  word ∈ all.map name

example : all.map name = ["any", "session", "user", "notebook", "internal"] := rfl

theorem read_of_isName {word : String} (h : IsName word) : ∃ f, read word = .ok f := by
  obtain ⟨f, _, rfl⟩ := List.mem_map.mp h
  exact ⟨f, read_name f⟩

/-- Another word is complained about. -/
theorem read_of_not_isName {word : String} (h : ¬IsName word) : read word = .error ⟨word⟩ := by
  have hany : word ≠ "any" := by
    rintro rfl
    exact h (List.mem_map.mpr ⟨any, mem_all any, rfl⟩)
  have hnone : TokenType.ofName? word = none := by
    refine List.find?_eq_none.mpr fun t _ ht => h ?_
    exact List.mem_map.mpr ⟨only t, mem_all (only t), of_decide_eq_true ht⟩
  rw [read, if_neg hany, TokenType.read, hnone]
  rfl

theorem not_isName_of_read {word : String} {e : UnknownTokenType} (h : read word = .error e) :
    ¬IsName word ∧ e = ⟨word⟩ := by
  have hname : ¬IsName word := by
    intro hname
    obtain ⟨f, hf⟩ := read_of_isName hname
    rw [hf] at h
    contradiction
  rw [read_of_not_isName hname] at h
  exact ⟨hname, (Except.error.inj h).symm⟩

end TokenFilter

/-! ## Forms on the store they were submitted to -/

namespace Form

/-- A form that is mounted on the store of an accepted submission confirms it. -/
theorem confirms_mount {store : Store} {edits : List FieldEdit}
    (hedits : ∀ e ∈ edits, e.IsReadable) {p : Predicate}
    (h : (submitEdited store edits).outcome = .submitted p) :
    Confirms (submitEdited (submitEdited store edits).store []) p
      (submitEdited store edits).store := by
  have hstate : (mount (submitEdited store edits).store).state =
      ((mount store).updateAll edits).state := by
    rw [updateAll_state]
    exact ofParams_submitEdited hedits h
  have hvalid : (mount (submitEdited store edits).store).state.validate = .ok p := by
    rw [hstate]
    exact outcome_eq_submitted_iff.mp h
  have hstore : (submitEdited store edits).store =
      store.set (mount (submitEdited store edits).store).state.toUpdate := by
    rw [hstate]
    exact store_of_submitted h
  have hconfirms := confirms_of_written hvalid store
  rwa [← hstore] at hconfirms

theorem store_of_rejected {f : Form} {store : Store} {errors : FieldErrors}
    (h : (f.submit store).outcome = .rejected errors) : (f.submit store).store = store := by
  cases hvalid : f.state.validate with
  | ok p =>
    rw [submit_of_ok hvalid] at h
    contradiction
  | error e => rw [submit_of_error hvalid]

end Form

namespace PredicateOptions

variable {o : PredicateOptions}

/-! ## Options -/

section Options

variable {α β ε : Type} {read : String → Except ε α} {edit : α → FieldEdit} {problem : ε → β}
  {option : Option String} {edits : List FieldEdit}

/-- What reading an option comes to. -/
inductive IsRead (read : String → Except ε α) (edit : α → FieldEdit) (problem : ε → β)
    (option : Option String) : Except β (List FieldEdit) → Prop
  | absent (hgiven : option = none) : IsRead read edit problem option (.ok [])
  | given {text : String} {a : α} (hgiven : option = some text) (hread : read text = .ok a) :
      IsRead read edit problem option (.ok [edit a])
  | refused {text : String} {reason : ε} (hgiven : option = some text)
      (hread : read text = .error reason) : IsRead read edit problem option (.error (problem reason))

theorem readOption_of_accepted {text : String} {a : α} (hread : read text = .ok a) :
    readOption read edit problem (some text) = .ok [edit a] := by
  rw [readOption, hread]

theorem readOption_of_refused {text : String} {reason : ε} (hread : read text = .error reason) :
    readOption read edit problem (some text) = .error (problem reason) := by
  rw [readOption, hread]

theorem isRead_of_readOption {r : Except β (List FieldEdit)}
    (h : readOption read edit problem option = r) : IsRead read edit problem option r := by
  subst h
  cases option with
  | none => exact .absent rfl
  | some text =>
    cases hread : read text with
    | ok a =>
      rw [readOption_of_accepted hread]
      exact .given rfl hread
    | error reason =>
      rw [readOption_of_refused hread]
      exact .refused rfl hread

theorem mem_of_readOption (h : readOption read edit problem option = .ok edits) :
    ∀ e ∈ edits, ∃ text a, read text = .ok a ∧ e = edit a := by
  intro e he
  cases isRead_of_readOption h with
  | absent hgiven => contradiction
  | given hgiven hread => exact ⟨_, _, hread, List.mem_singleton.mp he⟩

/-- An option can be read if it is given. -/
def IsReadable (read : String → Except ε α) (option : Option String) : Prop :=
  ∀ text ∈ option, ∃ a, read text = .ok a

theorem readOption_of_isReadable (h : IsReadable read option) :
    ∃ edits, readOption read edit problem option = .ok edits := by
  cases option with
  | none => exact ⟨[], rfl⟩
  | some text =>
    obtain ⟨a, hread⟩ := h text rfl
    exact ⟨[edit a], readOption_of_accepted hread⟩

theorem isReadable_of_readOption (h : readOption read edit problem option = .ok edits) :
    IsReadable read option := by
  rintro text rfl
  cases isRead_of_readOption h with
  | absent hgiven => contradiction
  | given hgiven hread =>
    obtain rfl := Option.some.inj hgiven
    exact ⟨_, hread⟩

end Options

/-! ## Problems -/

/-- The first thing that cannot be read: everything before it can be. -/
inductive FailsWith (o : PredicateOptions) : PredicateProblem → Prop
  | url {reason : UrlError} (h : Url.parse o.url = .error reason) :
      FailsWith o (.badUrl o.url reason)
  | tokenType {u : Url} (hurl : Url.parse o.url = .ok u) {word : String}
      (hgiven : o.tokenType = some word) (h : ¬TokenFilter.IsName word) :
      FailsWith o (.unknownTokenType ⟨word⟩)
  | since {u : Url} (hurl : Url.parse o.url = .ok u)
      (htype : ∀ word ∈ o.tokenType, TokenFilter.IsName word) {text : String}
      (hgiven : o.since = some text) {reason : InvalidDate}
      (h : Timestamp.decode text = .error reason) : FailsWith o (.badSince reason)
  | before {u : Url} (hurl : Url.parse o.url = .ok u)
      (htype : ∀ word ∈ o.tokenType, TokenFilter.IsName word)
      (hsince : IsReadable Timestamp.decode o.since) {text : String}
      (hgiven : o.before = some text) {reason : InvalidDate}
      (h : Timestamp.decode text = .error reason) : FailsWith o (.badUntil reason)

theorem isReadable_tokenType :
    IsReadable TokenFilter.read o.tokenType ↔ ∀ word ∈ o.tokenType, TokenFilter.IsName word := by
  constructor
  · intro h word hword
    obtain ⟨f, hread⟩ := h word hword
    by_cases hname : TokenFilter.IsName word
    · exact hname
    · rw [TokenFilter.read_of_not_isName hname] at hread
      contradiction
  · exact fun h word hword => TokenFilter.read_of_isName (h word hword)

theorem failsWith_of_edits {u : Url} (hurl : Url.parse o.url = .ok u) {problem : PredicateProblem}
    (h : o.edits = .error problem) : o.FailsWith problem := by
  rcases error_of_bind h with h | ⟨types, htypes, h⟩
  · cases isRead_of_readOption h with
    | refused hgiven hread =>
      obtain ⟨hname, rfl⟩ := TokenFilter.not_isName_of_read hread
      exact .tokenType hurl hgiven hname
  have htype := isReadable_tokenType.mp (isReadable_of_readOption htypes)
  rcases error_of_bind h with h | ⟨sinces, hsinces, h⟩
  · cases isRead_of_readOption h with
    | refused hgiven hread => exact .since hurl htype hgiven hread
  have hsince := isReadable_of_readOption hsinces
  rcases error_of_bind h with h | ⟨_, _, h⟩
  · cases isRead_of_readOption h with
    | refused hgiven hread => exact .before hurl htype hsince hgiven hread
  · contradiction

theorem failsWith_of_run {problem : PredicateProblem} (h : o.run = .error problem) :
    o.FailsWith problem := by
  rcases error_of_bind h with h | ⟨_, _, h⟩
  · rcases error_of_bind h with h | ⟨u, hurl, h⟩
    · obtain ⟨reason, hparse, rfl⟩ := error_of_mapError h
      exact .url hparse
    · rcases error_of_bind h with h | ⟨_, _, h⟩
      · exact failsWith_of_edits (ok_of_mapError hurl) h
      · contradiction
  · contradiction

theorem run_of_failsWith {problem : PredicateProblem} (h : o.FailsWith problem) :
    o.run = .error problem := by
  have hread : o.read = .error problem := by
    cases h with
    | url h =>
      rw [read, h]
      rfl
    | tokenType hurl hgiven h =>
      rw [read, hurl, edits, hgiven, readOption_of_refused (TokenFilter.read_of_not_isName h)]
      rfl
    | since hurl htype hgiven h =>
      obtain ⟨types, htypes⟩ := readOption_of_isReadable (isReadable_tokenType.mpr htype)
      rw [read, hurl, edits, htypes, hgiven, readOption_of_refused h]
      rfl
    | before hurl htype hsince hgiven h =>
      obtain ⟨types, htypes⟩ := readOption_of_isReadable (isReadable_tokenType.mpr htype)
      obtain ⟨sinces, hsinces⟩ := readOption_of_isReadable hsince
      rw [read, hurl, edits, htypes, hsinces, hgiven, readOption_of_refused h]
      rfl
  rw [run, hread]
  rfl

/-! ## Runs -/

/-- The options of which only the URL is given. -/
def ofText (text : String) : PredicateOptions :=
  ⟨text, none, none, none, none, none⟩

/-- A run that comes to a submission edits and submits the form on the URL that was given. -/
theorem of_run {r : Submission} (h : o.run = .ok r) :
    ∃ u edits, Url.parse o.url = .ok u ∧ (∀ e ∈ edits, e.IsReadable) ∧
      r = Form.submitEdited (.url u) edits := by
  obtain ⟨⟨u, edits⟩, hread, h⟩ := ok_of_bind h
  obtain ⟨given, hurl, hread⟩ := ok_of_bind hread
  obtain ⟨made, hmade, hread⟩ := ok_of_bind hread
  cases hread
  cases h
  refine ⟨u, edits, ok_of_mapError hurl, ?_, rfl⟩
  obtain ⟨types, htypes, hmade⟩ := ok_of_bind hmade
  obtain ⟨sinces, hsinces, hmade⟩ := ok_of_bind hmade
  obtain ⟨untils, huntils, hmade⟩ := ok_of_bind hmade
  cases hmade
  intro e he
  simp only [List.mem_append, Option.mem_toList, Option.map_eq_some_iff] at he
  rcases he with (((⟨_, _, rfl⟩ | he) | ⟨_, _, rfl⟩) | he) | he
  · exact FieldEdit.isReadable_of_date?_eq_none rfl
  · obtain ⟨_, _, _, rfl⟩ := mem_of_readOption htypes e he
    exact FieldEdit.isReadable_of_date?_eq_none rfl
  · exact FieldEdit.isReadable_of_date?_eq_none rfl
  · obtain ⟨text, date, hread, rfl⟩ := mem_of_readOption hsinces e he
    rintro t rfl
    exact ⟨text, hread⟩
  · obtain ⟨text, date, hread, rfl⟩ := mem_of_readOption huntils e he
    rintro t rfl
    exact ⟨text, hread⟩

theorem run_ofText {text : String} {u : Url} (h : Url.parse text = .ok u) :
    (ofText text).run = .ok (Form.submitEdited (.url u) []) := by
  rw [run, read, ofText, h]
  rfl

/-- The URL that is shown can be given back. What is wrong with options is the first thing that
cannot be read, and nothing else is. If nothing is, a rejected submission shows the URL that was
given. An accepted one on a URL of the web, of which the host is given in ASCII without percent
signs, shows a URL whose text alone leads to the same predicate and is shown again. -/
theorem fed_back (o : PredicateOptions) :
    (∀ problem, o.run = .error problem ↔ o.FailsWith problem) ∧
      ∀ r, o.run = .ok r → ∃ given shown, Url.parse o.url = .ok given ∧ r.store = .url shown ∧
        (∀ errors, r.outcome = .rejected errors → shown = given) ∧
        ∀ p, r.outcome = .submitted p → given.kind = .web → Url.HasPlainHost o.url →
          ∃ again, (ofText shown.toText).run = .ok again ∧ again.outcome = .submitted p ∧
            again.store.text = shown.toText := by
  refine ⟨fun _ => ⟨failsWith_of_run, run_of_failsWith⟩, fun r hrun => ?_⟩
  obtain ⟨given, edits, hparse, hedits, rfl⟩ := of_run hrun
  cases houtcome : (Form.submitEdited (.url given) edits).outcome with
  | rejected errors =>
    exact ⟨given, given, hparse, Form.store_of_rejected houtcome, fun _ _ => rfl, nofun⟩
  | submitted p =>
    obtain ⟨ps, hstore⟩ : ∃ ps, (Form.submitEdited (.url given) edits).store =
        .url (given.setPairs ps) := ⟨_, Form.store_of_submitted houtcome⟩
    have hconfirms := Form.confirms_mount hedits houtcome
    rw [hstore] at hconfirms
    refine ⟨given, _, hparse, hstore, nofun, fun q hq hkind hhost => ?_⟩
    obtain rfl := Outcome.submitted.inj hq
    have hfixed := (Url.isFixed_of_parse hparse hkind hhost).setPairs ps
    exact ⟨_, run_ofText hfixed.parse_toText, hconfirms.outcome, hconfirms.text.whole⟩

/-- A URL of which every part is written in another way than it is shown, with options that clear
one field, keep another and set two. -/
def sampleOptions : PredicateOptions :=
  ⟨" HTTP://us er:@0X7f.1:080/a/../%41 b?tokenType=superuser&x=%zz&key=abc#a`b", some "", none,
    some "::1/64 & é", none, some "2016-12-31T23:59:60.5+05:30"⟩

theorem fed_back_rewritten :
    let shown := "http://us%20er@127.0.0.1/%41%20b?tokenType=any&x=%25zz" ++
      "&ipAddress=%3A%3A1%2F64+%26+%C3%A9&untilDate=2016-12-31T23%3A59%3A60.500%2B05%3A30#a%60b"
    let p : Predicate := ⟨none, none, some "::1/64 & é", none, some 1483208999⟩
    (∃ given, Url.parse sampleOptions.url = .ok given ∧ given.kind = .web) ∧
      Url.HasPlainHost sampleOptions.url ∧
      (∃ r, sampleOptions.run = .ok r ∧ r.outcome = .submitted p ∧ r.store.text = shown) ∧
      ∃ again, (ofText shown).run = .ok again ∧ again.outcome = .submitted p ∧
        again.store.text = shown := by
  intro shown p
  have hplain : Url.HasPlainHost sampleOptions.url := by
    have hhost : Url.hostOf sampleOptions.url = "0X7f.1".toList := by decide +kernel
    rw [Url.HasPlainHost, hhost]
    simp
  have hweb : (Url.parse sampleOptions.url).map Url.kind = .ok .web := by
    decide +kernel
  have hsubmitted : sampleOptions.run.map (fun r => (r.outcome, r.store.text)) =
      .ok (.submitted p, shown) := by
    decide +kernel
  obtain ⟨given, hparse, hkind⟩ := ok_of_map hweb
  obtain ⟨r, hrun, hshown⟩ := ok_of_map hsubmitted
  obtain ⟨houtcome, htext⟩ := Prod.mk.inj hshown
  obtain ⟨_, url, hgiven, hstore, _, hagain⟩ := (fed_back sampleOptions).2 r hrun
  obtain rfl := Except.ok.inj (hparse.symm.trans hgiven)
  have hurl : url.toText = shown := by
    rw [← htext, hstore]
    rfl
  have hfed := hagain p houtcome hkind hplain
  rw [hurl] at hfed
  exact ⟨⟨given, hparse, hkind⟩, hplain, ⟨r, hrun, houtcome, htext⟩, hfed⟩

/-- Of several things that cannot be read the first is reported. -/
example : run ⟨"https://site/", none, some "admin", none, some "soon", none⟩ =
    .error (.unknownTokenType ⟨"admin"⟩) := by
  decide +kernel

end PredicateOptions

end HistorySearch
