-- SUMMARY: The form on a page, posted back as it is, is the search of the page.
import HistorySearch.Proofs.Web.Posted
import HistorySearch.Proofs.Web.Site
import HistorySearch.Proofs.Web.Tags

/-!
# Resubmission

What a browser posts is what it reads from the tags of the page: the values of the inputs and that
of the selected option. Posted without a change, they edit nothing of the form that the page was
shown for, so that the page and the predicate of a URL give the same answer.
-/

namespace HistorySearch

namespace Tag

/-! ## The form among tags -/

@[simp] theorem ofHtml_append (g h : Html) : ofHtml (g ++ h) = ofHtml g ++ ofHtml h :=
  List.filterMap_append

@[simp] theorem ofHtml_cons_text (s : String) (h : Html) : ofHtml (.text s :: h) = ofHtml h := rfl

@[simp] theorem ofHtml_cons_doctype (h : Html) :
    ofHtml (.doctype :: h) = ⟨"!DOCTYPE", [("html", none)]⟩ :: ofHtml h := rfl

@[simp] theorem ofHtml_nil : ofHtml [] = [] := rfl

@[simp] theorem ofHtml_void (name : String) (attributes : List (String × Option String)) :
    ofHtml (Html.void name attributes) = [⟨name, attributes⟩] := rfl

@[simp] theorem ofHtml_element (name : String) (attributes : List (String × Option String))
    (content : Html) :
    ofHtml (Html.element name attributes content) =
      ⟨name, attributes⟩ :: (ofHtml content ++ [⟨"/" ++ name, []⟩]) := by
  rw [Html.element, List.cons_append]
  exact congrArg (_ :: ·) (ofHtml_append content _)

/-- The value of an attribute, empty if there is none. -/
def attributeValue (t : Tag) (name : String) : String :=
  (t.attributes.lookup name).join.getD ""

/-- Whether a tag is the one of some kind that is named for a field. -/
def isFor (kind : String) (field : Field) (t : Tag) : Bool :=
  t.name = kind && t.attributeValue "name" = field.name

theorem isFor_mk (kind : String) (field : Field) (name : String)
    (attributes : List (String × Option String)) :
    isFor kind field ⟨name, attributes⟩ =
      (name = kind && attributeValue ⟨name, attributes⟩ "name" = field.name) := rfl

def inputValue (tags : List Tag) (field : Field) : String :=
  ((tags.find? (isFor "input" field)).map (attributeValue · "value")).getD ""

/-- The value of the option among tags that is selected. -/
def optionValue (tags : List Tag) : String :=
  let selected := tags.find? fun t => t.name = "option" && (t.attributes.lookup "selected").isSome
  (selected.map (attributeValue · "value")).getD ""

/-- Whether a tag ends the options of a choice. -/
def endsChoice (t : Tag) : Bool :=
  t.name = "/select"

/-- The value of the option that is selected for a field: one between the tags of its choice. -/
def selectedValue (tags : List Tag) (field : Field) : String :=
  optionValue ((tags.dropWhile (!isFor "select" field ·)).takeWhile (!endsChoice ·))

end Tag

/-- The form that the tags of a page show. -/
def PostedForm.ofTags (tags : List Tag) : PostedForm where
  key := Tag.inputValue tags .key
  tokenType := Tag.selectedValue tags .tokenType
  ipAddress := Tag.inputValue tags .ipAddress
  sinceDate := Tag.inputValue tags .sinceDate
  untilDate := Tag.inputValue tags .untilDate

namespace Page

/-! ## Names on the page -/

theorem isNamed_element {name : String} {attributes : List (String × Option String)}
    {content : Html}
    (hname : Tag.isName name) (hattributes : attributes.all (Tag.isName ·.1))
    (hcontent : content.all Tag.isNamed) :
    (Html.element name attributes content).all Tag.isNamed := by
  simp [Html.element, Tag.isNamed, hname, hattributes, hcontent]

theorem isNamed_option (selected choice : TokenFilter) :
    (option selected choice).all Tag.isNamed := by
  unfold option
  refine isNamed_element (by decide) ?_ rfl
  split
  · simp [Tag.isName, Tag.isNameChar]
  · simp [Tag.isName, Tag.isNameChar]

theorem isNamed_input (state : FormState) (field : Field) :
    (input state field).all Tag.isNamed := by
  cases field with
  | key => simp [input, textInput, Html.void, naming, Tag.isNamed, Tag.isName, Tag.isNameChar]
  | ipAddress =>
    simp [input, textInput, Html.void, naming, Tag.isNamed, Tag.isName, Tag.isNameChar]
  | sinceDate => simp [input, dateInput, Html.void, naming, Tag.isNamed, Tag.isName, Tag.isNameChar]
  | untilDate => simp [input, dateInput, Html.void, naming, Tag.isNamed, Tag.isName, Tag.isNameChar]
  | tokenType =>
    refine isNamed_element (by decide) ?_ ?_
    · simp [naming, Tag.isName, Tag.isNameChar]
    · rw [List.all_flatMap]
      simp [isNamed_option]

theorem isNamed_errorText (errors : FieldErrors) (field : Field) :
    (errorText errors field).all Tag.isNamed := by
  unfold errorText
  split
  · refine isNamed_element (by decide) ?_ rfl
    simp [Tag.isName, Tag.isNameChar]
  · rfl

theorem isNamed_fieldBlock (state : FormState) (errors : FieldErrors) (field : Field) :
    (fieldBlock state errors field).all Tag.isNamed := by
  have hlabel : (Html.element "label" [("for", some field.name)]
      (Html.text (label field))).all Tag.isNamed :=
    isNamed_element (by decide) (by simp [Tag.isName, Tag.isNameChar]) rfl
  refine isNamed_element (by decide) (by simp [Tag.isName, Tag.isNameChar]) ?_
  simp [hlabel, isNamed_input, isNamed_errorText]

theorem isNamed_page (state : FormState) (errors : FieldErrors) (action : String) :
    (page state errors action).all Tag.isNamed := by
  have hhead : head.all Tag.isNamed := by
    simp [head, Html.element, Html.void, Html.text, Tag.isNamed, Tag.isName, Tag.isNameChar]
  have hform : (form state errors action).all Tag.isNamed := by
    refine isNamed_element (by decide) (by simp [Tag.isName, Tag.isNameChar]) ?_
    rw [List.all_append, List.all_flatMap]
    simp [isNamed_fieldBlock, Html.element, Html.text, Tag.isNamed, Tag.isName, Tag.isNameChar]
  have hheading : (Html.element "h1" [] (Html.text title)).all Tag.isNamed :=
    isNamed_element (by decide) rfl rfl
  have hbody : (Html.element "body" []
      (Html.element "h1" [] (Html.text title) ++ form state errors action)).all Tag.isNamed :=
    isNamed_element (by decide) rfl (by simp [hheading, hform])
  have hhtml : (Html.element "html" [("lang", some "en")] (head ++ Html.element "body" []
      (Html.element "h1" [] (Html.text title) ++ form state errors action))).all Tag.isNamed :=
    isNamed_element (by decide) (by simp [Tag.isName, Tag.isNameChar]) (by simp [hhead, hbody])
  rw [page, List.all_append, List.cons_append, List.all_cons, List.all_append, hhtml]
  rfl

/-! ## Values on the page -/

/-- An error is shown by a paragraph, which is no part of the form. -/
theorem find?_errorText (errors : FieldErrors) (field other : Field) {kind : String}
    (hkind : kind ≠ "p" ∧ kind ≠ "/p") :
    (Tag.ofHtml (errorText errors field)).find? (Tag.isFor kind other) = none := by
  unfold errorText
  split
  · simp [Html.text, Tag.isFor, Ne.symm hkind.1, Ne.symm hkind.2]
  · rfl

/-- The choice of a token type has no input. -/
theorem find?_tokenTypeInput (selected : TokenFilter) (field : Field) :
    (Tag.ofHtml (tokenTypeInput selected)).find? (Tag.isFor "input" field) = none := by
  simp [tokenTypeInput, TokenFilter.all, TokenType.all, option, Html.text, Tag.isFor]

/-- The input of a field shows the text of the form for it. -/
theorem inputValue_page (state : FormState) (errors : FieldErrors) (action : String) {field : Field}
    (hfield : field ≠ .tokenType) :
    Tag.inputValue (Tag.ofHtml (page state errors action)) field =
      (PostedForm.shown state).text field := by
  have herror : ∀ f, (Tag.ofHtml (errorText errors f)).find? (Tag.isFor "input" field) = none :=
    fun f => find?_errorText errors f field (by decide)
  have hchoice := find?_tokenTypeInput state.tokenFilter field
  cases field with
  | tokenType => contradiction
  | _ =>
    simp [Tag.inputValue, page, Html.text, head, form, Field.all, fieldBlock, input, textInput,
      dateInput, naming, Tag.isFor, Field.name, Tag.attributeValue, List.lookup_cons,
      List.find?_append, herror, hchoice]
    rfl

/-- Before the choice of a token type there is no other choice. -/
theorem dropWhile_errorText (errors : FieldErrors) (field : Field) (rest : List Tag) :
    (Tag.ofHtml (errorText errors field) ++ rest).dropWhile (!Tag.isFor "select" .tokenType ·) =
      rest.dropWhile (!Tag.isFor "select" .tokenType ·) := by
  unfold errorText
  split
  · simp [Html.text, Tag.isFor]
  · rfl

/-- The choice of a token type starts with its tag. -/
theorem dropWhile_tokenTypeInput (selected : TokenFilter) (rest : List Tag) :
    (Tag.ofHtml (tokenTypeInput selected) ++ rest).dropWhile (!Tag.isFor "select" .tokenType ·) =
      Tag.ofHtml (tokenTypeInput selected) ++ rest := by
  simp [tokenTypeInput, naming, Tag.isFor_mk, Tag.attributeValue, List.lookup_cons]

/-- The choice of a token type ends with the only tag that ends one. -/
theorem takeWhile_tokenTypeInput (selected : TokenFilter) (rest : List Tag) :
    (Tag.ofHtml (tokenTypeInput selected) ++ rest).takeWhile (!Tag.endsChoice ·) =
      ⟨"select", naming .tokenType⟩ :: Tag.ofHtml (TokenFilter.all.flatMap (option selected)) := by
  simp [tokenTypeInput, TokenFilter.all, TokenType.all, option, Html.text, Tag.endsChoice]

/-- Of the options only the one that was chosen is selected. -/
theorem optionValue_tokenTypeInput (selected : TokenFilter) :
    Tag.optionValue (⟨"select", naming .tokenType⟩ ::
      Tag.ofHtml (TokenFilter.all.flatMap (option selected))) = selected.name := by
  cases selected with
  | any => rfl
  | only type => cases type <;> rfl

/-- The selected option shows the choice of the form. -/
theorem selectedValue_page (state : FormState) (errors : FieldErrors) (action : String) :
    Tag.selectedValue (Tag.ofHtml (page state errors action)) .tokenType =
      state.tokenFilter.name := by
  have herror := fun rest => dropWhile_errorText errors .key rest
  have hstart := fun rest => dropWhile_tokenTypeInput state.tokenFilter rest
  have hend := fun rest => takeWhile_tokenTypeInput state.tokenFilter rest
  have hselected := optionValue_tokenTypeInput state.tokenFilter
  simp [Tag.selectedValue, page, Html.text, head, form, Field.all, fieldBlock, input, textInput,
    Tag.isFor_mk, herror, hstart, hend, hselected]

/-- The form that is read from the text of a page is the one that the page was rendered for. -/
theorem ofTags_render (state : FormState) (errors : FieldErrors) (action : String) :
    PostedForm.ofTags (Tag.read (render state errors action)) = PostedForm.shown state := by
  have hinput : ∀ field, field ≠ .tokenType →
      Tag.inputValue (Tag.ofHtml (page state errors action)) field =
        (PostedForm.shown state).text field :=
    fun _ hfield => inputValue_page state errors action hfield
  rw [render, Tag.read_render (isNamed_page state errors action), PostedForm.ofTags,
    hinput .key Field.noConfusion, hinput .ipAddress Field.noConfusion,
    hinput .sinceDate Field.noConfusion, hinput .untilDate Field.noConfusion, selectedValue_page]
  rfl

end Page

namespace Site

variable {s : Site} {publicUrl path q : String}

/-! ## Answers -/

/-- The page of a query is rendered for the form that the query fills. -/
theorem Serves.respond_shown (h : s.Serves publicUrl path) {r : Request}
    (hq : RequestTarget.IsQueryPart q.toList) (htarget : r.target = ⟨path, path ++ q⟩)
    (hmethod : r.method = "GET") :
    ∃ action, (s.respond r).response =
      Response.html 200 (Page.render (FormState.ofQuery q) .empty action) := by
  obtain ⟨rest, hrooted⟩ := h.plain.isRooted
  obtain ⟨u, hstore, _, hpairs⟩ := h.store hrooted hq htarget
  have hroute := h.respond_page (congrArg RequestTarget.path htarget) (by rw [hmethod]; decide)
  refine ⟨relative (.url u), ?_⟩
  rw [hroute, onPage, if_pos (.inl hmethod)]
  simp only [showPage, hstore, Form.mount, ofParams_url hpairs]

/-- What is read from the page of a query is what it shows of the form that the query fills. -/
theorem Serves.ofTags_shown (h : s.Serves publicUrl path) {r : Request} (hr : r.IsFor path q)
    (hmethod : r.method = "GET") :
    PostedForm.ofTags (Tag.read (s.respond r).response.body) =
      PostedForm.shown (FormState.ofQuery q) := by
  obtain ⟨rest, hrooted⟩ := h.plain.isRooted
  obtain ⟨htarget, hquery⟩ := target_of_isFor hrooted hr
  obtain ⟨action, hpage⟩ := h.respond_shown hquery htarget hmethod
  rw [hpage, Response.body_html, Page.ofTags_render]

/-- A page and a predicate answer one search: both accept it, and the predicate that is handed off
is the one that is given, or both refuse it for the same errors. -/
inductive SameAnswer (page predicate : Reply) : Prop
  | accepted (p : Predicate) (redirect : page.response.status = 303)
      (dispatched : page.dispatched = [p])
      (given : predicate.response = Response.json 200 (Json.success p.toData))
  | rejected (e : FieldErrors) (state : FormState) (action : String)
      (shown : page.response = Response.html 422 (Page.render state e action))
      (dispatched : page.dispatched = [])
      (given : predicate.response = (ApiError.invalidFields e).toResponse)

theorem status_of_sameAnswer {page predicate : Reply} (h : SameAnswer page predicate) :
    page.response.status = 303 ↔ predicate.response.status = 200 := by
  cases h with
  | accepted p redirect _ given =>
    rw [given]
    exact ⟨fun _ => rfl, fun _ => redirect⟩
  | rejected e state action shown _ given =>
    rw [shown, given, Response.status_html, ApiError.toResponse, Response.status_json]
    exact ⟨fun h => absurd h (by decide), fun h => absurd h (by decide)⟩

/-- A predicate that is given for the form that is submitted is the one that is handed off. -/
theorem sameAnswer_of_submitted {posted : PostedForm} {store : Store} {predicate : Reply}
    (h : predicate.response = predicateResponse (submitted posted store)) :
    SameAnswer (submitForm posted store) predicate := by
  rcases submitForm_cases posted store with haccepted | hrejected
  · obtain ⟨p, hvalid, hresponse, hcalls⟩ := haccepted
    rw [predicateResponse, hvalid] at h
    refine .accepted p ?_ hcalls h
    rw [hresponse, Response.seeOther]
  · obtain ⟨e, hvalid, hresponse, hcalls⟩ := hrejected
    rw [predicateResponse, hvalid] at h
    exact .rejected e _ _ hresponse hcalls h

/-- A form that is posted as it is shown is submitted as it was seeded. -/
theorem submitted_shown (store : Store) :
    submitted (.shown (Form.mount store).state) store = (Form.mount store).state := by
  rw [submitted, Form.updateAll_state]
  exact PostedForm.editAll_edits_shown _

/-- The form of a page that is posted back unchanged leaves the form of the query as it is, and is
answered as the predicate of the query is. -/
theorem resubmission_is_search (hs : s.Serves publicUrl path) {shown posted asked : Request}
    (hshown : shown.IsFor path q) (hget : shown.method = "GET")
    (hposted : posted.IsFor path q) (hpost : posted.method = "POST")
    (hasked : asked.IsFor (predicatePath path) q) (haskedGet : asked.method = "GET")
    (htype : posted.carriesForm)
    (hbody : posted.body = (PostedForm.ofTags (Tag.read (s.respond shown).response.body)).body)
    (hlength : posted.body.length ≤ Request.maxBody) :
    (∃ store f, s.store posted = .ok store ∧ posted.form = .ok f ∧
      f = PostedForm.ofTags (Tag.read (s.respond shown).response.body) ∧
      submitted f store = (Form.mount store).state) ∧
    ((s.respond posted).response.status = 303 ↔ (s.respond asked).response.status = 200) ∧
    SameAnswer (s.respond posted) (s.respond asked) := by
  obtain ⟨rest, hrooted⟩ := hs.plain.isRooted
  obtain ⟨hpostedTarget, hquery⟩ := target_of_isFor hrooted hposted
  obtain ⟨haskedTarget, _⟩ := target_of_isFor hrooted.predicate hasked
  have hread := hs.ofTags_shown hshown hget
  have hform := Request.form_of_body htype hbody hlength
  obtain ⟨u, hstore, _, hpairs, hreply⟩ := hs.respond_posted hquery hpostedTarget hpost
  -- Page, submission and predicate are all about the form that the query fills.
  have hmount : (Form.mount (.url u)).state = FormState.ofQuery q := ofParams_url hpairs
  have hunchanged := submitted_shown (.url u)
  rw [hmount] at hunchanged
  have hgiven := (hs.respond_predicatePath hquery haskedTarget haskedGet).1
  have hsame : SameAnswer (s.respond posted) (s.respond asked) := by
    rw [hreply, hform, hread]
    refine sameAnswer_of_submitted ?_
    rw [hgiven, hunchanged]
  refine ⟨⟨.url u, _, hstore, hform, rfl, ?_⟩, status_of_sameAnswer hsame, hsame⟩
  rw [hread, hunchanged, hmount]

/-- What is read from the page of the sample query. -/
def sampleForm : PostedForm :=
  .ofTags (Tag.read (sample.respond (sampleRequest "GET" "/tokens/history" [])).response.body)

theorem resubmission_is_search_leap :
    SameAnswer (sample.respond (sampleRequest "POST" "/tokens/history" sampleForm.body))
      (sample.respond (sampleRequest "GET" (predicatePath "/tokens/history") [])) := by
  have hshown := isFor_samplePage "GET" []
  have hposted := isFor_samplePage "POST" sampleForm.body
  have hasked : (sampleRequest "GET" (predicatePath "/tokens/history") []).IsFor
      (predicatePath "/tokens/history") ("?" ++ sampleQuery) :=
    isFor_sampleRequest "GET" [] (by decide +kernel)
  have hform : sampleForm = PostedForm.shown (FormState.ofQuery ("?" ++ sampleQuery)) :=
    sample_serves.ofTags_shown hshown rfl
  have hbody := body_sampleRequest "POST" "/tokens/history" sampleForm.body
  have hlength : sampleForm.body.length ≤ Request.maxBody := by
    rw [hform]
    decide +kernel
  exact (resubmission_is_search sample_serves hshown rfl hposted rfl hasked rfl rfl hbody
    hlength).2.2

end Site

end HistorySearch
