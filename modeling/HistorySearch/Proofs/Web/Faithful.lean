-- SUMMARY: All that a page was rendered for can be told from its text.
import HistorySearch.Proofs.Web.Openings
import HistorySearch.Proofs.Web.Resubmission

/-!
# Faithful pages

Texts of any kind are put into a page, yet its tags depend only on which fields have an error and
which token type is chosen. Each text is found again behind its opening, whatever characters it has,
so that pages are the same only if all that they were rendered for is shown the same.
-/

namespace HistorySearch

-- ---------------------------------------------------------------------------
-- Markup without some tags
-- ---------------------------------------------------------------------------

namespace Html

def names (h : Html) : List String :=
  (Tag.ofHtml h).map (·.name)

/-- No tag of markup satisfies a condition. -/
def Lacks (q : Tag → Bool) (h : Html) : Prop :=
  ∀ t ∈ Tag.ofHtml h, q t = false

theorem Lacks.append {q : Tag → Bool} {g h : Html} (hg : Lacks q g) (hh : Lacks q h) :
    Lacks q (g ++ h) := by
  intro t ht
  rw [Tag.ofHtml_append] at ht
  exact (List.mem_append.mp ht).elim (hg t) (hh t)

theorem Lacks.flatMap {α : Type} {q : Tag → Bool} {f : α → Html} {xs : List α}
    (h : ∀ x ∈ xs, Lacks q (f x)) : Lacks q (xs.flatMap f) := by
  induction xs with
  | nil => exact fun _ ht => nomatch ht
  | cons x xs ih =>
    exact (h x List.mem_cons_self).append (ih fun y hy => h y (List.mem_cons_of_mem _ hy))

theorem lacks_of_name {q : Tag → Bool} {name : String} (hq : ∀ t, q t → t.name = name)
    {h : Html} (hname : name ∉ names h) : Lacks q h := by
  intro t ht
  rw [Bool.eq_false_iff]
  intro htrue
  exact hname (hq t htrue ▸ List.mem_map_of_mem ht)

theorem dropWhile_append_of_lacks {q : Tag → Bool} {h : Html} (hlacks : Lacks q h) (rest : Html) :
    (h ++ rest).dropWhile (!isTagWith q ·) = rest.dropWhile (!isTagWith q ·) := by
  refine List.dropWhile_append_of_pos fun p hp => ?_
  cases htag : Tag.ofPiece p with
  | none => rw [isTagWith, htag, Option.any_none, Bool.not_false]
  | some t =>
    have hmem : t ∈ Tag.ofHtml h := List.mem_filterMap.mpr ⟨p, hp, htag⟩
    rw [isTagWith, htag, Option.any_some, hlacks t hmem, Bool.not_false]

theorem dropWhile_of_lacks {q : Tag → Bool} {h : Html} (hlacks : Lacks q h) :
    h.dropWhile (!isTagWith q ·) = [] := by
  rw [← List.append_nil h]
  exact dropWhile_append_of_lacks hlacks []

end Html

-- ---------------------------------------------------------------------------
-- The page
-- ---------------------------------------------------------------------------

namespace Page

theorem isClear_errorText (errors : FieldErrors) (field : Field) :
    (errorText errors field).all Html.isClear := by
  unfold errorText
  split
  · simp [Html.element, Html.text, Html.isClear]
  · rfl

theorem isClear_option (selected choice : TokenFilter) :
    (option selected choice).all Html.isClear := by
  unfold option
  split
  · simp [Html.element, Html.text, Html.isClear]
  · simp [Html.element, Html.text, Html.isClear]

theorem isClear_page (state : FormState) (errors : FieldErrors) (action : String) :
    (page state errors action).all Html.isClear := by
  simp [page, head, form, Html.element, Html.void, Html.text, Html.isClear, Field.all, fieldBlock,
    input, textInput, dateInput, tokenTypeInput, naming, TokenFilter.all, TokenType.all,
    isClear_errorText, isClear_option, -List.all_eq_true]

theorem isTidy_page (state : FormState) (errors : FieldErrors) (action : String) :
    Html.IsTidy (page state errors action) :=
  ⟨isNamed_page state errors action, isClear_page state errors action⟩

def textOpening (field : Field) : String :=
  "<input type=\"text\" id=\"" ++ field.name ++ "\" name=\"" ++ field.name ++ "\" value=\""

def dateOpening (field : Field) : String :=
  "<input type=\"datetime-local\" id=\"" ++ field.name ++ "\" name=\"" ++ field.name ++
    "\" step=\"1\" value=\""

/-- What stands in front of the address to which the form is posted. -/
def actionOpening : String :=
  "<form method=\"post\" action=\""

def errorOpening (field : Field) : String :=
  "<p class=\"error\" id=\"" ++ field.name ++ "-error\">"

/-- The attributes of an input in front of its value. -/
def lead (field : Field) : List (String × Option String) :=
  match field with
  | .sinceDate | .untilDate =>
    ("type", some "datetime-local") :: naming field ++ [("step", some "1")]
  | _ => ("type", some "text") :: naming field

def errorTag (field : Field) : Tag :=
  ⟨"p", [("class", some "error"), ("id", some (field.name ++ "-error"))]⟩

theorem input_eq (state : FormState) {field : Field} (h : field ≠ .tokenType) :
    ∃ more, input state field =
      [.openTag "input"
        (lead field ++ ("value", some ((PostedForm.shown state).text field)) :: more)] := by
  cases field with
  | tokenType => contradiction
  | key => exact ⟨_, rfl⟩
  | ipAddress => exact ⟨_, rfl⟩
  | sinceDate => exact ⟨_, rfl⟩
  | untilDate => exact ⟨_, rfl⟩

def front (action : String) : Html :=
  .doctype :: .text "\n" :: .openTag "html" [("lang", some "en")] ::
    (head ++ .openTag "body" [] :: (Html.element "h1" [] (Html.text title) ++
      [.openTag "form" [("method", some "post"), ("action", some action)]]))

def back : Html :=
  Html.element "button" [("type", some "submit")] (Html.text "Search") ++
    [.closeTag "form", .closeTag "body", .closeTag "html", .text "\n"]

theorem page_eq (state : FormState) (errors : FieldErrors) (action : String) :
    page state errors action =
      front action ++ (Field.all.flatMap (fieldBlock state errors) ++ back) := by
  simp [page, front, back, form, Html.element, Html.text]

/-- The start of a field, up to its input. -/
def labelled (field : Field) : Html :=
  .openTag "div" [("class", some "field")] ::
    Html.element "label" [("for", some field.name)] (Html.text (label field))

theorem fieldBlock_eq (state : FormState) (errors : FieldErrors) (field : Field) :
    fieldBlock state errors field =
      labelled field ++ (input state field ++ (errorText errors field ++ [.closeTag "div"])) := by
  simp [fieldBlock, labelled, Html.element]

/-! ## Tags of the page -/

theorem ofHtml_errorText (errors : FieldErrors) (field : Field) :
    Tag.ofHtml (errorText errors field) =
      if errors.contains field then [errorTag field, ⟨"/p", []⟩] else [] := by
  unfold errorText FieldErrors.contains
  split
  · next h => simp [h, Html.text, errorTag]
  · next h => simp [h]

theorem names_tokenTypeInput (selected : TokenFilter) : Html.names (tokenTypeInput selected) =
    ["select", "option", "/option", "option", "/option", "option", "/option", "option", "/option",
      "option", "/option", "/select"] :=
  rfl

/-- The names of the tags around the inputs and errors of a page. -/
def frame : List String :=
  ["!DOCTYPE", "html", "head", "meta", "title", "/title", "/head", "body", "h1", "/h1", "form",
    "div", "label", "/label", "/div", "button", "/button", "/form", "/body", "/html"]

/-! ## First tags -/

section First

variable {q : Tag → Bool} {name : String} (hq : ∀ t, q t → t.name = name) (hname : name ∉ frame)
  {state : FormState} {errors : FieldErrors}

include hq hname

theorem lacks_of_subset_frame {h : Html} (hsub : Html.names h ⊆ frame) : Html.Lacks q h :=
  Html.lacks_of_name hq fun hmem => hname (hsub hmem)

theorem lacks_front (action : String) : Html.Lacks q (front action) := by
  have hnames : Html.names (front action) = frame.take 11 := rfl
  refine lacks_of_subset_frame hq hname ?_
  rw [hnames]
  exact List.take_subset 11 frame

theorem lacks_labelled (field : Field) : Html.Lacks q (labelled field) := by
  have hnames : Html.names (labelled field) = ["div", "label", "/label"] := rfl
  refine lacks_of_subset_frame hq hname ?_
  rw [hnames]
  decide

/-- A field has the tags of its own input and error. -/
theorem lacks_fieldBlock {field : Field} (hinput : Html.Lacks q (input state field))
    (herror : Html.Lacks q (errorText errors field)) :
    Html.Lacks q (fieldBlock state errors field) := by
  have hend : Html.Lacks q [.closeTag "div"] := lacks_of_subset_frame hq hname (by decide)
  rw [fieldBlock_eq]
  exact (lacks_labelled hq hname field).append (hinput.append (herror.append hend))

/-- A page has the tags of its inputs and errors. -/
theorem lacks_page (hinputs : ∀ field, Html.Lacks q (input state field))
    (herrors : ∀ field, Html.Lacks q (errorText errors field)) (action : String) :
    Html.Lacks q (page state errors action) := by
  have hblocks : Html.Lacks q (Field.all.flatMap (fieldBlock state errors)) :=
    .flatMap fun field _ => lacks_fieldBlock hq hname (hinputs field) (herrors field)
  have hback : Html.Lacks q back := lacks_of_subset_frame hq hname (by decide)
  rw [page_eq]
  exact (lacks_front hq hname action).append (hblocks.append hback)

/-- A tag that no other field has is searched for in the input and the error of its field. -/
theorem dropWhile_page {field : Field}
    (hothers : ∀ other, other ≠ field →
      Html.Lacks q (input state other) ∧ Html.Lacks q (errorText errors other))
    (action : String) :
    ∃ rest, (page state errors action).dropWhile (!Html.isTagWith q ·) =
      (input state field ++ (errorText errors field ++ rest)).dropWhile (!Html.isTagWith q ·) := by
  have hmem : field ∈ Field.all := by cases field <;> decide
  obtain ⟨before, after, hall, hnot⟩ := List.eq_append_cons_of_mem hmem
  have hbefore : Html.Lacks q (before.flatMap (fieldBlock state errors)) := by
    refine .flatMap fun other hother => ?_
    obtain ⟨hinput, herror⟩ := hothers other fun heq => hnot (heq ▸ hother)
    exact lacks_fieldBlock hq hname hinput herror
  refine ⟨.closeTag "div" :: (after.flatMap (fieldBlock state errors) ++ back), ?_⟩
  rw [page_eq, hall, List.flatMap_append, List.flatMap_cons, List.append_assoc, List.append_assoc,
    Html.dropWhile_append_of_lacks (lacks_front hq hname action),
    Html.dropWhile_append_of_lacks hbefore, fieldBlock_eq, List.append_assoc,
    Html.dropWhile_append_of_lacks (lacks_labelled hq hname field), List.append_assoc,
    List.append_assoc]
  rfl

end First

/-! ## Inputs -/

theorem name_of_startsAs {name : String} {before : List (String × Option String)} {t : Tag}
    (h : Html.startsAs name before t) : t.name = name := by
  rw [Html.startsAs, Bool.and_eq_true] at h
  exact of_decide_eq_true h.1

theorem startsAs_lead {field : Field} {other : Field} (h : other ≠ field)
    (more : List (String × Option String)) :
    Html.startsAs "input" (lead field) ⟨"input", lead other ++ more⟩ = false := by
  cases field <;> cases other <;> first | contradiction | rfl

theorem lacks_errorText {q : Tag → Bool} {name : String} (hq : ∀ t, q t → t.name = name)
    (hname : name ∉ ["p", "/p"]) (errors : FieldErrors) (field : Field) :
    Html.Lacks q (errorText errors field) := by
  refine Html.lacks_of_name hq ?_
  rw [Html.names, ofHtml_errorText]
  split
  · exact hname
  · exact List.not_mem_nil

/-- Fields have inputs of their own. -/
theorem lacks_input {field other : Field} (h : other ≠ field) (state : FormState) :
    Html.Lacks (Html.startsAs "input" (lead field)) (input state other) := by
  by_cases hchoice : other = .tokenType
  · subst hchoice
    refine Html.lacks_of_name (fun _ => name_of_startsAs) ?_
    rw [input, names_tokenTypeInput]
    decide
  · obtain ⟨more, hinput⟩ := input_eq state hchoice
    rw [hinput]
    intro t ht
    obtain rfl := List.mem_singleton.mp ht
    exact startsAs_lead h _

/-- The first input of its kind on the page is the one of the field. -/
theorem dropWhile_page_input (state : FormState) (errors : FieldErrors) (action : String)
    {field : Field} (h : field ≠ .tokenType) :
    ∃ more rest, (page state errors action).dropWhile
        (!Html.isTagWith (Html.startsAs "input" (lead field)) ·) =
      .openTag "input"
        (lead field ++ ("value", some ((PostedForm.shown state).text field)) :: more) :: rest := by
  obtain ⟨rest, hrest⟩ := dropWhile_page (fun _ => name_of_startsAs) (by decide)
    (fun other hother => ⟨lacks_input hother state,
      lacks_errorText (fun _ => name_of_startsAs) (by decide) errors other⟩) action
  obtain ⟨more, hinput⟩ := input_eq state h
  refine ⟨more, errorText errors field ++ rest, ?_⟩
  rw [hrest, hinput]
  simp [Html.startsAs]

theorem between?_value (state : FormState) (errors : FieldErrors) (action : String)
    {field : Field} (h : field ≠ .tokenType) :
    Markup.between? (String.ofList (Html.valueOpening "input" (lead field) "value")) '"'
        (render state errors action) =
      some (Markup.attributeValue ((PostedForm.shown state).text field)).toList := by
  have hlead : ∀ b ∈ lead field, Tag.isName b.1 := by
    rw [← List.all_eq_true]
    cases field <;> decide
  obtain ⟨more, rest, hfirst⟩ := dropWhile_page_input state errors action h
  exact Html.between?_render_value (by decide) hlead (by decide) (isTidy_page state errors action)
    hfirst

theorem textOpening_eq {field : Field} (h : field = .key ∨ field = .ipAddress) :
    textOpening field = String.ofList (Html.valueOpening "input" (lead field) "value") := by
  rcases h with rfl | rfl <;> decide

theorem dateOpening_eq {field : Field} (h : field = .sinceDate ∨ field = .untilDate) :
    dateOpening field = String.ofList (Html.valueOpening "input" (lead field) "value") := by
  rcases h with rfl | rfl <;> decide

/-- A text that was typed is found again. -/
theorem unescaped?_text (state : FormState) (errors : FieldErrors) (action : String)
    {field : Field} (h : field = .key ∨ field = .ipAddress) :
    Markup.unescaped? (textOpening field) '"' (render state errors action) =
      some ((PostedForm.shown state).text field) := by
  have hfield : field ≠ .tokenType := by rintro rfl; simp at h
  rw [textOpening_eq h]
  exact Markup.unescaped?_of_attribute (between?_value state errors action hfield)

/-- The characters of dates are not special in markup. -/
theorem attributeChar_of_isTextChar {c : Char} (h : Timestamp.isTextChar c) :
    Markup.attributeChar c = [c] := by
  have hne : ∀ d, Timestamp.isTextChar d = false → c ≠ d := by
    rintro d hd rfl
    exact Bool.eq_false_iff.mp hd h
  rw [Markup.attributeChar, if_neg (hne '"' (by decide)), Markup.textChar,
    if_neg (hne '&' (by decide)), if_neg (hne '<' (by decide)), if_neg (hne '>' (by decide))]

theorem attributeValue_inputText (date : Option Timestamp) :
    Markup.attributeValue (Timestamp.inputText date) = Timestamp.inputText date := by
  cases date with
  | none => rfl
  | some t =>
    have hchars : t.inputValueChars.flatMap Markup.attributeChar = t.inputValueChars := by
      rw [List.flatMap_congr fun c hc =>
        attributeChar_of_isTextChar (Timestamp.isTextChar_of_mem_inputValueChars hc)]
      exact List.flatMap_singleton' _
    rw [Timestamp.inputText, Option.map_some, Option.getD_some, Timestamp.inputValue,
      Markup.attributeValue, String.toList_ofList, hchars]

/-- A date is found as it is written. -/
theorem between?_date (state : FormState) (errors : FieldErrors) (action : String)
    {field : Field} (h : field = .sinceDate ∨ field = .untilDate) :
    (Markup.between? (dateOpening field) '"' (render state errors action)).map String.ofList =
      some ((PostedForm.shown state).text field) := by
  have hfield : field ≠ .tokenType := by rintro rfl; simp at h
  have hdate : Markup.attributeValue ((PostedForm.shown state).text field) =
      (PostedForm.shown state).text field := by
    rcases h with rfl | rfl
    · exact attributeValue_inputText state.earliest
    · exact attributeValue_inputText state.latest
  rw [dateOpening_eq h, between?_value state errors action hfield, Option.map_some,
    String.ofList_toList, hdate]

theorem unescaped?_action (state : FormState) (errors : FieldErrors) (action : String) :
    Markup.unescaped? actionOpening '"' (render state errors action) = some action := by
  have hopening : actionOpening =
      String.ofList (Html.valueOpening "form" [("method", some "post")] "action") := by decide
  have hfirst : (page state errors action).dropWhile
        (!Html.isTagWith (Html.startsAs "form" [("method", some "post")]) ·) =
      .openTag "form" ([("method", some "post")] ++ ("action", some action) :: []) ::
        (Field.all.flatMap (fieldBlock state errors) ++ back) := by
    rw [page_eq]
    simp [front, head, Html.element, Html.void, Html.text, Html.startsAs]
  rw [hopening]
  apply Markup.unescaped?_of_attribute
  exact Html.between?_render_value (by decide) (by decide) (by decide)
    (isTidy_page state errors action) hfirst

/-! ## Errors -/

theorem errorTag_injective {field other : Field} (h : errorTag other = errorTag field) :
    other = field := by
  revert h
  cases field <;> cases other <;> decide

theorem lacks_otherError {field other : Field} (h : other ≠ field) (errors : FieldErrors) :
    Html.Lacks (· = errorTag field) (errorText errors other) := by
  intro t ht
  rw [ofHtml_errorText] at ht
  split at ht
  · rcases List.mem_pair.mp ht with rfl | rfl
    · exact decide_eq_false fun heq => h (errorTag_injective heq)
    · exact decide_eq_false (by simp [errorTag])
  · contradiction

theorem p_not_mem_names_input (state : FormState) (field : Field) :
    "p" ∉ Html.names (input state field) := by
  by_cases h : field = .tokenType
  · subst h
    rw [input, names_tokenTypeInput]
    decide
  · obtain ⟨more, hinput⟩ := input_eq state h
    rw [hinput]
    simp [Html.names, Tag.ofHtml, Tag.ofPiece]

section Error

variable (state : FormState) (errors : FieldErrors) (action : String) (field : Field)

theorem name_of_errorTag {t : Tag} (h : decide (t = errorTag field)) : t.name = "p" := by
  rw [of_decide_eq_true h]
  rfl

theorem lacks_input_error (other : Field) :
    Html.Lacks (· = errorTag field) (input state other) :=
  Html.lacks_of_name (fun _ => name_of_errorTag field) (p_not_mem_names_input state other)

/-- The error of a field stands behind its tag. -/
theorem dropWhile_page_error {message : String} (h : errors.get? field = some message) :
    ∃ rest, (page state errors action).dropWhile (!Html.isTagWith (· = errorTag field) ·) =
      .openTag "p" (errorTag field).attributes :: .text message :: .closeTag "p" :: rest := by
  obtain ⟨rest, hrest⟩ := dropWhile_page (fun _ => name_of_errorTag field) (by decide)
    (fun other hother => ⟨lacks_input_error state field other, lacks_otherError hother errors⟩)
    action
  refine ⟨rest, ?_⟩
  rw [hrest, Html.dropWhile_append_of_lacks (lacks_input_error state field field)]
  simp [errorText, h, Html.element, Html.text, errorTag]

/-- Without an error there is no tag for one. -/
theorem lacks_page_error (h : errors.get? field = none) :
    Html.Lacks (· = errorTag field) (page state errors action) := by
  refine lacks_page (fun _ => name_of_errorTag field) (by decide) (lacks_input_error state field)
    (fun other => ?_) action
  by_cases hother : other = field
  · rw [hother, errorText, h]
    exact fun _ ht => nomatch ht
  · exact lacks_otherError hother errors

theorem errorOpening_eq : errorOpening field =
    String.ofList (Html.pieceChars (.openTag "p" (errorTag field).attributes)) := by
  cases field <;> decide

/-- An error is found again, and only where there is one. -/
theorem unescaped?_error :
    Markup.unescaped? (errorOpening field) '<' (render state errors action) =
      errors.get? field := by
  have hopen : Tag.isNamed (.openTag "p" (errorTag field).attributes) := by
    cases field <;> decide
  have htidy := isTidy_page state errors action
  rw [errorOpening_eq]
  cases h : errors.get? field with
  | none =>
    have hnone := Html.dropWhile_of_lacks (lacks_page_error state errors action field h)
    have hbetween := Html.between?_render_eq_none (Html.opens_tag hopen) htidy hnone '<'
    rw [Markup.unescaped?, render]
    exact congrArg _ hbetween
  | some message =>
    obtain ⟨rest, hfirst⟩ := dropWhile_page_error state errors action field h
    apply Markup.unescaped?_of_text
    exact Html.between?_render_text hopen htidy hfirst

end Error

end Page

-- ---------------------------------------------------------------------------
-- Tags without texts
-- ---------------------------------------------------------------------------

namespace Tag

/-- Whether an attribute holds a text that was put into the page. -/
def holdsText (tag name : String) : Bool :=
  [("input", "value"), ("form", "action")].contains (tag, name)

/-- A tag without the texts in it. -/
def blank (t : Tag) : Tag :=
  { t with attributes := t.attributes.map fun a => if holdsText t.name a.1 then (a.1, none) else a }

/-- The tags of a page without the texts in them. -/
def outline (page : String) : List Tag :=
  (read page).map blank

theorem name_blank (t : Tag) : t.blank.name = t.name := rfl

theorem blank_of_name {t : Tag} (h : t.name ∉ ["input", "form"]) : t.blank = t := by
  have hholds : ∀ name, holdsText t.name name = false := by
    intro name
    simp only [List.mem_cons, List.not_mem_nil, or_false, not_or] at h
    simp [holdsText, h]
  simp [blank, hholds]

/-- A condition on tags that hold no texts does not depend on texts. -/
theorem satisfies_blank {q : Tag → Bool} {name : String} (hq : ∀ t, q t → t.name = name)
    (hname : name ∉ ["input", "form"]) (t : Tag) : q t.blank = q t := by
  by_cases h : t.name = name
  · rw [blank_of_name (h ▸ hname)]
  · have hbefore : ¬q t := fun htrue => h (hq t htrue)
    have hafter : ¬q t.blank := fun htrue => h (hq t.blank htrue)
    rw [Bool.eq_false_iff.mpr hbefore, Bool.eq_false_iff.mpr hafter]

theorem find?_map_blank {q : Tag → Bool} {name : String} (hq : ∀ t, q t → t.name = name)
    (hname : name ∉ ["input", "form"]) (ts : List Tag) :
    (ts.map blank).find? q = ts.find? q := by
  have hsame : q ∘ blank = q := funext (satisfies_blank hq hname)
  rw [List.find?_map, hsame]
  cases h : ts.find? q with
  | none => rfl
  | some t =>
    have ht := hq t (List.find?_some h)
    rw [Option.map_some, blank_of_name (ht ▸ hname)]

theorem optionValue_blank (ts : List Tag) : optionValue (ts.map blank) = optionValue ts := by
  have hname : ∀ t : Tag, (t.name = "option" && (t.attributes.lookup "selected").isSome) →
      t.name = "option" := by
    intro t h
    exact of_decide_eq_true (Bool.and_eq_true_iff.mp h).1
  simp only [optionValue, find?_map_blank hname (by decide)]

/-- The choice that is made can be told without texts. -/
theorem selectedValue_blank (ts : List Tag) (field : Field) :
    selectedValue (ts.map blank) field = selectedValue ts field := by
  have hstart : (!isFor "select" field ·) ∘ blank = (!isFor "select" field ·) := by
    funext t
    have hname : ∀ t, isFor "select" field t → t.name = "select" := by
      intro t h
      exact of_decide_eq_true (Bool.and_eq_true_iff.mp h).1
    exact congrArg not (satisfies_blank hname (by decide) t)
  have hend : (!endsChoice ·) ∘ blank = (!endsChoice ·) := rfl
  rw [selectedValue, List.dropWhile_map, hstart, List.takeWhile_map, hend, optionValue_blank,
    selectedValue]

end Tag

namespace Page

section Outline

variable (state : FormState) (errors : FieldErrors) (action : String)

theorem outline_render :
    Tag.outline (render state errors action) =
      (Tag.ofHtml (page state errors action)).map Tag.blank := by
  rw [Tag.outline, render, Tag.read_render (isNamed_page state errors action)]

/-- The tag of an error is on the page exactly if there is one. -/
theorem errorTag_mem_outline (field : Field) :
    errorTag field ∈ Tag.outline (render state errors action) ↔ errors.contains field := by
  have hblank : ∀ t : Tag, t.name = "p" → t.blank = t := by
    intro t h
    exact Tag.blank_of_name (h ▸ by decide)
  rw [outline_render, List.mem_map, FieldErrors.contains]
  constructor
  · rintro ⟨t, hmem, ht⟩
    have hname : t.name = "p" := t.name_blank.symm.trans (congrArg Tag.name ht)
    rw [hblank t hname] at ht
    by_contra hnone
    have hget := Option.not_isSome_iff_eq_none.mp hnone
    have hlacks := lacks_page_error state errors action field hget
    exact of_decide_eq_false (hlacks t hmem) ht
  · intro hsome
    obtain ⟨message, h⟩ := Option.isSome_iff_exists.mp hsome
    obtain ⟨rest, hfirst⟩ := dropWhile_page_error state errors action field h
    have hpiece : .openTag "p" (errorTag field).attributes ∈ page state errors action := by
      refine (List.dropWhile_sublist (!Html.isTagWith (· = errorTag field) ·)).mem ?_
      rw [hfirst]
      exact List.mem_cons_self
    exact ⟨errorTag field, List.mem_filterMap.mpr ⟨_, hpiece, rfl⟩, hblank _ rfl⟩

/-- The choice that is made on a page can be told from its outline. -/
theorem selectedValue_outline :
    Tag.selectedValue (Tag.outline (render state errors action)) .tokenType =
      state.tokenFilter.name := by
  rw [outline_render, Tag.selectedValue_blank, selectedValue_page]

end Outline

variable {state state' : FormState} {errors errors' : FieldErrors} {action action' : String}

theorem blank_input (h : state.tokenFilter = state'.tokenFilter) (field : Field) :
    (Tag.ofHtml (input state field)).map Tag.blank =
      (Tag.ofHtml (input state' field)).map Tag.blank := by
  cases field with
  | tokenType => rw [input, input, h]
  | key => rfl
  | ipAddress => rfl
  | sinceDate => rfl
  | untilDate => rfl

/-- Without texts, blocks differ only by the choice and by whether there is an error. -/
theorem blank_fieldBlock (hchoice : state.tokenFilter = state'.tokenFilter) {field : Field}
    (herror : errors.contains field = errors'.contains field) :
    (Tag.ofHtml (fieldBlock state errors field)).map Tag.blank =
      (Tag.ofHtml (fieldBlock state' errors' field)).map Tag.blank := by
  simp only [fieldBlock_eq, Tag.ofHtml_append, List.map_append, ofHtml_errorText,
    blank_input hchoice field, herror]

theorem blank_blocks (hchoice : state.tokenFilter = state'.tokenFilter)
    (herrors : ∀ field, errors.contains field = errors'.contains field) (fields : List Field) :
    (Tag.ofHtml (fields.flatMap (fieldBlock state errors))).map Tag.blank =
      (Tag.ofHtml (fields.flatMap (fieldBlock state' errors'))).map Tag.blank := by
  induction fields with
  | nil => rfl
  | cons field fields ih =>
    simp only [List.flatMap_cons, Tag.ofHtml_append, List.map_append,
      blank_fieldBlock hchoice (herrors field), ih]

theorem outline_render_iff :
    Tag.outline (render state errors action) = Tag.outline (render state' errors' action') ↔
      (∀ field, errors.contains field = errors'.contains field) ∧
        state.tokenFilter = state'.tokenFilter := by
  constructor
  · intro h
    constructor
    · intro field
      rw [Bool.eq_iff_iff, ← errorTag_mem_outline state errors action, h, errorTag_mem_outline]
    · have hname : state.tokenFilter.name = state'.tokenFilter.name := by
        rw [← selectedValue_outline state errors action, h, selectedValue_outline]
      have hread := congrArg TokenFilter.read hname
      rw [TokenFilter.read_name, TokenFilter.read_name] at hread
      exact Except.ok.inj hread
  · rintro ⟨herrors, hchoice⟩
    have hfront : (Tag.ofHtml (front action)).map Tag.blank =
        (Tag.ofHtml (front action')).map Tag.blank := rfl
    rw [outline_render, outline_render, page_eq, page_eq]
    simp only [Tag.ofHtml_append, List.map_append, hfront, blank_blocks hchoice herrors]

-- ---------------------------------------------------------------------------
-- Faithfulness
-- ---------------------------------------------------------------------------

/-- The texts that are found in a page, each behind its opening. Dates stand there as they are. -/
structure Tells (page : String) (state : FormState) (errors : FieldErrors) (action : String) :
    Prop where
  key : Markup.unescaped? (textOpening .key) '"' page = some state.key
  ipAddress : Markup.unescaped? (textOpening .ipAddress) '"' page = some state.ipAddress
  earliest : (Markup.between? (dateOpening .sinceDate) '"' page).map String.ofList =
    some (Timestamp.inputText state.earliest)
  latest : (Markup.between? (dateOpening .untilDate) '"' page).map String.ofList =
    some (Timestamp.inputText state.latest)
  errors : ∀ field, Markup.unescaped? (errorOpening field) '<' page = errors.get? field
  action : Markup.unescaped? actionOpening '"' page = some action

theorem tells_render (state : FormState) (errors : FieldErrors) (action : String) :
    Tells (render state errors action) state errors action where
  key := unescaped?_text state errors action (.inl rfl)
  ipAddress := unescaped?_text state errors action (.inr rfl)
  earliest := between?_date state errors action (.inl rfl)
  latest := between?_date state errors action (.inr rfl)
  errors := unescaped?_error state errors action
  action := unescaped?_action state errors action

/-- Two forms, errors and addresses that a page does not tell apart. -/
structure Alike (state state' : FormState) (errors errors' : FieldErrors)
    (action action' : String) : Prop where
  key : state.key = state'.key
  tokenFilter : state.tokenFilter = state'.tokenFilter
  ipAddress : state.ipAddress = state'.ipAddress
  earliest : Timestamp.inputText state.earliest = Timestamp.inputText state'.earliest
  latest : Timestamp.inputText state.latest = Timestamp.inputText state'.latest
  errors : errors = errors'
  action : action = action'

theorem input_congr (h : Alike state state' errors errors' action action') (field : Field) :
    input state field = input state' field := by
  cases field with
  | key => rw [input, input, h.key]
  | tokenType => rw [input, input, h.tokenFilter]
  | ipAddress => rw [input, input, h.ipAddress]
  | sinceDate => rw [input, input, dateInput, dateInput, h.earliest]
  | untilDate => rw [input, input, dateInput, dateInput, h.latest]

theorem render_congr (h : Alike state state' errors errors' action action') :
    render state errors action = render state' errors' action' := by
  have hblock : fieldBlock state errors = fieldBlock state' errors' := by
    funext field
    rw [fieldBlock, fieldBlock, input_congr h, h.errors]
  rw [render, render, page_eq, page_eq, hblock, h.action]

theorem errors_ext (h : ∀ field, errors.get? field = errors'.get? field) : errors = errors' := by
  obtain ⟨key, tokenType, ipAddress, sinceDate, untilDate⟩ := errors
  obtain ⟨key', tokenType', ipAddress', sinceDate', untilDate'⟩ := errors'
  rw [FieldErrors.mk.injEq]
  exact ⟨h .key, h .tokenType, h .ipAddress, h .sinceDate, h .untilDate⟩

theorem alike_of_render_eq (h : render state errors action = render state' errors' action') :
    Alike state state' errors errors' action action' := by
  have hfirst := tells_render state errors action
  have hsecond := tells_render state' errors' action'
  have houtline := outline_render_iff.mp (congrArg Tag.outline h)
  rw [h] at hfirst
  exact {
    key := Option.some.inj (hfirst.key.symm.trans hsecond.key)
    tokenFilter := houtline.2
    ipAddress := Option.some.inj (hfirst.ipAddress.symm.trans hsecond.ipAddress)
    earliest := Option.some.inj (hfirst.earliest.symm.trans hsecond.earliest)
    latest := Option.some.inj (hfirst.latest.symm.trans hsecond.latest)
    errors := errors_ext fun field => (hfirst.errors field).symm.trans (hsecond.errors field)
    action := Option.some.inj (hfirst.action.symm.trans hsecond.action) }

/-- Texts do not change which tags a page has, each is found in it as it was given, and pages are
the same only for the same texts, dates as they are shown, errors and choice. -/
theorem render_faithful (state state' : FormState) (errors errors' : FieldErrors)
    (action action' : String) :
    (Tag.outline (render state errors action) = Tag.outline (render state' errors' action') ↔
      (∀ field, errors.contains field = errors'.contains field) ∧
        state.tokenFilter = state'.tokenFilter) ∧
    Tells (render state errors action) state errors action ∧
    (render state errors action = render state' errors' action' ↔
      Alike state state' errors errors' action action') :=
  ⟨outline_render_iff, tells_render state errors action, alike_of_render_eq, render_congr⟩

end Page

end HistorySearch
