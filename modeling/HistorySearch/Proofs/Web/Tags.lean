-- SUMMARY: The tags in the text of a page, read as a browser reads them.
import Mathlib.Tactic.SplitIfs
import HistorySearch.Web.Html

/-!
# Tags of a page

A reader of markup that sees nothing but its characters. What it finds in the text of rendered
markup is the tags that were rendered, each with the values that its attributes were given, so that
no value can end its attribute or start a tag.
-/

namespace HistorySearch

/-! ## References -/

namespace Markup

/-- A text with the references in it replaced by the characters that they stand for. -/
def unescape : List Char → List Char
  | '&' :: 'a' :: 'm' :: 'p' :: ';' :: cs => '&' :: unescape cs
  | '&' :: 'l' :: 't' :: ';' :: cs => '<' :: unescape cs
  | '&' :: 'g' :: 't' :: ';' :: cs => '>' :: unescape cs
  | '&' :: 'q' :: 'u' :: 'o' :: 't' :: ';' :: cs => '"' :: unescape cs
  | c :: cs => c :: unescape cs
  | [] => []

theorem unescape_cons {c : Char} (h : c ≠ '&') (cs : List Char) :
    unescape (c :: cs) = c :: unescape cs := by
  simp [unescape, h]

/-- The references of an attribute stand for its text. -/
theorem unescape_attributeChars (cs : List Char) : unescape (cs.flatMap attributeChar) = cs := by
  induction cs with
  | nil => rfl
  | cons c cs ih =>
    rw [List.flatMap_cons]
    by_cases hquote : c = '"'
    · subst hquote
      simp [attributeChar, unescape, ih]
    by_cases hamp : c = '&'
    · subst hamp
      simp [attributeChar, textChar, unescape, ih]
    by_cases hless : c = '<'
    · subst hless
      simp [attributeChar, textChar, unescape, ih]
    by_cases hgreater : c = '>'
    · subst hgreater
      simp [attributeChar, textChar, unescape, ih]
    · have hplain : attributeChar c = [c] := by
        simp [attributeChar, textChar, hquote, hamp, hless, hgreater]
      rw [hplain, List.singleton_append, unescape_cons hamp, ih]

/-- A character of text is written with no quote and no sign of a tag, except for a quote itself. -/
theorem mem_textChar {c d : Char} (h : d ∈ textChar c) : d ≠ '<' ∧ (c ≠ '"' → d ≠ '"') := by
  unfold textChar at h
  split_ifs at h with hamp hless hgreater
  rotate_right
  · rw [List.mem_singleton.mp h]
    exact ⟨hless, id⟩
  all_goals refine ⟨?_, fun _ => ?_⟩ <;> rintro rfl <;> simp at h

theorem quote_not_mem (cs : List Char) : '"' ∉ cs.flatMap attributeChar := by
  intro h
  obtain ⟨c, _, hc⟩ := List.mem_flatMap.mp h
  unfold attributeChar at hc
  split_ifs at hc with hquote
  · simp at hc
  · exact (mem_textChar hc).2 hquote rfl

theorem less_not_mem (cs : List Char) : '<' ∉ cs.flatMap textChar := by
  intro h
  obtain ⟨c, _, hc⟩ := List.mem_flatMap.mp h
  exact (mem_textChar hc).1 rfl

end Markup

/-! ## Reading -/

/-- A tag with its attributes. The name of a tag that ends an element starts with a slash. -/
structure Tag where
  name : String
  attributes : List (String × Option String)
  deriving DecidableEq

namespace Tag

/-- A tag with one more attribute. -/
def add (t : Tag) (a : String × Option String) : Tag :=
  { t with attributes := t.attributes ++ [a] }

/-- A tag with one more attribute that has no value, if its name is not empty. -/
def addName (t : Tag) (cs : List Char) : Tag :=
  if cs.isEmpty then t else t.add (String.ofList cs, none)

/-- Where reading has come to, with what was read of the tag. -/
inductive Place
  | outside
  | tagName (cs : List Char)
  | attributeName (t : Tag) (cs : List Char)
  /-- Between an equals sign and the quote. -/
  | equals (t : Tag) (a : List Char)
  /-- Within quotes. -/
  | value (t : Tag) (a cs : List Char)

/-- Reads one character, which may complete a tag. -/
def step : Place → Char → Place × Option Tag
  | .outside, c => (if c = '<' then .tagName [] else .outside, none)
  | .tagName cs, c =>
    if c = '>' then (.outside, some ⟨String.ofList cs, []⟩)
    else if c = ' ' then (.attributeName ⟨String.ofList cs, []⟩ [], none)
    else (.tagName (cs ++ [c]), none)
  | .attributeName t cs, c =>
    if c = '>' then (.outside, some (t.addName cs))
    else if c = ' ' then (.attributeName (t.addName cs) [], none)
    else if c = '=' then (.equals t cs, none)
    else (.attributeName t (cs ++ [c]), none)
  | .equals t a, _ => (.value t a [], none)
  | .value t a cs, c =>
    if c = '"' then
      (.attributeName (t.add (String.ofList a, some (String.ofList (Markup.unescape cs)))) [], none)
    else (.value t a (cs ++ [c]), none)

def readFrom : Place → List Char → List Tag
  | _, [] => []
  | p, c :: cs => (step p c).2.toList ++ readFrom (step p c).1 cs

def read (page : String) : List Tag :=
  readFrom .outside page.toList

/-! ## Runs of characters -/

def isNameChar (c : Char) : Bool :=
  c ≠ '>' && c ≠ ' ' && c ≠ '='

theorem readFrom_less (cs : List Char) :
    readFrom .outside ('<' :: cs) = readFrom (.tagName []) cs :=
  rfl

theorem readFrom_slash (cs : List Char) :
    readFrom (.tagName []) ('/' :: cs) = readFrom (.tagName ['/']) cs :=
  rfl

theorem readFrom_equals (t : Tag) (a cs : List Char) :
    readFrom (.attributeName t a) ('=' :: '"' :: cs) = readFrom (.value t a []) cs :=
  rfl

theorem readFrom_quote (t : Tag) (a ds cs : List Char) :
    readFrom (.value t a ds) ('"' :: cs) = readFrom (.attributeName
      (t.add (String.ofList a, some (String.ofList (Markup.unescape ds)))) []) cs :=
  rfl

theorem readFrom_outside {cs : List Char} (h : '<' ∉ cs) (rest : List Char) :
    readFrom .outside (cs ++ rest) = readFrom .outside rest := by
  induction cs with
  | nil => rfl
  | cons c cs ih =>
    have hc : c ≠ '<' := fun hc => h (hc ▸ List.mem_cons_self)
    have hcs : '<' ∉ cs := fun hcs => h (List.mem_cons_of_mem _ hcs)
    simpa [readFrom, step, hc] using ih hcs

theorem readFrom_tagName {cs : List Char} (h : ∀ c ∈ cs, isNameChar c) (ds rest : List Char) :
    readFrom (.tagName ds) (cs ++ rest) = readFrom (.tagName (ds ++ cs)) rest := by
  induction cs generalizing ds with
  | nil => simp
  | cons c cs ih =>
    have hc := h c List.mem_cons_self
    have hcs := ih (fun d hd => h d (List.mem_cons_of_mem _ hd)) (ds ++ [c])
    simp only [isNameChar, Bool.and_eq_true, decide_eq_true_eq] at hc
    simpa [readFrom, step, hc] using hcs

theorem readFrom_attributeName {cs : List Char} (h : ∀ c ∈ cs, isNameChar c) (t : Tag)
    (ds rest : List Char) :
    readFrom (.attributeName t ds) (cs ++ rest) = readFrom (.attributeName t (ds ++ cs)) rest := by
  induction cs generalizing ds with
  | nil => simp
  | cons c cs ih =>
    have hc := h c List.mem_cons_self
    have hcs := ih (fun d hd => h d (List.mem_cons_of_mem _ hd)) (ds ++ [c])
    simp only [isNameChar, Bool.and_eq_true, decide_eq_true_eq] at hc
    simpa [readFrom, step, hc] using hcs

theorem readFrom_value {cs : List Char} (h : '"' ∉ cs) (t : Tag) (a ds rest : List Char) :
    readFrom (.value t a ds) (cs ++ rest) = readFrom (.value t a (ds ++ cs)) rest := by
  induction cs generalizing ds with
  | nil => simp
  | cons c cs ih =>
    have hc : c ≠ '"' := fun hc => h (hc ▸ List.mem_cons_self)
    have hcs := ih (fun hcs => h (List.mem_cons_of_mem _ hcs)) (ds ++ [c])
    simpa [readFrom, step, hc] using hcs

/-! ## Attributes -/

def isName (s : String) : Bool :=
  !s.toList.isEmpty && s.toList.all isNameChar

theorem chars_of_isName {s : String} (h : isName s) :
    s.toList ≠ [] ∧ ∀ c ∈ s.toList, isNameChar c := by
  simp only [isName, Bool.and_eq_true, Bool.not_eq_true', List.all_eq_true] at h
  exact ⟨List.isEmpty_eq_false_iff.mp h.1, h.2⟩

/-- Reading is within a tag of which all attributes so far were read. -/
structure IsWithin (p : Place) (t : Tag) : Prop where
  space : step p ' ' = (.attributeName t [], none)
  close : step p '>' = (.outside, some t)

theorem isWithin_tagName (cs : List Char) : IsWithin (.tagName cs) ⟨String.ofList cs, []⟩ :=
  ⟨rfl, rfl⟩

theorem isWithin_attributeName (t : Tag) (cs : List Char) :
    IsWithin (.attributeName t cs) (t.addName cs) :=
  ⟨rfl, rfl⟩

theorem readFrom_space {p : Place} {t : Tag} (h : IsWithin p t) (cs : List Char) :
    readFrom p (' ' :: cs) = readFrom (.attributeName t []) cs := by
  rw [readFrom, h.space]
  rfl

theorem readFrom_close {p : Place} {t : Tag} (h : IsWithin p t) (cs : List Char) :
    readFrom p ('>' :: cs) = t :: readFrom .outside cs := by
  rw [readFrom, h.close]
  rfl

/-- A rendered attribute is read as the attribute. -/
theorem readFrom_renderAttribute {p : Place} {t : Tag} (h : IsWithin p t)
    {a : String × Option String} (ha : isName a.1) :
    ∃ p', IsWithin p' (t.add a) ∧
      ∀ rest, readFrom p ((Html.renderAttribute a).toList ++ rest) = readFrom p' rest := by
  obtain ⟨name, value⟩ := a
  obtain ⟨hne, hchars⟩ := chars_of_isName ha
  cases value with
  | none =>
    refine ⟨.attributeName t name.toList, ?_, fun rest => ?_⟩
    · have hadd : t.addName name.toList = t.add (name, none) := by
        rw [addName, List.isEmpty_eq_false_iff.mpr hne, if_neg (by decide), String.ofList_toList]
      rw [← hadd]
      exact isWithin_attributeName t name.toList
    · have hchars' := readFrom_attributeName hchars t [] rest
      rw [Html.renderAttribute, String.toList_append]
      exact (readFrom_space h _).trans hchars'
  | some value =>
    -- No quote is left in the value, so that reading leaves it at the one that ends it.
    have hread : Markup.unescape (Markup.attributeValue value).toList = value.toList := by
      rw [Markup.attributeValue, String.toList_ofList, Markup.unescape_attributeChars]
    have hquote : '"' ∉ (Markup.attributeValue value).toList := by
      rw [Markup.attributeValue, String.toList_ofList]
      exact Markup.quote_not_mem value.toList
    refine ⟨.attributeName (t.add (name, some value)) [], ?_, fun rest => ?_⟩
    · exact isWithin_attributeName _ []
    · have htext : (Html.renderAttribute (name, some value)).toList ++ rest =
          ' ' :: (name.toList ++ '=' :: '"' ::
            ((Markup.attributeValue value).toList ++ '"' :: rest)) := by
        simp [Html.renderAttribute]
      rw [htext, readFrom_space h, readFrom_attributeName hchars, List.nil_append,
        readFrom_equals, readFrom_value hquote, List.nil_append, readFrom_quote, hread,
        String.ofList_toList, String.ofList_toList]

/-- Rendered attributes are read as the attributes, in order. -/
theorem readFrom_renderAttributes {attributes : List (String × Option String)}
    (hnames : ∀ a ∈ attributes, isName a.1) {p : Place} {t : Tag} (h : IsWithin p t) :
    ∃ p', IsWithin p' { t with attributes := t.attributes ++ attributes } ∧
      ∀ rest, readFrom p ((attributes.flatMap fun a => (Html.renderAttribute a).toList) ++ rest) =
        readFrom p' rest := by
  induction attributes generalizing p t with
  | nil =>
    rw [List.append_nil]
    exact ⟨p, h, fun rest => rfl⟩
  | cons a as ih =>
    obtain ⟨p₁, hwithin, hfirst⟩ := readFrom_renderAttribute h (hnames a List.mem_cons_self)
    obtain ⟨p₂, hrest, hothers⟩ := ih (fun b hb => hnames b (List.mem_cons_of_mem _ hb)) hwithin
    refine ⟨p₂, ?_, fun rest => ?_⟩
    · rwa [add, List.append_assoc] at hrest
    · rw [List.flatMap_cons, List.append_assoc, hfirst, hothers]

/-! ## Rendered markup -/

/-- The tag that a piece is rendered as. -/
def ofPiece : HtmlPiece → Option Tag
  | .doctype => some ⟨"!DOCTYPE", [("html", none)]⟩
  | .openTag name attributes => some ⟨name, attributes⟩
  | .closeTag name => some ⟨"/" ++ name, []⟩
  | .text _ => none

/-- The tags of markup, which only its text is left out of. -/
def ofHtml (h : Html) : List Tag :=
  h.filterMap ofPiece

/-- What stands for names in a piece are names. -/
def isNamed : HtmlPiece → Bool
  | .openTag name attributes => isName name && attributes.all (isName ·.1)
  | .closeTag name => isName name
  | _ => true

/-- A rendered piece is read as its tag. -/
theorem readFrom_renderPiece {piece : HtmlPiece} (h : isNamed piece) (rest : List Char) :
    readFrom .outside ((Html.renderPiece piece).toList ++ rest) =
      (ofPiece piece).toList ++ readFrom .outside rest := by
  cases piece with
  | doctype => rfl
  | openTag name attributes =>
    simp only [isNamed, Bool.and_eq_true, List.all_eq_true] at h
    obtain ⟨_, hchars⟩ := chars_of_isName h.1
    have hstart := isWithin_tagName name.toList
    obtain ⟨p, hwithin, hread⟩ := readFrom_renderAttributes h.2 hstart
    have htext : (Html.renderPiece (.openTag name attributes)).toList ++ rest =
        '<' :: (name.toList ++ ((attributes.flatMap fun a => (Html.renderAttribute a).toList) ++
          '>' :: rest)) := by
      simp [Html.renderPiece, List.flatMap_map]
    rw [htext, readFrom_less, readFrom_tagName hchars, List.nil_append, hread,
      readFrom_close hwithin, String.ofList_toList]
    rfl
  | closeTag name =>
    obtain ⟨_, hchars⟩ := chars_of_isName h
    have htext : (Html.renderPiece (.closeTag name)).toList ++ rest =
        '<' :: '/' :: (name.toList ++ '>' :: rest) := by
      simp [Html.renderPiece]
    rw [htext, readFrom_less, readFrom_slash, readFrom_tagName hchars,
      readFrom_close (isWithin_tagName _), String.ofList_append, String.ofList_toList]
    rfl
  | text s =>
    have hless : '<' ∉ (Markup.text s).toList := by
      rw [Markup.text, String.toList_ofList]
      exact Markup.less_not_mem s.toList
    exact readFrom_outside hless rest

theorem readFrom_renderPieces {h : Html} (hnamed : h.all isNamed) (rest : List Char) :
    readFrom .outside ((h.flatMap fun p => (Html.renderPiece p).toList) ++ rest) =
      ofHtml h ++ readFrom .outside rest := by
  induction h with
  | nil => rfl
  | cons piece pieces ih =>
    rw [List.all_cons, Bool.and_eq_true] at hnamed
    have hsplit : ofHtml (piece :: pieces) = (ofPiece piece).toList ++ ofHtml pieces := by
      unfold ofHtml
      cases hpiece : ofPiece piece <;> simp [hpiece]
    rw [List.flatMap_cons, List.append_assoc, readFrom_renderPiece hnamed.1, ih hnamed.2, hsplit,
      List.append_assoc]

/-- The tags that are read from rendered markup are those of the markup. -/
theorem read_render {h : Html} (hnamed : h.all isNamed) : read h.render = ofHtml h := by
  have hpieces := readFrom_renderPieces hnamed []
  rw [List.append_nil] at hpieces
  rw [read, Html.render, String.toList_join, List.flatMap_map, hpieces]
  exact List.append_nil _

end Tag

end HistorySearch
