-- SUMMARY: Texts behind what stands in front of them in markup.
import Mathlib.Data.List.Infix
import HistorySearch.Proofs.Web.Tags

/-!
# Openings

What stands in front of a text in markup, from the sign of its tag on, is its opening. The text goes
from the first place at which the opening stands up to the next quote or sign of a tag. Nothing that
is put into markup can hold an opening, so that the first place is in a tag that was rendered.
-/

namespace HistorySearch

-- ---------------------------------------------------------------------------
-- Texts behind an opening
-- ---------------------------------------------------------------------------

namespace Markup

/-- What follows the first place at which an opening stands. -/
def after? (opening : List Char) : List Char → Option (List Char)
  | [] => opening.isPrefixOf? []
  | c :: cs => (opening.isPrefixOf? (c :: cs)).or (after? opening cs)

/-- The characters of a page from an opening up to the next `stop`. -/
def between? (opening : String) (stop : Char) (page : String) : Option (List Char) :=
  (after? opening.toList page.toList).map (·.takeWhile (· ≠ stop))

/-- The same with its references read. -/
def unescaped? (opening : String) (stop : Char) (page : String) : Option String :=
  (between? opening stop page).map fun cs => String.ofList (unescape cs)

theorem unescaped?_of_attribute {opening page value : String} {stop : Char}
    (h : between? opening stop page = some (attributeValue value).toList) :
    unescaped? opening stop page = some value := by
  rw [unescaped?, h, Option.map_some, attributeValue, String.toList_ofList,
    unescape_attributeChars, String.ofList_toList]

theorem less_not_mem_attribute (cs : List Char) : '<' ∉ cs.flatMap attributeChar := by
  intro h
  obtain ⟨c, _, hc⟩ := List.mem_flatMap.mp h
  unfold attributeChar at hc
  split_ifs at hc with hquote
  · simp at hc
  · exact (mem_textChar hc).1 rfl

/-- The references of a text stand for it. -/
theorem unescape_textChars (cs : List Char) : unescape (cs.flatMap textChar) = cs := by
  induction cs with
  | nil => rfl
  | cons c cs ih =>
    rw [List.flatMap_cons]
    by_cases hamp : c = '&'
    · subst hamp
      simp [textChar, unescape, ih]
    by_cases hless : c = '<'
    · subst hless
      simp [textChar, unescape, ih]
    by_cases hgreater : c = '>'
    · subst hgreater
      simp [textChar, unescape, ih]
    · have hplain : textChar c = [c] := by simp [textChar, hamp, hless, hgreater]
      rw [hplain, List.singleton_append, unescape_cons hamp, ih]

theorem unescaped?_of_text {opening page s : String} {stop : Char}
    (h : between? opening stop page = some (text s).toList) :
    unescaped? opening stop page = some s := by
  rw [unescaped?, h, Option.map_some, text, String.toList_ofList, unescape_textChars,
    String.ofList_toList]

theorem after?_append (opening rest : List Char) :
    after? opening (opening ++ rest) = some rest := by
  have hfound : opening.isPrefixOf? (opening ++ rest) = some rest :=
    List.isPrefixOf?_eq_some_iff_append_eq.mpr rfl
  cases h : opening ++ rest with
  | nil => rw [after?, ← h, hfound]
  | cons c cs => rw [after?, ← h, hfound, Option.some_or]

theorem after?_cons_of_ne {opening : List Char} {c : Char} {cs : List Char}
    (h : ∀ rest, opening ++ rest ≠ c :: cs) : after? opening (c :: cs) = after? opening cs := by
  have hnone : opening.isPrefixOf? (c :: cs) = none := by
    cases hfound : opening.isPrefixOf? (c :: cs) with
    | none => rfl
    | some rest => exact absurd (List.isPrefixOf?_eq_some_iff_append_eq.mp hfound) (h rest)
  rw [after?, hnone, Option.none_or]

/-- An opening that starts a tag does not start within characters that have no sign of one. -/
theorem after?_of_not_mem {opening cs : List Char} (h : '<' ∉ cs) (rest : List Char) :
    after? ('<' :: opening) (cs ++ rest) = after? ('<' :: opening) rest := by
  induction cs with
  | nil => rfl
  | cons c cs ih =>
    have hne : ∀ x, '<' :: opening ++ x ≠ c :: (cs ++ rest) := by
      intro x heq
      exact h (List.head_eq_of_cons_eq heq ▸ List.mem_cons_self)
    rw [List.cons_append, after?_cons_of_ne hne]
    exact ih fun hcs => h (List.mem_cons_of_mem _ hcs)

theorem takeWhile_append_stop {stop : Char} {cs : List Char} (h : stop ∉ cs) (rest : List Char) :
    (cs ++ stop :: rest).takeWhile (· ≠ stop) = cs := by
  have hcs : ∀ c ∈ cs, decide (c ≠ stop) = true := by
    intro c hc
    have hne : c ≠ stop := by
      rintro rfl
      exact h hc
    simpa using hne
  rw [List.takeWhile_append_of_pos hcs, List.takeWhile_cons_of_neg (by simp), List.append_nil]

end Markup

-- ---------------------------------------------------------------------------
-- Signs of tags in rendered pieces
-- ---------------------------------------------------------------------------

namespace Html

def pieceChars (p : HtmlPiece) : List Char :=
  (renderPiece p).toList

/-- Whether the names in a piece are without the sign of a tag. -/
def isClear : HtmlPiece → Bool
  | .openTag name attributes =>
    !name.toList.contains '<' && attributes.all (!·.1.toList.contains '<')
  | .closeTag name => !name.toList.contains '<'
  | _ => true

theorem toList_render (h : Html) : h.render.toList = h.flatMap pieceChars := by
  rw [render, String.toList_join, List.flatMap_map]
  rfl

theorem pieceChars_openTag (name : String) (attributes : List (String × Option String)) :
    pieceChars (.openTag name attributes) =
      '<' :: (name.toList ++
        ((attributes.flatMap fun a => (renderAttribute a).toList) ++ ['>'])) := by
  simp [pieceChars, renderPiece, List.flatMap_map]

theorem less_not_mem_renderAttribute {a : String × Option String} (h : '<' ∉ a.1.toList) :
    '<' ∉ (renderAttribute a).toList := by
  obtain ⟨name, value⟩ := a
  cases value with
  | none => simpa [renderAttribute] using h
  | some value =>
    have hvalue : '<' ∉ (Markup.attributeValue value).toList := by
      rw [Markup.attributeValue, String.toList_ofList]
      exact Markup.less_not_mem_attribute value.toList
    simp [renderAttribute, hvalue]
    exact h

/-- The sign of a tag stands only at the start of a piece that is one. -/
theorem pieceChars_of_isClear {p : HtmlPiece} (h : isClear p) :
    ('<' ∉ pieceChars p ∧ Tag.ofPiece p = none) ∨
      ∃ t cs, Tag.ofPiece p = some t ∧ pieceChars p = '<' :: cs ∧ '<' ∉ cs := by
  cases p with
  | doctype => exact .inr ⟨_, "!DOCTYPE html>".toList, rfl, by decide, by decide⟩
  | text s =>
    refine .inl ⟨?_, rfl⟩
    rw [pieceChars, renderPiece, Markup.text, String.toList_ofList]
    exact Markup.less_not_mem s.toList
  | closeTag name =>
    simp only [isClear, Bool.not_eq_true', List.contains_eq_mem, decide_eq_false_iff_not] at h
    refine .inr ⟨_, '/' :: (name.toList ++ ['>']), rfl, ?_, ?_⟩
    · simp [pieceChars, renderPiece]
    · simp [h]
  | openTag name attributes =>
    simp only [isClear, Bool.and_eq_true, Bool.not_eq_true', List.contains_eq_mem,
      decide_eq_false_iff_not, List.all_eq_true] at h
    have hattributes : '<' ∉ attributes.flatMap fun a => (renderAttribute a).toList := by
      intro hmem
      obtain ⟨a, ha, hless⟩ := List.mem_flatMap.mp hmem
      exact less_not_mem_renderAttribute (h.2 a ha) hless
    refine .inr ⟨_, _, rfl, pieceChars_openTag name attributes, ?_⟩
    simp only [List.mem_append, h.1, hattributes, List.mem_singleton, false_or]
    decide

end Html

-- ---------------------------------------------------------------------------
-- Tags under construction
-- ---------------------------------------------------------------------------

namespace Tag

/-- A tag has the name of another, and its attributes in front. -/
structure Extends (t s : Tag) : Prop where
  name : t.name = s.name
  attributes : s.attributes <+: t.attributes

theorem Extends.refl (t : Tag) : t.Extends t :=
  ⟨rfl, List.prefix_rfl⟩

theorem Extends.trans {t s r : Tag} (h : t.Extends s) (h' : s.Extends r) : t.Extends r :=
  ⟨h.name.trans h'.name, h'.attributes.trans h.attributes⟩

theorem extends_add (t : Tag) (a : String × Option String) : (t.add a).Extends t :=
  ⟨rfl, List.prefix_append _ _⟩

theorem extends_addName (t : Tag) (cs : List Char) : (t.addName cs).Extends t := by
  unfold addName
  split
  · exact .refl t
  · exact extends_add t _

/-- The tag that was read up to a place, once its name is complete. -/
def Place.tag? : Place → Option Tag
  | .attributeName t _ | .equals t _ | .value t _ _ => some t
  | .outside | .tagName _ => none

/-- A step completes an extension of the tag that was read so far, or goes on with one. -/
theorem step_extends {p : Place} {s : Tag} (h : p.tag? = some s) (c : Char) :
    (∃ t, (step p c).2 = some t ∧ t.Extends s) ∨
      ((step p c).2 = none ∧ ∃ t, (step p c).1.tag? = some t ∧ t.Extends s) := by
  cases p with
  | outside => contradiction
  | tagName cs => contradiction
  | attributeName t cs =>
    obtain rfl := Option.some.inj h
    simp only [step]
    split_ifs
    · exact .inl ⟨_, rfl, extends_addName t cs⟩
    · exact .inr ⟨rfl, _, rfl, extends_addName t cs⟩
    · exact .inr ⟨rfl, t, rfl, .refl t⟩
    · exact .inr ⟨rfl, t, rfl, .refl t⟩
  | equals t a =>
    obtain rfl := Option.some.inj h
    exact .inr ⟨rfl, t, rfl, .refl t⟩
  | value t a cs =>
    obtain rfl := Option.some.inj h
    simp only [step]
    split_ifs
    · exact .inr ⟨rfl, _, rfl, extends_add t _⟩
    · exact .inr ⟨rfl, t, rfl, .refl t⟩

/-- The next tag that is completed extends the one that was read so far. -/
theorem extends_of_readFrom {p : Place} {s t : Tag} (h : p.tag? = some s) {cs : List Char}
    {ts : List Tag} (hread : readFrom p cs = t :: ts) : t.Extends s := by
  induction cs generalizing p s with
  | nil => contradiction
  | cons c cs ih =>
    rw [readFrom] at hread
    rcases step_extends h c with ⟨first, hfirst, hextends⟩ | ⟨hnone, so, hso, hextends⟩
    · rw [hfirst] at hread
      obtain rfl := (List.cons.inj hread).1
      exact hextends
    · rw [hnone] at hread
      exact (ih hso hread).trans hextends

end Tag

-- ---------------------------------------------------------------------------
-- Openings in rendered markup
-- ---------------------------------------------------------------------------

namespace Html

/-- Whether a piece is a tag that satisfies a condition. -/
def isTagWith (q : Tag → Bool) (p : HtmlPiece) : Bool :=
  (Tag.ofPiece p).any q

@[simp] theorem isTagWith_openTag (q : Tag → Bool) (name : String)
    (attributes : List (String × Option String)) :
    isTagWith q (.openTag name attributes) = q ⟨name, attributes⟩ := rfl

@[simp] theorem isTagWith_closeTag (q : Tag → Bool) (name : String) :
    isTagWith q (.closeTag name) = q ⟨"/" ++ name, []⟩ := rfl

@[simp] theorem isTagWith_text (q : Tag → Bool) (s : String) :
    isTagWith q (.text s) = false := rfl

@[simp] theorem isTagWith_doctype (q : Tag → Bool) :
    isTagWith q .doctype = q ⟨"!DOCTYPE", [("html", none)]⟩ := rfl

/-- An opening starts a tag, and the tags that it can start satisfy a condition. -/
structure Opens (opening : List Char) (q : Tag → Bool) : Prop where
  head : opening.head? = some '<'
  starts : ∀ p t, Tag.isNamed p → Tag.ofPiece p = some t →
    ∀ x rest, opening ++ x = pieceChars p ++ rest → q t

/-- All names in markup are names, without the sign of a tag. -/
structure IsTidy (h : Html) : Prop where
  named : h.all Tag.isNamed
  clear : h.all isClear

theorem IsTidy.of_cons {p : HtmlPiece} {ps : Html} (h : IsTidy (p :: ps)) :
    (Tag.isNamed p ∧ isClear p) ∧ IsTidy ps := by
  obtain ⟨hnamed, hclear⟩ := h
  rw [List.all_cons, Bool.and_eq_true] at hnamed hclear
  exact ⟨⟨hnamed.1, hclear.1⟩, hnamed.2, hclear.2⟩

/-- Markup may be searched from the first tag on that satisfies the condition. -/
theorem after?_render {opening : List Char} {q : Tag → Bool} (hopens : Opens opening q) {h : Html}
    (htidy : IsTidy h) :
    Markup.after? opening h.render.toList =
      Markup.after? opening ((h.dropWhile (!isTagWith q ·)).flatMap pieceChars) := by
  obtain ⟨opening, rfl⟩ := List.head?_eq_some_iff.mp hopens.head
  rw [toList_render]
  induction h with
  | nil => rfl
  | cons p ps ih =>
    obtain ⟨⟨hnamed, hclear⟩, htail⟩ := htidy.of_cons
    by_cases hq : isTagWith q p
    · rw [List.dropWhile_cons_of_neg (by simpa using hq)]
    · rw [List.dropWhile_cons_of_pos (by simpa using hq), List.flatMap_cons, ← ih htail]
      rcases pieceChars_of_isClear hclear with ⟨hless, _⟩ | ⟨t, cs, htag, hchars, hless⟩
      · exact Markup.after?_of_not_mem hless _
      · have hne : ∀ x, '<' :: opening ++ x ≠ '<' :: (cs ++ ps.flatMap pieceChars) := by
          intro x heq
          apply hq
          rw [isTagWith, htag, Option.any_some]
          refine hopens.starts p t hnamed htag x (ps.flatMap pieceChars) ?_
          rw [heq, hchars]
          rfl
        rw [hchars, List.cons_append, Markup.after?_cons_of_ne hne]
        exact Markup.after?_of_not_mem hless _

/-- What is found behind an opening is what the first tag has there that satisfies the condition. -/
theorem between?_render {opening : List Char} {q : Tag → Bool} (hopens : Opens opening q) {h : Html}
    (htidy : IsTidy h) {stop : Char} {cs rest : List Char} (hstop : stop ∉ cs)
    (hfirst : (h.dropWhile (!isTagWith q ·)).flatMap pieceChars =
      opening ++ (cs ++ stop :: rest)) :
    Markup.between? (String.ofList opening) stop h.render = some cs := by
  rw [Markup.between?, String.toList_ofList, after?_render hopens htidy, hfirst,
    Markup.after?_append, Option.map_some, Markup.takeWhile_append_stop hstop]

/-- Without such a tag the opening does not occur. -/
theorem between?_render_eq_none {opening : List Char} {q : Tag → Bool} (hopens : Opens opening q)
    {h : Html} (htidy : IsTidy h) (hnone : h.dropWhile (!isTagWith q ·) = []) (stop : Char) :
    Markup.between? (String.ofList opening) stop h.render = none := by
  obtain ⟨cs, hcs⟩ := List.head?_eq_some_iff.mp hopens.head
  rw [Markup.between?, String.toList_ofList, after?_render hopens htidy, hnone, hcs]
  rfl

/-! ## Values -/

/-- What stands in front of the value of an attribute, with its quote. -/
def valueOpening (name : String) (before : List (String × Option String)) (a : String) :
    List Char :=
  '<' :: (name.toList ++ ((before.flatMap fun b => (renderAttribute b).toList) ++
    ' ' :: (a.toList ++ ['=', '"'])))

/-- Whether a tag has some name, and certain attributes in front. -/
def startsAs (name : String) (before : List (String × Option String)) (t : Tag) : Bool :=
  t.name = name && before.isPrefixOf t.attributes

theorem opens_valueOpening {name a : String} {before : List (String × Option String)}
    (hname : Tag.isName name) (hbefore : ∀ b ∈ before, Tag.isName b.1) (ha : Tag.isName a) :
    Opens (valueOpening name before a) (startsAs name before) := by
  refine ⟨rfl, ?_⟩
  intro p t hnamed htag x rest heq
  obtain ⟨place, hwithin, hread⟩ :=
    Tag.readFrom_renderAttributes hbefore (Tag.isWithin_tagName name.toList)
  have hopening : Tag.readFrom .outside (valueOpening name before a ++ x) =
      Tag.readFrom (.value ⟨name, before⟩ a.toList []) x := by
    have hsplit : valueOpening name before a ++ x =
        '<' :: (name.toList ++ ((before.flatMap fun b => (renderAttribute b).toList) ++
          ' ' :: (a.toList ++ '=' :: '"' :: x))) := by
      simp [valueOpening]
    rw [hsplit, Tag.readFrom_less, Tag.readFrom_tagName (Tag.chars_of_isName hname).2,
      List.nil_append, hread, Tag.readFrom_space hwithin,
      Tag.readFrom_attributeName (Tag.chars_of_isName ha).2, List.nil_append,
      Tag.readFrom_equals, String.ofList_toList, List.nil_append]
  -- The same characters are read as the tag, so that it is what the opening grows into.
  have hpiece := Tag.readFrom_renderPiece hnamed rest
  rw [← pieceChars, ← heq, hopening, htag] at hpiece
  have hextends : t.Extends ⟨name, before⟩ := Tag.extends_of_readFrom rfl hpiece
  simp [startsAs, hextends.name, hextends.attributes]

/-- The first value behind an opening is that of the first tag that starts as the opening does. -/
theorem between?_render_value {name a : String} {before : List (String × Option String)}
    (hname : Tag.isName name) (hbefore : ∀ b ∈ before, Tag.isName b.1) (ha : Tag.isName a)
    {h : Html} (htidy : IsTidy h) {value : String} {more : List (String × Option String)}
    {rest : Html}
    (hfirst : h.dropWhile (!isTagWith (startsAs name before) ·) =
      .openTag name (before ++ (a, some value) :: more) :: rest) :
    Markup.between? (String.ofList (valueOpening name before a)) '"' h.render =
      some (Markup.attributeValue value).toList := by
  have hquote : '"' ∉ (Markup.attributeValue value).toList := by
    rw [Markup.attributeValue, String.toList_ofList]
    exact Markup.quote_not_mem value.toList
  have hsplit : (h.dropWhile (!isTagWith (startsAs name before) ·)).flatMap pieceChars =
      valueOpening name before a ++ ((Markup.attributeValue value).toList ++
        '"' :: ((more.flatMap fun b => (renderAttribute b).toList) ++
          '>' :: rest.flatMap pieceChars)) := by
    rw [hfirst]
    simp [pieceChars, renderPiece, renderAttribute, valueOpening, List.flatMap_map]
  exact between?_render (opens_valueOpening hname hbefore ha) htidy hquote hsplit

/-! ## Texts -/

/-- A tag is found only where it was rendered. -/
theorem opens_tag {name : String} {attributes : List (String × Option String)}
    (h : Tag.isNamed (.openTag name attributes)) :
    Opens (pieceChars (.openTag name attributes)) (· = ⟨name, attributes⟩) := by
  refine ⟨congrArg List.head? (pieceChars_openTag name attributes), ?_⟩
  intro p t hnamed htag x rest heq
  have hleft := Tag.readFrom_renderPiece h x
  have hright := Tag.readFrom_renderPiece hnamed rest
  rw [← pieceChars, heq, pieceChars, hright, htag] at hleft
  exact decide_eq_true (List.cons.inj hleft).1

/-- The text behind a tag goes up to the tag that ends it. -/
theorem between?_render_text {name : String} {attributes : List (String × Option String)}
    (hopen : Tag.isNamed (.openTag name attributes)) {h : Html} (htidy : IsTidy h)
    {s ending : String} {rest : Html}
    (hfirst : h.dropWhile (!isTagWith (· = ⟨name, attributes⟩) ·) =
      .openTag name attributes :: .text s :: .closeTag ending :: rest) :
    Markup.between? (String.ofList (pieceChars (.openTag name attributes))) '<' h.render =
      some (Markup.text s).toList := by
  have hless : '<' ∉ (Markup.text s).toList := by
    rw [Markup.text, String.toList_ofList]
    exact Markup.less_not_mem s.toList
  have hsplit : (h.dropWhile (!isTagWith (· = ⟨name, attributes⟩) ·)).flatMap pieceChars =
      pieceChars (.openTag name attributes) ++ ((Markup.text s).toList ++
        '<' :: '/' :: (ending.toList ++ '>' :: rest.flatMap pieceChars)) := by
    rw [hfirst]
    simp [pieceChars, renderPiece]
  exact between?_render (opens_tag hopen) htidy hless hsplit

-- A text that looks like the end of its element, and like a reference.
example :
    Markup.unescaped? "<p>" '<' (render (element "p" [] (text "</p>&lt;<p>"))) =
      some "</p>&lt;<p>" := by
  decide

end Html

end HistorySearch
