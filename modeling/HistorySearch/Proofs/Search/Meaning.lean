-- SUMMARY: The search that the pairs of a query ask for.
import HistorySearch.Proofs.Search.LastWrite
import HistorySearch.Search.Predicate

/-!
# What a query means as a search

Reading, filling and validating each have a notion of a value that is missing. Together they leave
one: of each field the first value counts that is not empty, and only the length of a key can be
wrong. A word that is no token type, or a text that is no date, asks for nothing, and no later value
takes its place.
-/

namespace HistorySearch

-- ---------------------------------------------------------------------------
-- First values
-- ---------------------------------------------------------------------------

namespace Query

/-- A pair of the name has the value, which is not empty, and those of the name in front of it have
none. -/
structure IsFirst (ps : List FormEncoded.Pair) (name value : String) : Prop where
  nonempty : value ≠ ""
  split : ∃ before after, ps = before ++ (name, value) :: after ∧
    ∀ p ∈ before, p.1 = name → p.2 = ""

theorem firstValue?_eq_some_iff {ps : List FormEncoded.Pair} {name value : String} :
    QueryParams.firstValue? ps name = some value ↔ IsFirst ps name value := by
  simp only [QueryParams.firstValue?, Option.map_eq_some_iff, List.find?_eq_some_iff_append,
    Bool.and_eq_true, decide_eq_true_eq, Bool.not_eq_true', Bool.and_eq_false_imp,
    decide_eq_false_iff_not, not_not]
  constructor
  · rintro ⟨p, ⟨⟨rfl, hvalue⟩, before, after, hsplit, hbefore⟩, rfl⟩
    exact ⟨hvalue, before, after, hsplit, hbefore⟩
  · rintro ⟨hvalue, before, after, hsplit, hbefore⟩
    exact ⟨(name, value), ⟨⟨rfl, hvalue⟩, before, after, hsplit, hbefore⟩, rfl⟩

theorem firstValue?_ne_empty (ps : List FormEncoded.Pair) (name : String) :
    QueryParams.firstValue? ps name ≠ some "" := by
  intro hempty
  exact (firstValue?_eq_some_iff.mp hempty).nonempty rfl

end Query

-- ---------------------------------------------------------------------------
-- Values of each kind
-- ---------------------------------------------------------------------------

theorem nonEmpty?_getD {value : Option String} (h : value ≠ some "") :
    nonEmpty? (value.getD "") = value := by
  cases value with
  | none => rfl
  | some s =>
    apply if_neg
    intro hempty
    exact h (congrArg some hempty)

theorem TokenType.ofName?_eq_some_iff {word : String} {t : TokenType} :
    ofName? word = some t ↔ word = t.name := by
  constructor
  · intro h
    have hname := List.find?_some h
    exact (of_decide_eq_true hname).symm
  · intro h
    rw [h, ofName?_name]

/-- The type to search for is the one that a word names, since `any` and unknown words name none. -/
theorem TokenFilter.type?_read (word : String) :
    (match read word with
      | .ok f => f
      | .error _ => .any).type? = TokenType.ofName? word := by
  unfold read
  split_ifs with hany
  · rw [hany]
    rfl
  · unfold TokenType.read
    cases TokenType.ofName? word <;> rfl

theorem Timestamp.decodeLenient_eq_some_iff {value : Option String} {t : Timestamp} :
    decodeLenient value = some t ↔ ∃ text, value = some text ∧ decode text = .ok (some t) := by
  cases value with
  | none => simp [decodeLenient, decode?]
  | some text =>
    simp only [decodeLenient, decode?, Option.some.injEq, exists_eq_left']
    cases decode text <;> simp

-- ---------------------------------------------------------------------------
-- Searches
-- ---------------------------------------------------------------------------

namespace Query

/-- The search that a query asks for: each part is there exactly if the first value of its field
gives it. -/
structure AsksFor (ps : List FormEncoded.Pair) (p : Predicate) : Prop where
  key : ∀ text, p.key = some text ↔ IsFirst ps Field.key.name text
  tokenType : ∀ type, p.tokenType = some type ↔ IsFirst ps Field.tokenType.name type.name
  ipAddress : ∀ text, p.ipAddress = some text ↔ IsFirst ps Field.ipAddress.name text
  earliest : ∀ second, p.earliest = some second ↔
    ∃ text t, IsFirst ps Field.sinceDate.name text ∧ Timestamp.decode text = .ok (some t) ∧
      t.epoch = second
  latest : ∀ second, p.latest = some second ↔
    ∃ text t, IsFirst ps Field.untilDate.name text ∧ Timestamp.decode text = .ok (some t) ∧
      t.epoch = second

/-- A query asks for one search. -/
theorem AsksFor.unique {ps : List FormEncoded.Pair} {p q : Predicate} (hp : AsksFor ps p)
    (hq : AsksFor ps q) : p = q := by
  obtain ⟨key, tokenType, ipAddress, earliest, latest⟩ := p
  obtain ⟨key', tokenType', ipAddress', earliest', latest'⟩ := q
  have hkey : key = key' := Option.ext fun text => (hp.key text).trans (hq.key text).symm
  have htype : tokenType = tokenType' :=
    Option.ext fun type => (hp.tokenType type).trans (hq.tokenType type).symm
  have haddress : ipAddress = ipAddress' :=
    Option.ext fun text => (hp.ipAddress text).trans (hq.ipAddress text).symm
  have hearliest : earliest = earliest' :=
    Option.ext fun second => (hp.earliest second).trans (hq.earliest second).symm
  have hlatest : latest = latest' :=
    Option.ext fun second => (hp.latest second).trans (hq.latest second).symm
  rw [hkey, htype, haddress, hearliest, hlatest]

/-- What the first values of a query come to. -/
def search (ps : List FormEncoded.Pair) : Predicate where
  key := QueryParams.firstValue? ps Field.key.name
  tokenType := (QueryParams.firstValue? ps Field.tokenType.name).bind TokenType.ofName?
  ipAddress := QueryParams.firstValue? ps Field.ipAddress.name
  earliest :=
    (Timestamp.decodeLenient (QueryParams.firstValue? ps Field.sinceDate.name)).map Timestamp.epoch
  latest :=
    (Timestamp.decodeLenient (QueryParams.firstValue? ps Field.untilDate.name)).map Timestamp.epoch

theorem date_eq_some_iff {ps : List FormEncoded.Pair} {name : String} {second : Int} :
    (Timestamp.decodeLenient (QueryParams.firstValue? ps name)).map Timestamp.epoch = some second ↔
      ∃ text t, IsFirst ps name text ∧ Timestamp.decode text = .ok (some t) ∧ t.epoch = second := by
  simp only [Option.map_eq_some_iff, Timestamp.decodeLenient_eq_some_iff, firstValue?_eq_some_iff]
  constructor
  · rintro ⟨t, ⟨text, hfirst, hdecode⟩, hsecond⟩
    exact ⟨text, t, hfirst, hdecode, hsecond⟩
  · rintro ⟨text, t, hfirst, hdecode, hsecond⟩
    exact ⟨t, ⟨text, hfirst, hdecode⟩, hsecond⟩

theorem asksFor_search (ps : List FormEncoded.Pair) : AsksFor ps (search ps) where
  key text := firstValue?_eq_some_iff
  tokenType type := by
    simp only [search, Option.bind_eq_some_iff, TokenType.ofName?_eq_some_iff, exists_eq_right,
      firstValue?_eq_some_iff]
  ipAddress text := firstValue?_eq_some_iff
  earliest second := date_eq_some_iff
  latest second := date_eq_some_iff

theorem asksFor_iff {ps : List FormEncoded.Pair} {p : Predicate} :
    AsksFor ps p ↔ p = search ps := by
  constructor
  · intro h
    exact h.unique (asksFor_search ps)
  · rintro rfl
    exact asksFor_search ps

-- ---------------------------------------------------------------------------
-- Validation
-- ---------------------------------------------------------------------------

def filled (ps : List FormEncoded.Pair) : FormState :=
  FormState.ofParams (QueryParams.ofPairs ps)

/-- The outcome of validating the form that a query fills. -/
def outcome (ps : List FormEncoded.Pair) : Except FieldErrors Predicate :=
  (filled ps).validate

theorem key_filled (ps : List FormEncoded.Pair) :
    nonEmpty? (filled ps).key = QueryParams.firstValue? ps Field.key.name :=
  nonEmpty?_getD (firstValue?_ne_empty ps Field.key.name)

theorem type?_filled (ps : List FormEncoded.Pair) :
    (filled ps).tokenFilter.type? =
      (QueryParams.firstValue? ps Field.tokenType.name).bind TokenType.ofName? := by
  apply (TokenFilter.type?_read (QueryParams.ofPairs ps).tokenType).trans
  rw [QueryParams.ofPairs]
  cases QueryParams.firstValue? ps Field.tokenType.name <;> rfl

theorem ipAddress_filled (ps : List FormEncoded.Pair) :
    nonEmpty? (filled ps).ipAddress = QueryParams.firstValue? ps Field.ipAddress.name :=
  nonEmpty?_getD (firstValue?_ne_empty ps Field.ipAddress.name)

theorem hasGoodKey_iff (ps : List FormEncoded.Pair) :
    (filled ps).hasGoodKey ↔ ∀ key, IsFirst ps Field.key.name key → key.length = keyLength := by
  simp only [← firstValue?_eq_some_iff, ← key_filled, FormState.hasGoodKey]
  by_cases hempty : (filled ps).key = ""
  · simp [hempty, nonEmpty?]
  · simp [hempty, nonEmpty?]

/-- A query is accepted as the search that it asks for if its key is good, and no other field can
make a difference to that. -/
theorem outcome_eq (ps : List FormEncoded.Pair) :
    outcome ps =
      if (filled ps).hasGoodKey then .ok (search ps)
      else .error (FieldErrors.empty.insert .key "Invalid token") := by
  rw [outcome, FormState.validate, key_filled, type?_filled, ipAddress_filled]
  rfl

/-- A query is rejected exactly if the first value of the key has not its full length, with that as
the only error. Otherwise it is accepted as the search that its first values ask for. Two queries
that ask for the same search have the same outcome, whatever else they hold. -/
theorem outcome_of_first_values (ps : List FormEncoded.Pair) :
    (∀ e, outcome ps = .error e ↔
      (∃ key, IsFirst ps Field.key.name key ∧ key.length ≠ keyLength) ∧
        e = FieldErrors.empty.insert .key "Invalid token") ∧
    (∀ p, outcome ps = .ok p ↔
      (∀ key, IsFirst ps Field.key.name key → key.length = keyLength) ∧ AsksFor ps p) ∧
    ∀ others p, AsksFor ps p → AsksFor others p → outcome others = outcome ps := by
  refine ⟨?_, ?_, ?_⟩
  · intro e
    rw [outcome_eq]
    split_ifs with hgood
    · have hall := (hasGoodKey_iff ps).mp hgood
      refine ⟨fun h => by contradiction, ?_⟩
      rintro ⟨⟨key, hfirst, hlength⟩, _⟩
      exact hlength (hall key hfirst)
    · have hsome : ∃ key, IsFirst ps Field.key.name key ∧ key.length ≠ keyLength := by
        rw [hasGoodKey_iff] at hgood
        push Not at hgood
        exact hgood
      simp only [Except.error.injEq, hsome, true_and]
      exact eq_comm
  · intro p
    rw [outcome_eq, ← hasGoodKey_iff, asksFor_iff]
    split_ifs with hgood
    · simp only [Except.ok.injEq, hgood, true_and]
      exact eq_comm
    · simp [hgood]
  · intro others p hp hothers
    have hsearch : search others = search ps := by
      rw [← asksFor_iff.mp hothers, asksFor_iff.mp hp]
    have hkey : ∀ key, IsFirst others Field.key.name key ↔ IsFirst ps Field.key.name key := by
      intro key
      exact (hothers.key key).symm.trans (hp.key key)
    have hgood : (filled others).hasGoodKey = (filled ps).hasGoodKey := by
      rw [Bool.eq_iff_iff, hasGoodKey_iff, hasGoodKey_iff]
      simp only [hkey]
    rw [outcome_eq, outcome_eq, hsearch, hgood]

/-- A query with empty, unknown, malformed and repeated values, and one with those that count. -/
theorem outcome_of_first_values_malformed :
    let ps : List FormEncoded.Pair :=
      [("key", ""), ("cursor", "5"), ("key", "MLF5MB3Peg79wEC0BY8U8Q"), ("tokenType", "admin"),
        ("sinceDate", "soon"), ("key", "short"), ("tokenType", "user"),
        ("sinceDate", "2024-01-01"), ("untilDate", " 1969-12-31T23:59:59.5Z ")]
    let few : List FormEncoded.Pair :=
      [("untilDate", "1970-01-01T00:59:59+01:00"), ("key", "MLF5MB3Peg79wEC0BY8U8Q")]
    let p : Predicate := ⟨some "MLF5MB3Peg79wEC0BY8U8Q", none, none, none, some (-1)⟩
    AsksFor ps p ∧ AsksFor few p ∧ outcome few = outcome ps := by
  intro ps few p
  have hp : AsksFor ps p := asksFor_iff.mpr (by decide +kernel)
  have hfew : AsksFor few p := asksFor_iff.mpr (by decide +kernel)
  exact ⟨hp, hfew, (outcome_of_first_values ps).2.2 few p hp hfew⟩

end Query

end HistorySearch
