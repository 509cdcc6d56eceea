-- SUMMARY: Where the pairs of a query stand after a merge.
import HistorySearch.Proofs.Search.Merge

/-!
# Layout of a merge

A merge goes through the whole query once for each entry of the update. What it leaves can be told
in one pass over the pairs that were there: the first pair of a name that is set has the new value
in its old place, later ones and those of a name that is removed are gone, and every other pair
stands as it was. Only names that did not occur come at the end, in the order of the entries.
-/

namespace HistorySearch

-- ---------------------------------------------------------------------------
-- What an update says for a name
-- ---------------------------------------------------------------------------

namespace QueryUpdate

/-- What an update says for the pairs of a name, if it is that of a field with an entry. -/
def forName? (u : QueryUpdate) (name : String) : Option (Option String) :=
  (Field.ofName? name).bind u.get?

theorem forName?_name (u : QueryUpdate) (field : Field) : u.forName? field.name = u.get? field := by
  rw [forName?, Field.ofName?_name]
  rfl

theorem forName?_cons_self (e : Field × Option String) (es : List (Field × Option String)) :
    forName? ⟨e :: es⟩ e.1.name = some e.2 := by
  rw [forName?_name]
  exact List.lookup_cons_self

theorem forName?_cons_of_ne {e : Field × Option String} {name : String} (h : name ≠ e.1.name)
    (es : List (Field × Option String)) : forName? ⟨e :: es⟩ name = forName? ⟨es⟩ name := by
  unfold forName?
  cases hfield : Field.ofName? name with
  | none => rfl
  | some field =>
    have hname : field.name = name := by simpa using List.find?_some hfield
    have hne : field ≠ e.1 := by
      intro heq
      exact h (heq ▸ hname.symm)
    rw [Option.bind_some, Option.bind_some, get?, List.lookup_cons, beq_eq_false_iff_ne.mpr hne]
    rfl

/-- An entry is found by its field, since there is one for each field. -/
theorem IsProper.get?_eq_some_iff {u : QueryUpdate} (h : u.IsProper) {field : Field}
    {value : Option String} : u.get? field = some value ↔ (field, value) ∈ u.entries :=
  ⟨mem_of_get?, h.get?_of_mem⟩

theorem IsProper.of_perm {u w : QueryUpdate} (h : u.IsProper) (hperm : w.entries.Perm u.entries) :
    w.IsProper :=
  ⟨(hperm.map Prod.fst).nodup_iff.mpr h.nodup, fun e he => h.nonempty e (hperm.mem_iff.mp he)⟩

/-- The order of the entries says nothing. -/
theorem IsProper.get?_of_perm {u w : QueryUpdate} (h : u.IsProper)
    (hperm : w.entries.Perm u.entries) (field : Field) : w.get? field = u.get? field := by
  apply Option.ext
  intro value
  rw [(h.of_perm hperm).get?_eq_some_iff, h.get?_eq_some_iff]
  exact hperm.mem_iff

end QueryUpdate

namespace Query

-- ---------------------------------------------------------------------------
-- Pairs that were there, and pairs that are new
-- ---------------------------------------------------------------------------

/-- What an update leaves of a pair, of which `seen` are the names in front. -/
def keep? (u : QueryUpdate) (seen : List String) (p : FormEncoded.Pair) : Option FormEncoded.Pair :=
  match u.forName? p.1 with
  | none => some p
  | some none => none
  | some (some value) => if p.1 ∈ seen then none else some (p.1, value)

/-- The pairs of a query that an update leaves, each where it was. -/
def kept (u : QueryUpdate) : List String → List FormEncoded.Pair → List FormEncoded.Pair
  | _, [] => []
  | seen, p :: ps => (keep? u seen p).toList ++ kept u (p.1 :: seen) ps

/-- The pairs of an update for names that do not occur in a query, in the order of the entries. -/
def added (u : QueryUpdate) (ps : List FormEncoded.Pair) : List FormEncoded.Pair :=
  u.entries.filterMap fun e => if named e.1.name ps = [] then e.2.map (e.1.name, ·) else none

theorem kept_empty (seen : List String) (ps : List FormEncoded.Pair) : kept ⟨[]⟩ seen ps = ps := by
  induction ps generalizing seen with
  | nil => rfl
  | cons p ps ih =>
    have hkeep : keep? ⟨[]⟩ seen p = some p := by
      unfold keep? QueryUpdate.forName?
      cases Field.ofName? p.1 <;> rfl
    rw [kept, hkeep, ih]
    rfl

theorem kept_congr {u w : QueryUpdate} (h : ∀ name, u.forName? name = w.forName? name)
    (seen : List String) (ps : List FormEncoded.Pair) : kept u seen ps = kept w seen ps := by
  induction ps generalizing seen with
  | nil => rfl
  | cons p ps ih => rw [kept, kept, keep?, keep?, h, ih]

/-- A pair of another name at the end stays there. -/
theorem kept_append {u : QueryUpdate} {p : FormEncoded.Pair} (h : u.forName? p.1 = none)
    (seen : List String) (ps : List FormEncoded.Pair) :
    kept u seen (ps ++ [p]) = kept u seen ps ++ [p] := by
  induction ps generalizing seen with
  | nil => simp [kept, keep?, h]
  | cons q qs ih => rw [List.cons_append, kept, ih, kept, List.append_assoc]

-- ---------------------------------------------------------------------------
-- One entry
-- ---------------------------------------------------------------------------

section Entry

variable {e : Field × Option String} {es : List (Field × Option String)}

/-- An entry does not concern pairs of other names. -/
theorem keep?_cons_of_ne {p : FormEncoded.Pair} (h : p.1 ≠ e.1.name) {seen seen' : List String}
    (hseen : p.1 ∈ seen ↔ p.1 ∈ seen') : keep? ⟨e :: es⟩ seen p = keep? ⟨es⟩ seen' p := by
  simp only [keep?, QueryUpdate.forName?_cons_of_ne h, hseen]

/-- Where the name of an entry is to go, or has its pair already, the entry drops its pairs. -/
theorem kept_cons_of_gone {seen seen' : List String} (hgone : e.2 = none ∨ e.1.name ∈ seen)
    (hseen : ∀ name, name ≠ e.1.name → (name ∈ seen ↔ name ∈ seen')) (ps : List FormEncoded.Pair) :
    kept ⟨e :: es⟩ seen ps = kept ⟨es⟩ seen' (remove e.1.name ps) := by
  induction ps generalizing seen seen' with
  | nil => rfl
  | cons p ps ih =>
    by_cases hname : p.1 = e.1.name
    · have hkeep : keep? ⟨e :: es⟩ seen p = none := by
        rw [keep?, hname, QueryUpdate.forName?_cons_self]
        rcases hgone with hnone | hmem
        · rw [hnone]
        · cases e.2 with
          | none => rfl
          | some value => exact if_pos hmem
      have hremove : remove e.1.name (p :: ps) = remove e.1.name ps :=
        List.filter_cons_of_neg (by simpa using hname)
      rw [kept, hkeep, hremove]
      exact ih (hgone.imp_right (List.mem_cons_of_mem _)) (by grind)
    · have hremove : remove e.1.name (p :: ps) = p :: remove e.1.name ps :=
        List.filter_cons_of_pos (by simpa using hname)
      rw [kept, hremove, kept, keep?_cons_of_ne hname (hseen p.1 hname)]
      congr 1
      exact ih (hgone.imp_right (List.mem_cons_of_mem _)) (by grind)

/-- An entry whose name does not occur leaves all pairs to the others. -/
theorem kept_cons_of_absent {ps : List FormEncoded.Pair} (h : named e.1.name ps = [])
    (seen : List String) : kept ⟨e :: es⟩ seen ps = kept ⟨es⟩ seen ps := by
  induction ps generalizing seen with
  | nil => rfl
  | cons p ps ih =>
    rw [named_cons] at h
    split at h
    · contradiction
    · rename_i hname
      rw [kept, kept, keep?_cons_of_ne hname Iff.rfl, ih h]

/-- An entry that sets a name which occurs writes its value in place of the first pair. -/
theorem kept_cons_of_present {value : String} (hvalue : e.2 = some value)
    {ps : List FormEncoded.Pair} (h : named e.1.name ps ≠ []) {seen : List String}
    (hseen : e.1.name ∉ seen) (hes : es.lookup e.1 = none) :
    kept ⟨e :: es⟩ seen ps = kept ⟨es⟩ seen (put e.1.name value ps) := by
  induction ps generalizing seen with
  | nil => contradiction
  | cons p ps ih =>
    rw [named_cons] at h
    by_cases hname : p.1 = e.1.name
    · have hfirst : keep? ⟨e :: es⟩ seen p = some (e.1.name, value) := by
        rw [keep?, hname, QueryUpdate.forName?_cons_self, hvalue]
        exact if_neg hseen
      have hsecond : keep? ⟨es⟩ seen (e.1.name, value) = some (e.1.name, value) := by
        rw [keep?, QueryUpdate.forName?_name, QueryUpdate.get?, hes]
      rw [put, if_pos hname, kept, hfirst, hname, kept, hsecond]
      congr 1
      exact kept_cons_of_gone (.inr List.mem_cons_self) (fun _ _ => Iff.rfl) ps
    · rw [if_neg hname] at h
      have hseen' : e.1.name ∉ p.1 :: seen := by
        intro hmem
        rcases List.mem_cons.mp hmem with heq | hmem
        · exact hname heq.symm
        · exact hseen hmem
      rw [put, if_neg hname, kept, kept, keep?_cons_of_ne hname Iff.rfl, ih h hseen']

theorem put_of_absent {name : String} {ps : List FormEncoded.Pair} (h : named name ps = [])
    (value : String) : put name value ps = ps ++ [(name, value)] := by
  induction ps with
  | nil => rfl
  | cons p ps ih =>
    rw [named_cons] at h
    split at h
    · contradiction
    · rename_i hname
      rw [put, if_neg hname, ih h]
      rfl

/-- An entry changes nothing about which other names are new. -/
theorem added_applyEntry (hes : es.lookup e.1 = none) (ps : List FormEncoded.Pair) :
    added ⟨es⟩ (applyEntry ps e) = added ⟨es⟩ ps := by
  refine List.filterMap_congr fun d hd => ?_
  have hne : d.1 ≠ e.1 := by
    intro heq
    have hnone := List.lookup_eq_none_iff.mp hes d hd
    simp [heq] at hnone
  rw [named_applyEntry, if_neg hne]

/-- The layout of a merge stays the same when the first entry is made. -/
theorem layout_applyEntry (hes : es.lookup e.1 = none) (ps : List FormEncoded.Pair) :
    kept ⟨es⟩ [] (applyEntry ps e) ++ added ⟨es⟩ (applyEntry ps e) =
      kept ⟨e :: es⟩ [] ps ++ added ⟨e :: es⟩ ps := by
  rw [added_applyEntry hes]
  cases hvalue : e.2 with
  | none =>
    have happly : applyEntry ps e = remove e.1.name ps := by rw [applyEntry, hvalue]
    have hadded : added ⟨e :: es⟩ ps = added ⟨es⟩ ps := by simp [added, hvalue]
    rw [happly, hadded, kept_cons_of_gone (.inl hvalue) (fun _ _ => Iff.rfl)]
  | some value =>
    have happly : applyEntry ps e = put e.1.name value ps := by rw [applyEntry, hvalue]
    rw [happly]
    by_cases habsent : named e.1.name ps = []
    · have hadded : added ⟨e :: es⟩ ps = (e.1.name, value) :: added ⟨es⟩ ps := by
        simp [added, hvalue, habsent]
      have hforeign : QueryUpdate.forName? ⟨es⟩ e.1.name = none := by
        rw [QueryUpdate.forName?_name]
        exact hes
      rw [put_of_absent habsent, kept_append hforeign, hadded, kept_cons_of_absent habsent,
        List.append_assoc]
      rfl
    · have hadded : added ⟨e :: es⟩ ps = added ⟨es⟩ ps := by simp [added, habsent]
      rw [hadded, kept_cons_of_present hvalue habsent List.not_mem_nil hes]

end Entry

-- ---------------------------------------------------------------------------
-- All entries
-- ---------------------------------------------------------------------------

/-- A merge leaves what is kept of the pairs, followed by those that are new. -/
theorem merge_eq_kept_append_added {u : QueryUpdate} (h : u.IsProper) (ps : List FormEncoded.Pair) :
    merge ps u = kept u [] ps ++ added u ps := by
  obtain ⟨entries⟩ := u
  induction entries generalizing ps with
  | nil => simp [merge, kept_empty, added]
  | cons e es ih =>
    rw [← layout_applyEntry h.lookup_tail]
    exact ih (applyEntry ps e) h.tail

/-- A merge replaces the first pair of each field that is set in its place, drops the later ones and
all pairs of a field that is removed, leaves every other pair where it is, and adds the fields that
did not occur at the end. So a field that is set has one pair and one that is removed has none;
merging again changes nothing; and entries in another order change but the order at the end. -/
theorem merge_in_place (ps : List FormEncoded.Pair) (settings : List (Field × Option String)) :
    let u := QueryUpdate.ofList settings
    merge ps u = kept u [] ps ++ added u ps ∧
      (∀ field value, u.get? field = some (some value) →
        named field.name (merge ps u) = [(field.name, value)]) ∧
      (∀ field, u.get? field = some none → named field.name (merge ps u) = []) ∧
      merge (merge ps u) u = merge ps u ∧
      ∀ w : QueryUpdate, w.entries.Perm u.entries →
        ∃ tail, merge ps w = kept u [] ps ++ tail ∧ tail.Perm (added u ps) := by
  intro u
  have hproper : u.IsProper := QueryUpdate.isProper_ofList settings
  refine ⟨merge_eq_kept_append_added hproper ps, ?_, ?_, merge_merge hproper ps, ?_⟩
  · intro field value hset
    rw [named_merge hproper, hset]
    rfl
  · intro field hremoved
    rw [named_merge hproper, hremoved]
    rfl
  · intro w hperm
    have hname : ∀ name, w.forName? name = u.forName? name := by
      intro name
      unfold QueryUpdate.forName?
      exact congrArg _ (funext (hproper.get?_of_perm hperm))
    refine ⟨added w ps, ?_, hperm.filterMap _⟩
    rw [merge_eq_kept_append_added (hproper.of_perm hperm), kept_congr hname]

/-- A query with repeated and empty pairs between those of others, and two orders of one update. -/
theorem merge_in_place_repeated :
    let ps : List FormEncoded.Pair :=
      [("key", ""), ("a", "1"), ("sinceDate", "x"), ("key", "y"), ("a", "1"), ("sinceDate", "")]
    let u := QueryUpdate.ofList
      [(.untilDate, some "u"), (.key, some "k"), (.tokenType, some "any"), (.sinceDate, some "")]
    let w := QueryUpdate.ofList
      [(.sinceDate, none), (.tokenType, some "any"), (.key, some "k"), (.untilDate, some "u")]
    u.get? .key = some (some "k") ∧ u.get? .sinceDate = some none ∧ w.entries.Perm u.entries ∧
      named "key" (merge ps u) = [("key", "k")] ∧ named "sinceDate" (merge ps u) = [] ∧
      ∃ tail, merge ps w = kept u [] ps ++ tail ∧ tail.Perm (added u ps) := by
  intro ps u w
  have hkey : u.get? .key = some (some "k") := by decide
  have hsince : u.get? .sinceDate = some none := by decide
  have hperm : w.entries.Perm u.entries := by decide
  obtain ⟨_, hset, hremoved, _, hordered⟩ := merge_in_place ps
    [(.untilDate, some "u"), (.key, some "k"), (.tokenType, some "any"), (.sinceDate, some "")]
  exact ⟨hkey, hsince, hperm, hset .key "k" hkey, hremoved .sinceDate hsince, hordered w hperm⟩

-- The first pair has the new value though it was empty, and the second one is gone.
example :
    merge [("key", ""), ("a", "1"), ("key", "y")]
        (.ofList [(.tokenType, some "any"), (.key, some "k")]) =
      [("key", "k"), ("a", "1"), ("tokenType", "any")] := by
  decide

end Query

end HistorySearch
