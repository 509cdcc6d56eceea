-- SUMMARY: What a query holds after an update was merged into it.
import HistorySearch.Proofs.Url.Query
import HistorySearch.Search.Store

/-!
# Merging of updates

After a merge every field of the update has the value that the update says, whatever stood in the
query before; the other fields and the pairs of other names are what they were.
-/

namespace HistorySearch

/-! ## Updates -/

namespace QueryUpdate

/-- What an update says for a field, if it has an entry for it. -/
def get? (u : QueryUpdate) (field : Field) : Option (Option String) :=
  u.entries.lookup field

/-- The entries of an update are for different fields, and none writes an empty text. -/
structure IsProper (u : QueryUpdate) : Prop where
  nodup : (u.entries.map Prod.fst).Nodup
  nonempty : ∀ e ∈ u.entries, e.2 ≠ some ""

theorem isProper_empty : IsProper empty :=
  ⟨List.nodup_nil, by simp [empty]⟩

theorem mem_setEntry {field : Field} {value : Option String} {e : Field × Option String}
    {es : List (Field × Option String)} (h : e ∈ setEntry field value es) :
    e = (field, value) ∨ e ∈ es := by
  induction es with
  | nil => simpa [setEntry] using h
  | cons d ds ih =>
    rw [setEntry] at h
    split at h
    · rcases List.mem_cons.mp h with h | h
      · exact .inl h
      · exact .inr (List.mem_cons_of_mem _ h)
    · rcases List.mem_cons.mp h with h | h
      · exact .inr (List.mem_cons.mpr (.inl h))
      · exact (ih h).imp_right (List.mem_cons_of_mem _)

theorem nodup_setEntry {field : Field} {value : Option String} {es : List (Field × Option String)}
    (h : (es.map Prod.fst).Nodup) : ((setEntry field value es).map Prod.fst).Nodup := by
  induction es with
  | nil => simp [setEntry]
  | cons d ds ih =>
    obtain ⟨hnotin, hnodup⟩ := List.nodup_cons.mp h
    rw [setEntry]
    split
    · rename_i hfield
      rw [List.map_cons, ← hfield]
      exact List.nodup_cons.mpr ⟨hnotin, hnodup⟩
    · rename_i hfield
      refine List.nodup_cons.mpr ⟨fun hmem => ?_, ih hnodup⟩
      obtain ⟨e, he, hname⟩ := List.mem_map.mp hmem
      rcases mem_setEntry he with rfl | he
      · exact hfield hname.symm
      · exact hnotin (List.mem_map.mpr ⟨e, he, hname⟩)

theorem lookup_setEntry (field other : Field) (value : Option String)
    (es : List (Field × Option String)) :
    (setEntry field value es).lookup other =
      if other = field then some value else es.lookup other := by
  induction es with
  | nil => grind [setEntry]
  | cons d ds ih => grind [setEntry]

theorem get?_set (u : QueryUpdate) (field other : Field) (value : Option String) :
    (u.set field value).get? other =
      if other = field then some (value.bind nonEmpty?) else u.get? other :=
  lookup_setEntry field other _ u.entries

theorem bind_nonEmpty? (value : Option String) : value.bind nonEmpty? ≠ some "" := by
  cases value with
  | none => simp
  | some s => simp [nonEmpty?]

theorem bind_nonEmpty?_eq_self {value : Option String} (h : value ≠ some "") :
    value.bind nonEmpty? = value := by
  cases value with
  | none => rfl
  | some s => exact if_neg fun hempty => h (congrArg some hempty)

theorem isProper_set {u : QueryUpdate} (h : u.IsProper) (field : Field) (value : Option String) :
    (u.set field value).IsProper := by
  refine ⟨nodup_setEntry h.nodup, fun e he => ?_⟩
  rcases mem_setEntry he with rfl | he
  · exact bind_nonEmpty? value
  · exact h.nonempty e he

/-- Every update that is made by settings is proper. -/
theorem isProper_ofList (settings : List (Field × Option String)) : (ofList settings).IsProper := by
  have hfold : ∀ u : QueryUpdate, u.IsProper →
      (settings.foldl (fun u s => u.set s.1 s.2) u).IsProper := by
    induction settings with
    | nil => exact fun _ h => h
    | cons s ss ih => exact fun u h => ih (u.set s.1 s.2) (isProper_set h s.1 s.2)
  exact hfold empty isProper_empty

theorem IsProper.tail {e : Field × Option String} {es : List (Field × Option String)}
    (h : IsProper ⟨e :: es⟩) : IsProper ⟨es⟩ :=
  ⟨(List.nodup_cons.mp h.nodup).2, fun d hd => h.nonempty d (List.mem_cons_of_mem _ hd)⟩

theorem IsProper.lookup_tail {e : Field × Option String} {es : List (Field × Option String)}
    (h : IsProper ⟨e :: es⟩) : es.lookup e.1 = none := by
  have hnotin := (List.nodup_cons.mp h.nodup).1
  refine List.lookup_eq_none_iff.mpr fun d hd => bne_iff_ne.mpr fun hname => hnotin ?_
  rw [hname]
  exact List.mem_map_of_mem hd

theorem mem_of_get? {u : QueryUpdate} {field : Field} {value : Option String}
    (h : u.get? field = some value) : (field, value) ∈ u.entries := by
  obtain ⟨before, after, hentries, _⟩ := List.lookup_eq_some_iff.mp h
  simp [hentries]

theorem IsProper.get?_of_mem {u : QueryUpdate} (h : u.IsProper) {e : Field × Option String}
    (he : e ∈ u.entries) : u.get? e.1 = some e.2 := by
  obtain ⟨before, after, hentries⟩ := List.append_of_mem he
  refine List.lookup_eq_some_iff.mpr ⟨before, after, hentries, fun d hd => ?_⟩
  have hnodup := h.nodup
  rw [hentries, List.map_append, List.map_cons] at hnodup
  have hne := (List.nodup_append.mp hnodup).2.2 d.1 (List.mem_map_of_mem hd) e.1 List.mem_cons_self
  exact bne_iff_ne.mpr hne.symm

end QueryUpdate

/-! ## Pairs of a name -/

namespace Query

open QueryParams

/-- The pairs of a name. -/
def named (name : String) (ps : List FormEncoded.Pair) : List FormEncoded.Pair :=
  ps.filter (·.1 = name)

theorem named_cons (name : String) (p : FormEncoded.Pair) (ps : List FormEncoded.Pair) :
    named name (p :: ps) = if p.1 = name then p :: named name ps else named name ps := by
  grind [named]

theorem named_remove_self (name : String) (ps : List FormEncoded.Pair) :
    named name (remove name ps) = [] := by
  induction ps with
  | nil => rfl
  | cons p ps ih => grind [named_cons, remove]

theorem named_remove_of_ne {name other : String} (h : other ≠ name) (ps : List FormEncoded.Pair) :
    named other (remove name ps) = named other ps := by
  induction ps with
  | nil => rfl
  | cons p ps ih => grind [named_cons, remove]

theorem named_put_self (name value : String) (ps : List FormEncoded.Pair) :
    named name (put name value ps) = [(name, value)] := by
  induction ps with
  | nil => grind [named, put]
  | cons p ps ih => grind [named_cons, put, named_remove_self]

theorem named_put_of_ne {name other : String} (h : other ≠ name) (value : String)
    (ps : List FormEncoded.Pair) : named other (put name value ps) = named other ps := by
  induction ps with
  | nil => grind [named, put]
  | cons p ps ih => grind [named_cons, put, named_remove_of_ne]

/-- The pairs that an entry leaves of a field: its own or none for the field that it is for. -/
theorem named_applyEntry (e : Field × Option String) (ps : List FormEncoded.Pair) (field : Field) :
    named field.name (applyEntry ps e) =
      if field = e.1 then (e.2.map (field.name, ·)).toList else named field.name ps := by
  obtain ⟨own, value⟩ := e
  by_cases hfield : field = own
  · subst hfield
    rw [if_pos rfl]
    cases value with
    | none => exact named_remove_self _ ps
    | some value => exact named_put_self _ value ps
  · have hname : field.name ≠ own.name := fun hname => hfield (Field.name_injective hname)
    rw [if_neg hfield]
    cases value with
    | none => exact named_remove_of_ne hname ps
    | some value => exact named_put_of_ne hname value ps

/-- After a merge a field has the one pair that the update says or none, and without an entry the
pairs that it had. -/
theorem named_merge {u : QueryUpdate} (h : u.IsProper) (ps : List FormEncoded.Pair)
    (field : Field) :
    named field.name (merge ps u) =
      match u.get? field with
      | some value => (value.map (field.name, ·)).toList
      | none => named field.name ps := by
  obtain ⟨entries⟩ := u
  unfold merge QueryUpdate.get?
  induction entries generalizing ps with
  | nil => rfl
  | cons e es ih =>
    rw [List.foldl_cons, ih (applyEntry ps e) h.tail, named_applyEntry, List.lookup_cons]
    -- The entries after the first cannot undo it, since they are for other fields.
    by_cases hfield : field = e.1
    · rw [if_pos hfield, hfield, h.lookup_tail, beq_self_eq_true]
    · rw [if_neg hfield, beq_eq_false_iff_ne.mpr hfield]

/-! ## Values -/

/-- Only the pairs of a name count for its value. -/
theorem firstValue?_named (name : String) (ps : List FormEncoded.Pair) :
    firstValue? (named name ps) name = firstValue? ps name := by
  induction ps with
  | nil => rfl
  | cons p ps ih => grind [named, firstValue?]

/-- After a merge a field has the value of the update, and without one the value it had. -/
theorem firstValue?_merge {u : QueryUpdate} (h : u.IsProper) (ps : List FormEncoded.Pair)
    (field : Field) :
    firstValue? (merge ps u) field.name = (u.get? field).getD (firstValue? ps field.name) := by
  rw [← firstValue?_named, named_merge h]
  cases hget : u.get? field with
  | none => exact firstValue?_named field.name ps
  | some value =>
    cases value with
    | none => rfl
    | some text =>
      have htext : text ≠ "" := fun hempty =>
        h.nonempty _ (QueryUpdate.mem_of_get? hget) (congrArg some hempty)
      simp [firstValue?, htext]

/-! ## Merging again -/

theorem remove_eq_self {name : String} {ps : List FormEncoded.Pair} (h : named name ps = []) :
    remove name ps = ps := by
  refine List.filter_eq_self.mpr fun p hp => ?_
  simpa using List.filter_eq_nil_iff.mp h p hp

theorem put_eq_self {name value : String} {ps : List FormEncoded.Pair}
    (h : named name ps = [(name, value)]) : put name value ps = ps := by
  induction ps with
  | nil => contradiction
  | cons p ps ih =>
    rw [named_cons] at h
    rw [put]
    by_cases hname : p.1 = name
    · rw [if_pos hname] at h
      obtain ⟨hp, hrest⟩ := List.cons_eq_cons.mp h
      rw [if_pos hname, hp, remove_eq_self hrest]
    · rw [if_neg hname] at h
      rw [if_neg hname, ih h]

/-- An entry changes nothing where its field has what it says already. -/
theorem applyEntry_eq_self {e : Field × Option String} {ps : List FormEncoded.Pair}
    (h : named e.1.name ps = (e.2.map (e.1.name, ·)).toList) : applyEntry ps e = ps := by
  obtain ⟨field, value⟩ := e
  cases value with
  | none => exact remove_eq_self h
  | some value => exact put_eq_self h

theorem merge_eq_self {u : QueryUpdate} {ps : List FormEncoded.Pair}
    (h : ∀ e ∈ u.entries, applyEntry ps e = ps) : merge ps u = ps := by
  obtain ⟨entries⟩ := u
  unfold merge
  induction entries with
  | nil => rfl
  | cons e es ih =>
    rw [List.foldl_cons, h e List.mem_cons_self]
    exact ih fun d hd => h d (List.mem_cons_of_mem _ hd)

/-- Merging an update a second time changes nothing. -/
theorem merge_merge {u : QueryUpdate} (h : u.IsProper) (ps : List FormEncoded.Pair) :
    merge (merge ps u) u = merge ps u := by
  refine merge_eq_self fun e he => applyEntry_eq_self ?_
  rw [named_merge h, h.get?_of_mem he]

/-! ## Pairs of others -/

theorem filter_remove {name : String} {q : FormEncoded.Pair → Bool}
    (h : ∀ p : FormEncoded.Pair, p.1 = name → q p = false) (ps : List FormEncoded.Pair) :
    (remove name ps).filter q = ps.filter q := by
  rw [remove, List.filter_filter]
  refine List.filter_congr fun p _ => ?_
  by_cases hname : p.1 = name
  · simp [h p hname]
  · simp [hname]

theorem filter_put {name : String} {q : FormEncoded.Pair → Bool}
    (h : ∀ p : FormEncoded.Pair, p.1 = name → q p = false) (value : String)
    (ps : List FormEncoded.Pair) : (put name value ps).filter q = ps.filter q := by
  induction ps with
  | nil => simp [put, h (name, value) rfl]
  | cons p ps ih =>
    rw [put]
    by_cases hname : p.1 = name
    · rw [if_pos hname, List.filter_cons_of_neg (by simp [h (name, value) rfl]),
        List.filter_cons_of_neg (by simp [h p hname]), filter_remove h]
    · rw [if_neg hname, List.filter_cons, List.filter_cons, ih]

/-- The pairs whose names belong to no field. -/
def foreign (ps : List FormEncoded.Pair) : List FormEncoded.Pair :=
  ps.filter fun p => (Field.ofName? p.1).isNone

/-- A merge leaves pairs as they are, in their order, of which none has the name of an entry. -/
theorem filter_merge {u : QueryUpdate} {q : FormEncoded.Pair → Bool}
    (h : ∀ e ∈ u.entries, ∀ p : FormEncoded.Pair, p.1 = e.1.name → q p = false)
    (ps : List FormEncoded.Pair) : (merge ps u).filter q = ps.filter q := by
  obtain ⟨entries⟩ := u
  unfold merge
  induction entries generalizing ps with
  | nil => rfl
  | cons e es ih =>
    have hentry : (applyEntry ps e).filter q = ps.filter q := by
      have hname := h e List.mem_cons_self
      unfold applyEntry
      split
      · exact filter_put hname _ ps
      · exact filter_remove hname ps
    rw [List.foldl_cons, ih (applyEntry ps e) fun d hd => h d (List.mem_cons_of_mem _ hd), hentry]

/-- A merge leaves the pairs of other names as they are, in their order. -/
theorem foreign_merge (ps : List FormEncoded.Pair) (u : QueryUpdate) :
    foreign (merge ps u) = foreign ps := by
  refine filter_merge (fun e _ p hp => ?_) ps
  rw [hp, Field.ofName?_name]
  rfl

end Query

/-! ## Stores -/

namespace Store

/-- Either kind of store holds after a write what the update makes of what it held before. -/
theorem pairs_set (s : Store) (u : QueryUpdate) :
    (s.set u).pairs = Query.merge s.pairs u := by
  cases s with
  | url v => exact Url.pairs_setPairs v _
  | memory ps writes => rfl

/-- The text of the query that is kept; a URL may have none. -/
def query? : Store → Option String
  | url u => u.query
  | memory ps _ => some (FormEncoded.write ps)

/-- Two stores have the same query text and, if they are URLs, the same text altogether. -/
structure SameText (s t : Store) : Prop where
  query : s.query? = t.query?
  whole : s.text = t.text

/-- Making an update a second time leaves the text of a store as it is. -/
theorem sameText_set_set {u : QueryUpdate} (h : u.IsProper) (s : Store) :
    ((s.set u).set u).SameText (s.set u) := by
  cases s with
  | url v =>
    have hagain : ((url v).set u).set u = (url v).set u := by
      simp only [set, Url.pairs_setPairs, Query.merge_merge h, Url.setPairs_setPairs]
    rw [hagain]
    exact ⟨rfl, rfl⟩
  | memory ps writes =>
    simp only [set, Query.merge_merge h]
    exact ⟨rfl, rfl⟩

end Store

end HistorySearch
