-- SUMMARY: What an update holds after any settings.
import HistorySearch.Proofs.Search.Merge
import Mathlib.Data.List.Induction

/-!
# Entries of an update

An update is made by settings, one after the other. It keeps one entry for each field that was
mentioned, where the field was mentioned first and with what was said of it last; a field that is to
go keeps its entry as well. A merge makes the entries one by one and relies on this: no entry is
undone by a later one, so that merging again finds nothing left to do.
-/

namespace HistorySearch

namespace QueryUpdate

/-- The fields that some settings mention, each once, in the order of the first mentions. -/
def firstMentions (settings : List (Field × Option String)) : List Field :=
  (settings.map Prod.fst).eraseDups

/-- What the last of some settings for a field says, if there is one. An empty text says that the
field is to go. -/
def lastSetting? (settings : List (Field × Option String)) (field : Field) :
    Option (Option String) :=
  (settings.reverse.lookup field).map (·.bind nonEmpty?)

variable {field : Field} {value : Option String}

-- ---------------------------------------------------------------------------
-- One setting
-- ---------------------------------------------------------------------------

/-- A setting leaves the fields as they are, or adds its own at the end. -/
theorem fields_setEntry (field : Field) (value : Option String)
    (es : List (Field × Option String)) :
    (setEntry field value es).map Prod.fst =
      if field ∈ es.map Prod.fst then es.map Prod.fst else es.map Prod.fst ++ [field] := by
  induction es with
  | nil => rfl
  | cons e es ih =>
    rw [setEntry]
    by_cases hfield : e.1 = field
    · rw [if_pos hfield, if_pos (by simp [hfield]), List.map_cons, List.map_cons, hfield]
    · have hmem : field ∈ (e :: es).map Prod.fst ↔ field ∈ es.map Prod.fst := by
        simp [Ne.symm hfield]
      rw [if_neg hfield, List.map_cons, ih]
      simp only [hmem]
      split_ifs
      · rfl
      · rfl

theorem ofList_concat (settings : List (Field × Option String)) (s : Field × Option String) :
    ofList (settings ++ [s]) = (ofList settings).set s.1 s.2 := by
  rw [ofList, ofList, List.foldl_append, List.foldl_cons, List.foldl_nil]

theorem firstMentions_concat (settings : List (Field × Option String))
    (s : Field × Option String) :
    firstMentions (settings ++ [s]) =
      if s.1 ∈ firstMentions settings then firstMentions settings
      else firstMentions settings ++ [s.1] := by
  unfold firstMentions
  rw [List.map_append, List.map_singleton, List.eraseDups_append]
  by_cases hmem : s.1 ∈ settings.map Prod.fst
  · rw [if_pos (List.mem_eraseDups.mpr hmem)]
    simp [List.removeAll, hmem]
  · rw [if_neg fun h => hmem (List.mem_eraseDups.mp h)]
    simp [List.removeAll, hmem, List.eraseDups_cons]

theorem lastSetting?_concat (settings : List (Field × Option String))
    (s : Field × Option String) (field : Field) :
    lastSetting? (settings ++ [s]) field =
      if field = s.1 then some (s.2.bind nonEmpty?) else lastSetting? settings field := by
  unfold lastSetting?
  rw [List.reverse_append, List.reverse_singleton, List.singleton_append, List.lookup_cons]
  by_cases hfield : field = s.1
  · rw [if_pos hfield, beq_iff_eq.mpr hfield]
    rfl
  · rw [if_neg hfield, beq_eq_false_iff_ne.mpr hfield]

-- ---------------------------------------------------------------------------
-- Any settings
-- ---------------------------------------------------------------------------

theorem fields_ofList (settings : List (Field × Option String)) :
    (ofList settings).entries.map Prod.fst = firstMentions settings := by
  induction settings using List.reverseRecOn with
  | nil => rfl
  | append_singleton ss s ih =>
    rw [ofList_concat, set, fields_setEntry, ih, firstMentions_concat]

theorem get?_ofList (settings : List (Field × Option String)) (field : Field) :
    (ofList settings).get? field = lastSetting? settings field := by
  induction settings using List.reverseRecOn with
  | nil => rfl
  | append_singleton ss s ih => rw [ofList_concat, get?_set, ih, lastSetting?_concat]

/-- With one entry for each field, an update is told by its fields and what it says for them. -/
theorem IsProper.entries_eq {u : QueryUpdate} (h : u.IsProper) :
    u.entries = (u.entries.map Prod.fst).map fun field => (field, (u.get? field).getD none) := by
  have hsame : ∀ e ∈ u.entries, (e.1, (u.get? e.1).getD none) = e := by
    intro e he
    rw [h.get?_of_mem he]
    rfl
  rw [List.map_map]
  exact ((List.map_congr_left hsame).trans (List.map_id _)).symm

/-- Whatever was set, an update has one entry for each field that was mentioned, in the order of the
first mentions and with what was said last, never an empty text. So it says for each field what the
last setting said, which is all that a merge leaves of the field, and merging again changes
nothing. -/
theorem entries_last_said (settings : List (Field × Option String)) :
    let u := ofList settings
    u.entries = (firstMentions settings).map
        (fun field => (field, (lastSetting? settings field).getD none)) ∧
      (u.entries.map Prod.fst).Nodup ∧
      some "" ∉ u.entries.map Prod.snd ∧
      (∀ field, u.get? field = lastSetting? settings field) ∧
      ∀ ps,
        (∀ field : Field, Query.named field.name (Query.merge ps u) =
          match lastSetting? settings field with
          | some value => (value.map (field.name, ·)).toList
          | none => Query.named field.name ps) ∧
        Query.merge (Query.merge ps u) u = Query.merge ps u := by
  intro u
  have hproper : u.IsProper := isProper_ofList settings
  have hsaid : ∀ field, u.get? field = lastSetting? settings field := get?_ofList settings
  refine ⟨?_, hproper.nodup, ?_, hsaid, fun ps => ⟨fun field => ?_, Query.merge_merge hproper ps⟩⟩
  · rw [hproper.entries_eq, fields_ofList]
    exact List.map_congr_left fun field _ => by rw [hsaid]
  · intro hempty
    obtain ⟨e, he, hvalue⟩ := List.mem_map.mp hempty
    exact hproper.nonempty e he hvalue
  · have hnamed := Query.named_merge hproper ps field
    rw [hsaid] at hnamed
    exact hnamed

-- A field that is to go keeps its place, and what is said of it later is written there.
example :
    (ofList [(.key, some "a"), (.sinceDate, none), (.key, some ""), (.key, some "b")]).entries =
      [(.key, some "b"), (.sinceDate, none)] := by
  decide

end QueryUpdate

end HistorySearch
