/-
Header lists and what was set in them. A list comes about by settings and by laying lists
over it (`History`); its pairs are those of all settings that no later one of the same name
has replaced, in their order (`lasting`, `headers_eq_ofList`). What a setting does to a list
(`entries_setAll`) carries this: laying a list over another one does the same as the
settings that the upper one was made by (`setAll_entries_ofList`). So names are found by
what was set last under them, in any case (`headers_ordered_map`).
-/
import CloudSession.Proofs.Http.Overlay
import Mathlib.Data.Finset.Card

namespace CloudSession

namespace Headers

variable {pairs : List (String × String)} {entry : String × String} {name value x : String}

-- =================================================================== the names

/-- The names of pairs, in lower case. -/
def lowerNames (pairs : List (String × String)) : List String := pairs.map (·.1.toLower)

/-- The different names in a header list. -/
def names (h : Headers) : Finset String := (lowerNames h.entries).toFinset

theorem lowerNames_cons (entry : String × String) (pairs : List (String × String)) :
    lowerNames (entry :: pairs) = entry.1.toLower :: lowerNames pairs := rfl

theorem mem_lowerNames_iff :
    name.toLower ∈ lowerNames pairs ↔ ∃ entry ∈ pairs, sameName entry.1 name = true := by
  simp only [lowerNames, List.mem_map, sameName_iff]

theorem distinct_iff_nodup {h : Headers} : h.Distinct ↔ (lowerNames h.entries).Nodup := by
  rw [Distinct, lowerNames, List.Nodup, List.pairwise_map]
  simp only [ne_eq, ← sameName_iff, Bool.not_eq_true]

-- ========================================================== what is not replaced

/-- The pairs whose names no later pair has. -/
def lasting : List (String × String) → List (String × String)
  | [] => []
  | entry :: rest =>
    if entry.1.toLower ∈ lowerNames rest then lasting rest else entry :: lasting rest

theorem mem_lowerNames_lasting : x ∈ lowerNames (lasting pairs) ↔ x ∈ lowerNames pairs := by
  induction pairs with
  | nil => rfl
  | cons entry rest ih =>
    rw [lasting, lowerNames_cons]
    split
    · next hlater =>
      rw [ih, List.mem_cons, iff_or_self]
      rintro rfl
      exact hlater
    · rw [lowerNames_cons, List.mem_cons, List.mem_cons, ih]

theorem lasting_of_nodup (h : (lowerNames pairs).Nodup) : lasting pairs = pairs := by
  induction pairs with
  | nil => rfl
  | cons entry rest ih =>
    rw [lowerNames_cons, List.nodup_cons] at h
    rw [lasting, if_neg h.1, ih h.2]

-- ==================================================================== settings

/-- After settings stand the pairs of other names that there were, and then those that no
later setting replaced. -/
theorem entries_setAll (h : Headers) (pairs : List (String × String)) :
    (h.setAll pairs).entries
      = (h.entries.filter fun entry => entry.1.toLower ∉ lowerNames pairs) ++ lasting pairs := by
  induction pairs generalizing h with
  | nil => simp [setAll, lasting, lowerNames]
  | cons pair rest ih =>
    have hfilter : (h.entries.filter fun entry => !sameName entry.1 pair.1).filter
        (fun entry => entry.1.toLower ∉ lowerNames rest)
        = h.entries.filter fun entry => entry.1.toLower ∉ lowerNames (pair :: rest) := by
      rw [List.filter_filter]
      refine List.filter_congr fun entry _ => ?_
      have hsame : sameName entry.1 pair.1 = false ↔ entry.1.toLower ≠ pair.1.toLower := by
        rw [← Bool.not_eq_true, sameName_iff]
      rw [Bool.eq_iff_iff]
      simp [lowerNames_cons, hsame, and_comm]
    rw [setAll_cons, ih, set, List.filter_append, hfilter, List.append_assoc, lasting]
    congr 1
    split
    · next hlater => simp [hlater]
    · next hlast => simp [hlast]

theorem ofList_append (earlier later : List (String × String)) :
    ofList (earlier ++ later) = (ofList earlier).setAll later := List.foldl_append

theorem entries_ofList (pairs : List (String × String)) : (ofList pairs).entries = lasting pairs :=
  entries_setAll empty pairs

/-- It makes no difference to lay a list over another one or to set all that was set to make
it. -/
theorem setAll_entries_ofList (h : Headers) (pairs : List (String × String)) :
    h.setAll (ofList pairs).entries = h.setAll pairs := by
  have hnodup := distinct_iff_nodup.mp (distinct_ofList pairs)
  show Headers.mk (h.setAll _).entries = Headers.mk (h.setAll _).entries
  rw [entries_setAll, entries_setAll, lasting_of_nodup hnodup, entries_ofList]
  simp only [mem_lowerNames_lasting]

-- =================================================================== histories

/-- How a header list comes about: from nothing or from pairs, by a setting, or by laying
another list over it. -/
inductive History
  | empty
  | ofList (pairs : List (String × String))
  | set (before : History) (name value : String)
  | extend (lower upper : History)

namespace History

/-- The headers at the end of a history. -/
def headers : History → Headers
  | .empty => Headers.empty
  | .ofList pairs => Headers.ofList pairs
  | .set before name value => before.headers.set name value
  | .extend lower upper => lower.headers.extend upper.headers

/-- All that was set in a history, in order. -/
def settings : History → List (String × String)
  | .empty => []
  | .ofList pairs => pairs
  | .set before name value => before.settings ++ [(name, value)]
  | .extend lower upper => lower.settings ++ upper.settings

/-- The headers are those that all settings make. -/
theorem headers_eq_ofList (h : History) : h.headers = Headers.ofList h.settings := by
  induction h with
  | empty => rfl
  | ofList pairs => rfl
  | set before name value ih =>
    rw [headers, settings, ofList_append, ih]
    rfl
  | extend lower upper ihLower ihUpper =>
    rw [headers, settings, ofList_append, Headers.extend, ihLower, ihUpper, setAll_entries_ofList]

theorem entries_eq (h : History) : h.headers.entries = lasting h.settings := by
  rw [headers_eq_ofList, entries_ofList]

theorem distinct (h : History) : h.headers.Distinct := by
  rw [headers_eq_ofList]
  exact distinct_ofList h.settings

end History

-- ===================================================================== lookups

/-- The last of the settings of a name, in any case, gave it a value. -/
def SetLast (pairs : List (String × String)) (name value : String) : Prop :=
  ∃ before written after, pairs = before ++ (written, value) :: after ∧
    sameName written name = true ∧ ∀ later ∈ after, sameName later.1 name = false

theorem get?_ofList : (ofList pairs).get? name = some value ↔ SetLast pairs name value := by
  have hempty : empty.get? name = none := rfl
  rw [ofList, get?_setAll_last, hempty, Option.or_none, findSome?_reverse_eq_some_iff]
  simp only [Option.ite_none_right_eq_some, Option.some.injEq, ite_eq_right_iff, reduceCtorEq,
    imp_false, Bool.not_eq_true]
  constructor
  · rintro ⟨before, ⟨written, _⟩, after, hpairs, ⟨hsame, rfl⟩, hafter⟩
    exact ⟨before, written, after, hpairs, hsame, hafter⟩
  · rintro ⟨before, written, after, hpairs, hsame, hafter⟩
    exact ⟨before, (written, value), after, hpairs, ⟨hsame, rfl⟩, hafter⟩

theorem contains_iff {h : Headers} (hdistinct : h.Distinct) :
    h.contains name = true ↔ name.toLower ∈ lowerNames h.entries := by
  rw [contains, Option.isSome_iff_exists, mem_lowerNames_iff]
  simp only [get?_eq_some_iff hdistinct]
  constructor
  · rintro ⟨_, entry, hentry, hsame, -⟩
    exact ⟨entry, hentry, hsame⟩
  · rintro ⟨entry, hentry, hsame⟩
    exact ⟨_, entry, hentry, hsame, rfl⟩

-- ======================================================================= sizes

/-- There are as many headers as different names. -/
theorem size_eq_card {h : Headers} (hdistinct : h.Distinct) : h.size = h.names.card := by
  rw [names, List.toFinset_card_of_nodup (distinct_iff_nodup.mp hdistinct), lowerNames,
    List.length_map, size]

/-- Of two lists laid over one another no name is lost. -/
theorem names_extend (h upper : Headers) : (h.extend upper).names = h.names ∪ upper.names := by
  have hnames : lowerNames (h.extend upper).entries
      = (lowerNames h.entries).filter (· ∉ lowerNames upper.entries)
        ++ lowerNames (lasting upper.entries) := by
    rw [extend, entries_setAll, lowerNames, lowerNames, lowerNames, List.map_append,
      List.filter_map]
    rfl
  ext x
  rw [names, names, names, Finset.mem_union, List.mem_toFinset, List.mem_toFinset,
    List.mem_toFinset, hnames, List.mem_append, mem_lowerNames_lasting, List.mem_filter,
    decide_eq_true_iff]
  by_cases hupper : x ∈ lowerNames upper.entries
  · simp [hupper]
  · simp [hupper]

-- ==================================================================== one step

/-- What the setting of a name does to headers: its pair comes last, all pairs of other names
are kept in their order, and no other name has another value. -/
structure Replaces (h : Headers) (name value : String) (after : Headers) : Prop where
  last : ∃ kept, after.entries = kept ++ [(name, value)] ∧ kept.Sublist h.entries ∧
    ∀ entry ∈ h.entries, entry ∈ kept ↔ sameName entry.1 name = false
  get?_self : after.get? name = some value
  get?_other : ∀ other, sameName name other = false → after.get? other = h.get? other

theorem replaces_set (h : Headers) (name value : String) :
    Replaces h name value (h.set name value) where
  last := by
    refine ⟨h.entries.filter fun entry => !sameName entry.1 name, rfl, List.filter_sublist,
      fun entry hentry => ?_⟩
    rw [List.mem_filter, Bool.not_eq_true']
    exact and_iff_right hentry
  get?_self := h.get?_set_self name value
  get?_other _ hne := h.get?_set_of_ne hne value

end Headers

open Headers in
/-- Headers are an ordered map in which the case of names makes no difference. However they
came about, no two names are equal but for case, and what stands in them are the settings
that no later one has replaced, in their order: a name is found in any case, with what was
set last under it. A setting changes nothing but its own name, which comes last. Headers laid
over others are found first, and there are as many pairs as the two have names. -/
theorem headers_ordered_map (h : History) :
    h.headers.Distinct ∧ h.headers.entries = lasting h.settings ∧
    (∀ name value, h.headers.get? name = some value ↔ SetLast h.settings name value) ∧
    (∀ name, h.headers.contains name = true ↔
      ∃ pair ∈ h.settings, sameName pair.1 name = true) ∧
    (∀ name value, Replaces h.headers name value (h.headers.set name value)) ∧
    ∀ upper : History,
      (∀ name, (h.headers.extend upper.headers).get? name =
        if upper.headers.contains name then upper.headers.get? name else h.headers.get? name) ∧
      (h.headers.extend upper.headers).size = (h.headers.names ∪ upper.headers.names).card := by
  refine ⟨h.distinct, h.entries_eq, fun name value => ?_, fun name => ?_,
    fun name value => replaces_set _ name value, fun upper => ⟨fun name => ?_, ?_⟩⟩
  · rw [h.headers_eq_ofList]
    exact get?_ofList
  · rw [contains_iff h.distinct, h.entries_eq, mem_lowerNames_lasting, mem_lowerNames_iff]
  · rw [get?_extend _ upper.distinct, contains]
    cases upper.headers.get? name <;> rfl
  · rw [size_eq_card (distinct_extend h.distinct _), names_extend]

end CloudSession
