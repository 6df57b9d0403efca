import Mathlib.Data.List.Induction
import Mathlib.Data.List.Nodup
import Transcripts.Sections

/-!
# Distinct keys

Insertion and appending give each key one entry: a key that is new gets the last place, and one that is there
keeps its place and gets the new text.  So whatever is built by them has distinct keys (`built_iff`), in the
order in which they were first given, and each key has the text that it was given last.
-/
namespace Transcripts.Sections

/-! ## One insertion -/

theorem put_of_mem {key text : String} {es : List Section} (h : key ∈ es.map (·.key)) :
    (put key text es).map (·.key) = es.map (·.key) := by
  induction es with
  | nil => simp at h
  | cons e es ih =>
    unfold put
    by_cases he : e.key = key
    · rw [if_pos he]
      rfl
    · rw [if_neg he]
      have hrest : key ∈ es.map (·.key) := by simpa [Ne.symm he] using h
      simp [ih hrest]

theorem put_of_not_mem {key text : String} {es : List Section} (h : key ∉ es.map (·.key)) :
    put key text es = es ++ [⟨key, text⟩] := by
  induction es with
  | nil => rfl
  | cons e es ih =>
    simp only [List.map_cons, List.mem_cons, not_or] at h
    unfold put
    rw [if_neg (Ne.symm h.1), ih h.2, List.cons_append]

theorem keys_insert (s : Sections) (key text : String) :
    (s.insert key text).keys = if key ∈ s.keys then s.keys else s.keys ++ [key] := by
  unfold insert keys
  by_cases h : key ∈ s.entries.map (·.key)
  · rw [if_pos h, put_of_mem h]
  · rw [if_neg h, put_of_not_mem h, List.map_append, List.map_singleton]

theorem find?_cons (k : String) (e : Section) (es : List Section) :
    (e :: es).find? (·.key == k) = if e.key = k then some e else es.find? (·.key == k) := by
  by_cases h : e.key = k <;> simp [h]

theorem get?_insert (s : Sections) (key text k : String) :
    (s.insert key text).get? k = if k = key then some text else s.get? k := by
  unfold insert get?
  induction s.entries with
  | nil => by_cases h : k = key <;> simp [put, h, Ne.symm]
  | cons e es ih =>
    unfold put
    by_cases he : e.key = key
    · by_cases h : k = key <;> simp [he, h, Ne.symm]
    · by_cases hk : e.key = k
      · have h : ¬ k = key := hk ▸ he
        simp [hk, h]
      · rw [if_neg he, find?_cons, find?_cons, if_neg hk, if_neg hk]
        exact ih

theorem keys_nodup_insert {s : Sections} (h : s.keys.Nodup) (key text : String) : (s.insert key text).keys.Nodup := by
  rw [keys_insert]
  by_cases hk : key ∈ s.keys
  · rwa [if_pos hk]
  · rw [if_neg hk, List.nodup_append]
    refine ⟨h, List.nodup_singleton key, fun a ha b hb => ?_⟩
    rintro rfl
    exact hk (List.mem_singleton.1 hb ▸ ha)

theorem contains_iff {s : Sections} {key : String} : s.contains key = true ↔ key ∈ s.keys := by
  simp [contains, keys]

/-- Appending is insertion of a key that is not there. -/
theorem append_eq_ok {s after : Sections} {key text : String} (h : s.append key text = .ok after) :
    key ∉ s.keys ∧ after = s.insert key text := by
  unfold append at h
  by_cases hc : s.contains key = true
  · rw [if_pos hc] at h
    cases h
  · rw [if_neg hc] at h
    cases h
    have hk : key ∉ s.keys := fun hm => hc (contains_iff.2 hm)
    exact ⟨hk, by rw [insert, put_of_not_mem hk]⟩

/-! ## Many insertions -/

theorem ofPairs_concat (pairs : List (String × String)) (p : String × String) :
    ofPairs (pairs ++ [p]) = (ofPairs pairs).insert p.1 p.2 := by
  simp [ofPairs, List.foldl_append]

theorem ofList_concat (es : List Section) (e : Section) : ofList (es ++ [e]) = (ofList es).insert e.key e.text := by
  rw [ofList, List.map_append, List.map_singleton, ofPairs_concat, ofList]

theorem keys_nodup_ofPairs (pairs : List (String × String)) : (ofPairs pairs).keys.Nodup := by
  induction pairs using List.reverseRecOn with
  | nil => exact List.nodup_nil
  | append_singleton pairs p ih =>
    rw [ofPairs_concat]
    exact keys_nodup_insert ih p.1 p.2

/-- The keys stand in the order in which they were first given. -/
theorem keys_ofList (es : List Section) : (ofList es).keys = (es.map (·.key)).eraseDups := by
  induction es using List.reverseRecOn with
  | nil => rfl
  | append_singleton es e ih =>
    rw [ofList_concat, keys_insert, ih, List.map_append, List.map_singleton, List.eraseDups_append]
    by_cases h : e.key ∈ es.map (·.key)
    · have hnone : List.removeAll [e.key] (es.map (·.key)) = [] := by
        simp only [List.removeAll, List.elem_eq_mem, h, List.filter_cons, decide_true, Bool.not_true]
        rfl
      rw [if_pos (List.mem_eraseDups.2 h), hnone, List.eraseDups_nil, List.append_nil]
    · have hone : List.removeAll [e.key] (es.map (·.key)) = [e.key] := by
        simp only [List.removeAll, List.elem_eq_mem, h, List.filter_cons, decide_false, Bool.not_false]
        rfl
      rw [if_neg fun hm => h (List.mem_eraseDups.1 hm), hone]
      rfl

/-- Each key has the text that it was given last. -/
theorem get?_ofList (es : List Section) (key : String) :
    (ofList es).get? key = (es.reverse.find? (·.key == key)).map (·.text) := by
  induction es using List.reverseRecOn with
  | nil => rfl
  | append_singleton es e ih =>
    rw [ofList_concat, get?_insert, List.reverse_append, List.reverse_singleton, List.singleton_append]
    rw [find?_cons, ih]
    by_cases h : key = e.key
    · simp [h]
    · rw [if_neg h, if_neg (Ne.symm h)]

/-- Entries with distinct keys are all kept as they are. -/
theorem ofList_of_nodup {es : List Section} (h : (es.map (·.key)).Nodup) : ofList es = ⟨es⟩ := by
  induction es using List.reverseRecOn with
  | nil => rfl
  | append_singleton es e ih =>
    rw [List.map_append, List.map_singleton, List.nodup_append] at h
    obtain ⟨hes, -, hdisjoint⟩ := h
    have he : e.key ∉ es.map (·.key) := fun hm => hdisjoint _ hm _ List.mem_cons_self rfl
    rw [ofList_concat, ih hes, insert, put_of_not_mem he]

/-! ## What is built -/

/-- Sections that were built by insertion and appending. -/
inductive Built : Sections → Prop where
  | empty : Built .empty
  | ofPairs (pairs : List (String × String)) : Built (.ofPairs pairs)
  | ofList (es : List Section) : Built (.ofList es)
  | insert {s : Sections} (key text : String) : Built s → Built (s.insert key text)
  | append {s after : Sections} {key text : String} : Built s → s.append key text = .ok after → Built after

/-- What is built has distinct keys, and whatever has distinct keys can be built. -/
theorem built_iff {s : Sections} : Built s ↔ s.keys.Nodup := by
  constructor
  · intro h
    induction h with
    | empty => exact List.nodup_nil
    | ofPairs pairs => exact keys_nodup_ofPairs pairs
    | ofList es => exact keys_nodup_ofPairs _
    | insert key text _ ih => exact keys_nodup_insert ih key text
    | append _ ha ih =>
      obtain ⟨-, rfl⟩ := append_eq_ok ha
      exact keys_nodup_insert ih _ _
  · intro h
    rw [show s = ofList s.entries from (ofList_of_nodup h).symm]
    exact .ofList s.entries

end Transcripts.Sections
