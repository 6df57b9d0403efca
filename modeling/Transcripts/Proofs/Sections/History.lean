import Transcripts.Proofs.Sections.Distinct

/-!
# Sections and what was put into them

Sections are a map that remembers in which order its keys came.  The history of such a map is all that was put into
it, in order: each insertion, and each section appended under a key that was not there.  Sections that are changed
call by call show exactly what their history says (`calls_follow_history`); a step lemma says so of one call
(`apply_ofPairs`) and a run lemma of all (`run_ofPairs`).
-/
namespace Transcripts.Sections

/-- Keys with the texts that they were given, in order; a key may come more than once. -/
abbrev History := List (String × String)

/-- A call that changes sections. -/
inductive Call where
  | insert (key text : String)
  | append (key text : String)
deriving Repr, DecidableEq

namespace Call

/-- What a call leaves of some sections, and the key that it returns as refused. -/
def apply (s : Sections) : Call → Sections × Option String
  | .insert key text => (s.insert key text, none)
  | .append key text =>
    match s.append key text with
    | .ok after => (after, none)
    | .error key => (s, some key)

/-- What calls leave of some sections, and what each of them returns. -/
def run (s : Sections) : List Call → Sections × List (Option String)
  | [] => (s, [])
  | c :: cs =>
    let after := run (c.apply s).1 cs
    (after.1, (c.apply s).2 :: after.2)

/-- What a call adds to a history, and the key that it returns: only an appended section with a key that was put in
before is refused. -/
def record (h : History) : Call → History × Option String
  | .insert key text => (h ++ [(key, text)], none)
  | .append key text => if key ∈ h.map (·.1) then (h, some key) else (h ++ [(key, text)], none)

/-- What calls add to a history, and what each of them returns. -/
def recordAll (h : History) : List Call → History × List (Option String)
  | [] => (h, [])
  | c :: cs =>
    let after := recordAll (c.record h).1 cs
    (after.1, (c.record h).2 :: after.2)

end Call

/-- How sections come to be: with nothing in them, or by insertion of some pairs or entries. -/
inductive Origin where
  | empty
  | pairs (ps : List (String × String))
  | entries (es : List Section)
deriving Repr, DecidableEq

namespace Origin

/-- The sections at the start. -/
def sections : Origin → Sections
  | .empty => Sections.empty
  | .pairs ps => ofPairs ps
  | .entries es => ofList es

/-- What is put in at the start. -/
def history : Origin → History
  | .empty => []
  | .pairs ps => ps
  | .entries es => es.map fun e => (e.key, e.text)

theorem sections_eq (o : Origin) : o.sections = ofPairs o.history := by
  cases o <;> rfl

end Origin

/-! ## What a history says -/

/-- Sections that show what a history says: each key once, in the order in which the keys first came, with the text
that it was given last. -/
structure Shows (s : Sections) (h : History) : Prop where
  nodup : s.keys.Nodup
  keys : s.keys = (h.map (·.1)).eraseDups
  get? : ∀ key, s.get? key = h.reverse.lookup key
  contains : ∀ key, s.contains key = decide (key ∈ h.map (·.1))
  size : s.size = (h.map (·.1)).eraseDups.length

theorem ofPairs_eq_ofList (h : History) : ofPairs h = ofList (h.map fun p => ⟨p.1, p.2⟩) := by
  rw [ofList, List.map_map]
  exact congrArg ofPairs (List.map_id h).symm

theorem lookup_eq_find? (h : History) (key : String) : h.lookup key = (h.find? (·.1 == key)).map (·.2) := by
  induction h with
  | nil => rfl
  | cons p h ih =>
    rw [List.lookup_cons, List.find?_cons, BEq.comm (a := key)]
    cases p.1 == key
    · exact ih
    · rfl

theorem keys_ofPairs (h : History) : (ofPairs h).keys = (h.map (·.1)).eraseDups := by
  rw [ofPairs_eq_ofList, keys_ofList, List.map_map]
  rfl

theorem mem_keys_ofPairs {h : History} {key : String} : key ∈ (ofPairs h).keys ↔ key ∈ h.map (·.1) := by
  rw [keys_ofPairs, List.mem_eraseDups]

theorem shows_ofPairs (h : History) : Shows (ofPairs h) h where
  nodup := keys_nodup_ofPairs h
  keys := keys_ofPairs h
  get? key := by
    rw [ofPairs_eq_ofList, get?_ofList, ← List.map_reverse, List.find?_map, Option.map_map, lookup_eq_find?]
    rfl
  contains key := by
    rw [Bool.eq_iff_iff, contains_iff, mem_keys_ofPairs, decide_eq_true_iff]
  size := by
    rw [← keys_ofPairs, keys, List.length_map, size]

/-! ## One call -/

theorem append_eq (s : Sections) (key text : String) :
    s.append key text = if key ∈ s.keys then .error key else .ok (s.insert key text) := by
  unfold append
  by_cases h : key ∈ s.keys
  · rw [if_pos h, if_pos (contains_iff.2 h)]
  · rw [if_neg h, if_neg fun hc => h (contains_iff.1 hc), insert, put_of_not_mem h]

theorem apply_append (s : Sections) (key text : String) :
    (Call.append key text).apply s = if key ∈ s.keys then (s, some key) else (s.insert key text, none) := by
  rw [Call.apply, append_eq]
  by_cases h : key ∈ s.keys
  · simp only [if_pos h]
  · simp only [if_neg h]

/-- A call does to sections what it does to their history. -/
theorem apply_ofPairs (h : History) (c : Call) : c.apply (ofPairs h) = (ofPairs (c.record h).1, (c.record h).2) := by
  cases c with
  | insert key text => rw [Call.apply, Call.record, ofPairs_concat]
  | append key text =>
    rw [apply_append, Call.record]
    by_cases hkey : key ∈ h.map (·.1)
    · rw [if_pos (mem_keys_ofPairs.2 hkey), if_pos hkey]
    · rw [if_neg fun hmem => hkey (mem_keys_ofPairs.1 hmem), if_neg hkey, ofPairs_concat]

/-- With distinct keys there is one entry to change. -/
theorem put_of_nodup {key text : String} {es : List Section} (hes : (es.map (·.key)).Nodup)
    (h : key ∈ es.map (·.key)) : put key text es = es.map fun e => if e.key = key then ⟨key, text⟩ else e := by
  induction es with
  | nil => simp at h
  | cons e es ih =>
    rw [List.map_cons, List.nodup_cons] at hes
    unfold put
    by_cases he : e.key = key
    · have hrest : es.map (fun e => if e.key = key then ⟨key, text⟩ else e) = es := by
        refine (List.map_congr_left fun x hx => if_neg fun hx' => hes.1 ?_).trans (List.map_id es)
        exact List.mem_map.2 ⟨x, hx, hx'.trans he.symm⟩
      rw [if_pos he, List.map_cons, if_pos he, hrest, he]
    · have hmem : key ∈ es.map (·.key) := by simpa [Ne.symm he] using h
      rw [if_neg he, List.map_cons, if_neg he, ih hes.2 hmem]

/-! ## All calls -/

/-- Calls do to sections what they do to their history, by induction on the calls. -/
theorem run_ofPairs (h : History) (calls : List Call) :
    Call.run (ofPairs h) calls = (ofPairs (Call.recordAll h calls).1, (Call.recordAll h calls).2) := by
  induction calls generalizing h with
  | nil => rfl
  | cons c cs ih => rw [Call.run, apply_ofPairs, ih, Call.recordAll]

/-- **Sections follow their history.**  However sections come to be and whichever calls are made on them:

* each call returns what the history says, and what is left shows what the history says;
* insertion under a key that is there changes the text of its entry and nothing else, and a new key gets the last place;
* appending under a key that is there returns the key and changes nothing, and otherwise it is insertion. -/
theorem calls_follow_history (origin : Origin) (calls : List Call) :
    let s := (Call.run origin.sections calls).1
    (Call.run origin.sections calls).2 = (Call.recordAll origin.history calls).2 ∧
    Shows s (Call.recordAll origin.history calls).1 ∧
    (∀ key text, (s.insert key text).entries =
      if key ∈ s.keys then s.entries.map fun e => if e.key = key then ⟨key, text⟩ else e
      else s.entries ++ [⟨key, text⟩]) ∧
    (∀ key text, s.append key text = if key ∈ s.keys then .error key else .ok (s.insert key text)) ∧
    (∀ key text, (Call.append key text).apply s = if key ∈ s.keys then (s, some key) else (s.insert key text, none)) := by
  intro s
  have hrun := run_ofPairs origin.history calls
  rw [← origin.sections_eq] at hrun
  have hs : s = ofPairs (Call.recordAll origin.history calls).1 := congrArg Prod.fst hrun
  refine ⟨congrArg Prod.snd hrun, hs ▸ shows_ofPairs _, fun key text => ?_, append_eq s, apply_append s⟩
  by_cases hkey : key ∈ s.keys
  · have hnodup : s.keys.Nodup := hs ▸ keys_nodup_ofPairs _
    rw [if_pos hkey, insert, put_of_nodup hnodup hkey]
  · rw [if_neg hkey, insert, put_of_not_mem hkey]

end Transcripts.Sections
