import Transcripts.Proofs.Json.Strings
import Transcripts.Proofs.Sections.Distinct

/-!
# Section files

What is written to a section file is read back from it, entry by entry (`parse?_toJson`): nothing is merged on
the way.  So a list of entries that names a key twice is not the same read from a file as built by insertion
(`parse?_eq_ofList_iff`).
-/
namespace Transcripts

namespace Sections

open Transcripts.Json (printString printItems printMembers skipSpace)

/-! ## Entries -/

theorem readText_printString (s : String) (tail : List Char) : readText (printString s ++ tail) = some (s, tail) := by
  rw [Json.printString_append, readText]
  simp only [skipSpace, List.dropWhile_cons, Json.isSpace, Char.reduceBEq, Bool.or_self, Bool.false_eq_true, if_false]
  rw [Json.readString_flatMap]
  simp

theorem readMark_cons {c : Char} (h : Json.isSpace c = false) (tail : List Char) : readMark c (c :: tail) = some tail := by
  simp [readMark, skipSpace, Json.expect, h]

/-- What is written for an entry: its key, its text, and the closing brace. -/
theorem print_entryJson (e : Section) : (entryJson "text" e).print =
    '\x7b' :: (printString "key" ++ ':' :: (printString e.key ++ ',' ::
      (printString "text" ++ ':' :: (printString e.text ++ ['\x7d'])))) := by
  simp [entryJson, Json.print, printMembers]

theorem readMembers_print (n : Nat) (e : Section) (tail : List Char) :
    readMembers (n + 2) none none (printString "key" ++ ':' :: (printString e.key ++ ',' ::
      (printString "text" ++ ':' :: (printString e.text ++ '\x7d' :: tail)))) = some (e, tail) := by
  have hcomma : ∀ cs, skipSpace (',' :: cs) = ',' :: cs := fun cs => rfl
  have hclose : ∀ cs, skipSpace ('\x7d' :: cs) = '\x7d' :: cs := fun cs => rfl
  rw [readMembers]
  simp only [readText_printString, readMark_cons (c := ':') rfl, Option.bind_eq_bind, Option.bind_some, Option.map_some,
    hcomma]
  rw [readMembers]
  simp only [readText_printString, readMark_cons (c := ':') rfl, Option.bind_eq_bind, Option.bind_some, Option.map_some,
    hclose]

theorem readEntry_print (e : Section) (tail : List Char) :
    readEntry ((entryJson "text" e).print ++ tail) = some (e, tail) := by
  have hopen : ∀ cs, skipSpace ('\x7b' :: cs) = '\x7b' :: cs := fun cs => rfl
  rw [print_entryJson, List.cons_append, readEntry, hopen]
  simp only [List.append_assoc, List.cons_append, List.nil_append]
  -- a member takes a character at least, so that its text is fuel enough
  obtain ⟨n, hn⟩ : ∃ n, (printString "key" ++ ':' :: (printString e.key ++ ',' :: (printString "text" ++ ':' ::
      (printString e.text ++ '\x7d' :: tail)))).length = n + 2 :=
    ⟨_, (Nat.sub_add_cancel (by simp only [List.length_append, List.length_cons]; omega)).symm⟩
  rw [hn, readMembers_print]

/-! ## Files -/

/-- Entries with commas between them, and the closing bracket. -/
theorem readEntries_print : ∀ (es : List Section) (fuel : Nat) (tail : List Char), es ≠ [] → es.length ≤ fuel →
    readEntries fuel (printItems (es.map (entryJson "text")) ++ ']' :: tail) = some (es, tail) := by
  have hcomma : ∀ cs, skipSpace (',' :: cs) = ',' :: cs := fun cs => rfl
  have hclose : ∀ cs, skipSpace (']' :: cs) = ']' :: cs := fun cs => rfl
  intro es
  induction es with
  | nil => exact fun _ _ hne => absurd rfl hne
  | cons e es ih =>
    intro fuel tail _ hfuel
    obtain ⟨n, rfl⟩ : ∃ n, fuel = n + 1 := ⟨fuel - 1, by simp only [List.length_cons] at hfuel; omega⟩
    cases es with
    | nil =>
      simp only [List.map_cons, List.map_nil, printItems, readEntries, readEntry_print, Option.bind_eq_bind,
        Option.bind_some, hclose]
    | cons e' es =>
      have hrest := ih n tail (List.cons_ne_nil _ _) (Nat.le_of_succ_le_succ hfuel)
      rw [List.map_cons] at hrest
      simp only [List.map_cons, printItems, readEntries, List.append_assoc, List.cons_append, readEntry_print,
        Option.bind_eq_bind, Option.bind_some, hcomma, hrest, Option.map_some]

theorem length_printItems : ∀ vs : List Json, (∀ v ∈ vs, v.print ≠ []) → vs.length ≤ (printItems vs).length
  | [], _ => Nat.le_refl 0
  | [v], h => List.length_pos_iff.2 (h v List.mem_cons_self)
  | v :: w :: vs, h => by
    have := length_printItems (w :: vs) fun x hx => h x (List.mem_cons_of_mem _ hx)
    simp only [printItems, List.length_append, List.length_cons] at this ⊢
    omega

/-- **A section file is read back** as the entries that were written, those that repeat a key included. -/
theorem parse?_toJson (es : List Section) : parse? (toJson ⟨es⟩) = some ⟨es⟩ := by
  have hopen : ∀ cs, skipSpace ('[' :: cs) = '[' :: cs := fun cs => rfl
  have hread : readArray (Json.array (es.map (entryJson "text"))).print = some (es, []) := by
    rw [Json.print, readArray, List.cons_append, readMark_cons (c := '[') rfl]
    cases es with
    | nil => rfl
    | cons e es =>
      have hlen : (e :: es).length ≤ (printItems ((e :: es).map (entryJson "text")) ++ [']']).length := by
        have := length_printItems ((e :: es).map (entryJson "text")) fun v hv => by
          obtain ⟨x, -, rfl⟩ := List.mem_map.1 hv
          rw [print_entryJson]
          exact List.cons_ne_nil _ _
        rw [List.length_map] at this
        rw [List.length_append]
        omega
      have hentries := readEntries_print (e :: es) _ [] (List.cons_ne_nil e es) hlen
      -- an entry starts with a brace, and not with what closes the array
      obtain ⟨cs, hcs⟩ : ∃ cs, printItems ((e :: es).map (entryJson "text")) ++ [']'] = '\x7b' :: cs := by
        cases es <;> simp only [List.map_cons, List.map_nil, printItems, print_entryJson, List.cons_append,
          List.cons.injEq, true_and, exists_eq']
      rw [hcs] at hentries ⊢
      exact hentries
  rw [parse?, toJson, Json.compact, String.toList_ofList, hread]
  rfl

theorem entry?_entryJson (e : Section) : entry? (entryJson "text" e) = some e := by
  simp [entryJson, entry?, valuesOf]

/-- The value of a section file has the entries that were written. -/
theorem ofJson?_entries (es : List Section) : ofJson? (.array (es.map (entryJson "text"))) = some ⟨es⟩ := by
  have hall : (es.map (entryJson "text")).mapM entry? = some es := by
    induction es with
    | nil => rfl
    | cons e es ih => simp [entry?_entryJson, ih]
  rw [ofJson?, hall]
  rfl

/-! ## Reading and building -/

theorem parse?_eq_ofList_iff (es : List Section) :
    parse? (toJson ⟨es⟩) = some (ofList es) ↔ (es.map (·.key)).Nodup := by
  rw [parse?_toJson]
  constructor
  · intro h
    have hes : ofList es = ⟨es⟩ := (Option.some.inj h).symm
    have hkeys := keys_nodup_ofPairs (es.map fun e => (e.key, e.text))
    rw [← ofList, hes] at hkeys
    exact hkeys
  · intro h
    rw [ofList_of_nodup h]

/-- **Sections from a list of entries.**

* A section file, and the value in it, gives the entries that were written, in order.
* Insertion gives each key one entry, at the place where it was first given, with the text that it was given
  last; whatever is built by insertion and appending has distinct keys, and all such sections are built so.
* So a file gives what insertion gives just if no two of the entries have the same key. -/
theorem file_agrees_iff_distinct (es : List Section) :
    (parse? (toJson ⟨es⟩) = some ⟨es⟩ ∧ ofJson? (.array (es.map (entryJson "text"))) = some ⟨es⟩) ∧
    (ofList es).keys = (es.map (·.key)).eraseDups ∧
    (∀ key, (ofList es).get? key = (es.reverse.find? (·.key == key)).map (·.text)) ∧
    (∀ s : Sections, Built s ↔ s.keys.Nodup) ∧
    (parse? (toJson ⟨es⟩) = some (ofList es) ↔ (es.map (·.key)).Nodup) :=
  ⟨⟨parse?_toJson es, ofJson?_entries es⟩, keys_ofList es, get?_ofList es, fun _ => built_iff, parse?_eq_ofList_iff es⟩

/-- A key that is given twice has two entries when it is read, and one when it is inserted. -/
theorem file_keeps_repeated_key :
    let es : List Section := [⟨"a", "1"⟩, ⟨"a", "2"⟩]
    ofList es = ⟨[⟨"a", "2"⟩]⟩ ∧ parse? (toJson ⟨es⟩) = some ⟨es⟩ ∧ parse? (toJson ⟨es⟩) ≠ some (ofList es) := by
  intro es
  refine ⟨rfl, parse?_toJson es, fun h => ?_⟩
  rw [parse?_toJson] at h
  exact absurd (Option.some.inj h) (by decide)

end Sections

end Transcripts
