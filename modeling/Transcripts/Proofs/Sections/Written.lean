import Transcripts.Proofs.Json.Pretty
import Transcripts.Proofs.Sections.File

/-!
# Sections that are written and read

A section file is read back as the sections that it was written for, and a transcript file, which is printed over
several lines, as the keys and the transcripts, in order (`written_files_read_back`).  It does not matter what the
texts are: the quote, the backslash and the control characters below the space are escaped, and these alone.
-/
namespace Transcripts

namespace Sections

open Transcripts.Json (NumberFree)

/-! ## Transcript files -/

/-- The key and the transcript of an entry. -/
def transcript? (entry : Json) : Option (String × String) := do
  let key ← (entry.get? "key").bind Json.str?
  let transcript ← (entry.get? "transcript").bind Json.str?
  return (key, transcript)

/-- The keys and the transcripts of an array of entries, in order. -/
def transcripts? (v : Json) : Option (List (String × String)) := v.items?.bind (·.mapM transcript?)

theorem transcript?_entryJson (e : Section) : transcript? (entryJson "transcript" e) = some (e.key, e.text) := rfl

theorem entryJson_numberFree (textName : String) (e : Section) : NumberFree (entryJson textName e) := by
  refine .object fun m hm => ?_
  simp only [List.mem_cons, List.not_mem_nil, or_false] at hm
  obtain rfl | rfl := hm
  · exact .string e.key
  · exact .string e.text

/-- The value of a transcript file is the array of its entries. -/
theorem parse_transcriptFile (s : Sections) :
    Json.parse s.transcriptFile = some (.array (s.entries.map (entryJson "transcript"))) := by
  have hfree : NumberFree (.array (s.entries.map (entryJson "transcript"))) := .array fun v hv => by
    obtain ⟨e, -, rfl⟩ := List.mem_map.1 hv
    exact entryJson_numberFree _ e
  exact Json.parse_pretty hfree (List.forall_mem_singleton.2 rfl)

theorem transcripts?_entries (es : List Section) :
    transcripts? (.array (es.map (entryJson "transcript"))) = some (es.map fun e => (e.key, e.text)) := by
  rw [transcripts?, Json.items?, Option.bind_some]
  induction es with
  | nil => rfl
  | cons e es ih => simp [transcript?_entryJson, ih]

/-- **What is written of sections is read back.**

* A section file gives back the sections, entry by entry, whatever their keys and texts are.
* A transcript file is an array with an object for each section, which has the key and the transcript and no more; so
  reading it gives the keys and the transcripts, in order.
* Inside the quotes a character stands for itself unless it is a quote, a backslash or a control character below the
  space. -/
theorem written_files_read_back (s : Sections) :
    parse? s.toJson = some s ∧
    Json.parse s.transcriptFile = some (.array (s.pairs.map fun p =>
      .object [("key", .string p.1), ("transcript", .string p.2)])) ∧
    (Json.parse s.transcriptFile).bind transcripts? = some s.pairs ∧
    ∀ c, Json.printChar c = [c] ↔ c ≠ '"' ∧ c ≠ '\\' ∧ 0x20 ≤ c.toNat := by
  refine ⟨parse?_toJson s.entries, ?_, ?_, Json.printChar_eq_self_iff⟩
  · rw [parse_transcriptFile, pairs, List.map_map]
    rfl
  · rw [parse_transcriptFile, Option.bind_some, transcripts?_entries, pairs]

end Sections

end Transcripts
