import Mathlib.Data.List.DropRight
import Mathlib.Data.List.TakeDrop
import Transcripts.Text.Lines

/-!
# Texts that are cut at a character, and trimmed

Cutting at each occurrence of a character is `List.splitOn`, so that its lemmas are at hand; cutting at the first one
leaves a part without the character in front (`splitFirst_append`).  Trimming leaves a text as it is if neither end of
it is blank (`trim_of_ends`), and nothing of a text just if all of it is blank (`trim_eq_nil_iff`).
-/
namespace Transcripts.Text

/-! ## Cutting at a character -/

theorem cutFrom_singleton (c : Char) (piece cs : List Char) :
    cutFrom [c] 0 piece cs = (cs.splitOn c).modifyHead (piece.reverse ++ ·) := by
  induction cs generalizing piece with
  | nil => simp [cutFrom]
  | cons x cs ih =>
    rw [cutFrom, List.splitOn_eq_splitOnP, List.splitOnP_cons_eq_if_modifyHead, ← List.splitOn_eq_splitOnP]
    by_cases hx : x = c
    · have hid : (fun piece : List Char => piece) = id := rfl
      simp [hx, ih, hid]
    · simp [hx, Ne.symm hx, ih, List.modifyHead_modifyHead, Function.comp_def]

theorem splitOnChar_eq_splitOn (c : Char) (cs : List Char) : splitOnChar c cs = cs.splitOn c := by
  rw [splitOnChar, cut, cutFrom_singleton]
  exact congrFun List.modifyHead_id _

theorem not_mem_of_mem_splitOn {c : Char} {cs piece : List Char} (h : piece ∈ cs.splitOn c) : c ∉ piece := by
  induction cs generalizing piece with
  | nil =>
    rw [List.splitOn_nil, List.mem_singleton] at h
    simp [h]
  | cons x cs ih =>
    rw [List.splitOn_eq_splitOnP, List.splitOnP_cons_eq_if_modifyHead, ← List.splitOn_eq_splitOnP] at h
    by_cases hx : x = c
    · rw [if_pos (by simpa using hx), List.mem_cons] at h
      rcases h with rfl | h
      · exact List.not_mem_nil
      · exact ih h
    · rw [if_neg (by simpa using hx)] at h
      cases hpieces : cs.splitOn c with
      | nil => simp [hpieces] at h
      | cons first rest =>
        rw [hpieces] at h ih
        rw [List.modifyHead_cons, List.mem_cons] at h
        rcases h with rfl | h
        · simpa [Ne.symm hx] using ih List.mem_cons_self
        · exact ih (List.mem_cons_of_mem _ h)

/-- Texts with a character between each two are cut like each of them. -/
theorem splitOn_join (c : Char) {texts : List (List Char)} (h : texts ≠ []) :
    (join [c] texts).splitOn c = texts.flatMap (·.splitOn c) := by
  induction texts with
  | nil => exact absurd rfl h
  | cons t texts ih =>
    cases texts with
    | nil => simp [join, List.intercalate]
    | cons u texts =>
      have hjoin : join [c] (t :: u :: texts) = t ++ c :: join [c] (u :: texts) := by simp [join, List.intercalate]
      have hcut : (t ++ c :: join [c] (u :: texts)).splitOn c = t.splitOn c ++ (join [c] (u :: texts)).splitOn c :=
        List.splitOnP_append_cons _ _ (by simp)
      rw [hjoin, hcut, ih (List.cons_ne_nil _ _)]
      rfl

/-! ## Cutting at the first one -/

theorem splitFirst_append {c : Char} {before : List Char} (h : c ∉ before) (after : List Char) :
    splitFirst c (before ++ c :: after) = some (before, after) := by
  have hbefore : ∀ x ∈ before, (x != c) = true := fun x hx => by
    simpa using fun hc : x = c => h (hc ▸ hx)
  rw [splitFirst, List.span_eq_takeWhile_dropWhile, List.takeWhile_append_of_pos hbefore,
    List.dropWhile_append_of_pos hbefore]
  simp

theorem splitFirst_of_not_mem {c : Char} {cs : List Char} (h : c ∉ cs) : splitFirst c cs = none := by
  have hall : cs.dropWhile (· != c) = [] := List.dropWhile_eq_nil_iff.2 fun x hx => by
    simpa using fun hc : x = c => h (hc ▸ hx)
  rw [splitFirst, List.span_eq_takeWhile_dropWhile, hall]

/-! ## Trimming -/

theorem trim_eq (cs : List Char) : trim cs = (cs.dropWhile isBlank).rdropWhile isBlank := rfl

/-- Nothing is left of blank text only. -/
theorem trim_eq_nil_iff {cs : List Char} : trim cs = [] ↔ ∀ c ∈ cs, isBlank c = true := by
  rw [trim_eq, List.rdropWhile_eq_nil_iff]
  constructor
  · intro h
    refine List.dropWhile_eq_nil_iff.1 (Classical.byContradiction fun hne => ?_)
    have hfalse := List.head_dropWhile_not isBlank hne
    rw [h _ (List.head_mem hne)] at hfalse
    cases hfalse
  · exact fun h c hc => h c ((List.dropWhile_sublist isBlank).mem hc)

theorem head?_trim {c : Char} {cs : List Char} (h : (trim cs).head? = some c) : isBlank c = false := by
  have hhead : (cs.dropWhile isBlank).head? = some c := by
    obtain ⟨rest, hrest⟩ := List.rdropWhile_prefix isBlank (cs.dropWhile isBlank)
    rw [← hrest, List.head?_append, ← trim_eq, h, Option.some_or]
  have hnot := List.head?_dropWhile_not isBlank cs
  rw [hhead] at hnot
  exact hnot

theorem getLast?_trim {c : Char} {cs : List Char} (h : (trim cs).getLast? = some c) : isBlank c = false := by
  have hne : (cs.dropWhile isBlank).rdropWhile isBlank ≠ [] := by
    intro hnil
    rw [trim_eq, hnil] at h
    cases h
  rw [trim_eq, List.getLast?_eq_some_getLast hne] at h
  cases h
  simpa using List.rdropWhile_last_not isBlank _ hne

/-- A text that neither starts nor ends with a blank is left as it is. -/
theorem trim_of_ends {cs : List Char} (hhead : ∀ c, cs.head? = some c → isBlank c = false)
    (hlast : ∀ c, cs.getLast? = some c → isBlank c = false) : trim cs = cs := by
  have hdrop : cs.dropWhile isBlank = cs := by
    cases cs with
    | nil => rfl
    | cons c cs => rw [List.dropWhile_cons, if_neg (by simp [hhead c rfl])]
  rw [trim_eq, hdrop, List.rdropWhile_eq_self_iff]
  intro hne
  rw [hlast _ (List.getLast?_eq_some_getLast hne)]
  exact Bool.false_ne_true

theorem trim_trim (cs : List Char) : trim (trim cs) = trim cs :=
  trim_of_ends (fun _ => head?_trim) fun _ => getLast?_trim

theorem mem_trim {c : Char} {cs : List Char} (h : c ∈ trim cs) : c ∈ cs :=
  (List.dropWhile_sublist isBlank).mem ((List.rdropWhile_prefix isBlank _).mem h)

end Transcripts.Text
