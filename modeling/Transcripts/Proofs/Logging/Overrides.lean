import Transcripts.Logging
import Transcripts.Proofs.Steps
import Transcripts.Proofs.Text.Parted

/-!
# Overrides for single targets

An argument is cut at its commas, and each part that is not blank names a target and a level.  So it does not matter
how the parts are spread over arguments (`parseOverrides_join`); the overrides are those of the parts, in order, and
the first part that names none is reported (`overrides_of_parts`).  An override that is written out again, with its
target under the root, is read as the same one.
-/
namespace Transcripts.Logging

/-! ## Targets -/

/-- A target that is the root, or stands under it. -/
def UnderRoot (target : List Char) : Prop :=
  target = "replscribe".toList ∨ "replscribe::".toList <+: target

theorem qualify_of_underRoot {target : List Char} (h : UnderRoot target) : qualify target = target :=
  if_pos (h.imp_right List.isPrefixOf_iff_prefix.2)

theorem qualify_of_not {target : List Char} (h : ¬ UnderRoot target) :
    qualify target = "replscribe::".toList ++ target :=
  if_neg fun hroot => h (hroot.imp_right List.isPrefixOf_iff_prefix.1)

theorem underRoot_append (target : List Char) : UnderRoot ("replscribe::".toList ++ target) :=
  .inr (List.prefix_append _ _)

/-! ## The parts of arguments -/

/-- The parts between commas that are not blank. -/
def parts (args : List String) : List (List Char) :=
  (args.flatMap fun arg => arg.toList.splitOn ',').filter fun part => part.any fun c => !Text.isBlank c

theorem trim_isEmpty (part : List Char) : (!(Text.trim part).isEmpty) = part.any fun c => !Text.isBlank c := by
  rw [Bool.eq_iff_iff, Bool.not_eq_true', List.isEmpty_eq_false_iff, Ne, Text.trim_eq_nil_iff]
  simp

theorem flatMap_overrideParts (args : List String) : args.flatMap overrideParts = parts args := by
  rw [parts, List.filter_flatMap]
  refine List.flatMap_congr fun arg _ => ?_
  rw [overrideParts, Text.splitOnChar_eq_splitOn]
  exact List.filter_congr fun part _ => trim_isEmpty part

/-- Arguments with commas between them have the same parts. -/
theorem parts_join (before args after : List String) :
    parts (before ++ String.intercalate "," args :: after) = parts (before ++ args ++ after) := by
  have hjoin : ((String.intercalate "," args).toList.splitOn ',').filter (fun part => part.any fun c => !Text.isBlank c) =
      (args.flatMap fun arg => arg.toList.splitOn ',').filter fun part => part.any fun c => !Text.isBlank c := by
    cases args with
    | nil => rfl
    | cons arg args =>
      have htext : (String.intercalate "," (arg :: args)).toList = Text.join [','] ((arg :: args).map String.toList) := by
        rw [String.toList_intercalate]
        rfl
      rw [htext, Text.splitOn_join ',' (by simp), List.flatMap_map]
  simp only [parts, List.flatMap_append, List.flatMap_cons, List.filter_append, hjoin, List.append_assoc]

theorem not_comma_of_mem_parts {args : List String} {part : List Char} (h : part ∈ parts args) : ',' ∉ part := by
  obtain ⟨arg, -, hpart⟩ := List.mem_flatMap.1 (List.mem_filter.1 h).1
  exact Text.not_mem_of_mem_splitOn hpart

theorem parts_singleton {s : String} (hcomma : ',' ∉ s.toList) (hs : ∃ c ∈ s.toList, Text.isBlank c = false) :
    parts [s] = [s.toList] := by
  have hsplit : s.toList.splitOn ',' = [s.toList] := List.splitOnP_eq_singleton fun c hc => by
    simpa using fun heq : c = ',' => hcomma (heq ▸ hc)
  simpa [parts, hsplit] using hs

/-! ## What a part names -/

/-- A part that names an override: what stands before its first `=` is not blank, and what stands behind it is a level.
The blanks around the two do not count, and the target is put under the root unless it stands there. -/
def Names (part : List Char) (o : Override) : Prop :=
  ∃ target level, part = target ++ '=' :: level ∧ '=' ∉ target ∧ (∃ c ∈ target, Text.isBlank c = false) ∧
    Level.parse? (Text.trim level) = some o.level ∧
    ((UnderRoot (Text.trim target) ∧ o.target.toList = Text.trim target) ∨
      (¬ UnderRoot (Text.trim target) ∧ o.target.toList = "replscribe::".toList ++ Text.trim target))

/-- What is said of a part that names no override. -/
inductive Refused (part : List Char) : OverrideFault → Prop where
  | noLevel : '=' ∉ part → Refused part (.noLevel (String.ofList part))
  | emptyTarget {target level : List Char} : part = target ++ '=' :: level → '=' ∉ target →
      (∀ c ∈ target, Text.isBlank c = true) → Refused part (.emptyTarget (String.ofList part))
  | unknownLevel {target level : List Char} : part = target ++ '=' :: level → '=' ∉ target →
      (∃ c ∈ target, Text.isBlank c = false) → Level.parse? (Text.trim level) = none →
      Refused part (.unknownLevel (String.ofList (Text.trim level)) (String.ofList part))

theorem trim_ne_nil {cs : List Char} (h : ∃ c ∈ cs, Text.isBlank c = false) : Text.trim cs ≠ [] := by
  obtain ⟨c, hc, hblank⟩ := h
  intro hnil
  rw [Text.trim_eq_nil_iff.1 hnil c hc] at hblank
  cases hblank

/-- The target of an override is the trimmed one, under the root. -/
theorem target_eq_iff {target : List Char} {o : Override} :
    ((UnderRoot (Text.trim target) ∧ o.target.toList = Text.trim target) ∨
      (¬ UnderRoot (Text.trim target) ∧ o.target.toList = "replscribe::".toList ++ Text.trim target)) ↔
    o.target = String.ofList (qualify (Text.trim target)) := by
  rw [← String.toList_inj, String.toList_ofList]
  by_cases h : UnderRoot (Text.trim target)
  · simp [h, qualify_of_underRoot h]
  · simp [h, qualify_of_not h]

theorem Names.parse {part : List Char} {o : Override} (h : Names part o) : Override.parse part = .ok o := by
  obtain ⟨target, level, rfl, heq, hblank, hlevel, htarget⟩ := h
  have hempty : (Text.trim target).isEmpty = false := List.isEmpty_eq_false_iff.2 (trim_ne_nil hblank)
  rw [Override.parse, Text.splitFirst_append heq]
  simp only [hempty, Bool.false_eq_true, if_false, hlevel]
  rw [← target_eq_iff.1 htarget]

theorem Refused.parse {part : List Char} {f : OverrideFault} (h : Refused part f) : Override.parse part = .error f := by
  cases h with
  | noLevel heq => rw [Override.parse, Text.splitFirst_of_not_mem heq]
  | @emptyTarget target level hpart heq hblank =>
    have hempty : (Text.trim target).isEmpty = true := List.isEmpty_iff.2 (Text.trim_eq_nil_iff.2 hblank)
    rw [Override.parse, hpart, Text.splitFirst_append heq]
    simp only [hempty, if_true]
  | @unknownLevel target level hpart heq hblank hlevel =>
    have hempty : (Text.trim target).isEmpty = false := List.isEmpty_eq_false_iff.2 (trim_ne_nil hblank)
    rw [Override.parse, hpart, Text.splitFirst_append heq]
    simp only [hempty, Bool.false_eq_true, if_false, hlevel]

/-- A part names an override, or it is said why it names none. -/
theorem names_or_refused (part : List Char) : (∃ o, Names part o) ∨ ∃ f, Refused part f := by
  by_cases heq : '=' ∈ part
  · obtain ⟨target, level, hpart, heq⟩ := List.eq_append_cons_of_mem heq
    by_cases hblank : ∀ c ∈ target, Text.isBlank c = true
    · exact .inr ⟨_, .emptyTarget hpart heq hblank⟩
    · have hblank : ∃ c ∈ target, Text.isBlank c = false := by simpa using hblank
      cases hlevel : Level.parse? (Text.trim level) with
      | none => exact .inr ⟨_, .unknownLevel hpart heq hblank hlevel⟩
      | some l =>
        exact .inl ⟨⟨String.ofList (qualify (Text.trim target)), l⟩, target, level, hpart, heq, hblank, hlevel,
          target_eq_iff.2 rfl⟩
  · exact .inr ⟨_, .noLevel heq⟩

theorem parse_eq_ok_iff {part : List Char} {o : Override} : Override.parse part = .ok o ↔ Names part o := by
  refine ⟨fun h => ?_, Names.parse⟩
  obtain ⟨o', ho⟩ | ⟨f, hf⟩ := names_or_refused part
  · rw [ho.parse] at h
    cases h
    exact ho
  · rw [hf.parse] at h
    cases h

theorem parse_eq_error_iff {part : List Char} {f : OverrideFault} : Override.parse part = .error f ↔ Refused part f := by
  refine ⟨fun h => ?_, Refused.parse⟩
  obtain ⟨o, ho⟩ | ⟨f', hf⟩ := names_or_refused part
  · rw [ho.parse] at h
    cases h
  · rw [hf.parse] at h
    cases h
    exact hf

/-! ## Overrides that are written out -/

/-- A printed level is read back, and holds no comma. -/
theorem Level.parse?_name (l : Level) : Level.parse? (Text.trim l.name.toList) = some l ∧ ',' ∉ l.name.toList := by
  cases l <;> decide

/-- A target under the root: no blank at its ends, and nothing in it but the root and what was given. -/
structure Rooted (given target : List Char) : Prop where
  underRoot : UnderRoot target
  trimmed : Text.trim target = target
  nonblank : ∃ c ∈ target, Text.isBlank c = false
  mem : ∀ c ∈ target, c ∈ "replscribe::".toList ∨ c ∈ given

theorem rooted_qualify {given : List Char} (h : ∃ c ∈ given, Text.isBlank c = false) :
    Rooted given (qualify (Text.trim given)) := by
  have hne := trim_ne_nil h
  by_cases hroot : UnderRoot (Text.trim given)
  · rw [qualify_of_underRoot hroot]
    refine ⟨hroot, Text.trim_trim given, ?_, fun c hc => .inr (Text.mem_trim hc)⟩
    exact ⟨_, List.head_mem hne, Text.head?_trim (List.head?_eq_some_head hne)⟩
  · rw [qualify_of_not hroot]
    have hfirst : Text.isBlank 'r' = false := by decide
    refine ⟨underRoot_append _, Text.trim_of_ends ?_ ?_, ⟨'r', by simp, hfirst⟩, fun c hc => ?_⟩
    · intro c hc
      cases hc
      exact hfirst
    · intro c hc
      rw [List.getLast?_append_of_ne_nil _ hne] at hc
      exact Text.getLast?_trim hc
    · exact (List.mem_append.1 hc).imp_right Text.mem_trim

/-- An override that is written out is named by its text. -/
theorem Names.written {part : List Char} {o : Override} (h : Names part o) (hcomma : ',' ∉ part) :
    Names (o.target ++ "=" ++ o.level.name).toList o ∧ ',' ∉ (o.target ++ "=" ++ o.level.name).toList := by
  obtain ⟨target, level, rfl, heq, hblank, -, htarget⟩ := h
  have hrooted := rooted_qualify hblank
  rw [← String.toList_ofList (l := qualify _), ← target_eq_iff.1 htarget] at hrooted
  obtain ⟨hlevel, hlevelComma⟩ := Level.parse?_name o.level
  have htext : (o.target ++ "=" ++ o.level.name).toList = o.target.toList ++ '=' :: o.level.name.toList := by
    simp
  rw [htext]
  refine ⟨⟨o.target.toList, o.level.name.toList, rfl, ?_, hrooted.nonblank, hlevel, ?_⟩, ?_⟩
  · intro hmem
    rcases hrooted.mem _ hmem with hroot | hgiven
    · exact absurd hroot (by decide)
    · exact heq hgiven
  · exact .inl ⟨hrooted.trimmed.symm ▸ hrooted.underRoot, hrooted.trimmed.symm⟩
  · intro hmem
    rcases List.mem_append.1 hmem with hmem | hmem
    · rcases hrooted.mem _ hmem with hroot | hgiven
      · exact absurd hroot (by decide)
      · exact hcomma (List.mem_append_left _ hgiven)
    · rcases List.mem_cons.1 hmem with hmem | hmem
      · exact absurd hmem (by decide)
      · exact hlevelComma hmem

/-! ## All arguments -/

theorem parseOverrides_eq (args : List String) : parseOverrides args = (parts args).mapM Override.parse := by
  rw [parseOverrides, flatMap_overrideParts]

theorem parseOverrides_join (before args after : List String) :
    parseOverrides (before ++ String.intercalate "," args :: after) = parseOverrides (before ++ args ++ after) := by
  rw [parseOverrides_eq, parseOverrides_eq, parts_join]

theorem parseOverrides_eq_ok_iff {args : List String} {os : List Override} :
    parseOverrides args = .ok os ↔ List.Forall₂ Names (parts args) os := by
  rw [parseOverrides_eq, Except.mapM_eq_ok_iff]
  simp only [parse_eq_ok_iff]

theorem parseOverrides_written {args : List String} {os : List Override} (h : parseOverrides args = .ok os)
    {o : Override} (ho : o ∈ os) : parseOverrides [o.target ++ "=" ++ o.level.name] = .ok [o] := by
  obtain ⟨part, hpart, hnames⟩ := Except.exists_mem_of_forall₂ (parseOverrides_eq_ok_iff.1 h) ho
  obtain ⟨hwritten, hcomma⟩ := hnames.written (not_comma_of_mem_parts hpart)
  rw [parseOverrides_eq_ok_iff, parts_singleton hcomma ⟨'=', by simp, by decide⟩]
  exact .cons hwritten .nil

/-- **What arguments override.**

* They are taken if, and only if, each part between commas that is not blank names an override; then there is one
  override for each of these parts, in order.
* Otherwise the first part that names none is reported, with what is wrong with it.
* Arguments can be joined by commas, and cut at their commas, wherever they stand: neither the overrides nor the fault
  changes.
* An override that is written out is read as the same one. -/
theorem overrides_of_parts (args : List String) :
    ((∃ os, parseOverrides args = .ok os) ↔ ∀ part ∈ parts args, ∃ o, Names part o) ∧
    (∀ os, parseOverrides args = .ok os ↔ List.Forall₂ Names (parts args) os) ∧
    (∀ f, parseOverrides args = .error f ↔ ∃ before part after, parts args = before ++ part :: after ∧
      (∀ p ∈ before, ∃ o, Names p o) ∧ Refused part f) ∧
    (∀ before after, parseOverrides (before ++ String.intercalate "," args :: after) =
      parseOverrides (before ++ args ++ after)) ∧
    (∀ os, parseOverrides args = .ok os → ∀ o ∈ os, parseOverrides [o.target ++ "=" ++ o.level.name] = .ok [o]) := by
  refine ⟨?_, fun os => parseOverrides_eq_ok_iff, fun f => ?_, fun before after => parseOverrides_join before args after,
    fun os h o ho => parseOverrides_written h ho⟩
  · rw [parseOverrides_eq, Except.exists_mapM_eq_ok_iff]
    simp only [parse_eq_ok_iff]
  · rw [parseOverrides_eq, Except.mapM_eq_error_iff]
    simp only [parse_eq_ok_iff, parse_eq_error_iff]

end Transcripts.Logging
