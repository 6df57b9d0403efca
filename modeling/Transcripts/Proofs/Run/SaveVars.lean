import Transcripts.Proofs.Run.Modes
import Transcripts.Proofs.Text.Occurrences

/-!
# Saving variables

A run that is to save the variables sends one more section: the command of the profile, with the file in its one slot.
Counting the slots and filling them are two passes over the command, which agree because a slot cannot overlap itself.
If the section cannot be added, the run fails before its interpreter is started.
-/
namespace Transcripts

open Transcripts.Text (OccursAt places)

namespace Sections

theorem append_eq_error_iff {s : Sections} {key text fault : String} :
    s.append key text = .error fault ↔ key ∈ s.keys ∧ fault = key := by
  rw [append, ← contains_iff]
  cases s.contains key <;> simp [eq_comm]

theorem append_eq_ok_iff {s after : Sections} {key text : String} :
    s.append key text = .ok after ↔ key ∉ s.keys ∧ after.entries = s.entries ++ [⟨key, text⟩] := by
  rw [append, ← contains_iff]
  cases after
  cases s.contains key <;> simp [eq_comm]

end Sections

namespace Profile

variable {p : Profile} {sections : Sections} {path : String}

/-! ## The slot -/

/-- A command names the file once. -/
def OneSlot (template : String) : Prop := ∃! i, OccursAt pathSlot template.toList i

theorem occurrences_pathSlot (template : String) :
    Text.occurrences pathSlot template.toList = places pathSlot template.toList :=
  Text.occurrences_eq_places (by decide) template.toList

theorem oneSlot_iff {template : String} : OneSlot template ↔ places pathSlot template.toList = 1 :=
  (Text.places_eq_one_iff (by decide)).symm

theorem checkSlot_of_oneSlot {template : String} (h : OneSlot template) : p.checkSlot template = .ok () := by
  rw [checkSlot, occurrences_pathSlot, oneSlot_iff.1 h]
  rfl

theorem checkSlot_of_not {template : String} (h : ¬ OneSlot template) :
    p.checkSlot template = .error (.saveVarsSlot p.name (places pathSlot template.toList)) := by
  rw [oneSlot_iff] at h
  rw [checkSlot, occurrences_pathSlot]
  exact if_neg h

/-- A slot has something before it and something behind it. -/
theorem OneSlot.exists_split {template : String} (h : OneSlot template) :
    ∃ before after, template.toList = before ++ pathSlot ++ after := by
  obtain ⟨i, ⟨after, hafter⟩, -⟩ := h
  refine ⟨template.toList.take i, after, ?_⟩
  rw [List.append_assoc, hafter, List.take_append_drop]

/-- The slot of a command is filled with the path as it is. -/
theorem saveVarsText_of_oneSlot {template : String} (hcommand : p.saveVarsCommand = some template)
    (h : OneSlot template) {before after : List Char} (hsplit : template.toList = before ++ pathSlot ++ after) :
    p.saveVarsText path = .ok (String.ofList (before ++ path.toList ++ after)) := by
  have hfilled : Text.replaceAll pathSlot path.toList template.toList = before ++ path.toList ++ after := by
    have hplaces := oneSlot_iff.1 h
    rw [hsplit] at hplaces ⊢
    exact Text.replaceAll_of_once (by decide) path.toList hplaces
  simp only [saveVarsText, hcommand, checkSlot_of_oneSlot h, hfilled]
  rfl

theorem saveVarsText_of_not {template : String} (hcommand : p.saveVarsCommand = some template)
    (h : ¬ OneSlot template) :
    p.saveVarsText path = .error (.saveVarsSlot p.name (places pathSlot template.toList)) := by
  simp only [saveVarsText, hcommand, checkSlot_of_not h]
  rfl

theorem saveVarsText_of_none (h : p.saveVarsCommand = none) :
    p.saveVarsText path = .error (.saveVarsUnavailable p.name) := by
  rw [saveVarsText, h]

/-! ## The section -/

/-- The text of the section that saves variables. -/
theorem saveVarsText_eq_ok_iff {text : String} :
    p.saveVarsText path = .ok text ↔ ∃ template before after, p.saveVarsCommand = some template ∧ OneSlot template ∧
      template.toList = before ++ pathSlot ++ after ∧ text = String.ofList (before ++ path.toList ++ after) := by
  constructor
  · intro h
    cases hcommand : p.saveVarsCommand with
    | none => cases (saveVarsText_of_none hcommand).symm.trans h
    | some template =>
      by_cases hone : OneSlot template
      · obtain ⟨before, after, hsplit⟩ := hone.exists_split
        cases (saveVarsText_of_oneSlot hcommand hone hsplit).symm.trans h
        exact ⟨template, before, after, rfl, hone, hsplit, rfl⟩
      · cases (saveVarsText_of_not hcommand hone).symm.trans h
  · rintro ⟨template, before, after, hcommand, hone, hsplit, rfl⟩
    exact saveVarsText_of_oneSlot hcommand hone hsplit

/-- Why there is no text for the section. -/
theorem saveVarsText_eq_error_iff {fault : ProfileFault} :
    p.saveVarsText path = .error fault ↔
      (p.saveVarsCommand = none ∧ fault = .saveVarsUnavailable p.name) ∨
      ∃ template, p.saveVarsCommand = some template ∧ ¬ OneSlot template ∧
        fault = .saveVarsSlot p.name (places pathSlot template.toList) := by
  constructor
  · intro h
    cases hcommand : p.saveVarsCommand with
    | none =>
      cases (saveVarsText_of_none hcommand).symm.trans h
      exact .inl ⟨rfl, rfl⟩
    | some template =>
      by_cases hone : OneSlot template
      · obtain ⟨before, after, hsplit⟩ := hone.exists_split
        cases (saveVarsText_of_oneSlot hcommand hone hsplit).symm.trans h
      · cases (saveVarsText_of_not hcommand hone).symm.trans h
        exact .inr ⟨template, rfl, hone, rfl⟩
  · rintro (⟨hcommand, rfl⟩ | ⟨template, hcommand, hone, rfl⟩)
    · exact saveVarsText_of_none hcommand
    · exact saveVarsText_of_not hcommand hone

/-- The section is added if there is a text for it and its key is free. -/
theorem withSaveVars_eq_ok_iff {result : Sections} :
    p.withSaveVars sections (some path) = .ok result ↔
      ∃ text, p.saveVarsText path = .ok text ∧ saveVarsKey ∉ sections.keys ∧
        result.entries = sections.entries ++ [⟨saveVarsKey, text⟩] := by
  constructor
  · intro h
    obtain ⟨text, htext, h⟩ := Except.bind_eq_ok h
    exact ⟨text, htext, Sections.append_eq_ok_iff.1 (Except.mapError_eq_ok h)⟩
  · rintro ⟨text, htext, hadded⟩
    refine (Except.bind_of_eq_ok htext).trans ?_
    rw [Sections.append_eq_ok_iff.2 hadded]
    rfl

/-- What is wrong with the command is reported before the key. -/
theorem withSaveVars_eq_error_iff {fault : ProfileFault} :
    p.withSaveVars sections (some path) = .error fault ↔
      p.saveVarsText path = .error fault ∨
      (∃ text, p.saveVarsText path = .ok text) ∧ saveVarsKey ∈ sections.keys ∧ fault = .reservedSectionKey saveVarsKey := by
  cases htext : p.saveVarsText path with
  | error f =>
    have hfault : p.withSaveVars sections (some path) = .error f := by
      rw [withSaveVars, htext]
      rfl
    simp [hfault]
  | ok text =>
    have happend : p.withSaveVars sections (some path) =
        (sections.append saveVarsKey text).mapError .reservedSectionKey := Except.bind_of_eq_ok htext
    by_cases hkey : saveVarsKey ∈ sections.keys
    · have hreserved : p.withSaveVars sections (some path) = .error (.reservedSectionKey saveVarsKey) := by
        rw [happend, Sections.append_eq_error_iff.2 ⟨hkey, rfl⟩]
        rfl
      simp [hreserved, hkey, eq_comm]
    · have hadded : p.withSaveVars sections (some path) = .ok ⟨sections.entries ++ [⟨saveVarsKey, text⟩]⟩ :=
        withSaveVars_eq_ok_iff.2 ⟨text, htext, hkey, rfl⟩
      simp [hadded, hkey]

end Profile

/-! ## Runs -/

namespace Runner

variable {σ : Type} {r : Runner} {sections : Sections} {o : RunOptions}

/-- A run whose sections cannot be prepared fails before anything is started. -/
theorem runWith_of_fault (i : Interpreter σ) {fault : ProfileFault}
    (h : r.profile.withSaveVars sections o.saveVars = .error fault) :
    r.runWith i sections o = ⟨[], .error (.configuration fault), o.files⟩ := by
  rw [runWith, prepareWith, h]
  rfl

/-- A run goes on with the prepared sections. -/
theorem run_of_prepared {prepared : Sections} (h : r.profile.withSaveVars sections o.saveVars = .ok prepared) :
    r.run sections o = r.run prepared { o with saveVars := none } := by
  have hnone : r.profile.withSaveVars prepared none = .ok prepared := rfl
  simp only [run, prepare, h, hnone]
  rfl

/-- **A section that saves variables** is added behind all others, or the run is refused.

* If no file is given, the sections are left as they are.
* If one is given, a section is added just if the profile has a command, the command names the file once, and no section
  has the key of the new one.  Its text is the command with the path in place of the slot, whatever the path holds.
* In each other case there is a fault, that of the command before that of the key.  A run then fails with it before an
  interpreter is started and before anything is emitted, and leaves the files as they were.
* A run that is not refused is the run of the sections that were prepared. -/
theorem save_vars_added_or_refused (i : Interpreter σ) (r : Runner) (sections : Sections) (o : RunOptions) :
    let p := r.profile
    p.withSaveVars sections none = .ok sections ∧
    (∀ path result, p.withSaveVars sections (some path) = .ok result ↔
      saveVarsKey ∉ sections.keys ∧ ∃ template before after, p.saveVarsCommand = some template ∧
        Profile.OneSlot template ∧ template.toList = before ++ Profile.pathSlot ++ after ∧
        result.entries = sections.entries ++ [⟨saveVarsKey, String.ofList (before ++ path.toList ++ after)⟩]) ∧
    (∀ path fault, p.withSaveVars sections (some path) = .error fault ↔
      (p.saveVarsCommand = none ∧ fault = .saveVarsUnavailable p.name) ∨
      (∃ template, p.saveVarsCommand = some template ∧ ¬ Profile.OneSlot template ∧
        fault = .saveVarsSlot p.name (places Profile.pathSlot template.toList)) ∨
      (∃ template, p.saveVarsCommand = some template ∧ Profile.OneSlot template) ∧ saveVarsKey ∈ sections.keys ∧
        fault = .reservedSectionKey saveVarsKey) ∧
    (∀ fault, p.withSaveVars sections o.saveVars = .error fault →
      r.runWith i sections o = ⟨[], .error (.configuration fault), o.files⟩ ∧
      r.run sections o = ⟨[], .error (.configuration fault), o.files⟩) ∧
    ∀ prepared, p.withSaveVars sections o.saveVars = .ok prepared →
      r.run sections o = r.run prepared { o with saveVars := none } := by
  intro p
  refine ⟨rfl, fun path result => ?_, fun path fault => ?_, fun fault h => ⟨runWith_of_fault i h, ?_⟩,
    fun prepared h => run_of_prepared h⟩
  · rw [Profile.withSaveVars_eq_ok_iff]
    constructor
    · rintro ⟨text, htext, hkey, hresult⟩
      obtain ⟨template, before, after, hcommand, hone, hsplit, rfl⟩ := Profile.saveVarsText_eq_ok_iff.1 htext
      exact ⟨hkey, template, before, after, hcommand, hone, hsplit, hresult⟩
    · rintro ⟨hkey, template, before, after, hcommand, hone, hsplit, hresult⟩
      exact ⟨_, Profile.saveVarsText_of_oneSlot hcommand hone hsplit, hkey, hresult⟩
  · have htext : (∃ text, p.saveVarsText path = .ok text) ↔
        ∃ template, p.saveVarsCommand = some template ∧ Profile.OneSlot template := by
      constructor
      · rintro ⟨text, htext⟩
        obtain ⟨template, -, -, hcommand, hone, -⟩ := Profile.saveVarsText_eq_ok_iff.1 htext
        exact ⟨template, hcommand, hone⟩
      · rintro ⟨template, hcommand, hone⟩
        obtain ⟨before, after, hsplit⟩ := hone.exists_split
        exact ⟨_, Profile.saveVarsText_of_oneSlot hcommand hone hsplit⟩
    rw [Profile.withSaveVars_eq_error_iff, Profile.saveVarsText_eq_error_iff, htext, or_assoc]
  · rw [← runWith_child]
    exact runWith_of_fault Interpreter.child h

/-- A path that holds a slot is not filled again, and a second time there is no room for the section. -/
theorem save_vars_added_or_refused_slot :
    let p : Profile := { name := "r", command := "R", saveVarsCommand := some "save(\"\x7bpath\x7d\")" }
    let o : RunOptions :=
      { files := ⟨#[]⟩, here := "/", workdir := "/", env := [], saveVars := some "\x7bpath\x7d.rda" }
    let sections : Sections := ⟨[⟨"a", "x <- 1"⟩]⟩
    let prepared : Sections := ⟨[⟨"a", "x <- 1"⟩, ⟨"save-vars", "save(\"\x7bpath\x7d.rda\")"⟩]⟩
    (p.withSaveVars sections o.saveVars = .ok prepared ∧
      Runner.run ⟨p, none⟩ sections o = Runner.run ⟨p, none⟩ prepared { o with saveVars := none }) ∧
    p.withSaveVars prepared o.saveVars = .error (.reservedSectionKey "save-vars") ∧
      Runner.run ⟨p, none⟩ prepared o = ⟨[], .error (.configuration (.reservedSectionKey "save-vars")), o.files⟩ := by
  intro p o sections prepared
  have hslot : Profile.OneSlot "save(\"\x7bpath\x7d\")" := Profile.oneSlot_iff.2 (by decide)
  obtain ⟨-, hok, -, -, hrun⟩ := save_vars_added_or_refused Interpreter.child ⟨p, none⟩ sections o
  obtain ⟨-, -, herror, hrefused, -⟩ := save_vars_added_or_refused Interpreter.child ⟨p, none⟩ prepared o
  have hadded : p.withSaveVars sections o.saveVars = .ok prepared :=
    (hok _ _).2 ⟨by decide, _, "save(\"".toList, "\")".toList, rfl, hslot, by decide, by decide⟩
  have hfault : p.withSaveVars prepared o.saveVars = .error (.reservedSectionKey "save-vars") :=
    (herror _ _).2 (.inr (.inr ⟨⟨_, rfl, hslot⟩, by decide, rfl⟩))
  exact ⟨⟨hadded, hrun _ hadded⟩, hfault, (hrefused _ hfault).2⟩

end Runner

end Transcripts
