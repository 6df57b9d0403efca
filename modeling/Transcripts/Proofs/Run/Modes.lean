import Transcripts.Channel.Script
import Transcripts.Proofs.Profile.Usable
import Transcripts.Proofs.Prompt.Prepared
import Transcripts.Proofs.Run.Emission
import Transcripts.Proofs.Sections.Distinct
import Transcripts.Transcribe

/-!
# Raw and trimmed transcripts

A run is told about an interpreter that can be started, whichever it is; the child process of a profile is one
of them.  The sections of a finished run have the keys of the given ones, in order, and behind them the one that
saves variables.  Both ways of transcribing do the same run, and one of them strips every text at its end.
-/
namespace Transcripts

variable {σ : Type}

/-- An interpreter that can be started. -/
structure Interpreter (σ : Type) where
  start : Profile → RunOptions → Except RunFault σ
  channel : Channel σ
  /-- The files as the interpreter leaves them. -/
  files : σ → Files

/-! ## Runs of an interpreter -/

/-- What has to be there before anything is sent. -/
def Runner.prepareWith (r : Runner) (i : Interpreter σ) (sections : Sections) (o : RunOptions) :
    Except RunFault (Sections × Session × σ) := do
  let sections ← (r.profile.withSaveVars sections o.saveVars).mapError .configuration
  let session ← (Session.ofProfile r.profile).mapError .configuration
  let st ← i.start r.profile o
  return (sections, session, st)

/-- Runs sections through an interpreter. -/
def Runner.runWith (r : Runner) (i : Interpreter σ) (sections : Sections) (o : RunOptions) : RunReport :=
  match r.prepareWith i sections o with
  | .error f => ⟨[], .error f, o.files⟩
  | .ok (sections, session, st) =>
    let (emitted, result, st) := r.drive session i.channel sections.entries st
    ⟨emitted, result, i.files st⟩

namespace Interpreter

/-- The program that a profile names, as a child process. -/
def child : Interpreter Child.State where
  start p o := (Session.spawn p o).map Child.begin_
  channel := Child.channel
  files st := st.machine.files

/-- The transcripts of sections as the interpreter gives them, and the files after the run. -/
def transcribeRaw (i : Interpreter σ) (p : Profile) (sections : Sections) (o : RunOptions) :
    Except RunFault Sections × Files :=
  match Runner.ofProfile p with
  | .error f => (.error (.configuration f), o.files)
  | .ok r =>
    let report := r.runWith i sections o
    (report.sections id, report.files)

/-- The transcripts of sections without prompts at their ends, and the files after the run. -/
def transcribe (i : Interpreter σ) (p : Profile) (sections : Sections) (o : RunOptions) :
    Except RunFault Sections × Files :=
  match p.trimmer, Runner.ofProfile p with
  | .error f, _ => (.error (.configuration f), o.files)
  | .ok _, .error f => (.error (.configuration f), o.files)
  | .ok trimmer, .ok r =>
    let report := r.runWith i sections o
    (report.sections fun text => trimmer.strip text p.lineEnding, report.files)

end Interpreter

theorem Runner.prepareWith_child (r : Runner) (sections : Sections) (o : RunOptions) :
    r.prepareWith Interpreter.child sections o =
      (r.prepare sections o).map fun (sections, session, child) => (sections, session, child.begin_) := by
  unfold Runner.prepareWith Runner.prepare Interpreter.child
  cases (r.profile.withSaveVars sections o.saveVars).mapError RunFault.configuration with
  | error f => rfl
  | ok sections =>
    cases (Session.ofProfile r.profile).mapError RunFault.configuration with
    | error f => rfl
    | ok session =>
      cases hspawn : Session.spawn r.profile o with
      | error f => simp only [hspawn]; rfl
      | ok child => simp only [hspawn]; rfl

/-- A run of the child process is one of the runs that are told about here. -/
theorem Runner.runWith_child (r : Runner) (sections : Sections) (o : RunOptions) :
    r.runWith Interpreter.child sections o = r.run sections o := by
  unfold Runner.runWith Runner.run
  rw [prepareWith_child]
  cases r.prepare sections o with
  | error f => rfl
  | ok prepared => rfl

theorem transcribeRaw_eq_child (p : Profile) (sections : Sections) (o : RunOptions) :
    transcribeRaw p sections o = Interpreter.child.transcribeRaw p sections o := by
  unfold transcribeRaw Interpreter.transcribeRaw
  cases Runner.ofProfile p with
  | error f => rfl
  | ok r => simp only [Runner.runWith_child]

theorem transcribe_eq_child (p : Profile) (sections : Sections) (o : RunOptions) :
    transcribe p sections o = Interpreter.child.transcribe p sections o := by
  unfold transcribe Interpreter.transcribe
  cases p.trimmer with
  | error f => rfl
  | ok t =>
    cases Runner.ofProfile p with
    | error f => rfl
    | ok r => simp only [Runner.runWith_child]

/-! ## Texts that change while the keys stay -/

namespace Sections

/-- Every text changed by `f`, under the same key. -/
def mapTexts (f : String → String) (s : Sections) : Sections := ⟨s.entries.map fun e => ⟨e.key, f e.text⟩⟩

theorem keys_mapTexts (f : String → String) (s : Sections) : (s.mapTexts f).keys = s.keys := by
  simp [keys, mapTexts]

theorem insert_mapTexts (f : String → String) (s : Sections) (key text : String) :
    (s.insert key text).mapTexts f = (s.mapTexts f).insert key (f text) := by
  unfold insert mapTexts
  congr 1
  induction s.entries with
  | nil => rfl
  | cons e es ih =>
    unfold put
    by_cases he : e.key = key
    · simp [he]
    · simp [he, ih]

/-- Texts can be changed before they are inserted or after. -/
theorem ofList_mapTexts (f : String → String) (es : List Section) :
    ofPairs (es.map fun e => (e.key, f e.text)) = (ofList es).mapTexts f := by
  induction es using List.reverseRecOn with
  | nil => rfl
  | append_singleton es e ih =>
    rw [ofList_concat, insert_mapTexts, ← ih, List.map_append, List.map_singleton, ofPairs_concat]

end Sections

/-- What is done to the texts of a report is done to those of its raw sections. -/
theorem RunReport.sections_eq (report : RunReport) (f : String → String) :
    report.sections f = (report.sections id).map (Sections.mapTexts f) := by
  unfold RunReport.sections
  cases report.result with
  | error fault => rfl
  | ok summary =>
    change Except.ok _ = Except.ok _
    rw [Sections.ofList_mapTexts f report.emitted]
    rfl

theorem RunReport.sections_eq_ok {report : RunReport} {f : String → String} {out : Sections}
    (h : report.sections f = .ok out) : ∃ summary, report.result = .ok summary := by
  obtain ⟨summary, hs, -⟩ := Except.map_eq_ok h
  exact ⟨summary, hs⟩

/-! ## The keys of a run -/

/-- The key that is added if variables are to be saved. -/
def savedKeys (o : RunOptions) : List String := if o.saveVars.isSome then [saveVarsKey] else []

/-- The sections of a run have the given keys and the one that is added, and that one was not there. -/
theorem Profile.withSaveVars_eq_ok {p : Profile} {sections prepared : Sections} {o : RunOptions}
    (h : p.withSaveVars sections o.saveVars = .ok prepared) :
    prepared.keys = sections.keys ++ savedKeys o ∧ (sections.keys.Nodup → prepared.keys.Nodup) := by
  unfold savedKeys
  cases hp : o.saveVars with
  | none =>
    rw [hp] at h
    cases h
    exact ⟨(List.append_nil _).symm, fun hk => hk⟩
  | some path =>
    rw [hp] at h
    obtain ⟨text, -, h⟩ := Except.bind_eq_ok h
    obtain ⟨hnew, rfl⟩ := Sections.append_eq_ok (Except.mapError_eq_ok h)
    constructor
    · rw [Sections.keys_insert, if_neg hnew]
      rfl
    · intro hk
      exact Sections.keys_nodup_insert hk saveVarsKey text

namespace Runner

variable {r : Runner}

/-- A run that succeeds emits every section once, in order. -/
theorem drive_keys_of_ok {s : Session} {c : Channel σ} {sections : List Section} {st : σ} {summary : Summary}
    (h : (r.drive s c sections st).2.1 = .ok summary) :
    (r.drive s c sections st).1.map (·.key) = sections.map (·.key) := by
  have hlen : (r.drive s c sections st).1.length = sections.length :=
    drive_emitted_all (.inl ⟨summary, h⟩)
  exact (drive_keys r s c sections st).eq_of_length (by rw [List.length_map, List.length_map, hlen])

theorem runWith_keys_of_ok {i : Interpreter σ} {sections : Sections} {o : RunOptions} {summary : Summary}
    (h : (r.runWith i sections o).result = .ok summary) :
    (r.runWith i sections o).emitted.map (·.key) = sections.keys ++ savedKeys o ∧
    (sections.keys.Nodup → ((r.runWith i sections o).emitted.map (·.key)).Nodup) := by
  unfold runWith at h ⊢
  cases hp : r.prepareWith i sections o with
  | error f =>
    rw [hp] at h
    cases h
  | ok prepared =>
    rw [hp] at h
    obtain ⟨all, hall, hp⟩ := Except.bind_eq_ok hp
    obtain ⟨session, -, hp⟩ := Except.bind_eq_ok hp
    obtain ⟨st, -, hp⟩ := Except.bind_eq_ok hp
    cases hp
    obtain ⟨hkeys, hnodup⟩ := Profile.withSaveVars_eq_ok (Except.mapError_eq_ok hall)
    have hemitted : (r.drive session i.channel all.entries st).1.map (·.key) = all.keys := drive_keys_of_ok h
    exact ⟨hemitted.trans hkeys, fun hk => hemitted ▸ hnodup hk⟩

end Runner

namespace Interpreter

/-- The two ways of transcribing differ by what is done to each text. -/
theorem transcribe_eq_map (i : Interpreter σ) {p : Profile} {t : Trimmer} (ht : p.trimmer = .ok t)
    (sections : Sections) (o : RunOptions) :
    i.transcribe p sections o =
      ((i.transcribeRaw p sections o).1.map (Sections.mapTexts fun text => t.strip text p.lineEnding),
        (i.transcribeRaw p sections o).2) := by
  unfold transcribe transcribeRaw
  rw [ht]
  cases Runner.ofProfile p with
  | error f => rfl
  | ok r =>
    change (RunReport.sections _ _, _) = _
    rw [RunReport.sections_eq]

/-- The raw sections of a run whose sections have distinct keys are what was emitted. -/
theorem transcribeRaw_eq_ok {i : Interpreter σ} {p : Profile} {sections raw : Sections} {o : RunOptions}
    (hk : sections.keys.Nodup) (h : (i.transcribeRaw p sections o).1 = .ok raw) :
    ∃ r, Runner.ofProfile p = .ok r ∧ raw.entries = (r.runWith i sections o).emitted ∧
      raw.keys = sections.keys ++ savedKeys o := by
  unfold transcribeRaw at h
  cases hr : Runner.ofProfile p with
  | error f =>
    rw [hr] at h
    cases h
  | ok r =>
    rw [hr] at h
    obtain ⟨summary, hs⟩ := RunReport.sections_eq_ok h
    obtain ⟨hkeys, hnodup⟩ := Runner.runWith_keys_of_ok hs
    obtain ⟨_, -, hraw⟩ := Except.map_eq_ok h
    have hall : raw = ⟨(r.runWith i sections o).emitted⟩ := by
      rw [← hraw]
      exact Sections.ofList_of_nodup (hnodup hk)
    refine ⟨r, rfl, by rw [hall], ?_⟩
    rw [hall]
    exact hkeys

/-- **Keys and their order are kept.**  Let the trimmer of a profile compile and let the given sections have
distinct keys.  Whatever interpreter is started, the child process of the profile among others:

* The two ways of transcribing fail alike and leave the same files, and where they succeed one gives the
  sections of the other with every text stripped.
* If transcribing succeeds, its keys are the given ones in order, and behind them the one that saves variables
  if, and only if, that was asked for.  The raw way succeeds too and gives what the run emitted, one entry for
  each of these keys, and the text of each entry is stripped in the result. -/
theorem transcribe_keeps_keys (i : Interpreter σ) {p : Profile} {t : Trimmer} {sections : Sections} (o : RunOptions)
    (ht : p.trimmer = .ok t) (hk : sections.keys.Nodup) :
    (Transcripts.transcribe p sections o = child.transcribe p sections o ∧
      Transcripts.transcribeRaw p sections o = child.transcribeRaw p sections o) ∧
    i.transcribe p sections o =
      ((i.transcribeRaw p sections o).1.map (Sections.mapTexts fun text => t.strip text p.lineEnding),
        (i.transcribeRaw p sections o).2) ∧
    ∀ out, (i.transcribe p sections o).1 = .ok out →
      out.keys = sections.keys ++ (if o.saveVars.isSome then [saveVarsKey] else []) ∧
      ∃ r raw, Runner.ofProfile p = .ok r ∧ (i.transcribeRaw p sections o).1 = .ok raw ∧
        raw.entries = (r.runWith i sections o).emitted ∧ raw.keys = out.keys ∧
        out.entries = raw.entries.map fun e => ⟨e.key, t.strip e.text p.lineEnding⟩ := by
  have hmap := i.transcribe_eq_map ht sections o
  refine ⟨⟨transcribe_eq_child p sections o, transcribeRaw_eq_child p sections o⟩, hmap, fun out hout => ?_⟩
  rw [hmap] at hout
  obtain ⟨raw, hraw, rfl⟩ := Except.map_eq_ok hout
  obtain ⟨r, hr, hentries, hkeys⟩ := transcribeRaw_eq_ok hk hraw
  rw [Sections.keys_mapTexts]
  exact ⟨hkeys, r, raw, hr, hraw, hentries, rfl, rfl⟩

/-- Two sections and the one that saves variables, sent to a scripted interpreter. -/
theorem transcribe_keeps_keys_two :
    let p : Profile := { name := "sh", command := "sh", saveVarsCommand := some "save \x7bpath\x7d" }
    let o : RunOptions := ⟨.empty, "/", ".", [], {}, some "vars"⟩
    let sections : Sections := ⟨[⟨"b", "1"⟩, ⟨"a", "2"⟩]⟩
    let script : Script := {
      banner := [⟨.send (.data (Text.bytes "hello\n>>>")), 0⟩]
      otherwise := [⟨.send (.data (Text.bytes "1\n>>>")), 0⟩] }
    let i : Interpreter Script.State := ⟨fun _ _ => .ok script.start, script.channel, fun _ => .empty⟩
    sections.keys.Nodup ∧ ∃ t out raw, p.trimmer = .ok t ∧
      (i.transcribe p sections o).1 = .ok out ∧ (i.transcribeRaw p sections o).1 = .ok raw ∧
      out.keys = ["b", "a", "save-vars"] ∧ raw.keys = out.keys ∧
      raw.entries = [⟨"b", "hello\n>>>1\n>>>1"⟩, ⟨"a", "\n>>>1\n>>>1"⟩, ⟨"save-vars", "\n>>>1\n>>>1"⟩] ∧
      out.entries = raw.entries.map fun e => ⟨e.key, t.strip e.text p.lineEnding⟩ := by
  intro p o sections script i
  have hk : sections.keys.Nodup := by decide
  obtain ⟨t, ht⟩ : ∃ t, p.trimmer = .ok t := Profile.trimmer_usual rfl
  have hraw : (i.transcribeRaw p sections o).1 = .ok
      ⟨[⟨"b", "hello\n>>>1\n>>>1"⟩, ⟨"a", "\n>>>1\n>>>1"⟩, ⟨"save-vars", "\n>>>1\n>>>1"⟩]⟩ := by
    decide
  obtain ⟨-, hmap, hok⟩ := i.transcribe_keeps_keys o ht hk
  rw [hraw] at hmap
  have hout := congrArg Prod.fst hmap
  obtain ⟨hkeys, r, raw, -, hraw', -, hsame, hentries⟩ := hok _ hout
  cases hraw.symm.trans hraw'
  exact ⟨hk, t, _, _, ht, hout, hraw, hkeys, hsame, rfl, hentries⟩

end Interpreter

end Transcripts
