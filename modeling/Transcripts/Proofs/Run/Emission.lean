import Transcripts.Proofs.Run.Calls

/-!
# Whole sections, in order

A section is emitted once all of its lines were answered, or once the output is over and the profile lets
that pass.  A run that fails has emitted the sections before the one it failed in, and nothing of that one.
-/
namespace Transcripts

variable {σ : Type}

/-- The failure in a list that holds no other stands where the list says. -/
theorem failed_unique {front before after : List Exchange} {x y : Exchange} (h : front ++ [x] = before ++ y :: after)
    (hfront : ∀ z ∈ front, z.failed = false) (hy : y.failed = true) : before = front ∧ y = x ∧ after = [] := by
  have hmem : y ∉ front := fun hm => by
    have hok := hfront y hm
    rw [hy] at hok
    cases hok
  rcases List.append_eq_append_iff.1 h with ⟨mid, rfl, hx⟩ | ⟨mid, rfl, hy'⟩
  · cases mid with
    | nil => cases hx; exact ⟨List.append_nil _, rfl, rfl⟩
    | cons z mid => cases mid <;> cases hx
  · cases mid with
    | nil => cases hy'; exact ⟨(List.append_nil _).symm, rfl, rfl⟩
    | cons z mid =>
      cases hy'
      exact absurd (List.mem_append_right _ List.mem_cons_self) hmem

/-- What failed was asked before the interpreter was ended. -/
theorem split_before_close {log before after : List Exchange} {code : Except CloseWarning (Option Nat)} {x : Exchange}
    (h : log ++ [.close code] = before ++ x :: after) (hx : x.failed = true) : ∃ rest, log = before ++ x :: rest := by
  have hne : x ∉ [Exchange.close code] := fun hm => by
    rw [List.mem_singleton.1 hm] at hx
    cases hx
  obtain ⟨rest, hlog, -⟩ := split_of_append h hne
  exact ⟨rest, hlog⟩

namespace Runner

variable {r : Runner} {s : Session}

theorem Course.keys {sections : List Section} {p : Progress} {log : List Exchange} {emitted : List Section}
    {result : Except RunFault Progress} (h : Course r s sections p log emitted result) :
    emitted.map (·.key) <+: sections.map (·.key) := by
  induction h with
  | done => exact List.prefix_rfl
  | silent sec _ _ ih => exact (List.prefix_cons_inj _).2 ih
  | failed => exact List.nil_prefix
  | next sec _ _ _ ih => exact (List.prefix_cons_inj _).2 ih

/-- Sections are emitted in the order in which they were given. -/
theorem drive_keys (r : Runner) (s : Session) (c : Channel σ) (sections : List Section) (st : σ) :
    (r.drive s c sections st).1.map (·.key) <+: sections.map (·.key) := by
  rcases drive_course r s c sections st with ⟨f, -, hem, -⟩ | ⟨first, log, result, hc, -⟩
  · rw [hem]; exact List.nil_prefix
  · exact hc.keys

theorem conclude_ok {emitted : List Section} {p : Progress} {code : Option Nat} {summary : Summary}
    (h : r.conclude emitted p code = .ok summary) : summary = ⟨emitted.length, code, p.ended⟩ := by
  unfold conclude at h
  split at h
  · cases h
  · cases h; rfl

/-- A run begins with the wait for the first prompt. -/
theorem Ending.first_wait {sections : List Section} {log : List Exchange} {emitted : List Section}
    {result : Except RunFault Summary} (h : Ending r s sections log emitted result) :
    ∃ first after, log = first :: after ∧ first.call = .wait s.initial r.profile.initialPromptTimeout := by
  cases h <;> exact ⟨_, _, rfl, rfl⟩

/-- Nothing is emitted before the first prompt was found. -/
theorem Ending.emitted_nil {sections : List Section} {log : List Exchange} {emitted : List Section}
    {result : Except RunFault Summary} (h : Ending r s sections log emitted result) {first : Exchange}
    {after : List Exchange} (hlog : log = first :: after) (hfirst : first.failed = true) : emitted = [] := by
  cases h with
  | unstarted f => rfl
  | answered | failed | cut =>
    cases hlog
    cases hfirst

/-- A failure after the first wait that ends the run is in the section behind the ones that were emitted. -/
theorem Ending.emitted_before {sections : List Section} {log : List Exchange} {emitted : List Section}
    {result : Except RunFault Summary} (h : Ending r s sections log emitted result) {first x : Exchange}
    {before after : List Exchange} (hlog : log = first :: (before ++ x :: after)) (hx : x.failed = true)
    (hends : x.endsOutput = true → r.profile.ignoreErrors = false) :
    r.profile.LineIn sections (waitsOf before).length emitted.length := by
  cases h with
  | unstarted f => simp at hlog
  | @answered found p q log' emitted code hp hall =>
    obtain ⟨rest, rfl⟩ := split_before_close (List.cons.inj hlog).2 hx
    have hok := hall.answered.succeeded x (List.mem_append_right _ List.mem_cons_self)
    rw [hx] at hok
    cases hok
  | @failed found emitted k sec front y f hstop =>
    obtain ⟨rfl, -, -⟩ := failed_unique (List.cons.inj hlog).2 hstop.broken.succeeded hx
    rw [(hstop.fails f rfl).2]
    exact hstop.line
  | @cut found q emitted k sec front y code hstop =>
    obtain ⟨rest, hsplit⟩ := split_before_close (List.cons.inj hlog).2 hx
    obtain ⟨-, rfl, -⟩ := failed_unique hsplit hstop.broken.succeeded hx
    cases hstop.stop with
    | ended received hi => rw [hends rfl] at hi; cases hi

/-- The output is over early if, and only if, a wait said so. -/
theorem Ending.endedEarly_iff {sections : List Section} {log : List Exchange} {emitted : List Section}
    {summary : Summary} (h : Ending r s sections log emitted (.ok summary)) :
    summary.sections = emitted.length ∧ (summary.endedEarly = true ↔ ∃ x ∈ log, x.endsOutput = true) := by
  generalize hres : Except.ok summary = result at h
  cases h with
  | unstarted f => cases hres
  | failed first hstop => cases hres
  | @answered found p q log' emitted code hp hall =>
    obtain rfl := conclude_ok hres.symm
    obtain ⟨after, hq, he, -⟩ := hall.result
    cases hq
    refine ⟨rfl, fun h => ?_, fun ⟨x, hx, hends⟩ => ?_⟩
    · rw [he] at h; cases h
    · have hfailed := Exchange.failed_of_endsOutput hends
      simp only [List.mem_cons, List.mem_append, List.not_mem_nil, or_false] at hx
      rcases hx with rfl | hx | rfl
      · cases hends
      · rw [hall.answered.succeeded x hx] at hfailed; cases hfailed
      · cases hends
  | @cut found q emitted k sec front x code hstop =>
    obtain rfl := conclude_ok hres.symm
    obtain ⟨after, hq, he, -, -⟩ := hstop.passes rfl
    cases hq
    refine ⟨rfl, fun _ => ⟨x, by simp, ?_⟩, fun _ => he⟩
    cases hstop.stop with
    | ended received hi => rfl

/-- **Whole sections, in order.**  Whatever the channel answers:

* The keys that are emitted are the first keys of the given sections, in order.
* The first thing that is asked for is the first prompt, and if that wait fails nothing is emitted.
* If a write or a wait after it fails, and it is not the end of the output that the profile lets pass, then
  the sections before the one that was being sent are emitted, and no other.
* A run that reports success or an exit code has emitted every section.
* The report counts what was emitted, and it says that the output was over early just if a wait did. -/
theorem drive_emits_whole_sections (r : Runner) (s : Session) (c : Channel σ) (sections : List Section) (st : σ) :
    let log := r.log s c sections st
    let emitted := (r.drive s c sections st).1
    let result := (r.drive s c sections st).2.1
    emitted.map (·.key) <+: sections.map (·.key) ∧
    (∃ first after, log = first :: after ∧ first.call = .wait s.initial r.profile.initialPromptTimeout) ∧
    (∀ first after, log = first :: after → first.failed = true → emitted = []) ∧
    (∀ first before x after, log = first :: (before ++ x :: after) → x.failed = true →
      (x.endsOutput = true → r.profile.ignoreErrors = false) →
      ∃ k, r.profile.LineIn sections (waitsOf before).length k ∧ emitted.map (·.key) = (sections.take k).map (·.key)) ∧
    ((∃ summary, result = .ok summary) ∨ (∃ n transcript, result = .error (.nonZeroExit n transcript)) →
      emitted.map (·.key) = sections.map (·.key)) ∧
    (∀ summary, result = .ok summary → summary.sections = emitted.length ∧
      (summary.endedEarly = true ↔ ∃ x ∈ log, x.endsOutput = true)) := by
  intro log emitted result
  have hkeys := drive_keys r s c sections st
  have hend : Ending r s sections log emitted result := drive_ending r s c sections st
  have htake : emitted.map (·.key) = (sections.take emitted.length).map (·.key) := by
    have htake := List.prefix_iff_eq_take.1 hkeys
    rwa [List.length_map, ← List.map_take] at htake
  refine ⟨hkeys, hend.first_wait, fun first after hlog hfirst => ?_, fun first before x after hlog hx hends => ?_,
    fun hr => ?_, fun summary hr => ?_⟩
  · exact hend.emitted_nil hlog hfirst
  · exact ⟨emitted.length, hend.emitted_before hlog hx hends, htake⟩
  · rw [htake, drive_emitted_all hr, List.take_length]
  · exact Ending.endedEarly_iff (hr ▸ hend)

end Runner

end Transcripts
