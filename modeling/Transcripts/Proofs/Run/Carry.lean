import Transcripts.Proofs.Profile.Grouping
import Transcripts.Proofs.Run.Recorded

/-!
# The text between prompts

The transcripts of a run follow from the results of its waits.  A section's text is what its own waits
received, with their prompts in between, behind the prompt that the section before it ended with; that
last prompt is left to the next section.  So the texts put together hold every prompt once, but for the
last.
-/
namespace Transcripts

/-- What a wait received before its prompt or before the end of the output. -/
def WaitResult.text : WaitResult → String
  | .ok m => m.pre
  | .error (.endOfStream received) => received
  | .error _ => ""

/-- The prompt that ended a wait. -/
def WaitResult.prompt : WaitResult → String
  | .ok m => m.matched
  | .error _ => ""

def unechoed (text : String) : String := String.ofList (Text.removeEcho text.toList)

/-- What waits received, one after the other: before each text stands the prompt of the wait before it,
and before the first of all stands `carry`.  The prompt of the last wait is not part of it. -/
def spoken (carry : String) : List WaitResult → String
  | [] => ""
  | x :: rest => carry ++ unechoed x.text ++ spoken x.prompt rest

/-- The prompt of the last wait. -/
def lastPrompt : List WaitResult → String
  | [] => ""
  | [x] => x.prompt
  | _ :: rest => lastPrompt rest

/-- Every wait found a prompt. -/
def AllFound (xs : List WaitResult) : Prop := ∀ x ∈ xs, ∃ m, x = .ok m

/-- Every wait found a prompt but the last, which reports the end of the output. -/
def CutShort (xs : List WaitResult) : Prop :=
  ∃ found received, xs = found ++ [.error (.endOfStream received)] ∧ AllFound found

theorem spoken_carry (carry : String) {xs : List WaitResult} (h : xs ≠ []) :
    carry ++ spoken "" xs = spoken carry xs := by
  cases xs with
  | nil => exact absurd rfl h
  | cons x rest => rw [spoken, spoken, String.empty_append, String.append_assoc]

theorem lastPrompt_append (xs : List WaitResult) {ys : List WaitResult} (h : ys ≠ []) :
    lastPrompt (xs ++ ys) = lastPrompt ys := by
  induction xs with
  | nil => rfl
  | cons x rest ih =>
    cases hr : rest ++ ys with
    | nil => exact absurd (List.append_eq_nil_iff.1 hr).2 h
    | cons y more =>
      rw [List.cons_append, hr, lastPrompt, ← hr]
      · exact ih
      · simp

theorem AllFound.nil : AllFound [] := fun _ h => by cases h

theorem AllFound.cons (m : PromptMatch) {xs : List WaitResult} (h : AllFound xs) : AllFound (.ok m :: xs) := by
  intro y hy
  rcases List.mem_cons.1 hy with rfl | hy
  · exact ⟨m, rfl⟩
  · exact h y hy

theorem CutShort.cons (m : PromptMatch) {xs : List WaitResult} (h : CutShort xs) : CutShort (.ok m :: xs) := by
  obtain ⟨found, received, rfl, hf⟩ := h
  exact ⟨.ok m :: found, received, rfl, hf.cons m⟩

theorem CutShort.ne_nil {xs : List WaitResult} (h : CutShort xs) : xs ≠ [] := by
  obtain ⟨found, received, rfl, -⟩ := h
  simp

/-- What reports the end of the output does so behind any prompt. -/
theorem CutShort.of_cons {m : PromptMatch} {xs : List WaitResult} (h : CutShort (.ok m :: xs)) : CutShort xs := by
  obtain ⟨found, received, hxs, hf⟩ := h
  cases found with
  | nil => cases hxs
  | cons x found =>
    cases hxs
    exact ⟨found, received, rfl, fun y hy => hf y (List.mem_cons_of_mem _ hy)⟩

theorem CutShort.of_singleton {f : WaitFault} (h : CutShort [.error f]) : ∃ received, f = .endOfStream received := by
  obtain ⟨found, received, hxs, hf⟩ := h
  cases found with
  | nil =>
    cases hxs
    exact ⟨received, rfl⟩
  | cons x found => cases found <;> cases hxs

theorem CutShort.lastPrompt {xs : List WaitResult} (h : CutShort xs) : lastPrompt xs = "" := by
  obtain ⟨found, received, rfl, -⟩ := h
  rw [lastPrompt_append _ (by simp)]
  rfl

theorem CutShort.not_allFound {xs : List WaitResult} (h : CutShort xs) : ¬ AllFound xs := by
  obtain ⟨found, received, rfl, -⟩ := h
  intro hf
  obtain ⟨m, hm⟩ := hf _ (List.mem_append_right _ (List.mem_singleton.2 rfl))
  cases hm

/-! ## Taking a pattern out of nothing -/

namespace Pattern

theorem Regex.outside_empty (ms : List (Nat × Nat)) (i : Nat) : outside (Input.ofBytes []) i ms = [] := by
  induction ms generalizing i with
  | nil => simp [outside, Input.ofBytes]
  | cons m rest ih =>
    obtain ⟨s, e⟩ := m
    rw [outside, ih]
    simp [Input.ofBytes]

theorem Regex.remove_nil (r : Regex) : r.remove [] = [] := by
  have hb : Text.encode [] = [] := rfl
  simp only [remove, hb, outside_empty]
  rfl

end Pattern

/-! ## Lines of a section -/

namespace Profile

/-- How many lines a section is sent as. -/
def lineCount (p : Profile) (sec : Section) : Nat := (p.linesOf sec.text).length

/-- How many lines stand before the section numbered `k`. -/
def linesBefore (p : Profile) (sections : List Section) (k : Nat) : Nat :=
  ((sections.take k).flatMap fun sec => p.linesOf sec.text).length

@[simp] theorem linesBefore_zero (p : Profile) (sections : List Section) : p.linesBefore sections 0 = 0 := by
  simp [linesBefore]

theorem linesBefore_cons (p : Profile) (sec : Section) (rest : List Section) (k : Nat) :
    p.linesBefore (sec :: rest) (k + 1) = p.lineCount sec + p.linesBefore rest k := by
  simp [linesBefore, lineCount]

end Profile

namespace Runner

variable {σ : Type} {r : Runner} {s : Session}

theorem clean_empty (r : Runner) : r.clean "" = "" := by
  unfold clean
  split
  · rfl
  · rw [String.toList_empty, Pattern.Regex.remove_nil, String.ofList_nil]

/-! ## One section -/

theorem absorb_ok {key : String} {d after : Draft} {x : WaitResult} (h : r.absorb s key d x = .ok after) :
    after.transcript = d.transcript ++ d.carry ++ unechoed x.text ∧ after.carry = x.prompt ∧
    (after.ended = false → ∃ m, x = .ok m) ∧
    (after.ended = true → r.profile.ignoreErrors = true ∧ ∃ received, x = .error (.endOfStream received)) := by
  rcases absorb_cases h with ⟨m, rfl, rfl⟩ | ⟨hi, received, rfl, rfl⟩
  · exact ⟨rfl, rfl, fun _ => ⟨m, rfl⟩, fun he => by cases he⟩
  · exact ⟨rfl, rfl, fun he => (by cases he), fun _ => ⟨hi, received, rfl⟩⟩

/-- What a run fails with when the wait after a line of a section does. -/
def lineFault (r : Runner) (s : Session) (key : String) : WaitFault → RunFault
  | .timedOut received =>
    .promptTimeout r.profile.lineTimeout received (Text.charDump received) s.searchTerms
  | .endOfStream received => .endOfStream key received
  | .fault message => .process message
  | .endless => .endless
  | .beyondClock => .beyondClock

theorem absorb_error {key : String} {d : Draft} {x : WaitResult} {f : RunFault} (h : r.absorb s key d x = .error f) :
    ∃ w, x = .error w ∧ f = r.lineFault s key w ∧
      ∀ received, w = .endOfStream received → r.profile.ignoreErrors = false := by
  cases x with
  | ok m => cases h
  | error w =>
    cases w with
    | endOfStream received =>
      simp only [absorb] at h
      split at h
      · cases h
      · rename_i hi
        cases h
        exact ⟨_, rfl, rfl, fun _ _ => Bool.eq_false_iff.2 hi⟩
    | timedOut received => cases h; exact ⟨_, rfl, rfl, fun _ hw => by cases hw⟩
    | fault message => cases h; exact ⟨_, rfl, rfl, fun _ hw => by cases hw⟩
    | endless => cases h; exact ⟨_, rfl, rfl, fun _ hw => by cases hw⟩
    | beyondClock => cases h; exact ⟨_, rfl, rfl, fun _ hw => by cases hw⟩

theorem lineFault_ne_nonZeroExit (key : String) (f : WaitFault) (n : Nat) (transcript : String) :
    r.lineFault s key f ≠ .nonZeroExit n transcript := by
  cases f <;> exact fun h => by cases h

/-- What the waits after some lines make of a draft. -/
structure Tells (r : Runner) (lines : List String) (d : Draft) (xs : List WaitResult) (after : Draft) : Prop where
  transcript : after.transcript = d.transcript ++ spoken d.carry xs
  carry : after.carry = lastPrompt xs
  ne_nil : xs ≠ []
  found : after.ended = false → xs.length = lines.length ∧ AllFound xs
  cut : after.ended = true → r.profile.ignoreErrors = true ∧ CutShort xs ∧ xs.length ≤ lines.length

/-- A line whose prompt was found, before others. -/
theorem Tells.cons {line : String} {rest : List String} {d mid after : Draft} {m : PromptMatch}
    {xs : List WaitResult} (ht : mid.transcript = d.transcript ++ d.carry ++ unechoed m.pre)
    (hc : mid.carry = m.matched) (h : Tells r rest mid xs after) :
    Tells r (line :: rest) d (.ok m :: xs) after := by
  refine ⟨?_, ?_, by simp, fun hf => ?_, fun hcut => ?_⟩
  · rw [h.transcript, ht, hc, spoken]
    simp only [String.append_assoc, WaitResult.text, WaitResult.prompt]
  · rw [h.carry, ← lastPrompt_append [.ok m] h.ne_nil]; rfl
  · obtain ⟨hlen, hall⟩ := h.found hf
    exact ⟨by simp [hlen], hall.cons m⟩
  · obtain ⟨hi, hshort, hlen⟩ := h.cut hcut
    exact ⟨hi, hshort.cons m, by simp [hlen]⟩

theorem Dialogue.tells {key : String} {lines : List String} {d after : Draft} {log : List Exchange}
    {result : Except RunFault Draft} (h : Dialogue r s key lines d log result) (hr : result = .ok after)
    (hl : lines ≠ []) : Tells r lines d (waitsOf log) after := by
  induction h with
  | done d => exact absurd rfl hl
  | refused => cases hr
  | failed => cases hr
  | @ended line rest d mid x ha he =>
    cases hr
    obtain ⟨ht, hc, -, hcut⟩ := absorb_ok ha
    obtain ⟨hi, received, rfl⟩ := hcut he
    rw [waitsOf_line, waitsOf_nil]
    refine ⟨?_, hc, by simp, fun hf => ?_, fun _ => ⟨hi, ⟨[], received, rfl, .nil⟩, by simp⟩⟩
    · rw [ht, String.append_assoc]; simp [spoken]
    · rw [he] at hf; cases hf
  | @next line rest d mid x log result ha he hd ih =>
    obtain ⟨ht, hc, hfound, -⟩ := absorb_ok ha
    obtain ⟨m, rfl⟩ := hfound he
    rw [List.cons_append, List.cons_append, List.nil_append, waitsOf_line]
    -- the induction hypothesis is about lines that are left; after the last one there are none
    cases hrest : rest with
    | nil =>
      rw [hrest] at hd
      cases hd
      cases hr
      refine ⟨?_, hc, by simp, fun _ => ⟨rfl, AllFound.nil.cons m⟩, fun hcut => ?_⟩
      · rw [ht, String.append_assoc]; simp [waitsOf_nil, spoken]
      · rw [he] at hcut; cases hcut
    | cons line' rest' =>
      rw [← hrest]
      exact .cons ht hc (ih hr (by rw [hrest]; simp))

/-- A section that ends a run does so with no exit code, and not with the end of the output if the profile lets that
pass. -/
theorem Dialogue.fails {key : String} {lines : List String} {d : Draft} {log : List Exchange}
    {result : Except RunFault Draft} (h : Dialogue r s key lines d log result) {f : RunFault} (hr : result = .error f) :
    (∀ n transcript, f ≠ .nonZeroExit n transcript) ∧ (r.profile.ignoreErrors = true → ¬ CutShort (waitsOf log)) := by
  induction h with
  | done | ended => cases hr
  | refused line rest d e =>
    cases hr
    exact ⟨fun n transcript h => (by cases h), fun _ hcut => hcut.ne_nil rfl⟩
  | failed line rest ha =>
    cases hr
    obtain ⟨w, rfl, rfl, hw⟩ := absorb_error ha
    refine ⟨lineFault_ne_nonZeroExit key w, fun hi hcut => ?_⟩
    obtain ⟨received, rfl⟩ := hcut.of_singleton
    rw [hw received rfl] at hi
    cases hi
  | @next line rest d after x log result ha he _ ih =>
    obtain ⟨-, -, hfound, -⟩ := absorb_ok ha
    obtain ⟨m, rfl⟩ := hfound he
    rw [List.cons_append, List.cons_append, List.nil_append, waitsOf_line]
    obtain ⟨hne, hcut⟩ := ih hr
    exact ⟨hne, fun hi h => hcut hi h.of_cons⟩

/-! ## All sections -/

/-- The waits of the section numbered `k`, of all waits after a line. -/
def ownWaits (r : Runner) (sections : List Section) (ws : List WaitResult) (k : Nat) : List WaitResult :=
  (ws.take (r.profile.linesBefore sections (k + 1))).drop (r.profile.linesBefore sections k)

/-- What a section's text begins with: the first output for the first of all, and else the last prompt of
the section before it. -/
def carryInto (r : Runner) (first : String) (sections : List Section) (ws : List WaitResult) : Nat → String
  | 0 => first
  | k + 1 => lastPrompt (r.ownWaits sections ws k)

/-- The text of a section before the profile's pattern is taken out of it. -/
def rawText (r : Runner) (first : String) (sections : List Section) (ws : List WaitResult) (k : Nat) : String :=
  spoken (r.carryInto first sections ws k) (r.ownWaits sections ws k)

theorem ownWaits_zero (r : Runner) (sec : Section) (rest : List Section) (ws : List WaitResult) :
    r.ownWaits (sec :: rest) ws 0 = ws.take (r.profile.lineCount sec) := by
  rw [ownWaits, Profile.linesBefore_cons, Profile.linesBefore_zero, Profile.linesBefore_zero, Nat.add_zero, List.drop_zero]

theorem ownWaits_succ (r : Runner) (sec : Section) (rest : List Section) (ws : List WaitResult) (k : Nat) :
    r.ownWaits (sec :: rest) ws (k + 1) = r.ownWaits rest (ws.drop (r.profile.lineCount sec)) k := by
  rw [ownWaits, ownWaits, Profile.linesBefore_cons, Profile.linesBefore_cons, ← List.drop_drop, ← List.take_drop]

/-- Of a section with as many waits as lines, and others behind it. -/
theorem ownWaits_full (r : Runner) {sec : Section} (rest : List Section) {xs : List WaitResult} (ys : List WaitResult)
    (h : xs.length = r.profile.lineCount sec) :
    r.ownWaits (sec :: rest) (xs ++ ys) 0 = xs ∧
    ∀ k, r.ownWaits (sec :: rest) (xs ++ ys) (k + 1) = r.ownWaits rest ys k :=
  ⟨by rw [ownWaits_zero, List.take_left' h], fun k => by rw [ownWaits_succ, List.drop_left' h]⟩

theorem ownWaits_nil (r : Runner) (sections : List Section) (k : Nat) : r.ownWaits sections [] k = [] := by
  simp [ownWaits]

/-- Of a section that has all the waits there are. -/
theorem ownWaits_short (r : Runner) {sec : Section} (rest : List Section) {xs : List WaitResult}
    (h : xs.length ≤ r.profile.lineCount sec) :
    r.ownWaits (sec :: rest) xs 0 = xs ∧ ∀ k, r.ownWaits (sec :: rest) xs (k + 1) = [] :=
  ⟨by rw [ownWaits_zero, List.take_of_length_le h],
    fun k => by rw [ownWaits_succ, List.drop_of_length_le h, ownWaits_nil]⟩

theorem rawText_zero (r : Runner) (first : String) (sec : Section) (rest : List Section)
    (ws : List WaitResult) :
    r.rawText first (sec :: rest) ws 0 = spoken first (ws.take (r.profile.lineCount sec)) := by
  rw [rawText, ownWaits_zero, carryInto]

theorem rawText_succ (r : Runner) (first : String) (sec : Section) (rest : List Section)
    (ws : List WaitResult) (k : Nat) :
    r.rawText first (sec :: rest) ws (k + 1) =
      r.rawText (lastPrompt (ws.take (r.profile.lineCount sec))) rest (ws.drop (r.profile.lineCount sec)) k := by
  rw [rawText, rawText, ownWaits_succ]
  cases k with
  | zero => rw [carryInto, carryInto, ownWaits_zero]
  | succ k => rw [carryInto, carryInto, ownWaits_succ]

theorem rawText_nil (r : Runner) (first : String) (sections : List Section) (k : Nat) :
    r.rawText first sections [] k = "" := by
  rw [rawText, ownWaits_nil, spoken]

/-- Once the output is over the remaining sections are silent. -/
theorem Course.ended_silent {sections : List Section} {p : Progress} {log : List Exchange} {emitted : List Section}
    {result : Except RunFault Progress} (h : Course r s sections p log emitted result) (he : p.ended = true)
    (hc : p.carry = "") :
    log = [] ∧ emitted = sections.map (fun sec => ⟨sec.key, ""⟩) ∧ ∃ after, result = .ok after := by
  induction h with
  | done p => exact ⟨rfl, rfl, p, rfl⟩
  | silent sec _ _ ih =>
    obtain ⟨hlog, hem, hres⟩ := ih he rfl
    exact ⟨hlog, by rw [hc, clean_empty, hem]; rfl, hres⟩
  | failed _ _ hne => rw [he] at hne; cases hne
  | next _ hne => rw [he] at hne; cases hne

/-- How the waits `own` of a section went: all of its lines were answered, or the profile lets the end of
the output pass and it came, or it had come before. -/
inductive Went (r : Runner) (sec : Section) (ended : Prop) (own : List WaitResult) : Prop where
  | answered (length : own.length = r.profile.lineCount sec) (found : AllFound own)
  | ended (ignored : r.profile.ignoreErrors = true) (cut : CutShort own)
  | silent (before : ended) (empty : own = [])

/-- The sections that were emitted are the first ones, each with the text that its waits and the prompt
before them tell.  After one whose output ended all others are silent. -/
structure Carried (r : Runner) (first : String) (sections : List Section) (ws : List WaitResult)
    (emitted : List Section) : Prop where
  text : ∀ {k x}, emitted[k]? = some x → ∃ sec, sections[k]? = some sec ∧
    x = ⟨sec.key, r.clean (r.rawText first sections ws k)⟩ ∧
    r.Went sec (∃ j < k, CutShort (r.ownWaits sections ws j)) (r.ownWaits sections ws k)
  silent : ∀ {j}, j < emitted.length → CutShort (r.ownWaits sections ws j) → ∀ k > j,
    emitted[k]? = sections[k]?.map fun sec => ⟨sec.key, ""⟩

theorem Carried.nil (first : String) (sections : List Section) (ws : List WaitResult) :
    Carried r first sections ws [] :=
  ⟨fun h => by simp at h, fun h => by simp at h⟩

/-- A section whose lines were all answered, before others. -/
theorem Carried.cons_answered {first : String} {sec : Section} {rest : List Section} {xs ys : List WaitResult}
    {emitted : List Section} (hlen : xs.length = r.profile.lineCount sec) (hall : AllFound xs)
    (h : Carried r (lastPrompt xs) rest ys emitted) :
    Carried r first (sec :: rest) (xs ++ ys) (⟨sec.key, r.clean (spoken first xs)⟩ :: emitted) := by
  have htake : (xs ++ ys).take (r.profile.lineCount sec) = xs := List.take_left' hlen
  have hdrop : (xs ++ ys).drop (r.profile.lineCount sec) = ys := List.drop_left' hlen
  obtain ⟨hzero, hsucc⟩ := ownWaits_full r rest ys hlen
  refine ⟨fun {k x} hx => ?_, fun {j} hj hcut k hk => ?_⟩
  · cases k with
    | zero =>
      cases hx
      exact ⟨sec, rfl, by rw [rawText_zero, htake], by rw [hzero]; exact .answered hlen hall⟩
    | succ k =>
      obtain ⟨sec', hsec, htext, hwent⟩ := h.text hx
      refine ⟨sec', hsec, by rw [rawText_succ, htake, hdrop]; exact htext, ?_⟩
      rw [hsucc]
      cases hwent with
      | answered hl hf => exact .answered hl hf
      | ended hi hc => exact .ended hi hc
      | silent ho hn =>
        obtain ⟨j, hj, hc⟩ := ho
        exact .silent ⟨j + 1, Nat.succ_lt_succ hj, by rw [hsucc]; exact hc⟩ hn
  · cases j with
    | zero => rw [hzero] at hcut; exact absurd hall hcut.not_allFound
    | succ j =>
      rw [hsucc] at hcut
      obtain ⟨k, rfl⟩ : ∃ k', k = k' + 1 := ⟨k - 1, by omega⟩
      exact h.silent (Nat.lt_of_succ_lt_succ hj) hcut k (Nat.lt_of_succ_lt_succ hk)

/-- A section in which the output ended, before others. -/
theorem Carried.cons_ended {first : String} {sec : Section} {rest : List Section} {xs : List WaitResult}
    (hi : r.profile.ignoreErrors = true) (hcut : CutShort xs) (hlen : xs.length ≤ r.profile.lineCount sec) :
    Carried r first (sec :: rest) xs
      (⟨sec.key, r.clean (spoken first xs)⟩ :: rest.map fun sec => ⟨sec.key, ""⟩) := by
  have htake : xs.take (r.profile.lineCount sec) = xs := List.take_of_length_le hlen
  have hdrop : xs.drop (r.profile.lineCount sec) = [] := List.drop_of_length_le hlen
  obtain ⟨hzero, hsucc⟩ := ownWaits_short r rest hlen
  refine ⟨fun {k x} hx => ?_, fun {j} _ _ k hk => ?_⟩
  · cases k with
    | zero =>
      cases hx
      exact ⟨sec, rfl, by rw [rawText_zero, htake], by rw [hzero]; exact .ended hi hcut⟩
    | succ k =>
      simp only [List.getElem?_cons_succ, List.getElem?_map, Option.map_eq_some_iff] at hx
      obtain ⟨sec', hsec, rfl⟩ := hx
      refine ⟨sec', hsec, by rw [rawText_succ, hdrop, rawText_nil, clean_empty], .silent ⟨0, by omega, ?_⟩ (hsucc k)⟩
      rw [hzero]
      exact hcut
  · obtain ⟨k, rfl⟩ : ∃ k', k = k' + 1 := ⟨k - 1, by omega⟩
    simp

theorem Course.carried {sections : List Section} {p : Progress} {log : List Exchange} {emitted : List Section}
    {result : Except RunFault Progress} (h : Course r s sections p log emitted result)
    (he : p.ended = false) : Carried r p.carry sections (waitsOf log) emitted := by
  induction h with
  | done p => exact Carried.nil ..
  | silent _ hend => rw [he] at hend; cases hend
  | failed => exact Carried.nil ..
  | @next sec rest p d log more emitted result _ hd hc ih =>
    obtain ⟨ht, hcarry, hne, hfound, hcut⟩ := hd.tells rfl (r.profile.linesOf_ne_nil sec.text)
    have hraw : d.transcript = spoken p.carry (waitsOf log) := by rw [ht]; exact spoken_carry _ hne
    rw [hraw, waitsOf_append]
    -- the waits of the section are its own either way: as many as it has lines, or the last of the run
    cases hend : d.ended with
    | false =>
      obtain ⟨hlen, hall⟩ := hfound hend
      have hrest := ih hend
      simp only [hcarry] at hrest
      exact .cons_answered hlen hall hrest
    | true =>
      obtain ⟨hi, hshort, hlen⟩ := hcut hend
      obtain ⟨hmore, hem, -⟩ := hc.ended_silent hend (by simp only [hcarry, hshort.lastPrompt])
      rw [hmore, hem, waitsOf_nil, List.append_nil]
      exact .cons_ended hi hshort hlen

theorem startFault_ne_nonZeroExit (t : Timeout) (f : WaitFault) (n : Nat) (transcript : String) :
    s.startFault t f ≠ .nonZeroExit n transcript := by
  cases f <;> exact fun h => by cases h

theorem Course.emitted_all {sections : List Section} {p after : Progress} {log : List Exchange} {emitted : List Section}
    {result : Except RunFault Progress} (h : Course r s sections p log emitted result) (hr : result = .ok after) :
    emitted.length = sections.length := by
  induction h with
  | done => rfl
  | silent sec _ _ ih => exact congrArg Nat.succ (ih hr)
  | failed => cases hr
  | next sec _ _ _ ih => exact congrArg Nat.succ (ih hr)

theorem Course.ne_nonZeroExit {sections : List Section} {p : Progress} {log : List Exchange} {emitted : List Section}
    {result : Except RunFault Progress} (h : Course r s sections p log emitted result) {f : RunFault}
    (hr : result = .error f) (n : Nat) (transcript : String) : f ≠ .nonZeroExit n transcript := by
  induction h with
  | done => cases hr
  | silent sec _ _ ih => exact ih hr
  | failed sec rest _ hd =>
    cases hr
    exact (hd.fails rfl).1 n transcript
  | next sec _ _ _ ih => exact ih hr

/-- A run that succeeds or reports an exit code has emitted every section. -/
theorem drive_emitted_all {c : Channel σ} {sections : List Section} {st : σ}
    (h : (∃ summary, (r.drive s c sections st).2.1 = .ok summary) ∨
      ∃ n transcript, (r.drive s c sections st).2.1 = .error (.nonZeroExit n transcript)) :
    (r.drive s c sections st).1.length = sections.length := by
  rcases drive_course r s c sections st with ⟨f, -, -, hres⟩ | ⟨initial, log, result, hc, hres⟩
  · rcases h with ⟨summary, h⟩ | ⟨n, transcript, h⟩
    · rw [hres] at h; cases h
    · exact absurd (Except.error.inj (hres.symm.trans h)) (startFault_ne_nonZeroExit _ f n transcript)
  · cases result with
    | ok p => exact hc.emitted_all rfl
    | error f =>
      rcases h with ⟨summary, h⟩ | ⟨n, transcript, h⟩
      · rw [hres.2] at h; cases h
      · exact absurd (Except.error.inj (hres.2.symm.trans h)) (hc.ne_nonZeroExit rfl n transcript)

end Runner

end Transcripts
