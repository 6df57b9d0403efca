import Transcripts.Channel
import Transcripts.Proofs.Stream.Account
import Transcripts.Proofs.Text.Boundary

/-!
# Characters that arrive in pieces

A chunk may end inside a character.  The waits hand out text all the same: a literal prompt stands between two
characters wherever the bytes were cut, so each wait takes whole characters (`taken_faithful`), and the bytes of a
character that has not arrived in full stay in the buffer until it has.  Over any number of waits the text that was
sent is handed out as it was (`text_survives_cuts`).
-/
namespace Transcripts

open Transcripts.Text (Bytes)

/-- The text that a wait hands out: what came before the prompt and the prompt, or what was left at the end. -/
def Outcome.text (o : Outcome) : String :=
  match o.result with
  | .ok found => found.pre ++ found.matched
  | .error (.endOfStream received) => received
  | .error _ => ""

/-- An outcome whose bytes are the text that is handed out, character by character. -/
def Outcome.Faithful (o : Outcome) : Prop := o.bytes = Text.bytes o.text

theorem Outcome.faithful_of_bytes_eq_nil {o : Outcome} (h : o.text = "") (hb : o.bytes = []) : o.Faithful := by
  rw [Faithful, h, hb]
  rfl

/-- The output that a chunk brings. -/
def Chunk.bytes : Chunk → Bytes
  | .data bs => bs
  | _ => []

theorem Receipt.flatMap_bytes (rs : List Receipt) :
    rs.flatMap Receipt.bytes = (rs.filterMap Receipt.chunk?).flatMap Chunk.bytes := by
  induction rs with
  | nil => rfl
  | cons x rs ih =>
    rw [List.flatMap_cons, ih]
    rcases x with (bs | _ | message) | _ <;> rfl

theorem Receipt.Orderly.exists_end {rs : List Receipt} {e : StreamEnd} (h : Orderly rs (some e)) :
    ∃ x ∈ rs, x.end? = some e := by
  induction rs with
  | nil => cases h
  | cons x rest ih =>
    simp only [Orderly] at h
    split at h
    · obtain ⟨y, hy, hend⟩ := ih h
      exact ⟨y, List.mem_cons_of_mem x hy, hend⟩
    · rename_i hx
      cases h.2
      exact ⟨x, List.mem_cons_self, hx⟩

/-! ## One wait -/

namespace Stream

open PromptMatcher (literal)

/-- **A literal prompt ends between two characters**, even where the output `bs` breaks off inside one: `rest` is what
has not arrived yet. -/
theorem taken_faithful {terms : List String} (hterms : "" ∉ terms) {bs : Bytes} {f : Found}
    (hf : (literal terms).find bs = some f) {cs : List Char} {rest : Bytes} (hcs : bs ++ rest = Text.encode cs) :
    (Outcome.taken (bs.take f.start) ((bs.take f.stop).drop f.start) f.index).Faithful := by
  obtain ⟨hm, -⟩ := PromptMatcher.find_eq_some_iff.1 hf
  obtain ⟨key, hkey, hfound, hstop⟩ := PromptMatcher.literal_matchAt.1 hm
  obtain ⟨-, hocc, -⟩ := Text.findSub_eq_some_iff.1 hfound
  have hle := PromptMatcher.find_mem hf
  have hne : key.toList ≠ [] := by
    intro h
    rw [String.toList_eq_nil_iff] at h
    exact hterms (h ▸ List.mem_of_getElem? hkey)
  have hwhole : Text.OccursAt (Text.bytes key) (Text.encode cs) f.start := by
    rw [← hcs]
    exact hocc.append (by omega) rest
  obtain ⟨pre, post, rfl, hstart⟩ := Text.exists_split_of_occurs hne hwhole
  have hbefore : bs.take f.start = Text.encode pre := by
    have htake := congrArg (List.take f.start) hcs
    rw [List.take_append_of_le_length (by omega)] at htake
    rw [htake, hstart, Text.encode_append, Text.encode_append, List.append_assoc, List.take_left]
  have hmatched : (bs.take f.stop).drop f.start = Text.bytes key := by
    obtain ⟨more, hmore⟩ := hocc
    rw [List.drop_take, ← hmore, hstop, Nat.add_sub_cancel_left, List.take_left]
  simp only [Outcome.Faithful, Outcome.bytes, Outcome.text, Outcome.result]
  rw [hbefore, hmatched, Text.bytes_append, Text.shown_bytes, Text.shown, Text.decode_encode, Text.bytes, Text.bytes,
    String.toList_ofList]

/-- A wait hands out whole characters if it searches the bytes of a text that has arrived up to some place, and if it
reports the end only when all of the text has arrived. -/
theorem await_faithful {terms : List String} (hterms : "" ∉ terms) (s : Stream) (timeout : Timeout) {cs : List Char}
    {rest : Bytes} (hcs : s.buffer ++ (s.receipts (literal terms) timeout).flatMap Receipt.bytes ++ rest = Text.encode cs)
    (hend : (s.await (literal terms) timeout).2.ended = some .eof → rest = []) :
    (s.await (literal terms) timeout).1.Faithful := by
  have hreports := await_reports s (literal terms) timeout
  cases ho : (s.await (literal terms) timeout).1 with
  | taken before matched index =>
    obtain ⟨f, hf, rfl, rfl, rfl, -⟩ := hreports.taken before matched index ho
    exact taken_faithful hterms hf hcs
  | endOfStream received =>
    obtain ⟨-, rfl, -, hended⟩ := hreports.endOfStream received ho
    rw [hend hended, List.append_nil] at hcs
    simp only [Outcome.Faithful, Outcome.bytes, Outcome.text, Outcome.result]
    rw [hcs, Text.shown, Text.decode_encode, Text.bytes, String.toList_ofList]
  | timedOut | fault | endless | beyondClock => exact Outcome.faithful_of_bytes_eq_nil rfl rfl

end Stream

/-! ## Any number of waits -/

namespace Account

/-- Everything that was sent, in the order in which it is delivered: what the waits received, and then what they are
still to receive. -/
def delivered (a : Account) : List Chunk :=
  a.received.filterMap Receipt.chunk? ++ a.stream.arrivals.map (·.chunk)

/-- Waits search for texts, none of them empty. -/
def Literal (steps : List StreamStep) : Prop :=
  ∀ m timeout, .await m timeout ∈ steps → ∃ terms, m = .literal terms ∧ "" ∉ terms

theorem step_received_grows (a : Account) (x : StreamStep) : a.received <+: (a.step x).received := by
  cases x with
  | send delay c => exact List.prefix_rfl
  | drop => exact List.prefix_rfl
  | await m timeout => exact List.prefix_append _ _

theorem run_received_grows (a : Account) (steps : List StreamStep) : a.received <+: (a.run steps).received := by
  induction steps generalizing a with
  | nil => exact List.prefix_rfl
  | cons x steps ih => exact (step_received_grows a x).trans (ih (a.step x))

/-- Receipts of a text: they bring its bytes up to some place, and an end only after all of them. -/
def Brings (cs : List Char) (rs : List Receipt) : Prop :=
  rs.flatMap Receipt.bytes <+: Text.encode cs ∧
    ∀ x ∈ rs, x.end? = some .eof → rs.flatMap Receipt.bytes = Text.encode cs

/-- What a run is still to receive of a text after some steps; it is nothing once the end was received. -/
theorem exists_rest_of_brings {a : Account} (hb : a.Balanced) {steps : List StreamStep} {cs : List Char}
    (hcs : Brings cs (a.run steps).received) :
    ∃ rest, a.received.flatMap Receipt.bytes ++ rest = Text.encode cs ∧
      (a.stream.ended = some .eof → rest = []) := by
  obtain ⟨tail, htail⟩ := run_received_grows a steps
  obtain ⟨⟨more, hmore⟩, hall⟩ := hcs
  refine ⟨tail.flatMap Receipt.bytes ++ more, ?_, fun hend => ?_⟩
  · rw [← List.append_assoc, ← List.flatMap_append, htail, hmore]
  · have horderly := hb.orderly
    rw [hend] at horderly
    obtain ⟨x, hx, hxend⟩ := horderly.exists_end
    have hfinal : (a.run steps).received = a.received := run_ended (by rw [hend]; rfl) steps
    have hfull := hall x (by rw [hfinal]; exact hx) hxend
    rw [← hfull] at hmore
    rw [hfinal] at htail
    rw [List.append_cancel_left (htail.trans (List.append_nil _).symm),
      List.append_cancel_left (hmore.trans (List.append_nil _).symm)]
    rfl

theorem flatMap_bytes_of_faithful {os : List Outcome} (h : ∀ o ∈ os, o.Faithful) :
    os.flatMap Outcome.bytes = Text.encode (os.flatMap fun o => o.text.toList) := by
  induction os with
  | nil => rfl
  | cons o os ih =>
    rw [List.flatMap_cons, List.flatMap_cons, Text.encode_append, ih fun o' ho' => h o' (List.mem_cons_of_mem o ho'),
      h o List.mem_cons_self, Text.bytes]

/-- The waits of a run hand out whole characters of the text that the run receives. -/
theorem run_faithful {a : Account} (hb : a.Balanced) {steps : List StreamStep} (hsteps : Literal steps)
    {cs : List Char} (hcs : Brings cs (a.run steps).received) (ha : ∀ o ∈ a.outcomes, o.Faithful) :
    ∀ o ∈ (a.run steps).outcomes, o.Faithful := by
  induction steps generalizing a with
  | nil => exact ha
  | cons x steps ih =>
    have hrest : Literal steps := fun m timeout h => hsteps m timeout (List.mem_cons_of_mem x h)
    refine ih (a := a.step x) (step_balanced hb x) hrest hcs ?_
    cases x with
    | send delay c => exact ha
    | drop => exact ha
    | await m timeout =>
      obtain ⟨terms, rfl, hterms⟩ := hsteps m timeout List.mem_cons_self
      obtain ⟨rest, hrest, hend⟩ := exists_rest_of_brings (step_balanced hb (.await (.literal terms) timeout)) hcs
      -- what was handed out before is a part of the text, so this wait searches what comes after it
      simp only [step, List.flatMap_append, ← hb.bytes, flatMap_bytes_of_faithful ha, List.append_assoc] at hrest
      obtain ⟨later, rfl⟩ := Text.encode_isPrefix ⟨_, hrest⟩
      rw [Text.encode_append] at hrest
      have hnew : (a.stream.await (.literal terms) timeout).1.Faithful :=
        Stream.await_faithful hterms a.stream timeout
          ((List.append_assoc _ _ _).trans (List.append_cancel_left hrest)) hend
      intro o ho
      rcases List.mem_append.1 ho with ho | ho
      · exact ha o ho
      · rw [List.mem_singleton.1 ho]
        exact hnew

/-! ## The end of the output -/

/-- Nothing is sent, and nothing is left, once the sender's going was noticed. -/
theorem run_hangup {a : Account}
    (ha : .hangup ∈ a.received → a.stream.closed = true ∧ a.stream.arrivals = []) (steps : List StreamStep)
    (h : .hangup ∈ (a.run steps).received) :
    (a.run steps).stream.closed = true ∧ (a.run steps).stream.arrivals = [] := by
  induction steps generalizing a with
  | nil => exact ha h
  | cons x steps ih =>
    refine ih (a := a.step x) (fun hx => ?_) h
    cases x with
    | send delay c =>
      obtain ⟨hclosed, harr⟩ := ha hx
      simp only [step, Stream.send, hclosed, if_true]
      exact ⟨trivial, harr⟩
    | drop => exact ⟨rfl, (ha hx).2⟩
    | await m timeout =>
      have hw := Stream.await_settles a.stream m timeout
      simp only [step]
      rw [hw.closed]
      rcases List.mem_append.1 hx with hx | hx
      · obtain ⟨hclosed, harr⟩ := ha hx
        have hqueue := hw.queue
        rw [harr, List.map_nil, List.append_eq_nil_iff, List.map_eq_nil_iff] at hqueue
        exact ⟨hclosed, hqueue.2⟩
      · exact hw.hangup hx

/-- Once the end of the output was reported nothing is left. -/
theorem run_endOfStream {a : Account}
    (ha : ∀ r, .endOfStream r ∈ a.outcomes → a.stream.ended = some .eof ∧ a.stream.buffer = [])
    (steps : List StreamStep) {r : Bytes} (h : .endOfStream r ∈ (a.run steps).outcomes) :
    (a.run steps).stream.ended = some .eof ∧ (a.run steps).stream.buffer = [] := by
  induction steps generalizing a with
  | nil => exact ha r h
  | cons x steps ih =>
    refine ih (a := a.step x) (fun r hr => ?_) h
    cases x with
    | send delay c =>
      obtain ⟨hb, he⟩ := send_rest a.stream delay c
      simp only [step]
      rw [hb, he]
      exact ha r hr
    | drop => exact ha r hr
    | await m timeout =>
      have hw := Stream.await_settles a.stream m timeout
      rcases List.mem_append.1 hr with hr | hr
      · obtain ⟨hended, hbuffer⟩ := ha r hr
        obtain ⟨hnone, hsame⟩ := hw.ended (by rw [hended]; rfl)
        have hbytes := hw.bytes
        rw [hnone, hbuffer, List.flatMap_nil, List.append_nil, List.append_eq_nil_iff] at hbytes
        exact ⟨hsame.trans hended, hbytes.2⟩
      · obtain ⟨-, -, hbuffer, hended⟩ := (Stream.await_reports a.stream m timeout).endOfStream r
          (List.mem_singleton.1 hr).symm
        exact ⟨hended, hbuffer⟩

theorem brings_of_delivered {now clockEnd : Nat} {steps : List StreamStep} {cut : List Bytes} {text : String}
    (hcut : cut.flatten = Text.bytes text)
    (hall : (run (start now clockEnd) steps).delivered = cut.map .data ++ [.eof]) :
    Brings text.toList (run (start now clockEnd) steps).received := by
  have hbytes : (cut.map Chunk.data ++ [Chunk.eof]).flatMap Chunk.bytes = Text.encode text.toList := by
    rw [List.flatMap_append, List.flatMap_map, ← Text.bytes, ← hcut]
    simp [Chunk.bytes]
  rw [delivered] at hall
  refine ⟨?_, fun x hx hend => ?_⟩
  · rw [Receipt.flatMap_bytes, ← hbytes, ← hall, List.flatMap_append]
    exact List.prefix_append _ _
  · -- the chunk that brings the end is the last one; the sender's going is noticed when nothing is left
    have hnone : (run (start now clockEnd) steps).stream.arrivals.map (·.chunk) = [] := by
      cases x with
      | hangup => rw [(run_hangup (fun h => absurd h List.not_mem_nil) steps hx).2, List.map_nil]
      | chunk c =>
        have hc : Chunk.eof ∈ (run (start now clockEnd) steps).received.filterMap Receipt.chunk? := by
          cases c with
          | eof => exact List.mem_filterMap.2 ⟨_, hx, rfl⟩
          | data bs => cases hend
          | fault message => cases hend
        rcases List.prefix_concat_iff.1 ⟨_, hall⟩ with hsame | hbefore
        · rw [hsame] at hall
          exact List.append_cancel_left (hall.trans (List.append_nil _).symm)
        · obtain ⟨bs, -, hbs⟩ := List.mem_map.1 (hbefore.subset hc)
          cases hbs
    rw [hnone, List.append_nil] at hall
    rw [Receipt.flatMap_bytes, hall, hbytes]

/-- **Characters survive every cut.**  A text is sent in chunks, cut anywhere, and then the end, and delivered at any
times; waits for literal prompts, none of them empty, receive it with any timeouts.  If one of them reports the end,
what the waits hand out is, in order, the text, and no wait hands out a replacement character that is not in the
text. -/
theorem text_survives_cuts {now clockEnd : Nat} {text : String} {cut : List Bytes}
    (hcut : cut.flatten = Text.bytes text) {steps : List StreamStep} (hsteps : Literal steps)
    (hall : (run (start now clockEnd) steps).delivered = cut.map .data ++ [.eof])
    {r : Bytes} (hend : .endOfStream r ∈ (run (start now clockEnd) steps).outcomes) :
    String.join ((run (start now clockEnd) steps).outcomes.map Outcome.text) = text ∧
    ∀ o ∈ (run (start now clockEnd) steps).outcomes,
      Text.replacement ∈ o.text.toList → Text.replacement ∈ text.toList := by
  have hbrings := brings_of_delivered hcut hall
  have hfaithful := run_faithful (start_balanced now clockEnd) hsteps hbrings (by nofun)
  have hb := run_balanced (start_balanced now clockEnd) steps
  obtain ⟨hended, hempty⟩ := run_endOfStream (by nofun) steps hend
  obtain ⟨x, hx, hxend⟩ := Receipt.Orderly.exists_end (hended ▸ hb.orderly)
  have hwhole : Text.encode ((run (start now clockEnd) steps).outcomes.flatMap fun o => o.text.toList) =
      Text.encode text.toList := by
    rw [← flatMap_bytes_of_faithful hfaithful, ← hbrings.2 x hx hxend, ← hb.bytes, hempty, List.append_nil]
  have htext : ((run (start now clockEnd) steps).outcomes.flatMap fun o => o.text.toList) = text.toList := by
    rw [← Text.decode_encode text.toList, ← hwhole, Text.decode_encode]
  refine ⟨?_, fun o ho hr => ?_⟩
  · rw [← String.toList_inj, ← htext, String.toList_join, List.flatMap_map]
  · rw [← htext]
    exact List.mem_flatMap.2 ⟨o, ho, hr⟩

/-- A character whose two bytes arrive apart, with a wait between them that is given up. -/
theorem text_survives_cut_in_character :
    let begun := start 0 60000000000
    let steps : List StreamStep :=
      [.send 0 (.data [0x3E, 0xC3]), .await (.literal [">"]) (.seconds 1), .await (.literal [">"]) (.seconds 1),
        .send 0 (.data [0xA9]), .send 0 .eof, .await (.literal [">", "é>"]) .never]
    (run begun steps).outcomes = [.taken [] [0x3E] 0, .timedOut [0xC3], .endOfStream [0xC3, 0xA9]] ∧
    String.join ((run begun steps).outcomes.map Outcome.text) = ">é" := by
  intro begun steps
  have houtcomes : (run begun steps).outcomes = [.taken [] [0x3E] 0, .timedOut [0xC3], .endOfStream [0xC3, 0xA9]] := by
    decide
  have hcut : [[0x3E, 0xC3], [0xA9]].flatten = Text.bytes ">é" := by decide
  have hliteral : Literal steps := by
    intro m timeout h
    simp only [steps, List.mem_cons, List.not_mem_nil, or_false, StreamStep.await.injEq, reduceCtorEq, false_or] at h
    rcases h with ⟨rfl, -⟩ | ⟨rfl, -⟩ | ⟨rfl, -⟩
    · exact ⟨_, rfl, by decide⟩
    · exact ⟨_, rfl, by decide⟩
    · exact ⟨_, rfl, by decide⟩
  exact ⟨houtcomes,
    (text_survives_cuts hcut hliteral (by decide) (r := [0xC3, 0xA9]) (by rw [houtcomes]; decide)).1⟩

end Account

end Transcripts
