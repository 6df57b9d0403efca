import Mathlib.Data.List.Forall2
import Transcripts.Proofs.Text.Boundary
import Transcripts.Proofs.Text.Occurrences

/-!
# Universal line ends

Splitting a text at the three terminators is splitting it at line feeds after all terminators were made line feeds
(`splitLines_eq_closedLines`).  The lines can be found in the bytes of the text as well: a scan that looks at one byte
after the other ends the open line at each terminator (`LineScan.step`).  What the lines found so far have to do with the
text is kept by every step (`Scanned.step`), so that all lines lie between characters and make up the text together with
their terminators (`splitLines_universal`).
-/
namespace Transcripts.Text

/-! ## Line feeds only -/

/-- A text with a line feed for each terminator: for a carriage return and a line feed first, then for each carriage
return that is left. -/
def unifyFeeds (cs : List Char) : List Char := replaceAll ['\r'] ['\n'] (replaceAll ['\r', '\n'] ['\n'] cs)

/-- Lines without the empty one behind a terminator at the very end. -/
def closedLines (lines : List (List Char)) : List (List Char) :=
  if lines.getLast? = some [] then lines.dropLast else lines

theorem closedLines_cons (line : List Char) {lines : List (List Char)} (h : lines ≠ []) :
    closedLines (line :: lines) = line :: closedLines lines := by
  obtain ⟨x, rest, rfl⟩ := List.exists_cons_of_ne_nil h
  rw [closedLines, closedLines, List.getLast?_cons_cons, List.dropLast_cons_cons]
  split <;> rfl

theorem unifyFeeds_pair (cs : List Char) : unifyFeeds ('\r' :: '\n' :: cs) = '\n' :: unifyFeeds cs := by
  have hpair : replaceAll ['\r', '\n'] ['\n'] (['\r', '\n'] ++ cs) = ['\n'] ++ replaceAll ['\r', '\n'] ['\n'] cs :=
    replaceAll_append (List.cons_ne_nil _ _) cs
  simp only [List.cons_append, List.nil_append] at hpair
  rw [unifyFeeds, hpair, replaceAll_singleton, List.map_cons, ← replaceAll_singleton]
  rfl

theorem unifyFeeds_cons {c : Char} {cs : List Char} (h : ∀ rest, c = '\r' → cs ≠ '\n' :: rest) :
    unifyFeeds (c :: cs) = (if c = '\r' then '\n' else c) :: unifyFeeds cs := by
  rw [unifyFeeds, replaceAll_cons, replaceAll_singleton, List.map_cons, ← replaceAll_singleton]
  · rfl
  · rintro ⟨rest, hrest⟩
    obtain ⟨rfl, rfl⟩ := List.cons.inj hrest
    exact h rest rfl rfl

/-- **Lines end where line feeds stand** once every terminator is one. -/
theorem splitLinesFrom_eq_closedLines (line cs : List Char) :
    splitLinesFrom line cs = closedLines (cutFrom ['\n'] 0 line (unifyFeeds cs)) := by
  have hfeed (line cs : List Char) :
      closedLines (cutFrom ['\n'] 0 line ('\n' :: cs)) = line.reverse :: closedLines (cutFrom ['\n'] 0 [] cs) := by
    rw [← closedLines_cons _ (cutFrom_ne_nil ['\n'] 0 [] cs), cutFrom, if_pos (by simp)]
    rfl
  have hother {c : Char} (hc : c ≠ '\n') (line cs : List Char) :
      cutFrom ['\n'] 0 line (c :: cs) = cutFrom ['\n'] 0 (c :: line) cs := by
    rw [cutFrom, if_neg (by simpa using hc.symm)]
  have hnil : unifyFeeds [] = [] := rfl
  fun_induction splitLinesFrom line cs with
  | case1 line hempty =>
    rw [List.isEmpty_iff.1 hempty, hnil]
    rfl
  | case2 line hne =>
    rw [hnil, cutFrom, closedLines, if_neg (by simpa using hne)]
  | case3 line cs ih => rw [ih, unifyFeeds_pair, hfeed]
  | case4 line c cs hpair hc ih =>
    have hterm : (if c = '\r' then '\n' else c) = '\n' := by rcases hc with rfl | rfl <;> rfl
    rw [ih, unifyFeeds_cons hpair, hterm, hfeed]
  | case5 line c cs hpair hc ih =>
    obtain ⟨hfeed, hreturn⟩ := not_or.1 hc
    rw [ih, unifyFeeds_cons hpair, if_neg hreturn, hother hfeed]

theorem splitLines_eq_closedLines (cs : List Char) : splitLines cs = closedLines (splitOnChar '\n' (unifyFeeds cs)) :=
  splitLinesFrom_eq_closedLines [] cs

/-! ## Lines in bytes -/

/-- Where a line starts in some bytes, where it stops, and where its terminator does. -/
structure LineSpan where
  start : Nat
  stop : Nat
  next : Nat
deriving Repr, DecidableEq

/-- A scan of bytes (the state of the loop of `split_lines`): the lines that were found, where the open line starts, and
the place that is looked at. -/
structure LineScan where
  found : List LineSpan := []
  start : Nat := 0
  place : Nat := 0
deriving Repr, DecidableEq

namespace LineScan

/-- Ends the open line at a terminator of so many bytes. -/
def close (s : LineScan) (size : Nat) : LineScan :=
  ⟨s.found ++ [⟨s.start, s.place, s.place + size⟩], s.place + size, s.place + size⟩

/-- Looks at a byte, and behind a carriage return at the next one, too. -/
def step (bs : Bytes) (s : LineScan) : Option LineScan :=
  bs[s.place]?.map fun b =>
    if b = 0x0A then s.close 1
    else if b = 0x0D then s.close (if bs[s.place + 1]? = some 0x0A then 2 else 1)
    else { s with place := s.place + 1 }

theorem place_of_step {bs : Bytes} {s s' : LineScan} (h : s.step bs = some s') :
    s.place < s'.place ∧ s'.place ≤ bs.length := by
  obtain ⟨b, hb, rfl⟩ := Option.map_eq_some_iff.1 h
  have hplace := (List.getElem?_eq_some_iff.1 hb).1
  split
  · simp only [close]
    omega
  split
  · simp only [close]
    split
    · rename_i hnext
      have hplace' := (List.getElem?_eq_some_iff.1 hnext).1
      omega
    · omega
  · simp only
    omega

/-- Goes on to the end of the bytes. -/
def run (bs : Bytes) (s : LineScan) : LineScan :=
  match _h : s.step bs with
  | none => s
  | some s' => run bs s'
termination_by bs.length - s.place
decreasing_by
  have hplace := place_of_step _h
  omega

/-- The lines that were found, and the open one unless it is empty. -/
def lines (bs : Bytes) (s : LineScan) : List LineSpan :=
  if s.start < bs.length then s.found ++ [⟨s.start, bs.length, bs.length⟩] else s.found

end LineScan

/-- The lines of some bytes. -/
def lineSpans (bs : Bytes) : List LineSpan := (LineScan.run bs {}).lines bs

/-- A line and what ends it: nothing if the text ends there. -/
structure EndedLine where
  line : List Char
  terminator : List Char
deriving Repr, DecidableEq

def EndedLine.text (x : EndedLine) : List Char := x.line ++ x.terminator

/-- The text that ended lines make up. -/
def textOf (xs : List EndedLine) : List Char := xs.flatMap EndedLine.text

theorem textOf_concat (xs : List EndedLine) (x : EndedLine) : textOf (xs ++ [x]) = textOf xs ++ x.line ++ x.terminator := by
  simp [textOf, EndedLine.text]

/-- A line of a text and its terminator are what the bytes hold between some places, and these lie between characters. -/
def LineSpan.Holds (cs : List Char) (span : LineSpan) (x : EndedLine) : Prop :=
  ∃ before after, cs = before ++ x.text ++ after ∧ span.start = (encode before).length ∧
    span.stop = (encode (before ++ x.line)).length ∧ span.next = (encode (before ++ x.text)).length

/-! ## What a scan keeps -/

/-- The lines that a scan has found are those of the text in front of the open line, and in the open line it has met no
terminator. -/
structure Scanned (cs : List Char) (s : LineScan) (found : List EndedLine) (rest : List Char) : Prop where
  text : cs = textOf found ++ rest
  spans : List.Forall₂ (LineSpan.Holds cs) s.found found
  ended : ∀ x ∈ found, x.terminator ∈ terminators
  lines : splitLines cs = found.map EndedLine.line ++ splitLines rest
  start : s.start = (encode (textOf found)).length
  start_le : s.start ≤ s.place
  place_le : s.place ≤ (encode cs).length
  clear : ∀ i, s.start ≤ i → i < s.place → (encode cs)[i]? ≠ some 0x0A ∧ (encode cs)[i]? ≠ some 0x0D

theorem Scanned.init (cs : List Char) : Scanned cs {} [] cs where
  text := rfl
  spans := .nil
  ended := nofun
  lines := rfl
  start := rfl
  start_le := Nat.le_refl 0
  place_le := Nat.zero_le _
  clear := fun _ _ h => absurd h (Nat.not_lt_zero _)

/-- The byte of a basic character stands at the place of the character. -/
theorem getElem?_encode {c : Char} (hc : Basic c) (before after : List Char) :
    (encode (before ++ c :: after))[(encode before).length]? = some (UInt8.ofNat c.toNat) := by
  rw [encode_append, encode_cons, hc.encode_eq, List.getElem?_append_right (Nat.le_refl _), Nat.sub_self]
  rfl

/-- Bytes in which no terminator stands hold one line. -/
theorem oneLine_of_clear (before line after : List Char)
    (h : ∀ i, (encode before).length ≤ i → i < (encode (before ++ line)).length →
      (encode (before ++ (line ++ after)))[i]? ≠ some 0x0A ∧ (encode (before ++ (line ++ after)))[i]? ≠ some 0x0D) :
    OneLine line := by
  have hstands {c : Char} (hc : Basic c) (hmem : c ∈ line) : ∃ i, (encode before).length ≤ i ∧
      i < (encode (before ++ line)).length ∧ (encode (before ++ (line ++ after)))[i]? = some (UInt8.ofNat c.toNat) := by
    obtain ⟨front, back, rfl⟩ := List.append_of_mem hmem
    refine ⟨(encode (before ++ front)).length, ?_, ?_, ?_⟩
    · rw [encode_append, List.length_append]
      exact Nat.le_add_right _ _
    · rw [← List.append_assoc, encode_append (before ++ front), encode_cons, hc.encode_eq, List.length_append]
      simp
    · rw [List.append_assoc, List.cons_append, ← List.append_assoc]
      exact getElem?_encode hc (before ++ front) (back ++ after)
  constructor
  · intro hmem
    obtain ⟨i, hstart, hplace, hbyte⟩ := hstands (by decide) hmem
    exact (h i hstart hplace).1 hbyte
  · intro hmem
    obtain ⟨i, hstart, hplace, hbyte⟩ := hstands (by decide) hmem
    exact (h i hstart hplace).2 hbyte

variable {cs : List Char} {s s' : LineScan} {found : List EndedLine} {rest : List Char}

/-- The open line goes up to where a terminator stands. -/
theorem Scanned.openLine (h : Scanned cs s found rest) {sep : List Char} (hsep : sep ≠ [])
    (hhere : encode sep <+: (encode cs).drop s.place) : ∃ line after, rest = line ++ (sep ++ after) ∧ OneLine line ∧
      s.place = (encode (textOf found ++ line)).length := by
  obtain ⟨pre, after, hcs, hplace⟩ := exists_split_of_occurs hsep hhere
  rw [List.append_assoc] at hcs
  -- the terminator stands behind the lines that were found, since the scan has come at least so far
  obtain ⟨line, rfl⟩ : textOf found <+: pre :=
    isPrefix_of_encode_length_le ⟨rest, h.text.symm⟩ ⟨sep ++ after, hcs.symm⟩
      (by rw [← h.start, ← hplace]; exact h.start_le)
  have hrest : rest = line ++ (sep ++ after) :=
    List.append_cancel_left (h.text.symm.trans (by rw [hcs, List.append_assoc]))
  refine ⟨line, after, hrest, oneLine_of_clear (textOf found) line (sep ++ after) fun i hstart hstop => ?_, hplace⟩
  rw [← List.append_assoc, ← hcs]
  exact h.clear i (by rw [h.start]; exact hstart) (by rw [hplace]; exact hstop)

/-- At a terminator the open line ends. -/
theorem Scanned.close (h : Scanned cs s found rest) (sep : List Char) (hsep : sep ∈ terminators)
    (hhere : encode sep <+: (encode cs).drop s.place)
    (hnext : sep = ['\r'] → (encode cs)[s.place + 1]? ≠ some 0x0A) :
    ∃ x after, Scanned cs (s.close (encode sep).length) (found ++ [x]) after := by
  have hne : sep ≠ [] := List.ne_nil_of_length_pos (length_of_mem_terminators hsep).1
  obtain ⟨line, after, hrest, hline, hplace⟩ := h.openLine hne hhere
  have hcs : cs = textOf found ++ line ++ (sep ++ after) := by rw [h.text, hrest, List.append_assoc]
  have hsplit : splitLines rest = line :: splitLines after := by
    have hfeed : sep = ['\r'] → after.head? ≠ some '\n' := by
      intro hreturn hhead
      obtain ⟨more, rfl⟩ := List.head?_eq_some_iff.1 hhead
      refine hnext hreturn ?_
      have hbyte := getElem?_encode (c := '\n') (by decide) (textOf found ++ line ++ sep) more
      rwa [List.append_assoc _ sep, ← hcs, encode_append, List.length_append, ← hplace, hreturn] at hbyte
    rw [hrest, splitLines, splitLinesFrom_append hline, List.append_nil, splitLinesFrom_terminator hsep hfeed,
      List.reverse_reverse]
    rfl
  have hlength : (encode (textOf found ++ line ++ sep)).length = s.place + (encode sep).length := by
    rw [encode_append _ sep, List.length_append, ← hplace]
  have hholds : LineSpan.Holds cs ⟨s.start, s.place, s.place + (encode sep).length⟩ ⟨line, sep⟩ := by
    refine ⟨textOf found, after, ?_, h.start, hplace, ?_⟩
    · rw [hcs, EndedLine.text]
      simp only [List.append_assoc]
    · rw [EndedLine.text, ← List.append_assoc]
      exact hlength.symm
  refine ⟨⟨line, sep⟩, after, {
    text := by rw [textOf_concat, hcs, List.append_assoc _ sep]
    spans := List.rel_append h.spans (.cons hholds .nil)
    ended := fun x hx => ?_
    lines := by rw [h.lines, hsplit, List.map_append, List.append_assoc]; rfl
    start := by rw [textOf_concat]; exact hlength.symm
    start_le := Nat.le_refl _
    place_le := ?_
    clear := fun i hstart hplace => absurd hplace (Nat.not_lt.2 hstart) }⟩
  · rcases List.mem_append.1 hx with hx | hx
    · exact h.ended x hx
    · rw [List.mem_singleton.1 hx]
      exact hsep
  · rw [LineScan.close, ← hlength, hcs, ← List.append_assoc, encode_append _ after, List.length_append]
    exact Nat.le_add_right _ _

/-- **One step** finds a line and its terminator, or goes on in the open line. -/
theorem Scanned.step (h : Scanned cs s found rest) (hs : s.step (encode cs) = some s') :
    ∃ found' rest', Scanned cs s' found' rest' := by
  have hdrop {i : Nat} {b : UInt8} (hb : (encode cs)[i]? = some b) : (encode cs).drop i = b :: (encode cs).drop (i + 1) := by
    obtain ⟨hi, rfl⟩ := List.getElem?_eq_some_iff.1 hb
    exact List.drop_eq_getElem_cons hi
  obtain ⟨b, hb, rfl⟩ := Option.map_eq_some_iff.1 hs
  have hplace := (List.getElem?_eq_some_iff.1 hb).1
  split
  · rename_i hfeed
    subst hfeed
    obtain ⟨x, after, hclose⟩ := h.close ['\n'] (by decide) ⟨_, (hdrop hb).symm⟩ nofun
    exact ⟨_, after, hclose⟩
  split
  · rename_i hreturn
    subst hreturn
    split
    · rename_i hfeed
      have hboth : (encode cs).drop s.place = encode ['\r', '\n'] ++ (encode cs).drop (s.place + 2) := by
        rw [hdrop hb, hdrop hfeed]
        rfl
      obtain ⟨x, after, hclose⟩ := h.close ['\r', '\n'] (by decide) ⟨_, hboth.symm⟩ nofun
      exact ⟨_, after, hclose⟩
    · rename_i hfeed
      obtain ⟨x, after, hclose⟩ := h.close ['\r'] (by decide) ⟨_, (hdrop hb).symm⟩ fun _ => hfeed
      exact ⟨_, after, hclose⟩
  · rename_i hfeed hreturn
    refine ⟨found, rest, { h with start_le := Nat.le_succ_of_le h.start_le, place_le := hplace, clear := fun i hi hlt => ?_ }⟩
    rcases Nat.lt_succ_iff_lt_or_eq.1 hlt with hlt | rfl
    · exact h.clear i hi hlt
    · rw [hb, Ne, Option.some_inj, Ne, Option.some_inj]
      exact ⟨hfeed, hreturn⟩

/-- **A whole scan** keeps what its steps keep, and stops at the end of the bytes. -/
theorem Scanned.run (h : Scanned cs s found rest) :
    ∃ found' rest', Scanned cs (s.run (encode cs)) found' rest' ∧ (s.run (encode cs)).place = (encode cs).length := by
  generalize hbs : encode cs = bs
  fun_induction LineScan.run bs s generalizing found rest with
  | case1 s hend =>
    subst hbs
    rw [LineScan.step, Option.map_eq_none_iff, List.getElem?_eq_none_iff] at hend
    exact ⟨found, rest, h, Nat.le_antisymm h.place_le hend⟩
  | case2 s s' hs ih =>
    subst hbs
    obtain ⟨found', rest', h'⟩ := h.step hs
    exact ih h'

/-! ## All lines -/

/-- Every line ends in a terminator but for the last one, which is not empty if it does not. -/
def Ended (xs : List EndedLine) : Prop :=
  (∀ x ∈ xs.dropLast, x.terminator ∈ terminators) ∧
    ∀ x ∈ xs.getLast?, x.terminator ∈ terminators ∨ x.terminator = [] ∧ x.line ≠ []

/-- At the end of the bytes all lines were found but for the open one. -/
theorem Scanned.finish (h : Scanned cs s found rest) (hend : s.place = (encode cs).length) :
    ∃ xs, List.Forall₂ (LineSpan.Holds cs) (s.lines (encode cs)) xs ∧ xs.map EndedLine.line = splitLines cs ∧
      Ended xs ∧ textOf xs = cs := by
  have hrest : OneLine rest := by
    refine oneLine_of_clear (textOf found) rest [] fun i hstart hstop => ?_
    rw [List.append_nil, ← h.text]
    rw [← h.text] at hstop
    exact h.clear i (by rw [h.start]; exact hstart) (by rw [hend]; exact hstop)
  have hlength : (encode cs).length = s.start + (encode rest).length := by
    rw [h.start, ← List.length_append, ← encode_append, ← h.text]
  rw [LineScan.lines]
  by_cases hnil : rest = []
  · subst hnil
    rw [if_neg (by rw [hlength]; exact Nat.lt_irrefl _)]
    refine ⟨found, h.spans, by rw [h.lines]; simp [splitLines, splitLinesFrom], ⟨?_, ?_⟩, ?_⟩
    · exact fun x hx => h.ended x (List.dropLast_subset found hx)
    · exact fun x hx => .inl (h.ended x (List.mem_of_getLast? hx))
    · rw [h.text, List.append_nil]
  · have hpos : 0 < (encode rest).length := List.length_pos_iff.2 fun he => hnil (encode_eq_nil he)
    rw [if_pos (by omega)]
    have htext : cs = textOf found ++ (rest ++ []) ++ [] := by rw [List.append_nil, List.append_nil, ← h.text]
    refine ⟨found ++ [⟨rest, []⟩], ?_, ?_, ⟨?_, ?_⟩, ?_⟩
    · refine List.rel_append h.spans (.cons ⟨textOf found, [], htext, h.start, ?_, ?_⟩ .nil)
      · rw [← h.text]
      · rw [EndedLine.text, List.append_nil, ← h.text]
    · rw [h.lines, splitLines_of_oneLine hrest hnil, List.map_append]
      rfl
    · rw [List.dropLast_concat]
      exact h.ended
    · intro x hx
      rw [List.getLast?_concat, Option.mem_some_iff] at hx
      subst hx
      exact .inr ⟨rfl, hnil⟩
    · rw [textOf_concat, List.append_nil, ← h.text]

/-- **The lines of a text.**  They are those of the text in which each terminator was made a line feed, split at the line
feeds, less the empty one behind a terminator at the very end; no line holds a terminator.

A scan of the bytes of the text comes to their end, and all that it finds lies between characters: it finds these lines
and what ends them, which is a terminator, or nothing for a last line that is not empty; and together they are the
text. -/
theorem splitLines_universal (cs : List Char) :
    splitLines cs = closedLines (splitOnChar '\n' (unifyFeeds cs)) ∧ (∀ l ∈ splitLines cs, OneLine l) ∧
    (LineScan.run (encode cs) {}).place = (encode cs).length ∧
    ∃ xs, List.Forall₂ (LineSpan.Holds cs) (lineSpans (encode cs)) xs ∧ xs.map EndedLine.line = splitLines cs ∧
      Ended xs ∧ textOf xs = cs := by
  obtain ⟨found, rest, hscanned, hend⟩ := (Scanned.init cs).run
  exact ⟨splitLines_eq_closedLines cs, fun _ => splitLines_oneLine, hend, hscanned.finish hend⟩

example : splitLines "a\r\r\n\u00e9\rb\n".toList = ["a".toList, [], "\u00e9".toList, "b".toList] := by decide

end Transcripts.Text
