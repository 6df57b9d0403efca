import Transcripts.Proofs.Pattern.Explored
import Transcripts.Proofs.Pattern.Wrapped

/-!
# Lines that are recognized

The pattern that a trimmer makes of the pattern for a prompt recognizes a line just if the line is blank or holds
nothing but a match of the given pattern with blanks around it (`recognizes_iff`).  The match is taken in its place in
the line, and it begins and ends between two characters: only blanks can stand before it and behind it.
-/
namespace Transcripts

open Transcripts.Text (encode isBlank)

namespace Pattern

/-- A pattern for text can match what lies between two places of an input: one of its alternatives takes it. -/
def CanMatch (source : String) (input : Input) (i j : Nat) : Prop :=
  ∃ a ns fs, read source.toList = .ok a ∧ a.alternatives .text {} = .ok (ns, fs) ∧ ∃ n ∈ ns, n.Takes input i j

/-! ## Blanks -/

/-- Blanks, any number of them. -/
def Node.blanks : Node := .repetition 0 none true (.char Text.blankRanges)

section

variable {input : Input} {cs : List Char}

theorem blank_takes_iff {i j : Nat} :
    (Node.char Text.blankRanges).Takes (Input.ofBytes (encode cs)) i j ↔
      ∃ pre c post, cs = pre ++ c :: post ∧ isBlank c = true ∧ i = (encode pre).length ∧
        j = (encode (pre ++ [c])).length := by
  constructor
  · rintro ⟨c, len, hc, hblank, rfl⟩
    obtain ⟨pre, post, rfl, rfl, rfl⟩ := Text.charAt_encode_iff.1 hc
    refine ⟨pre, c, post, rfl, hblank, rfl, ?_⟩
    rw [Text.encode_append, List.length_append, Text.encode_cons, Text.encode_nil, List.append_nil]
  · rintro ⟨pre, c, post, rfl, hblank, rfl, rfl⟩
    refine ⟨c, _, Text.charAt_append pre c post, hblank, ?_⟩
    rw [Text.encode_append, List.length_append, Text.encode_cons, Text.encode_nil, List.append_nil]

/-- From a place between two characters, blanks take the text up to some place behind blank characters only. -/
theorem blanks_takes_iff {pre post : List Char} {j : Nat} :
    Node.blanks.Takes (Input.ofBytes (encode (pre ++ post))) (encode pre).length j ↔
      ∃ u rest, post = u ++ rest ∧ (∀ c ∈ u, isBlank c = true) ∧ j = (encode (pre ++ u)).length := by
  unfold Node.blanks
  rw [Node.unbounded_takes]
  simp only [Nat.zero_add]
  constructor
  · rintro ⟨n, hn⟩
    induction n generalizing pre post with
    | zero => exact ⟨[], post, rfl, nofun, by rw [List.append_nil]; exact hn.symm⟩
    | succ n ih =>
      obtain ⟨k, hk, hn⟩ := hn
      obtain ⟨pre', c, post', hcs, hblank, hpre, rfl⟩ := blank_takes_iff.1 hk
      obtain rfl : pre = pre' :=
        Text.eq_of_encode_length ⟨post, rfl⟩ ⟨c :: post', hcs.symm⟩ hpre
      obtain rfl : post = c :: post' := List.append_cancel_left hcs
      rw [List.append_cons] at hn
      obtain ⟨u, rest, rfl, hu, rfl⟩ := ih hn
      exact ⟨c :: u, rest, rfl, List.forall_mem_cons.2 ⟨hblank, hu⟩, by rw [List.append_cons pre c u]⟩
  · rintro ⟨u, rest, rfl, hu, rfl⟩
    refine ⟨u.length, ?_⟩
    induction u generalizing pre with
    | nil => rw [List.append_nil]; rfl
    | cons c u ih =>
      obtain ⟨hblank, hu⟩ := List.forall_mem_cons.1 hu
      refine ⟨_, blank_takes_iff.2 ⟨pre, c, u ++ rest, rfl, hblank, rfl, rfl⟩, ?_⟩
      have hrest := @ih (pre ++ [c]) hu
      rwa [← List.append_cons, ← List.append_cons] at hrest

theorem blanks_takes_start {j : Nat} :
    Node.blanks.Takes (Input.ofBytes (encode cs)) 0 j ↔
      ∃ u rest, cs = u ++ rest ∧ (∀ c ∈ u, isBlank c = true) ∧ j = (encode u).length :=
  @blanks_takes_iff [] cs j

/-- Blanks that reach the end of a text stand behind a place between two characters. -/
theorem blanks_takes_end {i : Nat} :
    Node.blanks.Takes (Input.ofBytes (encode cs)) i (encode cs).length ↔
      ∃ pre v, cs = pre ++ v ∧ (∀ c ∈ v, isBlank c = true) ∧ i = (encode pre).length := by
  constructor
  · intro h
    have hstart : ∃ pre post, cs = pre ++ post ∧ i = (encode pre).length := by
      obtain ⟨n, hn⟩ := Node.unbounded_takes.1 h
      rw [Nat.zero_add] at hn
      cases n with
      | zero => exact ⟨cs, [], (List.append_nil cs).symm, hn⟩
      | succ n =>
        obtain ⟨k, hk, -⟩ := hn
        obtain ⟨pre, c, post, rfl, -, rfl, -⟩ := blank_takes_iff.1 hk
        exact ⟨pre, c :: post, rfl, rfl⟩
    obtain ⟨pre, post, rfl, rfl⟩ := hstart
    obtain ⟨u, rest, rfl, hu, hlen⟩ := blanks_takes_iff.1 h
    rw [← List.append_assoc, Text.encode_append (pre ++ u), List.length_append] at hlen
    have hrest : encode rest = [] := List.eq_nil_of_length_eq_zero (by omega)
    rw [Text.encode_eq_nil hrest, List.append_nil]
    exact ⟨pre, u, rfl, hu, rfl⟩
  · rintro ⟨pre, v, rfl, hv, rfl⟩
    exact blanks_takes_iff.2 ⟨v, [], (List.append_nil v).symm, hv, rfl⟩

end

/-! ## The pattern for a line -/

section

variable {mode : Mode} {fs fs' fs'' : Flags} {a b : Ast} {xs ys : List Node}

theorem seq_alternatives (ha : a.alternatives mode fs = .ok (xs, fs')) (hb : b.alternatives mode fs' = .ok (ys, fs'')) :
    (Ast.seq a b).alternatives mode fs = .ok ([(Node.choice xs).concat (Node.choice ys)], fs'') :=
  (Except.bind_of_eq_ok ha).trans (Except.bind_of_eq_ok hb)

theorem alt_alternatives (ha : a.alternatives mode fs = .ok (xs, fs')) (hb : b.alternatives mode fs' = .ok (ys, fs'')) :
    (Ast.alt a b).alternatives mode fs = .ok (xs ++ ys, fs'') :=
  (Except.bind_of_eq_ok ha).trans (Except.bind_of_eq_ok hb)

theorem node_eq_choice (ha : a.alternatives mode fs = .ok (xs, fs')) {n : Node} (hn : a.node mode fs = .ok n) :
    n = Node.choice xs := by
  obtain ⟨⟨ys, fs''⟩, hys, hn⟩ := Except.bind_eq_ok hn
  cases ha.symm.trans hys
  simp only at hn
  split at hn
  · cases hn
  · cases hn
    rfl

/-- The flags that a pattern sets in a group are forgotten behind it. -/
theorem group_alternatives (ha : a.alternatives mode fs = .ok (xs, fs')) :
    (Ast.group [] a).alternatives mode fs = .ok ([Node.choice xs], fs) :=
  Except.bind_of_eq_ok ha

end

theorem blanks_alternatives : blanks.alternatives .text {} = .ok ([Node.blanks], {}) := rfl

theorem start_takes {input : Input} {i j : Nat} : (Node.look .start).Takes input i j ↔ i = 0 ∧ j = 0 := by
  simp only [Node.Takes, Look.holds, beq_iff_eq]
  omega

theorem finish_takes {input : Input} {i j : Nat} :
    (Node.look .finish).Takes input i j ↔ i = input.size ∧ j = input.size := by
  simp only [Node.Takes, Look.holds, beq_iff_eq]
  omega

/-- The pattern for a line takes a whole line: blanks, what the given pattern takes, and blanks, or blanks alone. -/
theorem lineAst_takes {a : Ast} {ns : List Node} {fs : Flags} (ha : a.alternatives .text {} = .ok (ns, fs)) {n : Node}
    (hn : (lineAst a).node .text {} = .ok n) {input : Input} {i j : Nat} :
    n.Takes input i j ↔ i = 0 ∧ j = input.size ∧
      ((∃ k l, Node.blanks.Takes input 0 k ∧ (∃ m ∈ ns, m.Takes input k l) ∧ Node.blanks.Takes input l input.size) ∨
        Node.blanks.Takes input 0 input.size) := by
  have hstart : (Ast.anchor .lineStart).alternatives .text {} = .ok ([.look .start], {}) := rfl
  have hfinish : (Ast.anchor .lineEnd).alternatives .text {} = .ok ([.look .finish], {}) := rfl
  have htail := seq_alternatives blanks_alternatives hfinish
  have hprompt := seq_alternatives hstart
    (seq_alternatives blanks_alternatives (seq_alternatives (group_alternatives ha) htail))
  have hline : (lineAst a).alternatives .text {} = _ := alt_alternatives hprompt (seq_alternatives hstart htail)
  rw [node_eq_choice hline hn]
  simp only [Node.choice_takes, Node.concat_takes, List.mem_append, List.mem_singleton, exists_eq_left, or_and_right,
    exists_or, start_takes, finish_takes]
  constructor
  · rintro (⟨_, ⟨rfl, rfl⟩, k, hk, l, hl, _, hblanks, rfl, rfl⟩ | ⟨_, ⟨rfl, rfl⟩, _, hblanks, rfl, rfl⟩)
    · exact ⟨rfl, rfl, .inl ⟨k, l, hk, hl, hblanks⟩⟩
    · exact ⟨rfl, rfl, .inr hblanks⟩
  · rintro ⟨rfl, rfl, ⟨k, l, hk, hl, hblanks⟩ | hblanks⟩
    · exact .inl ⟨0, ⟨rfl, rfl⟩, k, hk, l, hl, _, hblanks, rfl, rfl⟩
    · exact .inr ⟨0, ⟨rfl, rfl⟩, _, hblanks, rfl, rfl⟩

theorem isBoundary_zero (cs : List Char) : (Input.ofBytes (encode cs)).isBoundary 0 = true := by
  cases cs with
  | nil => rfl
  | cons c cs =>
    obtain ⟨b, rest, hc, hb, -⟩ := Text.utf8EncodeChar_shape c
    simp [Input.isBoundary, Input.ofBytes, Text.encode_cons, hc, hb]

end Pattern

namespace Trimmer

open Transcripts.Pattern

/-- The pattern for a line means what its syntax says: if it was compiled, the given pattern did not end in a comment. -/
theorem node_linePattern {pattern : String} {a : Ast} (ha : read pattern.toList = .ok a) {r : Regex}
    (hr : Regex.text (linePattern pattern) = .ok r) :
    ∃ n, (lineAst a).node .text {} = .ok n ∧ (read (linePattern pattern).toList >>= Ast.node .text {}) = .ok n := by
  obtain ⟨b, hb, hr⟩ := Except.bind_eq_ok hr
  obtain ⟨n, hn, -⟩ := Except.bind_eq_ok hr
  rcases read_linePattern ha with ⟨-, hread⟩ | ⟨-, -, hread⟩
  · rw [hread] at hb
    split at hb
    · cases hb
    · rename_i hdepth
      cases hb
      exact ⟨n, hn, by rw [hread, if_neg hdepth]; exact hn⟩
  · rw [hread] at hb
    cases hb

def BlankLine (line : List Char) : Prop := ∀ c ∈ line, isBlank c = true

/-- A line that holds nothing but a match of a pattern, with blanks around it. -/
def PromptLine (pattern : String) (line : List Char) : Prop :=
  ∃ u w v, line = u ++ w ++ v ∧ (∀ c ∈ u, isBlank c = true) ∧ (∀ c ∈ v, isBlank c = true) ∧
    CanMatch pattern (Input.ofBytes (encode line)) (encode u).length (encode (u ++ w)).length

/-- **A trimmer recognizes** the blank lines and the lines of a bare prompt. -/
theorem recognizes_iff {pattern : String} {r : Regex} {t : Trimmer} (hr : Regex.text pattern = .ok r)
    (ht : ofPattern pattern = .ok t) (line : List Char) :
    t.line.matchesIn line = true ↔ BlankLine line ∨ PromptLine pattern line := by
  obtain ⟨a, ha, hr⟩ := Except.bind_eq_ok hr
  obtain ⟨n, hn, -⟩ := Except.bind_eq_ok hr
  obtain ⟨⟨ns, fs⟩, hns, -⟩ := Except.bind_eq_ok hn
  obtain ⟨r', hr', rfl⟩ := Except.map_eq_ok ht
  obtain ⟨n', hline, hn'⟩ := node_linePattern ha hr'
  have hsize : (Input.ofBytes (encode line)).size = (encode line).length := List.size_toArray
  rw [Regex.matchesIn_iff hr' hn']
  simp only [lineAst_takes hns hline, hsize]
  constructor
  · rintro ⟨_, -, _, -, rfl, rfl, ⟨k, l, hk, ⟨m, hm, hmatch⟩, hblanks⟩ | hblanks⟩
    · right
      obtain ⟨u, rest, hu, hublank, rfl⟩ := blanks_takes_start.1 hk
      obtain ⟨pre, v, hpre, hvblank, rfl⟩ := blanks_takes_end.1 hblanks
      -- the match does not end before it starts, so what comes before it comes before its end
      have hle : (encode u).length ≤ (encode pre).length := hmatch.le
      obtain ⟨w, rfl⟩ := Text.isPrefix_of_encode_length_le ⟨rest, hu.symm⟩ ⟨v, hpre.symm⟩ hle
      exact ⟨u, w, v, hpre, hublank, hvblank, a, ns, fs, ha, hns, m, hm, hmatch⟩
    · left
      obtain ⟨u, rest, hu, hublank, hlen⟩ := blanks_takes_start.1 hblanks
      have hall : line = u := Text.eq_of_encode_length List.prefix_rfl ⟨rest, hu.symm⟩ hlen
      rw [hall]
      exact hublank
  · rintro (hblank | ⟨u, w, v, hline', hublank, hvblank, a', ns', fs', ha', hns', m, hm, hmatch⟩)
    · refine ⟨0, Nat.zero_le _, _, isBoundary_zero line, rfl, rfl, .inr ?_⟩
      exact blanks_takes_start.2 ⟨line, [], (List.append_nil line).symm, hblank, rfl⟩
    · cases ha.symm.trans ha'
      cases hns.symm.trans hns'
      refine ⟨0, Nat.zero_le _, _, isBoundary_zero line, rfl, rfl, .inl ⟨_, _, ?_, ⟨m, hm, hmatch⟩, ?_⟩⟩
      · exact blanks_takes_start.2
          ⟨u, w ++ v, by rw [hline', List.append_assoc], hublank, rfl⟩
      · exact blanks_takes_end.2 ⟨u ++ w, v, hline', hvblank, rfl⟩

end Trimmer

end Transcripts
