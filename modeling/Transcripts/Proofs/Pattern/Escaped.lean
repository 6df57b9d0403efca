import Transcripts.Pattern.Regex
import Transcripts.Proofs.Pattern.Explored
import Transcripts.Proofs.Pattern.Opening
import Transcripts.Proofs.Pattern.Output

/-!
# The pattern of a text

A text, escaped, is read as its characters one after the other (`read_escapeChars`).  Such a sequence takes the bytes of
the text and nothing else, in any bytes (`takesAll_charNodes`), and its program has one step for each of them.  So the
pattern compiles unless the text is too long (`output_escape`).
-/
namespace Transcripts.Pattern

open Transcripts.Text (Bytes)

/-! ## Reading -/

theorem escapeChars_cons (c : Char) (cs : List Char) :
    escapeChars (c :: cs) = (if isMeta c then ['\\', c] else [c]) ++ escapeChars cs := rfl

theorem length_le_escapeChars (cs : List Char) : cs.length ≤ (escapeChars cs).length := by
  induction cs with
  | nil => exact Nat.le_refl 0
  | cons c cs ih =>
    rw [escapeChars_cons, List.length_append, List.length_cons]
    split <;> simp only [List.length_cons, List.length_nil] <;> omega

theorem isPlain_of_not_isMeta {c : Char} (h : isMeta c = false) : isPlain c = true := by
  simp only [isMeta, isPlain, List.contains_eq_mem, decide_eq_false_iff_not, List.mem_cons, not_or, Bool.not_eq_true',
    List.not_mem_nil, not_false_eq_true, and_true] at h ⊢
  simp only [h, not_false_eq_true, and_self]

/-- A backslash takes its meaning from a character. -/
theorem Reader.step_escape {c : Char} (h : isMeta c = true) (r : Reader) (cs : List Char) :
    r.step '\\' (c :: cs) = .ok (r.push (.char ⟨c, false⟩) cs) := by
  have hread : readEscape r.verbose (c :: cs) = .ok (.char ⟨c, false⟩, cs) := by
    simp only [isMeta, List.contains_eq_mem, decide_eq_true_eq, List.mem_cons, List.not_mem_nil, or_false] at h
    rcases h with rfl | rfl | rfl | rfl | rfl | rfl | rfl | rfl | rfl | rfl | rfl | rfl | rfl | rfl | rfl | rfl | rfl | rfl
      <;> rfl
  simp only [step, hread, bind, Except.bind]
  rfl

/-- One character of a text, escaped or not, is one construct. -/
theorem Reader.run_escaped {c : Char} {cs : List Char} {r : Reader} (hv : r.verbose = false)
    (hr : r.rest = escapeChars (c :: cs)) (fuel : Nat) :
    r.run (fuel + 1) = (r.push (.char ⟨c, false⟩) (escapeChars cs)).run fuel := by
  rw [run, hv, skipIgnored, if_neg Bool.false_ne_true, hr, escapeChars_cons]
  cases hmeta : isMeta c with
  | true =>
    simp only [if_true, List.cons_append, List.nil_append, step_escape hmeta]
    rfl
  | false =>
    simp only [Bool.false_eq_true, if_false, List.cons_append, List.nil_append, step_plain (isPlain_of_not_isMeta hmeta)]
    rfl

theorem Reader.run_escapeChars {cs : List Char} {r : Reader} (hv : r.verbose = false) (hr : r.rest = escapeChars cs)
    {fuel : Nat} (hfuel : cs.length < fuel) :
    r.run fuel = .ok { r with rest := [], items := (spelled cs).reverse ++ r.items } := by
  induction fuel generalizing r cs with
  | zero => cases hfuel
  | succ fuel ih =>
    cases cs with
    | nil =>
      rw [run, hv, skipIgnored, if_neg Bool.false_ne_true, hr]
      rfl
    | cons c cs =>
      have hrest : cs.length < fuel := Nat.lt_of_succ_lt_succ hfuel
      rw [run_escaped hv hr, ih (r := r.push (.char ⟨c, false⟩) (escapeChars cs)) hv rfl hrest]
      simp only [push, spelled, List.map_cons, List.reverse_cons, List.append_assoc, List.singleton_append]

theorem Ast.depth_spelled (cs : List Char) (spine : Spine) : (Ast.concat (spelled cs)).depth spine ≤ 1 := by
  have hseq (cs : List Char) : (Ast.concat (spelled cs)).depth .seq = 0 := by
    induction cs with
    | nil => rfl
    | cons c cs ih =>
      cases cs with
      | nil => rfl
      | cons d cs =>
        change (Ast.seq (.char ⟨c, false⟩) (Ast.concat (spelled (d :: cs)))).depth .seq = 0
        rw [depth, ih]
        rfl
  cases cs with
  | nil => exact Nat.zero_le 1
  | cons c cs =>
    cases cs with
    | nil => exact Nat.zero_le 1
    | cons d cs =>
      change (Ast.seq (.char ⟨c, false⟩) (Ast.concat (spelled (d :: cs)))).depth spine ≤ 1
      rw [depth, hseq]
      simp only [depth]
      split <;> omega

/-- **An escaped text** is read as its characters, whatever they mean in patterns. -/
theorem read_escapeChars (cs : List Char) : read (escapeChars cs) = .ok (Ast.concat (spelled cs)) := by
  have hrun := Reader.run_escapeChars (r := ⟨escapeChars cs, false, [], [], [], 0, []⟩) rfl rfl
    (Nat.lt_succ_of_le (length_le_escapeChars cs))
  have hdepth : ¬ (Ast.concat (spelled cs)).depth .none > nestingLimit :=
    Nat.not_lt.2 (Nat.le_trans (Ast.depth_spelled cs .none) (by decide))
  rw [read, hrun]
  simp only [bind, Except.bind, Reader.body, List.append_nil, List.reverse_reverse, List.reverse_singleton, Ast.choice,
    List.isEmpty_nil, Bool.not_true, Bool.false_eq_true, if_false, if_neg hdepth]
  rfl

/-! ## Meaning -/

/-- The nodes of some characters. -/
def charNodes (cs : List Char) : List Node := cs.map charNode

namespace Node

theorem members_ofMembers_charNodes (cs : List Char) : (ofMembers (charNodes cs)).members = charNodes cs := by
  induction cs with
  | nil => rfl
  | cons c cs ih =>
    cases cs with
    | nil => rfl
    | cons d cs => exact congrArg (charNode c :: ·) ih

theorem branches_ofMembers_charNodes (cs : List Char) :
    (ofMembers (charNodes cs)).branches = [ofMembers (charNodes cs)] := by
  match cs with
  | [] => rfl
  | [c] => rfl
  | c :: d :: cs => rfl

theorem concat_charNodes (c : Char) (cs : List Char) :
    (charNode c).concat (ofMembers (charNodes cs)) = ofMembers (charNodes (c :: cs)) := by
  rw [concat, members_ofMembers_charNodes]
  rfl

end Node

/-- Characters mean what they are where the flags leave them alone. -/
theorem alternatives_spelled {mode : Mode} {fs : Flags} (hfs : fs.Exact) (cs : List Char) :
    (Ast.concat (spelled cs)).alternatives mode fs = .ok ([Node.ofMembers (charNodes cs)], fs) := by
  have hchar (c : Char) : (Ast.char ⟨c, false⟩).alternatives mode fs = .ok ([charNode c], fs) := by
    simp only [Ast.alternatives, literalNode_exact hfs, bind, Except.bind]
    rfl
  induction cs with
  | nil => rfl
  | cons c cs ih =>
    cases cs with
    | nil => exact hchar c
    | cons d cs =>
      change (Ast.seq (.char ⟨c, false⟩) (Ast.concat (spelled (d :: cs)))).alternatives mode fs = _
      refine (Except.bind_of_eq_ok (hchar c)).trans ((Except.bind_of_eq_ok ih).trans ?_)
      simp only [Node.choice_singleton (Node.branches_ofMembers_charNodes _),
        Node.choice_singleton (n := charNode c) rfl, Node.concat_charNodes]
      rfl

/-! ## What is taken -/

theorem charNode_takes {input : Input} {c : Char} {i j : Nat} :
    (charNode c).Takes input i j ↔
      String.utf8EncodeChar c <+: input.toList.drop i ∧ j = i + (String.utf8EncodeChar c).length := by
  constructor
  · rintro ⟨d, k, hd, hmem, rfl⟩
    obtain ⟨r, hr, hle, hge⟩ := Unicode.Ranges.mem_iff.1 hmem
    obtain rfl := List.mem_singleton.1 hr
    obtain rfl : d = c := Char.toNat_inj.1 (Nat.le_antisymm hge hle)
    obtain ⟨hhere, rfl⟩ := Text.charAt_eq_some_iff.1 hd
    exact ⟨hhere, rfl⟩
  · rintro ⟨hhere, rfl⟩
    exact ⟨c, _, Text.charAt_eq_some_iff.2 ⟨hhere, rfl⟩,
      Unicode.Ranges.mem_iff.2 ⟨_, List.mem_singleton_self _, Nat.le_refl _, Nat.le_refl _⟩, rfl⟩

/-- **Characters in a row take their bytes**, wherever these stand, and nothing else. -/
theorem takesAll_charNodes {input : Input} {cs : List Char} {i j : Nat} :
    Node.TakesAll input (charNodes cs) i j ↔
      Text.encode cs <+: input.toList.drop i ∧ j = i + (Text.encode cs).length := by
  induction cs generalizing i with
  | nil => simp [charNodes, Node.TakesAll, eq_comm]
  | cons c cs ih =>
    change (∃ k, (charNode c).Takes input i k ∧ Node.TakesAll input (charNodes cs) k j) ↔ _
    simp only [charNode_takes, ih, Text.encode_cons, List.length_append]
    constructor
    · rintro ⟨k, ⟨⟨rest, hrest⟩, rfl⟩, hcs, rfl⟩
      rw [← List.drop_drop, ← hrest, List.drop_left] at hcs
      exact ⟨hrest ▸ (List.prefix_append_right_inj _).2 hcs, Nat.add_assoc _ _ _⟩
    · rintro ⟨⟨rest, hrest⟩, rfl⟩
      rw [List.append_assoc] at hrest
      refine ⟨_, ⟨⟨_, hrest⟩, rfl⟩, ?_, (Nat.add_assoc _ _ _).symm⟩
      rw [← List.drop_drop, ← hrest, List.drop_left]
      exact List.prefix_append _ rest

/-! ## Size -/

/-- A plan that builds so many steps that hold nothing, and goes on from its end. -/
def Plan.Builds (p : Plan) (n : Nat) : Prop := (∀ t : Tally, p.build t = ⟨t.steps + n, t.extra⟩) ∧ p.exits = 0

theorem Plan.Builds.seq {p q : Plan} {m n : Nat} (backward : Bool) (hp : p.Builds m) (hq : q.Builds n) :
    (Plan.seq backward p q).Builds (m + n) := by
  obtain ⟨hp, hpe⟩ := hp
  obtain ⟨hq, hqe⟩ := hq
  cases backward with
  | true =>
    refine ⟨fun t => ?_, hpe⟩
    simp only [Plan.seq, followedBy, if_true, hp, hq, hqe, Tally.ways]
    rw [Nat.add_assoc, Nat.add_comm n m]
    rfl
  | false =>
    refine ⟨fun t => ?_, hqe⟩
    simp only [Plan.seq, followedBy, Bool.false_eq_true, if_false, hp, hq, hpe, Tally.ways]
    rw [Nat.add_assoc]
    rfl

theorem plans_charNode (backward : Bool) (c : Char) :
    ∃ p, (charNode c).plans backward = [p] ∧ p.Builds (String.utf8EncodeChar c).length := by
  refine ⟨Plan.ofBytes (String.utf8EncodeChar c), ?_, fun t => rfl, rfl⟩
  simp only [charNode, Node.plans, Plan.ofChars, if_true, Char.ofNat_toNat]

/-- A program for characters in a row has one step for each byte. -/
theorem plans_charNodes (backward : Bool) {cs : List Char} (hcs : cs ≠ []) :
    ∃ p, (Node.ofMembers (charNodes cs)).plans backward = [p] ∧ p.Builds (Text.encode cs).length := by
  induction cs with
  | nil => exact absurd rfl hcs
  | cons c cs ih =>
    obtain ⟨p, hp, hbuilds⟩ := plans_charNode backward c
    cases cs with
    | nil => exact ⟨p, hp, by rwa [Text.encode_cons, Text.encode_nil, List.append_nil]⟩
    | cons d cs =>
      obtain ⟨q, hq, hrest⟩ := ih (List.cons_ne_nil d cs)
      refine ⟨Plan.seq backward p q, ?_, ?_⟩
      · change (Node.seq (charNode c) (Node.ofMembers (charNodes (d :: cs)))).plans backward = _
        rw [Node.plans, hp, hq]
        rfl
      · rw [Text.encode_cons, List.length_append]
        exact hbuilds.seq backward hrest

theorem startsText_charNodes (cs : List Char) : (Node.ofMembers (charNodes cs)).startsText = false := by
  match cs with
  | [] => rfl
  | [c] => rfl
  | c :: d :: cs => rfl

theorem endsText_charNodes (cs : List Char) : (Node.ofMembers (charNodes cs)).endsText = false := by
  induction cs with
  | nil => rfl
  | cons c cs ih =>
    cases cs with
    | nil => rfl
    | cons d cs =>
      change ((Node.ofMembers (charNodes (d :: cs))).endsText ||
        ((Node.ofMembers (charNodes (d :: cs))).onlyEmpty && false)) = false
      rw [ih, Bool.and_false, Bool.or_false]

/-- **The size of a text's program.**  It is too large just if the text is too long. -/
theorem isTooLarge_charNodes (cs : List Char) :
    (Node.ofMembers (charNodes cs)).isTooLarge = true ↔ longestText < (Text.encode cs).length := by
  cases cs with
  | nil => decide
  | cons c cs =>
    have hsize (backward : Bool) : (Node.ofMembers (charNodes (c :: cs))).size backward =
        if backward then 32 * ((Text.encode (c :: cs)).length + 4) + 16
        else 32 * ((Text.encode (c :: cs)).length + 6) + 16 := by
      obtain ⟨p, hp, hbuild, hexits⟩ := plans_charNodes backward (List.cons_ne_nil c cs)
      rw [Node.size, hp, startsText_charNodes, endsText_charNodes]
      cases backward <;>
        simp only [Plan.choice, hbuild, hexits, Tally.size, Tally.ways, Tally.add, Bool.false_eq_true, if_false, if_true] <;>
        omega
    simp only [Node.isTooLarge, hsize, Bool.or_eq_true, decide_eq_true_eq, Bool.false_eq_true, if_false, if_true,
      Tally.limit, longestText]
    omega

/-! ## The pattern -/

theorem read_escape (text : String) : read (escape text).toList = .ok (Ast.concat (spelled text.toList)) := by
  rw [escape, String.toList_ofList, read_escapeChars]

/-- The meaning of the characters of a text are these characters in a row, unless there are too many. -/
theorem node_spelled (text : String) :
    (Ast.concat (spelled text.toList)).node .bytes { dotAll := true } =
      if (Text.bytes text).length ≤ longestText then .ok (Node.ofMembers (charNodes text.toList))
      else .error .tooLarge := by
  have hexact : Flags.Exact { dotAll := true } := ⟨rfl, rfl⟩
  have hsize : (Node.ofMembers (charNodes text.toList)).isTooLarge = true ↔ longestText < (Text.bytes text).length :=
    isTooLarge_charNodes text.toList
  unfold Ast.node
  simp only [alternatives_spelled hexact, bind, Except.bind,
    Node.choice_singleton (Node.branches_ofMembers_charNodes _)]
  by_cases hlong : (Text.bytes text).length ≤ longestText
  · have hsmall : (Node.ofMembers (charNodes text.toList)).isTooLarge = false := by
      rw [← Bool.not_eq_true, hsize]
      exact Nat.not_lt.2 hlong
    rw [if_pos hlong, hsmall]
    rfl
  · rw [if_neg hlong, hsize.2 (Nat.lt_of_not_le hlong)]
    rfl

namespace Regex

/-- **The pattern of a text** compiles, unless the text is too long. -/
theorem output_escape (text : String) :
    output (escape text) =
      if (Text.bytes text).length ≤ longestText then .ok ⟨.bytes, (Node.ofMembers (charNodes text.toList)).program⟩
      else .error .tooLarge := by
  unfold output compile
  refine (Except.bind_of_eq_ok (read_escape text)).trans ?_
  rw [node_spelled]
  split <;> rfl

theorem output_escape_ok {text : String} :
    (∃ r, output (escape text) = .ok r) ↔ (Text.bytes text).length ≤ longestText := by
  rw [output_escape]
  split
  · exact ⟨fun _ => ‹_›, fun _ => ⟨_, rfl⟩⟩
  · exact ⟨nofun, fun h => absurd h ‹_›⟩

theorem output_escape_limit (text : String) : FailsOnlyByLimit (output (escape text)) := by
  intro f hf
  rw [output_escape] at hf
  split at hf <;> cases hf
  exact .inr rfl

/-- **The pattern of a text matches** where the text stands, and there only. -/
theorem matches_escape {text : String} (h : (Text.bytes text).length ≤ longestText) {bs : Bytes} {i j : Nat} :
    Matches (escape text) bs i j ↔
      i ≤ bs.length ∧ Text.bytes text <+: bs.drop i ∧ j = i + (Text.bytes text).length := by
  have hnode : (read (escape text).toList >>= Ast.node .bytes { dotAll := true }) =
      .ok (Node.ofMembers (charNodes text.toList)) :=
    (Except.bind_of_eq_ok (read_escape text)).trans ((node_spelled text).trans (if_pos h))
  unfold Matches
  rw [hnode]
  simp only [Except.ok.injEq, exists_eq_left', Node.ofMembers_takes, takesAll_charNodes, Input.ofBytes]
  rfl

end Regex

end Transcripts.Pattern
