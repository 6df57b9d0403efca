import Transcripts.Pattern.Regex
import Transcripts.Proofs.Pattern.Built

/-!
# How large a program gets

The program of a pattern is no larger than the pattern, up to factors for the encodings of its characters and for the
counts of its repetitions.  The cost of a node says how large its program can get (`Node.size_le`), so a pattern that
costs little compiles (`Regex.compile_ok`), and nothing has to be built to know it.
-/
namespace Transcripts

open Transcripts.Pattern (Regex)

namespace Pattern

open Transcripts.Unicode (Ranges)

/-! ## Plans -/

/-- The program that is built takes no more than `k`, and has room for the bytes of a literal in a tree. -/
structure Plan.Costs (p : Plan) (k : Nat) : Prop where
  size_le : ∀ t, (p.build t).size ≤ t.size + k
  literal_le : ∀ bs, p.literal = some bs → 80 * bs.length ≤ k

/-- Plans of a choice, with what is added for each of them. -/
inductive Plan.CostTogether : List Plan → Nat → Prop where
  | nil : CostTogether [] 0
  | cons {p : Plan} {ps : List Plan} {k n : Nat} : p.Costs k → CostTogether ps n → CostTogether (p :: ps) (k + 80 + n)

namespace Plan

variable {p q : Plan} {j k n : Nat}

theorem exits_le (p : Plan) : p.exits ≤ 1 := by
  unfold exits
  split <;> omega

namespace Costs

theorem mono (h : p.Costs k) (hk : k ≤ n) : p.Costs n :=
  ⟨fun t => Nat.le_trans (h.size_le t) (Nat.add_le_add_left hk _),
    fun bs hbs => Nat.le_trans (h.literal_le bs hbs) hk⟩

theorem one : Plan.one.Costs 32 := ⟨fun t => by simp [Plan.one], nofun⟩

theorem ofBytes (bs : List UInt8) : (Plan.ofBytes bs).Costs (80 * bs.length) := by
  refine ⟨fun t => ?_, fun _ h => ?_⟩
  · simp only [Plan.ofBytes, Tally.size]
    omega
  · cases h
    exact Nat.le_refl _

theorem ofSpans (n : Nat) : (Plan.ofSpans n).Costs (64 + 8 * n) := by
  refine ⟨fun t => ?_, nofun⟩
  simp only [Plan.ofSpans, Tally.size_add]
  omega

theorem ofChars (backward : Bool) (set : Ranges) :
    (Plan.ofChars backward set).Costs (320 + 8 * set.length + 160 * (encodedSet set).length) := by
  have hwide : (Plan.ofChars.wide backward set).Costs (320 + 8 * set.length + 160 * (encodedSet set).length) := by
    unfold ofChars.wide
    split
    · exact (ofSpans _).mono (by omega)
    · refine ⟨fun t => ?_, nofun⟩
      cases backward with
      | true =>
        have hlen : ∀ spans ∈ encodedSet set, spans.length ≤ 4 := fun _ h => length_of_mem_encodedSet h
        have := backwardSet_size_le hlen t
        simp only [if_true]
        omega
      | false =>
        have := forwardSet_size_le (encodedSet set) t
        simp only [Bool.false_eq_true, if_false]
        omega
  unfold Plan.ofChars
  split
  · split
    · refine (ofBytes _).mono ?_
      rename_i lo hi _
      have := Char.utf8Size_le_four (Char.ofNat lo)
      rw [String.length_utf8EncodeChar]
      omega
    · exact hwide
  · exact hwide

theorem ofByteSet (set : Ranges) : (Plan.ofByteSet set).Costs (80 + 8 * set.length) := by
  unfold Plan.ofByteSet
  split
  · split
    · exact (ofBytes _).mono (by simp)
    · exact (ofSpans _).mono (by simp)
  · exact (ofSpans _).mono (by omega)

theorem followedBy_size (hp : p.Costs j) (hq : q.Costs k) (t : Tally) :
    ((p.followedBy q).build t).size ≤ t.size + j + k + 4 := by
  have hfirst := hp.size_le t
  have hsecond := hq.size_le (p.build t)
  have := p.exits_le
  simp only [followedBy, Tally.size_ways]
  omega

theorem seq (backward : Bool) (hp : p.Costs j) (hq : q.Costs k) : (Plan.seq backward p q).Costs (j + k + 4) := by
  refine ⟨fun t => ?_, fun bs hbs => ?_⟩
  · cases backward with
    | true => exact Nat.le_trans (followedBy_size hq hp t) (by omega)
    | false => exact Nat.le_trans (followedBy_size hp hq t) (by omega)
  · simp only [Plan.seq] at hbs
    split at hbs
    · rename_i a b ha hb
      cases hbs
      have := hp.literal_le a ha
      have := hq.literal_le b hb
      rw [List.length_append]
      omega
    · cases hbs

theorem copies (h : p.Costs k) (n : Nat) : (p.copies n).Costs (32 + n * (k + 4)) := by
  cases n with
  | zero => exact one.mono (by omega)
  | succ n =>
    refine ⟨fun t => ?_, nofun⟩
    have hround (t : Tally) : ((p.build t).ways p.exits).size ≤ t.size + (k + 4) := by
      have := h.size_le t
      have := p.exits_le
      rw [Tally.size_ways]
      omega
    have hfirst := h.size_le t
    have hrounds := Tally.size_rounds_le hround n (p.build t)
    rw [Nat.succ_mul]
    exact Nat.le_trans hrounds (by omega)

/-- Up to `most` rounds of which `least` have to be: the others can be left out one by one. -/
theorem repeated_some (h : p.Costs k) (least most : Nat) (t : Tally) :
    (Tally.rounds (fun t => (p.build t.add).ways (2 + p.exits)) (most - least)
      (((p.copies least).build t).add.ways (if least = 0 then 0 else p.exits))).size ≤
      t.size + 68 + max least most * (k + 44) := by
  have hround (t : Tally) : ((p.build t.add).ways (2 + p.exits)).size ≤ t.size + (k + 44) := by
    have := h.size_le t.add
    have := p.exits_le
    rw [Tally.size_add] at *
    rw [Tally.size_ways]
    omega
  have hcopies := (h.copies least).size_le t
  have hfirst : least * (k + 4) ≤ least * (k + 44) := Nat.mul_le_mul_left _ (by omega)
  have hrounds := Tally.size_rounds_le hround (most - least)
    (((p.copies least).build t).add.ways (if least = 0 then 0 else p.exits))
  have hexits : (if least = 0 then 0 else p.exits) ≤ 1 := by
    split
    · omega
    · exact p.exits_le
  rw [Tally.size_ways, Tally.size_add] at hrounds
  have hmax : max least most = least + (most - least) := by omega
  rw [hmax, Nat.add_mul]
  omega

theorem repeated (h : p.Costs k) (least : Nat) (most : Option Nat) (reads : Bool) :
    (Plan.repeated least most reads p).Costs (128 + (max least (most.getD 0) + 1) * (k + 44)) := by
  have hexits := p.exits_le
  unfold Plan.repeated
  split
  · -- any number of rounds
    split <;> refine ⟨fun t => ?_, nofun⟩
    · have := h.size_le t.add
      simp at *
      omega
    · have := h.size_le t
      simp at *
      omega
  · refine ⟨fun t => ?_, nofun⟩
    have := h.size_le t
    simp at *
    omega
  · rename_i n _
    refine ⟨fun t => ?_, nofun⟩
    have hcopies := (h.copies n).size_le t
    have hlast := h.size_le ((p.copies n).build t)
    have hrounds : n * (k + 4) ≤ n * (k + 44) := Nat.mul_le_mul_left _ (by omega)
    simp only [Option.getD_none, Nat.max_zero, Nat.succ_mul, Tally.size_ways, Tally.size_add]
    omega
  · refine ⟨fun t => ?_, nofun⟩
    have := h.size_le t.add
    simp at *
    omega
  · rename_i m _
    rw [Option.getD_some, Nat.succ_mul]
    split
    · refine (h.copies least).mono ?_
      have hrounds : least * (k + 4) ≤ max least m * (k + 44) := Nat.mul_le_mul (Nat.le_max_left _ _) (by omega)
      omega
    · exact ⟨fun t => Nat.le_trans (h.repeated_some least m t) (by omega), nofun⟩

end Costs

namespace CostTogether

theorem single (h : p.Costs k) (hk : k + 80 ≤ n) : CostTogether [p] n := by
  have hn : n = n - 80 + 80 + 0 := by omega
  rw [hn]
  exact .cons (h.mono (by omega)) .nil

/-- The literals of a choice are no larger than the plans. -/
theorem weight_le {ps : List Plan} {literals : List (List UInt8)} (h : CostTogether ps n)
    (hl : ps.mapM Plan.literal = some literals) : 80 * weight literals ≤ n := by
  induction h generalizing literals with
  | nil =>
    cases hl
    exact Nat.le_refl _
  | cons hp hps ih =>
    rw [List.mapM_cons] at hl
    obtain ⟨l, hl₁, hl⟩ := Option.bind_eq_some_iff.1 hl
    obtain ⟨rest, hrest, hl⟩ := Option.bind_eq_some_iff.1 hl
    cases hl
    have := hp.literal_le l hl₁
    have := ih hrest
    rw [weight, List.map_cons, List.sum_cons, ← weight]
    omega

/-- Alternatives are built one after the other. -/
theorem foldl_le {ps : List Plan} (h : CostTogether ps n) (t : Tally) :
    (ps.foldl (fun t r => (r.build t).ways (1 + r.exits)) t).size ≤ t.size + n := by
  induction h generalizing t with
  | nil => exact Nat.le_refl _
  | @cons p ps k n hp hps ih =>
    have hfirst := hp.size_le t
    have hrest := ih ((p.build t).ways (1 + p.exits))
    have := p.exits_le
    rw [Tally.size_ways] at hrest
    rw [List.foldl_cons]
    omega

theorem choice (backward : Bool) {ps : List Plan} (h : CostTogether ps n) :
    (Plan.choice backward ps).Costs (n + 80) := by
  unfold Plan.choice
  split
  · cases h with
    | cons hp hps => exact hp.mono (by omega)
  · split
    · rename_i literals hl
      refine ⟨fun t => ?_, nofun⟩
      have hweight := h.weight_le hl
      have hreverse : weight (if backward then literals.map List.reverse else literals) = weight literals := by
        unfold weight
        split
        · rw [List.map_map]
          congr 1
          exact List.map_congr_left fun l _ => by simp
        · rfl
      refine Nat.le_trans (literalTree_size_le _ _ _) ?_
      rw [hreverse, Tally.size_add]
      omega
    · split
      · rename_i p q rest _ _
        cases h with
        | cons hp hps =>
          cases hps with
          | cons hq hrest =>
            refine ⟨fun t => ?_, nofun⟩
            have := hp.size_le t
            have := hq.size_le (p.build t)
            have := p.exits_le
            have := q.exits_le
            have hfold := hrest.foldl_le ((q.build (p.build t)).add.add.ways (2 + p.exits + q.exits))
            simp only [Tally.size_ways, Tally.size_add] at hfold
            refine Nat.le_trans hfold ?_
            omega
      · exact Costs.one.mono (by omega)

end CostTogether

end Plan

/-! ## Nodes -/

namespace Node

/-- A bound for the size of a node. -/
def cost : Node → Nat
  | .empty => 112
  | .char set => 400 + 8 * set.length + 160 * (encodedSet set).length
  | .byte set => 160 + 8 * set.length
  | .look _ => 112
  | .seq a b => a.cost + b.cost + 244
  | .alt a b => a.cost + b.cost + 160
  | .repetition least most _ sub => 208 + (max least (most.getD 0) + 1) * (sub.cost + 124)
  | .capture _ sub => sub.cost + 228

theorem plans_cost (backward : Bool) (n : Node) : Plan.CostTogether (n.plans backward) n.cost := by
  induction n with
  | empty => exact .cons .one .nil
  | char set => exact .single (.ofChars backward set) (by simp only [cost]; omega)
  | byte set => exact .single (.ofByteSet set) (by simp only [cost]; omega)
  | look l => exact .cons .one .nil
  | seq a b iha ihb =>
    exact .single (.seq backward (iha.choice backward) (ihb.choice backward)) (by simp only [cost]; omega)
  | alt a b iha ihb =>
    have hcost : (alt a b).cost = a.cost + 80 + 80 + b.cost := by
      simp only [cost]
      omega
    rw [hcost]
    exact .cons (iha.choice backward) ihb
  | repetition least most greedy sub ih =>
    have hsub : sub.cost + 80 + 44 = sub.cost + 124 := rfl
    exact .single ((ih.choice backward).repeated least most _) (by rw [hsub]; simp only [cost]; omega)
  | capture index sub ih =>
    have hsub := ih.choice backward
    cases backward with
    | true => exact .single ⟨hsub.size_le, nofun⟩ (by simp only [cost]; omega)
    | false =>
      have := (Plan.choice false (sub.plans false)).exits_le
      refine .single (k := sub.cost + 148) ⟨fun t => ?_, nofun⟩ (by simp only [cost]; omega)
      have := hsub.size_le t.add
      simp only [Tally.size_ways, Tally.size_add] at *
      omega

/-- **The size of a program** is bounded by the cost of its node. -/
theorem size_le (backward : Bool) (n : Node) : n.size backward ≤ n.cost + 292 := by
  have hbuild := ((plans_cost backward n).choice backward).size_le
  have hexits := (Plan.choice backward (n.plans backward)).exits_le
  have hskip (fixed : Bool) : (if fixed then .add {} else ⟨3, 16⟩ : Tally).size ≤ 112 := by cases fixed <;> decide
  unfold Node.size
  cases backward with
  | true =>
    have := hbuild (if n.endsText then .add {} else ⟨3, 16⟩)
    have := hskip n.endsText
    simp only [if_true, Tally.size_ways, Tally.size_add]
    omega
  | false =>
    have := hbuild (if n.startsText then .add {} else ⟨3, 16⟩ : Tally).add
    have := hskip n.startsText
    simp only [Bool.false_eq_true, if_false, Tally.size_ways, Tally.size_add] at *
    omega

/-- What costs little is small enough. -/
theorem isTooLarge_eq_false {n : Node} (h : n.cost + 292 ≤ Tally.limit) : n.isTooLarge = false := by
  have hforward := size_le false n
  have hbackward := size_le true n
  unfold isTooLarge
  simp only [Bool.or_eq_false_iff, decide_eq_false_iff_not, Nat.not_lt]
  omega

end Node

/-! ## Compiled patterns -/

/-- A pattern that costs little compiles. -/
theorem Regex.compile_eq {mode : Mode} {fs gs : Flags} {source : String} {a : Ast} {ns : List Node}
    (ha : read source.toList = .ok a) (hn : a.alternatives mode fs = .ok (ns, gs))
    (hcost : (Node.choice ns).cost + 292 ≤ Tally.limit) :
    compile mode fs source = .ok ⟨mode, (Node.choice ns).program⟩ := by
  have hlarge := Node.isTooLarge_eq_false hcost
  simp only [compile, ha, Ast.node, hn, bind, Except.bind, hlarge]
  rfl

theorem Regex.compile_ok {mode : Mode} {fs gs : Flags} {source : String} {a : Ast} {ns : List Node}
    (ha : read source.toList = .ok a) (hn : a.alternatives mode fs = .ok (ns, gs))
    (hcost : (Node.choice ns).cost + 292 ≤ Tally.limit) : ∃ r, compile mode fs source = .ok r :=
  ⟨_, compile_eq ha hn hcost⟩

end Pattern

end Transcripts
