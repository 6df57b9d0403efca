import Mathlib.Algebra.BigOperators.Group.List.Basic
import Mathlib.Algebra.GroupWithZero.Nat
import Mathlib.Data.List.Perm.Subperm
import Mathlib.Data.List.SplitBy
import Transcripts.Pattern.Size

/-!
# Sizes of sets and of literals

How much is built for a set of characters and for a choice between literals.  Steps that are shared are counted each
time, so that no bound asks what the table of shared steps still knows.
-/
namespace Transcripts.Pattern

open Transcripts.Unicode (Ranges)

namespace Tally

@[simp] theorem size_add (t : Tally) (spans : Nat) : (t.add spans).size = t.size + 32 + 8 * spans := by
  simp only [add, size]
  omega

@[simp] theorem size_ways (t : Tally) (n : Nat) : (t.ways n).size = t.size + 4 * n := by
  simp only [ways, size]
  omega

/-- Rounds that add so much each. -/
theorem size_rounds_le {f : Tally → Tally} {k : Nat} (h : ∀ t, (f t).size ≤ t.size + k) (n : Nat) (t : Tally) :
    (rounds f n t).size ≤ t.size + n * k := by
  induction n generalizing t with
  | zero => simp [rounds]
  | succ n ih =>
    rw [rounds]
    split
    · omega
    · have hf := h t
      have hrest := ih (f t)
      rw [Nat.succ_mul]
      omega

end Tally

/-! ## Sets of characters -/

theorem SetTally.step_size_le (s : SetTally) (key : List UInt64) (spans : Nat) :
    (s.step key spans).2.tally.size ≤ s.tally.size + 32 + 8 * spans := by
  unfold step
  split
  · exact Nat.le_trans (Nat.le_add_right _ _) (Nat.le_add_right _ _)
  · exact Nat.le_of_eq (Tally.size_add _ _)

/-- An encoding is at most four bytes long. -/
theorem length_of_mem_encodedSet {set : Ranges} {spans : List ByteSpan} (h : spans ∈ encodedSet set) :
    spans.length ≤ 4 := by
  simp only [encodedSet, List.mem_flatMap] at h
  obtain ⟨_, -, _, -, h⟩ := h
  split at h
  · obtain ⟨part, -, rfl⟩ := List.mem_map.1 h
    rw [encodedPart, List.length_zip, String.length_utf8EncodeChar]
    exact Nat.le_trans (Nat.min_le_left _ _) (Char.utf8Size_le_four _)
  · cases h

/-- Builds one encoding from its last byte on, and the way to it. -/
def backwardEncoding (last : Nat) (s : SetTally) (spans : List ByteSpan) : SetTally :=
  let x := spans.foldl (fun (x : Nat × SetTally) (span : ByteSpan) =>
    x.2.step [x.1.toUInt64, span.1.toUInt64, span.2.toUInt64] 0) (last, s)
  { x.2 with tally := x.2.tally.ways 1 }

theorem backwardEncoding_size_le (last : Nat) (s : SetTally) (spans : List ByteSpan) :
    (backwardEncoding last s spans).tally.size ≤ s.tally.size + 32 * spans.length + 4 := by
  unfold backwardEncoding
  generalize hx : (last, s) = x
  have hs : x.2 = s := by rw [← hx]
  rw [← hs, Tally.size_ways]
  clear hx hs
  induction spans generalizing x with
  | nil => simp
  | cons span spans ih =>
    have hstep := x.2.step_size_le [x.1.toUInt64, span.1.toUInt64, span.2.toUInt64] 0
    have hrest := ih (x.2.step [x.1.toUInt64, span.1.toUInt64, span.2.toUInt64] 0)
    rw [List.foldl_cons, List.length_cons]
    omega

theorem backwardSet_size_le {encodings : List (List ByteSpan)} (h : ∀ spans ∈ encodings, spans.length ≤ 4)
    (t : Tally) : (backwardSet encodings t).size ≤ t.size + 64 + 132 * encodings.length := by
  have hfold (last : Nat) (s : SetTally) :
      (encodings.foldl (backwardEncoding last) s).tally.size ≤ s.tally.size + 132 * encodings.length := by
    induction encodings generalizing s with
    | nil => simp
    | cons spans encodings ih =>
      have hfirst := backwardEncoding_size_le last s spans
      have hlen := h spans List.mem_cons_self
      have hrest := ih (fun x hx => h x (List.mem_cons_of_mem _ hx)) (backwardEncoding last s spans)
      rw [List.foldl_cons, List.length_cons]
      omega
  refine Nat.le_trans (hfold _ _) (Nat.add_le_add_right (Nat.le_of_eq ?_) _)
  simp

/-- Builds what follows the first bytes of encodings that start alike, and adds these bytes to a key. -/
def forwardGroup (last depth : Nat) (x : List UInt64 × SetTally) (alike : List (List ByteSpan)) :
    List UInt64 × SetTally :=
  match alike.head? with
  | some ((lo, hi) :: _) =>
    let next := forwardStep last depth (alike.map List.tail) x.2
    (x.1 ++ [lo.toUInt64, hi.toUInt64, next.1.toUInt64], next.2)
  | _ => x

theorem forwardStep_succ (last depth : Nat) (encodings : List (List ByteSpan)) (s : SetTally) :
    forwardStep last (depth + 1) encodings s =
      let x := (encodings.splitBy fun a b => a.head? == b.head?).foldl (forwardGroup last depth) ([], s)
      if x.1.isEmpty then (last, x.2) else x.2.step x.1 (x.1.length / 3) := rfl

/-- What is added group by group. -/
theorem forwardGroups_le {last depth c : Nat}
    (h : ∀ encodings s, (forwardStep last depth encodings s).2.tally.size ≤ s.tally.size + c * encodings.length)
    (groups : List (List (List ByteSpan))) (x : List UInt64 × SetTally) :
    (groups.foldl (forwardGroup last depth) x).1.length ≤ x.1.length + 3 * groups.length ∧
      (groups.foldl (forwardGroup last depth) x).2.tally.size ≤ x.2.tally.size + c * groups.flatten.length := by
  induction groups generalizing x with
  | nil => simp
  | cons group groups ih =>
    have hgroup : (forwardGroup last depth x group).1.length ≤ x.1.length + 3 ∧
        (forwardGroup last depth x group).2.tally.size ≤ x.2.tally.size + c * group.length := by
      unfold forwardGroup
      split
      · have hnext := h (group.map List.tail) x.2
        rw [List.length_map] at hnext
        exact ⟨by simp, hnext⟩
      · exact ⟨Nat.le_add_right _ _, Nat.le_add_right _ _⟩
    obtain ⟨hkeys, hsizes⟩ := ih (forwardGroup last depth x group)
    rw [List.foldl_cons, List.length_cons, List.flatten_cons, List.length_append, Nat.mul_add c]
    omega

theorem length_le_flatten {α : Type} {groups : List (List α)} (h : [] ∉ groups) :
    groups.length ≤ groups.flatten.length := by
  induction groups with
  | nil => simp
  | cons group groups ih =>
    obtain ⟨hgroup, hgroups⟩ := not_or.1 (List.mem_cons.not.1 h)
    have hpos : 0 < group.length := List.length_pos_iff.2 (Ne.symm hgroup)
    have hrest := ih hgroups
    rw [List.length_cons, List.flatten_cons, List.length_append]
    omega

theorem forwardStep_size_le (last depth : Nat) (encodings : List (List ByteSpan)) (s : SetTally) :
    (forwardStep last depth encodings s).2.tally.size ≤ s.tally.size + 40 * depth * encodings.length := by
  induction depth generalizing encodings s with
  | zero => simp [forwardStep]
  | succ depth ih =>
    have hsplit : (encodings.splitBy fun a b => a.head? == b.head?).length ≤ encodings.length := by
      have := length_le_flatten (List.nil_notMem_splitBy (fun a b => a.head? == b.head?) encodings)
      rwa [List.flatten_splitBy] at this
    obtain ⟨hkey, hsize⟩ := forwardGroups_le ih (encodings.splitBy fun a b => a.head? == b.head?) ([], s)
    rw [List.flatten_splitBy] at hsize
    rw [forwardStep_succ, Nat.mul_succ, Nat.add_mul]
    simp only
    split
    · exact Nat.le_trans hsize (Nat.add_le_add_left (Nat.le_add_right _ _) _)
    · refine Nat.le_trans (SetTally.step_size_le _ _ _) ?_
      rename_i hsome
      rw [List.isEmpty_iff] at hsome
      have hpos := List.length_pos_iff.2 hsome
      simp only [List.length_nil, Nat.zero_add] at hkey hsize
      omega

theorem forwardSet_size_le (encodings : List (List ByteSpan)) (t : Tally) :
    (forwardSet encodings t).size ≤ t.size + 32 + 160 * encodings.length := by
  have := forwardStep_size_le t.steps 4 encodings ⟨t.add, .empty 10000⟩
  rwa [Tally.size_add] at this

/-! ## Literals -/

theorem nodup_eraseDups {α : Type} [BEq α] [LawfulBEq α] (xs : List α) : xs.eraseDups.Nodup := by
  induction h : xs.length using Nat.strongRecOn generalizing xs with
  | ind n ih =>
    cases xs with
    | nil => exact List.nodup_nil
    | cons x xs =>
      have hlen := List.length_filter_le (fun y => !y == x) xs
      rw [List.length_cons] at h
      rw [List.eraseDups_cons, List.nodup_cons, List.mem_eraseDups, List.mem_filter]
      exact ⟨by simp, ih _ (by omega) _ rfl⟩

theorem length_eraseDups_le {α : Type} [BEq α] [LawfulBEq α] (xs : List α) : xs.eraseDups.length ≤ xs.length :=
  ((nodup_eraseDups xs).subperm fun _ h => List.mem_eraseDups.1 h).length_le

/-- At most one of some distinct bytes is the first one. -/
theorem sum_ite_le {bs : List UInt8} (h : bs.Nodup) (first : Option UInt8) (w : Nat) :
    (bs.map fun b => if first == some b then w else 0).sum ≤ w := by
  induction bs with
  | nil => simp
  | cons b bs ih =>
    obtain ⟨hb, hbs⟩ := List.nodup_cons.1 h
    rw [List.map_cons, List.sum_cons]
    by_cases hfirst : first = some b
    · have hrest : (bs.map fun c => if first == some c then w else 0) = bs.map fun _ => 0 :=
        List.map_congr_left fun c hc => if_neg fun hsame => hb (by
          rw [hfirst, beq_iff_eq, Option.some.injEq] at hsame
          exact hsame ▸ hc)
      rw [hrest]
      simp [hfirst]
    · rw [if_neg (by simpa using hfirst), Nat.zero_add]
      exact ih hbs

/-- Literals with different first bytes are different literals. -/
theorem sum_filter_head_le {bs : List UInt8} (h : bs.Nodup) (w : List UInt8 → Nat) (literals : List (List UInt8)) :
    (bs.map fun b => ((literals.filter (·.head? == some b)).map w).sum).sum ≤ (literals.map w).sum := by
  induction literals with
  | nil => simp
  | cons l literals ih =>
    have hsplit : (fun b => (((l :: literals).filter (·.head? == some b)).map w).sum) = fun b =>
        (if l.head? == some b then w l else 0) + ((literals.filter (·.head? == some b)).map w).sum := by
      funext b
      rw [List.filter_cons]
      split <;> simp
    rw [hsplit, List.sum_map_add, List.map_cons, List.sum_cons]
    exact Nat.add_le_add (sum_ite_le h l.head? (w l)) ih

/-- What the literals of a choice count for: their bytes, and one more for each of them. -/
def weight (literals : List (List UInt8)) : Nat := (literals.map fun l => l.length + 1).sum

/-- Cuts a list of literals where one is used up, each time. -/
def cutGroups (literals : List (List UInt8)) : List (List (List UInt8)) :=
  literals.foldr (fun l groups =>
    if l.isEmpty then [] :: groups
    else match groups with
      | [] => [[l]]
      | group :: rest => (l :: group) :: rest) [[]]

/-- The groups hold the literals that are not used up, and there is one more than there are used up. -/
theorem cutGroups_parts (literals : List (List UInt8)) :
    (cutGroups literals).flatten = literals.filter (!·.isEmpty) ∧
      (cutGroups literals).length = literals.countP List.isEmpty + 1 := by
  induction literals with
  | nil => exact ⟨rfl, rfl⟩
  | cons l literals ih =>
    obtain ⟨hflat, hlen⟩ := ih
    rw [cutGroups, List.foldr_cons, ← cutGroups]
    cases l with
    | nil => simp [hflat, hlen]
    | cons b l =>
      cases hgroups : cutGroups literals with
      | nil => simp [hgroups] at hlen
      | cons group rest =>
        rw [hgroups] at hflat hlen
        simp_all

theorem filter_dropWhile_isEmpty (literals : List (List UInt8)) :
    (literals.dropWhile List.isEmpty).filter (!·.isEmpty) = literals.filter (!·.isEmpty) := by
  induction literals with
  | nil => rfl
  | cons l literals ih =>
    cases l with
    | nil => exact ih
    | cons b l => rfl

theorem literalGroups_parts (literals : List (List UInt8)) :
    (literalGroups literals).flatten = literals.filter (!·.isEmpty) ∧
      (literalGroups literals).length ≤ literals.countP List.isEmpty + 1 := by
  cases literals with
  | nil => exact ⟨rfl, Nat.le_refl _⟩
  | cons l literals =>
    cases l with
    | nil =>
      have hcut : literalGroups ([] :: literals) = cutGroups ([] :: literals.dropWhile List.isEmpty) := rfl
      obtain ⟨hflat, hlen⟩ := cutGroups_parts ([] :: literals.dropWhile List.isEmpty)
      have hempty : (literals.dropWhile List.isEmpty).countP List.isEmpty ≤ literals.countP List.isEmpty :=
        (List.dropWhile_sublist _).countP_le
      rw [hcut, hflat, hlen]
      simp [filter_dropWhile_isEmpty, hempty]
    | cons b l =>
      obtain ⟨hflat, hlen⟩ := cutGroups_parts ((b :: l) :: literals)
      exact ⟨hflat, Nat.le_of_eq hlen⟩

/-- The first bytes of a group, each of them once. -/
def firstsOf (group : List (List UInt8)) : List UInt8 := (group.filterMap List.head?).eraseDups

/-- The literals of a group that begin with a byte, without it. -/
def behind (b : UInt8) (group : List (List UInt8)) : List (List UInt8) :=
  (group.filter (·.head? == some b)).map List.tail

/-- Builds the step that reads one of some first bytes. -/
def firstByte (n : Nat) (t : Tally) : Tally :=
  match n with
  | 0 => t
  | 1 => t.add.ways 1
  | n => (t.add n).ways 1

theorem firstByte_size_le (n : Nat) (t : Tally) : (firstByte n t).size ≤ t.size + 44 * n := by
  match n with
  | 0 => exact Nat.le_refl _
  | 1 => simp [firstByte]
  | n + 2 =>
    simp only [firstByte, Tally.size_ways, Tally.size_add]
    omega

/-- Builds the trees behind the first bytes of a group, and the step that reads these bytes. -/
def literalGroup (depth : Nat) (t : Tally) (group : List (List UInt8)) : Tally :=
  firstByte (firstsOf group).length ((firstsOf group).foldl (fun t b => literalTree depth (behind b group) t) t)

theorem literalTree_succ (depth : Nat) (literals : List (List UInt8)) (t : Tally) :
    literalTree (depth + 1) literals t =
      if literals.all List.isEmpty then t
      else
        let groups := literalGroups literals
        (groups.foldl (literalGroup depth) t).add.ways (groups.length - 1) := rfl

theorem weight_behind (b : UInt8) (group : List (List UInt8)) :
    weight (behind b group) = ((group.filter (·.head? == some b)).map List.length).sum := by
  unfold weight behind
  rw [List.map_map]
  congr 1
  refine List.map_congr_left fun l hl => ?_
  obtain ⟨-, hhead⟩ := List.mem_filter.1 hl
  cases l with
  | nil => cases hhead
  | cons a l => rfl

theorem literalGroup_size_le {depth : Nat}
    (h : ∀ literals t, (literalTree depth literals t).size ≤ t.size + 80 * weight literals) (t : Tally)
    (group : List (List UInt8)) :
    (literalGroup depth t group).size ≤ t.size + 80 * (group.map List.length).sum + 44 * group.length := by
  have hfold (bs : List UInt8) (t : Tally) :
      (bs.foldl (fun t b => literalTree depth (behind b group) t) t).size ≤
        t.size + 80 * (bs.map fun b => weight (behind b group)).sum := by
    induction bs generalizing t with
    | nil => simp
    | cons b bs ih =>
      have hfirst := h (behind b group) t
      have hrest := ih (literalTree depth (behind b group) t)
      rw [List.foldl_cons, List.map_cons, List.sum_cons]
      omega
  have hweight : ((firstsOf group).map fun b => weight (behind b group)).sum ≤ (group.map List.length).sum := by
    simp only [weight_behind]
    exact sum_filter_head_le (nodup_eraseDups _) _ _
  have hfirsts : (firstsOf group).length ≤ group.length :=
    Nat.le_trans (length_eraseDups_le _) (List.length_filterMap_le _ _)
  have htrees := hfold (firstsOf group) t
  refine Nat.le_trans (firstByte_size_le _ _) ?_
  omega

/-- Whether a literal is used up or not, it counts. -/
theorem weight_eq (literals : List (List UInt8)) :
    weight literals = ((literals.filter (!·.isEmpty)).map List.length).sum +
      (literals.filter (!·.isEmpty)).length + literals.countP List.isEmpty := by
  induction literals with
  | nil => rfl
  | cons l literals ih =>
    rw [weight, List.map_cons, List.sum_cons, ← weight, ih]
    cases l with
    | nil =>
      simp
      omega
    | cons b l =>
      simp
      omega

theorem literalTree_size_le (depth : Nat) (literals : List (List UInt8)) (t : Tally) :
    (literalTree depth literals t).size ≤ t.size + 80 * weight literals := by
  induction depth generalizing literals t with
  | zero => simp [literalTree]
  | succ depth ih =>
    rw [literalTree_succ]
    split
    · omega
    · have hfold (groups : List (List (List UInt8))) (t : Tally) :
          (groups.foldl (literalGroup depth) t).size ≤
            t.size + 80 * (groups.flatten.map List.length).sum + 44 * groups.flatten.length := by
        induction groups generalizing t with
        | nil => simp
        | cons group groups ihg =>
          have hfirst := literalGroup_size_le ih t group
          have hrest := ihg (literalGroup depth t group)
          rw [List.foldl_cons, List.flatten_cons, List.map_append, List.sum_append, List.length_append]
          omega
      rename_i hall
      have hsome : 0 < (literals.filter (!·.isEmpty)).length := by
        rw [List.length_filter_pos_iff]
        simpa using hall
      obtain ⟨hflat, hlen⟩ := literalGroups_parts literals
      have hgroups := hfold (literalGroups literals) t
      rw [hflat] at hgroups
      rw [Tally.size_ways, Tally.size_add, weight_eq]
      omega

end Transcripts.Pattern
