import Mathlib.Data.List.SplitBy
import Transcripts.Proofs.Text.Boundary

/-!
# What a pattern takes

The meaning of a pattern as a relation between the place where a match starts and the place where it ends, apart
from any order in which matches are tried.  A sequence takes what its members take one after the other
(`concat_takes`), and a choice what one of its branches takes, also when their common start stands before it
(`choice_takes`).
-/
namespace Transcripts

/-! ## Sets -/

namespace Unicode.Ranges

theorem mem_iff {rs : Ranges} {n : Nat} : rs.mem n = true ↔ ∃ r ∈ rs, r.1 ≤ n ∧ n ≤ r.2 := by
  simp [mem]

theorem mem_cons {lo hi n : Nat} {rs : Ranges} :
    mem n ((lo, hi) :: rs) = true ↔ lo ≤ n ∧ n ≤ hi ∨ rs.mem n = true := by
  simp [mem]

theorem mem_insert {lo hi n : Nat} {rs : Ranges} :
    (insert lo hi rs).mem n = true ↔ lo ≤ n ∧ n ≤ hi ∨ rs.mem n = true := by
  induction rs generalizing lo hi with
  | nil => exact mem_cons
  | cons r rest ih =>
    obtain ⟨a, b⟩ := r
    unfold insert
    split
    · exact mem_cons
    split
    · rw [mem_cons, mem_cons, ih]
      exact or_left_comm
    · -- two intervals that overlap or touch are one
      rw [mem_cons, ih, ← or_assoc]
      refine or_congr_left ?_
      omega

theorem mem_union {xs ys : Ranges} {n : Nat} :
    (xs.union ys).mem n = true ↔ xs.mem n = true ∨ ys.mem n = true := by
  unfold union
  induction xs with
  | nil => simp [mem]
  | cons r xs ih => rw [List.foldr_cons, mem_insert, ih, mem_cons, or_assoc]

theorem mem_foldl_union {sets : List Ranges} {n : Nat} :
    (sets.foldl union []).mem n = true ↔ ∃ set ∈ sets, set.mem n = true := by
  have hfold (acc : Ranges) : (sets.foldl union acc).mem n = true ↔ acc.mem n = true ∨ ∃ set ∈ sets, set.mem n = true := by
    induction sets generalizing acc with
    | nil => simp
    | cons set sets ih => simp [ih, mem_union, or_assoc]
  rw [hfold]
  simp [mem]

end Unicode.Ranges

namespace Pattern

open Transcripts.Unicode (Ranges)

/-! ## Basic characters -/

theorem charAt_of_byte {input : Input} {i : Nat} {b : UInt8} (h : input[i]? = some b) (hb : b.toNat < 0x80) :
    ∃ c, input.charAt i = some (c, 1) ∧ c.toNat = b.toNat := by
  have hhead : (input.toList.drop i).head? = some b := by rw [List.head?_drop, Array.getElem?_toList, h]
  obtain ⟨rest, hrest⟩ := List.head?_eq_some_iff.1 hhead
  have hencode : String.utf8EncodeChar (Char.ofNat b.toNat) = [b] := Text.encode_one rfl hb
  refine ⟨Char.ofNat b.toNat, Text.charAt_eq_some_iff.2 ?_, Text.toNat_ofNat_of_valid (.inl (by omega))⟩
  rw [hencode, hrest]
  exact ⟨⟨rest, rfl⟩, rfl⟩

theorem byte_of_charAt {input : Input} {i k : Nat} {c : Char} (h : input.charAt i = some (c, k)) (hc : c.toNat < 0x80) :
    ∃ b, input[i]? = some b ∧ b.toNat = c.toNat ∧ k = 1 := by
  obtain ⟨⟨rest, hrest⟩, rfl⟩ := Text.charAt_eq_some_iff.1 h
  rw [Text.utf8EncodeChar_small hc] at hrest ⊢
  have hhead := congrArg List.head? hrest
  rw [List.head?_drop, Array.getElem?_toList] at hhead
  exact ⟨_, hhead.symm, Text.toNat_ofNat_of_lt (by omega), rfl⟩

/-! ## Rounds -/

/-- So many rounds of a step from place to place. -/
def Rounds (step : Nat → Nat → Prop) : Nat → Nat → Nat → Prop
  | 0, i, j => i = j
  | n + 1, i, j => ∃ k, step i k ∧ Rounds step n k j

variable {step : Nat → Nat → Prop}

theorem rounds_add {m n i j : Nat} : Rounds step (m + n) i j ↔ ∃ k, Rounds step m i k ∧ Rounds step n k j := by
  induction m generalizing i with
  | zero => simp [Rounds]
  | succ m ih =>
    rw [Nat.succ_add]
    simp only [Rounds, ih]
    constructor
    · rintro ⟨l, hl, k, hm, hn⟩
      exact ⟨k, ⟨l, hl, hm⟩, hn⟩
    · rintro ⟨k, ⟨l, hl, hm⟩, hn⟩
      exact ⟨l, hl, k, hm, hn⟩

theorem Rounds.le (h : ∀ i j, step i j → i ≤ j) {n i j : Nat} (hr : Rounds step n i j) : i ≤ j := by
  induction n generalizing i with
  | zero => exact Nat.le_of_eq hr
  | succ n ih =>
    obtain ⟨k, hk, hr⟩ := hr
    exact Nat.le_trans (h i k hk) (ih hr)

namespace Node

/-- The node can match what lies between two places of an input.  A repetition that is to end before its least
number of rounds ends with that number. -/
def Takes (input : Input) : Node → Nat → Nat → Prop
  | .empty, i, j => i = j
  | .char set, i, j => ∃ c len, input.charAt i = some (c, len) ∧ set.mem c.toNat = true ∧ j = i + len
  | .byte set, i, j => ∃ b, input[i]? = some b ∧ set.mem b.toNat = true ∧ j = i + 1
  | .look l, i, j => l.holds input i = true ∧ i = j
  | .seq a b, i, j => ∃ k, Takes input a i k ∧ Takes input b k j
  | .alt a b, i, j => Takes input a i j ∨ Takes input b i j
  | .repetition least most _ sub, i, j =>
    ∃ n, least ≤ n ∧ (∀ m, most = some m → n ≤ max least m) ∧ Rounds (Takes input sub) n i j
  | .capture _ sub, i, j => Takes input sub i j

variable {input : Input} {i j : Nat}

/-- A match does not end before it starts. -/
theorem Takes.le {n : Node} (h : n.Takes input i j) : i ≤ j := by
  induction n generalizing i j with
  | empty => exact Nat.le_of_eq h
  | char set =>
    obtain ⟨c, len, -, -, rfl⟩ := h
    exact Nat.le_add_right i len
  | byte set =>
    obtain ⟨b, -, -, rfl⟩ := h
    exact Nat.le_succ i
  | look l => exact Nat.le_of_eq h.2
  | seq a b iha ihb =>
    obtain ⟨k, ha, hb⟩ := h
    exact Nat.le_trans (iha ha) (ihb hb)
  | alt a b iha ihb =>
    rcases h with h | h
    · exact iha h
    · exact ihb h
  | repetition least most greedy sub ih =>
    obtain ⟨n, -, -, h⟩ := h
    exact h.le fun _ _ => ih
  | capture index sub ih => exact ih h

/-- A repetition without end takes any number of rounds from the least on. -/
theorem unbounded_takes {least : Nat} {greedy : Bool} {sub : Node} :
    (repetition least none greedy sub).Takes input i j ↔ ∃ n, Rounds (sub.Takes input) (least + n) i j := by
  constructor
  · rintro ⟨n, hn, -, hrounds⟩
    obtain ⟨more, rfl⟩ := Nat.exists_eq_add_of_le hn
    exact ⟨more, hrounds⟩
  · rintro ⟨n, hrounds⟩
    exact ⟨least + n, Nat.le_add_right _ _, nofun, hrounds⟩

/-- A repetition between two numbers of rounds takes the least number, and then up to as many as are missing. -/
theorem bounded_takes {least most : Nat} {greedy : Bool} {sub : Node} :
    (repetition least (some most) greedy sub).Takes input i j ↔
      ∃ k, Rounds (sub.Takes input) least i k ∧ ∃ n ≤ most - least, Rounds (sub.Takes input) n k j := by
  constructor
  · rintro ⟨n, hn, hmost, hrounds⟩
    have hle := hmost most rfl
    obtain ⟨extra, rfl⟩ := Nat.exists_eq_add_of_le hn
    obtain ⟨k, hleast, hrounds⟩ := rounds_add.1 hrounds
    exact ⟨k, hleast, extra, by omega, hrounds⟩
  · rintro ⟨k, hleast, n, hn, hrounds⟩
    refine ⟨least + n, Nat.le_add_right _ _, ?_, rounds_add.2 ⟨k, hleast, hrounds⟩⟩
    intro most hmost
    cases hmost
    omega

/-! ## Sequences -/

/-- Some nodes take the input from a place to a place, one after the other. -/
def TakesAll (input : Input) : List Node → Nat → Nat → Prop
  | [], i, j => i = j
  | n :: ns, i, j => ∃ k, n.Takes input i k ∧ TakesAll input ns k j

theorem takesAll_append {xs ys : List Node} :
    TakesAll input (xs ++ ys) i j ↔ ∃ k, TakesAll input xs i k ∧ TakesAll input ys k j := by
  induction xs generalizing i with
  | nil => simp [TakesAll]
  | cons n xs ih =>
    simp only [List.cons_append, TakesAll, ih]
    constructor
    · rintro ⟨k, hn, l, hxs, hys⟩
      exact ⟨l, ⟨k, hn, hxs⟩, hys⟩
    · rintro ⟨l, ⟨k, hn, hxs⟩, hys⟩
      exact ⟨k, hn, l, hxs, hys⟩

theorem takesAll_singleton {n : Node} : TakesAll input [n] i j ↔ n.Takes input i j := by
  simp [TakesAll]

theorem takesAll_members {n : Node} : TakesAll input n.members i j ↔ n.Takes input i j := by
  induction n generalizing i with
  | empty => exact Iff.rfl
  | seq a b _ ihb =>
    simp only [members, TakesAll, Takes, ihb]
  | char | byte | look | alt | repetition | capture => exact takesAll_singleton

theorem ofMembers_takes {ms : List Node} : (ofMembers ms).Takes input i j ↔ TakesAll input ms i j := by
  induction ms generalizing i with
  | nil => exact Iff.rfl
  | cons n ms ih =>
    cases ms with
    | nil => exact takesAll_singleton.symm
    | cons m ms => simp only [ofMembers, Takes, TakesAll] at ih ⊢; simp only [ih]

theorem concat_takes {a b : Node} :
    (a.concat b).Takes input i j ↔ ∃ k, a.Takes input i k ∧ b.Takes input k j := by
  simp only [concat, ofMembers_takes, takesAll_append, takesAll_members]

/-! ## Choices -/

theorem never_takes : ¬ never.Takes input i j := by
  rintro ⟨c, len, -, hmem, -⟩
  cases hmem

theorem branches_takes {n : Node} : (∃ b ∈ n.branches, b.Takes input i j) ↔ n.Takes input i j := by
  induction n with
  | alt a b _ ihb =>
    simp only [branches, List.mem_cons, exists_eq_or_imp, ihb, Takes]
  | empty | char | byte | look | seq | repetition | capture => simp [branches]

theorem ofBranches_takes {ns : List Node} : (ofBranches ns).Takes input i j ↔ ∃ n ∈ ns, n.Takes input i j := by
  induction ns with
  | nil => simpa [ofBranches] using never_takes
  | cons n ns ih =>
    cases ns with
    | nil => simp [ofBranches]
    | cons m ns =>
      have halt : ofBranches (n :: m :: ns) = .alt n (ofBranches (m :: ns)) := rfl
      rw [halt, Takes, ih]
      simp

/-! ## A common start -/

theorem parts_flatten (n : Node) : n.parts.flatten = n.members := List.flatten_splitBy _ _

section

variable {α : Type} [DecidableEq α]

theorem common_isPrefix (xs ys : List α) : common xs ys <+: xs ∧ common xs ys <+: ys := by
  induction xs generalizing ys with
  | nil => simp [common]
  | cons x xs ih =>
    cases ys with
    | nil => simp [common]
    | cons y ys =>
      unfold common
      split
      · rename_i h
        subst h
        simpa using ih ys
      · simp

theorem foldl_common_isPrefix (rest : List (List α)) (xs : List α) :
    rest.foldl common xs <+: xs ∧ ∀ ys ∈ rest, rest.foldl common xs <+: ys := by
  induction rest generalizing xs with
  | nil => simp
  | cons zs rest ih =>
    obtain ⟨hxs, hrest⟩ := ih (common xs zs)
    obtain ⟨hleft, hright⟩ := common_isPrefix xs zs
    simp only [List.foldl_cons, List.mem_cons, forall_eq_or_imp]
    exact ⟨hxs.trans hleft, hxs.trans hright, hrest⟩

theorem commonAll_isPrefix {xss : List (List α)} : ∀ xs ∈ xss, commonAll xss <+: xs := by
  cases xss with
  | nil => simp
  | cons xs rest =>
    have h := foldl_common_isPrefix rest xs
    simpa [commonAll] using h

end

/-- What stands at the start of all sequences can be taken first. -/
theorem shared_takes {ns : List Node} {shared : List (List Node)} (h : ∀ s ∈ ns.map parts, shared <+: s) :
    (∃ n ∈ ns, n.Takes input i j) ↔ ∃ k, TakesAll input shared.flatten i k ∧
      ∃ rest ∈ (ns.map parts).map fun s => ofMembers (s.drop shared.length).flatten, rest.Takes input k j := by
  have hsplit {n : Node} (hn : n ∈ ns) : n.Takes input i j ↔ ∃ k, TakesAll input shared.flatten i k ∧
      (ofMembers (n.parts.drop shared.length).flatten).Takes input k j := by
    obtain ⟨tail, htail⟩ := h _ (List.mem_map_of_mem hn)
    rw [← takesAll_members, ← parts_flatten, ← htail, List.drop_left, List.flatten_append, takesAll_append]
    simp only [ofMembers_takes]
  constructor
  · rintro ⟨n, hn, htakes⟩
    obtain ⟨k, hshared, hrest⟩ := (hsplit hn).1 htakes
    exact ⟨k, hshared, _, List.mem_map_of_mem (List.mem_map_of_mem hn), hrest⟩
  · rintro ⟨k, hshared, rest, hmem, hrest⟩
    simp only [List.map_map, List.mem_map] at hmem
    obtain ⟨n, hn, rfl⟩ := hmem
    exact ⟨n, hn, (hsplit hn).2 ⟨k, hshared, hrest⟩⟩

/-! ## Choices between single characters -/

/-- A set of basic characters is the same as a set of bytes. -/
theorem byte_takes_iff {set : Ranges} (h : set.all (·.2 < 0x80) = true) :
    (byte set).Takes input i j ↔ (char set).Takes input i j := by
  have hsmall {n : Nat} (hn : set.mem n = true) : n < 0x80 := by
    obtain ⟨r, hr, -, hle⟩ := Ranges.mem_iff.1 hn
    have hlt : r.2 < 0x80 := by simpa using List.all_eq_true.1 h r hr
    exact Nat.lt_of_le_of_lt hle hlt
  constructor
  · rintro ⟨b, hb, hmem, rfl⟩
    obtain ⟨c, hchar, hnat⟩ := charAt_of_byte hb (hsmall hmem)
    exact ⟨c, 1, hchar, by rw [hnat]; exact hmem, rfl⟩
  · rintro ⟨c, len, hc, hmem, rfl⟩
    obtain ⟨b, hb, hnat, rfl⟩ := byte_of_charAt hc (hsmall hmem)
    exact ⟨b, hb, by rw [hnat]; exact hmem, rfl⟩

theorem charSet_takes {n : Node} {set : Ranges} (h : n.charSet? = some set) :
    n.Takes input i j ↔ (char set).Takes input i j := by
  cases n with
  | char s =>
    cases h
    exact Iff.rfl
  | byte s =>
    obtain ⟨hsmall, h⟩ := Option.ite_none_right_eq_some.1 h
    cases h
    exact byte_takes_iff hsmall
  | empty | look | seq | alt | repetition | capture => cases h

theorem byteSet_takes {n : Node} {set : Ranges} (h : n.byteSet? = some set) :
    n.Takes input i j ↔ (byte set).Takes input i j := by
  cases n with
  | byte s =>
    cases h
    exact Iff.rfl
  | char s =>
    obtain ⟨hsmall, h⟩ := Option.ite_none_right_eq_some.1 h
    cases h
    exact (byte_takes_iff hsmall).symm
  | empty | look | seq | alt | repetition | capture => cases h

theorem mapM_takes {view : Node → Option Ranges} {make : Ranges → Node}
    (h : ∀ n set, view n = some set → (n.Takes input i j ↔ (make set).Takes input i j)) {ns : List Node}
    {sets : List Ranges} (hns : ns.mapM view = some sets) :
    (∃ n ∈ ns, n.Takes input i j) ↔ ∃ set ∈ sets, (make set).Takes input i j := by
  induction ns generalizing sets with
  | nil =>
    cases hns
    simp
  | cons n ns ih =>
    rw [List.mapM_cons] at hns
    obtain ⟨set, hset, hns⟩ := Option.bind_eq_some_iff.1 hns
    obtain ⟨rest, hrest, hns⟩ := Option.bind_eq_some_iff.1 hns
    cases hns
    simp only [List.mem_cons, exists_eq_or_imp, h n set hset, ih hrest]

theorem char_union_takes {sets : List Ranges} :
    (char (sets.foldl Ranges.union [])).Takes input i j ↔ ∃ set ∈ sets, (char set).Takes input i j := by
  simp only [Takes, Ranges.mem_foldl_union]
  constructor
  · rintro ⟨c, len, hc, ⟨set, hset, hmem⟩, hj⟩
    exact ⟨set, hset, c, len, hc, hmem, hj⟩
  · rintro ⟨set, hset, c, len, hc, hmem, hj⟩
    exact ⟨c, len, hc, ⟨set, hset, hmem⟩, hj⟩

theorem byte_union_takes {sets : List Ranges} :
    (byte (sets.foldl Ranges.union [])).Takes input i j ↔ ∃ set ∈ sets, (byte set).Takes input i j := by
  simp only [Takes, Ranges.mem_foldl_union]
  constructor
  · rintro ⟨b, hb, ⟨set, hset, hmem⟩, hj⟩
    exact ⟨set, hset, b, hb, hmem, hj⟩
  · rintro ⟨set, hset, b, hb, hmem, hj⟩
    exact ⟨b, hb, ⟨set, hset, hmem⟩, hj⟩

/-! ## Any choice -/

theorem flatMap_branches_takes {ns : List Node} :
    (∃ n ∈ ns.flatMap branches, n.Takes input i j) ↔ ∃ n ∈ ns, n.Takes input i j := by
  constructor
  · rintro ⟨b, hb, htakes⟩
    obtain ⟨n, hn, hb⟩ := List.mem_flatMap.1 hb
    exact ⟨n, hn, branches_takes.1 ⟨b, hb, htakes⟩⟩
  · rintro ⟨n, hn, htakes⟩
    obtain ⟨b, hb, htakes⟩ := branches_takes.2 htakes
    exact ⟨b, List.mem_flatMap.2 ⟨n, hn, hb⟩, htakes⟩

theorem choiceFuel_takes {fuel : Nat} {ns : List Node} :
    (choiceFuel fuel ns).Takes input i j ↔ ∃ n ∈ ns, n.Takes input i j := by
  induction fuel generalizing ns i with
  | zero => exact ofBranches_takes
  | succ fuel ih =>
    rw [← flatMap_branches_takes]
    unfold choiceFuel
    simp only
    generalize ns.flatMap branches = bs
    split
    · simpa using never_takes
    · simp
    split
    · rename_i sets hsets
      rw [char_union_takes, mapM_takes (fun _ _ => charSet_takes) hsets]
    split
    · rename_i sets hsets
      rw [byte_union_takes, mapM_takes (fun _ _ => byteSet_takes) hsets]
    generalize hcommon : (if (bs.map parts).all (2 ≤ ·.length) then commonAll (bs.map parts) else []) = shared
    have hshared : ∀ s ∈ bs.map parts, shared <+: s := by
      rw [← hcommon]
      split
      · exact commonAll_isPrefix
      · exact fun s _ => List.nil_prefix
    split
    · exact ofBranches_takes
    · rw [concat_takes, shared_takes hshared]
      simp only [ofMembers_takes, ih]

/-- **A choice takes what one of its branches takes.** -/
theorem choice_takes {ns : List Node} : (choice ns).Takes input i j ↔ ∃ n ∈ ns, n.Takes input i j :=
  choiceFuel_takes

end Node

end Pattern

end Transcripts
