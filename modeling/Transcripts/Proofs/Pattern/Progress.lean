import Mathlib.Data.List.Basic
import Transcripts.Proofs.Pattern.Opening

/-!
# Matches that read something

A node that the empty text cannot match is compiled into steps of which none accepts before a character or a
byte is read: the places that are reached from its first step without reading are closed, and the accepting
step is not among them.  So whatever its program matches has at least one byte.
-/
namespace Transcripts.Pattern

/-! ## Steps that read nothing -/

/-- The places to which a step leads without reading. -/
def Inst.silent : Inst → List Nat
  | .look _ next => [next]
  | .split first second => [first, second]
  | _ => []

theorem Inst.silent_choose (greedy : Bool) (body leave : Nat) :
    ∀ j ∈ (Inst.choose greedy body leave).silent, j = body ∨ j = leave := by
  intro j hj
  cases greedy
  · rcases List.mem_pair.1 hj with rfl | rfl
    · exact .inr rfl
    · exact .inl rfl
  · exact List.mem_pair.1 hj

theorem Inst.choose_ne_accept (greedy : Bool) (body leave : Nat) : Inst.choose greedy body leave ≠ .accept := by
  cases greedy <;> exact fun h => by cases h

namespace Code

/-- The place was added to `code` when it became `grown`. -/
def Added (code grown : Code) (k : Nat) : Prop := code.size ≤ k ∧ k < grown.size

/-- What adding steps in front of the place `next` comes to: the steps before stay, none of the new ones
accepts, and without reading they lead to each other and to `next` only. -/
structure Emits (next : Nat) (code : Code) (entry : Nat) (grown : Code) : Prop where
  size_le : code.size ≤ grown.size
  kept : ∀ k, k < code.size → grown[k]? = code[k]?
  entry : entry = next ∨ code.Added grown entry
  added : ∀ k i, code.size ≤ k → grown[k]? = some i →
    i ≠ .accept ∧ ∀ j ∈ i.silent, j = next ∨ code.Added grown j

namespace Emits

variable {next next' k entry : Nat} {code code' grown : Code}

theorem refl (next : Nat) (code : Code) : Emits next code next code where
  size_le := Nat.le_refl _
  kept _ _ := rfl
  entry := .inl rfl
  added k i hk hi := by
    have := (Array.getElem?_eq_some_iff.1 hi).1
    omega

/-- More steps in front of what was added, or beside it. -/
theorem trans (h : Emits next code k code') (h' : Emits next' code' entry grown)
    (hn : next' = next ∨ code.Added code' next') : Emits next code entry grown := by
  have hsize := h.size_le
  have hsize' := h'.size_le
  have hgrown {j : Nat} (hj : j = next' ∨ code'.Added grown j) : j = next ∨ code.Added grown j := by
    rcases hj with rfl | ⟨hlo, hhi⟩
    · rcases hn with rfl | ⟨hlo, hhi⟩
      · exact .inl rfl
      · exact .inr ⟨hlo, Nat.lt_of_lt_of_le hhi hsize'⟩
    · exact .inr ⟨Nat.le_trans hsize hlo, hhi⟩
  refine ⟨Nat.le_trans hsize hsize', fun j hj => ?_, hgrown h'.entry, fun j i hj hi => ?_⟩
  · rw [h'.kept j (Nat.lt_of_lt_of_le hj hsize), h.kept j hj]
  · by_cases hlt : j < code'.size
    · rw [h'.kept j hlt] at hi
      obtain ⟨hne, hsilent⟩ := h.added j i hj hi
      refine ⟨hne, fun x hx => ?_⟩
      rcases hsilent x hx with rfl | ⟨hlo, hhi⟩
      · exact .inl rfl
      · exact .inr ⟨hlo, Nat.lt_of_lt_of_le hhi hsize'⟩
    · obtain ⟨hne, hsilent⟩ := h'.added j i (Nat.le_of_not_lt hlt) hi
      exact ⟨hne, fun x hx => hgrown (hsilent x hx)⟩

/-- One more step, which leads to what was added or to `next`. -/
theorem add (h : Emits next code k code') {i : Inst} (hi : i ≠ .accept)
    (hsilent : ∀ j ∈ i.silent, j = next ∨ code.Added code' j) : Emits next code code'.size (code'.push i) := by
  have hsize := h.size_le
  have hpush : (code'.push i).size = code'.size + 1 := Array.size_push i
  have hgrown {j : Nat} (hj : j = next ∨ code.Added code' j) : j = next ∨ code.Added (code'.push i) j := by
    rcases hj with rfl | ⟨hlo, hhi⟩
    · exact .inl rfl
    · exact .inr ⟨hlo, by omega⟩
  refine ⟨by omega, fun j hj => ?_, .inr ⟨hsize, by omega⟩, fun j x hj hx => ?_⟩
  · rw [Array.getElem?_push, if_neg (by omega), h.kept j hj]
  · rw [Array.getElem?_push] at hx
    by_cases hj' : j = code'.size
    · rw [if_pos hj'] at hx
      cases hx
      exact ⟨hi, fun y hy => hgrown (hsilent y hy)⟩
    · rw [if_neg hj'] at hx
      obtain ⟨hne, hall⟩ := h.added j x hj hx
      exact ⟨hne, fun y hy => hgrown (hall y hy)⟩

end Emits

/-! ## Places from which something is read -/

/-- A set of places from `lo` on that is closed under the ways that read nothing, and holds no accepting
step. -/
structure Closed (code : Code) (lo : Nat) (places : Nat → Prop) : Prop where
  within : ∀ k, places k → lo ≤ k ∧ k < code.size
  silent : ∀ k i, places k → code[k]? = some i → i ≠ .accept ∧ ∀ j ∈ i.silent, places j

/-- Whatever is accepted from a place on has read something before; the steps that matter stand behind `lo`. -/
def MustRead (code : Code) (lo k : Nat) : Prop := ∃ places, places k ∧ code.Closed lo places

namespace MustRead

variable {lo lo' next k entry : Nat} {code code' grown : Code}

theorem weaken (h : code.MustRead lo k) (hlo : lo' ≤ lo) : code.MustRead lo' k := by
  obtain ⟨places, hk, hclosed⟩ := h
  refine ⟨places, hk, fun j hj => ?_, hclosed.silent⟩
  have := hclosed.within j hj
  omega

theorem kept (h : code.MustRead lo k) (hsize : code.size ≤ code'.size)
    (hkept : ∀ j, lo ≤ j → j < code.size → code'[j]? = code[j]?) : code'.MustRead lo k := by
  obtain ⟨places, hk, hclosed⟩ := h
  refine ⟨places, hk, fun j hj => ?_, fun j i hj hi => ?_⟩
  · have := hclosed.within j hj
    omega
  · obtain ⟨hlo, hhi⟩ := hclosed.within j hj
    rw [hkept j hlo hhi] at hi
    exact hclosed.silent j i hj hi

/-- A step that reads. -/
theorem one (code : Code) {i : Inst} (hi : i ≠ .accept) (hsilent : i.silent = []) :
    MustRead (code.push i) code.size code.size := by
  refine ⟨fun j => j = code.size, rfl, ⟨?_, ?_⟩⟩
  · rintro j rfl
    simp
  · rintro j x rfl hx
    rw [Array.getElem?_push_size] at hx
    cases hx
    exact ⟨hi, by simp [hsilent]⟩

/-- Steps in front of a place from which something is read. -/
theorem through (h : code.MustRead lo next) (he : Emits next code entry grown) : grown.MustRead lo entry := by
  obtain ⟨places, hnext, hclosed⟩ := h
  have hsize := he.size_le
  have hlo : lo ≤ code.size := by
    have := hclosed.within next hnext
    omega
  have hreach {j : Nat} (hj : j = next ∨ code.Added grown j) : places j ∨ code.Added grown j := by
    rcases hj with rfl | hj
    · exact .inl hnext
    · exact .inr hj
  refine ⟨fun j => places j ∨ code.Added grown j, hreach he.entry, fun j hj => ?_, fun j i hj hi => ?_⟩
  · rcases hj with hj | ⟨hj, hj'⟩
    · have := hclosed.within j hj
      omega
    · omega
  · rcases hj with hj | ⟨hj, -⟩
    · rw [he.kept j (hclosed.within j hj).2] at hi
      obtain ⟨hne, hall⟩ := hclosed.silent j i hj hi
      exact ⟨hne, fun x hx => .inl (hall x hx)⟩
    · obtain ⟨hne, hall⟩ := he.added j i hj hi
      exact ⟨hne, fun x hx => hreach (hall x hx)⟩

/-- A choice between two places, from each of which something is read. -/
theorem split {first second : Nat} (h : code.MustRead lo first) (h' : code.MustRead lo second) :
    MustRead (code.push (.split first second)) lo code.size := by
  obtain ⟨places, hfirst, hclosed⟩ := h
  obtain ⟨places', hsecond, hclosed'⟩ := h'
  have hlo := hclosed.within first hfirst
  refine ⟨fun j => j = code.size ∨ places j ∨ places' j, .inl rfl, ⟨?_, ?_⟩⟩
  · rw [Array.size_push]
    rintro j (rfl | hj | hj)
    · omega
    · have := hclosed.within j hj
      omega
    · have := hclosed'.within j hj
      omega
  · rintro j i (rfl | hj | hj) hi
    · rw [Array.getElem?_push_size] at hi
      cases hi
      refine ⟨nofun, fun x hx => ?_⟩
      rcases List.mem_pair.1 hx with rfl | rfl
      · exact .inr (.inl hfirst)
      · exact .inr (.inr hsecond)
    · rw [Array.getElem?_push, if_neg (by have := hclosed.within j hj; omega)] at hi
      obtain ⟨hne, hall⟩ := hclosed.silent j i hj hi
      exact ⟨hne, fun x hx => .inr (.inl (hall x hx))⟩
    · rw [Array.getElem?_push, if_neg (by have := hclosed'.within j hj; omega)] at hi
      obtain ⟨hne, hall⟩ := hclosed'.silent j i hj hi
      exact ⟨hne, fun x hx => .inr (.inr (hall x hx))⟩

end MustRead

/-! ## Compiled nodes -/

/-- A way to compile something in front of any place; what cannot match the empty text has to read. -/
def Sound (nullable : Bool) (body : Nat → Code → Nat × Code) : Prop :=
  ∀ next code, Emits next code (body next code).1 (body next code).2 ∧
    (nullable = false → (body next code).2.MustRead code.size (body next code).1)

variable {nullable : Bool} {body : Nat → Code → Nat × Code}

theorem copies_emits (h : Sound nullable body) (n next : Nat) (code : Code) :
    Emits next code (copies body n next code).1 (copies body n next code).2 := by
  induction n with
  | zero => exact .refl next code
  | succ n ih =>
    unfold copies
    exact ih.trans (h _ _).1 ih.entry

theorem copies_mustRead (h : Sound nullable body) (hn : nullable = false) (n next : Nat) (code : Code) :
    (copies body (n + 1) next code).2.MustRead code.size (copies body (n + 1) next code).1 := by
  have hsize := (copies_emits h n next code).size_le
  unfold copies
  exact ((h _ _).2 hn).weaken hsize

theorem optional_emits (h : Sound nullable body) (greedy : Bool) (n next : Nat) (code : Code) :
    Emits next code (optional body greedy n next code).1 (optional body greedy n next code).2 := by
  induction n with
  | zero => exact .refl next code
  | succ n ih =>
    unfold optional
    have hbody := ih.trans (h _ _).1 ih.entry
    refine hbody.add (Inst.choose_ne_accept greedy _ next) fun j hj => ?_
    rcases Inst.silent_choose greedy _ next j hj with rfl | rfl
    · exact hbody.entry
    · exact .inl rfl

theorem loop_size (body : Nat → Code → Nat × Code) (greedy : Bool) (next : Nat) (code : Code) :
    (loop body greedy next code).2.2.size = (body code.size (code.push .fail)).2.size :=
  Array.size_setIfInBounds

/-- The steps of a loop are those of its body, but for the choice, which was a step that fails until the place of the
body was known. -/
theorem loop_step (body : Nat → Code → Nat × Code) (greedy : Bool) (next : Nat) {code : Code}
    (hlt : code.size < (body code.size (code.push .fail)).2.size) (k : Nat) : (loop body greedy next code).2.2[k]? =
      if k = code.size then some (.choose greedy (body code.size (code.push .fail)).1 next)
      else (body code.size (code.push .fail)).2[k]? := by
  unfold loop
  simp only [Code.add, Array.set!_eq_setIfInBounds, Array.getElem?_setIfInBounds]
  by_cases hk : k = code.size
  · rw [if_pos hk, if_pos hk.symm, if_pos hlt]
  · rw [if_neg hk, if_neg (Ne.symm hk)]

/-- What a loop adds: its body, and the choice that stands before it and behind it. -/
theorem loop_emits (h : Sound nullable body) (greedy : Bool) (next : Nat) (code : Code) :
    Emits next code (loop body greedy next code).1 (loop body greedy next code).2.2 ∧
    Emits next code (loop body greedy next code).2.1 (loop body greedy next code).2.2 := by
  obtain ⟨hsize, hkept, hentry, hadded⟩ := (h code.size (code.push .fail)).1
  rw [Array.size_push] at hsize hkept hadded
  have hstep := loop_step body greedy next hsize
  have hsame := loop_size body greedy next code
  have hreach {j : Nat} (hj : j = code.size ∨ Added (code.push .fail) (body code.size (code.push .fail)).2 j) :
      code.Added (loop body greedy next code).2.2 j := by
    rw [Added, hsame]
    rcases hj with rfl | ⟨hlo, hhi⟩
    · omega
    · rw [Array.size_push] at hlo
      omega
  have hall : ∀ j i, code.size ≤ j → (loop body greedy next code).2.2[j]? = some i →
      i ≠ .accept ∧ ∀ x ∈ i.silent, x = next ∨ code.Added (loop body greedy next code).2.2 x := by
    intro j i hj hi
    rw [hstep] at hi
    by_cases hj' : j = code.size
    · rw [if_pos hj'] at hi
      cases hi
      refine ⟨Inst.choose_ne_accept greedy _ next, fun x hx => ?_⟩
      rcases Inst.silent_choose greedy _ next x hx with rfl | rfl
      · exact .inr (hreach hentry)
      · exact .inl rfl
    · rw [if_neg hj'] at hi
      obtain ⟨hne, hsilent⟩ := hadded j i (by omega) hi
      exact ⟨hne, fun x hx => .inr (hreach (hsilent x hx))⟩
  have hbefore : ∀ j, j < code.size → (loop body greedy next code).2.2[j]? = code[j]? := by
    intro j hj
    rw [hstep, if_neg (by omega), hkept j (by omega), Array.getElem?_push, if_neg (by omega)]
  have hle : code.size ≤ (loop body greedy next code).2.2.size := by omega
  exact ⟨⟨hle, hbefore, .inr (hreach hentry), hall⟩, ⟨hle, hbefore, .inr (hreach (.inl rfl)), hall⟩⟩

/-- A body that has to read does so as the body of a loop. -/
theorem loop_mustRead (h : Sound nullable body) (hn : nullable = false) (greedy : Bool) (next : Nat) (code : Code) :
    (loop body greedy next code).2.2.MustRead code.size (loop body greedy next code).1 := by
  obtain ⟨hbody, hread⟩ := h code.size (code.push .fail)
  have hsize := hbody.size_le
  rw [Array.size_push] at hsize hread
  refine ((hread hn).kept (Nat.le_of_eq (loop_size body greedy next code).symm) fun j hlo _ => ?_).weaken (Nat.le_succ _)
  rw [loop_step body greedy next hsize, if_neg (by omega)]

end Code

open Code (Sound Emits)

namespace Node

/-! ## Compiled repetitions -/

section

variable {sub : Node} {greedy : Bool}

theorem bounded_sound (h : Sound sub.nullable sub.emit) (least most : Nat) :
    Sound (repetition least (some most) greedy sub).nullable (repetition least (some most) greedy sub).emit := by
  intro next code
  have hopt := Code.optional_emits h greedy (most - least) next code
  refine ⟨hopt.trans (Code.copies_emits h least _ _) hopt.entry, fun hread => ?_⟩
  unfold nullable at hread
  obtain ⟨hleast, hsub⟩ := Bool.or_eq_false_iff.1 hread
  obtain ⟨n, rfl⟩ := Nat.exists_eq_succ_of_ne_zero (beq_eq_false_iff_ne.1 hleast)
  exact (Code.copies_mustRead h hsub n _ _).weaken hopt.size_le

theorem star_sound (h : Sound sub.nullable sub.emit) :
    Sound (repetition 0 none greedy sub).nullable (repetition 0 none greedy sub).emit := by
  intro next code
  obtain ⟨hentry, hchoice⟩ := Code.loop_emits h greedy next code
  refine ⟨?_, nofun⟩
  unfold emit
  simp only [if_true]
  by_cases hsub : sub.nullable = true
  · rw [if_pos hsub]
    refine hentry.add (Inst.choose_ne_accept greedy _ next) fun j hj => ?_
    rcases Inst.silent_choose greedy _ next j hj with rfl | rfl
    · exact hentry.entry
    · exact .inl rfl
  · rw [if_neg hsub]
    exact hchoice

theorem plus_sound (h : Sound sub.nullable sub.emit) (least : Nat) :
    Sound (repetition (least + 1) none greedy sub).nullable (repetition (least + 1) none greedy sub).emit := by
  intro next code
  obtain ⟨hentry, -⟩ := Code.loop_emits h greedy next code
  have hcopies := Code.copies_emits h least (Code.loop sub.emit greedy next code).1
    (Code.loop sub.emit greedy next code).2.2
  refine ⟨hentry.trans hcopies hentry.entry, fun hread => ?_⟩
  unfold nullable at hread
  have hsub := (Bool.or_eq_false_iff.1 hread).2
  exact (Code.loop_mustRead h hsub greedy next code).through hcopies

end

/-! ## Compiled nodes -/

/-- A node is compiled into steps that read something, unless the empty text can match it. -/
theorem emit_sound (n : Node) : Sound n.nullable n.emit := by
  induction n with
  | empty => exact fun next code => ⟨.refl next code, nofun⟩
  | char set =>
    intro next code
    have hne : Inst.char set next ≠ .accept := nofun
    exact ⟨(Emits.refl next code).add hne nofun, fun _ => .one code hne rfl⟩
  | byte set =>
    intro next code
    have hne : Inst.byte set next ≠ .accept := nofun
    exact ⟨(Emits.refl next code).add hne nofun, fun _ => .one code hne rfl⟩
  | look l =>
    intro next code
    refine ⟨(Emits.refl next code).add nofun fun j hj => ?_, nofun⟩
    exact .inl (List.mem_singleton.1 hj)
  | seq a b iha ihb =>
    intro next code
    obtain ⟨hb, hbread⟩ := ihb next code
    obtain ⟨ha, haread⟩ := iha (b.emit next code).1 (b.emit next code).2
    refine ⟨hb.trans ha hb.entry, fun h => ?_⟩
    unfold nullable at h
    rcases Bool.and_eq_false_iff.1 h with h | h
    · exact (haread h).weaken hb.size_le
    · exact (hbread h).through ha
  | alt a b iha ihb =>
    intro next code
    obtain ⟨ha, haread⟩ := iha next code
    obtain ⟨hb, hbread⟩ := ihb next (a.emit next code).2
    have hboth := ha.trans hb (.inl rfl)
    constructor
    · refine hboth.add nofun fun j hj => ?_
      rcases List.mem_pair.1 hj with rfl | rfl
      · exact ha.entry.imp_right fun hj => ⟨hj.1, Nat.lt_of_lt_of_le hj.2 hb.size_le⟩
      · exact hboth.entry
    · intro h
      unfold nullable at h
      obtain ⟨hna, hnb⟩ := Bool.or_eq_false_iff.1 h
      have hfirst := (haread hna).kept hb.size_le fun j _ hj => hb.kept j hj
      exact .split hfirst ((hbread hnb).weaken ha.size_le)
  | repetition least most greedy sub ih =>
    cases most with
    | some most => exact bounded_sound ih least most
    | none =>
      cases least with
      | zero => exact star_sound ih
      | succ least => exact plus_sound ih least
  | capture index sub ih => exact ih

end Node

/-! ## Search -/

/-- A point behind the place `i`, or at it with something to read before acceptance. -/
def Ahead (places : Nat → Prop) (i : Nat) (x : Point) : Prop := i < x.2 ∨ (x.2 = i ∧ places x.1)

theorem next_ahead {p : Program} {input : Input} {lo i : Nat} {places : Nat → Prop} (hp : p.code.Closed lo places)
    {x y : Point} (hsize : x.2 ≤ input.size) (hx : Ahead places i x) (hy : y ∈ p.next input x) : Ahead places i y := by
  rcases hx with hx | ⟨rfl, hx⟩
  · have := next_mem hsize hy
    exact .inl (by omega)
  · unfold Program.next at hy
    split at hy
    · cases hy
    · cases hy
    · cases hy
    · split at hy
      · cases hy
      · rename_i c len hc
        have hlen := (charAt_length hsize hc).1
        split at hy
        · rw [List.mem_singleton.1 hy]
          exact .inl (Nat.lt_add_of_pos_right hlen)
        · cases hy
    · split at hy
      · cases hy
      · split at hy
        · rw [List.mem_singleton.1 hy]
          exact .inl (Nat.lt_succ_self _)
        · cases hy
    · rename_i l n hi
      split at hy
      · rw [List.mem_singleton.1 hy]
        exact .inr ⟨rfl, (hp.silent _ _ hx hi).2 n List.mem_cons_self⟩
      · cases hy
    · rename_i a b hi
      have hall := (hp.silent _ _ hx hi).2
      rcases List.mem_pair.1 hy with rfl | rfl
      · exact .inr ⟨rfl, hall a List.mem_cons_self⟩
      · exact .inr ⟨rfl, hall b (List.mem_cons_of_mem _ List.mem_cons_self)⟩

/-- What is reached from a closed set of places is reached behind the place where the run started. -/
theorem explore_ahead {p : Program} {input : Input} {lo i fuel : Nat} {places : Nat → Prop}
    (hp : p.code.Closed lo places) {stack : List Point} {tried : Tried} {e : Nat}
    (hstack : ∀ x ∈ stack, x.2 ≤ input.size ∧ Ahead places i x) (h : (p.explore input fuel stack tried).1 = some e) :
    i < e := by
  have hnext : ∀ x : Point, x.2 ≤ input.size ∧ Ahead places i x →
      ∀ y ∈ p.next input x, y.2 ≤ input.size ∧ Ahead places i y :=
    fun _ hx _ hy => ⟨(next_mem hx.1 hy).2, next_ahead hp hx.1 hx.2 hy⟩
  obtain ⟨k, ⟨-, he | ⟨-, hk⟩⟩, haccepts⟩ := explore_invariant hnext hstack h
  · exact he
  · exact absurd rfl (hp.silent k _ hk (beq_iff_eq.1 haccepts)).1

/-! ## Patterns for output -/

/-- **A pattern that cannot match the empty text** only matches what has at least one byte. -/
theorem Regex.output_reads {source : String} {r : Regex} {n : Node} (hr : Regex.output source = .ok r)
    (hn : (read source.toList >>= Ast.node .bytes { dotAll := true }) = .ok n) (hnull : n.nullable = false)
    {bs : Text.Bytes} {s e : Nat} (h : r.find bs = some (s, e)) : s < e := by
  obtain ⟨m, hm, rfl⟩ := Regex.compile_eq_ok hr
  cases hm.symm.trans hn
  obtain ⟨hs, before, hmatch⟩ := Regex.find_matchAt h
  obtain ⟨places, hstart, hclosed⟩ := (n.emit_sound 0 #[.accept]).2 hnull
  refine explore_ahead (p := n.program) hclosed (List.forall_mem_singleton.2 ⟨?_, .inr ⟨rfl, hstart⟩⟩) hmatch
  rwa [Input.ofBytes, List.size_toArray]

end Transcripts.Pattern
