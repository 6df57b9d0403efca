import Transcripts.Pattern.Regex
import Transcripts.Proofs.Text.Boundary

/-!
# Matches lie in the input

The machine that runs a program only moves forward, and reads no further than the input goes.  So a match
ends no earlier than it starts, and no later than the input.
-/
namespace Transcripts.Pattern

open Transcripts.Text (Bytes)

/-- A character has bytes, and they lie in the input. -/
theorem charAt_length {input : Input} {i k : Nat} {c : Char} (hi : i ≤ input.size)
    (h : input.charAt i = some (c, k)) : 0 < k ∧ i + k ≤ input.size := by
  obtain ⟨hhere, rfl⟩ := Text.charAt_eq_some_iff.1 h
  have hsize : input.toList.length = input.size := Array.length_toList
  have hle := hhere.length_le
  rw [List.length_drop, hsize] at hle
  rw [String.length_utf8EncodeChar] at hle ⊢
  have := c.utf8Size_pos
  omega

/-- One step leads forward, and not beyond the input. -/
theorem next_mem {p : Program} {input : Input} {x y : Point} (hx : x.2 ≤ input.size)
    (hy : y ∈ p.next input x) : x.2 ≤ y.2 ∧ y.2 ≤ input.size := by
  unfold Program.next at hy
  split at hy
  · cases hy
  · cases hy
  · cases hy
  · split at hy
    · cases hy
    · rename_i c len hc
      have := charAt_length hx hc
      split at hy
      · simp only [List.mem_singleton] at hy; subst hy; simp only; omega
      · cases hy
  · split at hy
    · cases hy
    · rename_i b hb
      have := (Array.getElem?_eq_some_iff.1 hb).1
      split at hy
      · simp only [List.mem_singleton] at hy; subst hy; simp only; omega
      · cases hy
  · split at hy
    · simp only [List.mem_singleton] at hy; subst hy; simp only; omega
    · cases hy
  · simp only [List.mem_cons, List.not_mem_nil, or_false] at hy
    rcases hy with rfl | rfl <;> simp only <;> omega

/-- A property of all points of a stack that every step keeps is one of the accepting point that is reached. -/
theorem explore_invariant {p : Program} {input : Input} {P : Point → Prop}
    (hnext : ∀ x, P x → ∀ y ∈ p.next input x, P y) {fuel : Nat} {stack : List Point} {tried : Tried} {e : Nat}
    (hstack : ∀ x ∈ stack, P x) (h : (p.explore input fuel stack tried).1 = some e) :
    ∃ k, P (k, e) ∧ p.accepts (k, e) = true := by
  induction fuel generalizing stack tried with
  | zero => cases h
  | succ fuel ih =>
    cases stack with
    | nil => cases h
    | cons x stack =>
      obtain ⟨hx, hrest⟩ := List.forall_mem_cons.1 hstack
      simp only [Program.explore] at h
      split at h
      · exact ih hrest h
      split at h
      · rename_i haccepts
        cases h
        exact ⟨x.1, hx, haccepts⟩
      · refine ih (fun y hy => ?_) h
        rcases List.mem_append.1 hy with hy | hy
        · exact hnext x hx y hy
        · exact hrest y hy

/-- All that a stack leads to lies between the least place on it and the end of the input. -/
theorem explore_mem {p : Program} {input : Input} {i fuel : Nat} {stack : List Point} {tried : Tried} {e : Nat}
    (hstack : ∀ x ∈ stack, i ≤ x.2 ∧ x.2 ≤ input.size) (h : (p.explore input fuel stack tried).1 = some e) :
    i ≤ e ∧ e ≤ input.size := by
  have hnext : ∀ x : Point, i ≤ x.2 ∧ x.2 ≤ input.size → ∀ y ∈ p.next input x, i ≤ y.2 ∧ y.2 ≤ input.size := by
    intro x hx y hy
    have := next_mem hx.2 hy
    omega
  obtain ⟨k, he, -⟩ := explore_invariant hnext hstack h
  exact he

/-- What a search finds, it finds at one of its starts, where it goes on with what it tried before. -/
theorem searchFrom_matchAt {p : Program} {input : Input} {starts : Nat → Bool} {n i s e : Nat} {tried : Tried}
    (h : p.searchFrom input starts n i tried = some (s, e)) :
    s < i + n ∧ starts s = true ∧ ∃ before, (p.matchAt input s before).1 = some e := by
  induction n generalizing i tried with
  | zero => cases h
  | succ n ih =>
    have hlater {tried' : Tried} (h' : p.searchFrom input starts n (i + 1) tried' = some (s, e)) :
        s < i + (n + 1) ∧ starts s = true ∧ ∃ before, (p.matchAt input s before).1 = some e := by
      have := ih h'
      rwa [Nat.add_right_comm, Nat.add_assoc] at this
    simp only [Program.searchFrom] at h
    split at h
    · rename_i hstarts
      split at h
      · rename_i hm
        cases h
        exact ⟨by omega, hstarts, tried, congrArg Prod.fst hm⟩
      · exact hlater h
    · exact hlater h

/-- A pattern finds what its program matches at one of its starts. -/
theorem Regex.find_matchAt {r : Regex} {bs : Bytes} {s e : Nat} (h : r.find bs = some (s, e)) :
    s ≤ bs.length ∧ ∃ before, (r.program.matchAt (Input.ofBytes bs) s before).1 = some e := by
  obtain ⟨hs, -, hmatch⟩ := searchFrom_matchAt h
  rw [Input.ofBytes, List.size_toArray] at hs
  exact ⟨by omega, hmatch⟩

/-- **A match lies in the input**, and does not end before it starts. -/
theorem Regex.find_mem {r : Regex} {bs : Bytes} {s e : Nat} (h : r.find bs = some (s, e)) :
    s ≤ e ∧ e ≤ bs.length := by
  obtain ⟨hs, before, hm⟩ := Regex.find_matchAt h
  have hsize : (Input.ofBytes bs).size = bs.length := List.size_toArray
  rw [← hsize] at hs ⊢
  exact explore_mem (List.forall_mem_singleton.2 ⟨Nat.le_refl s, hs⟩) hm

end Transcripts.Pattern
