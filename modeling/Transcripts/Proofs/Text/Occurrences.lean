import Transcripts.Proofs.Prompt.Find
import Transcripts.Proofs.Text.Split

/-!
# Occurrences of a key

A text is cut at the occurrences of a key from left to right, and each of them is passed over before the next one is
looked for.  No piece holds the key (`not_infix_of_mem_cut`), and what is put in its stead can be followed through the
text, character by character (`replaceAll_append`, `replaceAll_cons`).

If the first character of the key does not recur in it, nothing is missed by passing over occurrences: the pieces tell at
how many places the key stands (`occurrences_eq_places`), and if it stands at one place, what is put in its stead stands
there and nowhere else (`replaceAll_of_once`), even if it holds the key again.
-/
namespace Transcripts.Text

section

variable {key new : List Char}

/-! ## Pieces of a text -/

/-- A text is cut into one piece at least. -/
theorem cutFrom_ne_nil (key : List Char) (skip : Nat) (piece cs : List Char) : cutFrom key skip piece cs ≠ [] := by
  fun_induction cutFrom key skip piece cs <;> simp_all

theorem cutFrom_skip (key : List Char) (skip : Nat) (piece cs : List Char) :
    cutFrom key skip piece cs = cutFrom key 0 piece (cs.drop skip) := by
  induction cs generalizing skip with
  | nil => simp [cutFrom]
  | cons c cs ih =>
    cases skip with
    | zero => rfl
    | succ k => rw [cutFrom, ih, List.drop_succ_cons]

/-- The open piece comes in front of the first one. -/
theorem cutFrom_piece (key : List Char) (skip : Nat) (piece cs : List Char) :
    cutFrom key skip piece cs = (cutFrom key skip [] cs).modifyHead (piece.reverse ++ ·) := by
  induction cs generalizing skip piece with
  | nil => simp [cutFrom]
  | cons c cs ih =>
    cases skip with
    | succ k => rw [cutFrom, cutFrom, ih]
    | zero =>
      rw [cutFrom, cutFrom]
      split
      · simp
      · rw [ih, ih 0 [c], List.modifyHead_modifyHead]
        simp [Function.comp_def]

/-- No occurrence is left in a piece. -/
theorem not_infix_of_mem_cutFrom (hkey : key ≠ []) (skip : Nat) (piece cs : List Char)
    (h : ∀ i < piece.length, ¬ OccursAt key (piece.reverse ++ cs.drop skip) i) :
    ∀ p ∈ cutFrom key skip piece cs, ¬ key <:+: p := by
  -- an occurrence in a piece starts before its end, and stands in the text as well
  have hpiece {piece rest : List Char} (h : ∀ i < piece.length, ¬ OccursAt key (piece.reverse ++ rest) i) :
      ¬ key <:+: piece.reverse := by
    rintro ⟨before, after, hboth⟩
    have hlen := congrArg List.length hboth
    rw [List.length_append, List.length_append, List.length_reverse] at hlen
    have hpos := List.length_pos_iff.2 hkey
    refine h before.length (by omega) ?_
    rw [← hboth, List.append_assoc, List.append_assoc, OccursAt, List.drop_left]
    exact List.prefix_append _ _
  fun_induction cutFrom key skip piece cs with
  | case1 skip piece =>
    rw [List.forall_mem_singleton]
    exact hpiece h
  | case2 k piece c cs ih => exact ih h
  | case3 piece c cs hhere ih => exact List.forall_mem_cons.2 ⟨hpiece h, ih fun i hi => absurd hi i.not_lt_zero⟩
  | case4 piece c cs hhere ih =>
    refine ih fun i hi => ?_
    rw [List.reverse_cons, List.append_assoc, List.singleton_append]
    rcases Nat.lt_succ_iff_lt_or_eq.1 hi with hlt | rfl
    · exact h i hlt
    · rw [OccursAt, List.drop_zero, ← List.length_reverse, List.drop_left, ← List.isPrefixOf_iff_prefix]
      exact hhere

theorem not_infix_of_mem_cut (hkey : key ≠ []) {cs p : List Char} (h : p ∈ cut key cs) : ¬ key <:+: p :=
  not_infix_of_mem_cutFrom hkey 0 [] cs (fun i hi => absurd hi i.not_lt_zero) p h

/-! ## Replacing -/

theorem replaceAll_nil : replaceAll key new [] = [] := join_singleton new []

/-- What stands before a text that was replaced in stays before it. -/
theorem join_modifyHead (new front : List Char) {pieces : List (List Char)} (h : pieces ≠ []) :
    join new (pieces.modifyHead (front ++ ·)) = front ++ join new pieces := by
  match pieces, h with
  | [x], _ => rw [List.modifyHead_cons, join_singleton, join_singleton]
  | x :: y :: rest, _ => rw [List.modifyHead_cons, join_cons_cons, join_cons_cons, List.append_assoc]

/-- An occurrence at the start is replaced, and the text goes on behind it. -/
theorem replaceAll_append (hkey : key ≠ []) (cs : List Char) :
    replaceAll key new (key ++ cs) = new ++ replaceAll key new cs := by
  obtain ⟨first, others, rfl⟩ := List.exists_cons_of_ne_nil hkey
  have hhere : (first :: others).isPrefixOf (first :: (others ++ cs)) = true :=
    List.isPrefixOf_iff_prefix.2 (List.prefix_append _ _)
  rw [replaceAll, cut, List.cons_append, cutFrom, if_pos hhere, List.length_cons, Nat.add_sub_cancel, cutFrom_skip,
    List.drop_left, List.reverse_nil, join, List.intercalate_cons_of_ne_nil (cutFrom_ne_nil _ _ _ _)]
  rfl

/-- A character at which no occurrence starts is kept. -/
theorem replaceAll_cons {c : Char} {cs : List Char} (h : ¬ key <+: c :: cs) :
    replaceAll key new (c :: cs) = c :: replaceAll key new cs := by
  rw [replaceAll, cut, cutFrom, if_neg (by rwa [List.isPrefixOf_iff_prefix]), cutFrom_piece,
    join_modifyHead new _ (cutFrom_ne_nil key 0 [] cs)]
  rfl

/-- One character in place of another. -/
theorem replaceAll_singleton (a b : Char) (cs : List Char) :
    replaceAll [a] [b] cs = cs.map fun c => if c = a then b else c := by
  induction cs with
  | nil => exact replaceAll_nil
  | cons c cs ih =>
    by_cases hc : c = a
    · subst hc
      rw [List.map_cons, if_pos rfl, ← ih]
      exact replaceAll_append (List.cons_ne_nil c []) cs
    · rw [List.map_cons, if_neg hc, ← ih, replaceAll_cons]
      rintro ⟨rest, hrest⟩
      exact hc (List.cons.inj hrest).1.symm

end

/-! ## Occurrences that cannot overlap -/

/-- The number of places at which a key stands in a text. -/
def places (key : List Char) : List Char → Nat
  | [] => if key.isPrefixOf [] then 1 else 0
  | c :: cs => (if key.isPrefixOf (c :: cs) then 1 else 0) + places key cs

variable {first : Char} {others : List Char}

/-- There is one piece more than there are places: no occurrence starts where one is passed over. -/
theorem length_cutFrom (hnew : first ∉ others) (skip : Nat) (piece cs : List Char) (hskip : first ∉ cs.take skip) :
    (cutFrom (first :: others) skip piece cs).length = places (first :: others) cs + 1 := by
  fun_induction cutFrom (first :: others) skip piece cs with
  | case1 skip piece => rfl
  | case2 k piece c cs ih =>
    rw [List.take_succ_cons, List.mem_cons, not_or] at hskip
    have hno : (first :: others).isPrefixOf (c :: cs) = false := by
      simp [List.isPrefixOf, hskip.1]
    rw [ih hskip.2, places, hno]
    simp
  | case3 piece c cs hhere ih =>
    obtain ⟨rest, hrest⟩ := List.isPrefixOf_iff_prefix.1 hhere
    obtain ⟨rfl, rfl⟩ := List.cons.inj hrest
    have hpassed : first ∉ (others ++ rest).take ((first :: others).length - 1) := by
      rwa [List.length_cons, Nat.add_sub_cancel, List.take_left]
    rw [List.length_cons, ih hpassed, places, if_pos hhere, Nat.add_comm 1]
  | case4 piece c cs hhere ih =>
    rw [ih (by simp), places, if_neg hhere, Nat.zero_add]

theorem occurrences_eq_places (hnew : first ∉ others) (cs : List Char) :
    occurrences (first :: others) cs = places (first :: others) cs := by
  rw [occurrences, cut, length_cutFrom hnew 0 [] cs (by simp), Nat.add_sub_cancel]

/-- The pieces, joined with the key, are the text again. -/
theorem join_cutFrom (skip : Nat) (piece cs : List Char) :
    join (first :: others) (cutFrom (first :: others) skip piece cs) = piece.reverse ++ cs.drop skip := by
  fun_induction cutFrom (first :: others) skip piece cs with
  | case1 skip piece => rw [join_singleton, List.drop_nil, List.append_nil]
  | case2 k piece c cs ih => rw [ih, List.drop_succ_cons]
  | case3 piece c cs hhere ih =>
    obtain ⟨rest, hrest⟩ := List.isPrefixOf_iff_prefix.1 hhere
    obtain rfl : first = c := (List.cons.inj hrest).1
    obtain rfl : others ++ rest = cs := (List.cons.inj hrest).2
    rw [join, List.intercalate_cons_of_ne_nil (cutFrom_ne_nil _ _ _ _), ← join, ih, List.length_cons,
      Nat.add_sub_cancel, List.drop_left, List.append_assoc]
    rfl
  | case4 piece c cs hhere ih =>
    rw [ih, List.drop_zero, List.drop_zero, List.reverse_cons, List.append_assoc, List.singleton_append]

theorem places_eq_zero_iff {key cs : List Char} (hkey : key ≠ []) : places key cs = 0 ↔ ∀ i, ¬ OccursAt key cs i := by
  induction cs with
  | nil => simp [places, OccursAt, hkey]
  | cons c cs ih =>
    rw [places, Nat.add_eq_zero_iff, ih]
    constructor
    · rintro ⟨hfirst, hrest⟩ i
      cases i with
      | zero => rw [occursAt_zero]; simpa using hfirst
      | succ i => exact hrest i
    · intro h
      exact ⟨if_neg fun hp => h 0 (occursAt_zero.2 hp), fun i => h (i + 1)⟩

/-- A key stands at one place if there is one place where it stands. -/
theorem places_eq_one_iff {key cs : List Char} (hkey : key ≠ []) : places key cs = 1 ↔ ∃! i, OccursAt key cs i := by
  induction cs with
  | nil => simp [places, OccursAt, hkey, ExistsUnique]
  | cons c cs ih =>
    rw [places]
    by_cases hhere : key.isPrefixOf (c :: cs) = true
    · rw [if_pos hhere, Nat.add_eq_left, places_eq_zero_iff hkey]
      constructor
      · intro h
        refine ⟨0, occursAt_zero.2 hhere, fun i hi => ?_⟩
        cases i with
        | zero => rfl
        | succ i => exact absurd hi (h i)
      · rintro ⟨i, -, hunique⟩ j hj
        have hboth := (hunique 0 (occursAt_zero.2 hhere)).trans (hunique (j + 1) hj).symm
        cases hboth
    · rw [if_neg hhere, Nat.zero_add, ih]
      constructor
      · rintro ⟨i, hi, hunique⟩
        refine ⟨i + 1, hi, fun j hj => ?_⟩
        cases j with
        | zero => exact absurd (occursAt_zero.1 hj) hhere
        | succ j => exact congrArg (· + 1) (hunique j hj)
      · rintro ⟨i, hi, hunique⟩
        cases i with
        | zero => exact absurd (occursAt_zero.1 hi) hhere
        | succ i => exact ⟨i, hi, fun j hj => Nat.succ_inj.1 (hunique (j + 1) hj)⟩

/-- **What takes the place of a key** that stands once stands where the key stood. -/
theorem replaceAll_of_once (hnew : first ∉ others) {before after : List Char} (new : List Char)
    (h : places (first :: others) (before ++ (first :: others) ++ after) = 1) :
    replaceAll (first :: others) new (before ++ (first :: others) ++ after) = before ++ new ++ after := by
  generalize hcs : before ++ (first :: others) ++ after = cs at h ⊢
  have hlength := length_cutFrom hnew 0 [] cs (by simp)
  rw [h] at hlength
  obtain ⟨x, y, hpieces⟩ := List.length_eq_two.1 hlength
  have hjoin : join (first :: others) (cutFrom (first :: others) 0 [] cs) = cs := join_cutFrom 0 [] cs
  rw [hpieces, join_cons_cons, join_singleton] at hjoin
  -- the key stands behind both first pieces, and it stands once
  obtain ⟨i, -, hunique⟩ := (places_eq_one_iff (List.cons_ne_nil first others)).1 h
  have hx : x.length = i := hunique _ ⟨y, by rw [← hjoin, List.drop_left]⟩
  have hbefore : before.length = i := hunique _ ⟨after, by rw [← hcs, List.append_assoc, List.drop_left]⟩
  rw [← hcs, List.append_assoc] at hjoin
  obtain ⟨rfl, hrest⟩ := List.append_inj hjoin (hx.trans hbefore.symm)
  obtain rfl := List.append_cancel_left hrest
  rw [replaceAll, cut, hpieces, join_cons_cons, join_singleton, List.append_assoc]

end Transcripts.Text
