import Transcripts.Pattern.Reader
import Transcripts.Proofs.Steps

/-!
# A text in front of a pattern

A pattern can be written behind characters that stand for themselves.  The two texts together are then read
as what the pattern alone is read as, with those characters in front of its first choice: not in front of the
others, if there are any (`read_behind`).
-/
namespace Transcripts.Pattern

/-! ## Characters that stand for themselves -/

/-- A character that stands for itself between two constructs of a pattern. -/
def isPlain (c : Char) : Bool :=
  !(['(', ')', '|', '[', '?', '*', '+', '\x7b', '\\', '.', '^', '$'].contains c)

/-- The characters that do not. -/
theorem special_cases {c : Char} (h : isPlain c = false) :
    c = '(' ∨ c = ')' ∨ c = '|' ∨ c = '[' ∨ c = '?' ∨ c = '*' ∨ c = '+' ∨ c = '\x7b' ∨ c = '\\' ∨ c = '.' ∨ c = '^' ∨
      c = '$' := by
  simpa only [isPlain, List.contains_eq_mem, Bool.not_eq_false', decide_eq_true_eq, List.mem_cons, List.not_mem_nil,
    or_false] using h

/-- What some characters that stand for themselves are read as. -/
def spelled (cs : List Char) : List Ast := cs.map fun c => .char ⟨c, false⟩

theorem Reader.step_plain {c : Char} (h : isPlain c = true) (r : Reader) (cs : List Char) :
    r.step c cs = .ok (r.push (.char ⟨c, false⟩) cs) := by
  unfold step
  split <;> first | rfl | exact absurd h (by decide)

theorem Reader.run_plain {pre cs : List Char} (h : ∀ c ∈ pre, isPlain c = true) (fuel : Nat) {r : Reader}
    (hv : r.verbose = false) (hr : r.rest = pre ++ cs) :
    r.run (pre.length + fuel) = { r with rest := cs, items := (spelled pre).reverse ++ r.items }.run fuel := by
  induction pre generalizing r with
  | nil =>
    have hself : { r with rest := cs } = r := by rw [← List.nil_append cs, ← hr]
    simp only [List.length_nil, Nat.zero_add, spelled, List.map_nil, List.reverse_nil, List.nil_append, hself]
  | cons c pre ih =>
    have hstep := step_plain (h c List.mem_cons_self) r (pre ++ cs)
    rw [List.length_cons, Nat.succ_add, run, hv, skipIgnored, if_neg Bool.false_ne_true, hr]
    simp only [List.cons_append, hstep]
    refine (ih (r := r.push (.char ⟨c, false⟩) (pre ++ cs)) (fun x hx => h x (List.mem_cons_of_mem _ hx)) hv rfl).trans ?_
    simp only [push, hv, spelled, List.map_cons, List.reverse_cons, List.append_assoc, List.singleton_append]

/-! ## Readers with and without the characters -/

/-- Two open sequences with the choices before them.  The second has `pre` in front of its first choice, which
may still be open. -/
inductive Fronted (pre : List Ast) : (items choices items' choices' : List Ast) → Prop where
  | single (items : List Ast) : Fronted pre items [] (items ++ pre.reverse) []
  | several (items rest first : List Ast) :
      Fronted pre items (rest ++ [Ast.concat first]) items (rest ++ [Ast.concat (pre ++ first)])

namespace Fronted

variable {pre items choices items' choices' : List Ast}

theorem push (h : Fronted pre items choices items' choices') (a : Ast) :
    Fronted pre (a :: items) choices (a :: items') choices' := by
  cases h with
  | single => exact .single (a :: items)
  | several rest first => exact .several (a :: items) rest first

theorem pop {a : Ast} (h : Fronted pre (a :: items) choices items' choices') :
    ∃ below, items' = a :: below ∧ ∀ b, Fronted pre (b :: items) choices (b :: below) choices' := by
  cases h with
  | single => exact ⟨items ++ pre.reverse, rfl, fun b => .single (b :: items)⟩
  | several rest first => exact ⟨items, rfl, fun b => .several (b :: items) rest first⟩

/-- A choice that ends. -/
theorem bar (h : Fronted pre items choices items' choices') :
    Fronted pre [] (Ast.concat items.reverse :: choices) [] (Ast.concat items'.reverse :: choices') := by
  cases h with
  | single =>
    rw [List.reverse_append, List.reverse_reverse]
    exact .several [] [] items.reverse
  | several rest first => exact .several [] (Ast.concat items.reverse :: rest) first

theorem body (h : Fronted pre items choices items' choices') :
    ∃ first rest, (Ast.concat items.reverse :: choices).reverse = Ast.concat first :: rest ∧
      (Ast.concat items'.reverse :: choices').reverse = Ast.concat (pre ++ first) :: rest := by
  cases h with
  | single => exact ⟨items.reverse, [], rfl, by simp⟩
  | several rest first => exact ⟨first, rest.reverse ++ [Ast.concat items.reverse], by simp, by simp⟩

end Fronted

/-- Two stacks of open groups, of which only the outermost differ. -/
inductive FrontedOutside (pre : List Ast) : List OpenGroup → List OpenGroup → Prop where
  | last {kind : GroupKind} {items choices items' choices' : List Ast} {verbose : Bool} :
      Fronted pre items choices items' choices' →
      FrontedOutside pre [⟨kind, items, choices, verbose⟩] [⟨kind, items', choices', verbose⟩]
  | cons (g : OpenGroup) {gs gs' : List OpenGroup} :
      FrontedOutside pre gs gs' → FrontedOutside pre (g :: gs) (g :: gs')

/-- Two readers at the same place, of which the second has read `pre` before all that the first has. -/
inductive Behind (pre : List Ast) : Reader → Reader → Prop where
  | outside {rest : List Char} {verbose : Bool} {items choices items' choices' : List Ast} {captures : Nat}
      {names : List String} : Fronted pre items choices items' choices' →
      Behind pre ⟨rest, verbose, items, choices, [], captures, names⟩ ⟨rest, verbose, items', choices', [], captures, names⟩
  | inside {rest : List Char} {verbose : Bool} {items choices : List Ast} {groups groups' : List OpenGroup}
      {captures : Nat} {names : List String} : FrontedOutside pre groups groups' →
      Behind pre ⟨rest, verbose, items, choices, groups, captures, names⟩
        ⟨rest, verbose, items, choices, groups', captures, names⟩

namespace Behind

variable {pre : List Ast} {r r' s : Reader}

theorem same (h : Behind pre r r') :
    r'.rest = r.rest ∧ r'.verbose = r.verbose ∧ r'.captures = r.captures ∧ r'.names = r.names := by
  cases h <;> exact ⟨rfl, rfl, rfl, rfl⟩

theorem push (h : Behind pre r r') (a : Ast) (rest : List Char) : Behind pre (r.push a rest) (r'.push a rest) := by
  cases h with
  | outside h => exact .outside (h.push a)
  | inside h => exact .inside h

theorem setFlags (h : Behind pre r r') (items : List FlagItem) (rest : List Char) (verbose : Bool) :
    Behind pre ⟨rest, verbose, .flags items :: r.items, r.choices, r.groups, r.captures, r.names⟩
      ⟨rest, verbose, .flags items :: r'.items, r'.choices, r'.groups, r.captures, r.names⟩ := by
  cases h with
  | outside h => exact .outside (h.push _)
  | inside h => exact .inside h

theorem enter (h : Behind pre r r') (kind : GroupKind) (rest : List Char) (verbose : Bool) (captures : Nat)
    (names : List String) :
    Behind pre ⟨rest, verbose, [], [], ⟨kind, r.items, r.choices, r.verbose⟩ :: r.groups, captures, names⟩
      ⟨rest, verbose, [], [], ⟨kind, r'.items, r'.choices, r.verbose⟩ :: r'.groups, captures, names⟩ := by
  cases h with
  | outside h => exact .inside (.last h)
  | inside h => exact .inside (.cons _ h)

theorem bar (h : Behind pre r r') (rest : List Char) :
    Behind pre { r with rest := rest, items := [], choices := Ast.concat r.items.reverse :: r.choices }
      { r' with rest := rest, items := [], choices := Ast.concat r'.items.reverse :: r'.choices } := by
  cases h with
  | outside h => exact .outside h.bar
  | inside h => exact .inside h

theorem close {rest : List Char} (h : Behind pre r r') (hs : r.close rest = .ok s) :
    ∃ s', r'.close rest = .ok s' ∧ Behind pre s s' := by
  cases h with
  | outside h => cases hs
  | inside h =>
    cases h with
    | last h => cases hs; exact ⟨_, rfl, .outside (h.push _)⟩
    | cons g h => cases hs; exact ⟨_, rfl, .inside h⟩

theorem operand {a : Ast} {items : List Ast} (h : Behind pre r r') (ho : r.operand = .ok (a, items)) :
    ∃ items', r'.operand = .ok (a, items') ∧ ∀ b rest,
      Behind pre { r with items := b :: items, rest := rest } { r' with items := b :: items', rest := rest } := by
  have hitems : r.items = a :: items := by
    unfold Reader.operand at ho
    split at ho <;> cases ho
    assumption
  cases h with
  | outside h =>
    simp only at hitems
    subst hitems
    obtain ⟨below, rfl, hput⟩ := h.pop
    refine ⟨below, ?_, fun b rest => .outside (hput b)⟩
    cases a <;> first | rfl | cases ho
  | inside h => exact ⟨items, ho, fun b rest => .inside h⟩

theorem repetition {least : Nat} {most : Option Nat} {rest : List Char} (h : Behind pre r r')
    (hs : r.repetition least most rest = .ok s) : ∃ s', r'.repetition least most rest = .ok s' ∧ Behind pre s s' := by
  obtain ⟨⟨a, items⟩, ho, hs⟩ := Except.bind_eq_ok hs
  cases hs
  obtain ⟨items', ho', hput⟩ := h.operand ho
  exact ⟨_, by rw [Reader.repetition, ho']; rfl, hput _ _⟩

theorem counted {cs : List Char} (h : Behind pre r r') (hs : r.counted cs = .ok s) :
    ∃ s', r'.counted cs = .ok s' ∧ Behind pre s s' := by
  obtain ⟨-, hv, -, -⟩ := h.same
  obtain ⟨⟨a, items⟩, ho, hs⟩ := Except.bind_eq_ok hs
  obtain ⟨⟨least, most, greedy, rest⟩, hb, hs⟩ := Except.bind_eq_ok hs
  cases hs
  obtain ⟨items', ho', hput⟩ := h.operand ho
  exact ⟨_, by rw [Reader.counted, ho', hv]; simp only [bind, Except.bind, hb]; rfl, hput _ _⟩

theorem «open» {cs : List Char} (h : Behind pre r r') (hs : r.open cs = .ok s) :
    ∃ s', r'.open cs = .ok s' ∧ Behind pre s s' := by
  obtain ⟨-, hv, hc, hn⟩ := h.same
  obtain ⟨⟨opening, rest⟩, ho, hs⟩ := Except.bind_eq_ok hs
  unfold Reader.open
  simp only [bind, Except.bind, hv, hc, hn, ho] at hs ⊢
  cases opening with
  | setFlags items =>
    cases hs
    exact ⟨_, rfl, h.setFlags _ _ _⟩
  | plain items =>
    cases hs
    exact ⟨_, rfl, h.enter _ _ _ _ _⟩
  | capture name =>
    cases name with
    | none =>
      cases hs
      exact ⟨_, rfl, h.enter _ _ _ _ _⟩
    | some n =>
      simp only at hs ⊢
      split at hs
      · cases hs
      · rename_i hfresh
        cases hs
        exact ⟨_, if_neg hfresh, h.enter _ _ _ _ _⟩

/-- Readers at the same place read the same construct. -/
theorem step {c : Char} {cs : List Char} (h : Behind pre r r') (hs : r.step c cs = .ok s) :
    ∃ s', r'.step c cs = .ok s' ∧ Behind pre s s' := by
  obtain ⟨-, hv, -, -⟩ := h.same
  cases hp : isPlain c with
  | true =>
    rw [Reader.step_plain hp] at hs ⊢
    cases hs
    exact ⟨_, rfl, h.push _ _⟩
  | false =>
    rcases special_cases hp with rfl | rfl | rfl | rfl | rfl | rfl | rfl | rfl | rfl | rfl | rfl | rfl
    · exact h.open hs
    · exact h.close hs
    · cases hs; exact ⟨_, rfl, h.bar cs⟩
    · obtain ⟨⟨a, rest⟩, ha, hs⟩ := Except.bind_eq_ok (x := readBrackets r.verbose ('[' :: cs)) hs
      cases hs
      refine ⟨_, ?_, h.push a rest⟩
      simp only [Reader.step, hv, ha, bind, Except.bind]
      rfl
    · exact h.repetition hs
    · exact h.repetition hs
    · exact h.repetition hs
    · exact h.counted hs
    · obtain ⟨⟨e, rest⟩, he, hs⟩ := Except.bind_eq_ok (x := readEscape r.verbose cs) hs
      cases hs
      refine ⟨_, ?_, h.push e.ast rest⟩
      simp only [Reader.step, hv, he, bind, Except.bind]
      rfl
    all_goals
      cases hs
      exact ⟨_, rfl, h.push _ _⟩

/-- Readers at the same place read to the end in the same way. -/
theorem run {fuel : Nat} (h : Behind pre r r') (hs : r.run fuel = .ok s) :
    ∃ s', r'.run fuel = .ok s' ∧ Behind pre s s' := by
  induction fuel generalizing r r' with
  | zero => cases hs; exact ⟨r', rfl, h⟩
  | succ fuel ih =>
    obtain ⟨hr, hv, -, -⟩ := h.same
    rw [Reader.run] at hs ⊢
    rw [hr, hv]
    split at hs
    · cases hs
      refine ⟨_, rfl, ?_⟩
      cases h with
      | outside h => exact .outside h
      | inside h => exact .inside h
    · obtain ⟨t, ht, hs⟩ := Except.bind_eq_ok hs
      obtain ⟨t', ht', hbehind⟩ := h.step ht
      simp only [ht', bind, Except.bind]
      exact ih hbehind hs

end Behind

/-! ## Whole patterns -/

theorem read_eq_ok {text : List Char} {a : Ast} (h : read text = .ok a) :
    ∃ r, Reader.run (text.length + 1) ⟨text, false, [], [], [], 0, []⟩ = .ok r ∧ r.groups = [] ∧ r.body = a := by
  obtain ⟨r, hr, h⟩ := Except.bind_eq_ok h
  refine ⟨r, hr, ?_⟩
  cases hg : r.groups with
  | cons g groups => simp [hg, bind, Except.bind, throw, throwThe, MonadExceptOf.throw] at h
  | nil =>
    simp only [hg, List.isEmpty_nil, Bool.not_true, Bool.false_eq_true, if_false] at h
    split at h
    · cases h
    · cases h
      exact ⟨rfl, rfl⟩

/-- The reader of a pattern that has a text in front of it. -/
theorem run_behind {pre text : List Char} (hpre : ∀ c ∈ pre, isPlain c = true) {a : Ast} (ha : read text = .ok a) :
    ∃ r first rest, Reader.run ((pre ++ text).length + 1) ⟨pre ++ text, false, [], [], [], 0, []⟩ = .ok r ∧
      r.groups = [] ∧ a = Ast.choice (Ast.concat first :: rest) ∧
      r.body = Ast.choice (Ast.concat (spelled pre ++ first) :: rest) := by
  obtain ⟨r, hr, hg, rfl⟩ := read_eq_ok ha
  have hstart : Behind (spelled pre) ⟨text, false, [], [], [], 0, []⟩
      ⟨text, false, (spelled pre).reverse ++ [], [], [], 0, []⟩ := by
    rw [List.append_nil]
    exact .outside (.single [])
  obtain ⟨s, hs, hbehind⟩ := hstart.run hr
  rw [List.length_append, Nat.add_assoc, Reader.run_plain hpre _ rfl rfl]
  cases hbehind with
  | outside h =>
    obtain ⟨first, rest, hfirst, hfirst'⟩ := h.body
    exact ⟨_, first, rest, hs, rfl, congrArg Ast.choice hfirst, congrArg Ast.choice hfirst'⟩
  | inside h =>
    simp only at hg
    subst hg
    cases h

/-- **A text in front of a pattern** is read as part of its first choice. -/
theorem read_behind {pre text : List Char} (hpre : ∀ c ∈ pre, isPlain c = true) {a b : Ast}
    (ha : read text = .ok a) (hb : read (pre ++ text) = .ok b) :
    ∃ first rest, a = Ast.choice (Ast.concat first :: rest) ∧
      b = Ast.choice (Ast.concat (spelled pre ++ first) :: rest) := by
  obtain ⟨r, first, rest, hr, -, hfirst, hbody⟩ := run_behind hpre ha
  obtain ⟨r', hr', -, rfl⟩ := read_eq_ok hb
  rw [hr] at hr'
  cases hr'
  exact ⟨first, rest, hfirst, hbody⟩

/-- A text in front of a pattern can make it too deep, and nothing else. -/
theorem read_behind_ok {pre text : List Char} (hpre : ∀ c ∈ pre, isPlain c = true) {a : Ast} (ha : read text = .ok a) :
    (∃ b, read (pre ++ text) = .ok b) ∨ read (pre ++ text) = .error .nesting := by
  obtain ⟨r, -, -, hr, hg, -, -⟩ := run_behind hpre ha
  unfold read
  simp only [hr, hg, bind, Except.bind, List.isEmpty_nil, Bool.not_true, Bool.false_eq_true, if_false]
  split
  · exact .inr rfl
  · exact .inl ⟨_, rfl⟩

/-- A pattern that is no choice is read behind a text as a sequence that the text starts. -/
theorem read_behind_single {pre text : List Char} (hpre : ∀ c ∈ pre, isPlain c = true) {a b : Ast}
    (ha : read text = .ok a) (hb : read (pre ++ text) = .ok b) (hone : ∀ x y, a ≠ .alt x y) :
    ∃ items, b = Ast.concat (spelled pre ++ items) := by
  obtain ⟨first, rest, rfl, rfl⟩ := read_behind hpre ha hb
  cases rest with
  | nil => exact ⟨first, rfl⟩
  | cons y rest => exact absurd rfl (hone _ _)

end Transcripts.Pattern
