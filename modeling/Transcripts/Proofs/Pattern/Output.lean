import Transcripts.Pattern.Regex
import Transcripts.Proofs.Pattern.Reading

/-!
# Patterns for text and patterns for output

A pattern that has a meaning for text has one for output, too: bytes may match more, and what a dot stands for does
not decide whether a pattern is valid.  So a pattern for text is one for output unless it passes a limit, and so it
is behind characters that stand for themselves.
-/
namespace Transcripts.Pattern

open Transcripts.Unicode (Ranges)

/-- Faults of patterns that are written correctly: they are nested too deep, or too large. -/
def Fault.IsLimit (f : Fault) : Prop := f = .nesting ∨ f = .tooLarge

/-- The same flags, but for what a dot stands for. -/
def Flags.SameButDot (fs fs' : Flags) : Prop := fs' = { fs with dotAll := fs'.dotAll }

namespace Flags

/-- Switches a flag, or notes that those that follow are switched off. -/
def applyItem (x : Bool × Flags) : FlagItem → Bool × Flags
  | .negation => (false, x.2)
  | .flag f => (x.1, x.2.set x.1 f)

theorem apply_eq (fs : Flags) (items : List FlagItem) : fs.apply items = (items.foldl applyItem (true, fs)).2 := rfl

end Flags

namespace Flags.SameButDot

variable {fs fs' : Flags}

theorem set (h : fs.SameButDot fs') (on : Bool) (f : Flag) : (fs.set on f).SameButDot (fs'.set on f) := by
  rw [h]
  cases f <;> rfl

theorem foldl_applyItem (items : List FlagItem) (on : Bool) (h : fs.SameButDot fs') :
    (items.foldl applyItem (on, fs)).2.SameButDot (items.foldl applyItem (on, fs')).2 := by
  induction items generalizing on fs fs' with
  | nil => exact h
  | cons item items ih =>
    cases item with
    | negation => exact ih false h
    | flag f => exact ih on (h.set on f)

theorem apply (h : fs.SameButDot fs') (items : List FlagItem) : (fs.apply items).SameButDot (fs'.apply items) := by
  rw [apply_eq, apply_eq]
  exact foldl_applyItem items true h

end Flags.SameButDot

/-! ## Classes -/

variable {fs fs' : Flags}

theorem checkText_eq_ok {mode : Mode} {rs out : Ranges} (h : checkText mode fs rs = .ok out) : out = rs := by
  unfold checkText at h
  split at h
  · cases h
  · cases h
    rfl

theorem literalPoint_bytes {l : Literal} {n : Nat} (h : literalPoint .text fs l = .ok n) (hfs : fs.SameButDot fs') :
    literalPoint .bytes fs' l = .ok n := by
  have hunicode : fs'.unicode = fs.unicode := by rw [hfs]
  unfold literalPoint at h ⊢
  simp only [hunicode] at h ⊢
  by_cases hu : fs.unicode = true
  · rw [if_pos hu] at h ⊢
    exact h
  · rw [if_neg hu] at h ⊢
    by_cases hn : l.char.toNat < 0x80
    · rw [if_pos hn] at h ⊢
      exact h
    · rw [if_neg hn] at h
      split at h
      · cases h
      · cases h

theorem shorthandSet_bytes {c : Shorthand} {negated : Bool} {rs : Ranges} (h : shorthandSet .text fs c negated = .ok rs)
    (hfs : fs.SameButDot fs') : shorthandSet .bytes fs' c negated = .ok rs := by
  rw [checkText_eq_ok h, hfs]
  rfl

theorem propertySet_same {q : PropertyQuery} {negated : Bool} (hfs : fs.SameButDot fs') :
    propertySet fs' q negated = propertySet fs q negated := by
  rw [hfs]
  rfl

/-- What a set stands for does not depend on the dot, and not on the input if it stands for text. -/
theorem ClassSet.ranges_bytes {set : ClassSet} {rs : Ranges} (h : set.ranges .text fs = .ok rs)
    (hfs : fs.SameButDot fs') : set.ranges .bytes fs' = .ok rs := by
  induction set generalizing rs with
  | empty => exact h
  | char l =>
    obtain ⟨n, hn, h⟩ := Except.bind_eq_ok h
    rw [ranges, literalPoint_bytes hn hfs]
    exact h
  | range lo hi =>
    obtain ⟨a, ha, h⟩ := Except.bind_eq_ok h
    obtain ⟨b, hb, h⟩ := Except.bind_eq_ok h
    rw [ranges, literalPoint_bytes ha hfs, literalPoint_bytes hb hfs, hfs]
    exact h
  | named c negated =>
    rw [checkText_eq_ok h, ranges, hfs]
    rfl
  | shorthand c negated => exact shorthandSet_bytes h hfs
  | property q negated =>
    rw [ranges, propertySet_same hfs]
    exact h
  | nested negated set ih =>
    obtain ⟨inner, hinner, h⟩ := Except.bind_eq_ok h
    rw [checkText_eq_ok h, ranges, ih hinner, hfs]
    rfl
  | union a b iha ihb =>
    obtain ⟨xs, hxs, h⟩ := Except.bind_eq_ok h
    obtain ⟨ys, hys, h⟩ := Except.bind_eq_ok h
    rw [ranges, iha hxs, ihb hys]
    exact h
  | op o a b iha ihb =>
    obtain ⟨xs, hxs, h⟩ := Except.bind_eq_ok h
    obtain ⟨ys, hys, h⟩ := Except.bind_eq_ok h
    rw [ranges, iha hxs, ihb hys, hfs]
    exact h

/-! ## Patterns -/

theorem literalNode_bytes (fs : Flags) (l : Literal) : ∃ n, literalNode .bytes fs l = .ok n := by
  unfold literalNode
  simp only
  split
  · exact ⟨_, rfl⟩
  · exact ⟨_, rfl⟩

namespace Ast

/-- The pattern has a meaning under the flags `fs`, and the flags after it are `gs`. -/
def HasMeaning (mode : Mode) (fs gs : Flags) (a : Ast) : Prop := ∃ ns, a.alternatives mode fs = .ok (ns, gs)

variable {mode : Mode} {gs hs : Flags} {a b : Ast}

/-- What is made of two patterns, one after the other, has a meaning just if they have. -/
theorem hasMeaning_both {c : Ast} {f : List Node → List Node → List Node}
    (hc : c.alternatives mode fs = (do
      let (xs, gs) ← a.alternatives mode fs
      let (ys, hs) ← b.alternatives mode gs
      return (f xs ys, hs))) :
    c.HasMeaning mode fs hs ↔ ∃ gs, a.HasMeaning mode fs gs ∧ b.HasMeaning mode gs hs := by
  unfold HasMeaning
  rw [hc]
  constructor
  · rintro ⟨ns, h⟩
    obtain ⟨⟨xs, gs⟩, hxs, h⟩ := Except.bind_eq_ok h
    obtain ⟨⟨ys, hs⟩, hys, h⟩ := Except.bind_eq_ok h
    cases h
    exact ⟨gs, ⟨xs, hxs⟩, ys, hys⟩
  · rintro ⟨gs, ⟨xs, hxs⟩, ys, hys⟩
    exact ⟨_, (Except.bind_of_eq_ok hxs).trans (Except.bind_of_eq_ok hys)⟩

theorem hasMeaning_seq :
    (Ast.seq a b).HasMeaning mode fs hs ↔ ∃ gs, a.HasMeaning mode fs gs ∧ b.HasMeaning mode gs hs :=
  hasMeaning_both (f := fun xs ys => [(Node.choice xs).concat (Node.choice ys)]) rfl

theorem hasMeaning_alt :
    (Ast.alt a b).HasMeaning mode fs hs ↔ ∃ gs, a.HasMeaning mode fs gs ∧ b.HasMeaning mode gs hs :=
  hasMeaning_both rfl

theorem hasMeaning_repetition {least : Nat} {most : Option Nat} {greedy : Bool} :
    (Ast.repetition least most greedy a).HasMeaning mode fs gs ↔ a.HasMeaning mode fs gs := by
  constructor
  · rintro ⟨ns, h⟩
    obtain ⟨⟨xs, gs⟩, hxs, h⟩ := Except.bind_eq_ok h
    cases h
    exact ⟨xs, hxs⟩
  · rintro ⟨xs, hxs⟩
    exact ⟨_, Except.bind_of_eq_ok hxs⟩

/-- What is made of a pattern in parentheses has a meaning just if the pattern has; its flags are forgotten. -/
theorem hasMeaning_inner {c : Ast} {inner : Flags} {f : List Node → List Node}
    (hc : c.alternatives mode fs = (do
      let (ns, _) ← a.alternatives mode inner
      return (f ns, fs))) :
    c.HasMeaning mode fs gs ↔ gs = fs ∧ ∃ gs, a.HasMeaning mode inner gs := by
  unfold HasMeaning
  rw [hc]
  constructor
  · rintro ⟨ns, h⟩
    obtain ⟨⟨xs, hs⟩, hxs, h⟩ := Except.bind_eq_ok h
    cases h
    exact ⟨rfl, hs, xs, hxs⟩
  · rintro ⟨rfl, hs, xs, hxs⟩
    exact ⟨_, Except.bind_of_eq_ok hxs⟩

theorem hasMeaning_capture {index : Nat} :
    (Ast.capture index a).HasMeaning mode fs gs ↔ gs = fs ∧ ∃ gs, a.HasMeaning mode fs gs :=
  hasMeaning_inner (f := fun ns => [.capture index (Node.choice ns)]) rfl

theorem hasMeaning_group {items : List FlagItem} :
    (Ast.group items a).HasMeaning mode fs gs ↔ gs = fs ∧ ∃ gs, a.HasMeaning mode (fs.apply items) gs :=
  hasMeaning_inner (f := fun ns => [Node.choice ns]) rfl

/-- A pattern with a meaning for text has one for bytes. -/
theorem HasMeaning.bytes (h : a.HasMeaning .text fs gs) (hfs : fs.SameButDot fs') :
    ∃ gs', a.HasMeaning .bytes fs' gs' ∧ gs.SameButDot gs' := by
  induction a generalizing fs fs' gs with
  | empty =>
    obtain ⟨ns, h⟩ := h
    cases h
    exact ⟨_, ⟨_, rfl⟩, hfs⟩
  | flags items =>
    obtain ⟨ns, h⟩ := h
    cases h
    exact ⟨_, ⟨_, rfl⟩, hfs.apply items⟩
  | char l =>
    obtain ⟨ns, h⟩ := h
    obtain ⟨n, hn, h⟩ := Except.bind_eq_ok h
    cases h
    obtain ⟨n', hn'⟩ := literalNode_bytes fs' l
    exact ⟨_, ⟨_, Except.bind_of_eq_ok hn'⟩, hfs⟩
  | dot =>
    obtain ⟨ns, h⟩ := h
    obtain ⟨n, hn, h⟩ := Except.bind_eq_ok h
    cases h
    exact ⟨_, ⟨_, rfl⟩, hfs⟩
  | anchor a =>
    obtain ⟨ns, h⟩ := h
    cases h
    exact ⟨_, ⟨_, rfl⟩, hfs⟩
  | shorthand c negated =>
    obtain ⟨ns, h⟩ := h
    obtain ⟨rs, hrs, h⟩ := Except.bind_eq_ok h
    cases h
    exact ⟨_, ⟨_, Except.bind_of_eq_ok (shorthandSet_bytes hrs hfs)⟩, hfs⟩
  | property q negated =>
    obtain ⟨ns, h⟩ := h
    obtain ⟨rs, hrs, h⟩ := Except.bind_eq_ok h
    cases h
    exact ⟨_, ⟨_, Except.bind_of_eq_ok ((propertySet_same hfs).trans hrs)⟩, hfs⟩
  | brackets negated set =>
    obtain ⟨ns, h⟩ := h
    obtain ⟨rs, hrs, h⟩ := Except.bind_eq_ok h
    obtain ⟨out, hout, h⟩ := Except.bind_eq_ok h
    cases h
    exact ⟨_, ⟨_, Except.bind_of_eq_ok (ClassSet.ranges_bytes hrs hfs)⟩, hfs⟩
  | repetition least most greedy sub ih =>
    obtain ⟨gs', hsub, hsame⟩ := ih (hasMeaning_repetition.1 h) hfs
    exact ⟨gs', hasMeaning_repetition.2 hsub, hsame⟩
  | capture index sub ih =>
    obtain ⟨rfl, gs, h⟩ := hasMeaning_capture.1 h
    obtain ⟨gs', hsub, -⟩ := ih h hfs
    exact ⟨fs', hasMeaning_capture.2 ⟨rfl, gs', hsub⟩, hfs⟩
  | group items sub ih =>
    obtain ⟨rfl, gs, h⟩ := hasMeaning_group.1 h
    obtain ⟨gs', hsub, -⟩ := ih h (hfs.apply items)
    exact ⟨fs', hasMeaning_group.2 ⟨rfl, gs', hsub⟩, hfs⟩
  | seq a b iha ihb =>
    obtain ⟨mid, ha, hb⟩ := hasMeaning_seq.1 h
    obtain ⟨mid', ha', hmid⟩ := iha ha hfs
    obtain ⟨gs', hb', hsame⟩ := ihb hb hmid
    exact ⟨gs', hasMeaning_seq.2 ⟨mid', ha', hb'⟩, hsame⟩
  | alt a b iha ihb =>
    obtain ⟨mid, ha, hb⟩ := hasMeaning_alt.1 h
    obtain ⟨mid', ha', hmid⟩ := iha ha hfs
    obtain ⟨gs', hb', hsame⟩ := ihb hb hmid
    exact ⟨gs', hasMeaning_alt.2 ⟨mid', ha', hb'⟩, hsame⟩

/-! ## Behind characters -/

theorem hasMeaning_char (c : Char) : (Ast.char ⟨c, false⟩).HasMeaning mode fs fs := by
  have hnode : ∃ n, literalNode mode fs ⟨c, false⟩ = .ok n := by
    unfold literalNode
    simp only [Bool.and_false, Bool.false_and, Bool.false_eq_true, if_false]
    exact ⟨_, rfl⟩
  obtain ⟨n, hn⟩ := hnode
  exact ⟨[n], Except.bind_of_eq_ok hn⟩

theorem HasMeaning.concat_spelled {items : List Ast} (h : (Ast.concat items).HasMeaning mode fs gs) (pre : List Char) :
    (Ast.concat (spelled pre ++ items)).HasMeaning mode fs gs := by
  induction pre with
  | nil => exact h
  | cons c pre ih =>
    change (Ast.concat (.char ⟨c, false⟩ :: (spelled pre ++ items))).HasMeaning mode fs gs
    cases hmore : spelled pre ++ items with
    | nil =>
      rw [hmore] at ih
      obtain ⟨ns, hns⟩ := ih
      cases hns
      exact hasMeaning_char c
    | cons b more =>
      rw [hmore] at ih
      exact hasMeaning_seq.2 ⟨fs, hasMeaning_char c, ih⟩

theorem HasMeaning.choice_spelled {first rest : List Ast}
    (h : (Ast.choice (Ast.concat first :: rest)).HasMeaning mode fs gs) (pre : List Char) :
    (Ast.choice (Ast.concat (spelled pre ++ first) :: rest)).HasMeaning mode fs gs := by
  cases rest with
  | nil => exact h.concat_spelled pre
  | cons b rest =>
    obtain ⟨mid, hfirst, hrest⟩ := hasMeaning_alt.1 h
    exact hasMeaning_alt.2 ⟨mid, hfirst.concat_spelled pre, hrest⟩

end Ast

/-! ## Compiled patterns -/

/-- What fails, fails because a limit is passed. -/
def FailsOnlyByLimit {α : Type} (x : Except Fault α) : Prop := ∀ f, x = .error f → f.IsLimit

theorem FailsOnlyByLimit.ok_or {α : Type} {x : Except Fault α} (h : FailsOnlyByLimit x) :
    (∃ a, x = .ok a) ∨ ∃ f, x = .error f ∧ f.IsLimit := by
  cases x with
  | ok a => exact .inl ⟨a, rfl⟩
  | error f => exact .inr ⟨f, rfl, h f rfl⟩

namespace Regex

theorem text_eq_ok {source : String} {r : Regex} (h : text source = .ok r) :
    ∃ a gs, read source.toList = .ok a ∧ a.HasMeaning .text {} gs := by
  obtain ⟨a, ha, h⟩ := Except.bind_eq_ok h
  obtain ⟨n, hn, -⟩ := Except.bind_eq_ok h
  obtain ⟨⟨ns, gs⟩, hns, -⟩ := Except.bind_eq_ok hn
  exact ⟨a, gs, ha, ns, hns⟩

/-- A pattern with a meaning can be too large, and nothing else. -/
theorem compile_limit {mode : Mode} {fs gs : Flags} {source : String} {a : Ast} (ha : read source.toList = .ok a)
    (h : a.HasMeaning mode fs gs) : FailsOnlyByLimit (compile mode fs source) := by
  obtain ⟨ns, hns⟩ := h
  intro f hf
  unfold compile Ast.node at hf
  simp only [ha, hns, bind, Except.bind] at hf
  by_cases hlarge : (Node.choice ns).isTooLarge = true
  · simp only [hlarge, if_true] at hf
    cases hf
    exact .inr rfl
  · simp only [hlarge] at hf
    cases hf

theorem compile_nesting {mode : Mode} {fs : Flags} {source : String} (h : read source.toList = .error .nesting) :
    FailsOnlyByLimit (compile mode fs source) := by
  intro f hf
  unfold compile at hf
  rw [h] at hf
  cases hf
  exact .inl rfl

/-- **A pattern for text** is one for output, also behind characters that stand for themselves. -/
theorem output_limit {source : String} {r : Regex} (h : text source = .ok r) (pre : String)
    (hpre : ∀ c ∈ pre.toList, isPlain c = true) : FailsOnlyByLimit (output (pre ++ source)) := by
  obtain ⟨a, gs, ha, hmeaning⟩ := text_eq_ok h
  have hsame : Flags.SameButDot {} { dotAll := true } := rfl
  obtain ⟨gs', hmeaning', -⟩ := hmeaning.bytes hsame
  rcases read_behind_ok hpre ha with ⟨b, hb⟩ | hnesting
  · obtain ⟨first, rest, rfl, rfl⟩ := read_behind hpre ha hb
    exact compile_limit (by rwa [String.toList_append]) (hmeaning'.choice_spelled pre.toList)
  · exact compile_nesting (by rwa [String.toList_append])

end Regex

end Transcripts.Pattern
