import Transcripts.Proofs.Pattern.Grouped
import Transcripts.Prompt

/-!
# Patterns in a group

A pattern that is written between parentheses is read as the pattern in a group, unless it ends in a comment, which
takes the closing parenthesis for its own.  So it is with the pattern that a trimmer makes for whole lines.
-/
namespace Transcripts.Pattern

/-- A pattern that ends in a comment: a closing parenthesis behind it is not read. -/
def EndsInComment (text : List Char) : Prop := ∃ a, read (text ++ [')']) = .ok a

namespace Reader

/-- A reader at the beginning of a text. -/
def start : Reader := ⟨[], false, [], [], [], 0, []⟩

/-- The pattern of a reader that has come to the end. -/
def result (r : Reader) : Except Fault Ast :=
  if r.groups.isEmpty then
    if r.body.depth .none > nestingLimit then .error .nesting else .ok r.body
  else .error .groupUnclosed

end Reader

theorem read_eq (text : List Char) :
    read text = (Reader.start.under text []).run (text.length + 1) >>= Reader.result := by
  unfold read
  congr 1
  funext r
  unfold Reader.result
  cases r.groups with
  | nil => simp only [List.isEmpty_nil, Bool.not_true, Bool.false_eq_true, if_false, if_true]; split <;> rfl
  | cons g groups => rfl

theorem Reader.result_eq_ok {r : Reader} {a : Ast} :
    r.result = .ok a ↔ r.groups = [] ∧ a.depth .none ≤ nestingLimit ∧ r.body = a := by
  unfold result
  cases r.groups with
  | cons g groups => simp
  | nil =>
    by_cases hdepth : r.body.depth .none > nestingLimit
    · simp only [List.isEmpty_nil, if_true, if_pos hdepth, true_and]
      constructor
      · nofun
      · rintro ⟨h, rfl⟩
        exact absurd h (Nat.not_le_of_gt hdepth)
    · simp only [List.isEmpty_nil, if_true, if_neg hdepth, true_and]
      constructor
      · intro h
        cases h
        exact ⟨Nat.le_of_not_gt hdepth, rfl⟩
      · rintro ⟨-, rfl⟩
        rfl

theorem Reader.run_nil {r : Reader} (gs : List OpenGroup) (fuel : Nat) :
    (r.under [] gs).run (fuel + 1) = .ok (r.under [] gs) := by
  rw [run_succ, skipIgnored_nil]

/-- A closing parenthesis closes the innermost of the further groups if the reader has none of its own. -/
theorem Reader.run_close {r : Reader} (h : r.groups = []) {m : List Char} (ht : Trailer (')' :: m)) (gs : List OpenGroup)
    (fuel : Nat) : (r.under (')' :: m) gs).run (fuel + 1) = { r with groups := gs }.close m >>= Reader.run fuel := by
  rw [run_succ, skipIgnored_trailer r.verbose ht]
  simp only [under, h, List.nil_append]
  rfl

/-- A pattern that is read is behind the end of a group in the same way, or it ends in a comment. -/
theorem read_trailing {text : List Char} {a : Ast} (h : read text = .ok a) :
    ∃ r : Reader, r.groups = [] ∧ r.body = a ∧ a.depth .none ≤ nestingLimit ∧
      ((¬ EndsInComment text ∧ ∀ t F gs, Trailer t → (text ++ t).length ≤ F →
          (Reader.start.under (text ++ t) gs).run (F + 1) = (r.under t gs).run (t.length + 1)) ∨
        (EndsInComment text ∧ '#' ∈ text ∧ ∀ t F gs, Trailer t → (text ++ t).length ≤ F →
          (Reader.start.under (text ++ t) gs).run (F + 1) = .ok (r.under [] gs))) := by
  rw [read_eq] at h
  obtain ⟨r, hr, hresult⟩ := Except.bind_eq_ok h
  obtain ⟨hgroups, hdepth, hbody⟩ := Reader.result_eq_ok.1 hresult
  refine ⟨r, hgroups, hbody, hdepth, ?_⟩
  have hclose : Trailer [')'] := .inr ⟨[], rfl, List.not_mem_nil, List.not_mem_nil⟩
  rcases (Reader.run_leaves (Nat.lt_succ_self _) hr).behind with hb | ⟨hhash, hb⟩
  · refine .inl ⟨?_, fun t F gs ht hF => congrFun (hb t F ht hF) gs⟩
    rintro ⟨b, hread⟩
    have hrun : (Reader.start.under (text ++ [')']) []).run ((text ++ [')']).length + 1) = .error .groupUnopened :=
      (congrFun (hb [')'] _ hclose (Nat.le_refl _)) []).trans (Reader.run_close hgroups hclose [] _)
    rw [read_eq, hrun] at hread
    cases hread
  · have hhidden (t : List Char) (F : Nat) (gs : List OpenGroup) (ht : Trailer t) (hF : (text ++ t).length ≤ F) :
        (Reader.start.under (text ++ t) gs).run (F + 1) = .ok (r.under [] gs) :=
      (congrFun (hb t F ht hF) gs).trans (Reader.run_nil gs _)
    refine .inr ⟨⟨a, ?_⟩, hhash, hhidden⟩
    rw [read_eq, hhidden _ _ [] hclose (Nat.le_refl _)]
    exact Reader.result_eq_ok.2 ⟨by simp [Reader.under, hgroups], hdepth, hbody⟩

/-! ## Whole lines -/

/-- What stands in front of a pattern in the pattern for a line. -/
def lineOpening : List Char := "^\\s*(?:".toList

/-- What stands behind it, from the end of its group. -/
def lineClosing : List Char := "\\s*$|^\\s*$".toList

theorem linePattern_toList (pattern : String) :
    (Trimmer.linePattern pattern).toList = lineOpening ++ (pattern.toList ++ ')' :: lineClosing) := by
  unfold Trimmer.linePattern lineOpening lineClosing
  rw [String.toList_append, String.toList_append, List.append_assoc]
  rfl

theorem lineClosing_trailer : Trailer (')' :: lineClosing) := .inr ⟨_, rfl, by decide, by decide⟩

/-- Blanks, any number of them. -/
def blanks : Ast := .repetition 0 none true (.shorthand .space false)

/-- A line that a pattern takes, with blanks around it, or that is blank. -/
def lineAst (a : Ast) : Ast :=
  .alt (Ast.concat [.anchor .lineStart, blanks, .group [] a, blanks, .anchor .lineEnd])
    (Ast.concat [.anchor .lineStart, blanks, .anchor .lineEnd])

/-- The group that the pattern stands in. -/
def lineGroup : OpenGroup := ⟨.plain [], [blanks, .anchor .lineStart], [], false⟩

namespace Reader

/-- A reader that has read the pattern for a line with the pattern `a` in it. -/
def lineRead (r : Reader) (a : Ast) : Reader :=
  { r with
    rest := [], verbose := false, items := [.anchor .lineEnd, blanks, .anchor .lineStart]
    choices := [Ast.concat [.anchor .lineStart, blanks, .group [] a, blanks, .anchor .lineEnd]], groups := [] }

theorem lineRead_result (r : Reader) (a : Ast) :
    (r.lineRead a).result =
      if (lineAst a).depth .none > nestingLimit then .error .nesting else .ok (lineAst a) := if_pos rfl

theorem run_lineOpening (x : List Char) (fuel : Nat) :
    (start.under (lineOpening ++ x) []).run (fuel + 4) = (start.under x [lineGroup]).run fuel := rfl

/-- Behind the group there are eight more constructs. -/
theorem run_lineEnd (r : Reader) (a : Ast) (fuel : Nat) :
    { r with
      rest := lineClosing, verbose := false, items := [.group [] a, blanks, .anchor .lineStart]
      choices := [], groups := [] }.run (fuel + 9) = .ok (r.lineRead a) := rfl

theorem run_lineClosing {r : Reader} (h : r.groups = []) :
    (r.under (')' :: lineClosing) [lineGroup]).run ((')' :: lineClosing).length + 1) = .ok (r.lineRead r.body) :=
  (run_close h lineClosing_trailer [lineGroup] _).trans (run_lineEnd r r.body 3)

end Reader

/-- Up to the group, with the fuel that the text in it needs. -/
theorem read_lineOpening {pattern : String} {F : Nat} (hF : (pattern.toList ++ ')' :: lineClosing).length ≤ F) :
    read (Trimmer.linePattern pattern).toList =
      (Reader.start.under (pattern.toList ++ ')' :: lineClosing) [lineGroup]).run (F + 1) >>= Reader.result := by
  have hlen : lineOpening.length = 7 := rfl
  rw [read_eq, linePattern_toList]
  congr 1
  calc (Reader.start.under _ []).run (List.length _ + 1)
      = (Reader.start.under _ []).run (F + 8 + 4) := Reader.run_fuel (Nat.lt_succ_self _) ?_
    _ = (Reader.start.under _ [lineGroup]).run (F + 8) := Reader.run_lineOpening _ _
    _ = (Reader.start.under _ [lineGroup]).run (F + 1) := Reader.run_fuel ?_ (Nat.lt_succ_of_le hF)
  · rw [Reader.under_rest, List.length_append, hlen]
    omega
  · rw [Reader.under_rest]
    omega

/-- **The pattern for a line** is read if the pattern in it is, which must not end in a comment. -/
theorem read_linePattern {pattern : String} {a : Ast} (h : read pattern.toList = .ok a) :
    (¬ EndsInComment pattern.toList ∧ read (Trimmer.linePattern pattern).toList =
        if (lineAst a).depth .none > nestingLimit then .error .nesting else .ok (lineAst a)) ∨
      (EndsInComment pattern.toList ∧ '#' ∈ pattern.toList ∧
        read (Trimmer.linePattern pattern).toList = .error .groupUnclosed) := by
  obtain ⟨r, hgroups, rfl, -, hrun⟩ := read_trailing h
  rcases hrun with ⟨hcomment, hrun⟩ | ⟨hcomment, hhash, hrun⟩
  · refine .inl ⟨hcomment, ?_⟩
    rw [read_lineOpening (Nat.le_refl _), hrun _ _ _ lineClosing_trailer (Nat.le_refl _), Reader.run_lineClosing hgroups]
    simp only [bind, Except.bind]
    exact Reader.lineRead_result r r.body
  · refine .inr ⟨hcomment, hhash, ?_⟩
    rw [read_lineOpening (Nat.le_refl _), hrun _ _ _ lineClosing_trailer (Nat.le_refl _)]
    simp [bind, Except.bind, Reader.result, Reader.under]

end Transcripts.Pattern
