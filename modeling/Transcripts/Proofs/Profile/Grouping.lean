import Mathlib.Data.List.SplitBy
import Transcripts.Profile
import Transcripts.Proofs.Text.Lines
import Transcripts.Proofs.Text.Split

/-!
# Lines that continue others

A section may be sent with its indented lines joined to the line before them.  There is one way to cut its physical lines
into groups in which all lines but the first are indented and the first is not, unless it is the first of all, and the
lines that are sent are the groups of it, joined.  So no line is lost, repeated or moved.
-/
namespace Transcripts

/-- Some lines in groups, one after the other: a line that is not indented opens a group, and an indented one continues
it.  The first line opens a group in any case. -/
structure Grouping (lines : List (List Char)) (groups : List (List (List Char))) : Prop where
  flatten : groups.flatten = lines
  ne_nil : ∀ g ∈ groups, g ≠ []
  continued : ∀ g ∈ groups, ∀ line ∈ g.tail, isIndented line = true
  opened : ∀ g ∈ groups.tail, ∀ line, g.head? = some line → isIndented line = false

namespace Grouping

variable {lines : List (List Char)} {groups groups' : List (List (List Char))}

/-! ## There is one grouping -/

/-- What relates everything to all but the first relates what stands side by side. -/
theorem isChain_of_tail {α : Type} {R : α → α → Prop} {xs : List α} (h : ∀ x ∈ xs, ∀ y ∈ xs.tail, R x y) :
    xs.IsChain R := by
  induction xs with
  | nil => exact .nil
  | cons x xs ih =>
    cases xs with
    | nil => exact .singleton x
    | cons y ys =>
      have hfirst : R x y := h x List.mem_cons_self y List.mem_cons_self
      refine .cons_cons hfirst (ih fun a ha b hb => ?_)
      exact h a (List.mem_cons_of_mem x ha) b (List.mem_cons_of_mem y hb)

/-- The groups are cut where a line is not indented. -/
theorem eq_splitBy (h : Grouping lines groups) : groups = lines.splitBy fun _ line => isIndented line := by
  refine (List.splitBy_eq_iff.2 ⟨h.flatten.symm, fun hnil => h.ne_nil _ hnil rfl, fun g hg => ?_, ?_⟩).symm
  · exact isChain_of_tail fun _ _ line hline => h.continued g hg line hline
  · refine isChain_of_tail fun g hg g' hg' => ?_
    have hne := h.ne_nil g' (List.mem_of_mem_tail hg')
    exact ⟨h.ne_nil g hg, hne, h.opened g' hg' _ (List.head?_eq_some_head hne)⟩

theorem unique (h : Grouping lines groups) (h' : Grouping lines groups') : groups = groups' :=
  h.eq_splitBy.trans h'.eq_splitBy.symm

/-! ## The groups that are sent -/

/-- One group. -/
theorem single {g : List (List Char)} (hne : g ≠ []) (hcontinued : ∀ line ∈ g.tail, isIndented line = true) :
    Grouping g [g] where
  flatten := List.append_nil g
  ne_nil := List.forall_mem_singleton.2 hne
  continued := List.forall_mem_singleton.2 hcontinued
  opened := nofun

/-- One more group in front of a line that is not indented. -/
theorem cons {g : List (List Char)} {line : List Char} (hne : g ≠ [])
    (hcontinued : ∀ line ∈ g.tail, isIndented line = true) (hline : isIndented line = false)
    (h : Grouping (line :: lines) groups) : Grouping (g ++ line :: lines) (g :: groups) where
  flatten := by rw [List.flatten_cons, h.flatten]
  ne_nil := List.forall_mem_cons.2 ⟨hne, h.ne_nil⟩
  continued := List.forall_mem_cons.2 ⟨hcontinued, h.continued⟩
  opened := by
    intro g' hg' l hl
    cases groups with
    | nil => cases hg'
    | cons first rest =>
      rcases List.mem_cons.1 hg' with rfl | hg'
      · obtain ⟨l', tail, rfl⟩ := List.exists_cons_of_ne_nil (h.ne_nil g' List.mem_cons_self)
        cases hl
        have hhead := (List.cons.inj h.flatten).1
        rwa [hhead]
      · exact h.opened g' hg' l hl

end Grouping

/-- From an open group on, the lines that are sent are the groups of what is open and what is to come. -/
theorem groupLinesFrom_grouping (sep : List Char) {group : List (List Char)} (hne : group ≠ [])
    (hcontinued : ∀ line ∈ group.reverse.tail, isIndented line = true) (lines : List (List Char)) :
    ∃ groups, Grouping (group.reverse ++ lines) groups ∧
      groupLinesFrom sep group lines = groups.map (Text.join sep) := by
  have hreverse : group.reverse ≠ [] := fun h => hne (List.reverse_eq_nil_iff.1 h)
  induction lines generalizing group with
  | nil =>
    rw [List.append_nil]
    exact ⟨[group.reverse], .single hreverse hcontinued, rfl⟩
  | cons line rest ih =>
    rw [groupLinesFrom]
    cases hline : isIndented line with
    | true =>
      have hall : ∀ l ∈ (line :: group).reverse.tail, isIndented l = true := by
        rw [List.reverse_cons, List.tail_append_of_ne_nil hreverse]
        intro l hl
        rcases List.mem_append.1 hl with hl | hl
        · exact hcontinued l hl
        · rwa [List.mem_singleton.1 hl]
      obtain ⟨groups, hgroups, hlines⟩ := ih (List.cons_ne_nil line group) hall (by simp)
      rw [List.reverse_cons, List.append_assoc] at hgroups
      exact ⟨groups, hgroups, hlines⟩
    | false =>
      obtain ⟨groups, hgroups, hlines⟩ := ih (List.cons_ne_nil line []) (List.forall_mem_nil _) (by simp)
      refine ⟨group.reverse :: groups, .cons hreverse hcontinued hline hgroups, ?_⟩
      rw [if_neg Bool.false_ne_true, if_neg (by simpa using hne), hlines]
      rfl

/-- The lines that are sent are the groups of the lines, joined. -/
theorem groupLines_grouping (sep : List Char) {lines : List (List Char)} (h : lines ≠ []) :
    ∃ groups, Grouping lines groups ∧ groupLines sep lines = groups.map (Text.join sep) := by
  obtain ⟨line, rest, rfl⟩ := List.exists_cons_of_ne_nil h
  have hopen : groupLines sep (line :: rest) = groupLinesFrom sep [line] rest := by
    rw [groupLines, groupLinesFrom]
    split <;> rfl
  rw [hopen]
  exact groupLinesFrom_grouping sep (List.cons_ne_nil line []) (List.forall_mem_nil _) rest

theorem groupLinesFrom_ne_nil (sep : List Char) (group lines : List (List Char)) :
    groupLinesFrom sep group lines ≠ [] := by
  induction lines generalizing group with
  | nil => simp [groupLinesFrom]
  | cons line rest ih =>
    rw [groupLinesFrom]
    split
    · exact ih _
    split
    · exact ih _
    · simp

namespace Profile

/-- A section is sent as one line at least. -/
theorem linesOf_ne_nil (p : Profile) (text : String) : p.linesOf text ≠ [] := by
  unfold linesOf
  simp only [ne_eq, List.map_eq_nil_iff]
  split
  · simp
  · exact groupLinesFrom_ne_nil _ _ _

variable {p : Profile}

/-- **Indented lines continue the line before them.**  The physical lines of a section can be grouped in one way, and
each group, joined, is one line that is sent; of the empty text, which has no lines, it is an empty one.  The lines that
are sent are the physical lines again when they are joined, and there is at least one. -/
theorem linesOf_grouping (h : p.lineSplit = .indented) (text : String) :
    let sep := p.lineEnding.toList
    let lines := Text.physicalLines text.toList
    (∃! groups, Grouping lines groups) ∧
    (lines = [] ↔ text = "") ∧
    (text = "" → p.linesOf text = [""]) ∧
    (text ≠ "" → ∀ groups, Grouping lines groups →
      p.linesOf text = groups.map fun g => String.ofList (Text.join sep g)) ∧
    Text.join sep ((p.linesOf text).map String.toList) = Text.join sep lines ∧
    p.linesOf text ≠ [] := by
  intro sep lines
  have hsent : p.linesOf text = (groupLines sep lines).map String.ofList := by rw [linesOf, h]
  have hempty : lines = [] ↔ text = "" := Text.physicalLines_eq_nil.trans String.toList_eq_nil_iff
  by_cases htext : text = ""
  · have hlines : lines = [] := hempty.2 htext
    have hone : p.linesOf text = [""] := by
      rw [hsent, hlines]
      rfl
    have hnone : Grouping lines [] := ⟨hlines.symm, nofun, nofun, nofun⟩
    refine ⟨⟨[], hnone, fun _ hg => hg.unique hnone⟩, hempty, fun _ => hone, fun hne => absurd htext hne, ?_,
      p.linesOf_ne_nil text⟩
    rw [hone, hlines]
    rfl
  · obtain ⟨groups, hgroups, hjoined⟩ := groupLines_grouping sep (mt hempty.1 htext)
    refine ⟨⟨groups, hgroups, fun _ hg => hg.unique hgroups⟩, hempty, fun he => absurd he htext, fun _ groups' hg => ?_, ?_,
      p.linesOf_ne_nil text⟩
    · rw [hg.unique hgroups, hsent, hjoined, List.map_map]
      rfl
    · have hback : (p.linesOf text).map String.toList = groups.map (Text.join sep) := by
        rw [hsent, hjoined, List.map_map]
        exact (List.map_congr_left fun g _ => String.toList_ofList).trans (List.map_id _)
      rw [hback, Text.join_flatten sep hgroups.ne_nil, hgroups.flatten]

/-- A leading indented line, an empty line and one that continues it. -/
theorem linesOf_grouping_four :
    let p : Profile := { name := "x", command := "x", lineSplit := .indented, lineEnding := "\r\n" }
    p.lineSplit = .indented ∧ p.linesOf "  a\nb\n\n\tc" = ["  a", "b", "\r\n\tc"] := by
  intro p
  have hgrouped : Grouping (Text.physicalLines "  a\nb\n\n\tc".toList)
      [["  a".toList], ["b".toList], ["".toList, "\tc".toList]] :=
    ⟨by decide, by decide, by decide, by decide⟩
  obtain ⟨-, -, -, hsent, -⟩ := linesOf_grouping (p := p) rfl "  a\nb\n\n\tc"
  exact ⟨rfl, (hsent (by decide) _ hgrouped).trans (by decide)⟩

end Profile

end Transcripts
