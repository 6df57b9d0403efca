import Mathlib.Data.List.Basic
import Transcripts.Text.Lines
import Transcripts.Text.Quoted

/-!
# Lines that are joined again

No line holds a terminator.  Lines that are joined by one of the three terminators are split into the same lines, unless
the last of them is empty: a terminator at the very end opens no further line (`splitLines_join`).  Nothing but a
terminator does so: two lines or more that are split again were joined by one (`mem_terminators_of_splitLines_join`).
A dump of a text is split into one line for each of its characters (`charDump_lines`).
-/
namespace Transcripts.Text

/-- A line without terminators. -/
def OneLine (line : List Char) : Prop := '\n' ∉ line ∧ '\r' ∉ line

instance (line : List Char) : Decidable (OneLine line) := inferInstanceAs (Decidable (_ ∧ _))

theorem OneLine.tail {c : Char} {cs : List Char} (h : OneLine (c :: cs)) : OneLine cs :=
  ⟨fun hm => h.1 (List.mem_cons_of_mem c hm), fun hm => h.2 (List.mem_cons_of_mem c hm)⟩

theorem OneLine.ne {c : Char} {cs : List Char} (h : OneLine (c :: cs)) : c ≠ '\n' ∧ c ≠ '\r' :=
  ⟨fun hc => h.1 (hc ▸ List.mem_cons_self), fun hc => h.2 (hc ▸ List.mem_cons_self)⟩

theorem OneLine.reverse {line : List Char} (h : OneLine line) : OneLine line.reverse := by
  simpa [OneLine] using h

theorem OneLine.cons {c : Char} {cs : List Char} (hc : ¬ (c = '\n' ∨ c = '\r')) (h : OneLine cs) : OneLine (c :: cs) := by
  simp only [OneLine, List.mem_cons, not_or]
  exact ⟨⟨fun hn => hc (.inl hn.symm), h.1⟩, fun hr => hc (.inr hr.symm), h.2⟩

theorem OneLine.append {xs ys : List Char} (hx : OneLine xs) (hy : OneLine ys) : OneLine (xs ++ ys) := by
  simp only [OneLine, List.mem_append, not_or]
  exact ⟨⟨hx.1, hy.1⟩, hx.2, hy.2⟩

/-! ## The lines of a text -/

theorem splitLinesFrom_oneLine (line cs : List Char) (h : OneLine line) : ∀ l ∈ splitLinesFrom line cs, OneLine l := by
  have hnil : OneLine [] := ⟨List.not_mem_nil, List.not_mem_nil⟩
  fun_induction splitLinesFrom line cs with
  | case1 line hempty => exact nofun
  | case2 line hne => exact List.forall_mem_singleton.2 h.reverse
  | case3 line cs ih => exact List.forall_mem_cons.2 ⟨h.reverse, ih hnil⟩
  | case4 line c cs hpair hc ih => exact List.forall_mem_cons.2 ⟨h.reverse, ih hnil⟩
  | case5 line c cs hpair hc ih => exact ih (h.cons hc)

theorem splitLines_oneLine {cs l : List Char} (h : l ∈ splitLines cs) : OneLine l :=
  splitLinesFrom_oneLine [] cs ⟨List.not_mem_nil, List.not_mem_nil⟩ l h

/-! ## Splitting what was joined -/

theorem splitLinesFrom_cons {c : Char} (hc : c ≠ '\n' ∧ c ≠ '\r') (line cs : List Char) :
    splitLinesFrom line (c :: cs) = splitLinesFrom (c :: line) cs := by
  rw [splitLinesFrom]
  · simp [hc.1, hc.2]
  · intro cs' h
    cases h
    exact fun _ => hc.2 rfl

theorem splitLinesFrom_append {xs : List Char} (h : OneLine xs) (line cs : List Char) :
    splitLinesFrom line (xs ++ cs) = splitLinesFrom (xs.reverse ++ line) cs := by
  induction xs generalizing line with
  | nil => rfl
  | cons x xs ih =>
    rw [List.cons_append, splitLinesFrom_cons h.ne, ih h.tail, List.reverse_cons, List.append_assoc]
    rfl

/-- What ends a line. -/
def terminators : List (List Char) := [['\n'], ['\r', '\n'], ['\r']]

/-- A terminator ends the open line, unless a line feed makes it another one. -/
theorem splitLinesFrom_terminator {sep : List Char} (hsep : sep ∈ terminators) {cs : List Char}
    (hcs : sep = ['\r'] → cs.head? ≠ some '\n') (line : List Char) :
    splitLinesFrom line (sep ++ cs) = line.reverse :: splitLinesFrom [] cs := by
  simp only [terminators, List.mem_cons, List.not_mem_nil, or_false] at hsep
  rcases hsep with rfl | rfl | rfl
  · rfl
  · rfl
  · cases cs with
    | nil => rfl
    | cons c cs =>
      have hc : c ≠ '\n' := fun h => hcs rfl (by rw [h, List.head?_cons])
      simp [splitLinesFrom, hc]

/-- Lines that are all closed by a line feed. -/
theorem splitLines_closed {lines : List (List Char)} (h : ∀ l ∈ lines, OneLine l) :
    splitLines (lines.flatMap (· ++ ['\n'])) = lines := by
  induction lines with
  | nil => rfl
  | cons line rest ih =>
    obtain ⟨hline, hrest⟩ := List.forall_mem_cons.1 h
    rw [List.flatMap_cons, List.append_assoc, splitLines, splitLinesFrom_append hline, List.append_nil,
      splitLinesFrom_terminator List.mem_cons_self nofun, List.reverse_reverse, ← splitLines, ih hrest]

theorem join_nil (sep : List Char) : join sep [] = [] := by
  simp [join, List.intercalate]

theorem join_singleton (sep x : List Char) : join sep [x] = x := by
  simp [join, List.intercalate]

theorem join_cons_cons (sep x y : List Char) (rest : List (List Char)) :
    join sep (x :: y :: rest) = x ++ (sep ++ join sep (y :: rest)) := by
  simp [join, List.intercalate]

theorem join_append (sep : List Char) {xs ys : List (List Char)} (hx : xs ≠ []) (hy : ys ≠ []) :
    join sep (xs ++ ys) = join sep xs ++ sep ++ join sep ys := by
  induction xs with
  | nil => exact absurd rfl hx
  | cons x xs ih =>
    cases xs with
    | nil =>
      rw [join_singleton]
      exact List.intercalate_cons_of_ne_nil hy
    | cons x' xs =>
      rw [join_cons_cons, List.cons_append, List.cons_append, join_cons_cons, ← List.cons_append, ih (List.cons_ne_nil x' xs)]
      simp only [List.append_assoc]

/-- Groups that are joined and joined again are all that is in them, joined. -/
theorem join_flatten (sep : List Char) {groups : List (List (List Char))} (h : ∀ g ∈ groups, g ≠ []) :
    join sep (groups.map (join sep)) = join sep groups.flatten := by
  induction groups with
  | nil => rfl
  | cons g groups ih =>
    have hg := h g List.mem_cons_self
    have hrest : ∀ g' ∈ groups, g' ≠ [] := fun g' hg' => h g' (List.mem_cons_of_mem g hg')
    cases groups with
    | nil => simp only [List.map_cons, List.map_nil, List.flatten_cons, List.flatten_nil, List.append_nil, join_singleton]
    | cons g' groups =>
      have hne : (g' :: groups).flatten ≠ [] := by
        rw [List.flatten_cons]
        exact List.append_ne_nil_of_left_ne_nil (hrest g' List.mem_cons_self) _
      rw [List.map_cons, List.map_cons, join_cons_cons, ← List.map_cons, ih hrest, List.flatten_cons (l := g),
        join_append sep hg hne, List.append_assoc]

/-- Joined lines start with a line feed only if this joins them. -/
theorem join_head {sep : List Char} (hsep : sep = ['\r']) {lines : List (List Char)} (h : ∀ l ∈ lines, OneLine l) :
    (join sep lines).head? ≠ some '\n' := by
  have hhead {line : List Char} (hline : OneLine line) : line.head? ≠ some '\n' :=
    fun hn => hline.1 (List.mem_of_head? hn)
  match lines, h with
  | [], _ => exact nofun
  | [x], h => simpa [join, List.intercalate] using hhead (h x List.mem_cons_self)
  | x :: y :: rest, h =>
    rw [join_cons_cons, hsep]
    cases x with
    | nil => simp
    | cons c cs => simpa using hhead (h (c :: cs) List.mem_cons_self)

/-- **Joined lines are split again**, but for an empty last one. -/
theorem splitLines_join {sep : List Char} (hsep : sep ∈ terminators) {lines : List (List Char)}
    (h : ∀ l ∈ lines, OneLine l) (hlast : lines.getLast? ≠ some []) : splitLines (join sep lines) = lines := by
  unfold splitLines
  induction lines with
  | nil => rfl
  | cons x lines ih =>
    have hx := h x List.mem_cons_self
    have hlines : ∀ l ∈ lines, OneLine l := fun l hl => h l (List.mem_cons_of_mem x hl)
    cases lines with
    | nil =>
      have hne : x ≠ [] := fun hx => hlast (by rw [hx]; rfl)
      have hjoin : join sep [x] = x ++ [] := by rw [join_singleton, List.append_nil]
      rw [hjoin, splitLinesFrom_append hx, List.append_nil, splitLinesFrom]
      simp [hne]
    | cons y rest =>
      rw [List.getLast?_cons_cons] at hlast
      rw [join_cons_cons, splitLinesFrom_append hx, List.append_nil,
        splitLinesFrom_terminator hsep fun hcr => join_head hcr hlines, List.reverse_reverse, ih hlines hlast]

theorem mem_join {sep : List Char} {lines : List (List Char)} {c : Char} (h : c ∈ join sep lines) :
    c ∈ sep ∨ ∃ l ∈ lines, c ∈ l := by
  induction lines with
  | nil =>
    rw [join_nil] at h
    cases h
  | cons x rest ih =>
    cases rest with
    | nil =>
      rw [join_singleton] at h
      exact .inr ⟨x, List.mem_cons_self, h⟩
    | cons y rest =>
      rw [join_cons_cons, List.mem_append, List.mem_append] at h
      rcases h with hx | hsep | hrest
      · exact .inr ⟨x, List.mem_cons_self, hx⟩
      · exact .inl hsep
      · exact (ih hrest).imp_right fun ⟨l, hl, hc⟩ => ⟨l, List.mem_cons_of_mem x hl, hc⟩

theorem OneLine.join {sep : List Char} {lines : List (List Char)} (hsep : OneLine sep) (h : ∀ l ∈ lines, OneLine l) :
    OneLine (join sep lines) := by
  constructor
  · intro hmem
    rcases mem_join hmem with hmem | ⟨l, hl, hmem⟩
    · exact hsep.1 hmem
    · exact (h l hl).1 hmem
  · intro hmem
    rcases mem_join hmem with hmem | ⟨l, hl, hmem⟩
    · exact hsep.2 hmem
    · exact (h l hl).2 hmem

theorem oneLine_join_of_short (sep : List Char) {lines : List (List Char)} (hshort : lines.length ≤ 1)
    (h : ∀ l ∈ lines, OneLine l) : OneLine (join sep lines) := by
  match lines with
  | [] =>
    rw [join_nil]
    exact ⟨List.not_mem_nil, List.not_mem_nil⟩
  | [x] =>
    rw [join_singleton]
    exact h x List.mem_cons_self
  | _ :: _ :: _ => exact absurd hshort (by simp)

/-- Two lines or more are joined by the separator. -/
theorem OneLine.of_join {sep : List Char} {lines : List (List Char)} (hmany : 1 < lines.length)
    (h : OneLine (Text.join sep lines)) : OneLine sep := by
  match lines with
  | [] | [_] => exact absurd hmany (by simp)
  | x :: y :: rest =>
    rw [join_cons_cons] at h
    simp only [OneLine, List.mem_append, not_or] at h
    exact ⟨h.1.2.1, h.2.2.1⟩

/-! ## What joined the lines -/

theorem splitLines_of_oneLine {cs : List Char} (h : OneLine cs) (hne : cs ≠ []) : splitLines cs = [cs] := by
  have happend : splitLinesFrom [] (cs ++ []) = splitLinesFrom (cs.reverse ++ []) [] := splitLinesFrom_append h [] []
  rw [List.append_nil, List.append_nil, splitLinesFrom, if_neg (by simpa using hne), List.reverse_reverse] at happend
  exact happend

/-- The open line goes on to the end of the text, or to a terminator behind which the other lines follow. -/
theorem splitLinesFrom_eq_cons {line cs x : List Char} {rest : List (List Char)} (h : splitLinesFrom line cs = x :: rest) :
    ∃ pre, x = line.reverse ++ pre ∧ ((cs = pre ∧ rest = []) ∨
      ∃ sep ∈ terminators, ∃ after, cs = pre ++ (sep ++ after) ∧ splitLines after = rest) := by
  fun_induction splitLinesFrom line cs with
  | case1 line hempty => cases h
  | case2 line hne =>
    cases h
    exact ⟨[], (List.append_nil _).symm, .inl ⟨rfl, rfl⟩⟩
  | case3 line cs ih =>
    cases h
    exact ⟨[], (List.append_nil _).symm, .inr ⟨['\r', '\n'], by decide, cs, rfl, rfl⟩⟩
  | case4 line c cs hpair hc ih =>
    cases h
    refine ⟨[], (List.append_nil _).symm, .inr ⟨[c], ?_, cs, rfl, rfl⟩⟩
    rcases hc with rfl | rfl <;> decide
  | case5 line c cs hpair hc ih =>
    obtain ⟨pre, rfl, hrest⟩ := ih h
    refine ⟨c :: pre, by rw [List.reverse_cons, List.append_assoc]; rfl, ?_⟩
    rcases hrest with ⟨rfl, hnil⟩ | ⟨sep, hsep, after, rfl, hafter⟩
    · exact .inl ⟨rfl, hnil⟩
    · exact .inr ⟨sep, hsep, after, rfl, hafter⟩

/-- The first line is the whole text, or a terminator and the other lines follow it. -/
theorem splitLines_eq_cons {cs x : List Char} {rest : List (List Char)} (h : splitLines cs = x :: rest) :
    (cs = x ∧ rest = []) ∨ ∃ sep ∈ terminators, ∃ after, cs = x ++ (sep ++ after) ∧ splitLines after = rest := by
  obtain ⟨pre, rfl, hrest⟩ := splitLinesFrom_eq_cons h
  exact hrest

theorem splitLinesFrom_eq_nil {line cs : List Char} (h : splitLinesFrom line cs = []) : line = [] ∧ cs = [] := by
  fun_induction splitLinesFrom line cs with
  | case1 line hempty => exact ⟨List.isEmpty_iff.1 hempty, rfl⟩
  | case2 line hne => cases h
  | case3 line cs ih => cases h
  | case4 line c cs hpair hc ih => cases h
  | case5 line c cs hpair hc ih => cases (ih h).1

theorem length_of_mem_terminators {sep : List Char} (h : sep ∈ terminators) : 1 ≤ sep.length ∧ sep.length ≤ 2 := by
  simp only [terminators, List.mem_cons, List.not_mem_nil, or_false] at h
  rcases h with rfl | rfl | rfl <;> decide

/-- A text that does not end in a terminator holds its lines and between each two of them one terminator, of one
character or of two. -/
theorem splitLines_length {lines : List (List Char)} :
    ∀ {cs : List Char}, splitLines cs = lines → (∀ c, cs.getLast? = some c → c ≠ '\n' ∧ c ≠ '\r') →
      lines.flatten.length + (lines.length - 1) ≤ cs.length ∧
        cs.length ≤ lines.flatten.length + 2 * (lines.length - 1) := by
  induction lines with
  | nil =>
    intro cs h hlast
    obtain ⟨-, rfl⟩ := splitLinesFrom_eq_nil h
    exact ⟨Nat.le_refl _, Nat.le_refl _⟩
  | cons x rest ih =>
    intro cs h hlast
    rcases splitLines_eq_cons h with ⟨rfl, rfl⟩ | ⟨sep, hsep, after, rfl, hafter⟩
    · simp
    · cases after with
      | nil =>
        -- the terminator would be the end of the text
        simp only [terminators, List.mem_cons, List.not_mem_nil, or_false] at hsep
        rcases hsep with rfl | rfl | rfl
        · exact absurd rfl (hlast '\n' (by simp)).1
        · exact absurd rfl (hlast '\n' (by simp)).1
        · exact absurd rfl (hlast '\r' (by simp)).2
      | cons c after =>
        have hrest : rest ≠ [] := by
          rintro rfl
          cases (splitLinesFrom_eq_nil hafter).2
        have hlen := ih hafter fun d hd => hlast d (by rw [List.getLast?_append, List.getLast?_append, hd]; rfl)
        have hpos : 0 < rest.length := List.length_pos_iff.2 hrest
        have hsize := length_of_mem_terminators hsep
        simp only [List.flatten_cons, List.length_append, List.length_cons] at hlen ⊢
        omega

theorem join_length (sep : List Char) (lines : List (List Char)) :
    (join sep lines).length = lines.flatten.length + (lines.length - 1) * sep.length := by
  induction lines with
  | nil => simp [join_nil]
  | cons x rest ih =>
    cases rest with
    | nil => simp [join_singleton]
    | cons y rest =>
      rw [join_cons_cons, List.length_append, List.length_append, ih]
      simp only [List.flatten_cons, List.length_append, List.length_cons, Nat.add_sub_cancel, Nat.succ_mul]
      omega

/-- Joined lines end as the last of them does. -/
theorem exists_join_eq (sep : List Char) {lines : List (List Char)} {last : List Char} (h : lines.getLast? = some last) :
    ∃ before, join sep lines = before ++ last := by
  induction lines with
  | nil => cases h
  | cons x rest ih =>
    cases rest with
    | nil =>
      cases h
      exact ⟨[], join_singleton sep x⟩
    | cons y rest =>
      rw [List.getLast?_cons_cons] at h
      obtain ⟨before, hbefore⟩ := ih h
      exact ⟨x ++ (sep ++ before), by rw [join_cons_cons, hbefore, List.append_assoc, List.append_assoc]⟩

/-- **Only terminators are read again**: what joined two lines or more is a terminator if they are split again. -/
theorem mem_terminators_of_splitLines_join {sep : List Char} {lines : List (List Char)}
    (hlast : lines.getLast? ≠ some []) (hmany : 1 < lines.length) (hsplit : splitLines (join sep lines) = lines) :
    sep ∈ terminators := by
  obtain ⟨last, hsome⟩ : ∃ last, lines.getLast? = some last := by
    cases hl : lines.getLast? with
    | none => rw [List.getLast?_eq_none_iff.1 hl] at hmany; cases hmany
    | some last => exact ⟨last, rfl⟩
  have hone : OneLine last := splitLines_oneLine (by rw [hsplit]; exact List.mem_of_getLast? hsome)
  have hne : last ≠ [] := fun h => hlast (h ▸ hsome)
  have hend (c : Char) (hc : (join sep lines).getLast? = some c) : c ≠ '\n' ∧ c ≠ '\r' := by
    obtain ⟨before, hbefore⟩ := exists_join_eq sep hsome
    rw [hbefore, List.getLast?_append_of_ne_nil _ hne] at hc
    have hmem := List.mem_of_getLast? hc
    exact ⟨fun hn => hone.1 (hn ▸ hmem), fun hr => hone.2 (hr ▸ hmem)⟩
  match lines with
  | [] | [_] => exact absurd hmany (by simp)
  | x :: y :: rest =>
    rcases splitLines_eq_cons hsplit with ⟨-, hnil⟩ | ⟨term, hterm, after, hjoin, hafter⟩
    · cases hnil
    -- behind the first line stand the separator and the joined rest, and a terminator and the text of the rest
    have hsame : sep ++ join sep (y :: rest) = term ++ after := by
      rw [join_cons_cons] at hjoin
      exact List.append_cancel_left hjoin
    have hafterne : after ≠ [] := by
      rintro rfl
      cases hafter
    have hbound := splitLines_length hafter fun c hc => hend c (by
      rw [hjoin, List.getLast?_append_of_ne_nil _ (by simp [hafterne]), List.getLast?_append_of_ne_nil _ hafterne, hc])
    have hsum := congrArg List.length hsame
    rw [List.length_append, List.length_append, join_length] at hsum
    have hsize : sep.length = term.length := by
      have hlen := length_of_mem_terminators hterm
      simp only [List.length_cons, Nat.add_sub_cancel] at hsum hbound
      generalize sep.length = k at *
      match k with
      | 0 | 1 | 2 => omega
      | k + 3 =>
        rw [Nat.mul_add] at hsum
        omega
    rw [(List.append_inj hsame hsize).1]
    exact hterm

/-! ## Dumps -/

theorem oneLine_toString (n : Nat) : OneLine (toString n).toList := by
  have hdigit {c : Char} (hc : c ∈ (toString n).toList) : c.isDigit = true := by
    rw [Nat.toString_eq_ofList_toDigits, String.toList_ofList] at hc
    exact Nat.isDigit_of_mem_toDigits (by decide) (by decide) hc
  constructor <;> intro h <;> cases hdigit h

/-- What a dump says of a character: its number, in two digits at least, and its code. -/
def dumpLine (i : Nat) (c : Char) : String :=
  "chr " ++ ((if i < 10 then "0" else "") ++ toString i) ++ ": " ++ toString c.toNat

theorem dumpLine_oneLine (i : Nat) (c : Char) : OneLine (dumpLine i c).toList := by
  have hzero : OneLine (if i < 10 then "0" else "").toList := by split <;> decide
  have hchr : OneLine "chr ".toList := by decide
  have hcolon : OneLine ": ".toList := by decide
  simp only [dumpLine, String.toList_append]
  exact ((hchr.append (hzero.append (oneLine_toString i))).append hcolon).append (oneLine_toString _)

theorem charDumpFrom_toList (i : Nat) (cs : List Char) : (charDumpFrom i cs).toList =
    ((cs.mapIdx fun k c => dumpLine (i + k) c).map String.toList).flatMap (· ++ ['\n']) := by
  induction cs generalizing i with
  | nil => rfl
  | cons c cs ih =>
    have hnext (k : Nat) : i + 1 + k = i + (k + 1) := by omega
    have hline : (charDumpFrom i (c :: cs)).toList =
        (dumpLine i c).toList ++ '\n' :: (charDumpFrom (i + 1) cs).toList := by
      simp only [charDumpFrom, twoDigits, dumpLine, String.toList_append, List.append_assoc]
      rfl
    rw [hline, ih, List.mapIdx_cons, List.map_cons, List.flatMap_cons, List.append_assoc]
    simp only [hnext, Nat.add_zero, List.singleton_append]

/-- **A dump has one line for each character**, in order, and each of them ends in a line feed. -/
theorem charDump_lines (text : String) :
    charDump text = String.join ((text.toList.mapIdx dumpLine).map (· ++ "\n")) ∧
    splitLines (charDump text).toList = (text.toList.mapIdx dumpLine).map String.toList := by
  have hdump : (charDump text).toList = ((text.toList.mapIdx dumpLine).map String.toList).flatMap (· ++ ['\n']) := by
    rw [charDump, charDumpFrom_toList]
    simp only [Nat.zero_add]
  constructor
  · rw [← String.toList_inj, hdump, String.toList_join, List.flatMap_map, List.flatMap_map]
    simp only [String.toList_append]
    rfl
  · rw [hdump]
    refine splitLines_closed fun l hl => ?_
    obtain ⟨line, hline, rfl⟩ := List.mem_map.1 hl
    obtain ⟨i, hi, rfl⟩ := List.mem_mapIdx.1 hline
    exact dumpLine_oneLine i _

end Transcripts.Text
