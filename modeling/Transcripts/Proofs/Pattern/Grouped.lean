import Transcripts.Proofs.Pattern.Bracketed

/-!
# What is written behind a pattern

The readers of groups and repetitions leave what is written behind, too, and so does a reader of whole patterns:
after the pattern it goes on with what is written behind as if it had just begun, but for a comment at the end,
which hides all of it.
-/
namespace Transcripts.Pattern

/-! ## Flags and names -/

theorem readFlags_leaves {items found : List FlagItem} {cs rest : List Char}
    (h : readFlags items cs = .ok (found, rest)) :
    Leaves (fun _ => readFlags items) (fun r => .ok (found, r)) cs rest := by
  induction cs generalizing items with
  | nil => cases h
  | cons c cs ih =>
    unfold readFlags at h
    by_cases hend : (c = ':' || c = ')') = true
    · rw [if_pos hend] at h
      split at h
      · cases h
      · rename_i hlast
        cases h
        exact .stop fun t F ht => by rw [List.cons_append, readFlags, if_pos hend, if_neg hlast]
    rw [if_neg hend] at h
    by_cases hneg : c = '-'
    · rw [if_pos hneg] at h
      split at h
      · cases h
      · rename_i honce
        exact (ih h).cons fun x F hF _ => ⟨F, hF, by rw [readFlags, if_neg hend, if_pos hneg, if_neg honce]⟩
    · rw [if_neg hneg] at h
      split at h
      · cases h
      · rename_i f hflag
        split at h
        · cases h
        · rename_i honce
          refine (ih h).cons fun x F hF _ => ⟨F, hF, ?_⟩
          rw [readFlags, if_neg hend, if_neg hneg]
          simp only [hflag]
          rw [if_neg honce]

theorem readFlags_rest {items found : List FlagItem} {cs rest : List Char}
    (h : readFlags items cs = .ok (found, rest)) : ∃ c r, rest = c :: r := by
  induction cs generalizing items with
  | nil => cases h
  | cons c cs ih =>
    unfold readFlags at h
    split at h
    · split at h
      · cases h
      · cases h
        exact ⟨_, _, rfl⟩
    · split at h
      · split at h
        · cases h
        · exact ih h
      · split at h
        · cases h
        · split at h
          · cases h
          · exact ih h

theorem readName_leaves {name : List Char} {read : String} {cs rest : List Char}
    (h : readName name cs = .ok (read, rest)) : Leaves (fun _ => readName name) (fun r => .ok (read, r)) cs rest := by
  induction cs generalizing name with
  | nil => cases h
  | cons c cs ih =>
    by_cases hend : c = '>'
    · subst hend
      have hread (x : List Char) : readName name ('>' :: x) =
          if name.isEmpty then .error .groupName else .ok (String.ofList name.reverse, x) := rfl
      rw [hread] at h
      by_cases hname : name.isEmpty = true
      · rw [if_pos hname] at h
        cases h
      · rw [if_neg hname] at h
        cases h
        exact .tail fun x F => by rw [hread, if_neg hname]
    · have hread (x : List Char) : readName name (c :: x) =
          if isNameChar name.isEmpty c then readName (c :: name) x else .error .groupName := by
        rw [readName]
        simpa using hend
      rw [hread] at h
      by_cases hchar : isNameChar name.isEmpty c = true
      · rw [if_pos hchar] at h
        exact (ih h).cons fun x F hF _ => ⟨F, hF, by rw [hread, if_pos hchar]⟩
      · rw [if_neg hchar] at h
        cases h

/-! ## Openings -/

/-- What a list of flags opens. -/
def flagsOpening (p : List FlagItem × List Char) : Except Fault (Opening × List Char) :=
  match p.2 with
  | ')' :: rest => if p.1.isEmpty then .error .repetitionMissing else .ok (.setFlags p.1, rest)
  | rest => .ok (.plain p.1, rest.tail)

/-- What a name opens. -/
def namedOpening (cs : List Char) : Except Fault (Opening × List Char) :=
  (readName [] cs).map fun p => (.capture (some p.1), p.2)

section Openings

variable {v : Bool} {c : Char} {cs rest : List Char}

theorem readOpening_named (h : skipIgnored v cs = '?' :: 'P' :: '<' :: rest) :
    readOpening v cs = namedOpening rest := by
  unfold readOpening namedOpening
  simp only [h]
  cases readName [] rest <;> rfl

theorem readOpening_bracket (h : skipIgnored v cs = '?' :: '<' :: c :: rest) (hahead : c ≠ '=') (hnot : c ≠ '!') :
    readOpening v cs = namedOpening (c :: rest) := by
  unfold readOpening namedOpening
  simp [h, hahead, hnot]
  cases readName [] (c :: rest) <;> rfl

theorem readOpening_flags (h : skipIgnored v cs = '?' :: c :: rest) (hahead : c ≠ '=') (hnot : c ≠ '!')
    (hbracket : c ≠ '<') (hp : ∀ x, c :: rest ≠ 'P' :: '<' :: x) :
    readOpening v cs = readFlags [] (c :: rest) >>= flagsOpening := by
  unfold readOpening
  rw [h]
  split
  case h_7 heq =>
    cases heq
    simp only [List.isEmpty_cons, Bool.false_eq_true, if_false]
    congr 1
  case h_1 heq => exact absurd (List.cons.inj (List.cons.inj heq).2).1 hahead
  case h_2 heq => exact absurd (List.cons.inj (List.cons.inj heq).2).1 hnot
  case h_3 heq => exact absurd (List.cons.inj (List.cons.inj heq).2).1 hbracket
  case h_4 heq => exact absurd (List.cons.inj (List.cons.inj heq).2).1 hbracket
  case h_5 heq => exact absurd (List.cons.inj heq).2 (hp _)
  case h_6 heq => exact absurd (List.cons.inj (List.cons.inj heq).2).1 hbracket
  case h_8 hother => exact absurd rfl (hother _)

theorem readOpening_plain {v : Bool} {cs : List Char} (h : ∀ x, skipIgnored v cs ≠ '?' :: x) :
    readOpening v cs = .ok (.capture none, skipIgnored v cs) := by
  unfold readOpening
  split
  case h_8 => rfl
  all_goals
    rename_i heq
    exact absurd heq (h _)

/-- The four kinds of openings. -/
theorem readOpening_cases {o : Opening} (h : readOpening v cs = .ok (o, rest)) :
    (∃ x, skipIgnored v cs = '?' :: 'P' :: '<' :: x ∧ namedOpening x = .ok (o, rest)) ∨
    (∃ c x, skipIgnored v cs = '?' :: '<' :: c :: x ∧ c ≠ '=' ∧ c ≠ '!' ∧ namedOpening (c :: x) = .ok (o, rest)) ∨
    (∃ c x, skipIgnored v cs = '?' :: c :: x ∧ c ≠ '=' ∧ c ≠ '!' ∧ c ≠ '<' ∧ c ≠ 'P' ∧
      (readFlags [] (c :: x) >>= flagsOpening) = .ok (o, rest)) ∨
    ((∀ x, skipIgnored v cs ≠ '?' :: x) ∧ o = .capture none ∧ rest = skipIgnored v cs) := by
  by_cases hmark : ∃ x, skipIgnored v cs = '?' :: x
  · obtain ⟨x, hx⟩ := hmark
    match x with
    | [] =>
      simp [readOpening, hx, bind, Except.bind, throw, throwThe, MonadExceptOf.throw] at h
    | c :: x =>
      by_cases hahead : c = '='
      · simp [readOpening, hx, hahead] at h
      by_cases hnot : c = '!'
      · simp [readOpening, hx, hnot] at h
      by_cases hbracket : c = '<'
      · subst hbracket
        match x with
        | [] =>
          simp [readOpening, hx] at h
          cases h
        | c :: x =>
          by_cases hahead : c = '='
          · simp [readOpening, hx, hahead] at h
          by_cases hnot : c = '!'
          · simp [readOpening, hx, hnot] at h
          rw [readOpening_bracket hx hahead hnot] at h
          exact .inr (.inl ⟨c, x, hx, hahead, hnot, h⟩)
      by_cases hname : ∃ y, c :: x = 'P' :: '<' :: y
      · obtain ⟨y, hy⟩ := hname
        rw [hy] at hx
        rw [readOpening_named hx] at h
        exact .inl ⟨y, hx, h⟩
      · rw [readOpening_flags hx hahead hnot hbracket fun y hy => hname ⟨y, hy⟩] at h
        have hp : c ≠ 'P' := by
          rintro rfl
          cases h
        exact .inr (.inr (.inl ⟨c, x, hx, hahead, hnot, hbracket, hp, h⟩))
  · have hplain (x : List Char) : skipIgnored v cs ≠ '?' :: x := fun hx => hmark ⟨x, hx⟩
    rw [readOpening_plain hplain] at h
    cases h
    exact .inr (.inr (.inr ⟨hplain, rfl, rfl⟩))

end Openings

theorem flagsOpening_leaves {items : List FlagItem} {o : Opening} {c : Char} {cs rest : List Char}
    (h : flagsOpening (items, c :: cs) = .ok (o, rest)) :
    Leaves (fun _ x => flagsOpening (items, x)) (fun r => .ok (o, r)) (c :: cs) rest := by
  by_cases hc : c = ')'
  · subst hc
    unfold flagsOpening at h
    simp only at h
    split at h
    · cases h
    · rename_i hitems
      cases h
      exact .tail fun x F => if_neg hitems
  · have hread (x : List Char) : flagsOpening (items, c :: x) = .ok (.plain items, x) := by
      simp [flagsOpening, hc]
    rw [hread] at h
    cases h
    exact .tail fun x F => hread x

theorem namedOpening_leaves {o : Opening} {cs rest : List Char} (h : namedOpening cs = .ok (o, rest)) :
    Leaves (fun _ => namedOpening) (fun r => .ok (o, r)) cs rest := by
  obtain ⟨⟨name, after⟩, hname, heq⟩ := Except.map_eq_ok h
  cases heq
  refine (readName_leaves hname).map fun x y F hy => ?_
  rw [namedOpening, hy]
  rfl

theorem readOpening_skip (v : Bool) (cs : List Char) : readOpening v cs = readOpening v (skipIgnored v cs) := by
  unfold readOpening
  rw [skipIgnored_idem]

/-- What an opening parenthesis opens. -/
theorem readOpening_leaves {v : Bool} {o : Opening} {cs rest : List Char} (h : readOpening v cs = .ok (o, rest)) :
    Leaves (fun _ => readOpening v) (fun r => .ok (o, r)) cs rest := by
  refine Leaves.skip (g := fun _ => readOpening v) ?_ fun x _ => readOpening_skip v x
  rcases readOpening_cases h with ⟨x, hx, h⟩ | ⟨c, x, hx, hahead, hnot, h⟩ |
    ⟨c, x, hx, hahead, hnot, hbracket, hp, h⟩ | ⟨hplain, rfl, rfl⟩
  · have hhead := skipIgnored_head hx
    rw [hx]
    have hbracket : Leaves (fun _ x => readOpening v ('?' :: 'P' :: x)) (fun r => .ok (o, r)) ('<' :: x) rest :=
      (namedOpening_leaves h).cons fun x F hF _ => ⟨F, hF, readOpening_named (hhead _)⟩
    have hp : Leaves (fun _ x => readOpening v ('?' :: x)) (fun r => .ok (o, r)) ('P' :: '<' :: x) rest :=
      hbracket.cons fun x F hF _ => ⟨F, hF, rfl⟩
    exact hp.cons fun x F hF _ => ⟨F, hF, rfl⟩
  · have hhead := skipIgnored_head hx
    rw [hx]
    have hbracket : Leaves (fun _ x => readOpening v ('?' :: x)) (fun r => .ok (o, r)) ('<' :: c :: x) rest := by
      refine (namedOpening_leaves h).cons fun x F hF hx => ⟨F, hF, ?_⟩
      obtain ⟨t, -, rfl⟩ := hx
      exact readOpening_bracket (hhead _) hahead hnot
    exact hbracket.cons fun x F hF _ => ⟨F, hF, rfl⟩
  · have hhead := skipIgnored_head hx
    rw [hx]
    obtain ⟨⟨items, after⟩, hitems, h⟩ := Except.bind_eq_ok h
    obtain ⟨d, after, rfl⟩ := readFlags_rest hitems
    refine ((readFlags_leaves hitems).comp (h := fun _ x => readFlags [] x >>= flagsOpening) (flagsOpening_leaves h)
      fun x y F hF hlen _ _ hy => ⟨F, by omega, by rw [hy]; rfl⟩).cons fun x F hF hx => ⟨F, hF, ?_⟩
    obtain ⟨t, -, rfl⟩ := hx
    exact readOpening_flags (hhead _) hahead hnot hbracket fun y hy => hp (List.cons.inj hy).1
  · refine .stop fun t F ht => ?_
    have hskip := skipIgnored_append v cs ht
    rw [readOpening_plain, hskip]
    rw [hskip]
    exact ht.append_ne (by decide) hplain

/-! ## Repetitions -/

theorem lazyMark_leaves {cs rest : List Char} {greedy : Bool} (h : lazyMark cs = (greedy, rest)) :
    Leaves (fun _ => lazyMark) (fun r => (greedy, r)) cs rest := by
  have hread {x : List Char} (hx : ∀ y, x ≠ '?' :: y) : lazyMark x = (true, x) := by
    unfold lazyMark
    split
    · rename_i y
      exact absurd rfl (hx y)
    · rfl
  by_cases hmark : ∃ x, cs = '?' :: x
  · obtain ⟨x, rfl⟩ := hmark
    cases h
    exact .tail fun x F => rfl
  · have hnone (x : List Char) : cs ≠ '?' :: x := fun hx => hmark ⟨x, hx⟩
    rw [hread hnone] at h
    cases h
    exact .stop fun t F ht => hread (ht.append_ne (by decide) hnone)

/-- The greatest count of a counted repetition, behind the least one. -/
def greatest (v : Bool) (least : Nat) (cs : List Char) : Except Fault (Option Nat × List Char) :=
  match cs with
  | ',' :: cs =>
    match skipIgnored v cs with
    | '\x7d' :: cs => .ok (none, '\x7d' :: cs)
    | cs => (decimal v cs).map fun p => (some p.1, p.2)
  | cs => .ok (some least, cs)

/-- Whether a least and a greatest count are in order. -/
def countsInOrder (least : Nat) : Option Nat → Except Fault Unit
  | some n => if n < least then .error .repetitionOrder else .ok ()
  | none => .ok ()

/-- The end of a counted repetition, behind its counts. -/
def boundsEnd (v : Bool) (least : Nat) (most : Option Nat) (cs : List Char) :
    Except Fault (Nat × Option Nat × Bool × List Char) :=
  match cs with
  | '\x7d' :: cs => (countsInOrder least most).map fun _ => (least, most, lazyMark (skipIgnored v cs))
  | _ => .error .repetitionUnclosed

section Greatest

variable {v : Bool} {least : Nat} {cs : List Char}

theorem greatest_open {rest : List Char} (h : skipIgnored v cs = '\x7d' :: rest) :
    greatest v least (',' :: cs) = .ok (none, '\x7d' :: rest) := by
  simp only [greatest, h]

theorem greatest_count (h : ∀ x, skipIgnored v cs ≠ '\x7d' :: x) :
    greatest v least (',' :: cs) = (decimal v (skipIgnored v cs)).map fun p => (some p.1, p.2) := by
  simp only [greatest]

theorem greatest_least (h : ∀ x, cs ≠ ',' :: x) : greatest v least cs = .ok (some least, cs) := by
  unfold greatest
  split
  · rename_i x
    exact absurd rfl (h x)
  · rfl

theorem greatest_leaves {most : Option Nat} {rest : List Char} (h : greatest v least cs = .ok (most, rest)) :
    Leaves (fun _ => greatest v least) (fun r => .ok (most, r)) cs rest := by
  by_cases hcomma : ∃ x, cs = ',' :: x
  · obtain ⟨x, rfl⟩ := hcomma
    by_cases hclose : ∃ y, skipIgnored v x = '\x7d' :: y
    · obtain ⟨y, hy⟩ := hclose
      rw [greatest_open hy] at h
      cases h
      rw [← hy]
      refine (Leaves.stop (f := fun _ r => .ok (none, r)) fun _ _ _ => rfl).advance_fuel fun x F hF _ hskip =>
        ⟨F, Nat.le_trans (skipIgnored_length v x) hF, ?_⟩
      obtain ⟨t, -, ht⟩ := hy ▸ hskip
      rw [← ht]
      exact greatest_open ht.symm
    · have hopen (y : List Char) : skipIgnored v x ≠ '\x7d' :: y := fun hy => hclose ⟨y, hy⟩
      rw [greatest_count hopen] at h
      obtain ⟨⟨n, after⟩, hn, heq⟩ := Except.map_eq_ok h
      cases heq
      have hcount : Leaves (fun _ x => (decimal v x).map fun p => (some p.1, p.2)) (fun r => .ok (some n, r))
          (skipIgnored v x) after := (decimal_leaves hn).map fun x y F hy => by rw [hy]; rfl
      refine hcount.advance_fuel fun x F hF _ hskip =>
        ⟨F, Nat.le_trans (skipIgnored_length v x) hF, greatest_count ?_⟩
      obtain ⟨t, ht, heq⟩ := hskip
      rw [← heq]
      exact ht.append_ne (by decide) hopen
  · have hnone (x : List Char) : cs ≠ ',' :: x := fun hx => hcomma ⟨x, hx⟩
    rw [greatest_least hnone] at h
    cases h
    exact .stop fun t F ht => greatest_least (ht.append_ne (by decide) hnone)

end Greatest

/-- The end of a counted repetition, as it stands in `readBounds`. -/
def readBoundsEnd (v : Bool) (least : Nat) (most : Option Nat) (cs : List Char) :
    Except Fault (Nat × Option Nat × Bool × List Char) := do
  match cs with
  | '\x7d' :: cs =>
    let (greedy, rest) := lazyMark (skipIgnored v cs)
    match most with
    | some n => if n < least then throw .repetitionOrder
    | none => pure ()
    return (least, most, greedy, rest)
  | _ => throw .repetitionUnclosed

theorem boundsEnd_eq (v : Bool) (least : Nat) (most : Option Nat) (cs : List Char) :
    boundsEnd v least most cs = readBoundsEnd v least most cs := by
  unfold boundsEnd countsInOrder readBoundsEnd
  split
  · cases most with
    | none => rfl
    | some n =>
      simp only
      split <;> rfl
  · rfl

theorem readBounds_eq (v : Bool) (cs : List Char) :
    readBounds v cs = decimal v (skipIgnored v cs) >>= fun p =>
      greatest v p.1 p.2 >>= fun q => boundsEnd v p.1 q.1 q.2 := by
  unfold readBounds
  congr 1
  funext p
  obtain ⟨least, after⟩ := p
  simp only [boundsEnd_eq, readBoundsEnd]
  split
  · rename_i x
    split
    · rename_i heq
      rw [greatest_open heq]
      rfl
    · rename_i hopen
      rw [greatest_count hopen]
      cases decimal v (skipIgnored v x) <;> rfl
  · rename_i hnone
    rw [greatest_least hnone]
    rfl

theorem boundsEnd_leaves {v : Bool} {least least' : Nat} {most most' : Option Nat} {greedy : Bool} {cs rest : List Char}
    (h : boundsEnd v least most cs = .ok (least', most', greedy, rest)) :
    Leaves (fun _ => boundsEnd v least most) (fun r => .ok (least', most', greedy, r)) cs rest := by
  unfold boundsEnd at h
  split at h
  · rename_i after
    obtain ⟨u, hu, heq⟩ := Except.map_eq_ok h
    obtain ⟨hleast, heq⟩ := Prod.mk.inj heq
    obtain ⟨hmost, hmark⟩ := Prod.mk.inj heq
    subst hleast hmost
    have hend : Leaves (fun _ x => .ok (least, most, lazyMark x))
        (fun r => (.ok (least, most, greedy, r) : Except Fault (Nat × Option Nat × Bool × List Char)))
        (skipIgnored v after) rest := (lazyMark_leaves hmark).map fun x y F hy => by rw [hy]
    refine hend.advance fun x F => ?_
    unfold boundsEnd
    simp only [hu]
    rfl
  · cases h

/-- The bounds of a counted repetition, behind its opening brace. -/
theorem readBounds_leaves {v : Bool} {least : Nat} {most : Option Nat} {greedy : Bool} {cs rest : List Char}
    (h : readBounds v cs = .ok (least, most, greedy, rest)) :
    Leaves (fun _ => readBounds v) (fun r => .ok (least, most, greedy, r)) cs rest := by
  rw [readBounds_eq] at h
  obtain ⟨⟨n, afterLeast⟩, hn, h⟩ := Except.bind_eq_ok h
  obtain ⟨⟨m, afterMost⟩, hm, h⟩ := Except.bind_eq_ok h
  have hrest := (greatest_leaves hm).comp (h := fun _ x => greatest v n x >>= fun q => boundsEnd v n q.1 q.2)
    (boundsEnd_leaves h) fun x y F hF hlen _ _ hy => ⟨F, by omega, by rw [hy]; rfl⟩
  have hcounts := (decimal_leaves hn).comp
    (h := fun _ x => decimal v x >>= fun p => greatest v p.1 p.2 >>= fun q => boundsEnd v p.1 q.1 q.2)
    hrest fun x y F hF hlen _ _ hy => ⟨F, by omega, by rw [hy]; rfl⟩
  exact hcounts.skip fun x F => readBounds_eq v x

/-! ## Whole patterns -/

namespace Reader

/-- The same reader at another place and within further groups. -/
def under (r : Reader) (rest : List Char) (gs : List OpenGroup) : Reader :=
  { r with rest := rest, groups := r.groups ++ gs }

@[simp] theorem under_rest (r : Reader) (rest : List Char) (gs : List OpenGroup) : (r.under rest gs).rest = rest := rfl

variable {r s : Reader} {c : Char} {cs : List Char}

theorem open_leaves (h : r.open cs = .ok s) :
    Leaves (fun _ x gs => (r.under [] gs).open x) (fun y gs => .ok (s.under y gs)) cs s.rest := by
  obtain ⟨⟨opening, after⟩, ho, h⟩ := Except.bind_eq_ok h
  have hafter := readOpening_leaves ho
  cases opening with
  | setFlags items =>
    cases h
    refine hafter.map fun x y F hy => funext fun gs => ?_
    simp only [«open», under, hy, bind, Except.bind]
    rfl
  | plain items =>
    cases h
    refine hafter.map fun x y F hy => funext fun gs => ?_
    simp only [«open», under, hy, bind, Except.bind]
    rfl
  | capture name =>
    cases name with
    | none =>
      cases h
      refine hafter.map fun x y F hy => funext fun gs => ?_
      simp only [«open», under, hy, bind, Except.bind]
      rfl
    | some n =>
      by_cases hfresh : r.names.contains n = true
      · simp only [hfresh, if_true] at h
        cases h
      · simp only [hfresh] at h
        cases h
        refine hafter.map fun x y F hy => funext fun gs => ?_
        simp only [«open», under, hy, bind, Except.bind, hfresh]
        rfl

theorem close_leaves (h : r.close cs = .ok s) :
    Leaves (fun _ x gs => (r.under [] gs).close x) (fun y gs => .ok (s.under y gs)) cs s.rest := by
  unfold close at h
  split at h
  · cases h
  · rename_i g groups hgroups
    cases h
    refine .stop fun t F ht => funext fun gs => ?_
    simp only [close, under, hgroups, List.cons_append]
    rfl

theorem operand_under {a : Ast} {items : List Ast} (h : r.operand = .ok (a, items)) (y : List Char)
    (gs : List OpenGroup) : (r.under y gs).operand = .ok (a, items) := h

theorem repetition_leaves {least : Nat} {most : Option Nat} (h : r.repetition least most cs = .ok s) :
    Leaves (fun _ x gs => (r.under [] gs).repetition least most x) (fun y gs => .ok (s.under y gs)) cs s.rest := by
  obtain ⟨⟨a, items⟩, ho, h⟩ := Except.bind_eq_ok h
  generalize hmark : lazyMark cs = p at h
  obtain ⟨greedy, after⟩ := p
  cases h
  refine (lazyMark_leaves hmark).map fun x y F hy => funext fun gs => ?_
  rw [repetition, operand_under ho]
  simp only [bind, Except.bind, hy]
  rfl

theorem counted_leaves (h : r.counted cs = .ok s) :
    Leaves (fun _ x gs => (r.under [] gs).counted x) (fun y gs => .ok (s.under y gs)) cs s.rest := by
  obtain ⟨⟨a, items⟩, ho, h⟩ := Except.bind_eq_ok h
  obtain ⟨⟨least, most, greedy, after⟩, hbounds, h⟩ := Except.bind_eq_ok h
  cases h
  refine (readBounds_leaves hbounds).map fun x y F hy => funext fun gs => ?_
  rw [counted, operand_under ho]
  simp only [bind, Except.bind, under, hy]
  rfl

/-- One construct. -/
theorem step_leaves (h : r.step c cs = .ok s) :
    Leaves (fun _ x gs => (r.under [] gs).step c x) (fun y gs => .ok (s.under y gs)) cs s.rest := by
  cases hp : isPlain c with
  | true =>
    rw [step_plain hp] at h
    cases h
    exact .stop fun t F ht => funext fun gs => step_plain hp _ _
  | false =>
    rcases special_cases hp with rfl | rfl | rfl | rfl | rfl | rfl | rfl | rfl | rfl | rfl | rfl | rfl
    · exact open_leaves h
    · exact close_leaves h
    · cases h
      exact .stop fun t F ht => rfl
    · obtain ⟨⟨a, rest⟩, ha, h⟩ := Except.bind_eq_ok (x := readBrackets r.verbose ('[' :: cs)) h
      cases h
      refine (readBrackets_leaves ha).map fun x y F hy => funext fun gs => ?_
      simp only [step, under, hy, bind, Except.bind]
      rfl
    · exact repetition_leaves h
    · exact repetition_leaves h
    · exact repetition_leaves h
    · exact counted_leaves h
    · obtain ⟨⟨e, rest⟩, he, h⟩ := Except.bind_eq_ok (x := readEscape r.verbose cs) h
      cases h
      refine (readEscape_leaves he).map fun x y F hy => funext fun gs => ?_
      simp only [step, under, hy, bind, Except.bind]
      rfl
    all_goals
      cases h
      exact .stop fun t F ht => rfl

/-- Reading a construct does not depend on the place that is left by it. -/
theorem step_rest (y : List Char) (gs : List OpenGroup) : (r.under y gs).step c cs = (r.under [] gs).step c cs := by
  unfold step
  split <;> rfl

theorem run_succ (fuel : Nat) (x : List Char) (gs : List OpenGroup) :
    (r.under x gs).run (fuel + 1) =
      match skipIgnored r.verbose x with
      | [] => .ok (r.under [] gs)
      | c :: cs => (r.under [] gs).step c cs >>= run fuel := by
  rw [run]
  simp only [step_rest x gs]
  rfl

theorem run_skip (fuel : Nat) (x : List Char) (gs : List OpenGroup) :
    (r.under x gs).run (fuel + 1) = (r.under (skipIgnored r.verbose x) gs).run (fuel + 1) := by
  rw [run_succ, run_succ, skipIgnored_idem]

/-- The number of characters is fuel enough. -/
theorem run_fuel {F G : Nat} (hF : r.rest.length < F) (hG : r.rest.length < G) : r.run F = r.run G := by
  induction F generalizing r G with
  | zero => exact absurd hF (Nat.not_lt_zero _)
  | succ F ih =>
    cases G with
    | zero => exact absurd hG (Nat.not_lt_zero _)
    | succ G =>
      rw [run, run]
      split
      · rfl
      · rename_i c cs hskip
        cases hstep : r.step c cs with
        | error f => rfl
        | ok s =>
          have hlen := skipIgnored_length r.verbose r.rest
          have hrest := (step_leaves hstep).suffix.length_le
          rw [hskip, List.length_cons] at hlen
          exact ih (by omega) (by omega)

/-- **A reader that has come to the end** goes on with what is written behind, if no comment hides it. -/
theorem run_leaves {fuel : Nat} (hfuel : r.rest.length < fuel) (h : r.run fuel = .ok s) :
    Leaves (fun F x gs => (r.under x gs).run (F + 1)) (fun y gs => (s.under y gs).run (y.length + 1)) r.rest [] := by
  induction fuel generalizing r with
  | zero => exact absurd hfuel (Nat.not_lt_zero _)
  | succ fuel ih =>
    refine Leaves.skip (v := r.verbose) (g := fun F x gs => (r.under x gs).run (F + 1)) ?_
      fun x F => funext fun gs => run_skip F x gs
    rw [run] at h
    cases hskip : skipIgnored r.verbose r.rest with
    | nil =>
      rw [hskip] at h
      cases h
      exact ⟨List.suffix_rfl, .inl fun t F ht hF => funext fun gs =>
        run_fuel (Nat.lt_succ_of_le hF) (Nat.lt_succ_self t.length)⟩
    | cons c mid =>
      rw [hskip] at h
      obtain ⟨next, hstep, h⟩ := Except.bind_eq_ok h
      have hlen := skipIgnored_length r.verbose r.rest
      have hrest := (step_leaves hstep).suffix.length_le
      rw [hskip, List.length_cons] at hlen
      refine (step_leaves hstep).consComp (ih (by omega) h) fun x y F hF hlen _ _ hy => ⟨F, by omega, funext fun gs => ?_⟩
      rw [run_succ, skipIgnored_head hskip]
      simp only [congrFun hy gs]
      rfl

end Reader

end Transcripts.Pattern
