import Mathlib.Data.List.TakeDrop
import Mathlib.Data.List.TakeWhile
import Transcripts.Proofs.Pattern.Trailing

/-!
# What is written behind a class

The readers of classes in brackets leave what is written behind.  A class that is read is closed within the text,
so that only the signs before a sign that is there have to be looked at: a name needs its second colon, and a
hyphen and the sign behind it tell a range from an item.
-/
namespace Transcripts.Pattern

open Transcripts.Text (isBlank)

/-! ## Named classes -/

/-- The end of a named class: its name, a colon and the closing bracket. -/
def namedEnd? (negated : Bool) (cs : List Char) : Option (ClassSet × List Char) :=
  match cs.span (· != ':') with
  | (name, ':' :: ']' :: rest) =>
    (NamedClass.ofName? (String.ofList name)).map fun c => (.named c negated, rest)
  | _ => none

/-- A named class, behind its first colon. -/
def namedRest? (cs : List Char) : Option (ClassSet × List Char) :=
  let p : Bool × List Char := match cs with
    | '^' :: cs => (true, cs)
    | cs => (false, cs)
  namedEnd? p.1 p.2

theorem namedClass_colon (cs : List Char) : namedClass? ('[' :: ':' :: cs) = namedRest? cs := rfl

theorem namedRest_plain {cs : List Char} (h : ∀ x, cs ≠ '^' :: x) : namedRest? cs = namedEnd? false cs := by
  unfold namedRest?
  split
  · rename_i x
    exact absurd rfl (h x)
  · rfl

theorem namedEnd_eq_some {negated : Bool} {item : ClassSet} {cs rest : List Char} :
    namedEnd? negated cs = some (item, rest) ↔
      ∃ name c, ':' ∉ name ∧ cs = name ++ ':' :: ']' :: rest ∧
        NamedClass.ofName? (String.ofList name) = some c ∧ item = .named c negated := by
  unfold namedEnd?
  rw [List.span_eq_takeWhile_dropWhile]
  constructor
  · intro h
    split at h
    · rename_i name after heq
      obtain ⟨hname, hdrop⟩ := Prod.mk.inj heq
      obtain ⟨c, hc, heq⟩ := Option.map_eq_some_iff.1 h
      cases heq
      refine ⟨name, c, fun hmem => ?_, ?_, hc, rfl⟩
      · rw [← hname] at hmem
        exact absurd (List.mem_takeWhile_imp (p := (· != ':')) hmem) (by decide)
      · rw [← hname, ← hdrop, List.takeWhile_append_dropWhile]
    · cases h
  · rintro ⟨name, c, hname, rfl, hc, rfl⟩
    have hall : ∀ d ∈ name, (d != ':') = true := fun d hd => bne_iff_ne.2 fun h => hname (h ▸ hd)
    rw [List.takeWhile_append_of_pos hall, List.dropWhile_append_of_pos hall]
    simp [hc]

theorem namedEnd_leaves {negated : Bool} {item : ClassSet} {cs rest : List Char}
    (h : namedEnd? negated cs = some (item, rest)) :
    Leaves (fun _ => namedEnd? negated) (fun r => some (item, r)) cs rest := by
  obtain ⟨name, c, hname, rfl, hc, rfl⟩ := namedEnd_eq_some.1 h
  refine ⟨⟨name ++ [':', ']'], by simp⟩, .inl fun t F ht _ => namedEnd_eq_some.2 ⟨name, c, hname, by simp, hc, rfl⟩⟩

theorem namedEnd_none {negated : Bool} (cs : List Char) {t : List Char} (h : namedEnd? negated cs = none)
    (ht : Trailer t) : namedEnd? negated (cs ++ t) = none := by
  have hcolon : ':' ∉ t := by
    rcases ht with rfl | ⟨m, rfl, -, hm⟩
    · exact List.not_mem_nil
    · simpa using hm
  cases hread : namedEnd? negated (cs ++ t) with
  | none => rfl
  | some p =>
    obtain ⟨item, rest⟩ := p
    obtain ⟨name, c, hname, heq, hc, rfl⟩ := namedEnd_eq_some.1 hread
    rcases List.append_eq_append_iff.1 heq with ⟨a, rfl, rfl⟩ | ⟨a, rfl, hat⟩
    · simp at hcolon
    · match a with
      | [] =>
        rw [List.nil_append] at hat
        rw [← hat] at hcolon
        simp at hcolon
      | [_] =>
        obtain ⟨-, hat⟩ := List.cons.inj hat
        exact absurd (ht.head hat.symm) (by decide)
      | d :: e :: a =>
        obtain ⟨hd, hat⟩ := List.cons.inj hat
        obtain ⟨he, -⟩ := List.cons.inj hat
        rw [namedEnd_eq_some.2 ⟨name, c, hname, by rw [← hd, ← he], hc, rfl⟩] at h
        cases h

theorem namedRest_leaves {item : ClassSet} {cs rest : List Char} (h : namedRest? cs = some (item, rest)) :
    Leaves (fun _ => namedRest?) (fun r => some (item, r)) cs rest := by
  by_cases hnegated : ∃ x, cs = '^' :: x
  · obtain ⟨x, rfl⟩ := hnegated
    exact (namedEnd_leaves h).cons fun x F hF _ => ⟨F, hF, rfl⟩
  · have hplain (x : List Char) : cs ≠ '^' :: x := fun hx => hnegated ⟨x, hx⟩
    rw [namedRest_plain hplain] at h
    refine (namedEnd_leaves h).congr fun x F hx => ?_
    obtain ⟨t, ht, rfl⟩ := hx
    exact namedRest_plain (ht.append_ne (by decide) hplain)

theorem namedRest_none {cs t : List Char} (h : namedRest? cs = none) (ht : Trailer t) :
    namedRest? (cs ++ t) = none := by
  by_cases hnegated : ∃ x, cs = '^' :: x
  · obtain ⟨x, rfl⟩ := hnegated
    exact namedEnd_none x h ht
  · have hplain (x : List Char) : cs ≠ '^' :: x := fun hx => hnegated ⟨x, hx⟩
    rw [namedRest_plain hplain] at h
    rw [namedRest_plain (ht.append_ne (by decide) hplain)]
    exact namedEnd_none cs h ht

/-- A class that is named between colons. -/
theorem namedClass_leaves {item : ClassSet} {cs rest : List Char} (h : namedClass? ('[' :: cs) = some (item, rest)) :
    Leaves (fun _ x => namedClass? ('[' :: x)) (fun r => some (item, r)) cs rest := by
  match cs with
  | [] => cases h
  | c :: cs =>
    by_cases hc : c = ':'
    · subst hc
      rw [namedClass_colon] at h
      exact (namedRest_leaves h).cons fun x F hF _ => ⟨F, hF, namedClass_colon x⟩
    · simp [namedClass?, hc] at h

theorem namedClass_none {cs t : List Char} (h : namedClass? ('[' :: cs) = none) (ht : Trailer t) :
    namedClass? ('[' :: (cs ++ t)) = none := by
  have hother {x : List Char} (hx : ∀ y, x ≠ ':' :: y) : namedClass? ('[' :: x) = none := by
    unfold namedClass?
    split
    · rename_i heq
      exact absurd (List.cons.inj heq).2 (hx _)
    · rfl
  match cs with
  | [] => exact hother fun y hy => absurd (ht.head hy) (by decide)
  | c :: cs =>
    by_cases hc : c = ':'
    · subst hc
      rw [namedClass_colon] at h
      rw [List.cons_append, namedClass_colon]
      exact namedRest_none h ht
    · exact hother fun y hy => hc (List.cons.inj hy).1

/-! ## Items and ranges -/

theorem readItem_leaves {v : Bool} {c : Char} {e : Escaped} {cs rest : List Char}
    (h : readItem v (c :: cs) = .ok (e, rest)) :
    Leaves (fun _ x => readItem v (c :: x)) (fun r => .ok (e, r)) cs rest := by
  by_cases hc : c = '\\'
  · subst hc
    exact (readEscape_leaves h).map fun x y F hy => hy
  · have hread (x : List Char) : readItem v (c :: x) = .ok (.char ⟨c, false⟩, x) := by
      simp [readItem]
    rw [hread] at h
    cases h
    exact .stop fun t F ht => hread _

theorem look_append {b : Bool} {c : Char} {cs : List Char} (h : peekPast.look b cs = some c) (t : List Char) :
    peekPast.look b (cs ++ t) = some c := by
  induction cs generalizing b with
  | nil => cases h
  | cons d cs ih =>
    rw [List.cons_append]
    unfold peekPast.look at h ⊢
    split at h
    · rename_i hd
      rw [if_pos hd]
      exact ih h
    · rename_i hd
      rw [if_neg hd]
      split at h
      · rename_i hhash
        rw [if_pos hhash]
        exact ih h
      · rename_i hhash
        rw [if_neg hhash]
        exact h

theorem peekPast_append {v : Bool} {c d : Char} {cs : List Char} (h : peekPast v (d :: cs) = some c)
    (t : List Char) : peekPast v (d :: (cs ++ t)) = some c := by
  cases v with
  | true => exact look_append (b := false) h t
  | false =>
    cases cs with
    | nil => cases h
    | cons e cs => exact h

theorem look_none {b b' : Bool} {cs : List Char} (h : peekPast.look b cs = none) (hb : b' = true → b = true) :
    skipComments b' cs = [] := by
  induction cs generalizing b b' with
  | nil => rfl
  | cons c cs ih =>
    unfold peekPast.look at h
    unfold skipComments
    by_cases hblank : isBlank c = true
    · rw [if_pos hblank] at h
      split
      · rename_i hb'
        exact ih h fun _ => hb hb'
      · exact ih h fun hfalse => absurd hfalse Bool.false_ne_true
    · rw [if_neg hblank] at h
      split at h
      · rename_i hhash
        rw [Bool.and_eq_true, Bool.not_eq_true', beq_iff_eq] at hhash
        have hb' : ¬ b' = true := fun h => absurd (hb h) (by simp [hhash.1])
        rw [if_neg hb', if_neg hblank, if_pos hhash.2]
        exact ih h fun _ => rfl
      · cases h

theorem peekPast_none {v : Bool} {d : Char} {cs : List Char} (h : peekPast v (d :: cs) = none) :
    skipIgnored v cs = [] := by
  cases v with
  | true => exact look_none h nofun
  | false =>
    cases cs with
    | nil => rfl
    | cons e cs => cases h

/-- The range between two items. -/
def rangeOf (first last : Escaped) : Except Fault ClassSet := do
  let lo ← first.literal
  let hi ← last.literal
  if hi.char < lo.char then throw .classRange
  return .range lo hi

/-- The second end of a range, of which `first` is the first one. -/
def rangeEnd (v : Bool) (first : Escaped) (cs : List Char) : Except Fault (ClassSet × List Char) :=
  readItem v cs >>= fun p => (rangeOf first p.1).map (·, p.2)

/-- What stands behind the item `first` and the ignored characters after it. -/
def rangeRest (v : Bool) (first : Escaped) (cs : List Char) : Except Fault (ClassSet × List Char) :=
  match cs with
  | [] => .error .classUnclosed
  | c :: rest =>
    if c != '-' || peekPast v (c :: rest) == some ']' || peekPast v (c :: rest) == some '-' then
      first.item.map (·, c :: rest)
    else
      match skipIgnored v rest with
      | [] => .error .classUnclosed
      | rest => rangeEnd v first rest

theorem readRange_eq (v : Bool) (cs : List Char) :
    readRange v cs = readItem v cs >>= fun p => rangeRest v p.1 (skipIgnored v p.2) := by
  unfold readRange
  congr 1
  funext p
  obtain ⟨first, after⟩ := p
  simp only
  generalize skipIgnored v after = cs
  cases cs with
  | nil => rfl
  | cons c cs =>
    simp only [rangeRest]
    split
    · cases first.item <;> rfl
    · generalize skipIgnored v cs = cs
      cases cs with
      | nil => rfl
      | cons d cs =>
        simp only [rangeEnd]
        congr 1
        funext p
        unfold rangeOf
        cases first.literal with
        | error f => rfl
        | ok lo =>
          cases p.1.literal with
          | error f => rfl
          | ok hi =>
            by_cases hlt : hi.char < lo.char
            · simp only [bind, Except.bind, hlt, if_true]
              rfl
            · simp only [bind, Except.bind, hlt, if_false]
              rfl

theorem rangeEnd_leaves {v : Bool} {first : Escaped} {set : ClassSet} {c : Char} {cs rest : List Char}
    (h : rangeEnd v first (c :: cs) = .ok (set, rest)) :
    Leaves (fun _ x => rangeEnd v first (c :: x)) (fun r => .ok (set, r)) cs rest := by
  obtain ⟨⟨last, after⟩, hlast, h⟩ := Except.bind_eq_ok h
  obtain ⟨range, hrange, heq⟩ := Except.map_eq_ok h
  cases heq
  refine (readItem_leaves hlast).andThen fun r => ?_
  rw [hrange]
  rfl

theorem rangeRest_leaves {v : Bool} {first : Escaped} {set : ClassSet} {cs rest : List Char}
    (h : rangeRest v first cs = .ok (set, rest)) :
    Leaves (fun _ => rangeRest v first) (fun r => .ok (set, r)) cs rest := by
  match cs with
  | [] => cases h
  | c :: cs =>
    unfold rangeRest at h
    simp only at h
    by_cases hitem : (c != '-' || peekPast v (c :: cs) == some ']' || peekPast v (c :: cs) == some '-') = true
    -- an item, with a hyphen behind it or none
    · rw [if_pos hitem] at h
      obtain ⟨item, hi, heq⟩ := Except.map_eq_ok h
      cases heq
      refine .stop fun t F ht => ?_
      have hitem' : (c != '-' || peekPast v (c :: (cs ++ t)) == some ']' ||
          peekPast v (c :: (cs ++ t)) == some '-') = true := by
        rw [Bool.or_eq_true, Bool.or_eq_true, beq_iff_eq, beq_iff_eq] at hitem ⊢
        rcases hitem with (hc | hclose) | hhyphen
        · exact .inl (.inl hc)
        · exact .inl (.inr (peekPast_append hclose t))
        · exact .inr (peekPast_append hhyphen t)
      rw [List.cons_append, rangeRest, if_pos hitem', hi]
      rfl
    · rw [if_neg hitem] at h
      cases hmid : skipIgnored v cs with
      | nil =>
        rw [hmid] at h
        cases h
      | cons d mid =>
        rw [hmid] at h
        have hend : Leaves (fun _ => rangeEnd v first) (fun r => .ok (set, r)) (skipIgnored v cs) rest := by
          rw [hmid]
          exact (rangeEnd_leaves h).cons fun x F hF _ => ⟨F, hF, rfl⟩
        refine hend.advance_fuel fun x F hF hx hskip => ⟨(skipIgnored v x).length, Nat.le_refl _, ?_⟩
        obtain ⟨t, -, rfl⟩ := hx
        obtain ⟨next, hnext⟩ : ∃ next, peekPast v (c :: cs) = some next := by
          cases hpeek : peekPast v (c :: cs) with
          | none => rw [peekPast_none hpeek] at hmid; cases hmid
          | some next => exact ⟨next, rfl⟩
        rw [hnext] at hitem
        rw [rangeRest, peekPast_append hnext, if_neg hitem]
        obtain ⟨more, -, hmore⟩ := hskip
        rw [hmid] at hmore
        rw [← hmore]
        rfl

/-- An item or a range. -/
theorem readRange_leaves {v : Bool} {set : ClassSet} {c : Char} {cs rest : List Char}
    (h : readRange v (c :: cs) = .ok (set, rest)) :
    Leaves (fun _ x => readRange v (c :: x)) (fun r => .ok (set, r)) cs rest := by
  rw [readRange_eq] at h
  obtain ⟨⟨first, after⟩, hfirst, h⟩ := Except.bind_eq_ok h
  have hrest : Leaves (fun _ x => rangeRest v first (skipIgnored v x)) (fun r => .ok (set, r)) after rest :=
    (rangeRest_leaves h).skip fun x F => rfl
  exact (readItem_leaves hfirst).comp hrest fun x y F hF hlen _ _ hy => ⟨y.length, Nat.le_refl _, by
    rw [readRange_eq, hy]
    rfl⟩

/-! ## Sets -/

theorem leadingHyphens_stop {v : Bool} {items : List ClassSet} {cs : List Char} (h : ∀ x, cs ≠ '-' :: x) (F : Nat) :
    leadingHyphens v F items cs = .ok (items, cs) := by
  unfold leadingHyphens
  split
  · rename_i x
    exact absurd rfl (h x)
  · rfl

theorem leadingHyphens_leaves {v : Bool} {fuel : Nat} {items found : List ClassSet} {cs rest : List Char}
    (hfuel : cs.length ≤ fuel) (h : leadingHyphens v fuel items cs = .ok (found, rest)) :
    Leaves (fun F => leadingHyphens v F items) (fun r => .ok (found, r)) cs rest := by
  induction fuel generalizing items cs with
  | zero =>
    obtain rfl := List.length_eq_zero_iff.1 (Nat.le_zero.1 hfuel)
    cases h
    exact .stop fun t F ht => leadingHyphens_stop (fun x hx => absurd (ht.head hx) (by decide)) F
  | succ fuel ih =>
    by_cases hhyphen : ∃ x, cs = '-' :: x
    · obtain ⟨cs, rfl⟩ := hhyphen
      have hread {x : List Char} (F : Nat) (hx : skipIgnored v x ≠ []) : leadingHyphens v (F + 1) items ('-' :: x) =
          leadingHyphens v F (.char ⟨'-', false⟩ :: items) (skipIgnored v x) := by
        rw [leadingHyphens]
        split
        · rename_i hnil
          exact absurd hnil hx
        · rfl
      have hmid : skipIgnored v cs ≠ [] := by
        intro hnil
        rw [leadingHyphens, hnil] at h
        cases h
      rw [hread fuel hmid] at h
      have hlen := skipIgnored_length v cs
      rw [List.length_cons] at hfuel
      refine (ih (by omega) h).advance_fuel fun x F hF _ hskip => ?_
      exact ⟨F, Nat.le_trans (skipIgnored_length v x) hF, hread F (hskip.ne_nil hmid)⟩
    · rw [leadingHyphens_stop fun x hx => hhyphen ⟨x, hx⟩] at h
      cases h
      exact .stop fun t F ht =>
        leadingHyphens_stop (ht.append_ne (by decide) fun x hx => hhyphen ⟨x, hx⟩) F

/-- What the opening of a set may end with: a closing bracket that stands for itself. -/
def openingBracket (v negated : Bool) (items : List ClassSet) (cs : List Char) :
    Except Fault (Bool × List ClassSet × List Char) :=
  match items, cs with
  | [], ']' :: rest =>
    if (skipIgnored v rest).isEmpty then .error .classUnclosed
    else .ok (negated, [.char ⟨']', false⟩], skipIgnored v rest)
  | items, cs => .ok (negated, items, cs)

/-- The opening of a set behind its negation. -/
def openingItems (v negated : Bool) (cs : List Char) : Except Fault (Bool × List ClassSet × List Char) := do
  let (items, cs) ← leadingHyphens v cs.length [] cs
  match items, cs with
  | [], ']' :: rest =>
    let rest := skipIgnored v rest
    if rest.isEmpty then throw .classUnclosed
    return (negated, [.char ⟨']', false⟩], rest)
  | items, cs => return (negated, items, cs)

theorem openingItems_eq (v negated : Bool) (cs : List Char) :
    openingItems v negated cs =
      leadingHyphens v cs.length [] cs >>= fun p => openingBracket v negated p.1 p.2 := by
  unfold openingItems openingBracket
  congr 1

/-- The opening of a set behind its bracket and the ignored characters. -/
def openingRest (v : Bool) (cs : List Char) : Except Fault (Bool × List ClassSet × List Char) :=
  match cs with
  | [] => .error .classUnclosed
  | '^' :: rest =>
    if (skipIgnored v rest).isEmpty then .error .classUnclosed else openingItems v true (skipIgnored v rest)
  | cs => openingItems v false cs

theorem openSet_eq (v : Bool) (cs : List Char) : openSet v ('[' :: cs) = openingRest v (skipIgnored v cs) := by
  unfold openSet
  simp only [advance, List.tail_cons]
  generalize skipIgnored v cs = cs
  cases cs with
  | nil => rfl
  | cons c cs =>
    by_cases hc : c = '^'
    · subst hc
      simp only [openingRest, List.isEmpty_cons, Bool.false_eq_true, if_false]
      split
      · rfl
      · rfl
    · have hother : openingRest v (c :: cs) = openingItems v false (c :: cs) := by simp [openingRest, hc]
      rw [hother]
      simp only [List.isEmpty_cons, Bool.false_eq_true, if_false]
      split
      · rename_i heq
        exact absurd (List.cons.inj heq).1 hc
      · rfl

theorem openingBracket_leaves {v negated negated' : Bool} {items found : List ClassSet} {cs rest : List Char}
    (h : openingBracket v negated items cs = .ok (negated', found, rest)) :
    Leaves (fun _ => openingBracket v negated items) (fun r => .ok (negated', found, r)) cs rest := by
  by_cases hbracket : items = [] ∧ ∃ x, cs = ']' :: x
  · obtain ⟨rfl, cs, rfl⟩ := hbracket
    unfold openingBracket at h
    simp only at h
    split at h
    · cases h
    · rename_i hmid
      cases h
      refine (Leaves.stop (f := fun _ x => .ok (negated, [.char ⟨']', false⟩], x)) fun _ _ _ => rfl).advance_fuel
        fun x F hF _ hskip => ⟨F, Nat.le_trans (skipIgnored_length v x) hF, ?_⟩
      rw [List.isEmpty_iff] at hmid
      have hx := mt List.isEmpty_iff.1 (hskip.ne_nil hmid)
      unfold openingBracket
      simp only
      rw [if_neg hx]
  · have hread (x : List Char) (hx : ∀ y, x = ']' :: y → items ≠ []) :
        openingBracket v negated items x = .ok (negated, items, x) := by
      unfold openingBracket
      split
      · rename_i y
        exact absurd rfl (hx y rfl)
      · rfl
    rw [hread cs fun y hy hnil => hbracket ⟨hnil, y, hy⟩] at h
    cases h
    refine .stop fun t F ht => hread _ fun y hy hnil => ?_
    exact ht.append_ne (by decide) (fun x hx => hbracket ⟨hnil, x, hx⟩) y hy

theorem openingItems_leaves {v negated negated' : Bool} {items : List ClassSet} {cs rest : List Char}
    (h : openingItems v negated cs = .ok (negated', items, rest)) :
    Leaves (fun _ => openingItems v negated) (fun r => .ok (negated', items, r)) cs rest := by
  rw [openingItems_eq] at h
  obtain ⟨⟨hyphens, after⟩, hhyphens, h⟩ := Except.bind_eq_ok h
  have hafter := (leadingHyphens_leaves (Nat.le_refl _) hhyphens).comp
    (h := fun F x => leadingHyphens v F [] x >>= fun p => openingBracket v negated p.1 p.2)
    (openingBracket_leaves h) fun x y F hF hlen _ _ hy => ⟨y.length, Nat.le_refl _, by
      rw [hy]
      rfl⟩
  exact hafter.refuel fun x F => openingItems_eq v negated x

theorem openingRest_leaves {v negated : Bool} {items : List ClassSet} {cs rest : List Char}
    (h : openingRest v cs = .ok (negated, items, rest)) :
    Leaves (fun _ => openingRest v) (fun r => .ok (negated, items, r)) cs rest := by
  cases cs with
  | nil => cases h
  | cons c cs =>
    by_cases hc : c = '^'
    · subst hc
      unfold openingRest at h
      simp only at h
      split at h
      · cases h
      · rename_i hmid
        refine (openingItems_leaves h).advance_fuel fun x F hF _ hskip =>
          ⟨F, Nat.le_trans (skipIgnored_length v x) hF, ?_⟩
        rw [List.isEmpty_iff] at hmid
        have hx := mt List.isEmpty_iff.1 (hskip.ne_nil hmid)
        simp only [openingRest, if_neg hx]
    · have hread (x : List Char) : openingRest v (c :: x) = openingItems v false (c :: x) := by
        simp [openingRest, hc]
      rw [hread] at h
      exact (openingItems_leaves h).head fun x F => hread x

/-- The opening of a set, behind its bracket. -/
theorem openSet_leaves {v negated : Bool} {items : List ClassSet} {cs rest : List Char}
    (h : openSet v ('[' :: cs) = .ok (negated, items, rest)) :
    Leaves (fun _ x => openSet v ('[' :: x)) (fun r => .ok (negated, items, r)) cs rest := by
  rw [openSet_eq] at h
  exact (openingRest_leaves h).skip fun x F => openSet_eq v x

/-- One step of reading a set, at what is not passed over; `next` reads on. -/
def setStep (v : Bool) (next : OpenSet → List OpenSet → List Char → Except Fault (Ast × List Char))
    (cur : OpenSet) (outer : List OpenSet) : List Char → Except Fault (Ast × List Char)
  | [] => throw .classUnclosed
  | '[' :: rest =>
    match namedClass? ('[' :: rest) with
    | some (item, rest) => next (cur.push item) outer rest
    | none => do
      let (negated, items, rest) ← openSet v ('[' :: rest)
      next ⟨negated, items, none⟩ (cur :: outer) rest
  | ']' :: rest =>
    match outer with
    | [] => return (.brackets cur.negated cur.close, rest)
    | parent :: outer => next (parent.push (.nested cur.negated cur.close)) outer rest
  | '&' :: '&' :: rest => next (cur.operate .inter) outer rest
  | '-' :: '-' :: rest => next (cur.operate .diff) outer rest
  | '~' :: '~' :: rest => next (cur.operate .symmDiff) outer rest
  | cs => do
    let (item, rest) ← readRange v cs
    next (cur.push item) outer rest

theorem readSet_succ (v : Bool) (fuel : Nat) (cur : OpenSet) (outer : List OpenSet) (cs : List Char) :
    readSet v (fuel + 1) cur outer cs = setStep v (readSet v fuel) cur outer (skipIgnored v cs) := rfl

theorem readSet_skip (v : Bool) (fuel : Nat) (cur : OpenSet) (outer : List OpenSet) (cs : List Char) :
    readSet v fuel cur outer cs = readSet v fuel cur outer (skipIgnored v cs) := by
  cases fuel with
  | zero => rfl
  | succ fuel => rw [readSet_succ, readSet_succ, skipIgnored_idem]

/-- Signs that, written twice, combine two sets. -/
def SetOp.ofSign? : Char → Option SetOp
  | '&' => some .inter
  | '-' => some .diff
  | '~' => some .symmDiff
  | _ => none

section ReadSet

variable {v : Bool} {c : Char} {cs : List Char} (hc : ∀ x, skipIgnored v (c :: x) = c :: x)
  (fuel : Nat) (cur : OpenSet) (outer : List OpenSet)
include hc

theorem readSet_open (h : c = '[') :
    readSet v (fuel + 1) cur outer (c :: cs) =
      match namedClass? ('[' :: cs) with
      | some p => readSet v fuel (cur.push p.1) outer p.2
      | none => openSet v ('[' :: cs) >>= fun p => readSet v fuel ⟨p.1, p.2.1, none⟩ (cur :: outer) p.2.2 := by
  subst h
  rw [readSet_succ, hc]
  cases hnamed : namedClass? ('[' :: cs) <;> simp only [setStep, hnamed]

theorem readSet_close (h : c = ']') :
    readSet v (fuel + 1) cur outer (c :: cs) =
      match outer with
      | [] => .ok (.brackets cur.negated cur.close, cs)
      | parent :: outer => readSet v fuel (parent.push (.nested cur.negated cur.close)) outer cs := by
  subst h
  rw [readSet_succ, hc]
  rfl

theorem readSet_op {op : SetOp} (h : SetOp.ofSign? c = some op) :
    readSet v (fuel + 1) cur outer (c :: c :: cs) = readSet v fuel (cur.operate op) outer cs := by
  unfold SetOp.ofSign? at h
  split at h <;> cases h <;> rw [readSet_succ, hc] <;> rfl

theorem readSet_item (hopen : c ≠ '[') (hclose : c ≠ ']') (hop : ∀ x, cs = c :: x → SetOp.ofSign? c = none) :
    readSet v (fuel + 1) cur outer (c :: cs) =
      readRange v (c :: cs) >>= fun p => readSet v fuel (cur.push p.1) outer p.2 := by
  rw [readSet_succ, hc]
  unfold setStep
  split
  · rename_i heq
    cases heq
  · rename_i heq
    exact absurd (List.cons.inj heq).1 hopen
  · rename_i heq
    exact absurd (List.cons.inj heq).1 hclose
  · rename_i heq
    cases heq
    cases hop _ rfl
  · rename_i heq
    cases heq
    cases hop _ rfl
  · rename_i heq
    cases heq
    cases hop _ rfl
  · rfl

end ReadSet

/-! What stands at the start of the rest of a set, one lemma for each kind; `ih` is about what follows it. -/

section Rest

variable {v : Bool} {fuel : Nat} {a : Ast} {rest : List Char}
  (ih : ∀ {cur : OpenSet} {outer : List OpenSet} {cs : List Char}, readSet v fuel cur outer cs = .ok (a, rest) →
    Leaves (fun F => readSet v F cur outer) (fun r => .ok (a, r)) cs rest)
  {cur : OpenSet} {outer : List OpenSet} {c : Char} {cs : List Char} (hc : ∀ x, skipIgnored v (c :: x) = c :: x)
  (h : readSet v (fuel + 1) cur outer (c :: cs) = .ok (a, rest))
include ih hc h

theorem readSet_open_leaves (hopen : c = '[') :
    Leaves (fun F => readSet v F cur outer) (fun r => .ok (a, r)) (c :: cs) rest := by
  subst hopen
  rw [readSet_open hc _ _ _ rfl] at h
  cases hnamed : namedClass? ('[' :: cs) with
  | some p =>
    obtain ⟨item, after⟩ := p
    rw [hnamed] at h
    exact (namedClass_leaves hnamed).consComp (ih h) fun x y F hF hlen _ _ hy =>
      ⟨F, by omega, by rw [readSet_open hc _ _ _ rfl, hy]⟩
  | none =>
    rw [hnamed] at h
    obtain ⟨⟨negated, items, after⟩, hset, h⟩ := Except.bind_eq_ok h
    refine (openSet_leaves hset).consComp (ih h) fun x y F hF hlen hx _ hy => ⟨F, by omega, ?_⟩
    obtain ⟨t, ht, rfl⟩ := hx
    rw [readSet_open hc _ _ _ rfl, namedClass_none hnamed ht]
    simp only
    rw [hy]
    rfl

theorem readSet_close_leaves (hclose : c = ']') :
    Leaves (fun F => readSet v F cur outer) (fun r => .ok (a, r)) (c :: cs) rest := by
  rw [readSet_close hc _ _ _ hclose] at h
  cases outer with
  | nil =>
    cases h
    exact .tail fun x F => readSet_close hc _ _ _ hclose
  | cons parent outer => exact (ih h).cons fun x F hF _ => ⟨F, hF, readSet_close hc _ _ _ hclose⟩

theorem readSet_op_leaves {after : List Char} {op : SetOp} (hcs : cs = c :: after) (hop : SetOp.ofSign? c = some op) :
    Leaves (fun F => readSet v F cur outer) (fun r => .ok (a, r)) (c :: cs) rest := by
  subst hcs
  rw [readSet_op hc _ _ _ hop] at h
  have hrest : Leaves (fun F x => readSet v F (cur.operate op) outer x.tail) (fun r => .ok (a, r)) (c :: after) rest :=
    (ih h).cons fun x F hF _ => ⟨F + 1, Nat.le_succ_of_le hF, rfl⟩
  refine hrest.cons fun x F hF hx => ⟨F, hF, ?_⟩
  obtain ⟨t, -, rfl⟩ := hx
  exact readSet_op hc _ _ _ hop

theorem readSet_item_leaves (hopen : c ≠ '[') (hclose : c ≠ ']') (hop : ∀ x, cs = c :: x → SetOp.ofSign? c = none) :
    Leaves (fun F => readSet v F cur outer) (fun r => .ok (a, r)) (c :: cs) rest := by
  have hitem {x : List Char} (hx : Trails cs x) (F : Nat) : readSet v (F + 1) cur outer (c :: x) =
      readRange v (c :: x) >>= fun p => readSet v F (cur.push p.1) outer p.2 := by
    refine readSet_item hc _ _ _ hopen hclose fun y hy => ?_
    obtain ⟨t, ht, rfl⟩ := hx
    by_contra hsign
    have hparen : c ≠ ')' := fun h => hsign (h ▸ rfl)
    exact ht.append_ne hparen (fun y hy => hsign (hop y hy)) y hy
  rw [hitem .rfl] at h
  obtain ⟨⟨item, after⟩, hrange, h⟩ := Except.bind_eq_ok h
  exact (readRange_leaves hrange).consComp (ih h) fun x y F hF hlen hx _ hy => ⟨F, by omega, by
    rw [hitem hx, hy]
    rfl⟩

end Rest

/-- A set to its closing bracket. -/
theorem readSet_leaves {v : Bool} {fuel : Nat} {cur : OpenSet} {outer : List OpenSet} {a : Ast} {cs rest : List Char}
    (h : readSet v fuel cur outer cs = .ok (a, rest)) :
    Leaves (fun F => readSet v F cur outer) (fun r => .ok (a, r)) cs rest := by
  induction fuel generalizing cur outer cs with
  | zero => cases h
  | succ fuel ih =>
    rw [readSet_skip] at h
    refine Leaves.skip (g := fun F => readSet v F cur outer) ?_ fun x F => readSet_skip v F cur outer x
    cases hmid : skipIgnored v cs with
    | nil =>
      rw [hmid, readSet_succ, skipIgnored_nil] at h
      cases h
    | cons c mid =>
      have hc := skipIgnored_head hmid
      rw [hmid] at h
      by_cases hopen : c = '['
      · exact readSet_open_leaves ih hc h hopen
      by_cases hclose : c = ']'
      · exact readSet_close_leaves ih hc h hclose
      by_cases hop : ∃ x, mid = c :: x ∧ SetOp.ofSign? c ≠ none
      · obtain ⟨after, hmid, hop⟩ := hop
        obtain ⟨op, hop⟩ := Option.ne_none_iff_exists'.1 hop
        exact readSet_op_leaves ih hc h hmid hop
      · exact readSet_item_leaves ih hc h hopen hclose fun x hx => not_not.1 fun hsign => hop ⟨x, hx, hsign⟩

theorem readBrackets_leaves {v : Bool} {a : Ast} {cs rest : List Char} (h : readBrackets v ('[' :: cs) = .ok (a, rest)) :
    Leaves (fun _ x => readBrackets v ('[' :: x)) (fun r => .ok (a, r)) cs rest := by
  obtain ⟨⟨negated, items, after⟩, hset, h⟩ := Except.bind_eq_ok h
  exact (openSet_leaves hset).comp (readSet_leaves h) fun x y F hF hlen _ _ hy =>
    ⟨('[' :: x).length + 1, by rw [List.length_cons]; omega, by
      unfold readBrackets
      rw [hy]
      rfl⟩

end Transcripts.Pattern
