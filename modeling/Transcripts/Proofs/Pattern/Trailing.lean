import Transcripts.Proofs.Pattern.Reading

/-!
# What is written behind a construct

A construct that is read in a text is read in the same way when a closing parenthesis follows the text, and
what follows is left for the next construct.  There is one exception: if the text ends in a comment, the comment
goes on to the end of the line and hides all that follows.  `Leaves` says this of a reader; there is a lemma for
each reader, in the order of the readers.
-/
namespace Transcripts.Pattern

open Transcripts.Text (isBlank)

/-- What is written behind a text: nothing, or a closing parenthesis and more, without colons and ends of
lines. -/
def Trailer (t : List Char) : Prop := t = [] ∨ ∃ m, t = ')' :: m ∧ '\n' ∉ m ∧ ':' ∉ m

theorem Trailer.nil : Trailer [] := .inl rfl

theorem Trailer.head {t : List Char} (ht : Trailer t) {c : Char} {x : List Char} (h : t = c :: x) : c = ')' := by
  rcases ht with rfl | ⟨m, rfl, -, -⟩
  · cases h
  · cases h
    rfl

/-- What is written behind does not make a text start with another sign. -/
theorem Trailer.append_ne {t cs : List Char} {c : Char} (ht : Trailer t) (hc : c ≠ ')') (h : ∀ x, cs ≠ c :: x)
    (x : List Char) : cs ++ t ≠ c :: x := by
  intro hx
  cases cs with
  | nil => exact hc (ht.head hx)
  | cons d cs =>
    cases hx
    exact h cs rfl

/-- The text `x` is `cs` with something written behind it. -/
def Trails (cs x : List Char) : Prop := ∃ t, Trailer t ∧ cs ++ t = x

theorem Trails.intro {t cs : List Char} (ht : Trailer t) : Trails cs (cs ++ t) := ⟨t, ht, rfl⟩

theorem Trails.rfl {cs : List Char} : Trails cs cs := ⟨[], .nil, List.append_nil cs⟩

theorem Trails.ne_nil {cs x : List Char} (h : Trails cs x) (hcs : cs ≠ []) : x ≠ [] := by
  obtain ⟨t, -, rfl⟩ := h
  exact List.append_ne_nil_of_left_ne_nil hcs t

/-- The reader `f` reads something in `cs`, which makes its result `out` of what it has not read.  It leaves
`rest`, and what is written behind, which otherwise ends up in a comment of `cs`.  A reader takes fuel, of which
it needs as much as there are characters. -/
structure Leaves {β : Type} (f : Nat → List Char → β) (out : List Char → β) (cs rest : List Char) : Prop where
  suffix : rest <:+ cs
  behind : (∀ t F, Trailer t → (cs ++ t).length ≤ F → f F (cs ++ t) = out (rest ++ t)) ∨
    ('#' ∈ cs ∧ ∀ t F, Trailer t → (cs ++ t).length ≤ F → f F (cs ++ t) = out rest)

namespace Leaves

variable {α β γ : Type} {f : Nat → List Char → α} {g : Nat → List Char → β} {out : List Char → α}
  {out' : List Char → β} {cs mid rest : List Char}

theorem self (h : Leaves f out cs rest) {F : Nat} (hF : cs.length ≤ F) : f F cs = out rest := by
  have hlen : (cs ++ []).length ≤ F := by rwa [List.append_nil]
  rcases h.behind with hb | ⟨-, hb⟩
  · have := hb [] F .nil hlen
    rwa [List.append_nil, List.append_nil] at this
  · have := hb [] F .nil hlen
    rwa [List.append_nil] at this

/-- Nothing is read. -/
theorem stop (h : ∀ t F, Trailer t → f F (cs ++ t) = out (cs ++ t)) : Leaves f out cs cs :=
  ⟨List.suffix_rfl, .inl fun t F ht _ => h t F ht⟩

/-- A result that is made of another one. -/
theorem map (h : Leaves f out cs rest) (hmap : ∀ x y F, f F x = out y → g F x = out' y) :
    Leaves g out' cs rest := by
  refine ⟨h.suffix, ?_⟩
  rcases h.behind with hb | ⟨hhash, hb⟩
  · exact .inl fun t F ht hF => hmap _ _ _ (hb t F ht hF)
  · exact .inr ⟨hhash, fun t F ht hF => hmap _ _ _ (hb t F ht hF)⟩

/-- One reader after another. -/
theorem comp {h : Nat → List Char → β} (hf : Leaves f out cs mid) (hg : Leaves g out' mid rest)
    (hlink : ∀ x y F, x.length ≤ F → y.length ≤ x.length → Trails cs x → Trails mid y → f F x = out y →
      ∃ G, y.length ≤ G ∧ h F x = g G y) : Leaves h out' cs rest := by
  have hlen := hf.suffix.length_le
  have hlen' (t : List Char) : (mid ++ t).length ≤ (cs ++ t).length := by
    rw [List.length_append, List.length_append]
    omega
  refine ⟨hg.suffix.trans hf.suffix, ?_⟩
  rcases hf.behind with hb | ⟨hhash, hb⟩
  · rcases hg.behind with hb' | ⟨hhash, hb'⟩
    · refine .inl fun t F ht hF => ?_
      obtain ⟨G, hG, hh⟩ := hlink _ _ F hF (hlen' t) (.intro ht) (.intro ht) (hb t F ht hF)
      rw [hh, hb' t G ht hG]
    · refine .inr ⟨hf.suffix.subset hhash, fun t F ht hF => ?_⟩
      obtain ⟨G, hG, hh⟩ := hlink _ _ F hF (hlen' t) (.intro ht) (.intro ht) (hb t F ht hF)
      rw [hh, hb' t G ht hG]
  · refine .inr ⟨hhash, fun t F ht hF => ?_⟩
    have hmid : mid.length ≤ (cs ++ t).length := by
      rw [List.length_append]
      omega
    obtain ⟨G, hG, hh⟩ := hlink _ _ F hF hmid (.intro ht) .rfl (hb t F ht hF)
    rw [hh, hg.self hG]

/-- A reader after which something is made of its value and of what is left. -/
theorem andThen {α : Type} {f : Nat → List Char → Except Fault (α × List Char)} {a : α}
    {k : α × List Char → Except Fault β} {out : List Char → Except Fault β}
    (hf : Leaves f (fun r => .ok (a, r)) cs rest) (hk : ∀ r, k (a, r) = out r) :
    Leaves (fun F x => f F x >>= k) out cs rest := by
  refine hf.map fun x y F hy => ?_
  rw [hy]
  exact hk y

/-- One character, and a reader after it. -/
theorem cons {h : Nat → List Char → β} {c : Char} (hg : Leaves g out' cs rest)
    (hlink : ∀ x F, x.length ≤ F → Trails cs x → ∃ G, x.length ≤ G ∧ h (F + 1) (c :: x) = g G x) :
    Leaves h out' (c :: cs) rest := by
  refine ⟨hg.suffix.trans (List.suffix_cons c cs), ?_⟩
  have hread {t : List Char} (ht : Trailer t) (F : Nat) (hF : (c :: cs ++ t).length ≤ F) :
      ∃ G, (cs ++ t).length ≤ G ∧ h F (c :: cs ++ t) = g G (cs ++ t) := by
    cases F with
    | zero => simp at hF
    | succ F => exact hlink (cs ++ t) F (Nat.le_of_succ_le_succ hF) (.intro ht)
  rcases hg.behind with hb | ⟨hhash, hb⟩
  · refine .inl fun t F ht hF => ?_
    obtain ⟨G, hG, hh⟩ := hread ht F hF
    exact hh.trans (hb t G ht hG)
  · refine .inr ⟨List.mem_cons_of_mem c hhash, fun t F ht hF => ?_⟩
    obtain ⟨G, hG, hh⟩ := hread ht F hF
    exact hh.trans (hb t G ht hG)

/-- One character, a reader after it, and another one after that. -/
theorem consComp {h : Nat → List Char → β} {c : Char} (hf : Leaves f out cs mid) (hg : Leaves g out' mid rest)
    (hlink : ∀ x y F, x.length ≤ F → y.length ≤ x.length → Trails cs x → Trails mid y → f F x = out y →
      ∃ G, y.length ≤ G ∧ h (F + 1) (c :: x) = g G y) : Leaves h out' (c :: cs) rest :=
  (hf.comp (h := fun F x => h (F + 1) (c :: x)) hg hlink).cons fun _ F hF _ => ⟨F, hF, rfl⟩

/-- A reader that brings its own fuel. -/
theorem refuel {h : Nat → List Char → α} (hf : Leaves f out cs rest) (hlink : ∀ x F, h F x = f x.length x) :
    Leaves h out cs rest := by
  refine ⟨hf.suffix, ?_⟩
  rcases hf.behind with hb | ⟨hhash, hb⟩
  · exact .inl fun t F ht _ => (hlink _ F).trans (hb t _ ht (Nat.le_refl _))
  · exact .inr ⟨hhash, fun t F ht _ => (hlink _ F).trans (hb t _ ht (Nat.le_refl _))⟩

/-- A reader that is another one wherever the text has something written behind it. -/
theorem congr {h : Nat → List Char → β} (hg : Leaves g out' cs rest) (hlink : ∀ x F, Trails cs x → h F x = g F x) :
    Leaves h out' cs rest := by
  refine ⟨hg.suffix, ?_⟩
  rcases hg.behind with hb | ⟨hhash, hb⟩
  · exact .inl fun t F ht hF => (hlink _ F (.intro ht)).trans (hb t F ht hF)
  · exact .inr ⟨hhash, fun t F ht hF => (hlink _ F (.intro ht)).trans (hb t F ht hF)⟩

/-- A reader that is another one for all texts with the same first character. -/
theorem head {h : Nat → List Char → β} {c : Char} (hg : Leaves g out' (c :: cs) rest)
    (hlink : ∀ x F, h F (c :: x) = g F (c :: x)) : Leaves h out' (c :: cs) rest := by
  refine hg.congr fun x F hx => ?_
  obtain ⟨t, -, rfl⟩ := hx
  exact hlink _ F

end Leaves

/-! ## What is passed over -/

theorem isBlank_close : isBlank ')' = false := by decide

theorem skipComments_length (b : Bool) (cs : List Char) : (skipComments b cs).length ≤ cs.length := by
  induction cs generalizing b with
  | nil => exact Nat.le_refl _
  | cons c cs ih =>
    unfold skipComments
    split
    · exact Nat.le_succ_of_le (ih _)
    split
    · exact Nat.le_succ_of_le (ih _)
    split
    · exact Nat.le_succ_of_le (ih _)
    · exact Nat.le_refl _

theorem skipIgnored_length (v : Bool) (cs : List Char) : (skipIgnored v cs).length ≤ cs.length := by
  cases v
  · exact Nat.le_refl _
  · exact skipComments_length false cs

theorem skipComments_hidden {t : List Char} (ht : Trailer t) : skipComments true t = [] := by
  have hall : ∀ m : List Char, '\n' ∉ m → skipComments true m = [] := by
    intro m
    induction m with
    | nil => exact fun _ => rfl
    | cons c m ih =>
      intro hm
      have hc : (c != '\n') = true := bne_iff_ne.2 fun h => hm (h ▸ List.mem_cons_self)
      rw [skipComments, if_pos rfl, hc]
      exact ih fun h => hm (List.mem_cons_of_mem c h)
  rcases ht with rfl | ⟨m, rfl, hnl, -⟩
  · rfl
  · exact hall m hnl

theorem skipComments_trailer {t : List Char} (ht : Trailer t) : skipComments false t = t := by
  rcases ht with rfl | ⟨m, rfl, -, -⟩
  · rfl
  · rw [skipComments, if_neg Bool.false_ne_true, if_neg (by decide), if_neg (by decide)]

theorem skipIgnored_trailer (v : Bool) {t : List Char} (ht : Trailer t) : skipIgnored v t = t := by
  cases v
  · rfl
  · exact skipComments_trailer ht

/-- Blanks and comments go on into what follows only if a comment is open. -/
theorem skipComments_append (b : Bool) (cs : List Char) :
    skipComments b cs <:+ cs ∧
    ((∀ t, Trailer t → skipComments b (cs ++ t) = skipComments b cs ++ t) ∨
      ((b = true ∨ '#' ∈ cs) ∧ ∀ t, Trailer t → skipComments b (cs ++ t) = skipComments b cs)) := by
  induction cs generalizing b with
  | nil =>
    refine ⟨List.suffix_rfl, ?_⟩
    cases b
    · exact .inl fun t ht => skipComments_trailer ht
    · exact .inr ⟨.inl rfl, fun t ht => skipComments_hidden ht⟩
  | cons c cs ih =>
    have hnext (b' : Bool) (hskip : ∀ x, skipComments b (c :: x) = skipComments b' x)
        (hb' : b' = true → b = true ∨ '#' ∈ c :: cs) :
        skipComments b (c :: cs) <:+ c :: cs ∧
        ((∀ t, Trailer t → skipComments b (c :: cs ++ t) = skipComments b (c :: cs) ++ t) ∨
          ((b = true ∨ '#' ∈ c :: cs) ∧ ∀ t, Trailer t → skipComments b (c :: cs ++ t) = skipComments b (c :: cs))) := by
      simp only [List.cons_append, hskip]
      obtain ⟨hsuffix, hbehind⟩ := ih b'
      refine ⟨hsuffix.trans (List.suffix_cons c cs), ?_⟩
      rcases hbehind with hb | ⟨hopen, hb⟩
      · exact .inl hb
      · refine .inr ⟨?_, hb⟩
        rcases hopen with hopen | hopen
        · exact hb' hopen
        · exact .inr (List.mem_cons_of_mem c hopen)
    by_cases hin : b = true
    · subst hin
      exact hnext (c != '\n') (fun x => by rw [skipComments, if_pos rfl]) fun _ => .inl rfl
    · rw [Bool.not_eq_true] at hin
      subst hin
      by_cases hblank : isBlank c = true
      · exact hnext false (fun x => by rw [skipComments, if_neg Bool.false_ne_true, if_pos hblank]) nofun
      · by_cases hhash : c = '#'
        · refine hnext true (fun x => ?_) fun _ => .inr (hhash ▸ List.mem_cons_self)
          rw [skipComments, if_neg Bool.false_ne_true, if_neg hblank, if_pos hhash]
        · have hstay (x : List Char) : skipComments false (c :: x) = c :: x := by
            rw [skipComments, if_neg Bool.false_ne_true, if_neg hblank, if_neg hhash]
          rw [hstay]
          exact ⟨List.suffix_rfl, .inl fun t _ => hstay _⟩

theorem skipIgnored_leaves (v : Bool) (cs : List Char) :
    Leaves (fun _ => skipIgnored v) id cs (skipIgnored v cs) := by
  cases v
  · exact .stop fun t F ht => rfl
  · obtain ⟨hsuffix, hbehind⟩ := skipComments_append false cs
    refine ⟨hsuffix, ?_⟩
    rcases hbehind with hb | ⟨hopen, hb⟩
    · exact .inl fun t F ht _ => hb t ht
    · exact .inr ⟨hopen.resolve_left Bool.false_ne_true, fun t F ht _ => hb t ht⟩

/-- What is left after the ignored characters starts with a character that is not ignored. -/
theorem skipIgnored_head {v : Bool} {c : Char} {cs mid : List Char} (h : skipIgnored v cs = c :: mid) (x : List Char) :
    skipIgnored v (c :: x) = c :: x := by
  cases v with
  | false => rfl
  | true =>
    have hhead : ∀ (b : Bool) (cs : List Char), skipComments b cs = c :: mid → isBlank c = false ∧ c ≠ '#' := by
      intro b cs
      induction cs generalizing b with
      | nil => exact nofun
      | cons d cs ih =>
        unfold skipComments
        split
        · exact ih _
        split
        · exact ih _
        split
        · exact ih _
        · rename_i hblank hhash
          intro heq
          cases heq
          exact ⟨Bool.eq_false_iff.2 hblank, hhash⟩
    obtain ⟨hblank, hhash⟩ := hhead false cs h
    change skipComments false (c :: x) = c :: x
    rw [skipComments, if_neg Bool.false_ne_true, hblank, if_neg Bool.false_ne_true, if_neg hhash]

theorem skipIgnored_idem (v : Bool) (cs : List Char) : skipIgnored v (skipIgnored v cs) = skipIgnored v cs := by
  cases h : skipIgnored v cs with
  | nil => cases v <;> rfl
  | cons c mid => exact skipIgnored_head h mid

theorem skipIgnored_append (v : Bool) (cs : List Char) {t : List Char} (ht : Trailer t) :
    skipIgnored v (skipIgnored v cs ++ t) = skipIgnored v cs ++ t := by
  cases h : skipIgnored v cs with
  | nil => exact skipIgnored_trailer v ht
  | cons c mid => exact skipIgnored_head h (mid ++ t)

theorem skipIgnored_nil (v : Bool) : skipIgnored v [] = [] := by
  cases v <;> rfl

namespace Leaves

variable {α β : Type} {g h : Nat → List Char → β} {out : List Char → β} {v : Bool} {cs rest : List Char}

/-- A reader after ignored characters. -/
theorem skip (hg : Leaves g out (skipIgnored v cs) rest) (hlink : ∀ x F, h F x = g F (skipIgnored v x)) :
    Leaves h out cs rest := by
  refine (skipIgnored_leaves v cs).comp hg fun x y F hF hlen _ _ hy => ⟨F, by omega, ?_⟩
  rw [hlink, hy]
  rfl

/-- A reader after a character and the ignored ones behind it, with the fuel that is given to it. -/
theorem advance_fuel {c : Char} (hg : Leaves g out (skipIgnored v cs) rest)
    (hlink : ∀ x F, x.length ≤ F → Trails cs x → Trails (skipIgnored v cs) (skipIgnored v x) →
      ∃ G, (skipIgnored v x).length ≤ G ∧ h (F + 1) (c :: x) = g G (skipIgnored v x)) :
    Leaves h out (c :: cs) rest := by
  refine (skipIgnored_leaves v cs).consComp hg fun x y F hF hlen hx hy heq => ?_
  rw [← show skipIgnored v x = y from heq] at hlen hy ⊢
  exact hlink x F hF hx hy

/-- A reader after a character and the ignored ones behind it. -/
theorem advance {c : Char} (hg : Leaves g out (skipIgnored v cs) rest)
    (hlink : ∀ x F, h (F + 1) (c :: x) = g F (skipIgnored v x)) : Leaves h out (c :: cs) rest :=
  hg.advance_fuel fun x F hF _ _ => ⟨F, Nat.le_trans (skipIgnored_length v x) hF, hlink x F⟩

/-- The rest is what stands behind a character and the ignored ones. -/
theorem past {c : Char} (hlink : ∀ x F, h (F + 1) (c :: x) = out (skipIgnored v x)) :
    Leaves h out (c :: cs) (skipIgnored v cs) :=
  (Leaves.stop (f := fun _ x => out x) fun _ _ _ => rfl).advance hlink

/-- The rest is what stands behind a character. -/
theorem tail {c : Char} (hlink : ∀ x F, h (F + 1) (c :: x) = out x) : Leaves h out (c :: cs) cs :=
  (Leaves.stop (f := fun _ x => out x) fun _ _ _ => rfl).cons fun x F hF _ => ⟨F, hF, hlink x F⟩

end Leaves

/-! ## Numbers -/

theorem hexDigits_leaves {v : Bool} {k n a : Nat} {cs rest : List Char} (h : hexDigits v k n cs = .ok (a, rest)) :
    Leaves (fun _ => hexDigits v k n) (fun r => .ok (a, r)) cs rest := by
  induction k generalizing n cs with
  | zero =>
    cases h
    exact .stop fun t F ht => rfl
  | succ k ih =>
    cases cs with
    | nil => cases h
    | cons c cs =>
      unfold hexDigits at h
      cases hd : hexDigit? c with
      | none => rw [hd] at h; cases h
      | some d =>
        rw [hd] at h
        exact (ih h).advance fun x F => by rw [hexDigits, hd]

theorem hexBraced_leaves {v : Bool} {fuel count n a : Nat} {cs rest : List Char}
    (h : hexBraced v fuel count n cs = .ok (a, rest)) :
    Leaves (fun F => hexBraced v F count n) (fun r => .ok (a, r)) cs rest := by
  induction fuel generalizing count n cs with
  | zero => cases h
  | succ fuel ih =>
    cases cs with
    | nil => cases h
    | cons c cs =>
      unfold hexBraced at h
      by_cases hc : c = '\x7d'
      · rw [if_pos hc] at h
        by_cases hcount : count = 0
        · rw [if_pos hcount] at h
          cases h
        · rw [if_neg hcount] at h
          cases h
          exact .past fun x F => by rw [hexBraced, if_pos hc, if_neg hcount]
      · rw [if_neg hc] at h
        cases hd : hexDigit? c with
        | none => rw [hd] at h; cases h
        | some d =>
          rw [hd] at h
          exact (ih h).advance fun x F => by rw [hexBraced, if_neg hc, hd]

theorem decimalDigits_stop {v : Bool} {n : Option Nat} {cs : List Char} (h : ∀ c x, cs = c :: x → c.isDigit = false)
    (F : Nat) : decimalDigits v F n cs = (n, cs) := by
  cases F with
  | zero => rfl
  | succ F =>
    cases cs with
    | nil => rfl
    | cons c cs => rw [decimalDigits, h c cs rfl, if_neg Bool.false_ne_true]

theorem decimalDigits_leaves {v : Bool} {fuel : Nat} {n a : Option Nat} {cs rest : List Char}
    (hfuel : cs.length ≤ fuel) (h : decimalDigits v fuel n cs = (a, rest)) :
    Leaves (fun F => decimalDigits v F n) (fun r => (a, r)) cs rest := by
  induction fuel generalizing n cs with
  | zero =>
    obtain rfl := List.length_eq_zero_iff.1 (Nat.le_zero.1 hfuel)
    cases h
    exact .stop fun t F ht => decimalDigits_stop (fun c x hx => ht.head hx ▸ rfl) F
  | succ fuel ih =>
    cases cs with
    | nil =>
      cases h
      exact .stop fun t F ht => decimalDigits_stop (fun c x hx => ht.head hx ▸ rfl) F
    | cons c cs =>
      unfold decimalDigits at h
      by_cases hc : c.isDigit = true
      · rw [if_pos hc] at h
        have hlen := skipIgnored_length v cs
        rw [List.length_cons] at hfuel
        exact (ih (by omega) h).advance fun x F => by rw [decimalDigits, if_pos hc]
      · rw [if_neg hc] at h
        cases h
        refine .stop fun t F ht => decimalDigits_stop (fun d x hx => ?_) F
        cases hx
        exact Bool.eq_false_iff.2 hc

theorem skipBlanks_stop {v : Bool} {cs : List Char} (h : ∀ c x, cs = c :: x → isBlank c = false) (F : Nat) :
    skipBlanks v F cs = cs := by
  cases F with
  | zero => rfl
  | succ F =>
    cases cs with
    | nil => rfl
    | cons c cs => rw [skipBlanks, h c cs rfl, if_neg Bool.false_ne_true]

theorem skipBlanks_leaves {v : Bool} {fuel : Nat} {cs : List Char} (hfuel : cs.length ≤ fuel) :
    Leaves (fun F => skipBlanks v F) id cs (skipBlanks v fuel cs) := by
  induction fuel generalizing cs with
  | zero =>
    obtain rfl := List.length_eq_zero_iff.1 (Nat.le_zero.1 hfuel)
    exact .stop fun t F ht => skipBlanks_stop (fun c x hx => ht.head hx ▸ isBlank_close) F
  | succ fuel ih =>
    cases cs with
    | nil => exact .stop fun t F ht => skipBlanks_stop (fun c x hx => ht.head hx ▸ isBlank_close) F
    | cons c cs =>
      unfold skipBlanks
      by_cases hc : isBlank c = true
      · rw [if_pos hc]
        have hlen := skipIgnored_length v cs
        rw [List.length_cons] at hfuel
        exact (ih (by omega)).advance fun x F => by rw [skipBlanks, if_pos hc]
      · rw [if_neg hc]
        refine .stop fun t F ht => skipBlanks_stop (fun d x hx => ?_) F
        cases hx
        exact Bool.eq_false_iff.2 hc

theorem dropBlanks_leaves (cs : List Char) :
    Leaves (fun _ x => x.dropWhile isBlank) id cs (cs.dropWhile isBlank) := by
  refine ⟨List.dropWhile_suffix isBlank, .inl fun t F ht _ => ?_⟩
  rw [List.dropWhile_append]
  cases hd : cs.dropWhile isBlank with
  | nil =>
    rcases ht with rfl | ⟨m, rfl, -, -⟩
    · rfl
    · have hclose : ¬ isBlank ')' = true := by decide
      exact List.dropWhile_cons_of_neg hclose
  | cons c rest => rfl

/-- What is made of the digits of a count, if there are any. -/
def decimalEnd (v : Bool) : Option Nat × List Char → Except Fault (Nat × List Char)
  | (none, _) => .error .repetitionCount
  | (some n, rest) =>
    if n < 0x100000000 then .ok (n, skipBlanks v rest.length rest) else .error .repetitionCount

theorem decimal_leaves {v : Bool} {n : Nat} {cs rest : List Char} (h : decimal v cs = .ok (n, rest)) :
    Leaves (fun _ => decimal v) (fun r => .ok (n, r)) cs rest := by
  unfold decimal at h
  simp only at h
  split at h
  · cases h
  · rename_i m digits hdigits
    by_cases hm : m < 0x100000000
    · rw [if_pos hm] at h
      cases h
      have hblanks : Leaves (fun F x => .ok (n, skipBlanks v F x)) (fun r => (.ok (n, r) : Except Fault (Nat × List Char)))
          digits (skipBlanks v digits.length digits) :=
        (skipBlanks_leaves (Nat.le_refl _)).map fun x y F hy => by rw [hy]; rfl
      have hafter := (decimalDigits_leaves (Nat.le_refl _) hdigits).comp
        (h := fun F x => decimalEnd v (decimalDigits v F none x)) hblanks
        fun x y F hF hlen _ _ hy => ⟨y.length, Nat.le_refl _, by simp only [hy, decimalEnd, if_pos hm]⟩
      exact (dropBlanks_leaves cs).comp hafter fun x y F hF hlen _ _ hy => ⟨y.length, Nat.le_refl _, by
        rw [← show x.dropWhile isBlank = y from hy]
        rfl⟩
    · rw [if_neg hm] at h
      cases h

/-! ## Escapes -/

theorem readHex_skip (v : Bool) (kind : Char) (cs : List Char) :
    readHex v kind cs = readHex v kind (skipIgnored v cs) := by
  unfold readHex
  rw [skipIgnored_idem]

theorem readHex_brace {v : Bool} {x : List Char} (hskip : skipIgnored v ('\x7b' :: x) = '\x7b' :: x) (kind : Char) :
    readHex v kind ('\x7b' :: x) = hexBraced v (x.length + 1) 0 0 (skipIgnored v x) >>= fun p =>
      (charOf? p.1).map fun d => (.char ⟨d, false⟩, p.2) := by
  rw [readHex, hskip]
  rfl

theorem readHex_plain {v : Bool} {c : Char} {x : List Char} (hskip : skipIgnored v (c :: x) = c :: x)
    (hc : c ≠ '\x7b') (kind : Char) :
    readHex v kind (c :: x) =
      hexDigits v (if kind = 'x' then 2 else if kind = 'u' then 4 else 8) 0 (c :: x) >>= fun p =>
        (charOf? p.1).map fun d => (.char ⟨d, kind = 'x'⟩, p.2) := by
  rw [readHex, hskip]
  split
  · rename_i heq
    cases heq
  · rename_i heq
    exact absurd (List.cons.inj heq).1 hc
  · rfl

theorem readHex_leaves {v : Bool} {kind : Char} {e : Escaped} {cs rest : List Char}
    (h : readHex v kind cs = .ok (e, rest)) : Leaves (fun _ => readHex v kind) (fun r => .ok (e, r)) cs rest := by
  rw [readHex_skip] at h
  refine Leaves.skip (g := fun _ => readHex v kind) ?_ fun x _ => readHex_skip v kind x
  cases hmid : skipIgnored v cs with
  | nil =>
    rw [hmid, readHex, skipIgnored_nil] at h
    cases h
  | cons c mid =>
    have hhead := skipIgnored_head hmid
    rw [hmid] at h
    by_cases hc : c = '\x7b'
    · subst hc
      rw [readHex_brace (hhead mid)] at h
      obtain ⟨⟨n, after⟩, hn, h⟩ := Except.bind_eq_ok h
      obtain ⟨d, hd, heq⟩ := Except.map_eq_ok h
      cases heq
      refine ((hexBraced_leaves hn).andThen fun r => ?_).advance_fuel fun x F _ _ _ =>
        ⟨x.length + 1, Nat.le_succ_of_le (skipIgnored_length v x), readHex_brace (hhead x) kind⟩
      rw [hd]
      rfl
    · rw [readHex_plain (hhead mid) hc] at h
      obtain ⟨⟨n, after⟩, hn, h⟩ := Except.bind_eq_ok h
      obtain ⟨d, hd, heq⟩ := Except.map_eq_ok h
      cases heq
      refine ((hexDigits_leaves hn).andThen fun r => ?_).head fun x F => readHex_plain (hhead x) hc kind
      rw [hd]
      rfl

theorem bracedName_leaves {v : Bool} {fuel : Nat} {name read cs rest : List Char}
    (h : bracedName v fuel name cs = .ok (read, rest)) :
    Leaves (fun F => bracedName v F name) (fun r => .ok (read, r)) cs rest := by
  induction fuel generalizing name cs with
  | zero => cases h
  | succ fuel ih =>
    cases cs with
    | nil => cases h
    | cons c cs =>
      unfold bracedName at h
      by_cases hc : c = '\x7d'
      · rw [if_pos hc] at h
        cases h
        exact .tail fun x F => by rw [bracedName, if_pos hc]
      · rw [if_neg hc] at h
        exact (ih h).advance fun x F => by rw [bracedName, if_neg hc]

theorem readProperty_skip (v negated : Bool) (cs : List Char) :
    readProperty v negated cs = readProperty v negated (skipIgnored v cs) := by
  unfold readProperty
  rw [skipIgnored_idem]

theorem readProperty_brace {v : Bool} {x : List Char} (hskip : skipIgnored v ('\x7b' :: x) = '\x7b' :: x)
    (negated : Bool) :
    readProperty v negated ('\x7b' :: x) = bracedName v (x.length + 1) [] (skipIgnored v x) >>= fun p =>
      .ok (.property (queryOf p.1) negated, p.2) := by
  rw [readProperty, hskip]
  rfl

theorem readProperty_plain {v : Bool} {c : Char} {x : List Char} (hskip : skipIgnored v (c :: x) = c :: x)
    (hc : c ≠ '\x7b') (negated : Bool) :
    readProperty v negated (c :: x) = if c = '\\' then .error .escapeProperty
      else .ok (.property (.named (String.ofList [c])) negated, skipIgnored v x) := by
  rw [readProperty, hskip]
  split
  · rename_i heq
    cases heq
  · rename_i heq
    exact absurd (List.cons.inj heq).1 hc
  · rename_i heq
    cases heq
    by_cases hb : c = '\\'
    · rw [if_pos hb, if_pos hb]
      rfl
    · rw [if_neg hb, if_neg hb]
      rfl

theorem readProperty_leaves {v negated : Bool} {e : Escaped} {cs rest : List Char}
    (h : readProperty v negated cs = .ok (e, rest)) :
    Leaves (fun _ => readProperty v negated) (fun r => .ok (e, r)) cs rest := by
  rw [readProperty_skip] at h
  refine Leaves.skip (g := fun _ => readProperty v negated) ?_ fun x _ => readProperty_skip v negated x
  cases hmid : skipIgnored v cs with
  | nil =>
    rw [hmid, readProperty, skipIgnored_nil] at h
    cases h
  | cons c mid =>
    have hhead := skipIgnored_head hmid
    rw [hmid] at h
    by_cases hc : c = '\x7b'
    · subst hc
      rw [readProperty_brace (hhead mid)] at h
      obtain ⟨⟨name, after⟩, hname, h⟩ := Except.bind_eq_ok h
      cases h
      have hquery := (bracedName_leaves hname).andThen
        (k := fun p => .ok (Escaped.property (queryOf p.1) negated, p.2)) fun r => rfl
      exact hquery.advance_fuel fun x F _ _ _ =>
        ⟨x.length + 1, Nat.le_succ_of_le (skipIgnored_length v x), readProperty_brace (hhead x) negated⟩
    · rw [readProperty_plain (hhead mid) hc] at h
      by_cases hb : c = '\\'
      · rw [if_pos hb] at h
        cases h
      · rw [if_neg hb] at h
        cases h
        exact .past fun x F => by rw [readProperty_plain (hhead x) hc, if_neg hb]

theorem boundaryName_stop {v : Bool} {name cs : List Char} (h : ∀ c x, cs = c :: x → isBoundaryChar c = false)
    (F : Nat) : boundaryName v F name cs = (name.reverse, cs) := by
  cases F with
  | zero => rfl
  | succ F =>
    cases cs with
    | nil => rfl
    | cons c cs => rw [boundaryName, h c cs rfl, if_neg Bool.false_ne_true]

theorem boundaryName_leaves {v : Bool} {fuel : Nat} {name read cs rest : List Char} (hfuel : cs.length ≤ fuel)
    (h : boundaryName v fuel name cs = (read, rest)) :
    Leaves (fun F => boundaryName v F name) (fun r => (read, r)) cs rest := by
  induction fuel generalizing name cs with
  | zero =>
    obtain rfl := List.length_eq_zero_iff.1 (Nat.le_zero.1 hfuel)
    cases h
    exact .stop fun t F ht => boundaryName_stop (fun c x hx => ht.head hx ▸ by decide) F
  | succ fuel ih =>
    cases cs with
    | nil =>
      cases h
      exact .stop fun t F ht => boundaryName_stop (fun c x hx => ht.head hx ▸ by decide) F
    | cons c cs =>
      unfold boundaryName at h
      by_cases hc : isBoundaryChar c = true
      · rw [if_pos hc] at h
        have hlen := skipIgnored_length v cs
        rw [List.length_cons] at hfuel
        exact (ih (by omega) h).advance fun x F => by rw [boundaryName, if_pos hc]
      · rw [if_neg hc] at h
        cases h
        refine .stop fun t F ht => boundaryName_stop (fun d x hx => ?_) F
        cases hx
        exact Bool.eq_false_iff.2 hc

/-- The special boundary that a name in braces stands for. -/
def boundaryOf (p : List Char × List Char) : Except Fault (Escaped × List Char) := do
  let (name, rest) := p
  match rest with
  | '\x7d' :: rest =>
    match String.ofList name with
    | "start" => return (.anchor .wordStart, rest)
    | "end" => return (.anchor .wordEnd, rest)
    | "start-half" => return (.anchor .wordStartHalf, rest)
    | "end-half" => return (.anchor .wordEndHalf, rest)
    | _ => throw .boundaryUnknown
  | _ => throw .boundaryUnclosed

theorem boundaryOf_leaves {name cs rest : List Char} {e : Escaped} (h : boundaryOf (name, cs) = .ok (e, rest)) :
    Leaves (fun _ x => boundaryOf (name, x)) (fun r => .ok (e, r)) cs rest := by
  unfold boundaryOf at h
  simp only at h
  split at h
  · rename_i after
    have hread : after = rest ∧ ∀ r, boundaryOf (name, '\x7d' :: r) = .ok (e, r) := by
      split at h <;> cases h <;> refine ⟨rfl, fun r => ?_⟩ <;> simp only [boundaryOf, *] <;> rfl
    obtain ⟨rfl, hread⟩ := hread
    exact .tail fun x F => hread x
  · cases h

theorem readBoundary_plain {v : Bool} {cs : List Char} (h : ∀ x, cs ≠ '\x7b' :: x) :
    readBoundary v cs = .ok (.anchor .boundary, cs) := by
  unfold readBoundary
  split
  · rename_i inner
    exact absurd rfl (h inner)
  · rfl

theorem readBoundary_brace {v : Bool} {c : Char} {x y : List Char} (h : skipIgnored v x = c :: y) :
    readBoundary v ('\x7b' :: x) =
      if !isBoundaryChar c then .ok (.anchor .boundary, '\x7b' :: x)
      else boundaryOf (boundaryName v (c :: y).length [] (c :: y)) := by
  unfold readBoundary
  simp only [h]
  rfl

theorem readBoundary_leaves {v : Bool} {e : Escaped} {cs rest : List Char} (h : readBoundary v cs = .ok (e, rest)) :
    Leaves (fun _ => readBoundary v) (fun r => .ok (e, r)) cs rest := by
  by_cases hbrace : ∃ x, cs = '\x7b' :: x
  · obtain ⟨inner, rfl⟩ := hbrace
    cases hmid : skipIgnored v inner with
    | nil =>
      unfold readBoundary at h
      simp only [hmid] at h
      cases h
    | cons c mid =>
      rw [readBoundary_brace hmid] at h
      by_cases hc : (!isBoundaryChar c) = true
      -- a repetition, which is left in place
      · rw [if_pos hc] at h
        cases h
        have hhead (t : List Char) (ht : Trailer t) : ∃ y, skipIgnored v (inner ++ t) = c :: y := by
          rcases (skipIgnored_leaves v inner).behind with hb | ⟨-, hb⟩
          · exact ⟨mid ++ t, by rw [hb t _ ht (Nat.le_refl _), hmid]; rfl⟩
          · exact ⟨mid, by rw [hb t _ ht (Nat.le_refl _), hmid]; rfl⟩
        refine .stop fun t F ht => ?_
        obtain ⟨y, hy⟩ := hhead t ht
        rw [List.cons_append, readBoundary_brace hy, if_pos hc]
      · rw [if_neg hc] at h
        generalize hname : boundaryName v (c :: mid).length [] (c :: mid) = p at h
        obtain ⟨name, after⟩ := p
        have hrest := (boundaryName_leaves (Nat.le_refl _) hname).comp (h := fun F x => boundaryOf (boundaryName v F [] x))
          (boundaryOf_leaves h) fun x y F hF hlen _ _ hy => ⟨F, by omega, by rw [hy]⟩
        rw [← hmid] at hrest
        refine hrest.advance_fuel fun x F hF _ hx => ⟨(skipIgnored v x).length, Nat.le_refl _, ?_⟩
        obtain ⟨t, -, ht⟩ := hmid ▸ hx
        rw [← ht, readBoundary_brace ht.symm, if_neg hc]
        rfl
  · have hplain : readBoundary v cs = _ := readBoundary_plain fun x hx => hbrace ⟨x, hx⟩
    rw [hplain] at h
    cases h
    exact .stop fun t F ht => readBoundary_plain (ht.append_ne (by decide) fun x hx => hbrace ⟨x, hx⟩)

/-- The construct that a letter after a backslash stands for. -/
def letterEscape (v : Bool) (c : Char) (cs : List Char) : Except Fault (Escaped × List Char) :=
  match c with
  | 'd' => .ok (.shorthand .digit false, cs)
  | 'D' => .ok (.shorthand .digit true, cs)
  | 's' => .ok (.shorthand .space false, cs)
  | 'S' => .ok (.shorthand .space true, cs)
  | 'w' => .ok (.shorthand .word false, cs)
  | 'W' => .ok (.shorthand .word true, cs)
  | 'a' => .ok (.char ⟨'\x07', false⟩, cs)
  | 'f' => .ok (.char ⟨'\x0c', false⟩, cs)
  | 't' => .ok (.char ⟨'\t', false⟩, cs)
  | 'n' => .ok (.char ⟨'\n', false⟩, cs)
  | 'r' => .ok (.char ⟨'\r', false⟩, cs)
  | 'v' => .ok (.char ⟨'\x0b', false⟩, cs)
  | 'A' => .ok (.anchor .textStart, cs)
  | 'z' => .ok (.anchor .textEnd, cs)
  | 'b' => readBoundary v cs
  | 'B' => .ok (.anchor .noBoundary, cs)
  | '<' => .ok (.anchor .wordStart, cs)
  | '>' => .ok (.anchor .wordEnd, cs)
  | _ => .error .escapeUnknown

theorem readEscape_cons (v : Bool) (c : Char) (cs : List Char) :
    readEscape v (c :: cs) =
      if c.isDigit then .error .backReference
      else if c = 'x' || c = 'u' || c = 'U' then readHex v c cs
      else if c = 'p' || c = 'P' then readProperty v (c = 'P') cs
      else if isEscapable c then .ok (.char ⟨c, false⟩, cs)
      else letterEscape v c cs := rfl

theorem letterEscape_leaves {v : Bool} {c : Char} {e : Escaped} {cs rest : List Char}
    (h : letterEscape v c cs = .ok (e, rest)) : Leaves (fun _ => letterEscape v c) (fun r => .ok (e, r)) cs rest := by
  unfold letterEscape at h
  split at h
  case h_15 => exact readBoundary_leaves h
  case h_19 => cases h
  all_goals
    cases h
    exact .stop fun t F ht => rfl

theorem readEscape_leaves {v : Bool} {e : Escaped} {cs rest : List Char} (h : readEscape v cs = .ok (e, rest)) :
    Leaves (fun _ => readEscape v) (fun r => .ok (e, r)) cs rest := by
  cases cs with
  | nil => cases h
  | cons c cs =>
    rw [readEscape_cons] at h
    by_cases hdigit : c.isDigit = true
    · rw [if_pos hdigit] at h
      cases h
    rw [if_neg hdigit] at h
    by_cases hhex : (c = 'x' || c = 'u' || c = 'U') = true
    · rw [if_pos hhex] at h
      exact (readHex_leaves h).cons fun x F hF _ => ⟨F, hF, by rw [readEscape_cons, if_neg hdigit, if_pos hhex]⟩
    rw [if_neg hhex] at h
    by_cases hproperty : (c = 'p' || c = 'P') = true
    · rw [if_pos hproperty] at h
      exact (readProperty_leaves h).cons fun x F hF _ =>
        ⟨F, hF, by rw [readEscape_cons, if_neg hdigit, if_neg hhex, if_pos hproperty]⟩
    rw [if_neg hproperty] at h
    by_cases hescapable : isEscapable c = true
    · rw [if_pos hescapable] at h
      cases h
      exact .tail fun x F => by rw [readEscape_cons, if_neg hdigit, if_neg hhex, if_neg hproperty, if_pos hescapable]
    · rw [if_neg hescapable] at h
      exact (letterEscape_leaves h).cons fun x F hF _ =>
        ⟨F, hF, by rw [readEscape_cons, if_neg hdigit, if_neg hhex, if_neg hproperty, if_neg hescapable]⟩

end Transcripts.Pattern
