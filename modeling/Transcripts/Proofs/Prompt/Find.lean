import Mathlib.Data.List.Infix
import Transcripts.Prompt
import Transcripts.Proofs.Pattern.Span

/-!
# What a search for prompts finds

`PromptMatcher.find` is the match that starts first and, of those, the one of the earliest prompt
(`find_eq_some_iff`).  For literal prompts none of which stands inside another without its last byte, a
match found in some bytes stays the match when more bytes follow (`find_append`): whatever starts no later
and is not yet there would have to contain it.
-/
namespace Transcripts.Text

variable {α : Type} [BEq α] [LawfulBEq α]

/-- A list stands in another at a place. -/
def OccursAt (key xs : List α) (i : Nat) : Prop := key <+: xs.drop i

theorem occursAt_zero {key xs : List α} : OccursAt key xs 0 ↔ key.isPrefixOf xs = true :=
  List.isPrefixOf_iff_prefix.symm

/-- The first place where a list stands in another. -/
theorem findSub_eq_some_iff {key xs : List α} {i : Nat} :
    findSub key xs = some i ↔ i ≤ xs.length ∧ OccursAt key xs i ∧ ∀ j < i, ¬ OccursAt key xs j := by
  induction xs generalizing i with
  | nil =>
    simp only [findSub, OccursAt, List.drop_nil, List.length_nil, List.prefix_nil]
    split
    · rename_i h
      have hk : key = [] := List.isEmpty_iff.1 h
      simp only [Option.some.injEq, hk, not_true_eq_false, imp_false, Nat.not_lt, true_and]
      exact ⟨fun hi => ⟨by omega, fun j => by omega⟩, fun hi => by omega⟩
    · rename_i h
      have hk : key ≠ [] := fun hk => h (List.isEmpty_iff.2 hk)
      simp [hk]
  | cons x xs ih =>
    unfold findSub
    split
    · rename_i h
      have h0 : OccursAt key (x :: xs) 0 := occursAt_zero.2 h
      constructor
      · intro hi; cases hi; exact ⟨by omega, h0, fun j hj => by omega⟩
      · rintro ⟨-, -, hi⟩
        cases i with
        | zero => rfl
        | succ i => exact absurd h0 (hi 0 (by omega))
    · rename_i h
      have h0 : ¬ OccursAt key (x :: xs) 0 := mt occursAt_zero.1 h
      rw [Option.map_eq_some_iff]
      constructor
      · rintro ⟨j, hj, rfl⟩
        obtain ⟨hl, ho, hf⟩ := ih.1 hj
        refine ⟨by simpa using hl, ho, fun k hk => ?_⟩
        cases k with
        | zero => exact h0
        | succ k => exact hf k (by omega)
      · rintro ⟨hl, ho, hf⟩
        cases i with
        | zero => exact absurd ho h0
        | succ i =>
          exact ⟨i, ih.2 ⟨by simpa using hl, ho, fun k hk => hf (k + 1) (by omega)⟩, rfl⟩

/-- A list that stands somewhere is found there or before. -/
theorem OccursAt.findSub_le {key xs : List α} {i : Nat} (h : OccursAt key xs i) (hi : i ≤ xs.length) :
    ∃ s ≤ i, findSub key xs = some s := by
  induction xs generalizing i with
  | nil =>
    have hk : key = [] := by simpa [OccursAt] using h
    exact ⟨0, by omega, by simp [findSub, hk]⟩
  | cons x xs ih =>
    unfold findSub
    split
    · exact ⟨0, by omega, rfl⟩
    · rename_i h0
      cases i with
      | zero => exact absurd (occursAt_zero.1 h) h0
      | succ i =>
        obtain ⟨s, hs, hf⟩ := ih (i := i) h (by simpa using hi)
        exact ⟨s + 1, by omega, by rw [hf]; rfl⟩

/-! ## Occurrences and bytes that follow -/

omit [BEq α] [LawfulBEq α] in
theorem OccursAt.append {key xs : List α} {i : Nat} (h : OccursAt key xs i) (hi : i ≤ xs.length)
    (more : List α) : OccursAt key (xs ++ more) i := by
  unfold OccursAt
  rw [List.drop_append_of_le_length hi]
  exact h.trans (List.prefix_append _ _)

omit [BEq α] [LawfulBEq α] in
theorem OccursAt.length_le {key xs : List α} {i : Nat} (h : OccursAt key xs i) :
    key.length ≤ xs.length - i := by
  have := List.IsPrefix.length_le h
  rwa [List.length_drop] at this

omit [BEq α] [LawfulBEq α] in
/-- What stands in a list and ends before the part that follows stands in the first part. -/
theorem OccursAt.of_append {key xs more : List α} {i : Nat} (h : OccursAt key (xs ++ more) i)
    (hi : i + key.length ≤ xs.length) : OccursAt key xs i := by
  unfold OccursAt at h ⊢
  rw [List.drop_append_of_le_length (by omega)] at h
  exact List.prefix_of_prefix_length_le h (List.prefix_append _ _) (by rw [List.length_drop]; omega)

omit [BEq α] [LawfulBEq α] in
/-- Of two lists that overlap, one that starts no later and ends later contains the other even without
its last element. -/
theorem OccursAt.infix_dropLast {a b xs : List α} {i j : Nat} (ha : OccursAt a xs i)
    (hb : OccursAt b xs j) (hji : j ≤ i) (hlt : i + a.length < j + b.length) : a <:+: b.dropLast := by
  have hd : xs.drop i = (xs.drop j).drop (i - j) := by rw [List.drop_drop]; congr 1; omega
  unfold OccursAt at ha
  rw [hd] at ha
  obtain ⟨t, ht⟩ := hb
  rw [← ht, List.drop_append_of_le_length (by omega)] at ha
  have hpre : a <+: (b.dropLast).drop (i - j) := by
    refine List.prefix_of_prefix_length_le ha ?_ (by simp; omega)
    refine List.IsPrefix.trans ?_ (List.prefix_append _ t)
    exact (List.dropLast_prefix b).drop (i - j)
  exact hpre.isInfix.trans (List.drop_suffix _ _).isInfix

end Transcripts.Text

namespace Transcripts.PromptMatcher

open Transcripts.Text (Bytes OccursAt findSub_eq_some_iff)

/-! ## The match that is taken -/

/-- A match of the prompt of some number, at some place. -/
def MatchAt (m : PromptMatcher) (bs : Bytes) (index start stop : Nat) : Prop :=
  ∃ p, m.prompts[index]? = some p ∧ p.find bs = some (start, stop)

/-- The best match of the first `n` prompts, or none if none of them matches. -/
def IsBest (m : PromptMatcher) (bs : Bytes) (n : Nat) : Option Found → Prop
  | none => ∀ j < n, ∀ s e, ¬ m.MatchAt bs j s e
  | some f => m.MatchAt bs f.index f.start f.stop ∧ f.index < n ∧
      ∀ j < n, ∀ s e, m.MatchAt bs j s e → f.start < s ∨ f.start = s ∧ f.index ≤ j

theorem matchAt_iff {m : PromptMatcher} {bs : Bytes} {j s e : Nat} {p : Prompt} (hp : m.prompts[j]? = some p) :
    m.MatchAt bs j s e ↔ p.find bs = some (s, e) := by
  simp [MatchAt, hp]

/-- One more prompt. -/
theorem better_best {m : PromptMatcher} {bs : Bytes} {n : Nat} {best : Option Found} {p : Prompt}
    (hp : m.prompts[n]? = some p) (h : m.IsBest bs n best) :
    m.IsBest bs (n + 1) (better best n (p.find bs)) := by
  cases hf : p.find bs with
  | none =>
    have hn : ∀ s e, ¬ m.MatchAt bs n s e := by simp [matchAt_iff hp, hf]
    cases best with
    | none => exact Nat.forall_lt_succ_right.2 ⟨h, hn⟩
    | some f =>
      obtain ⟨hm, hlt, hall⟩ := h
      exact ⟨hm, Nat.lt_succ_of_lt hlt, Nat.forall_lt_succ_right.2 ⟨hall, fun s e hm' => absurd hm' (hn s e)⟩⟩
  | some r =>
    obtain ⟨start, stop⟩ := r
    have hnew : m.MatchAt bs n start stop := (matchAt_iff hp).2 hf
    have hsame : ∀ s e, m.MatchAt bs n s e → start = s := by
      intro s e hm
      cases hf.symm.trans ((matchAt_iff hp).1 hm)
      rfl
    cases best with
    | none =>
      refine ⟨hnew, Nat.lt_succ_self n, Nat.forall_lt_succ_right.2 ⟨fun j hj s e hm => ?_, fun s e hm => ?_⟩⟩
      · exact absurd hm (h j hj s e)
      · exact .inr ⟨hsame s e hm, Nat.le_refl n⟩
    | some f =>
      obtain ⟨hm, hlt, hall⟩ := h
      simp only [better]
      split
      · rename_i hbefore
        refine ⟨hnew, Nat.lt_succ_self n, Nat.forall_lt_succ_right.2 ⟨fun j hj s e hm' => ?_, fun s e hm' => ?_⟩⟩
        · have hle : f.start ≤ s := (hall j hj s e hm').elim Nat.le_of_lt fun h => Nat.le_of_eq h.1
          exact .inl (Nat.lt_of_lt_of_le hbefore hle)
        · exact .inr ⟨hsame s e hm', Nat.le_refl n⟩
      · refine ⟨hm, Nat.lt_succ_of_lt hlt, Nat.forall_lt_succ_right.2 ⟨hall, fun s e hm' => ?_⟩⟩
        have := hsame s e hm'
        omega

theorem findFrom_best {m : PromptMatcher} {bs : Bytes} :
    ∀ (rest : List Prompt) (n : Nat) (best : Option Found), m.prompts.drop n = rest → m.IsBest bs n best →
      m.IsBest bs (n + rest.length) (findFrom bs best n rest) := by
  intro rest
  induction rest with
  | nil => intro n best _ h; exact h
  | cons p rest ih =>
    intro n best hd h
    have hp : m.prompts[n]? = some p := by
      rw [← List.head?_drop, hd]; rfl
    have := ih (n + 1) (better best n (p.find bs)) (by rw [← List.drop_drop, hd]; rfl) (better_best hp h)
    rwa [Nat.add_right_comm, Nat.add_assoc] at this

theorem find_best (m : PromptMatcher) (bs : Bytes) : m.IsBest bs m.prompts.length (m.find bs) := by
  have hnone : m.IsBest bs 0 none := fun j hj => by omega
  have hall := findFrom_best m.prompts 0 none rfl hnone
  rwa [Nat.zero_add] at hall

theorem MatchAt.index_lt {m : PromptMatcher} {bs : Bytes} {j s e : Nat} (h : m.MatchAt bs j s e) :
    j < m.prompts.length := by
  obtain ⟨p, hp, -⟩ := h
  exact (List.getElem?_eq_some_iff.1 hp).1

/-- **The match that is taken** starts first and, of those that start there, belongs to the earliest
prompt. -/
theorem find_eq_some_iff {m : PromptMatcher} {bs : Bytes} {f : Found} :
    m.find bs = some f ↔ m.MatchAt bs f.index f.start f.stop ∧
      ∀ j s e, m.MatchAt bs j s e → f.start < s ∨ f.start = s ∧ f.index ≤ j := by
  have hb := find_best m bs
  constructor
  · intro h
    rw [h] at hb
    exact ⟨hb.1, fun j s e hm => hb.2.2 j hm.index_lt s e hm⟩
  · rintro ⟨hm, hall⟩
    cases hg : m.find bs with
    | none => rw [hg] at hb; exact absurd hm (hb _ hm.index_lt _ _)
    | some g =>
      rw [hg] at hb
      have h1 := hall _ _ _ hb.1
      have h2 := hb.2.2 _ hm.index_lt _ _ hm
      have hi : g.index = f.index := by omega
      have hs : g.start = f.start := by omega
      obtain ⟨p, hp, hf⟩ := hm
      have he := (matchAt_iff (hi ▸ hp)).1 hb.1
      rw [hf] at he
      cases f; cases g; simp_all

/-- A match lies in the bytes that are searched. -/
theorem find_mem {m : PromptMatcher} {bs : Bytes} {f : Found} (h : m.find bs = some f) :
    f.start ≤ f.stop ∧ f.stop ≤ bs.length := by
  obtain ⟨⟨p, -, hf⟩, -⟩ := find_eq_some_iff.1 h
  cases p with
  | regex _ r => exact Pattern.Regex.find_mem hf
  | literal t =>
    simp only [Prompt.find, Option.map_eq_some_iff, Prod.mk.injEq] at hf
    obtain ⟨i, hi, rfl, hstop⟩ := hf
    obtain ⟨hl, ho, -⟩ := findSub_eq_some_iff.1 hi
    have := ho.length_le
    omega

/-! ## Literal prompts -/

/-- No term stands inside another one without its last byte. -/
def Separated (terms : List String) : Prop :=
  ∀ a ∈ terms, ∀ b ∈ terms, a ≠ b → ¬ Text.bytes a <:+: (Text.bytes b).dropLast

instance (terms : List String) : Decidable (Separated terms) :=
  inferInstanceAs (Decidable (∀ a ∈ terms, ∀ b ∈ terms, a ≠ b → ¬ Text.bytes a <:+: (Text.bytes b).dropLast))

theorem literal_matchAt {terms : List String} {bs : Bytes} {j s e : Nat} :
    (literal terms).MatchAt bs j s e ↔
      ∃ t, terms[j]? = some t ∧ Text.findSub (Text.bytes t) bs = some s ∧ e = s + (Text.bytes t).length := by
  simp only [MatchAt, literal, List.getElem?_map, Option.map_eq_some_iff]
  constructor
  · rintro ⟨_, ⟨t, ht, rfl⟩, hf⟩
    simp only [Prompt.find, Option.map_eq_some_iff, Prod.mk.injEq] at hf
    obtain ⟨i, hi, rfl, rfl⟩ := hf
    exact ⟨t, ht, hi, rfl⟩
  · rintro ⟨t, ht, hs, rfl⟩
    exact ⟨_, ⟨t, ht, rfl⟩, by simp [Prompt.find, hs]⟩

/-- Of two separated terms, the one that starts no later ends no later. -/
theorem Separated.end_le {terms : List String} (hsep : Separated terms) {a b : String} (ha : a ∈ terms)
    (hb : b ∈ terms) {xs : Bytes} {i j : Nat} (hA : OccursAt (Text.bytes a) xs i)
    (hB : OccursAt (Text.bytes b) xs j) (hji : j ≤ i) :
    j + (Text.bytes b).length ≤ i + (Text.bytes a).length := by
  by_contra hlt
  by_cases hab : a = b
  · subst hab; omega
  · exact hsep a ha b hb hab (hA.infix_dropLast hB hji (by omega))

/-- **A match stays the match.**  What starts no later than it ends no later, so it was there before the
bytes that follow. -/
theorem find_append {terms : List String} (hsep : Separated terms) {bs : Bytes} {f : Found}
    (h : (literal terms).find bs = some f) (more : Bytes) : (literal terms).find (bs ++ more) = some f := by
  obtain ⟨hm, hall⟩ := find_eq_some_iff.1 h
  obtain ⟨a, ha, hfa, hstop⟩ := literal_matchAt.1 hm
  obtain ⟨hla, hoa, hfirst⟩ := findSub_eq_some_iff.1 hfa
  have hoa' := hoa.append hla more
  -- an occurrence that starts no later was there before, so the search of `bs` has seen it
  have hold : ∀ (j : Nat) (b : String), terms[j]? = some b → ∀ i ≤ f.start,
      OccursAt (Text.bytes b) (bs ++ more) i → f.start = i ∧ f.index ≤ j := by
    intro j b hb i hi ho
    have hend := hsep.end_le (List.mem_of_getElem? ha) (List.mem_of_getElem? hb) hoa' ho hi
    have hin : OccursAt (Text.bytes b) bs i := ho.of_append (by have := (find_mem h).2; omega)
    obtain ⟨s, hs, hfs⟩ := hin.findSub_le (by have := (find_mem h).2; omega)
    have := hall j s _ (literal_matchAt.2 ⟨b, hb, hfs, rfl⟩)
    omega
  refine find_eq_some_iff.2 ⟨literal_matchAt.2 ⟨a, ha, findSub_eq_some_iff.2 ⟨?_, hoa', ?_⟩, hstop⟩, ?_⟩
  · rw [List.length_append]; omega
  · intro i hi ho
    have := (hold _ a ha i (by omega) ho).1
    omega
  · intro j s e hj
    obtain ⟨b, hb, hfb, -⟩ := literal_matchAt.1 hj
    obtain ⟨-, hob, -⟩ := findSub_eq_some_iff.1 hfb
    rcases Nat.lt_or_ge f.start s with hlt | hge
    · exact Or.inl hlt
    · exact Or.inr (hold j b hb s hge hob)

/-- The match of separated terms is where the first of them stands, and as long as it. -/
theorem find_first {terms : List String} (hsep : Separated terms) {t : String} (ht : t ∈ terms) {xs : Bytes}
    {i : Nat} (hi : i ≤ xs.length) (ho : OccursAt (Text.bytes t) xs i)
    (hfirst : ∀ b ∈ terms, ∀ j < i, ¬ OccursAt (Text.bytes b) xs j) :
    ∃ index, (literal terms).find xs = some ⟨index, i, i + (Text.bytes t).length⟩ := by
  obtain ⟨n, hn⟩ := List.getElem?_of_mem ht
  have hmatch : (literal terms).MatchAt xs n i (i + (Text.bytes t).length) :=
    literal_matchAt.2 ⟨t, hn, findSub_eq_some_iff.2 ⟨hi, ho, hfirst t ht⟩, rfl⟩
  have hb := find_best (literal terms) xs
  cases hf : (literal terms).find xs with
  | none => rw [hf] at hb; exact absurd hmatch (hb _ hmatch.index_lt _ _)
  | some f =>
    obtain ⟨hm, hall⟩ := find_eq_some_iff.1 hf
    obtain ⟨b, hbn, hfb, hstop⟩ := literal_matchAt.1 hm
    obtain ⟨-, hob, -⟩ := findSub_eq_some_iff.1 hfb
    have hbt := List.mem_of_getElem? hbn
    have hle := hall _ _ _ hmatch
    have hge : ¬ f.start < i := fun hlt => hfirst b hbt _ hlt hob
    have hstart : f.start = i := by omega
    rw [hstart] at hob hstop
    have h1 := hsep.end_le ht hbt ho hob (Nat.le_refl i)
    have h2 := hsep.end_le hbt ht hob ho (Nat.le_refl i)
    refine ⟨f.index, congrArg some ?_⟩
    cases f
    simp_all only [Found.mk.injEq, true_and]
    omega

end Transcripts.PromptMatcher
