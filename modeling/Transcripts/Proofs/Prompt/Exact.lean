import Transcripts.Proofs.Pattern.Escaped
import Transcripts.Proofs.Prompt.Find
import Transcripts.Proofs.Prompt.Prepared

/-!
# Searches for prompts are exact

A prompt that is a text is found where the pattern of the text, escaped, is found (`find_escape`), and that is where its
bytes stand first.  So a search for texts finds the first place where any of them stands, and a search for patterns the
first of the places that the patterns find by themselves; of several prompts that are found there, the earliest.
-/
namespace Transcripts

open Transcripts.Pattern (Regex escape longestText)
open Transcripts.Text (Bytes OccursAt)

/-! ## Occurrences -/

namespace Text

variable {α : Type} [BEq α] [LawfulBEq α] {key xs : List α}

/-- What stands somewhere is found there or before. -/
theorem OccursAt.findSub_exists {i : Nat} (h : OccursAt key xs i) : ∃ s ≤ i, findSub key xs = some s := by
  rcases Nat.le_total i xs.length with hi | hi
  · exact h.findSub_le hi
  · have hkey : key = [] := by
      unfold OccursAt at h
      rwa [List.drop_of_length_le hi, List.prefix_nil] at h
    subst hkey
    exact ⟨0, Nat.zero_le i, by cases xs <;> rfl⟩

omit [BEq α] [LawfulBEq α] in
theorem infix_iff_occursAt : key <:+: xs ↔ ∃ i, OccursAt key xs i := by
  constructor
  · rintro ⟨before, after, rfl⟩
    refine ⟨before.length, ?_⟩
    rw [OccursAt, List.append_assoc, List.drop_left]
    exact List.prefix_append key after
  · rintro ⟨i, h⟩
    exact h.isInfix.trans (List.drop_suffix i xs).isInfix

end Text

/-! ## Escaped texts -/

/-- **A text is found** where its pattern is found. -/
theorem Prompt.find_escape {text : String} {r : Regex} (hr : Regex.output (escape text) = .ok r) (bs : Bytes) :
    r.find bs = (Prompt.literal text).find bs := by
  have hlength := Regex.output_escape_ok.1 ⟨r, hr⟩
  cases hfound : r.find bs with
  | none =>
    have hnowhere := (Regex.find_eq_none_iff hr).1 hfound
    have hnone : Text.findSub (Text.bytes text) bs = none := by
      cases hs : Text.findSub (Text.bytes text) bs with
      | none => rfl
      | some s =>
        obtain ⟨hle, hoccurs, -⟩ := Text.findSub_eq_some_iff.1 hs
        exact absurd ((Regex.matches_escape hlength).2 ⟨hle, hoccurs, rfl⟩) (hnowhere s _)
    rw [Prompt.find, hnone]
    rfl
  | some found =>
    obtain ⟨s, e⟩ := found
    obtain ⟨hmatch, hfirst⟩ := Regex.find_leftmost hr hfound
    obtain ⟨hle, hoccurs, rfl⟩ := (Regex.matches_escape hlength).1 hmatch
    have hsome : Text.findSub (Text.bytes text) bs = some s := by
      refine Text.findSub_eq_some_iff.2 ⟨hle, hoccurs, fun i hi ho => ?_⟩
      exact hfirst i hi _ ((Regex.matches_escape hlength).2 ⟨Nat.le_trans (Nat.le_of_lt hi) hle, ho, rfl⟩)
    rw [Prompt.find, hsome]
    rfl

namespace PromptMatcher

/-- Escaped texts are prompts that are found where the texts are. -/
theorem mapM_escape {terms : List String} (h : ∀ t ∈ terms, (Text.bytes t).length ≤ longestText) :
    ∃ prompts, (terms.map escape).mapM Prompt.ofPattern = .ok prompts ∧
      ∀ bs best index, findFrom bs best index prompts = findFrom bs best index (terms.map .literal) := by
  induction terms with
  | nil => exact ⟨[], rfl, fun _ _ _ => rfl⟩
  | cons t terms ih =>
    obtain ⟨r, hr⟩ := Regex.output_escape_ok.2 (h t List.mem_cons_self)
    obtain ⟨prompts, hprompts, hfind⟩ := ih fun u hu => h u (List.mem_cons_of_mem t hu)
    refine ⟨.regex (escape t) r :: prompts, ?_, fun bs best index => ?_⟩
    · rw [List.map_cons, List.mapM_cons, Prompt.ofPattern, hr, hprompts]
      rfl
    · rw [findFrom, List.map_cons, findFrom, hfind, ← Prompt.find_escape hr]
      rfl

/-- Escaped texts do not compile if one is too long. -/
theorem mapM_escape_long {terms : List String} (h : ∃ t ∈ terms, longestText < (Text.bytes t).length) :
    (terms.map escape).mapM Prompt.ofPattern = .error .tooLarge := by
  induction terms with
  | nil =>
    obtain ⟨t, ht, -⟩ := h
    cases ht
  | cons t terms ih =>
    rw [List.map_cons, List.mapM_cons, Prompt.ofPattern, Regex.output_escape]
    by_cases hfirst : (Text.bytes t).length ≤ longestText
    · rw [if_pos hfirst, ih ?_]
      · rfl
      obtain ⟨u, hu, hlong⟩ := h
      rcases List.mem_cons.1 hu with rfl | hu
      · exact absurd hlong (Nat.not_lt.2 hfirst)
      · exact ⟨u, hu, hlong⟩
    · rw [if_neg hfirst]
      rfl

/-- **Texts are searched for as escaped patterns are**, and are refused where these are. -/
theorem texts_find_eq (terms : List String) : (texts terms).map find = (regex (terms.map escape)).map find := by
  by_cases hshort : ∀ t ∈ terms, (Text.bytes t).length ≤ longestText
  · obtain ⟨prompts, hprompts, hfind⟩ := mapM_escape hshort
    have hsearch : (PromptMatcher.mk prompts).find = (literal terms).find := funext fun bs => hfind bs none 0
    rw [texts_eq_ok.2 ⟨hshort, rfl⟩, regex, hprompts]
    exact congrArg Except.ok hsearch.symm
  · have hlong : ∃ t ∈ terms, longestText < (Text.bytes t).length := by simpa using hshort
    rw [texts, if_neg (by simpa using hshort), regex, mapM_escape_long hlong]
    rfl

end PromptMatcher

/-! ## The earliest match -/

/-- Of what stands in some bytes, by number, start and end, the first to start, and of several of these the one with
the least number. -/
structure Earliest (stands : Nat → Nat → Nat → Prop) (f : Found) : Prop where
  here : stands f.index f.start f.stop
  first : ∀ index start stop, stands index start stop → f.start < start ∨ f.start = start ∧ f.index ≤ index

namespace PromptMatcher

variable {terms sources : List String} {bs : Bytes}

/-- A text of a list stands between two places of some bytes. -/
def TextAt (terms : List String) (bs : Bytes) (index start stop : Nat) : Prop :=
  ∃ t, terms[index]? = some t ∧ OccursAt (Text.bytes t) bs start ∧ stop = start + (Text.bytes t).length

/-- A pattern of a list finds by itself what lies between two places of some bytes. -/
def PatternAt (sources : List String) (bs : Bytes) (index start stop : Nat) : Prop :=
  ∃ source r, sources[index]? = some source ∧ Regex.output source = .ok r ∧ r.find bs = some (start, stop)

theorem find_eq_none_iff {m : PromptMatcher} : m.find bs = none ↔ ∀ j s e, ¬ m.MatchAt bs j s e := by
  have hb := find_best m bs
  constructor
  · intro h j s e hm
    rw [h] at hb
    exact hb j hm.index_lt s e hm
  · intro h
    cases hf : m.find bs with
    | none => rfl
    | some f =>
      rw [hf] at hb
      exact absurd hb.1 (h _ _ _)

theorem literal_find_none : (literal terms).find bs = none ↔ ∀ t ∈ terms, ¬ Text.bytes t <:+: bs := by
  rw [find_eq_none_iff]
  constructor
  · intro h t ht hin
    obtain ⟨j, hj⟩ := List.getElem?_of_mem ht
    obtain ⟨i, hi⟩ := Text.infix_iff_occursAt.1 hin
    obtain ⟨s, -, hs⟩ := hi.findSub_exists
    exact h j s _ (literal_matchAt.2 ⟨t, hj, hs, rfl⟩)
  · intro h j s e hm
    obtain ⟨t, ht, hs, -⟩ := literal_matchAt.1 hm
    exact h t (List.mem_of_getElem? ht) (Text.infix_iff_occursAt.2 ⟨s, (Text.findSub_eq_some_iff.1 hs).2.1⟩)

theorem literal_find_some {f : Found} : (literal terms).find bs = some f ↔ Earliest (TextAt terms bs) f := by
  rw [find_eq_some_iff]
  constructor
  · rintro ⟨hm, hall⟩
    obtain ⟨t, ht, hs, he⟩ := literal_matchAt.1 hm
    refine ⟨⟨t, ht, (Text.findSub_eq_some_iff.1 hs).2.1, he⟩, ?_⟩
    rintro j i e ⟨u, hu, ho, -⟩
    -- the first place where a text stands is before all others
    obtain ⟨s, hsi, hs⟩ := ho.findSub_exists
    have := hall j s _ (literal_matchAt.2 ⟨u, hu, hs, rfl⟩)
    omega
  · rintro ⟨⟨t, ht, ho, he⟩, hfirst⟩
    have hmatch {j s e : Nat} (h : (literal terms).MatchAt bs j s e) : TextAt terms bs j s e := by
      obtain ⟨u, hu, hs, he⟩ := literal_matchAt.1 h
      exact ⟨u, hu, (Text.findSub_eq_some_iff.1 hs).2.1, he⟩
    obtain ⟨s, hsi, hs⟩ := ho.findSub_exists
    have hstart : s = f.start := by
      have := hfirst f.index s _ (hmatch (literal_matchAt.2 ⟨t, ht, hs, rfl⟩))
      omega
    exact ⟨literal_matchAt.2 ⟨t, ht, hstart ▸ hs, he⟩, fun j i e h => hfirst j i e (hmatch h)⟩

/-- A compiled pattern is one of the prompts, with the same number. -/
theorem regex_matchAt {m : PromptMatcher} (hm : regex sources = .ok m) {j s e : Nat} :
    m.MatchAt bs j s e ↔ PatternAt sources bs j s e := by
  obtain ⟨hsources, hmem⟩ := regex_eq_ok hm
  have hprompt {p : Prompt} (hp : p ∈ m.prompts) :
      ∃ r, Regex.output p.source = .ok r ∧ p.find bs = r.find bs := by
    obtain ⟨source, -, hsource⟩ := hmem p hp
    obtain ⟨r, hr, rfl⟩ := Except.map_eq_ok hsource
    exact ⟨r, hr, rfl⟩
  have hnumber (j : Nat) : sources[j]? = m.prompts[j]?.map Prompt.source := by
    rw [← hsources, PromptMatcher.sources, List.getElem?_map]
  constructor
  · rintro ⟨p, hp, hfind⟩
    obtain ⟨r, hr, hsame⟩ := hprompt (List.mem_of_getElem? hp)
    exact ⟨p.source, r, by rw [hnumber, hp]; rfl, hr, hsame ▸ hfind⟩
  · rintro ⟨source, r, hj, hr, hfind⟩
    rw [hnumber] at hj
    obtain ⟨p, hp, rfl⟩ := Option.map_eq_some_iff.1 hj
    obtain ⟨r', hr', hsame⟩ := hprompt (List.mem_of_getElem? hp)
    cases hr.symm.trans hr'
    exact ⟨p, hp, hsame.trans hfind⟩

theorem regex_find_none {m : PromptMatcher} (hm : regex sources = .ok m) :
    m.find bs = none ↔ ∀ source ∈ sources, ∀ i j, ¬ Regex.Matches source bs i j := by
  have hcompiles := regex_ok_iff.1 ⟨m, hm⟩
  rw [find_eq_none_iff]
  simp only [regex_matchAt hm]
  constructor
  · intro h source hs
    obtain ⟨r, hr⟩ := hcompiles source hs
    obtain ⟨index, hindex⟩ := List.getElem?_of_mem hs
    rw [← Regex.find_eq_none_iff hr, Option.eq_none_iff_forall_ne_some]
    exact fun found hfound => h index found.1 found.2 ⟨source, r, hindex, hr, hfound⟩
  · rintro h index start stop ⟨source, r, hindex, hr, hfound⟩
    exact h source (List.mem_of_getElem? hindex) start stop (Regex.find_leftmost hr hfound).1

theorem regex_find_some {m : PromptMatcher} (hm : regex sources = .ok m) {f : Found} :
    m.find bs = some f ↔ Earliest (PatternAt sources bs) f := by
  rw [find_eq_some_iff]
  simp only [regex_matchAt hm]
  exact ⟨fun h => ⟨h.1, h.2⟩, fun h => ⟨h.1, h.2⟩⟩

/-- **Searches for prompts are exact.**  Texts make a matcher unless one of them is too long.  It finds what their
patterns, escaped, find: nothing just if none of the texts stands anywhere, and else the earliest place of any of them.
Patterns make a matcher if each of them compiles.  It finds nothing just if none of them matches, and else the earliest
of the matches that they find by themselves; each of these is a leftmost match of its pattern. -/
theorem find_exact (terms sources : List String) (bs : Bytes) :
    ((∃ m, texts terms = .ok m) ↔ ∀ t ∈ terms, (Text.bytes t).length ≤ longestText) ∧
    (texts terms).map find = (regex (terms.map escape)).map find ∧
    (∀ m, texts terms = .ok m →
      (m.find bs = none ↔ ∀ t ∈ terms, ¬ Text.bytes t <:+: bs) ∧
      ∀ f, m.find bs = some f ↔ Earliest (TextAt terms bs) f) ∧
    ((∃ m, regex sources = .ok m) ↔ ∀ source ∈ sources, ∃ r, Regex.output source = .ok r) ∧
    (∀ m, regex sources = .ok m →
      (m.find bs = none ↔ ∀ source ∈ sources, ∀ i j, ¬ Regex.Matches source bs i j) ∧
      ∀ f, m.find bs = some f ↔ Earliest (PatternAt sources bs) f) ∧
    ∀ index start stop, PatternAt sources bs index start stop → ∃ source, sources[index]? = some source ∧
      Regex.Matches source bs start stop ∧ ∀ i < start, ∀ j, ¬ Regex.Matches source bs i j := by
  refine ⟨⟨?_, fun h => ⟨_, texts_eq_ok.2 ⟨h, rfl⟩⟩⟩, texts_find_eq terms, ?_, regex_ok_iff, ?_, ?_⟩
  · rintro ⟨m, hm⟩
    exact (texts_eq_ok.1 hm).1
  · intro m hm
    obtain ⟨-, rfl⟩ := texts_eq_ok.1 hm
    exact ⟨literal_find_none, fun f => literal_find_some⟩
  · exact fun m hm => ⟨regex_find_none hm, fun f => regex_find_some hm⟩
  · rintro index start stop ⟨source, r, hindex, hr, hfound⟩
    exact ⟨source, hindex, Regex.find_leftmost hr hfound⟩

/-- Two texts that start at the same place, behind a dot that is no pattern here, and two patterns that do so. -/
theorem find_exact_ties :
    let terms := ["...", "\n>", "\n>>>"]
    let sources := ["=", ">>", ">+"]
    let bs := Text.bytes "a.b\n>>> ..."
    ((∃ m, texts terms = .ok m ∧ m.find bs = some ⟨1, 3, 5⟩) ∧ Earliest (TextAt terms bs) ⟨1, 3, 5⟩) ∧
      (∃ m, regex sources = .ok m ∧ m.find bs = some ⟨1, 4, 6⟩) ∧ Earliest (PatternAt sources bs) ⟨1, 4, 6⟩ := by
  intro terms sources bs
  obtain ⟨-, -, htexts, -, hpatterns, -⟩ := find_exact terms sources bs
  have hm : texts terms = .ok (literal terms) := texts_eq_ok.2 ⟨by decide, rfl⟩
  have hfound : (literal terms).find bs = some ⟨1, 3, 5⟩ := by decide
  obtain ⟨m, hregex⟩ : ∃ m, regex sources = .ok m := ⟨_, rfl⟩
  have hleftmost : (regex sources).toOption.bind (find · bs) = some ⟨1, 4, 6⟩ := by decide
  rw [hregex] at hleftmost
  exact ⟨⟨⟨_, hm, hfound⟩, ((htexts _ hm).2 _).1 hfound⟩, ⟨m, hregex, hleftmost⟩,
    ((hpatterns m hregex).2 _).1 hleftmost⟩

/-- A text whose pattern is too large. -/
theorem texts_too_long : texts [String.ofList (List.replicate 450000 '=')] = .error .tooLarge := by
  have hencoded (n : Nat) : (Text.encode (List.replicate n '=')).length = n := by
    induction n with
    | zero => rfl
    | succ n ih => rw [List.replicate_succ, Text.encode_cons, List.length_append, ih, Nat.add_comm]; rfl
  rw [texts, if_neg]
  simp only [List.all_cons, Text.bytes, String.toList_ofList, hencoded]
  decide

end PromptMatcher

end Transcripts
