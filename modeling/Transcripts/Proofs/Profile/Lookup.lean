import Transcripts.Config
import Transcripts.Proofs.Pattern.Reading

/-!
# Looking up a profile

The configured profiles stand in the order of their keys, and each key is there once.  A name gets the profile
with the least key among those that answer to it, and a builtin one only if none of them does
(`profile_of_first`, `profile_of_none`).  A profile answers to the name it gives itself, and to its key only if
it gives none; so what is found under a key need not be what was configured there.
-/
namespace Transcripts

namespace Config

/-! ## The order of the keys -/

/-- Entries in the order of their keys, each key once. -/
def Ordered (entries : List (String × Profile)) : Prop := entries.Pairwise fun a b => a.1 < b.1

theorem mem_insertByKey {key : String} {p : Profile} {entries : List (String × Profile)} {e : String × Profile}
    (h : e ∈ insertByKey key p entries) : e = (key, p) ∨ e ∈ entries := by
  induction entries with
  | nil => exact .inl (List.mem_singleton.1 h)
  | cons head rest ih =>
    unfold insertByKey at h
    split at h
    · exact List.mem_cons.1 h
    split at h
    · exact (List.mem_cons.1 h).imp_right (List.mem_cons_of_mem _)
    · rcases List.mem_cons.1 h with rfl | h
      · exact .inr List.mem_cons_self
      · exact (ih h).imp_right (List.mem_cons_of_mem _)

theorem insertByKey_ordered (key : String) (p : Profile) {entries : List (String × Profile)} (h : Ordered entries) :
    Ordered (insertByKey key p entries) := by
  induction entries with
  | nil => exact List.pairwise_singleton _ _
  | cons head rest ih =>
    obtain ⟨hhead, hrest⟩ := List.pairwise_cons.1 h
    unfold insertByKey
    by_cases hlt : key < head.1
    · rw [if_pos hlt]
      refine List.pairwise_cons.2 ⟨fun e he => ?_, h⟩
      rcases List.mem_cons.1 he with rfl | he
      · exact hlt
      · exact String.lt_trans hlt (hhead e he)
    rw [if_neg hlt]
    by_cases heq : head.1 = key
    · rw [if_pos heq.symm]
      exact List.pairwise_cons.2 ⟨fun e he => heq ▸ hhead e he, hrest⟩
    · rw [if_neg (Ne.symm heq)]
      refine List.pairwise_cons.2 ⟨fun e he => ?_, ih hrest⟩
      rcases mem_insertByKey he with rfl | he
      · exact Classical.byContradiction fun hle =>
          heq (String.le_antisymm (String.not_lt.1 hlt) (String.not_lt.1 hle))
      · exact hhead e he

theorem profilesOf_ordered {d : Datum} {entries : List (String × Profile)} (h : profilesOf d = .ok entries) :
    Ordered entries := by
  unfold profilesOf at h
  split at h
  · refine Except.foldlM_eq_ok (P := Ordered) (fun es x es' hes hx => ?_) .nil h
    obtain ⟨p, -, hp⟩ := Except.bind_eq_ok hx
    cases hp
    exact insertByKey_ordered x.1 p hes
  · cases h

theorem assign_ordered {c c' : Config} {name : String} {d : Datum} (hc : Ordered c.profiles)
    (h : c.assign name d = .ok c') : Ordered c'.profiles := by
  unfold assign at h
  split at h
  · obtain ⟨workdir, -, h⟩ := Except.bind_eq_ok h
    cases h
    exact hc
  · obtain ⟨entries, hentries, h⟩ := Except.bind_eq_ok h
    cases h
    exact profilesOf_ordered hentries
  · cases h

theorem ofDatum_ordered {d : Datum} {c : Config} (h : ofDatum d = .ok c) : Ordered c.profiles := by
  unfold ofDatum at h
  split at h
  · have hempty : Ordered ({} : Config).profiles := List.Pairwise.nil
    exact Except.foldlM_eq_ok (P := fun c => Ordered c.profiles) (fun c x c' hc hx => assign_ordered hc hx) hempty h
  · cases h

/-- A configuration in which every profile has its name. -/
def called (c : Config) : Config := { c with profiles := c.profiles.map fun e => (e.1, withName e.1 e.2) }

/-- What is checked is the configuration with all names, and each of its profiles has to be valid. -/
theorem checked_eq_ok_iff {c c' : Config} :
    c.checked = .ok c' ↔ c' = c.called ∧ ∀ e ∈ c.called.profiles, e.2.validate = .ok () := by
  constructor
  · intro h
    obtain ⟨u, hvalid, h⟩ := Except.bind_eq_ok h
    cases h
    exact ⟨rfl, Except.forM_eq_ok hvalid⟩
  · rintro ⟨rfl, hvalid⟩
    exact Except.bind_of_eq_ok (Except.forM_of_forall hvalid)

theorem parse_eq_ok_iff {text : String} {c : Config} :
    parse text = .ok c ↔ ∃ d written, Toml.parse text = some d ∧ ofDatum d = .ok written ∧ written.checked = .ok c := by
  constructor
  · intro h
    unfold parse at h
    cases hd : Toml.parse text with
    | none => rw [hd] at h; cases h
    | some d =>
      rw [hd] at h
      cases hw : ofDatum d with
      | error f => simp only [hw] at h; cases h
      | ok written =>
        simp only [hw] at h
        exact ⟨d, written, rfl, hw, Except.mapError_eq_ok h⟩
  · rintro ⟨d, written, hd, hw, hc⟩
    simp only [parse, hd, hw, hc]
    rfl

/-- What a text configures: profiles in the order of their keys, each of them as it is written but for its name,
which is its key if it is given none. -/
theorem parse_eq_ok {text : String} {c : Config} (h : parse text = .ok c) :
    Ordered c.profiles ∧ ∃ d written, Toml.parse text = some d ∧ ofDatum d = .ok written ∧
      c.profiles = written.profiles.map fun e => (e.1, withName e.1 e.2) := by
  obtain ⟨d, written, hd, hw, hc⟩ := parse_eq_ok_iff.1 h
  obtain ⟨rfl, -⟩ := checked_eq_ok_iff.1 hc
  exact ⟨(ofDatum_ordered hw).map _ fun a b hlt => hlt, d, written, hd, hw, rfl⟩

theorem withName_answersTo (key : String) (p : Profile) :
    (withName key p).answersTo key = true ↔ p.name = "" ∨ p.name = key ∨ key ∈ p.aliases := by
  unfold withName Profile.answersTo
  by_cases hname : p.name = "" <;> simp [hname]

/-! ## The first to answer -/

/-- The configured profile with the least key among those that answer to a name. -/
structure FirstToAnswer (c : Config) (name key : String) (p : Profile) : Prop where
  mem : (key, p) ∈ c.profiles
  answers : p.answersTo name = true
  least : ∀ e ∈ c.profiles, e.1 < key → e.2.answersTo name = false

variable {c : Config} {name key : String} {p : Profile}

theorem find?_eq_some_iff (hc : Ordered c.profiles) :
    c.profiles.find? (·.2.answersTo name) = some (key, p) ↔ c.FirstToAnswer name key p := by
  rw [List.find?_eq_some_iff_append]
  constructor
  · rintro ⟨hp, before, after, hsplit, hbefore⟩
    refine ⟨by rw [hsplit]; simp, hp, fun e he hlt => ?_⟩
    rw [hsplit] at he hc
    obtain ⟨-, hafter, -⟩ := List.pairwise_append.1 hc
    rcases List.mem_append.1 he with he | he
    · simpa using hbefore e he
    rcases List.mem_cons.1 he with rfl | he
    · exact absurd hlt (String.lt_irrefl _)
    · exact absurd hlt (String.lt_asymm ((List.pairwise_cons.1 hafter).1 e he))
  · rintro ⟨hmem, hp, hleast⟩
    obtain ⟨before, after, hsplit⟩ := List.append_of_mem hmem
    refine ⟨hp, before, after, hsplit, fun e he => ?_⟩
    rw [hsplit] at hc
    have hlt : e.1 < key := (List.pairwise_append.1 hc).2.2 e he _ List.mem_cons_self
    simpa using hleast e (by rw [hsplit]; exact List.mem_append_left _ he) hlt

/-- The builtin profiles whose names no configured profile has. -/
def builtinsLeft (c : Config) : List Profile :=
  Profile.builtins.filter fun b => !(c.profiles.map (·.2)).any (·.name == b.name)

theorem profile_eq (c : Config) (name : String) :
    c.profile name = match c.profiles.find? (·.2.answersTo name) with
      | some e => .ok e.2
      | none => Profile.named c.builtinsLeft name := by
  have hall : c.allProfiles = c.profiles.map (·.2) ++ c.builtinsLeft := rfl
  unfold profile Profile.named
  rw [hall, List.find?_append, List.find?_map]
  have hcomp : (fun p : Profile => p.answersTo name) ∘ (fun e : String × Profile => e.2) =
      fun e => e.2.answersTo name := rfl
  rw [hcomp]
  cases c.profiles.find? (·.2.answersTo name) <;> rfl

theorem profile_of_first (hc : Ordered c.profiles) (h : c.FirstToAnswer name key p) : c.profile name = .ok p := by
  rw [profile_eq, (find?_eq_some_iff hc).2 h]

theorem profile_of_none (h : ∀ e ∈ c.profiles, e.2.answersTo name = false) :
    c.profile name = Profile.named c.builtinsLeft name := by
  have hnone : c.profiles.find? (·.2.answersTo name) = none := List.find?_eq_none.2 fun e he => by simp [h e he]
  rw [profile_eq, hnone]

/-- Where some configured profile answers, there is a first one. -/
theorem exists_first (hc : Ordered c.profiles) {e : String × Profile} (he : e ∈ c.profiles)
    (h : e.2.answersTo name = true) : ∃ key p, c.FirstToAnswer name key p := by
  cases hf : c.profiles.find? (·.2.answersTo name) with
  | none => exact absurd h (List.find?_eq_none.1 hf e he)
  | some first => exact ⟨first.1, first.2, (find?_eq_some_iff hc).1 hf⟩

theorem named_answersTo {ps : List Profile} (h : Profile.named ps name = .ok p) : p.answersTo name = true := by
  unfold Profile.named at h
  split at h
  · rename_i q hq
    cases h
    exact List.find?_some (p := fun p : Profile => p.answersTo name) hq
  · cases h

/-! ## Profiles by their keys -/

/-- **What is found under a key.**  For every accepted configuration and every key of its table of profiles:

* the profile of that key is found under it exactly if it is the first that answers to it, in the order of keys;
  so it is if it answers to its key and none with a smaller key does;
* the first that answers is found in any case, and if there is none a builtin one is, or nothing;
* a profile answers to its key if the table gives it no other name, or gives its key as an alias. -/
theorem profile_of_key {text : String} (h : parse text = .ok c) (hp : (key, p) ∈ c.profiles) :
    (c.profile key = .ok p ↔ ∃ least, c.FirstToAnswer key least p) ∧
    (p.answersTo key = true → (∀ e ∈ c.profiles, e.1 < key → e.2.answersTo key = false) → c.profile key = .ok p) ∧
    (∀ least q, c.FirstToAnswer key least q → c.profile key = .ok q) ∧
    ((∀ e ∈ c.profiles, e.2.answersTo key = false) → c.profile key = Profile.named c.builtinsLeft key) ∧
    (∃ d written q, Toml.parse text = some d ∧ ofDatum d = .ok written ∧ (key, q) ∈ written.profiles ∧
      p = withName key q ∧ (p.answersTo key = true ↔ q.name = "" ∨ q.name = key ∨ key ∈ q.aliases)) := by
  obtain ⟨hc, d, written, hd, hw, hmap⟩ := parse_eq_ok h
  refine ⟨⟨fun hfound => ?_, fun ⟨least, hfirst⟩ => profile_of_first hc hfirst⟩,
    fun hanswers hleast => profile_of_first hc ⟨hp, hanswers, hleast⟩,
    fun least q hfirst => profile_of_first hc hfirst, profile_of_none, ?_⟩
  · by_cases hany : ∃ e ∈ c.profiles, e.2.answersTo key = true
    · obtain ⟨e, he, hanswers⟩ := hany
      obtain ⟨least, q, hfirst⟩ := exists_first hc he hanswers
      rw [profile_of_first hc hfirst] at hfound
      cases hfound
      exact ⟨least, hfirst⟩
    · -- a builtin profile that is found answers, and so would the configured one that it equals
      have hnone : ∀ e ∈ c.profiles, e.2.answersTo key = false := by simpa using hany
      rw [profile_of_none hnone] at hfound
      have hanswers := named_answersTo hfound
      rw [hnone _ hp] at hanswers
      cases hanswers
  · rw [hmap] at hp
    obtain ⟨e, he, heq⟩ := List.mem_map.1 hp
    cases heq
    exact ⟨d, written, e.2, hd, hw, he, rfl, withName_answersTo _ _⟩

theorem exists_of_profiles {text : String} {entries : List (String × Profile)}
    (h : (parse text).toOption.map (·.profiles) = some entries) : ∃ c, parse text = .ok c ∧ c.profiles = entries := by
  cases hc : parse text with
  | error f => rw [hc] at h; cases h
  | ok c => rw [hc] at h; exact ⟨c, rfl, Option.some.inj h⟩

/-- Two tables, the second of which is called by its key. -/
theorem profile_of_key_lua :
    ∃ c, parse "[profiles.a]\nname = \"b\"\ncommand = \"x\"\n[profiles.lua]\ncommand = \"lua -i\"\n" = .ok c ∧
      ("lua", { name := "lua", command := "lua -i" }) ∈ c.profiles ∧
      c.profile "lua" = .ok { name := "lua", command := "lua -i" } := by
  have hprofiles : (parse "[profiles.a]\nname = \"b\"\ncommand = \"x\"\n[profiles.lua]\ncommand = \"lua -i\"\n").toOption.map
      (·.profiles) =
        some [("a", { name := "b", command := "x" }), ("lua", { name := "lua", command := "lua -i" })] := by
    decide +kernel
  obtain ⟨c, hparse, hc⟩ := exists_of_profiles hprofiles
  have hmem : ("lua", { name := "lua", command := "lua -i" }) ∈ c.profiles := by simp [hc]
  refine ⟨c, hparse, hmem, (profile_of_key hparse hmem).2.1 (by decide) fun e he hlt => ?_⟩
  simp only [hc, List.mem_cons, List.not_mem_nil, or_false] at he
  rcases he with rfl | rfl
  · decide
  · exact absurd hlt (String.lt_irrefl _)

/-- A key that another table has for an alias, and the key of a builtin profile for a table with a name of its
own: what is found is the other table's profile and the builtin one. -/
theorem key_taken_by_others :
    ∃ c, parse ("[profiles.a]\ncommand = \"x\"\naliases = [\"b\"]\n[profiles.b]\ncommand = \"y\"\n" ++
        "[profiles.python]\nname = \"py\"\ncommand = \"z\"\n") = .ok c ∧
      ("b", { name := "b", command := "y" }) ∈ c.profiles ∧
      c.profile "b" = .ok { name := "a", command := "x", aliases := ["b"] } ∧
      ("python", { name := "py", command := "z" }) ∈ c.profiles ∧
      c.profile "python" = .ok Profile.python := by
  have hprofiles : (parse ("[profiles.a]\ncommand = \"x\"\naliases = [\"b\"]\n[profiles.b]\ncommand = \"y\"\n" ++
      "[profiles.python]\nname = \"py\"\ncommand = \"z\"\n")).toOption.map (·.profiles) =
        some [("a", { name := "a", command := "x", aliases := ["b"] }), ("b", { name := "b", command := "y" }),
          ("python", { name := "py", command := "z" })] := by
    decide +kernel
  obtain ⟨c, hparse, hc⟩ := exists_of_profiles hprofiles
  refine ⟨c, hparse, by simp [hc], ?_, by simp [hc], ?_⟩
  · rw [profile_eq, hc]
    rfl
  · rw [profile_eq, builtinsLeft, hc]
    rfl

end Config

end Transcripts
