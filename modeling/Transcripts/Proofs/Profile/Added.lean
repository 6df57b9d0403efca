import Mathlib
import Transcripts.Proofs.Profile.Lookup

/-!
# One more profile

A profile that is added to a configuration takes its place by its key (`insertByKey`), whichever place its table has in
the document (`ofDatum_adds`).  A name that neither the new profile answers to nor a builtin one that it replaces is
looked up as before (`profile_of_others`).
-/
namespace Transcripts.Config

/-! ## Entries by key -/

section Entries

variable {key k : String} {p q : Profile} {entries : List (String × Profile)}

theorem insertByKey_cons_of_lt (h : key < k) : insertByKey key p ((k, q) :: entries) = (key, p) :: (k, q) :: entries :=
  if_pos h

theorem insertByKey_cons_of_gt (h : k < key) :
    insertByKey key p ((k, q) :: entries) = (k, q) :: insertByKey key p entries := by
  have hne : key ≠ k := fun heq => String.lt_irrefl _ (heq ▸ h)
  rw [insertByKey, if_neg (String.lt_asymm h), if_neg hne]

theorem insertByKey_cons_self : insertByKey key p ((key, q) :: entries) = (key, p) :: entries := by
  rw [insertByKey, if_neg (String.lt_irrefl key), if_pos rfl]

/-- Two entries with different keys can be put in in either order. -/
theorem insertByKey_comm_of_lt {l : String} (hlt : k < l) (p q : Profile) (entries : List (String × Profile)) :
    insertByKey k p (insertByKey l q entries) = insertByKey l q (insertByKey k p entries) := by
  induction entries with
  | nil =>
    show insertByKey k p [(l, q)] = insertByKey l q [(k, p)]
    rw [insertByKey_cons_of_lt hlt, insertByKey_cons_of_gt hlt]
    rfl
  | cons head rest ih =>
    obtain ⟨m, r⟩ := head
    rcases lt_trichotomy k m with hk | rfl | hk
    · -- the smaller key goes in front, whatever becomes of the larger one
      rw [insertByKey_cons_of_lt hk, insertByKey_cons_of_gt hlt]
      rcases lt_trichotomy l m with hl | rfl | hl
      · rw [insertByKey_cons_of_lt hl, insertByKey_cons_of_lt hlt]
      · rw [insertByKey_cons_self, insertByKey_cons_of_lt hlt]
      · rw [insertByKey_cons_of_gt hl, insertByKey_cons_of_lt hk]
    · rw [insertByKey_cons_of_gt hlt, insertByKey_cons_self, insertByKey_cons_self, insertByKey_cons_of_gt hlt]
    · have hl : m < l := String.lt_trans hk hlt
      rw [insertByKey_cons_of_gt hl, insertByKey_cons_of_gt hk, insertByKey_cons_of_gt hk, insertByKey_cons_of_gt hl, ih]

theorem insertByKey_comm {l : String} (hne : k ≠ l) (p q : Profile) (entries : List (String × Profile)) :
    insertByKey k p (insertByKey l q entries) = insertByKey l q (insertByKey k p entries) := by
  rcases lt_trichotomy k l with hlt | heq | hgt
  · exact insertByKey_comm_of_lt hlt p q entries
  · exact absurd heq hne
  · exact (insertByKey_comm_of_lt hgt q p entries).symm

theorem map_insertByKey (g : String → Profile → Profile) (key : String) (p : Profile)
    (entries : List (String × Profile)) : (insertByKey key p entries).map (fun e => (e.1, g e.1 e.2)) =
      insertByKey key (g key p) (entries.map fun e => (e.1, g e.1 e.2)) := by
  induction entries with
  | nil => rfl
  | cons head rest ih =>
    obtain ⟨k, q⟩ := head
    rcases lt_trichotomy key k with hlt | rfl | hgt
    · rw [insertByKey_cons_of_lt hlt, List.map_cons, List.map_cons, insertByKey_cons_of_lt hlt]
    · rw [insertByKey_cons_self, List.map_cons, List.map_cons, insertByKey_cons_self]
    · rw [insertByKey_cons_of_gt hgt, List.map_cons, List.map_cons, insertByKey_cons_of_gt hgt, ih]

theorem mem_keys_insertByKey {l : String} :
    l ∈ (insertByKey key p entries).map (·.1) ↔ l = key ∨ l ∈ entries.map (·.1) := by
  induction entries with
  | nil => exact List.mem_singleton.trans (or_iff_left List.not_mem_nil).symm
  | cons head rest ih =>
    obtain ⟨k, q⟩ := head
    rcases lt_trichotomy key k with hlt | rfl | hgt
    · rw [insertByKey_cons_of_lt hlt, List.map_cons, List.mem_cons]
    · rw [insertByKey_cons_self, List.map_cons, List.map_cons, List.mem_cons, or_self_left]
    · rw [insertByKey_cons_of_gt hgt, List.map_cons, List.map_cons, List.mem_cons, List.mem_cons, ih, or_left_comm]

/-- A new key takes its place between the entries that are there. -/
theorem insertByKey_eq_append (hkey : key ∉ entries.map (·.1)) :
    ∃ before after, entries = before ++ after ∧ insertByKey key p entries = before ++ (key, p) :: after := by
  induction entries with
  | nil => exact ⟨[], [], rfl, rfl⟩
  | cons head rest ih =>
    obtain ⟨k, q⟩ := head
    simp only [List.map_cons, List.mem_cons, not_or] at hkey
    rcases lt_trichotomy key k with hlt | heq | hgt
    · exact ⟨[], (k, q) :: rest, rfl, insertByKey_cons_of_lt hlt⟩
    · exact absurd heq hkey.1
    · obtain ⟨before, after, hrest, hinsert⟩ := ih hkey.2
      exact ⟨(k, q) :: before, after, by rw [hrest]; rfl, by rw [insertByKey_cons_of_gt hgt, hinsert]; rfl⟩

end Entries

/-! ## Checked configurations -/

theorem withName_withName (key : String) (p : Profile) : withName key (withName key p) = withName key p := by
  by_cases hname : p.name = ""
  · by_cases hkey : key = "" <;> simp [withName, hname, hkey]
  · simp [withName, hname]

variable {c : Config} {key name : String} {p : Profile}

/-- A configuration with one more profile. -/
def adding (c : Config) (key : String) (p : Profile) : Config :=
  { c with profiles := insertByKey key (withName key p) c.profiles }

theorem called_insert (c : Config) (key : String) (p : Profile) :
    called { c with profiles := insertByKey key p c.profiles } = c.called.adding key p := by
  rw [called, map_insertByKey withName]
  rfl

theorem called_called (c : Config) : c.called.called = c.called := by
  simp only [called, List.map_map, Function.comp_def, withName_withName]

/-- A configuration that has been checked stays so with one more valid profile. -/
theorem checked_insert (hc : ∀ e ∈ c.called.profiles, e.2.validate = .ok ())
    (hp : (withName key p).validate = .ok ()) :
    checked { c with profiles := insertByKey key p c.profiles } = .ok (c.called.adding key p) := by
  rw [checked_eq_ok_iff, called_insert]
  refine ⟨rfl, fun e he => ?_⟩
  rcases mem_insertByKey he with rfl | he
  · exact hp
  · exact hc e he

/-! ## Documents with one more table -/

/-- The second of two documents is the first with one more table under `profiles`, wherever it may stand there; if the
first has no tables there, it is the only one. -/
inductive AddsProfile (key : String) (table : Datum) : Datum → Datum → Prop where
  | beside (form inner : Form) (before after s₁ s₂ : List (String × Datum)) (hlast : "profiles" ∉ s₂.map (·.1)) :
    AddsProfile key table (.table form (s₁ ++ ("profiles", .table inner (before ++ after)) :: s₂))
      (.table form (s₁ ++ ("profiles", .table inner (before ++ (key, table) :: after)) :: s₂))
  | first (form inner : Form) (s₁ s₂ : List (String × Datum)) (hnone : "profiles" ∉ (s₁ ++ s₂).map (·.1)) :
    AddsProfile key table (.table form (s₁ ++ s₂))
      (.table form (s₁ ++ ("profiles", .table inner [(key, table)]) :: s₂))

/-- Takes a profile with its key. -/
def takeProfile (ps : List (String × Profile)) (e : String × Datum) : Settled (List (String × Profile)) := do
  return insertByKey e.1 (← Profile.ofDatum e.2) ps

theorem profilesOf_table (form : Form) (entries : List (String × Datum)) :
    profilesOf (.table form entries) = entries.foldlM takeProfile [] := rfl

theorem takeProfile_eq_ok {ps ps' : List (String × Profile)} {e : String × Datum} (h : takeProfile ps e = .ok ps') :
    ∃ q, Profile.ofDatum e.2 = .ok q ∧ ps' = insertByKey e.1 q ps := by
  obtain ⟨q, hq, h⟩ := Except.bind_eq_ok h
  cases h
  exact ⟨q, hq, rfl⟩

theorem takeProfile_of_eq_ok {e : String × Datum} (h : Profile.ofDatum e.2 = .ok p) (ps : List (String × Profile)) :
    takeProfile ps e = .ok (insertByKey e.1 p ps) := Except.bind_of_eq_ok h

theorem mem_keys_takeProfiles {entries : List (String × Datum)} {ps ps' : List (String × Profile)}
    (h : entries.foldlM takeProfile ps = .ok ps') (k : String) :
    k ∈ ps'.map (·.1) ↔ k ∈ entries.map (·.1) ∨ k ∈ ps.map (·.1) := by
  induction entries generalizing ps with
  | nil =>
    cases h
    exact (or_iff_right List.not_mem_nil).symm
  | cons e entries ih =>
    rw [List.foldlM_cons] at h
    obtain ⟨ps₁, he, h⟩ := Except.bind_eq_ok h
    obtain ⟨q, -, rfl⟩ := takeProfile_eq_ok he
    rw [ih h, mem_keys_insertByKey, List.map_cons, List.mem_cons, ← or_assoc, or_comm (a := k ∈ entries.map (·.1))]

/-- Tables with other keys are taken in the same way whether or not a profile is there. -/
theorem takeProfiles_insert {entries : List (String × Datum)} {ps ps' : List (String × Profile)}
    (h : entries.foldlM takeProfile ps = .ok ps') (hkey : key ∉ entries.map (·.1)) (p : Profile) :
    entries.foldlM takeProfile (insertByKey key p ps) = .ok (insertByKey key p ps') := by
  induction entries generalizing ps with
  | nil =>
    cases h
    rfl
  | cons e entries ih =>
    simp only [List.map_cons, List.mem_cons, not_or] at hkey
    rw [List.foldlM_cons] at h ⊢
    obtain ⟨ps₁, he, h⟩ := Except.bind_eq_ok h
    obtain ⟨q, hq, rfl⟩ := takeProfile_eq_ok he
    rw [Except.bind_of_eq_ok (takeProfile_of_eq_ok hq _), insertByKey_comm (Ne.symm hkey.1)]
    exact ih h hkey.2

/-- The place of a table under `profiles` does not matter. -/
theorem profilesOf_insert {form : Form} {before after : List (String × Datum)} {table : Datum}
    {ps : List (String × Profile)} (h : profilesOf (.table form (before ++ after)) = .ok ps)
    (hp : Profile.ofDatum table = .ok p) (hkey : key ∉ ps.map (·.1)) :
    profilesOf (.table form (before ++ (key, table) :: after)) = .ok (insertByKey key p ps) := by
  rw [profilesOf_table, List.foldlM_append] at h ⊢
  obtain ⟨ps₁, hbefore, hafter⟩ := Except.bind_eq_ok h
  have hnew : key ∉ after.map (·.1) := fun hmem => hkey ((mem_keys_takeProfiles hafter key).2 (.inl hmem))
  rw [Except.bind_of_eq_ok hbefore, List.foldlM_cons, Except.bind_of_eq_ok (takeProfile_of_eq_ok hp ps₁)]
  exact takeProfiles_insert hafter hnew p

/-- Takes a setting with its name. -/
def takeSetting (c : Config) (e : String × Datum) : Settled Config := c.assign e.1 e.2

theorem ofDatum_table (form : Form) (settings : List (String × Datum)) :
    ofDatum (.table form settings) = settings.foldlM takeSetting {} := rfl

theorem takeSetting_profiles (c : Config) (d : Datum) (ps : List (String × Profile)) (h : profilesOf d = .ok ps) :
    takeSetting c ("profiles", d) = .ok { c with profiles := ps } := Except.bind_of_eq_ok h

/-- Other settings do not touch the profiles. -/
theorem takeSetting_others {c' : Config} {e : String × Datum} (hname : e.1 ≠ "profiles") (h : takeSetting c e = .ok c')
    (ps : List (String × Profile)) :
    c'.profiles = c.profiles ∧ takeSetting { c with profiles := ps } e = .ok { c' with profiles := ps } := by
  unfold takeSetting assign at h ⊢
  split at h
  · obtain ⟨workdir, hworkdir, h⟩ := Except.bind_eq_ok h
    cases h
    exact ⟨rfl, Except.bind_of_eq_ok hworkdir⟩
  · exact absurd ‹_› hname
  · cases h

theorem takeSettings_others {c' : Config} {settings : List (String × Datum)} (hname : "profiles" ∉ settings.map (·.1))
    (h : settings.foldlM takeSetting c = .ok c') (ps : List (String × Profile)) :
    c'.profiles = c.profiles ∧
      settings.foldlM takeSetting { c with profiles := ps } = .ok { c' with profiles := ps } := by
  induction settings generalizing c with
  | nil =>
    cases h
    exact ⟨rfl, rfl⟩
  | cons e settings ih =>
    simp only [List.map_cons, List.mem_cons, not_or] at hname
    rw [List.foldlM_cons] at h ⊢
    obtain ⟨c₁, he, h⟩ := Except.bind_eq_ok h
    obtain ⟨hprofiles, htake⟩ := takeSetting_others (Ne.symm hname.1) he ps
    obtain ⟨hrest, hall⟩ := ih hname.2 h
    exact ⟨hrest.trans hprofiles, by rw [Except.bind_of_eq_ok htake, hall]⟩

/-- One more table is one more profile. -/
theorem ofDatum_adds {d d' table : Datum} (hadds : AddsProfile key table d d') (h : ofDatum d = .ok c)
    (hp : Profile.ofDatum table = .ok p) (hkey : key ∉ c.profiles.map (·.1)) :
    ofDatum d' = .ok { c with profiles := insertByKey key p c.profiles } := by
  cases hadds with
  | beside form inner before after s₁ s₂ hlast =>
    rw [ofDatum_table, List.foldlM_append] at h ⊢
    obtain ⟨c₁, hs₁, h⟩ := Except.bind_eq_ok h
    rw [Except.bind_of_eq_ok hs₁]
    rw [List.foldlM_cons] at h ⊢
    obtain ⟨c₂, hc₂, h⟩ := Except.bind_eq_ok h
    obtain ⟨ps, hps, hc₂⟩ := Except.bind_eq_ok hc₂
    cases hc₂
    obtain ⟨hprofiles, hrest⟩ := takeSettings_others hlast h (insertByKey key p ps)
    have hadded := profilesOf_insert hps hp (hprofiles ▸ hkey)
    rw [Except.bind_of_eq_ok (takeSetting_profiles c₁ _ _ hadded), hrest, hprofiles]
  | first form inner s₁ s₂ hnone =>
    rw [List.map_append, List.mem_append, not_or] at hnone
    rw [ofDatum_table, List.foldlM_append] at h ⊢
    obtain ⟨c₁, hs₁, h⟩ := Except.bind_eq_ok h
    obtain ⟨hc₁, -⟩ := takeSettings_others hnone.1 hs₁ []
    obtain ⟨hprofiles, hrest⟩ := takeSettings_others hnone.2 h [(key, p)]
    have honly : profilesOf (.table inner [(key, table)]) = .ok [(key, p)] := by
      rw [profilesOf_table, List.foldlM_cons, Except.bind_of_eq_ok (takeProfile_of_eq_ok hp [])]
      rfl
    rw [Except.bind_of_eq_ok hs₁, List.foldlM_cons, Except.bind_of_eq_ok (takeSetting_profiles c₁ _ _ honly), hrest,
      hprofiles, hc₁]
    rfl

/-! ## Names of others -/

/-- A profile that is passed over does not change which one answers. -/
theorem find?_adding (hkey : key ∉ c.profiles.map (·.1)) (hp : (withName key p).answersTo name = false) :
    (c.adding key p).profiles.find? (·.2.answersTo name) = c.profiles.find? (·.2.answersTo name) := by
  obtain ⟨before, after, hentries, hinsert⟩ := insertByKey_eq_append (p := withName key p) hkey
  rw [adding, hinsert, hentries, List.find?_append, List.find?_append, List.find?_cons]
  simp only [hp]

theorem any_adding (hkey : key ∉ c.profiles.map (·.1)) (f : Profile → Bool) :
    ((c.adding key p).profiles.map (·.2)).any f = (f (withName key p) || (c.profiles.map (·.2)).any f) := by
  obtain ⟨before, after, hentries, hinsert⟩ := insertByKey_eq_append (p := withName key p) hkey
  rw [adding, hinsert, hentries, List.map_append, List.map_append, List.map_cons, List.any_append, List.any_append,
    List.any_cons, Bool.or_left_comm]

/-- Of the builtin profiles, the new one replaces only some that do not answer. -/
theorem find?_builtinsLeft_adding (hkey : key ∉ c.profiles.map (·.1))
    (hb : ∀ b ∈ Profile.builtins, b.name = (withName key p).name → b.answersTo name = false) :
    (c.adding key p).builtinsLeft.find? (·.answersTo name) = c.builtinsLeft.find? (·.answersTo name) := by
  unfold builtinsLeft
  rw [List.find?_filter, List.find?_filter]
  refine List.find?_congr fun b hmem => ?_
  rw [any_adding hkey]
  by_cases hname : b.name = (withName key p).name
  · simp [hb b hmem hname]
  · have hne : ((withName key p).name == b.name) = false := by simpa using Ne.symm hname
    rw [hne, Bool.false_or]

theorem profile_adding (hkey : key ∉ c.profiles.map (·.1)) (hp : (withName key p).answersTo name = false)
    (hb : ∀ b ∈ Profile.builtins, b.name = (withName key p).name → b.answersTo name = false) :
    (c.adding key p).profile name = c.profile name := by
  rw [profile_eq, profile_eq, find?_adding hkey hp, Profile.named, Profile.named, find?_builtinsLeft_adding hkey hb]

theorem profile_cases (c : Config) (name : String) :
    (∃ q, c.profile name = .ok q) ∨ c.profile name = .error (.unknownProfile name) := by
  unfold profile Profile.named
  cases c.allProfiles.find? (·.answersTo name) with
  | none => exact .inr rfl
  | some q => exact .inl ⟨q, rfl⟩

/-- **One more profile only affects its own names.**  For every accepted configuration, every key that it has no
profile under and every profile that is valid once it is called by its key where it has no name:

* the configuration with that profile is accepted as well, and differs only by it;
* it is what a document describes that has one more table under `profiles`, if that profile is read from the table;
* a name that the profile does not answer to, and no builtin one of its name does, gets in both configurations the
  same profile, or in both the fault that it is unknown. -/
theorem profile_of_others {text : String} (h : parse text = .ok c) (hkey : key ∉ c.profiles.map (·.1))
    (hvalid : (withName key p).validate = .ok ()) :
    checked { c with profiles := insertByKey key p c.profiles } = .ok (c.adding key p) ∧
    (∀ d d' table text', Toml.parse text = some d → AddsProfile key table d d' → Profile.ofDatum table = .ok p →
      Toml.parse text' = some d' → parse text' = .ok (c.adding key p)) ∧
    ∀ name, (withName key p).answersTo name = false →
      (∀ b ∈ Profile.builtins, b.name = (withName key p).name → b.answersTo name = false) →
      (c.adding key p).profile name = c.profile name ∧
      ((∃ q, c.profile name = .ok q) ∨ c.profile name = .error (.unknownProfile name)) := by
  obtain ⟨d, written, hd, hw, hc⟩ := parse_eq_ok_iff.1 h
  obtain ⟨rfl, hall⟩ := checked_eq_ok_iff.1 hc
  refine ⟨?_, fun d₁ d' table text' hd₁ hadds hp hd' => ?_, fun name hname hb =>
    ⟨profile_adding hkey hname hb, profile_cases _ name⟩⟩
  · have hchecked := checked_insert (c := written.called) (by rwa [called_called]) hvalid
    rwa [called_called] at hchecked
  · obtain rfl : d = d₁ := Option.some.inj (hd.symm.trans hd₁)
    have hwritten : key ∉ written.profiles.map (·.1) := by
      simpa only [called, List.map_map, Function.comp_def] using hkey
    exact parse_eq_ok_iff.2 ⟨d', _, hd', ofDatum_adds hadds hw hp hwritten, checked_insert hall hvalid⟩

/-- A table that takes the place of a builtin profile, beside one that is there. -/
theorem profile_of_others_python :
    let p : Profile := { command := "python3 -q" }
    ∃ c, parse "[profiles.a]\nname = \"b\"\ncommand = \"x\"\n" = .ok c ∧ "python" ∉ c.profiles.map (·.1) ∧
      (withName "python" p).validate = .ok () ∧
      parse "[profiles.a]\nname = \"b\"\ncommand = \"x\"\n[profiles.python]\ncommand = \"python3 -q\"\n" =
        .ok (c.adding "python" p) ∧
      (c.adding "python" p).profile "ipython" = c.profile "ipython" := by
  intro p
  have hprofiles : (parse "[profiles.a]\nname = \"b\"\ncommand = \"x\"\n").toOption.map (·.profiles) =
      some [("a", { name := "b", command := "x" })] := by
    decide +kernel
  obtain ⟨c, hparse, hc⟩ := exists_of_profiles hprofiles
  have hkey : "python" ∉ c.profiles.map (·.1) := by simp [hc]
  have hvalid : (withName "python" { command := "python3 -q" }).validate = .ok () := rfl
  have hbefore : Toml.parse "[profiles.a]\nname = \"b\"\ncommand = \"x\"\n" =
      some (.table .headed ([] ++ ("profiles", .table .headed
        ([("a", .table .headed [("name", .string "b"), ("command", .string "x")])] ++ [])) :: [])) := by
    cbv
  have hafter : Toml.parse "[profiles.a]\nname = \"b\"\ncommand = \"x\"\n[profiles.python]\ncommand = \"python3 -q\"\n" =
      some (.table .headed ([] ++ ("profiles", .table .headed
        ([("a", .table .headed [("name", .string "b"), ("command", .string "x")])] ++
          ("python", .table .headed [("command", .string "python3 -q")]) :: [])) :: [])) := by
    cbv
  obtain ⟨-, hwritten, hothers⟩ := profile_of_others hparse hkey hvalid
  exact ⟨c, hparse, hkey, hvalid,
    hwritten _ _ _ _ hbefore (.beside .headed .headed _ _ _ _ List.not_mem_nil) rfl hafter,
    (hothers "ipython" (by decide) (by decide)).1⟩

end Transcripts.Config
