import Transcripts.Proofs.Pattern.Progress
import Transcripts.Proofs.Pattern.Takes

/-!
# Programs do what patterns mean

A node is compiled in front of a step.  From the place where the compiled node starts an accepting step is reached
just if the node takes the input up to some place from which one is reached from that step (`emit_means`).  So the
program of a node reaches its accepting step just where the node can stop (`program_leads_iff`).
-/
namespace Transcripts.Pattern

/-- An accepting step is reached at a place `e` from a point in so many steps. -/
def Program.LeadsIn (p : Program) (input : Input) (e : Nat) : Nat → Point → Prop
  | 0, x => p.accepts x = true ∧ x.2 = e
  | k + 1, x => ∃ y ∈ p.next input x, LeadsIn p input e k y

/-- An accepting step is reached at a place `e` from a point. -/
def Program.Leads (p : Program) (input : Input) (e : Nat) (x : Point) : Prop := ∃ k, p.LeadsIn input e k x

section

variable {p : Program} {input : Input} {takes takes' : Nat → Nat → Prop} {entry middle next : Nat}

theorem Program.Leads.of_next {e : Nat} {x y : Point} (hy : y ∈ p.next input x) (h : p.Leads input e y) :
    p.Leads input e x := by
  obtain ⟨k, hk⟩ := h
  exact ⟨k + 1, y, hy, hk⟩

/-- A step that does not accept leads on through one of those after it. -/
theorem Program.LeadsIn.exists_next {e k : Nat} {x : Point} (h : p.LeadsIn input e k x) (hx : p.accepts x = false) :
    ∃ k', k = k' + 1 ∧ ∃ y ∈ p.next input x, p.LeadsIn input e k' y := by
  cases k with
  | zero =>
    rw [LeadsIn, hx] at h
    cases h.1
  | succ k => exact ⟨k, rfl, h⟩

/-- An accepting step leads nowhere. -/
theorem next_of_accepts {x : Point} (h : p.accepts x = true) : p.next input x = [] := by
  rw [Program.next, beq_iff_eq.1 h]

/-! ## Ways through a program -/

/-- From one place of the program an accepting step is reached through another, just behind what `takes` relates. -/
structure Via (p : Program) (input : Input) (takes : Nat → Nat → Prop) (entry next : Nat) : Prop where
  sound : ∀ {e k i}, p.LeadsIn input e k (entry, i) → ∃ j, takes i j ∧ ∃ k' ≤ k, p.LeadsIn input e k' (next, j)
  complete : ∀ {e i j}, takes i j → p.Leads input e (next, j) → p.Leads input e (entry, i)

namespace Via

theorem refl (p : Program) (input : Input) (next : Nat) : Via p input (· = ·) next next where
  sound h := ⟨_, rfl, _, Nat.le_refl _, h⟩
  complete := by
    rintro e i j rfl h
    exact h

theorem trans (h : Via p input takes entry middle) (h' : Via p input takes' middle next) :
    Via p input (fun i j => ∃ k, takes i k ∧ takes' k j) entry next where
  sound hleads := by
    obtain ⟨m, hm, k, hk, hleads⟩ := h.sound hleads
    obtain ⟨j, hj, k', hk', hleads⟩ := h'.sound hleads
    exact ⟨j, ⟨m, hm, hj⟩, k', Nat.le_trans hk' hk, hleads⟩
  complete := by
    rintro e i j ⟨k, hk, hj⟩ hleads
    exact h.complete hk (h'.complete hj hleads)

theorem congr (h : Via p input takes entry next) (heq : ∀ i j, takes i j ↔ takes' i j) :
    Via p input takes' entry next where
  sound hleads := by
    obtain ⟨j, hj, hrest⟩ := h.sound hleads
    exact ⟨j, (heq _ j).1 hj, hrest⟩
  complete hj hleads := h.complete ((heq _ _).2 hj) hleads

/-- A single step that leads to `next`. -/
theorem step (haccepts : ∀ i, p.accepts (entry, i) = false)
    (hnext : ∀ i y, y ∈ p.next input (entry, i) ↔ y.1 = next ∧ takes i y.2) : Via p input takes entry next where
  sound hleads := by
    obtain ⟨k, rfl, y, hy, hleads⟩ := hleads.exists_next (haccepts _)
    obtain ⟨rfl, htakes⟩ := (hnext _ y).1 hy
    exact ⟨y.2, htakes, k, Nat.le_succ k, hleads⟩
  complete htakes hleads := hleads.of_next ((hnext _ (next, _)).2 ⟨rfl, htakes⟩)

end Via

theorem accepts_eq_false {i : Inst} (h : p.code[entry]? = some i) (hi : i ≠ .accept) (place : Nat) :
    p.accepts (entry, place) = false := by
  rw [Program.accepts, h]
  simpa using hi

theorem mem_next_char {set : Unicode.Ranges} (h : p.code[entry]? = some (.char set next)) (i : Nat) (y : Point) :
    y ∈ p.next input (entry, i) ↔ y.1 = next ∧ (Node.char set).Takes input i y.2 := by
  simp only [Program.next, h, Node.Takes]
  cases hc : input.charAt i with
  | none => simp
  | some found => cases hset : set.mem found.1.toNat <;> simp [hset, Prod.ext_iff]

theorem mem_next_byte {set : Unicode.Ranges} (h : p.code[entry]? = some (.byte set next)) (i : Nat) (y : Point) :
    y ∈ p.next input (entry, i) ↔ y.1 = next ∧ (Node.byte set).Takes input i y.2 := by
  simp only [Program.next, h, Node.Takes]
  cases hb : input[i]? with
  | none => simp
  | some b => cases hset : set.mem b.toNat <;> simp [hset, Prod.ext_iff]

theorem mem_next_look {l : Look} (h : p.code[entry]? = some (.look l next)) (i : Nat) (y : Point) :
    y ∈ p.next input (entry, i) ↔ y.1 = next ∧ (Node.look l).Takes input i y.2 := by
  simp only [Program.next, h, Node.Takes]
  cases l.holds input i with
  | true => simp [Prod.ext_iff, eq_comm]
  | false => simp

theorem mem_next_choose {greedy : Bool} {body leave : Nat} (h : p.code[entry]? = some (.choose greedy body leave))
    (i : Nat) (y : Point) : y ∈ p.next input (entry, i) ↔ y = (body, i) ∨ y = (leave, i) := by
  cases greedy with
  | true => simp [Program.next, h, Inst.choose]
  | false => simp [Program.next, h, Inst.choose, or_comm]

/-- A choice between a body and what comes after it. -/
theorem Via.choose {greedy : Bool} {body leave : Nat} (hcode : p.code[entry]? = some (.choose greedy body leave))
    (hbody : Via p input takes body next) (hleave : Via p input takes' leave next) :
    Via p input (fun i j => takes i j ∨ takes' i j) entry next where
  sound hleads := by
    obtain ⟨k, rfl, y, hy, hleads⟩ :=
      hleads.exists_next (accepts_eq_false hcode (Inst.choose_ne_accept greedy body leave) _)
    rcases (mem_next_choose hcode _ y).1 hy with rfl | rfl
    · obtain ⟨j, hj, k', hk', hleads⟩ := hbody.sound hleads
      exact ⟨j, .inl hj, k', Nat.le_succ_of_le hk', hleads⟩
    · obtain ⟨j, hj, k', hk', hleads⟩ := hleave.sound hleads
      exact ⟨j, .inr hj, k', Nat.le_succ_of_le hk', hleads⟩
  complete := by
    rintro e i j (hj | hj) hleads
    · exact (hbody.complete hj hleads).of_next ((mem_next_choose hcode i _).2 (.inl rfl))
    · exact (hleave.complete hj hleads).of_next ((mem_next_choose hcode i _).2 (.inr rfl))

/-- A choice to which the body leads back.  The number of steps that are left decides how often it does. -/
theorem Via.loop {greedy : Bool} {body : Nat} (hcode : p.code[entry]? = some (.choose greedy body next))
    (hbody : Via p input takes body entry) : Via p input (fun i j => ∃ n, Rounds takes n i j) entry next where
  sound {e k} := by
    induction k using Nat.strongRecOn with
    | ind k ih =>
      intro i hleads
      obtain ⟨k, rfl, y, hy, hleads⟩ :=
        hleads.exists_next (accepts_eq_false hcode (Inst.choose_ne_accept greedy body next) _)
      rcases (mem_next_choose hcode _ y).1 hy with rfl | rfl
      · obtain ⟨m, hm, k', hk', hleads⟩ := hbody.sound hleads
        obtain ⟨j, ⟨n, hn⟩, k'', hk'', hleads⟩ := ih k' (Nat.lt_succ_of_le hk') hleads
        exact ⟨j, ⟨n + 1, m, hm, hn⟩, k'', by omega, hleads⟩
      · exact ⟨i, ⟨0, rfl⟩, k, Nat.le_succ k, hleads⟩
  complete := by
    rintro e i j ⟨n, hn⟩ hleads
    induction n generalizing i with
    | zero =>
      cases hn
      exact hleads.of_next ((mem_next_choose hcode _ _).2 (.inr rfl))
    | succ n ih =>
      obtain ⟨k, hk, hn⟩ := hn
      exact (hbody.complete hk (ih hn)).of_next ((mem_next_choose hcode i _).2 (.inl rfl))

end

/-! ## Steps that were added -/

namespace Code

/-- The steps by which `grown` goes beyond `code` stand in `whole`. -/
def Holds (whole code grown : Code) : Prop := ∀ k, code.size ≤ k → k < grown.size → whole[k]? = grown[k]?

theorem Holds.split {whole code code' grown : Code} {next entry : Nat} (h : whole.Holds code grown)
    (hle : code.size ≤ code'.size) (he : Emits next code' entry grown) :
    whole.Holds code code' ∧ whole.Holds code' grown := by
  refine ⟨fun k hk hk' => ?_, fun k hk hk' => h k (Nat.le_trans hle hk) hk'⟩
  rw [h k hk (Nat.lt_of_lt_of_le hk' he.size_le), he.kept k hk']

/-- A step that was added last. -/
theorem Holds.push {whole code code' : Code} {i : Inst} (h : whole.Holds code (code'.push i))
    (hle : code.size ≤ code'.size) : whole.Holds code code' ∧ whole[code'.size]? = some i := by
  have hsize : (code'.push i).size = code'.size + 1 := Array.size_push i
  refine ⟨fun k hk hk' => ?_, ?_⟩
  · rw [h k hk (by omega), Array.getElem?_push, if_neg (by omega)]
  · rw [h code'.size hle (by omega), Array.getElem?_push_size]

/-- What is compiled in front of a step means `takes`, wherever in a program its steps stand. -/
def Means (p : Program) (input : Input) (takes : Nat → Nat → Prop) (body : Nat → Code → Nat × Code) : Prop :=
  ∀ next code, p.code.Holds code (body next code).2 → Via p input takes (body next code).1 next

section

variable {p : Program} {input : Input} {takes : Nat → Nat → Prop} {nullable : Bool} {body : Nat → Code → Nat × Code}

theorem copies_means (hs : Sound nullable body) (h : Means p input takes body) (n : Nat) :
    Means p input (Rounds takes n) (copies body n) := by
  intro next code hholds
  induction n with
  | zero => exact .refl p input next
  | succ n ih =>
    unfold copies at hholds ⊢
    obtain ⟨hrest, hfirst⟩ := hholds.split (copies_emits hs n next code).size_le (hs _ _).1
    exact (h _ _ hfirst).trans (ih hrest)

theorem optional_means (hs : Sound nullable body) (h : Means p input takes body) (greedy : Bool) (n : Nat) :
    Means p input (fun i j => ∃ m ≤ n, Rounds takes m i j) (optional body greedy n) := by
  intro next code hholds
  induction n with
  | zero => exact (Via.refl p input next).congr fun i j => by simp [Rounds]
  | succ n ih =>
    have hinner := optional_emits hs greedy n next code
    have hbody := (hs (optional body greedy n next code).1 (optional body greedy n next code).2).1
    obtain ⟨hbefore, hchoice⟩ := Holds.push hholds (Nat.le_trans hinner.size_le hbody.size_le)
    obtain ⟨hrest, hfirst⟩ := hbefore.split hinner.size_le hbody
    refine (Via.choose hchoice ((h _ _ hfirst).trans (ih hrest)) (.refl p input next)).congr fun i j => ?_
    constructor
    · rintro (⟨k, hk, m, hm, hrounds⟩ | rfl)
      · exact ⟨m + 1, Nat.succ_le_succ hm, k, hk, hrounds⟩
      · exact ⟨0, Nat.zero_le _, rfl⟩
    · rintro ⟨m, hm, hrounds⟩
      cases m with
      | zero => exact .inr hrounds
      | succ m =>
        obtain ⟨k, hk, hrounds⟩ := hrounds
        exact .inl ⟨k, hk, m, Nat.le_of_succ_le_succ hm, hrounds⟩

/-- A loop is one or more rounds from its body on, and any number of them from its choice on. -/
theorem loop_means (hs : Sound nullable body) (h : Means p input takes body) {greedy : Bool} {next : Nat} {code : Code}
    (hholds : p.code.Holds code (loop body greedy next code).2.2) :
    Via p input takes (loop body greedy next code).1 (loop body greedy next code).2.1 ∧
    Via p input (fun i j => ∃ n, Rounds takes n i j) (loop body greedy next code).2.1 next := by
  have hsize := (hs code.size (code.push .fail)).1.size_le
  rw [Array.size_push] at hsize
  have hwhole (k : Nat) (hk : code.size ≤ k) (hk' : k < (body code.size (code.push .fail)).2.size) :
      p.code[k]? = if k = code.size then some (.choose greedy (body code.size (code.push .fail)).1 next)
        else (body code.size (code.push .fail)).2[k]? := by
    rw [hholds k hk (by rwa [Code.loop_size]), Code.loop_step body greedy next hsize]
  have hbodyVia := h code.size (code.push .fail) fun k hk hk' => by
    rw [Array.size_push] at hk
    rw [hwhole k (by omega) hk', if_neg (by omega)]
  exact ⟨hbodyVia, .loop ((hwhole code.size (Nat.le_refl _) hsize).trans (if_pos rfl)) hbodyVia⟩

end

end Code

open Code (Means Sound)

namespace Node

/-! ## Compiled repetitions -/

section

variable {p : Program} {input : Input} {sub : Node} {greedy : Bool}

theorem bounded_means (h : Means p input (sub.Takes input) sub.emit) (least most : Nat) :
    Means p input ((repetition least (some most) greedy sub).Takes input)
      (repetition least (some most) greedy sub).emit := by
  intro next code hholds
  obtain ⟨hrest, hfirst⟩ := Code.Holds.split hholds
    (Code.optional_emits sub.emit_sound greedy (most - least) next code).size_le
    (Code.copies_emits sub.emit_sound least _ _)
  have hcopies := Code.copies_means sub.emit_sound h least _ _ hfirst
  have hoptional := Code.optional_means sub.emit_sound h greedy (most - least) _ _ hrest
  exact (hcopies.trans hoptional).congr fun i j => bounded_takes.symm

/-- Where a round can take nothing, a choice stands in front of the loop: leaving out all rounds is not the same as
going through the body once. -/
theorem star_means (h : Means p input (sub.Takes input) sub.emit) :
    Means p input ((repetition 0 none greedy sub).Takes input) (repetition 0 none greedy sub).emit := by
  intro next code hholds
  have hemit : (repetition 0 none greedy sub).emit next code =
      if sub.nullable then Code.add (Code.loop sub.emit greedy next code).2.2
        (.choose greedy (Code.loop sub.emit greedy next code).1 next)
      else (Code.loop sub.emit greedy next code).2 := rfl
  rw [hemit] at hholds ⊢
  by_cases hnull : sub.nullable = true
  · rw [if_pos hnull] at hholds ⊢
    obtain ⟨hbefore, hchoice⟩ :=
      Code.Holds.push hholds (Code.loop_emits sub.emit_sound greedy next code).1.size_le
    obtain ⟨hbody, hrounds⟩ := Code.loop_means sub.emit_sound h hbefore
    refine (Via.choose hchoice (hbody.trans hrounds) (.refl p input next)).congr fun i j => ?_
    rw [unbounded_takes]
    simp only [Nat.zero_add]
    constructor
    · rintro (⟨k, hk, n, hn⟩ | rfl)
      · exact ⟨n + 1, k, hk, hn⟩
      · exact ⟨0, rfl⟩
    · rintro ⟨n, hn⟩
      cases n with
      | zero => exact .inr hn
      | succ n =>
        obtain ⟨k, hk, hn⟩ := hn
        exact .inl ⟨k, hk, n, hn⟩
  · rw [if_neg hnull] at hholds ⊢
    obtain ⟨-, hrounds⟩ := Code.loop_means sub.emit_sound h hholds
    refine hrounds.congr fun i j => ?_
    rw [unbounded_takes]
    simp only [Nat.zero_add]

/-- The last of the rounds that must be taken is the body of the loop. -/
theorem plus_means (h : Means p input (sub.Takes input) sub.emit) (least : Nat) :
    Means p input ((repetition (least + 1) none greedy sub).Takes input)
      (repetition (least + 1) none greedy sub).emit := by
  intro next code hholds
  obtain ⟨hbefore, hfirst⟩ := Code.Holds.split hholds (Code.loop_emits sub.emit_sound greedy next code).1.size_le
    (Code.copies_emits sub.emit_sound least (Code.loop sub.emit greedy next code).1 _)
  obtain ⟨hbody, hrounds⟩ := Code.loop_means sub.emit_sound h hbefore
  have hcopies := Code.copies_means sub.emit_sound h least _ _ hfirst
  refine (hcopies.trans (hbody.trans hrounds)).congr fun i j => ?_
  rw [unbounded_takes]
  simp only [Nat.add_assoc least 1, Nat.add_comm 1, rounds_add, Rounds]
  constructor
  · rintro ⟨k, hleast, l, hl, n, hn⟩
    exact ⟨n, k, hleast, l, hl, hn⟩
  · rintro ⟨n, k, hleast, l, hl, hn⟩
    exact ⟨k, hleast, l, hl, n, hn⟩

end

/-! ## Compiled nodes -/

/-- **A compiled node means what it takes.** -/
theorem emit_means (p : Program) (input : Input) (n : Node) : Means p input (n.Takes input) n.emit := by
  induction n with
  | empty => exact fun next code _ => .refl p input next
  | char set =>
    intro next code hholds
    have hcode := (Code.Holds.push hholds (Nat.le_refl _)).2
    exact .step (accepts_eq_false hcode nofun) (mem_next_char hcode)
  | byte set =>
    intro next code hholds
    have hcode := (Code.Holds.push hholds (Nat.le_refl _)).2
    exact .step (accepts_eq_false hcode nofun) (mem_next_byte hcode)
  | look l =>
    intro next code hholds
    have hcode := (Code.Holds.push hholds (Nat.le_refl _)).2
    exact .step (accepts_eq_false hcode nofun) (mem_next_look hcode)
  | seq a b iha ihb =>
    intro next code hholds
    unfold emit at hholds ⊢
    obtain ⟨hb, ha⟩ := hholds.split (b.emit_sound next code).1.size_le (a.emit_sound _ _).1
    exact (iha _ _ ha).trans (ihb _ _ hb)
  | alt a b iha ihb =>
    intro next code hholds
    have ha := (a.emit_sound next code).1
    have hb := (b.emit_sound next (a.emit next code).2).1
    have hcode : (alt a b).emit next code = Code.add (b.emit next (a.emit next code).2).2
      (.choose true (a.emit next code).1 (b.emit next (a.emit next code).2).1) := rfl
    rw [hcode] at hholds ⊢
    obtain ⟨hboth, hsplit⟩ := Code.Holds.push hholds (Nat.le_trans ha.size_le hb.size_le)
    obtain ⟨hfirst, hsecond⟩ := hboth.split ha.size_le hb
    exact .choose hsplit (iha _ _ hfirst) (ihb _ _ hsecond)
  | repetition least most greedy sub ih =>
    cases most with
    | some most => exact bounded_means ih least most
    | none =>
      cases least with
      | zero => exact star_means ih
      | succ least => exact plus_means ih least
  | capture index sub ih => exact ih

/-- The program of a node reaches its accepting step at a place from another just if the node takes what lies between
them. -/
theorem program_leads_iff (n : Node) (input : Input) (i e : Nat) :
    n.program.Leads input e (n.program.start, i) ↔ n.Takes input i e := by
  have hvia : Via n.program input (n.Takes input) n.program.start 0 :=
    n.emit_means n.program input 0 #[.accept] fun k _ _ => rfl
  have haccepts (j : Nat) : n.program.accepts (0, j) = true := by
    have hkept := (n.emit_sound 0 #[.accept]).1.kept 0 (by decide)
    exact beq_iff_eq.2 hkept
  have hlast {k j : Nat} (h : n.program.LeadsIn input e k (0, j)) : j = e := by
    cases k with
    | zero => exact h.2
    | succ k =>
      obtain ⟨y, hy, -⟩ := h
      rw [next_of_accepts (haccepts j)] at hy
      cases hy
  constructor
  · rintro ⟨k, hk⟩
    obtain ⟨j, hj, _, -, hend⟩ := hvia.sound hk
    rwa [← hlast hend]
  · intro h
    exact hvia.complete h ⟨0, haccepts e, rfl⟩

end Node

end Transcripts.Pattern
