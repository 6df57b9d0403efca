import Mathlib.Data.Finset.Card
import Mathlib.Order.Interval.Finset.Nat
import Transcripts.Proofs.Pattern.Compiled

/-!
# A search misses nothing

The points that a search has tried lead on to tried points or to points that it still holds, and none of them
accepts (`Settled`).  Each round of the search gives up a point that it holds or tries one more, so the rounds that
it is given are enough to come to the end, and an accepting step that can be reached is reached (`explore_none`).  This
is so for any start, with the points in hand that earlier starts have tried: a pattern matches in a text just if it
takes some part of it (`matchesIn_iff`).
-/
namespace Transcripts.Pattern

variable {p : Program} {input : Input}

theorem pointKey_inj {x y : Point} (hx : x.2 ≤ input.size) (hy : y.2 ≤ input.size)
    (h : pointKey input x = pointKey input y) : x = y := by
  unfold pointKey at h
  have hdiv (z : Point) (hz : z.2 ≤ input.size) : (z.1 * (input.size + 1) + z.2) / (input.size + 1) = z.1 := by
    rw [Nat.mul_comm, Nat.mul_add_div (Nat.succ_pos _), Nat.div_eq_of_lt (Nat.lt_succ_of_le hz), Nat.add_zero]
  have hstep : x.1 = y.1 := by rw [← hdiv x hx, h, hdiv y hy]
  rw [hstep] at h
  exact Prod.ext hstep (Nat.add_left_cancel h)

/-! ## What was tried -/

/-- A point was tried before. -/
def Done (input : Input) (tried : Tried) (x : Point) : Prop := tried.contains (pointKey input x) = true

/-- Tried points do not accept, and lead to tried points or to those of the stack. -/
def Settled (p : Program) (input : Input) (stack : List Point) (tried : Tried) : Prop :=
  ∀ x : Point, x.2 ≤ input.size → Done input tried x →
    p.accepts x = false ∧ ∀ y ∈ p.next input x, Done input tried y ∨ y ∈ stack

theorem done_insert {tried : Tried} {x y : Point} (hx : x.2 ≤ input.size) (hy : y.2 ≤ input.size) :
    Done input (tried.insert (pointKey input x)) y ↔ x = y ∨ Done input tried y := by
  unfold Done
  rw [Std.TreeSet.contains_insert, Bool.or_eq_true, beq_iff_eq, Nat.compare_eq_eq]
  exact or_congr_left ⟨pointKey_inj hx hy, fun h => by rw [h]⟩

theorem Done.insert {tried : Tried} {y : Point} (h : Done input tried y) (key : Nat) :
    Done input (tried.insert key) y := by
  unfold Done at h ⊢
  rw [Std.TreeSet.contains_insert, h, Bool.or_true]

/-- No accepting step is reached from a tried point once nothing is left on the stack. -/
theorem Settled.not_leads {tried : Tried} (h : Settled p input [] tried) {x : Point} (hx : x.2 ≤ input.size)
    (hdone : Done input tried x) (e : Nat) : ¬ p.Leads input e x := by
  rintro ⟨k, hk⟩
  induction k generalizing x with
  | zero =>
    rw [Program.LeadsIn, (h x hx hdone).1] at hk
    cases hk.1
  | succ k ih =>
    obtain ⟨y, hy, hk⟩ := hk
    rcases (h x hx hdone).2 y hy with hy' | hy'
    · exact ih (next_mem hx hy).2 hy' hk
    · cases hy'

/-- A point that was tried need not be held. -/
theorem Settled.pop {stack : List Point} {tried : Tried} {x : Point} (h : Settled p input (x :: stack) tried)
    (hdone : Done input tried x) : Settled p input stack tried := by
  intro y hy hy'
  refine ⟨(h y hy hy').1, fun z hz => ?_⟩
  rcases (h y hy hy').2 z hz with hz' | hz'
  · exact .inl hz'
  · rcases List.mem_cons.1 hz' with rfl | hz'
    · exact .inl hdone
    · exact .inr hz'

/-- Trying a point. -/
theorem Settled.insert {stack : List Point} {tried : Tried} {x : Point} (h : Settled p input (x :: stack) tried)
    (hx : x.2 ≤ input.size) (haccepts : p.accepts x = false) :
    Settled p input (p.next input x ++ stack) (tried.insert (pointKey input x)) := by
  intro y hy hy'
  rcases (done_insert hx hy).1 hy' with rfl | hy'
  · exact ⟨haccepts, fun z hz => .inr (List.mem_append_left stack hz)⟩
  · refine ⟨(h y hy hy').1, fun z hz => ?_⟩
    rcases (h y hy hy').2 z hz with hz' | hz'
    · exact .inl (hz'.insert _)
    · rcases List.mem_cons.1 hz' with rfl | hz'
      · exact .inl ((done_insert hx (next_mem hy hz).2).2 (.inl rfl))
      · exact .inr (List.mem_append_right _ hz')

/-! ## Rounds that are left -/

/-- How many points in the program were not tried. -/
def untried (p : Program) (input : Input) (tried : Tried) : Nat :=
  ((Finset.range (p.code.size * (input.size + 1))).filter fun key => tried.contains key = false).card

theorem untried_le (p : Program) (input : Input) (tried : Tried) :
    untried p input tried ≤ p.code.size * (input.size + 1) := by
  have h := Finset.card_filter_le (Finset.range (p.code.size * (input.size + 1))) fun key => tried.contains key = false
  rwa [Finset.card_range] at h

theorem not_contains_of_insert {tried : Tried} {key k : Nat} (h : (tried.insert key).contains k = false) :
    key ≠ k ∧ tried.contains k = false := by
  rw [Std.TreeSet.contains_insert, Bool.or_eq_false_iff, beq_eq_false_iff_ne, Ne, Nat.compare_eq_eq] at h
  exact h

theorem untried_insert_le (tried : Tried) (key : Nat) : untried p input (tried.insert key) ≤ untried p input tried :=
  Finset.card_le_card (Finset.monotone_filter_right _ fun _ _ hk => (not_contains_of_insert hk).2)

/-- Trying a point of the program leaves fewer untried. -/
theorem untried_insert_lt {tried : Tried} {x : Point} (hx : x.2 ≤ input.size) (hlt : x.1 < p.code.size)
    (hnew : ¬ Done input tried x) :
    untried p input (tried.insert (pointKey input x)) < untried p input tried := by
  have hkey : pointKey input x < p.code.size * (input.size + 1) := by
    have hrow : (x.1 + 1) * (input.size + 1) ≤ p.code.size * (input.size + 1) := Nat.mul_le_mul_right _ hlt
    rw [Nat.succ_mul] at hrow
    unfold pointKey
    omega
  refine Finset.card_lt_card ⟨Finset.monotone_filter_right _ fun _ _ hk => (not_contains_of_insert hk).2, fun hsub => ?_⟩
  have hmem := hsub (Finset.mem_filter.2 ⟨Finset.mem_range.2 hkey, Bool.eq_false_iff.2 hnew⟩)
  exact (not_contains_of_insert (Finset.mem_filter.1 hmem).2).1 rfl

theorem next_length_le (p : Program) (input : Input) (x : Point) : (p.next input x).length ≤ 2 := by
  unfold Program.next
  split
  · simp
  · simp
  · simp
  · split
    · simp
    · split <;> simp
  · split
    · simp
    · split <;> simp
  · split <;> simp
  · simp

theorem next_of_size_le {x : Point} (h : p.code.size ≤ x.1) : p.next input x = [] := by
  unfold Program.next
  rw [Array.getElem?_eq_none h]

/-- What the rest of a search may still cost; each round takes at least one off it. -/
def budget (p : Program) (input : Input) (stack : List Point) (tried : Tried) : Nat :=
  2 * untried p input tried + stack.length

theorem budget_insert_lt {stack : List Point} {tried : Tried} {x : Point} (hx : x.2 ≤ input.size)
    (hnew : ¬ Done input tried x) :
    budget p input (p.next input x ++ stack) (tried.insert (pointKey input x)) < budget p input (x :: stack) tried := by
  unfold budget
  rw [List.length_append, List.length_cons]
  by_cases hlt : x.1 < p.code.size
  · have hless := untried_insert_lt hx hlt hnew
    have htwo := next_length_le p input x
    omega
  · have hsame : untried p input _ ≤ _ := untried_insert_le tried (pointKey input x)
    rw [next_of_size_le (Nat.le_of_not_lt hlt), List.length_nil]
    omega

/-! ## One start -/

/-- What a search reaches can be reached. -/
theorem explore_some {fuel : Nat} {stack : List Point} {tried : Tried} {e : Nat}
    (h : (p.explore input fuel stack tried).1 = some e) : ∃ x ∈ stack, p.Leads input e x := by
  -- where a point that is held later leads, one of the first points leads
  have hnext : ∀ y, (p.Leads input e y → ∃ x ∈ stack, p.Leads input e x) →
      ∀ z ∈ p.next input y, p.Leads input e z → ∃ x ∈ stack, p.Leads input e x :=
    fun _ hy _ hz hleads => hy (hleads.of_next hz)
  obtain ⟨k, he, haccepts⟩ := explore_invariant hnext (fun x hx hleads => ⟨x, hx, hleads⟩) h
  exact he ⟨0, haccepts, rfl⟩

/-- **A search that reaches nothing** has tried all that it held, and all to which that leads. -/
theorem explore_none {fuel : Nat} {stack : List Point} {tried : Tried} (hstack : ∀ x ∈ stack, x.2 ≤ input.size)
    (hsettled : Settled p input stack tried) (hfuel : budget p input stack tried < fuel)
    (h : (p.explore input fuel stack tried).1 = none) :
    Settled p input [] (p.explore input fuel stack tried).2 ∧
      (∀ x ∈ stack, Done input (p.explore input fuel stack tried).2 x) ∧
      ∀ x, Done input tried x → Done input (p.explore input fuel stack tried).2 x := by
  induction fuel generalizing stack tried with
  | zero => cases hfuel
  | succ fuel ih =>
    cases stack with
    | nil => exact ⟨hsettled, nofun, fun _ hx => hx⟩
    | cons x stack =>
      have hx := hstack x List.mem_cons_self
      have hrest : ∀ y ∈ stack, y.2 ≤ input.size := fun y hy => hstack y (List.mem_cons_of_mem x hy)
      simp only [Program.explore] at h ⊢
      split at h
      · rename_i hdone
        rw [if_pos hdone]
        have hless : budget p input stack tried < fuel := Nat.lt_of_succ_lt_succ hfuel
        obtain ⟨hsettled', hall, hmono⟩ := ih hrest (hsettled.pop hdone) hless h
        exact ⟨hsettled', List.forall_mem_cons.2 ⟨hmono x hdone, hall⟩, hmono⟩
      · rename_i hnew
        rw [if_neg hnew]
        split at h
        · cases h
        · rename_i haccepts
          rw [if_neg haccepts]
          have hless : budget p input (p.next input x ++ stack) _ < fuel :=
            Nat.lt_of_lt_of_le (budget_insert_lt hx hnew) (Nat.le_of_lt_succ hfuel)
          have hstack' : ∀ y ∈ p.next input x ++ stack, y.2 ≤ input.size := by
            intro y hy
            rcases List.mem_append.1 hy with hy | hy
            · exact (next_mem hx hy).2
            · exact hrest y hy
          obtain ⟨hsettled', hall, hmono⟩ := ih hstack' (hsettled.insert hx (by simpa using haccepts)) hless h
          refine ⟨hsettled', List.forall_mem_cons.2 ⟨?_, fun y hy => hall y (List.mem_append_right _ hy)⟩,
            fun y hy => hmono y (hy.insert _)⟩
          exact hmono x ((done_insert hx hx).2 (.inl rfl))

theorem budget_start_lt (tried : Tried) (i : Nat) : budget p input [(p.start, i)] tried < p.rounds input := by
  have h := untried_le p input tried
  unfold budget Program.rounds
  rw [List.length_singleton, Nat.mul_assoc, Nat.add_mul, Nat.one_mul]
  omega

/-! ## All starts -/

theorem searchFrom_some {starts : Nat → Bool} {n i s e : Nat} {tried : Tried}
    (h : p.searchFrom input starts n i tried = some (s, e)) :
    s < i + n ∧ starts s = true ∧ p.Leads input e (p.start, s) := by
  obtain ⟨hs, hstarts, before, hm⟩ := searchFrom_matchAt h
  obtain ⟨x, hx, hleads⟩ := explore_some hm
  rw [List.mem_singleton.1 hx] at hleads
  exact ⟨hs, hstarts, hleads⟩

/-- A start from which nothing is reached leaves behind what it has tried. -/
theorem matchAt_none {i : Nat} {tried : Tried} (hsettled : Settled p input [] tried) (hi : i ≤ input.size)
    (h : (p.matchAt input i tried).1 = none) :
    Settled p input [] (p.matchAt input i tried).2 ∧ ∀ e, ¬ p.Leads input e (p.start, i) := by
  have hstack : ∀ x ∈ [(p.start, i)], x.2 ≤ input.size := List.forall_mem_singleton.2 hi
  have hheld : Settled p input [(p.start, i)] tried := by
    intro x hx hdone
    refine ⟨(hsettled x hx hdone).1, fun y hy => .inl ?_⟩
    exact ((hsettled x hx hdone).2 y hy).resolve_right List.not_mem_nil
  obtain ⟨hsettled', hall, -⟩ := explore_none hstack hheld (budget_start_lt tried i) h
  exact ⟨hsettled', hsettled'.not_leads hi (hall _ List.mem_cons_self)⟩

/-- Nothing is reached from the starts before the one that is found, and from none if none is found. -/
theorem searchFrom_passes {starts : Nat → Bool} {n i j : Nat} {tried : Tried} (hsettled : Settled p input [] tried)
    (hn : i + n ≤ input.size + 1) (hi : i ≤ j) (hj : j < i + n)
    (hbefore : ∀ s e, p.searchFrom input starts n i tried = some (s, e) → j < s) (hstarts : starts j = true) (e : Nat) :
    ¬ p.Leads input e (p.start, j) := by
  induction n generalizing i tried with
  | zero => omega
  | succ n ih =>
    simp only [Program.searchFrom] at hbefore
    by_cases hfirst : starts i = true
    · simp only [hfirst, if_true] at hbefore
      cases hm : p.matchAt input i tried with
      | mk found tried' =>
        simp only [hm] at hbefore
        cases found with
        | some e' => exact absurd (hbefore i e' rfl) (Nat.not_lt.2 hi)
        | none =>
          obtain ⟨hsettled', hnone⟩ := matchAt_none hsettled (by omega) (congrArg Prod.fst hm)
          rw [hm] at hsettled'
          rcases Nat.eq_or_lt_of_le hi with rfl | hlt
          · exact hnone e
          · exact ih hsettled' (by omega) hlt (by omega) hbefore
    · simp only [hfirst] at hbefore
      rcases Nat.eq_or_lt_of_le hi with rfl | hlt
      · exact absurd hstarts hfirst
      · exact ih hsettled (by omega) hlt (by omega) hbefore

/-- At first nothing was tried. -/
theorem settled_empty (p : Program) (input : Input) : Settled p input [] {} := by
  intro x _ hdone
  rw [Done, Std.TreeSet.contains_emptyc] at hdone
  cases hdone

/-- **A search finds the first start** from which an accepting step is reached, and a place where it is. -/
theorem search_eq_some {starts : Nat → Bool} {s e : Nat} (h : p.search input starts 0 = some (s, e)) :
    s ≤ input.size ∧ starts s = true ∧ p.Leads input e (p.start, s) ∧
      ∀ i < s, starts i = true → ∀ e', ¬ p.Leads input e' (p.start, i) := by
  obtain ⟨hs, hstarts, hleads⟩ := searchFrom_some h
  refine ⟨by omega, hstarts, hleads, fun i hi hstart e' => ?_⟩
  refine searchFrom_passes (settled_empty p input) (by omega : 0 + (input.size + 1 - 0) ≤ _) (Nat.zero_le i) (by omega)
    (fun s' e'' h' => ?_) hstart e'
  cases h.symm.trans h'
  exact hi

/-- **A search finds nothing** just if no accepting step is reached from any of its starts. -/
theorem search_eq_none {starts : Nat → Bool} :
    p.search input starts 0 = none ↔ ∀ i ≤ input.size, starts i = true → ∀ e, ¬ p.Leads input e (p.start, i) := by
  constructor
  · intro h i hi hstart
    refine searchFrom_passes (settled_empty p input) (by omega : 0 + (input.size + 1 - 0) ≤ _) (Nat.zero_le i) (by omega)
      (fun s e h' => ?_) hstart
    cases h.symm.trans h'
  · intro h
    cases hfound : p.search input starts 0 with
    | none => rfl
    | some found =>
      obtain ⟨hs, hstarts, hleads, -⟩ := search_eq_some hfound
      exact absurd hleads (h _ hs hstarts _)

/-- **A pattern matches in a text** just if it takes some part of it that starts between two characters. -/
theorem Regex.matchesIn_iff {source : String} {r : Regex} {n : Node} (hr : Regex.text source = .ok r)
    (hn : (read source.toList >>= Ast.node .text {}) = .ok n) (cs : List Char) :
    r.matchesIn cs = true ↔ ∃ i ≤ (Text.encode cs).length, ∃ j,
      (Input.ofBytes (Text.encode cs)).isBoundary i = true ∧ n.Takes (Input.ofBytes (Text.encode cs)) i j := by
  obtain ⟨m, hm, rfl⟩ := compile_eq_ok hr
  cases hm.symm.trans hn
  unfold matchesIn find findFrom
  rw [Option.isSome_iff_ne_none, Ne, search_eq_none]
  simp only [Node.program_leads_iff, starts, Input.ofBytes, List.size_toArray, not_forall, not_not, exists_prop]
  constructor
  · rintro ⟨i, hi, hstarts, j, hj⟩
    exact ⟨i, hi, j, hstarts, hj⟩
  · rintro ⟨i, hi, j, hstarts, hj⟩
    exact ⟨i, hi, hstarts, j, hj⟩

/-! ## Patterns for output -/

namespace Regex

/-- A pattern for output can match what lies between two places of some bytes. -/
def Matches (source : String) (bs : Text.Bytes) (i j : Nat) : Prop :=
  ∃ n, (read source.toList >>= Ast.node .bytes { dotAll := true }) = .ok n ∧ i ≤ bs.length ∧
    n.Takes (Input.ofBytes bs) i j

/-- A pattern that compiles has one meaning, and its program is made of it. -/
theorem output_eq_ok {source : String} {r : Regex} (hr : output source = .ok r) :
    ∃ n, (read source.toList >>= Ast.node .bytes { dotAll := true }) = .ok n ∧ r = ⟨.bytes, n.program⟩ ∧
      ∀ bs i j, Matches source bs i j ↔ i ≤ bs.length ∧ n.Takes (Input.ofBytes bs) i j := by
  obtain ⟨n, hn, rfl⟩ := compile_eq_ok hr
  refine ⟨n, hn, rfl, fun bs i j => ⟨?_, fun h => ⟨n, hn, h⟩⟩⟩
  rintro ⟨m, hm, h⟩
  cases hn.symm.trans hm
  exact h

/-- **A pattern finds nothing** just if it matches nowhere. -/
theorem find_eq_none_iff {source : String} {r : Regex} (hr : output source = .ok r) {bs : Text.Bytes} :
    r.find bs = none ↔ ∀ i j, ¬ Matches source bs i j := by
  obtain ⟨n, -, rfl, hmatches⟩ := output_eq_ok hr
  unfold find findFrom
  rw [search_eq_none]
  simp only [Node.program_leads_iff, starts, Input.ofBytes, List.size_toArray, forall_true_left, hmatches, not_and]
  exact ⟨fun h i j hi => h i hi j, fun h i hi j => h i j hi⟩

/-- **A pattern finds its leftmost match**: a match, from the first place where one starts. -/
theorem find_leftmost {source : String} {r : Regex} (hr : output source = .ok r) {bs : Text.Bytes} {s e : Nat}
    (h : r.find bs = some (s, e)) : Matches source bs s e ∧ ∀ i < s, ∀ j, ¬ Matches source bs i j := by
  obtain ⟨n, -, rfl, hmatches⟩ := output_eq_ok hr
  unfold find findFrom at h
  obtain ⟨hs, -, hleads, hfirst⟩ := search_eq_some h
  simp only [Node.program_leads_iff, starts, Input.ofBytes, List.size_toArray, forall_true_left] at hs hleads hfirst
  exact ⟨(hmatches bs s e).2 ⟨hs, hleads⟩, fun i hi j hm => hfirst i hi j ((hmatches bs i j).1 hm).2⟩

end Regex

end Transcripts.Pattern
