import Transcripts.Proofs.Pattern.Reading
import Transcripts.Proofs.Pattern.Span
import Transcripts.Proofs.Text.Boundary

/-!
# Matches that open with a text

A pattern that is written behind a text, and is no choice, only matches what starts with that text: the text
stays in front of it from its syntax over its meaning to its program, whose first steps read the text, and
which has no way around them.
-/
namespace Transcripts.Pattern

open Transcripts.Text (Basic Bytes)

/-! ## Meaning -/

/-- The node of a character that stands for itself and nothing else. -/
def charNode (c : Char) : Node := .char [(c.toNat, c.toNat)]

/-- The flags take characters as they are. -/
structure Flags.Exact (fs : Flags) : Prop where
  unicode : fs.unicode = true
  sensitive : fs.ignoreCase = false

theorem literalNode_exact {fs : Flags} (h : fs.Exact) (mode : Mode) (c : Char) :
    literalNode mode fs ⟨c, false⟩ = .ok (charNode c) := by
  simp [literalNode, Flags.fold, charNode, h.unicode, h.sensitive]

namespace Node

/-- Nodes that start with the given characters, one after the other. -/
inductive Opens : List Char → Node → Prop where
  | any (n : Node) : Opens [] n
  | last (c : Char) : Opens [c] (charNode c)
  | cons (c : Char) {cs : List Char} {n : Node} : Opens cs n → Opens (c :: cs) (.seq (charNode c) n)

theorem Opens.members_ne_nil {c : Char} {cs : List Char} {n : Node} (h : Opens (c :: cs) n) : n.members ≠ [] := by
  cases h <;> exact List.cons_ne_nil _ _

theorem Opens.branches {c : Char} {cs : List Char} {n : Node} (h : Opens (c :: cs) n) : n.branches = [n] := by
  cases h <;> rfl

theorem Opens.ofMembers_cons (c : Char) {cs : List Char} {ms : List Node} (h : Opens cs (ofMembers ms))
    (hms : ms = [] → cs = []) : Opens (c :: cs) (ofMembers (charNode c :: ms)) := by
  cases ms with
  | nil => rw [hms rfl]; exact .last c
  | cons m ms => exact .cons c h

/-- Flattening a node does not change what it starts with. -/
theorem Opens.ofMembers {cs : List Char} {n : Node} (h : Opens cs n) : Opens cs (ofMembers n.members) := by
  induction h with
  | any n => exact .any _
  | last c => exact .last c
  | @cons c cs n h ih =>
    refine ih.ofMembers_cons c fun hms => ?_
    cases cs with
    | nil => rfl
    | cons d cs => exact absurd hms h.members_ne_nil

theorem Opens.concat (c : Char) {cs : List Char} {n : Node} (h : Opens cs n) :
    Opens (c :: cs) ((charNode c).concat n) := by
  refine h.ofMembers.ofMembers_cons c fun hms => ?_
  cases cs with
  | nil => rfl
  | cons d cs => exact absurd hms h.members_ne_nil

theorem choice_singleton {n : Node} (h : n.branches = [n]) : choice [n] = n := by
  rw [choice, List.foldl_cons, List.foldl_nil, Nat.add_comm, choiceFuel, List.flatMap_singleton, h]

end Node

/-- A sequence that some characters start means a node that they start. -/
theorem alternatives_opens {mode : Mode} {fs : Flags} (hfs : fs.Exact) :
    ∀ {cs : List Char} {items : List Ast} {ns : List Node} {fs' : Flags}, cs ≠ [] →
      (Ast.concat (spelled cs ++ items)).alternatives mode fs = .ok (ns, fs') → ∃ n, ns = [n] ∧ n.Opens cs := by
  intro cs
  induction cs with
  | nil => intro items ns fs' hcs; exact absurd rfl hcs
  | cons c cs ih =>
    intro items ns fs' _ h
    have hchar : (Ast.char ⟨c, false⟩).alternatives mode fs = .ok ([charNode c], fs) := by
      simp only [Ast.alternatives, literalNode_exact hfs, bind, Except.bind]
      rfl
    cases hrest : spelled cs ++ items with
    | nil =>
      obtain rfl : cs = [] := List.map_eq_nil_iff.1 (List.append_eq_nil_iff.1 hrest).1
      rw [show spelled [c] ++ items = [.char ⟨c, false⟩] from congrArg (_ :: ·) hrest] at h
      cases hchar.symm.trans h
      exact ⟨_, rfl, .last c⟩
    | cons y ys =>
      have hseq : Ast.concat (spelled (c :: cs) ++ items) = .seq (.char ⟨c, false⟩) (Ast.concat (spelled cs ++ items)) := by
        rw [hrest, show spelled (c :: cs) ++ items = .char ⟨c, false⟩ :: y :: ys from congrArg (_ :: ·) hrest]
        rfl
      rw [hseq, Ast.alternatives, hchar] at h
      obtain ⟨⟨ms, fs''⟩, hms, h⟩ := Except.bind_eq_ok (x := (Ast.concat (spelled cs ++ items)).alternatives mode fs) h
      cases h
      rw [Node.choice_singleton (n := charNode c) rfl]
      refine ⟨_, rfl, Node.Opens.concat c ?_⟩
      cases cs with
      | nil => exact .any _
      | cons d cs =>
        obtain ⟨n, rfl, hn⟩ := ih (List.cons_ne_nil d cs) hms
        rwa [Node.choice_singleton hn.branches]

theorem node_opens {mode : Mode} {fs : Flags} (hfs : fs.Exact) {cs : List Char} {items : List Ast} {n : Node}
    (hcs : cs ≠ []) (h : (Ast.concat (spelled cs ++ items)).node mode fs = .ok n) : n.Opens cs := by
  obtain ⟨c, cs, rfl⟩ := List.exists_cons_of_ne_nil hcs
  obtain ⟨⟨ns, fs'⟩, hns, h⟩ := Except.bind_eq_ok h
  obtain ⟨m, rfl, hm⟩ := alternatives_opens hfs hcs hns
  simp only [Node.choice_singleton hm.branches] at h
  split at h
  · cases h
  · cases h
    exact hm

/-! ## Programs -/

/-- From the step at a place on, the code reads the given characters, and can do nothing else. -/
def Code.Reads (code : Code) : Nat → List Char → Prop
  | _, [] => True
  | k, c :: cs => ∃ next, code[k]? = some (.char [(c.toNat, c.toNat)] next) ∧ code.Reads next cs

theorem Code.Reads.push {code : Code} {k : Nat} {cs : List Char} (h : code.Reads k cs) (i : Inst) :
    Code.Reads (code.push i) k cs := by
  induction cs generalizing k with
  | nil => trivial
  | cons c cs ih =>
    obtain ⟨next, hk, hnext⟩ := h
    refine ⟨next, ?_, ih hnext⟩
    have hlt := (Array.getElem?_eq_some_iff.1 hk).1
    rw [Array.getElem?_push, if_neg (Nat.ne_of_lt hlt), hk]

theorem emit_reads {cs : List Char} {n : Node} (h : n.Opens cs) (next : Nat) (code : Code) :
    Code.Reads (n.emit next code).2 (n.emit next code).1 cs := by
  induction h with
  | any n => trivial
  | last c => exact ⟨next, Array.getElem?_push_size, trivial⟩
  | cons c h ih => exact ⟨_, Array.getElem?_push_size, ih.push _⟩

/-! ## Search -/

theorem mem_single {n k : Nat} : Unicode.Ranges.mem k [(n, n)] = true ↔ k = n := by
  simp [Unicode.Ranges.mem]
  omega

/-- A basic character is found where its byte stands, and takes one place. -/
theorem charAt_basic {input : Input} {i k : Nat} {c : Char} (h : input.charAt i = some (c, k)) (hc : Basic c) :
    input.toList.drop i = String.utf8EncodeChar c ++ input.toList.drop (i + 1) ∧ k = 1 := by
  obtain ⟨⟨rest, hrest⟩, rfl⟩ := Text.charAt_eq_some_iff.1 h
  rw [hc.encode_eq] at hrest ⊢
  refine ⟨?_, rfl⟩
  rw [← List.drop_drop, ← hrest]
  rfl

theorem explore_nil (p : Program) (input : Input) (fuel : Nat) (tried : Tried) :
    p.explore input fuel [] tried = (none, tried) := by
  cases fuel <;> rfl

/-- A run that starts where a text is read succeeds only if the text stands there. -/
theorem explore_reads {p : Program} {input : Input} :
    ∀ {cs : List Char} {k i fuel e : Nat} {tried : Tried}, (∀ c ∈ cs, Basic c) → i ≤ input.size →
      Code.Reads p.code k cs → (p.explore input fuel [(k, i)] tried).1 = some e →
        Text.encode cs <+: input.toList.drop i ∧ i + (Text.encode cs).length ≤ e := by
  intro cs
  induction cs with
  | nil =>
    intro k i fuel e tried _ hi _ h
    exact ⟨List.nil_prefix, (explore_mem (List.forall_mem_singleton.2 ⟨Nat.le_refl i, hi⟩) h).1⟩
  | cons c cs ih =>
    intro k i fuel e tried hcs hi hreads h
    obtain ⟨next, hk, hnext⟩ := hreads
    have hc : Basic c := hcs c List.mem_cons_self
    cases fuel with
    | zero => cases h
    | succ fuel =>
      have haccepts : p.accepts (k, i) = false := by rw [Program.accepts, hk]; rfl
      rw [Program.explore, haccepts, if_neg Bool.false_ne_true, List.append_nil] at h
      split at h
      · rw [explore_nil] at h; cases h
      -- the only way on reads the first character
      · simp only [Program.next, hk] at h
        split at h
        · rw [explore_nil] at h; cases h
        · rename_i d len hd
          split at h
          · rename_i hmem
            obtain rfl : d = c := Char.toNat_inj.1 (mem_single.1 hmem)
            have hsize := (charAt_length hi hd).2
            obtain ⟨hdrop, rfl⟩ := charAt_basic hd hc
            obtain ⟨hrest, hle⟩ := ih (fun x hx => hcs x (List.mem_cons_of_mem _ hx)) hsize hnext h
            have hcons : Text.encode (d :: cs) = String.utf8EncodeChar d ++ Text.encode cs := rfl
            refine ⟨?_, ?_⟩
            · rw [hcons, hdrop]
              exact (List.prefix_append_right_inj _).2 hrest
            · rw [hcons, List.length_append, hc.encode_eq, List.length_singleton, ← Nat.add_assoc]
              exact hle
          · rw [explore_nil] at h; cases h

/-! ## Patterns for output -/

/-- A pattern that compiles has one meaning, and its program is made of it. -/
theorem Regex.compile_eq_ok {mode : Mode} {fs : Flags} {source : String} {r : Regex} (h : compile mode fs source = .ok r) :
    ∃ n, (read source.toList >>= Ast.node mode fs) = .ok n ∧ r = ⟨mode, n.program⟩ := by
  obtain ⟨a, ha, h⟩ := Except.bind_eq_ok h
  obtain ⟨n, hn, h⟩ := Except.bind_eq_ok h
  cases h
  exact ⟨n, (Except.bind_of_eq_ok ha).trans hn, rfl⟩

/-- **A pattern behind a text** only matches what starts with the text, unless it is a choice. -/
theorem Regex.output_opens {pre text : String} {a : Ast} {r : Regex} (hne : pre.toList ≠ [])
    (hpre : ∀ c ∈ pre.toList, isPlain c = true ∧ Basic c) (ha : read text.toList = .ok a)
    (hone : ∀ x y, a ≠ .alt x y) (hr : Regex.output (pre ++ text) = .ok r) {bs : Bytes} {s e : Nat}
    (h : r.find bs = some (s, e)) : Text.bytes pre <+: (bs.take e).drop s := by
  obtain ⟨n, hn, rfl⟩ := Regex.compile_eq_ok hr
  obtain ⟨b, hb, hn⟩ := Except.bind_eq_ok hn
  rw [String.toList_append] at hb
  obtain ⟨items, rfl⟩ := read_behind_single (fun c hc => (hpre c hc).1) ha hb hone
  have hopens : n.Opens pre.toList := node_opens ⟨rfl, rfl⟩ hne hn
  obtain ⟨hs, before, hm⟩ := Regex.find_matchAt h
  have hmem := Regex.find_mem h
  have hreads : Code.Reads n.program.code n.program.start pre.toList := emit_reads hopens 0 _
  obtain ⟨hstands, hle⟩ := explore_reads (fun c hc => (hpre c hc).2)
    (by rwa [Input.ofBytes, List.size_toArray]) hreads hm
  rw [List.drop_take, List.prefix_take_iff]
  exact ⟨hstands, by rw [Text.bytes]; omega⟩

end Transcripts.Pattern
