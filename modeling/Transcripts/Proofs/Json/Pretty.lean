import Mathlib.Data.List.DropRight
import Transcripts.Proofs.Json.Strings

/-!
# Values over several lines

What is written for a value over several lines, each with its indentation, is read back as that value
(`parse_pretty`).  Blanks between the tokens say nothing (`readValue_skipSpace`), and what is written for a value is
fuel enough for reading it.  Numbers are left out: they are printed with the digits that they were given, and a
document of texts has none.
-/
namespace Transcripts.Json

/-- A value in which no number occurs. -/
inductive NumberFree : Json → Prop where
  | null : NumberFree .null
  | bool (b : Bool) : NumberFree (.bool b)
  | string (s : String) : NumberFree (.string s)
  | array {items : List Json} : (∀ v ∈ items, NumberFree v) → NumberFree (.array items)
  | object {members : List (String × Json)} : (∀ m ∈ members, NumberFree m.2) → NumberFree (.object members)

/-! ## Blanks -/

theorem skipSpace_cons {c : Char} (h : isSpace c = false) (cs : List Char) : skipSpace (c :: cs) = c :: cs := by
  simp [skipSpace, h]

theorem skipSpace_skipSpace (cs : List Char) : skipSpace (skipSpace cs) = skipSpace cs :=
  List.dropWhile_idempotent isSpace cs

theorem skipSpace_feed (cs : List Char) : skipSpace ('\n' :: cs) = skipSpace cs := rfl

theorem skipSpace_indent (depth : Nat) (cs : List Char) : skipSpace (indent depth ++ cs) = skipSpace cs :=
  List.dropWhile_append_of_pos fun c hc => by
    rw [List.eq_of_mem_replicate hc]
    rfl

/-- A line feed and the indentation of the next line. -/
theorem skipSpace_newline (depth : Nat) (cs : List Char) : skipSpace ('\n' :: (indent depth ++ cs)) = skipSpace cs := by
  rw [skipSpace_feed, skipSpace_indent]

theorem readValue_skipSpace (fuel : Nat) (cs : List Char) : readValue fuel (skipSpace cs) = readValue fuel cs := by
  cases fuel with
  | zero => rfl
  | succ fuel => rw [readValue, readValue, skipSpace_skipSpace]

theorem readItems_skipSpace (fuel : Nat) (cs : List Char) : readItems fuel (skipSpace cs) = readItems fuel cs := by
  cases fuel with
  | zero => rfl
  | succ fuel => rw [readItems, readItems, readValue_skipSpace]

theorem readMembers_skipSpace (fuel : Nat) (cs : List Char) : readMembers fuel (skipSpace cs) = readMembers fuel cs := by
  cases fuel with
  | zero => rfl
  | succ fuel => rw [readMembers, readMembers, skipSpace_skipSpace]

theorem readValue_space (fuel : Nat) (cs : List Char) : readValue fuel (' ' :: cs) = readValue fuel cs := by
  rw [← readValue_skipSpace, ← readValue_skipSpace fuel cs]
  rfl

theorem readItems_indent (fuel depth : Nat) (cs : List Char) : readItems fuel (indent depth ++ cs) = readItems fuel cs := by
  rw [← readItems_skipSpace, skipSpace_indent, readItems_skipSpace]

theorem readItems_feed (fuel : Nat) (cs : List Char) : readItems fuel ('\n' :: cs) = readItems fuel cs := by
  rw [← readItems_skipSpace, skipSpace_feed, readItems_skipSpace]

theorem readMembers_indent (fuel depth : Nat) (cs : List Char) :
    readMembers fuel (indent depth ++ cs) = readMembers fuel cs := by
  rw [← readMembers_skipSpace, skipSpace_indent, readMembers_skipSpace]

theorem readMembers_feed (fuel : Nat) (cs : List Char) : readMembers fuel ('\n' :: cs) = readMembers fuel cs := by
  rw [← readMembers_skipSpace, skipSpace_feed, readMembers_skipSpace]

/-! ## Single values -/

/-- What is written for a value starts with no blank, and not with a closing bracket. -/
theorem pretty_eq_cons {v : Json} (h : NumberFree v) (depth : Nat) :
    ∃ c cs, v.pretty depth = c :: cs ∧ isSpace c = false ∧ c ≠ ']' := by
  cases h with
  | null => exact ⟨'n', _, rfl, rfl, by decide⟩
  | bool b =>
    cases b with
    | false => exact ⟨'f', _, rfl, rfl, by decide⟩
    | true => exact ⟨'t', _, rfl, rfl, by decide⟩
  | string s => exact ⟨'"', _, rfl, rfl, by decide⟩
  | @array items _ =>
    cases items with
    | nil => exact ⟨'[', _, rfl, rfl, by decide⟩
    | cons v rest => exact ⟨'[', _, rfl, rfl, by decide⟩
  | @object members _ =>
    cases members with
    | nil => exact ⟨'\x7b', _, rfl, rfl, by decide⟩
    | cons m rest => exact ⟨'\x7b', _, rfl, rfl, by decide⟩

theorem readValue_printString (fuel : Nat) (s : String) (tail : List Char) :
    readValue (fuel + 1) (printString s ++ tail) = some (.string s, tail) := by
  rw [printString_append, readValue, skipSpace_cons rfl]
  simp only [readString_flatMap, List.reverse_nil, List.nil_append, Option.map_some, String.ofList_toList]

theorem readValue_array {fuel : Nat} {body : List Char} (h : ∀ rest, skipSpace body ≠ ']' :: rest) :
    readValue (fuel + 1) ('[' :: body) = (readItems fuel body).map fun (items, rest) => (.array items, rest) := by
  rw [readValue, skipSpace_cons rfl]
  simp only [readItems_skipSpace]

theorem readValue_object {fuel : Nat} {body : List Char} (h : ∀ rest, skipSpace body ≠ '\x7d' :: rest) :
    readValue (fuel + 1) ('\x7b' :: body) = (readMembers fuel body).map fun (members, rest) => (.object members, rest) := by
  rw [readValue, skipSpace_cons rfl]
  simp only [readMembers_skipSpace]

/-! ## Items and members -/

section
variable {fuel : Nat} {v : Json} {name : String} {cs rest after tail : List Char}

theorem readItems_last (hv : readValue fuel cs = some (v, rest)) (hclose : skipSpace rest = ']' :: tail) :
    readItems (fuel + 1) cs = some ([v], tail) := by
  rw [readItems, hv]
  simp only [Option.bind_eq_bind, Option.bind_some, hclose, Option.pure_def]

theorem readItems_more {items : List Json} (hv : readValue fuel cs = some (v, rest))
    (hcomma : skipSpace rest = ',' :: after) (hitems : readItems fuel after = some (items, tail)) :
    readItems (fuel + 1) cs = some (v :: items, tail) := by
  rw [readItems, hv]
  simp only [Option.bind_eq_bind, Option.bind_some, hcomma, hitems, Option.pure_def]

theorem readMembers_name (cs : List Char) : skipSpace (printString name ++ ':' :: cs) =
    '"' :: (name.toList.flatMap printChar ++ '"' :: ':' :: cs) := by
  rw [printString_append, skipSpace_cons rfl]

theorem readMembers_last (hv : readValue fuel cs = some (v, rest)) (hclose : skipSpace rest = '\x7d' :: tail) :
    readMembers (fuel + 1) (printString name ++ ':' :: cs) = some ([(name, v)], tail) := by
  have hcolon : skipSpace (':' :: cs) = ':' :: cs := rfl
  rw [readMembers, readMembers_name]
  simp only [readString_flatMap, List.reverse_nil, List.nil_append, Option.bind_eq_bind, Option.bind_some, hcolon, hv,
    hclose, Option.pure_def, String.ofList_toList]

theorem readMembers_more {members : List (String × Json)} (hv : readValue fuel cs = some (v, rest))
    (hcomma : skipSpace rest = ',' :: after) (hmembers : readMembers fuel after = some (members, tail)) :
    readMembers (fuel + 1) (printString name ++ ':' :: cs) = some ((name, v) :: members, tail) := by
  have hcolon : skipSpace (':' :: cs) = ':' :: cs := rfl
  rw [readMembers, readMembers_name]
  simp only [readString_flatMap, List.reverse_nil, List.nil_append, Option.bind_eq_bind, Option.bind_some, hcolon, hv,
    hcomma, hmembers, Option.pure_def, String.ofList_toList]

end

/-- A value is read back from what is written for it, whatever follows. -/
def ReadBack (v : Json) : Prop :=
  ∀ depth fuel tail, (v.pretty depth).length ≤ fuel → readValue fuel (v.pretty depth ++ tail) = some (v, tail)

theorem prettyItems_cons_cons (depth : Nat) (v w : Json) (items : List Json) : prettyItems depth (v :: w :: items) =
    indent depth ++ (v.pretty depth ++ ',' :: '\n' :: prettyItems depth (w :: items)) := by
  simp [prettyItems]

theorem prettyMembers_singleton (depth : Nat) (name : String) (v : Json) : prettyMembers depth [(name, v)] =
    indent depth ++ (printString name ++ ':' :: ' ' :: v.pretty depth) := by
  simp [prettyMembers]

theorem prettyMembers_cons_cons (depth : Nat) (name : String) (v : Json) (m : String × Json)
    (members : List (String × Json)) : prettyMembers depth ((name, v) :: m :: members) =
    indent depth ++ (printString name ++ ':' :: ' ' :: (v.pretty depth ++ ',' :: '\n' ::
      prettyMembers depth (m :: members))) := by
  simp [prettyMembers]

/-- Items on lines of their own, and the closing bracket on the next line. -/
theorem readItems_pretty (depth outer : Nat) (tail : List Char) (items : List Json) (fuel : Nat) (hne : items ≠ [])
    (hback : ∀ v ∈ items, ReadBack v) (hfuel : (prettyItems depth items).length < fuel) :
    readItems fuel (prettyItems depth items ++ '\n' :: (indent outer ++ ']' :: tail)) = some (items, tail) := by
  induction items generalizing fuel with
  | nil => exact absurd rfl hne
  | cons v items ih =>
    obtain ⟨fuel, rfl⟩ : ∃ n, fuel = n + 1 := ⟨fuel - 1, by omega⟩
    have hv := hback v List.mem_cons_self depth fuel
    cases items with
    | nil =>
      simp only [prettyItems, List.length_append] at hfuel
      rw [prettyItems, List.append_assoc, readItems_indent]
      refine readItems_last (hv _ (by omega)) ?_
      rw [skipSpace_newline, skipSpace_cons rfl]
    | cons w items =>
      simp only [prettyItems_cons_cons, List.length_append, List.length_cons] at hfuel
      have hrest := ih fuel (List.cons_ne_nil _ _) (fun x hx => hback x (List.mem_cons_of_mem _ hx)) (by omega)
      simp only [prettyItems_cons_cons, List.append_assoc, List.cons_append, readItems_indent]
      refine readItems_more (hv _ (by omega)) (skipSpace_cons rfl _) ?_
      rw [readItems_feed, hrest]

/-- Members on lines of their own, and the closing brace on the next line. -/
theorem readMembers_pretty (depth outer : Nat) (tail : List Char) (members : List (String × Json)) (fuel : Nat)
    (hne : members ≠ []) (hback : ∀ m ∈ members, ReadBack m.2) (hfuel : (prettyMembers depth members).length < fuel) :
    readMembers fuel (prettyMembers depth members ++ '\n' :: (indent outer ++ '\x7d' :: tail)) =
      some (members, tail) := by
  induction members generalizing fuel with
  | nil => exact absurd rfl hne
  | cons m members ih =>
    obtain ⟨name, v⟩ := m
    obtain ⟨fuel, rfl⟩ : ∃ n, fuel = n + 1 := ⟨fuel - 1, by omega⟩
    have hv (cs : List Char) (h : (v.pretty depth).length ≤ fuel) :
        readValue fuel (' ' :: (v.pretty depth ++ cs)) = some (v, cs) := by
      rw [readValue_space]
      exact hback (name, v) List.mem_cons_self depth fuel cs h
    cases members with
    | nil =>
      simp only [prettyMembers_singleton, List.length_append, List.length_cons] at hfuel
      simp only [prettyMembers_singleton, List.append_assoc, List.cons_append, readMembers_indent]
      refine readMembers_last (hv _ (by omega)) ?_
      rw [skipSpace_newline, skipSpace_cons rfl]
    | cons m members =>
      simp only [prettyMembers_cons_cons, List.length_append, List.length_cons] at hfuel
      have hrest := ih fuel (List.cons_ne_nil _ _) (fun x hx => hback x (List.mem_cons_of_mem _ hx)) (by omega)
      simp only [prettyMembers_cons_cons, List.append_assoc, List.cons_append, readMembers_indent]
      refine readMembers_more (hv _ (by omega)) (skipSpace_cons rfl _) ?_
      rw [readMembers_feed, hrest]

/-! ## Documents -/

/-- The items on their lines start with the first item. -/
theorem skipSpace_prettyItems {items : List Json} (hne : items ≠ []) (hfree : ∀ v ∈ items, NumberFree v) (depth : Nat)
    (tail rest : List Char) : skipSpace (prettyItems depth items ++ tail) ≠ ']' :: rest := by
  obtain ⟨v, items, rfl⟩ := List.exists_cons_of_ne_nil hne
  obtain ⟨c, cs, hv, hspace, hclose⟩ := pretty_eq_cons (hfree v List.mem_cons_self) depth
  cases items <;> simp [prettyItems, skipSpace_indent, hv, skipSpace_cons hspace, hclose]

theorem skipSpace_prettyMembers {members : List (String × Json)} (hne : members ≠ []) (depth : Nat)
    (tail rest : List Char) : skipSpace (prettyMembers depth members ++ tail) ≠ '\x7d' :: rest := by
  obtain ⟨⟨name, v⟩, members, rfl⟩ := List.exists_cons_of_ne_nil hne
  have hquote : isSpace '"' = false := rfl
  cases members <;> simp [prettyMembers, skipSpace_indent, printString, skipSpace_cons hquote]

theorem expect_append (key tail : List Char) : expect key (key ++ tail) = some tail := by
  simp [expect]

/-- What is written for a value is not empty, so that there is fuel for a first step. -/
theorem NumberFree.readBack_of_succ {v : Json} (h : NumberFree v) (hsucc : ∀ depth fuel tail,
    (v.pretty depth).length ≤ fuel + 1 → readValue (fuel + 1) (v.pretty depth ++ tail) = some (v, tail)) :
    ReadBack v := by
  intro depth fuel tail hfuel
  cases fuel with
  | zero =>
    obtain ⟨c, cs, hv, -, -⟩ := pretty_eq_cons h depth
    rw [hv] at hfuel
    cases hfuel
  | succ fuel => exact hsucc depth fuel tail hfuel

/-- Every value without numbers is read back, by induction on the value. -/
theorem NumberFree.readBack {v : Json} (h : NumberFree v) : ReadBack v := by
  induction h with
  | null =>
    exact NumberFree.null.readBack_of_succ fun _ _ tail _ =>
      congrArg (Option.map (Json.null, ·)) (expect_append "ull".toList tail)
  | bool b =>
    refine (NumberFree.bool b).readBack_of_succ fun _ _ tail _ => ?_
    cases b with
    | false => exact congrArg (Option.map (Json.bool false, ·)) (expect_append "alse".toList tail)
    | true => exact congrArg (Option.map (Json.bool true, ·)) (expect_append "rue".toList tail)
  | string s => exact (NumberFree.string s).readBack_of_succ fun _ fuel tail _ => readValue_printString fuel s tail
  | @array items h ih =>
    refine (NumberFree.array h).readBack_of_succ fun depth fuel tail hfuel => ?_
    by_cases hne : items = []
    · subst hne
      rfl
    have hpretty : (Json.array items).pretty depth =
        '[' :: '\n' :: (prettyItems (depth + 1) items ++ '\n' :: (indent depth ++ [']'])) := by
      obtain ⟨v, rest, rfl⟩ := List.exists_cons_of_ne_nil hne
      simp [pretty]
    rw [hpretty] at hfuel ⊢
    simp only [List.length_cons, List.length_append] at hfuel
    simp only [List.cons_append, List.append_assoc, List.nil_append]
    rw [readValue_array fun rest => by
      rw [skipSpace_feed]
      exact skipSpace_prettyItems hne h _ _ rest]
    rw [readItems_feed, readItems_pretty _ _ _ _ _ hne ih (by omega)]
    rfl
  | @object members h ih =>
    refine (NumberFree.object h).readBack_of_succ fun depth fuel tail hfuel => ?_
    by_cases hne : members = []
    · subst hne
      rfl
    have hpretty : (Json.object members).pretty depth =
        '\x7b' :: '\n' :: (prettyMembers (depth + 1) members ++ '\n' :: (indent depth ++ ['\x7d'])) := by
      obtain ⟨m, rest, rfl⟩ := List.exists_cons_of_ne_nil hne
      simp [pretty]
    rw [hpretty] at hfuel ⊢
    simp only [List.length_cons, List.length_append] at hfuel
    simp only [List.cons_append, List.append_assoc, List.nil_append]
    rw [readValue_object fun rest => by
      rw [skipSpace_feed]
      exact skipSpace_prettyMembers hne _ _ rest]
    rw [readMembers_feed, readMembers_pretty _ _ _ _ _ hne ih (by omega)]
    rfl

/-- **A document over several lines is read back**, with blanks after it. -/
theorem parse_pretty {v : Json} (h : NumberFree v) {blanks : List Char} (hblanks : ∀ c ∈ blanks, isSpace c = true) :
    parse (String.ofList (v.pretty 0 ++ blanks)) = some v := by
  have hrest : skipSpace blanks = [] := List.dropWhile_eq_nil_iff.2 hblanks
  rw [parse, String.toList_ofList, h.readBack 0 _ blanks (by rw [List.length_append]; omega)]
  simp only [hrest, List.isEmpty_nil, if_true]

end Transcripts.Json
