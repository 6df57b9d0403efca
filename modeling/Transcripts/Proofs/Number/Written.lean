import Transcripts.Proofs.Number.Rounding
import Transcripts.Toml

/-!
# Numbers of data files

Every number that is read from a data file is the result of a rounding, whichever notation it is written in, and so
has at most 53 digits (`Datum.Written.proper`).
-/
namespace Transcripts

open Transcripts.Number

/-- If a datum is a number, it is one that there is. -/
def Datum.Proper (d : Datum) : Prop := ∀ x, d = .number x → x.Proper

/-! ## JSON -/

theorem Numeral.withTenTo_proper (n : Nat) {f : Nat → Int → Double} (hf : ∀ m e, (f m e).Proper) :
    (withTenTo n f).Proper := by
  have hten : (Double.ofDecimal false 1 n).Proper := Double.ofDecimal_proper false 1 n
  unfold withTenTo
  split
  · exact hf _ _
  · exact hten

theorem Numeral.scale_proper (negative : Bool) (fuel : Nat) {x : Double} (hx : x.Proper) (k : Int) :
    (scale negative fuel x k).Proper := by
  fun_induction scale negative fuel x k with
  | case1 | case5 => exact Double.ofRatio_proper negative 0 1
  | case2 => nofun
  | case3 | case4 => exact withTenTo_proper _ fun _ _ => Double.ofRatio_proper _ _ _
  | case6 _ _ _ _ _ _ _ _ ih => exact withTenTo_proper 308 fun m' e' => ih m' e' (Double.ofRatio_proper _ _ _)
  | case7 => exact hx

theorem Numeral.double_proper (n : Numeral) : n.double.Proper := scale_proper _ _ (Double.ofRatio_proper _ _ _) _

theorem Datum.ofJson_proper (v : Json) : (Datum.ofJson v).Proper := by
  intro x h
  cases v with
  | number n =>
    rw [Datum.ofJson, Datum.number.injEq] at h
    exact h ▸ n.double_proper
  | null | bool | string | array | object => simp [Datum.ofJson] at h

/-! ## TOML -/

namespace Toml

theorem signedWord_proper {negative : Bool} {n : Nat} {x : Double} (h : signedWord negative n = some x) : x.Proper := by
  unfold signedWord at h
  split_ifs at h <;> cases h <;> exact Double.ofRatio_proper _ _ _

theorem integer_proper {cs rest : List Char} {x : Double} (h : integer cs = some (x, rest)) : x.Proper := by
  have hbased : ∀ {base isDigit cs}, based base isDigit cs = some (x, rest) → x.Proper := by
    intro base isDigit cs h
    simp only [based, Option.bind_eq_bind, Option.bind_eq_some_iff, Option.pure_def, Option.some.injEq,
      Prod.mk.injEq] at h
    obtain ⟨_, _, _, hx, rfl, _⟩ := h
    exact signedWord_proper hx
  unfold integer at h
  split at h
  · exact hbased h
  · exact hbased h
  · exact hbased h
  · simp only [Option.bind_eq_bind, Option.bind_eq_some_iff, Option.pure_def, Option.some.injEq,
      Prod.mk.injEq] at h
    obtain ⟨_, _, _, hx, rfl, _⟩ := h
    exact signedWord_proper hx

theorem decimal_proper {cs rest : List Char} {x : Double} (h : decimal cs = some (x, rest)) : x.Proper := by
  simp only [decimal, Option.bind_eq_bind, Option.bind_eq_some_iff] at h
  obtain ⟨_, _, h⟩ := h
  -- an exponent follows the digits before the point, or those after it, or neither; one too large is refused
  split at h
  · rw [Option.bind_some] at h
    split at h <;> cases h
    exact Double.ofDecimal_proper _ _ _
  · obtain ⟨_, _, h⟩ := Option.bind_eq_some_iff.1 h
    split at h
    · rw [Option.bind_some] at h
      split at h <;> cases h
      exact Double.ofDecimal_proper _ _ _
    · split at h
      · cases h
      · cases h
      · rw [Option.bind_some] at h
        split at h <;> cases h
        exact Double.ofDecimal_proper _ _ _

theorem special_proper {cs rest : List Char} {x : Double} (h : special cs = some (x, rest)) : x.Proper := by
  simp only [special] at h
  split at h
  · cases h; nofun
  · cases h; nofun
  · cases h

theorem scalar_proper {cs rest : List Char} {d : Datum} (h : scalar cs = some (d, rest)) : d.Proper := by
  have hnumber : ∀ {cs}, momentOrNumber cs = some (d, rest) → d.Proper := by
    intro cs h
    unfold momentOrNumber at h
    split at h
    · cases h; nofun
    split at h
    · rename_i x _ hx
      cases h
      rintro _ ⟨⟩
      simp only [Option.orElse_eq_orElse, Option.orElse_eq_or, Option.or_eq_some_iff] at hx
      rcases hx with hx | ⟨-, hx | ⟨-, hx⟩⟩
      · exact decimal_proper hx
      · exact special_proper hx
      · exact integer_proper hx
    · cases h
  unfold scalar at h
  split at h
  · cases h
  · cases h; nofun
  · cases h; nofun
  · split at h
    · obtain ⟨_, _, heq⟩ := Option.map_eq_some_iff.1 h
      cases heq
      nofun
    · exact hnumber h

/-- Giving a key a value leaves a table a table. -/
theorem Node.put_table {i d : Bool} {entries : Entries} {path : List String} {k : String} {v : Datum} {node : Node}
    (h : (Node.table i d entries).put path k v = some node) : ∃ entries', node = .table i d entries' := by
  unfold Node.put at h
  cases path with
  | nil =>
    simp only [Node.modify, Node.assign] at h
    split at h
    · cases h
    · obtain ⟨es, -, rfl⟩ := Option.map_eq_some_iff.1 h
      exact ⟨es, rfl⟩
  | cons key path =>
    simp only [Node.modify] at h
    obtain ⟨es, -, rfl⟩ := Option.map_eq_some_iff.1 h
    exact ⟨es, rfl⟩

theorem inlinePairs_table {value : Reader Datum} (fuel : Nat) {i d : Bool} {entries : Entries} {cs rest : List Char}
    {node : Node} (h : inlinePairs value (.table i d entries) fuel cs = some (node, rest)) :
    ∃ entries', node = .table i d entries' := by
  induction fuel generalizing entries cs with
  | zero => cases h
  | succ fuel ih =>
    simp only [inlinePairs, Option.bind_eq_bind, Option.bind_eq_some_iff] at h
    obtain ⟨_, _, node', hput, h⟩ := h
    obtain ⟨es, rfl⟩ := Node.put_table hput
    split at h
    · exact ih h
    · cases h
      exact ⟨es, rfl⟩
    · cases h

theorem inlineTable_proper {value : Reader Datum} {cs rest : List Char} {d : Datum}
    (h : inlineTable value cs = some (d, rest)) : d.Proper := by
  unfold inlineTable at h
  split at h
  · cases h; nofun
  · obtain ⟨⟨node, _⟩, hpairs, heq⟩ := Option.map_eq_some_iff.1 h
    obtain ⟨es, rfl⟩ := inlinePairs_table _ hpairs
    simp only [Node.datum, Prod.mk.injEq] at heq
    obtain ⟨rfl, -⟩ := heq
    nofun

theorem valueTo_proper {depth : Nat} {cs rest : List Char} {d : Datum} (h : valueTo depth cs = some (d, rest)) :
    d.Proper := by
  unfold valueTo at h
  split at h
  · cases h
  · cases h
  · obtain ⟨_, _, heq⟩ := Option.map_eq_some_iff.1 h
    cases heq
    nofun
  · exact inlineTable_proper h
  · exact scalar_proper h

end Toml

/-! ## Both -/

/-- A value that stands in a data file, by itself or inside others. -/
inductive Datum.Written : Datum → Prop
  | json (v : Json) : Written (.ofJson v)
  | toml {depth : Nat} {cs rest : List Char} {d : Datum} : Toml.valueTo depth cs = some (d, rest) → Written d

theorem Datum.Written.proper {d : Datum} (h : d.Written) : d.Proper := by
  cases h with
  | json v => exact ofJson_proper v
  | toml h => exact Toml.valueTo_proper h

end Transcripts
