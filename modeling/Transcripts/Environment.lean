/-!
# Environments

The variables an interpreter is started with.  Setting a variable replaces the value it has.
-/
namespace Transcripts

/-- Variables with their values; a name stands for its first entry. -/
abbrev Environment := List (String × String)

namespace Environment

/-- The value of a variable. -/
def get? (env : Environment) (name : String) : Option String := env.lookup name

/-- Gives a variable a value, in its place if it has one. -/
def set (name value : String) : Environment → Environment
  | [] => [(name, value)]
  | (k, v) :: rest => if k = name then (k, value) :: rest else (k, v) :: set name value rest

/-- Takes a variable away. -/
def unset (env : Environment) (name : String) : Environment := env.filter (·.1 != name)

theorem get?_set_self (name value : String) (env : Environment) :
    get? (set name value env) name = some value := by
  induction env with
  | nil => simp [set, get?]
  | cons p rest ih =>
    obtain ⟨k, v⟩ := p
    by_cases h : k = name
    · simp [set, get?, h]
    · have h' : (name == k) = false := by simp [Ne.symm h]
      simpa [set, get?, h, List.lookup_cons, h'] using ih

theorem get?_set_of_ne {name other : String} (value : String) (env : Environment)
    (h : other ≠ name) : get? (set name value env) other = get? env other := by
  have h' : (other == name) = false := by simp [h]
  induction env with
  | nil => simp [set, get?, h]
  | cons p rest ih =>
    obtain ⟨k, v⟩ := p
    by_cases hk : k = name
    · simp [set, get?, hk, List.lookup_cons, h']
    · cases ho : other == k with
      | true => simp [set, get?, hk, List.lookup_cons, ho]
      | false => simpa [set, get?, hk, List.lookup_cons, ho] using ih

end Environment

end Transcripts
