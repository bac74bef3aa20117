import Mathlib.Logic.Basic

/-! # Lists of keys with values

What `List.lookup` finds in a list that is built of others.

* `lookup_cons_ite` — an entry in front hides those of its key behind it.
* `lookup_map_values`, `lookup_filter` — values are changed under their keys, keys are kept or left out.
-/

namespace Interaction

variable {Key Value Other : Type} [DecidableEq Key]

theorem lookup_cons_ite (key name : Key) (value : Value) (rest : List (Key × Value)) :
    ((name, value) :: rest).lookup key = if key = name then some value else rest.lookup key := by
  rw [List.lookup_cons]
  by_cases same : key = name
  · rw [if_pos same, beq_iff_eq.mpr same]
  · rw [if_neg same, beq_eq_false_iff_ne.mpr same]

theorem lookup_map_values (entries : List (Key × Value)) (change : Key → Value → Other) (key : Key) :
    (entries.map fun entry => (entry.1, change entry.1 entry.2)).lookup key =
      (entries.lookup key).map (change key) := by
  induction entries with
  | nil => rfl
  | cons entry rest inductionHypothesis =>
    obtain ⟨name, value⟩ := entry
    rw [List.map_cons, lookup_cons_ite, lookup_cons_ite, inductionHypothesis]
    by_cases same : key = name
    · rw [if_pos same, if_pos same, same, Option.map_some]
    · rw [if_neg same, if_neg same]

theorem lookup_filter (entries : List (Key × Value)) (keep : Key → Bool) (key : Key) :
    (entries.filter fun entry => keep entry.1).lookup key = if keep key then entries.lookup key else none := by
  induction entries with
  | nil => simp
  | cons entry rest inductionHypothesis =>
    obtain ⟨name, value⟩ := entry
    by_cases same : key = name
    · subst same
      cases kept : keep key with
      | true => simp [kept]
      | false => simpa [kept] using inductionHypothesis
    · rw [lookup_cons_ite, if_neg same, ← inductionHypothesis]
      cases kept : keep name with
      | true => simp [kept, lookup_cons_ite, same]
      | false => simp [kept]

end Interaction
