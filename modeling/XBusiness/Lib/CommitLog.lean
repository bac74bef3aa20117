import Mathlib.Data.Set.Basic
import XBusiness.Lib.Machine

/-! # A log that is read in order and committed behind what is settled

The entries of a log lie in places (the partitions of a topic), each at an offset.  A reader takes the
entries of a place in the order of their offsets and holds them until they are settled; a group of
readers shares one committed offset a place, from which a new reader starts.

* `Covered` — every entry below an offset is settled or held.
* `InOrder` — each held entry has only such entries before it; `InOrder.commit` is why the offset behind
  a settled prefix may be committed.
* `commitMachine` — what a group is for: entries are settled, and an offset is committed when all below
  it is settled.  `covered_of_reachable` is its safety.
-/

namespace Interaction

/-- The entries of a log, from the offset of each place at which its readers begin. -/
structure CommitLog (Entry Place : Type) where
  has : Entry → Prop
  place : Entry → Place
  offset : Entry → Int
  start : Place → Int

namespace CommitLog

variable {Entry Place : Type} (log : CommitLog Entry Place)

/-- Every entry of the place below the bound is settled, or among those held. -/
def Covered (settled : Set Entry) (held : List Entry) (place : Place) (bound : Int) : Prop :=
  ∀ entry, log.has entry → log.place entry = place → log.start place ≤ log.offset entry →
    log.offset entry < bound → entry ∈ settled ∨ entry ∈ held

/-- Before each held entry, all entries of its place are settled or held in front of it. -/
def InOrder (settled : Set Entry) (held : List Entry) : Prop :=
  ∀ front entry back, held = front ++ entry :: back →
    log.Covered settled front (log.place entry) (log.offset entry)

variable {log} {settled more : Set Entry} {held later : List Entry} {place : Place} {bound : Int}

theorem Covered.mono (covered : log.Covered settled held place bound) (grown : settled ⊆ more)
    (kept : ∀ entry ∈ held, entry ∈ more ∨ entry ∈ later) : log.Covered more later place bound := by
  intro entry has own begun below
  cases covered entry has own begun below with
  | inl old => exact .inl (grown old)
  | inr mem => exact kept entry mem

theorem Covered.grow (covered : log.Covered settled held place bound) (grown : settled ⊆ more) :
    log.Covered more held place bound :=
  covered.mono grown fun _ => .inr

/-- Nothing lies below the first offset. -/
theorem covered_start : log.Covered settled held place (log.start place) := by
  intro entry _ _ begun below
  omega

/-- The bound moves up over entries that are settled or held too. -/
theorem Covered.raise (covered : log.Covered settled held place bound) {higher : Int}
    (between : ∀ entry, log.has entry → log.place entry = place → bound ≤ log.offset entry →
      log.offset entry < higher → entry ∈ settled ∨ entry ∈ held) :
    log.Covered settled held place higher := by
  intro entry has own begun below
  by_cases passed : log.offset entry < bound
  · exact covered entry has own begun passed
  · exact between entry has own (by omega) below

theorem InOrder.nil : log.InOrder settled [] := by
  intro front entry back split
  cases front <;> cases split

theorem InOrder.grow (inOrder : log.InOrder settled held) (grown : settled ⊆ more) :
    log.InOrder more held :=
  fun front entry back split => (inOrder front entry back split).grow grown

/-- An entry is held behind the others once everything below it is settled or held. -/
theorem InOrder.append (inOrder : log.InOrder settled held) {entry : Entry}
    (covered : log.Covered settled held (log.place entry) (log.offset entry)) :
    log.InOrder settled (held ++ [entry]) := by
  intro front other back split
  rcases List.append_eq_append_iff.mp split with ⟨gap, rfl, last⟩ | ⟨gap, rfl, first⟩
  · -- the split is in the new entry
    cases gap with
    | nil =>
      cases last
      simpa using covered
    | cons head rest => simp at last
  · -- the split is before it
    cases gap with
    | nil =>
      cases first
      simpa using covered
    | cons head rest =>
      cases first
      exact inOrder front _ rest rfl

/-- Where a held entry is settled with all those before it, everything below the offset behind it is. -/
theorem InOrder.commit (inOrder : log.InOrder settled held)
    (one : ∀ other entry, log.has other → log.has entry → log.place other = log.place entry →
      log.offset other = log.offset entry → other = entry)
    {front back : List Entry} {entry : Entry} (split : held = front ++ entry :: back)
    (has : log.has entry) (done : ∀ earlier ∈ front ++ [entry], earlier ∈ settled) :
    log.Covered settled [] (log.place entry) (log.offset entry + 1) := by
  have before : log.Covered settled [] (log.place entry) (log.offset entry) := by
    refine (inOrder front entry back split).mono (Set.Subset.refl _) ?_
    exact fun earlier mem => .inl (done earlier (List.mem_append_left _ mem))
  refine before.raise ?_
  intro other hasOther own low high
  obtain rfl := one other entry hasOther has own (by omega)
  exact .inl (done other (List.mem_append_right _ (List.mem_singleton_self _)))

/-! ## What a group of readers is for -/

variable (log) [DecidableEq Place]

/-- What has been settled so far, and the offset that is committed in each place. -/
structure Progress (Entry Place : Type) where
  settled : Set Entry
  committed : Place → Int

inductive ProgressLabel (Entry Place : Type) where
  | settle (more : Set Entry)
  | commit (place : Place) (bound : Int)

open Classical in
/-- Entries are settled at any time; an offset is committed only when all below it is settled. -/
noncomputable def progressStep (progress : Progress Entry Place) :
    ProgressLabel Entry Place → Option (Progress Entry Place)
  | .settle more => some { progress with settled := progress.settled ∪ more }
  | .commit place bound =>
    if log.Covered progress.settled [] place bound then
      some { progress with committed := Function.update progress.committed place bound }
    else
      none

noncomputable def commitMachine (skipped : Set Entry) :
    Machine (Progress Entry Place) (ProgressLabel Entry Place) where
  start := { settled := skipped, committed := log.start }
  step := log.progressStep

variable {log}

/-- Everything below the committed offset is settled. -/
def Progress.Safe (log : CommitLog Entry Place) (progress : Progress Entry Place) : Prop :=
  ∀ place, log.Covered progress.settled [] place (progress.committed place)

theorem safe_step {progress next : Progress Entry Place} {label : ProgressLabel Entry Place}
    (safe : progress.Safe log) (stepped : log.progressStep progress label = some next) :
    next.Safe log ∧ progress.settled ⊆ next.settled := by
  cases label with
  | settle more =>
    cases stepped
    have grown : progress.settled ⊆ progress.settled ∪ more := Set.subset_union_left
    exact ⟨fun place => (safe place).grow grown, grown⟩
  | commit place bound =>
    simp only [progressStep, Option.ite_none_right_eq_some] at stepped
    obtain ⟨covered, stepped⟩ := stepped
    cases stepped
    refine ⟨fun other => ?_, Set.Subset.refl _⟩
    by_cases same : other = place
    · subst same
      simpa using covered
    · simpa [Function.update_of_ne same] using safe other

theorem covered_of_reachable {skipped : Set Entry} {progress : Progress Entry Place}
    (reachable : (log.commitMachine skipped).Reachable progress) : progress.Safe log := by
  refine reachable.invariant (fun place => covered_start) ?_
  intro before label next safe stepped
  exact (safe_step safe stepped).1

end CommitLog

end Interaction
