import Mathlib.Data.List.Forall2

/-!
# Reading all members of a list

A reader that may fail runs over a list from left to right and stops at the first failure. A success
pairs each member with what was read from it (`mapM_eq_some_iff`, `mapM_eq_ok_iff`); a failure is that
of the first member that cannot be read (`mapM_eq_error_iff`).
-/

namespace Tabular

variable {α β ε : Type}

/-- What follows of each pair holds of all first members. -/
lemma forall_mem_of_forall₂ {R : α → β → Prop} {P : α → Prop} {as : List α} {bs : List β}
    (h : List.Forall₂ R as bs) (imp : ∀ a b, R a b → P a) : ∀ a ∈ as, P a := by
  induction h with
  | nil => exact nofun
  | cons first _ ih => exact List.forall_mem_cons.2 ⟨imp _ _ first, ih⟩

/-- All members are read, each to its own result. -/
lemma mapM_eq_some_iff {f : α → Option β} {as : List α} {bs : List β} :
    as.mapM f = some bs ↔ List.Forall₂ (fun a b => f a = some b) as bs := by
  induction as generalizing bs with
  | nil => simp [eq_comm]
  | cons a as ih =>
    rw [List.mapM_cons]
    constructor
    · intro h
      obtain ⟨b, read, h⟩ := Option.bind_eq_some_iff.1 h
      obtain ⟨bs', rest, h⟩ := Option.bind_eq_some_iff.1 h
      cases h
      exact .cons read (ih.1 rest)
    · intro h
      cases h with
      | cons read rest =>
        rw [read, ih.2 rest]
        rfl

/-- A traversal stops at its first error. -/
lemma mapM_cons_of_error {f : α → Except ε β} {a : α} {as : List α} {e : ε} (h : f a = .error e) :
    (a :: as).mapM f = .error e := by
  rw [List.mapM_cons, h]
  rfl

/-- A traversal goes on behind an entry that succeeds. -/
lemma mapM_cons_of_ok {f : α → Except ε β} {a : α} {as : List α} {b : β} (h : f a = .ok b) :
    (a :: as).mapM f = (as.mapM f).map (b :: ·) := by
  rw [List.mapM_cons, h]
  rfl

/-- All members are read, each to its own result. -/
lemma mapM_eq_ok_iff {f : α → Except ε β} {as : List α} {bs : List β} :
    as.mapM f = .ok bs ↔ List.Forall₂ (fun a b => f a = .ok b) as bs := by
  induction as generalizing bs with
  | nil =>
    constructor
    · intro h
      cases h
      exact .nil
    · intro h
      cases h
      rfl
  | cons a as ih =>
    constructor
    · intro h
      cases read : f a with
      | error e =>
        rw [mapM_cons_of_error read] at h
        cases h
      | ok b =>
        rw [mapM_cons_of_ok read] at h
        cases rest : as.mapM f with
        | error e =>
          rw [rest] at h
          cases h
        | ok bs' =>
          rw [rest] at h
          cases h
          exact .cons read (ih.1 rest)
    · intro h
      cases h with
      | cons read rest =>
        rw [mapM_cons_of_ok read, ih.2 rest]
        rfl

/-- The failure is that of the first member that cannot be read. -/
lemma mapM_eq_error_iff {f : α → Except ε β} {as : List α} {e : ε} :
    as.mapM f = .error e ↔
      ∃ before a after, as = before ++ a :: after ∧ (∀ a' ∈ before, ∃ b, f a' = .ok b) ∧
        f a = .error e := by
  constructor
  · intro h
    induction as with
    | nil => cases h
    | cons a as ih =>
      cases read : f a with
      | error e' =>
        rw [mapM_cons_of_error read] at h
        cases h
        exact ⟨[], a, as, rfl, nofun, read⟩
      | ok b =>
        rw [mapM_cons_of_ok read] at h
        cases rest : as.mapM f with
        | ok bs =>
          rw [rest] at h
          cases h
        | error e' =>
          rw [rest] at h
          cases h
          obtain ⟨before, a', after, rfl, all, fails⟩ := ih rest
          exact ⟨a :: before, a', after, rfl, List.forall_mem_cons.2 ⟨⟨b, read⟩, all⟩, fails⟩
  · rintro ⟨before, a, after, rfl, all, fails⟩
    induction before with
    | nil => exact mapM_cons_of_error fails
    | cons a' before ih =>
      obtain ⟨⟨b, read⟩, all⟩ := List.forall_mem_cons.1 all
      rw [List.cons_append, mapM_cons_of_ok read, ih all]
      rfl

end Tabular
