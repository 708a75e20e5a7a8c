import Mathlib.Logic.Relation

/-! # Runs of a transition system

Two shapes of run. A system of goroutines steps by a relation, and its runs
are the reflexive-transitive closure of it; `invariant` carries a predicate
along them, and `terminates` bounds them by a measure. A sequential component
applies a list of operations with a step function, each operation allowed or
not by a guard on the state it meets;
`simulation` carries a relation with an abstract component, stepped alongside,
along every guarded run, and `guardedRun_invariant` is its one-sided case.
-/

namespace Transition
set_option autoImplicit false

section Relation
variable {σ : Type} {step : σ → σ → Prop}

theorem invariant {I : σ → Prop} {init s : σ} (hInit : I init)
    (hStep : ∀ s s', I s → step s s' → I s') (hRun : Relation.ReflTransGen step init s) : I s := by
  induction hRun with
  | refl => exact hInit
  | tail _ hLast ih => exact hStep _ _ ih hLast

theorem terminates {P : σ → Prop} (μ : σ → Nat)
    (hStep : ∀ s s', P s → step s s' → P s' ∧ μ s' < μ s) (s : σ) (hP : P s) :
    Acc (fun s' s => step s s') s := by
  induction hμ : μ s using Nat.strongRecOn generalizing s with
  | ind n ih =>
    refine Acc.intro s fun s' hNext => ?_
    obtain ⟨hP', hLt⟩ := hStep s s' hP hNext
    exact ih (μ s') (hμ ▸ hLt) s' hP' rfl

end Relation

section Guarded
variable {σ τ α : Type} (step : σ → α → σ) (guard : σ → α → Prop)

def GuardedRun : σ → List α → Prop
  | _, [] => True
  | s, a :: ops => guard s a ∧ GuardedRun (step s a) ops

instance decidableGuardedRun [∀ s a, Decidable (guard s a)] :
    ∀ (s : σ) (ops : List α), Decidable (GuardedRun step guard s ops)
  | _, [] => isTrue trivial
  | s, a :: ops =>
    haveI := decidableGuardedRun (step s a) ops
    inferInstanceAs (Decidable (guard s a ∧ GuardedRun step guard (step s a) ops))

theorem guardedRun_append (s : σ) (ops₁ ops₂ : List α) :
    GuardedRun step guard s (ops₁ ++ ops₂) ↔
      GuardedRun step guard s ops₁ ∧ GuardedRun step guard (ops₁.foldl step s) ops₂ := by
  induction ops₁ generalizing s with
  | nil => simp [GuardedRun]
  | cons a ops₁ ih =>
    simp only [List.cons_append, GuardedRun, List.foldl_cons, ih, and_assoc]

theorem simulation (absStep : τ → α → τ) (Rel : σ → τ → Prop)
    (hStep : ∀ s t a, Rel s t → guard s a → Rel (step s a) (absStep t a))
    (ops : List α) (s : σ) (t : τ) (hRel : Rel s t) (hRun : GuardedRun step guard s ops) :
    Rel (ops.foldl step s) (ops.foldl absStep t) := by
  induction ops generalizing s t with
  | nil => exact hRel
  | cons a ops ih =>
    obtain ⟨hGuard, hRest⟩ := hRun
    exact ih (step s a) (absStep t a) (hStep s t a hRel hGuard) hRest

theorem guardedRun_invariant (I : σ → Prop) (hStep : ∀ s a, I s → guard s a → I (step s a))
    (ops : List α) (s : σ) (hInit : I s) (hRun : GuardedRun step guard s ops) :
    I (ops.foldl step s) :=
  simulation step guard (fun (_ : Unit) _ => ()) (fun s _ => I s)
    (fun s _ a hI hGuard => hStep s a hI hGuard) ops s () hInit hRun

end Guarded

end Transition
