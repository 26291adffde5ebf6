/-
  Switchgear.Lib.History — what the end of a run says of the inputs that led to it.

    * `run_translated` — a machine that does to its state what the calls of another
      do, leaves it as the calls do over whole runs,
    * `last_write` — what is seen at the end of a run, and was not seen at its start,
      was written by one of its inputs and has been seen ever since,
    * `exists_last` — a run that has an input of a kind has a last one.
-/
import Switchgear.Lib.Machine

namespace Switchgear.Lib.Machine

universe u v w

variable {σ : Type u} {α γ : Type v} {β δ : Type w}

/-- An input that stands for a call does what the call does; another does nothing. -/
def Translates (M : Machine σ α β) (N : Machine σ γ δ) (call : α → Option γ) : Prop :=
  ∀ s a, (M s a).2 = (call a).elim s fun c => (N s c).2

/-- **The translation rule**: over a run, the state is as the calls leave it. -/
theorem run_translated {M : Machine σ α β} {N : Machine σ γ δ} {call : α → Option γ}
    (h : Translates M N call) (s : σ) (as : List α) :
    (M.run s as).2 = (N.run s (as.filterMap call)).2 := by
  induction as generalizing s with
  | nil => rfl
  | cons a as ih =>
      have hstep := h s a
      rw [run_cons, ih]
      cases hcall : call a with
      | none =>
          rw [hcall] at hstep
          rw [List.filterMap_cons_none hcall, hstep]
          rfl
      | some c =>
          rw [hcall] at hstep
          rw [List.filterMap_cons_some hcall, run_cons, hstep]
          rfl

/-- **The last write**: where a step of the run shows nothing new but what its input writes,
a value seen at its end was seen all along, or was written by an input and seen ever since. -/
theorem last_write_along {V : Type*} (M : Machine σ α β) (view : σ → Option V)
    (P : σ → α → Prop) (Writes : σ → α → V → Prop)
    (hstep : ∀ s a v, P s a → view (M s a).2 = some v → view s = some v ∨ Writes s a v)
    (s : σ) (as : List α) (halong : M.Along P s as) (v : V)
    (hend : view (M.run s as).2 = some v) :
    (∀ more, more <+: as → view (M.run s more).2 = some v)
      ∨ ∃ before a after, as = before ++ a :: after ∧ Writes (M.run s before).2 a v
          ∧ ∀ more, more <+: after → view (M.run s (before ++ a :: more)).2 = some v := by
  induction as generalizing s with
  | nil =>
      left
      intro more hmore
      rw [List.prefix_nil.mp hmore]
      exact hend
  | cons a as ih =>
      rcases ih (M s a).2 halong.2 hend with hkept | ⟨before, b, after, has, hwrites, hsince⟩
      · have hnow : view (M s a).2 = some v := hkept [] (List.nil_prefix)
        rcases hstep s a v halong.1 hnow with hbefore | hwrites
        · left
          intro more hmore
          rcases List.prefix_cons_iff.mp hmore with rfl | ⟨rest, rfl, hrest⟩
          · exact hbefore
          · exact hkept rest hrest
        · right
          exact ⟨[], a, as, rfl, hwrites, hkept⟩
      · right
        refine ⟨a :: before, b, after, ?_, hwrites, hsince⟩
        rw [has]
        rfl

/-- The same, where every step shows nothing new but what its input writes. -/
theorem last_write {V : Type*} (M : Machine σ α β) (view : σ → Option V)
    (Writes : σ → α → V → Prop)
    (hstep : ∀ s a v, view (M s a).2 = some v → view s = some v ∨ Writes s a v)
    (s : σ) (as : List α) (v : V) (hend : view (M.run s as).2 = some v) :
    (∀ more, more <+: as → view (M.run s more).2 = some v)
      ∨ ∃ before a after, as = before ++ a :: after ∧ Writes (M.run s before).2 a v
          ∧ ∀ more, more <+: after → view (M.run s (before ++ a :: more)).2 = some v :=
  M.last_write_along view (fun _ _ => True) Writes (fun s a v _ => hstep s a v) s as
    (M.along_of_forall s as fun _ _ _ => trivial) v hend

/-- The last input of a kind, if the run has one. -/
theorem exists_last (p : α → Prop) (as : List α) :
    (∀ a ∈ as, ¬ p a)
      ∨ ∃ before a after, as = before ++ a :: after ∧ p a ∧ ∀ b ∈ after, ¬ p b := by
  induction as with
  | nil =>
      left
      intro a ha
      cases ha
  | cons a as ih =>
      rcases ih with hnone | ⟨before, b, after, has, hb, hafter⟩
      · by_cases ha : p a
        · exact .inr ⟨[], a, as, rfl, ha, hnone⟩
        · left
          intro b hb
          rcases List.mem_cons.mp hb with rfl | hb
          · exact ha
          · exact hnone b hb
      · right
        refine ⟨a :: before, b, after, ?_, hb, hafter⟩
        rw [has]
        rfl

end Switchgear.Lib.Machine
