/-
  Switchgear.Lib.TracedLoop — loops that leave a trace.

  The body of a loop is a function from the loop's state to the events of one
  iteration and to where the iteration leaves: again with a state, or done
  with a result.  A loop need not end, so it is iterated under a fuel.

    * `iterate_total` — the loop rule: a measure that every iteration lowers
      gives a result for every larger fuel, always the same one, and a law
      that iterations compose backwards holds of the whole trace.
    * `events_forall` — the rule for a property of the single events, ended
      run or not, where an iteration may use what the events before it were.
-/
import Mathlib

namespace Switchgear.Lib

variable {σ ε ρ γ : Type}

/-- Where an iteration leaves. -/
inductive LoopNext (σ ρ : Type) where
  | again (state : σ)
  | done (result : ρ)

/-- One iteration: its events and where it leaves. -/
abbrev TracedLoop (σ ε ρ : Type) := σ → List ε × LoopNext σ ρ

namespace TracedLoop

/-- At most `fuel` iterations; all events in order and the result. -/
def iterate (body : TracedLoop σ ε ρ) : ℕ → σ → Option (List ε × ρ)
  | 0, _ => none
  | fuel + 1, s =>
      match body s with
      | (events, .done result) => some (events, result)
      | (events, .again s') =>
          (iterate body fuel s').map fun rest => (events ++ rest.1, rest.2)

theorem iterate_done {body : TracedLoop σ ε ρ} {s : σ} {events : List ε} {result : ρ}
    (h : body s = (events, .done result)) (fuel : ℕ) :
    body.iterate (fuel + 1) s = some (events, result) := by
  unfold iterate
  rw [h]

theorem iterate_again {body : TracedLoop σ ε ρ} {s s' : σ} {events : List ε}
    (h : body s = (events, .again s')) (fuel : ℕ) :
    body.iterate (fuel + 1) s
      = (body.iterate fuel s').map fun rest => (events ++ rest.1, rest.2) := by
  conv_lhs => unfold iterate
  rw [h]

/-- **The loop rule.**  `g` is a specification variable: what is known of the state
without being a function of it. -/
theorem iterate_total (body : TracedLoop σ ε ρ) (Inv : γ → σ → Prop) (measure : γ → σ → ℕ)
    (Law : γ → σ → List ε → ρ → Prop)
    (hdone : ∀ g s events result, Inv g s → body s = (events, .done result) →
      Law g s events result)
    (hagain : ∀ g s events s', Inv g s → body s = (events, .again s') →
      ∃ g', Inv g' s' ∧ measure g' s' < measure g s
        ∧ ∀ rest result, Law g' s' rest result → Law g s (events ++ rest) result) :
    ∀ g s, Inv g s → ∃ events result, Law g s events result
      ∧ ∀ fuel, measure g s < fuel → body.iterate fuel s = some (events, result) := by
  suffices h : ∀ n g s, measure g s ≤ n → Inv g s → ∃ events result, Law g s events result
      ∧ ∀ fuel, measure g s < fuel → body.iterate fuel s = some (events, result) by
    intro g s hinv
    exact h (measure g s) g s le_rfl hinv
  intro n
  induction n with
  | zero =>
      intro g s hle hinv
      rcases hbody : body s with ⟨events, s' | result⟩
      · -- nothing is below a measure of zero
        obtain ⟨g', -, hlt, -⟩ := hagain g s events s' hinv hbody
        omega
      · refine ⟨events, result, hdone g s events result hinv hbody, ?_⟩
        intro fuel hfuel
        obtain ⟨fuel, rfl⟩ : ∃ k, fuel = k + 1 := ⟨fuel - 1, by omega⟩
        exact iterate_done hbody fuel
  | succ n ih =>
      intro g s hle hinv
      rcases hbody : body s with ⟨events, s' | result⟩
      · obtain ⟨g', hinv', hlt, hlaw⟩ := hagain g s events s' hinv hbody
        obtain ⟨rest, result, hrest, hfuel⟩ := ih g' s' (by omega) hinv'
        refine ⟨events ++ rest, result, hlaw rest result hrest, ?_⟩
        intro fuel hlt'
        obtain ⟨fuel, rfl⟩ : ∃ k, fuel = k + 1 := ⟨fuel - 1, by omega⟩
        rw [iterate_again hbody, hfuel fuel (by omega)]
        rfl
      · refine ⟨events, result, hdone g s events result hinv hbody, ?_⟩
        intro fuel hfuel
        obtain ⟨fuel, rfl⟩ : ∃ k, fuel = k + 1 := ⟨fuel - 1, by omega⟩
        exact iterate_done hbody fuel

/-- The events of the first `n` iterations, of a run that has ended or not. -/
def events (body : TracedLoop σ ε ρ) : ℕ → σ → List ε
  | 0, _ => []
  | n + 1, s =>
      match body s with
      | (now, .done _) => now
      | (now, .again s') => now ++ events body n s'

theorem events_done {body : TracedLoop σ ε ρ} {s : σ} {now : List ε} {result : ρ}
    (h : body s = (now, .done result)) (n : ℕ) : body.events (n + 1) s = now := by
  unfold events
  rw [h]

theorem events_again {body : TracedLoop σ ε ρ} {s s' : σ} {now : List ε}
    (h : body s = (now, .again s')) (n : ℕ) :
    body.events (n + 1) s = now ++ body.events n s' := by
  conv_lhs => unfold events
  rw [h]

/-- A run that ends has the events of its iterations. -/
theorem events_of_iterate {body : TracedLoop σ ε ρ} {n : ℕ} {s : σ} {trace : List ε} {result : ρ}
    (h : body.iterate n s = some (trace, result)) : body.events n s = trace := by
  induction n generalizing s trace result with
  | zero => cases h
  | succ n ih =>
      rcases hbody : body s with ⟨now, s' | ended⟩
      · rw [iterate_again hbody, Option.map_eq_some_iff] at h
        obtain ⟨⟨rest, result'⟩, hrest, heq⟩ := h
        rw [events_again hbody, ih hrest]
        exact congrArg Prod.fst heq
      · rw [iterate_done hbody, Option.some.injEq, Prod.mk.injEq] at h
        rw [events_done hbody]
        exact h.1

/-- **The rule for single events.**  `Inv` relates the events so far to the state, and `Good`
is what is granted of a whole trace; it need only hold of the traces that are reached. -/
theorem events_forall (body : TracedLoop σ ε ρ) (Inv : List ε → σ → Prop)
    (Good : List ε → Prop) (P : ε → Prop)
    (hgood : ∀ before after, Good (before ++ after) → Good before)
    (hstep : ∀ before s, Inv before s → Good (before ++ (body s).1) →
      (∀ event ∈ (body s).1, P event)
        ∧ ∀ s', (body s).2 = .again s' → Inv (before ++ (body s).1) s') :
    ∀ n before s, Inv before s → Good (before ++ body.events n s) →
      ∀ event ∈ body.events n s, P event := by
  intro n
  induction n with
  | zero =>
      intro before s hinv hall event hmem
      cases hmem
  | succ n ih =>
      intro before s hinv hall event hmem
      rcases hbody : body s with ⟨now, s' | result⟩
      · rw [events_again hbody] at hall hmem
        rw [← List.append_assoc] at hall
        have hnow := hstep before s hinv (by rw [hbody]; exact hgood _ _ hall)
        rw [hbody] at hnow
        rcases List.mem_append.mp hmem with hmem | hmem
        · exact hnow.1 event hmem
        · exact ih (before ++ now) s' (hnow.2 s' rfl) hall event hmem
      · rw [events_done hbody] at hall hmem
        have hnow := hstep before s hinv (by rw [hbody]; exact hall)
        rw [hbody] at hnow
        exact hnow.1 event hmem

end TracedLoop

end Switchgear.Lib
