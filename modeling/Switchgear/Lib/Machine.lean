/-
  Switchgear.Lib.Machine — deterministic machines with an answer per input.

  A store, a cache or a client is a machine: one call reads and replaces
  the state and gives an answer.  This file holds the facts about WHOLE
  RUNS that every such component needs, over arbitrary state, input and
  answer types:

    * `run_append`    — a run over `as ++ bs` is a run over `as`, then `bs`,
    * `run_invariant` — what one step preserves, a run preserves,
    * `run_answers`   — what the steps keep true of an answer already given,
    * `run_simulation` — two machines whose steps stay related give the
      same list of answers,
    * `run_filter` — inputs that never matter to the others may be left out.

  Side conditions on the steps of a run are stated with `Along`: the
  predicate may read the state the step starts from.
-/
import Mathlib

namespace Switchgear.Lib

universe u v w

variable {σ τ : Type u} {α : Type v} {β : Type w}

/-- One step: from a state and an input to an answer and the next state. -/
abbrev Machine (σ : Type u) (α : Type v) (β : Type w) := σ → α → β × σ

namespace Machine

/-! ## §1. Runs. -/

/-- Feed the inputs one after the other; collect the answers. -/
def run (M : Machine σ α β) : σ → List α → List β × σ
  | s, [] => ([], s)
  | s, a :: as =>
      let (b, s') := M s a
      let (bs, s'') := run M s' as
      (b :: bs, s'')

/-- Every step of the run from `s` over `as` starts in a state where `P` holds
of the state and the input. -/
def Along (M : Machine σ α β) (P : σ → α → Prop) : σ → List α → Prop
  | _, [] => True
  | s, a :: as => P s a ∧ Along M P (M s a).2 as

@[simp] theorem run_nil (M : Machine σ α β) (s : σ) : M.run s [] = ([], s) := rfl

@[simp] theorem run_cons (M : Machine σ α β) (s : σ) (a : α) (as : List α) :
    M.run s (a :: as) = ((M s a).1 :: (M.run (M s a).2 as).1, (M.run (M s a).2 as).2) := rfl

@[simp] theorem along_nil (M : Machine σ α β) (P : σ → α → Prop) (s : σ) :
    M.Along P s [] := trivial

@[simp] theorem along_cons (M : Machine σ α β) (P : σ → α → Prop) (s : σ) (a : α)
    (as : List α) :
    M.Along P s (a :: as) ↔ P s a ∧ M.Along P (M s a).2 as := Iff.rfl

instance decidableAlong (M : Machine σ α β) (P : σ → α → Prop) [∀ s a, Decidable (P s a)] :
    (s : σ) → (as : List α) → Decidable (M.Along P s as)
  | _, [] => isTrue trivial
  | s, a :: as =>
      have : Decidable (M.Along P (M s a).2 as) := decidableAlong M P (M s a).2 as
      inferInstanceAs (Decidable (P s a ∧ M.Along P (M s a).2 as))

theorem run_append (M : Machine σ α β) (s : σ) (as bs : List α) :
    M.run s (as ++ bs)
      = ((M.run s as).1 ++ (M.run (M.run s as).2 bs).1, (M.run (M.run s as).2 bs).2) := by
  induction as generalizing s with
  | nil => rfl
  | cons a as ih => simp only [List.cons_append, run_cons, ih]

theorem along_append (M : Machine σ α β) (P : σ → α → Prop) (s : σ) (as bs : List α) :
    M.Along P s (as ++ bs) ↔ M.Along P s as ∧ M.Along P (M.run s as).2 bs := by
  induction as generalizing s with
  | nil => simp
  | cons a as ih => simp only [List.cons_append, along_cons, run_cons, ih, and_assoc]

theorem along_of_forall (M : Machine σ α β) {P : σ → α → Prop} :
    ∀ (s : σ) (as : List α), (∀ a ∈ as, ∀ s, P s a) → M.Along P s as
  | _, [], _ => trivial
  | s, a :: as, h =>
      ⟨h a List.mem_cons_self s,
        along_of_forall M (M s a).2 as fun a' ha' => h a' (List.mem_cons_of_mem a ha')⟩

theorem Along.mono {M : Machine σ α β} {P Q : σ → α → Prop} (h : ∀ s a, P s a → Q s a) :
    ∀ {s : σ} {as : List α}, M.Along P s as → M.Along Q s as
  | _, [], _ => trivial
  | _, _ :: _, ⟨hp, hrest⟩ => ⟨h _ _ hp, Along.mono h hrest⟩

theorem Along.and {M : Machine σ α β} {P Q : σ → α → Prop} :
    ∀ {s : σ} {as : List α}, M.Along P s as → M.Along Q s as →
      M.Along (fun s a => P s a ∧ Q s a) s as
  | _, [], _, _ => trivial
  | _, _ :: _, ⟨hp, hps⟩, ⟨hq, hqs⟩ => ⟨⟨hp, hq⟩, Along.and hps hqs⟩

/-- Two conditions that agree wherever an invariant holds agree along a run, if the
first one keeps the invariant. -/
theorem along_congr (M : Machine σ α β) (I : σ → Prop) {P Q : σ → α → Prop}
    (hiff : ∀ s a, I s → (P s a ↔ Q s a)) (hstep : ∀ s a, I s → P s a → I (M s a).2) :
    ∀ (s : σ) (as : List α), I s → (M.Along P s as ↔ M.Along Q s as)
  | _, [], _ => Iff.rfl
  | s, a :: as, hI => by
      rw [along_cons, along_cons, ← hiff s a hI]
      constructor
      · rintro ⟨hp, hrest⟩
        exact ⟨hp, (along_congr M I hiff hstep _ as (hstep s a hI hp)).mp hrest⟩
      · rintro ⟨hp, hrest⟩
        exact ⟨hp, (along_congr M I hiff hstep _ as (hstep s a hI hp)).mpr hrest⟩

/-! ## §2. Invariants and simulations of whole runs. -/

/-- **The run rule**: an invariant that every step meeting `P` keeps holds at
the end of every run whose steps all meet `P`. -/
theorem run_invariant (M : Machine σ α β) (I : σ → Prop) (P : σ → α → Prop)
    (hstep : ∀ s a, I s → P s a → I (M s a).2) :
    ∀ (s : σ) (as : List α), I s → M.Along P s as → I (M.run s as).2
  | _, [], hI, _ => hI
  | s, a :: as, hI, hP =>
      run_invariant M I P hstep (M s a).2 as (hstep s a hI hP.1) hP.2

/-- What follows from an invariant at one step holds along a run that keeps it. -/
theorem Along.of_invariant {M : Machine σ α β} (I : σ → Prop) {P Q : σ → α → Prop}
    (hstep : ∀ s a, I s → P s a → I (M s a).2) (hQ : ∀ s a, I s → P s a → Q s a) :
    ∀ {s : σ} {as : List α}, I s → M.Along P s as → M.Along Q s as
  | _, [], _, _ => trivial
  | _, _ :: _, hI, ⟨hp, hrest⟩ =>
      ⟨hQ _ _ hI hp, Along.of_invariant I hstep hQ (hstep _ _ hI hp) hrest⟩

/-- **The answer rule**: what holds of an answer when it is given, and is kept by
every later step, holds of all answers at the end of the run. -/
theorem run_answers (M : Machine σ α β) (I : σ → Prop) (P : σ → α → Prop) (A : β → σ → Prop)
    (hstep : ∀ s a, I s → P s a → I (M s a).2)
    (hnew : ∀ s a, I s → P s a → A (M s a).1 (M s a).2)
    (hkeep : ∀ s a b, I s → P s a → A b s → A b (M s a).2) :
    ∀ (s : σ) (as : List α), I s → M.Along P s as →
      (∀ b ∈ (M.run s as).1, A b (M.run s as).2)
        ∧ ∀ b, A b s → A b (M.run s as).2
  | _, [], _, _ => ⟨by simp, fun _ h => h⟩
  | s, a :: as, hI, hP => by
      obtain ⟨hnews, holds⟩ :=
        run_answers M I P A hstep hnew hkeep (M s a).2 as (hstep s a hI hP.1) hP.2
      refine ⟨?_, fun b hb => holds b (hkeep s a b hI hP.1 hb)⟩
      intro b hb
      rw [run_cons] at hb
      rcases List.mem_cons.mp hb with rfl | hb
      · exact holds _ (hnew s a hI hP.1)
      · exact hnews b hb

/-- **The simulation rule**: two machines over the same inputs, related by `R`;
if every step from related states answers the same and ends in related states,
the two runs answer the same. -/
theorem run_simulation (M : Machine σ α β) (N : Machine τ α β) (R : σ → τ → Prop)
    (P : σ → α → Prop) (Q : τ → α → Prop)
    (hstep : ∀ s t a, R s t → P s a → Q t a →
      (M s a).1 = (N t a).1 ∧ R (M s a).2 (N t a).2) :
    ∀ (s : σ) (t : τ) (as : List α), R s t → M.Along P s as → N.Along Q t as →
      (M.run s as).1 = (N.run t as).1 ∧ R (M.run s as).2 (N.run t as).2
  | _, _, [], hR, _, _ => ⟨rfl, hR⟩
  | s, t, a :: as, hR, hP, hQ => by
      obtain ⟨hout, hR'⟩ := hstep s t a hR hP.1 hQ.1
      obtain ⟨houts, hend⟩ :=
        run_simulation M N R P Q hstep (M s a).2 (N t a).2 as hR' hP.2 hQ.2
      exact ⟨by rw [run_cons, run_cons, hout, houts], hend⟩

/-- **The comparison rule**: two machines whose states stay related whatever they answer; if
a step from related states answers alike exactly when `C` holds of it, the two runs answer
alike exactly when `C` holds of every step. -/
theorem run_alike_iff {γ : Type w} (M : Machine σ α β) (N : Machine τ α γ) (R : σ → τ → Prop)
    (Q : τ → α → Prop) (alike : β → γ → Prop) (C : σ → α → Prop)
    (hstep : ∀ s t a, R s t → Q t a →
      R (M s a).2 (N t a).2 ∧ (alike (M s a).1 (N t a).1 ↔ C s a)) :
    ∀ (s : σ) (t : τ) (as : List α), R s t → N.Along Q t as →
      (List.Forall₂ alike (M.run s as).1 (N.run t as).1 ↔ M.Along C s as)
  | _, _, [], _, _ => by simp
  | s, t, a :: as, hR, hQ => by
      obtain ⟨hR', halike⟩ := hstep s t a hR hQ.1
      have ih := run_alike_iff M N R Q alike C hstep (M s a).2 (N t a).2 as hR' hQ.2
      rw [run_cons, run_cons, List.forall₂_cons, along_cons, halike, ih]

/-- **The exact answer rule**: if a step that meets `Q` keeps the invariant, and answers well
exactly when `C` holds of it, then all answers of a run are good exactly when `C` holds of
every step. -/
theorem run_good_iff (M : Machine σ α β) (I : σ → Prop) (Q : σ → α → Prop) (good : β → Prop)
    (C : σ → α → Prop)
    (hstep : ∀ s a, I s → Q s a → I (M s a).2 ∧ (good (M s a).1 ↔ C s a)) :
    ∀ (s : σ) (as : List α), I s → M.Along Q s as →
      ((∀ b ∈ (M.run s as).1, good b) ↔ M.Along C s as)
  | _, [], _, _ => by simp
  | s, a :: as, hI, hQ => by
      obtain ⟨hI', hgood⟩ := hstep s a hI hQ.1
      have ih := run_good_iff M I Q good C hstep (M s a).2 as hI' hQ.2
      rw [run_cons, List.forall_mem_cons, along_cons, hgood, ih]

/-- The same, where `Q` is about the inputs alone. -/
theorem run_forall_iff (M : Machine σ α β) (I : σ → Prop) (Q : α → Prop) (good : β → Prop)
    (C : σ → α → Prop)
    (hstep : ∀ s a, I s → Q a → I (M s a).2 ∧ (good (M s a).1 ↔ C s a))
    (s : σ) (as : List α) (hI : I s) (hQ : ∀ a ∈ as, Q a) :
    (∀ b ∈ (M.run s as).1, good b) ↔ M.Along C s as :=
  run_good_iff M I (fun _ => Q) good C hstep s as hI
    (M.along_of_forall s as fun a ha _ => hQ a ha)

/-- **The replacement rule**: a machine that does to every state what another does, and
answers alike, does so over whole runs. -/
theorem run_replaced {γ : Type w} (M : Machine σ α β) (N : Machine σ α γ) (P : σ → α → Prop)
    (alike : β → γ → Prop)
    (hstep : ∀ s a, P s a → alike (M s a).1 (N s a).1 ∧ (N s a).2 = (M s a).2) :
    ∀ (s : σ) (as : List α), M.Along P s as →
      List.Forall₂ alike (M.run s as).1 (N.run s as).1 ∧ (N.run s as).2 = (M.run s as).2
  | _, [], _ => by simp
  | s, a :: as, hP => by
      obtain ⟨halike, hstate⟩ := hstep s a hP.1
      obtain ⟨hrest, hend⟩ := run_replaced M N P alike hstep (M s a).2 as hP.2
      rw [run_cons, run_cons, hstate]
      exact ⟨List.Forall₂.cons halike hrest, hend⟩

/-- **The renaming rule**: a machine that takes each input as another machine takes a renamed
one does so over whole runs. -/
theorem run_renamed {γ : Type w} (M : Machine σ α β) (N : Machine σ γ β) (f : γ → α)
    (P : σ → α → Prop) (hstep : ∀ s c, P s (f c) → N s c = M s (f c)) :
    ∀ (s : σ) (cs : List γ), M.Along P s (cs.map f) → N.run s cs = M.run s (cs.map f)
  | _, [], _ => rfl
  | s, c :: cs, hP => by
      have hhead : N s c = M s (f c) := hstep s c hP.1
      have htail := run_renamed M N f P hstep (M s (f c)).2 cs hP.2
      rw [List.map_cons, run_cons, run_cons, hhead, htail]

/-- What holds of every answer of a run holds along it. -/
theorem along_of_answers (M : Machine σ α β) (A : β → Prop) :
    ∀ (s : σ) (as : List α), (∀ b ∈ (M.run s as).1, A b) → M.Along (fun s a => A (M s a).1) s as
  | _, [], _ => trivial
  | s, a :: as, h => by
      rw [run_cons, List.forall_mem_cons] at h
      exact ⟨h.1, along_of_answers M A (M s a).2 as h.2⟩

/-- **The unwinding rule**: two states alike for the kept inputs stay alike when both take
a kept input, which both answer the same, and when one of them takes any other; then the
kept inputs are answered the same without the others. -/
theorem run_filter (M : Machine σ α β) (R : σ → σ → Prop) (keep : α → Bool)
    (hkeep : ∀ s t a, R s t → keep a = true → (M s a).1 = (M t a).1 ∧ R (M s a).2 (M t a).2)
    (hskip : ∀ s t a, R s t → keep a = false → R (M s a).2 t) :
    ∀ (s t : σ) (as : List α), R s t →
      ((as.zip (M.run s as).1).filter fun p => keep p.1).map Prod.snd
        = (M.run t (as.filter keep)).1
  | _, _, [], _ => rfl
  | s, t, a :: as, hR => by
      rw [run_cons, List.zip_cons_cons]
      cases ha : keep a with
      | true =>
          obtain ⟨hout, hR'⟩ := hkeep s t a hR ha
          have ih := run_filter M R keep hkeep hskip _ _ as hR'
          rw [List.filter_cons_of_pos ha, List.filter_cons_of_pos (by simpa using ha),
            List.map_cons, ih, run_cons, hout]
      | false =>
          have ih := run_filter M R keep hkeep hskip _ _ as (hskip s t a hR ha)
          rw [List.filter_cons_of_neg (by simp [ha]), List.filter_cons_of_neg (by simp [ha]), ih]

/-! ## §3. Runs under a budget. -/

/-- **The budget rule**: where no step raises the level by more than its cost, a
run whose costs fit under the room has room at every step. -/
theorem along_of_budget (M : Machine σ α β) (I : σ → Prop) (level : σ → ℕ) (cost : α → ℕ)
    (room : ℕ)
    (hstep : ∀ s a, I s → level s + cost a < room →
      I (M s a).2 ∧ level (M s a).2 ≤ level s + cost a) :
    ∀ (s : σ) (as : List α), I s → level s + (as.map cost).sum < room →
      M.Along (fun s a => level s + cost a < room) s as
  | _, [], _, _ => trivial
  | s, a :: as, hI, hroom => by
      rw [List.map_cons, List.sum_cons] at hroom
      have hhead : level s + cost a < room := by omega
      obtain ⟨hI', hlevel⟩ := hstep s a hI hhead
      refine ⟨hhead, along_of_budget M I level cost room hstep (M s a).2 as hI' ?_⟩
      omega

end Machine

end Switchgear.Lib
