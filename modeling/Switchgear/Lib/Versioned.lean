/-
  Switchgear.Lib.Versioned — content under a version number, and what a reader
  that remembers a version may conclude.

  A writer either leaves number and content alone or raises the number
  (`Writes`).  A reader keeps a pair of a number and a content.  The pair is
  `Sound` in a state when it is out of date by its number, or is the content
  of the state:

    * a pair taken in one step is sound,
    * a pair whose number was read BEFORE its content is sound,
    * soundness is kept by every write,
    * a sound pair whose number is current holds the current content.
-/
import Mathlib

namespace Switchgear.Lib

universe u v

/-- Reads the version number and the content off a state. -/
structure Versioned (σ : Type u) (C : Type v) where
  version : σ → ℕ
  content : σ → C

namespace Versioned

variable {σ : Type u} {C D : Type v} (V : Versioned σ C)

/-- A write changes nothing, or raises the version. -/
def Writes (s s' : σ) : Prop :=
  (V.version s' = V.version s ∧ V.content s' = V.content s) ∨ V.version s < V.version s'

/-- The pair is behind the state, or is the content of the state. -/
def Sound (s : σ) (version : ℕ) (content : C) : Prop :=
  version < V.version s ∨ (version = V.version s ∧ content = V.content s)

/-- The same versions over a content that is computed from the old one. -/
def map (f : C → D) : Versioned σ D where
  version := V.version
  content := fun s => f (V.content s)

@[simp] theorem map_version (f : C → D) (s : σ) : (V.map f).version s = V.version s := rfl

@[simp] theorem map_content (f : C → D) (s : σ) : (V.map f).content s = f (V.content s) := rfl

variable {V}

theorem Writes.refl (s : σ) : V.Writes s s := .inl ⟨rfl, rfl⟩

theorem Writes.version_le {s s' : σ} (h : V.Writes s s') : V.version s ≤ V.version s' := by
  rcases h with ⟨hversion, -⟩ | hlt
  · omega
  · omega

theorem Writes.trans {s s' s'' : σ} (h : V.Writes s s') (h' : V.Writes s' s'') :
    V.Writes s s'' := by
  rcases h with ⟨hversion, hcontent⟩ | hlt
  · rcases h' with ⟨hversion', hcontent'⟩ | hlt'
    · exact .inl ⟨hversion'.trans hversion, hcontent'.trans hcontent⟩
    · right
      omega
  · have hle := h'.version_le
    right
    omega

theorem Writes.map {s s' : σ} (h : V.Writes s s') (f : C → D) : (V.map f).Writes s s' := by
  rcases h with ⟨hversion, hcontent⟩ | hlt
  · exact .inl ⟨hversion, congrArg f hcontent⟩
  · exact .inr hlt

theorem sound_self (s : σ) : V.Sound s (V.version s) (V.content s) := .inr ⟨rfl, rfl⟩

/-- A number read at or before the content it goes with. -/
theorem sound_of_version_le {s : σ} {version : ℕ} (h : version ≤ V.version s) :
    V.Sound s version (V.content s) := by
  rcases h.lt_or_eq with hlt | heq
  · exact .inl hlt
  · exact .inr ⟨heq, rfl⟩

theorem Sound.version_le {s : σ} {version : ℕ} {content : C} (h : V.Sound s version content) :
    version ≤ V.version s := by
  rcases h with hlt | ⟨heq, -⟩
  · omega
  · omega

theorem Sound.writes {s s' : σ} {version : ℕ} {content : C} (h : V.Sound s version content)
    (hwrites : V.Writes s s') : V.Sound s' version content := by
  rcases h with hlt | ⟨rfl, rfl⟩
  · have hle := hwrites.version_le
    left
    omega
  · rcases hwrites with ⟨hversion, hcontent⟩ | hlt
    · exact .inr ⟨hversion.symm, hcontent.symm⟩
    · exact .inl hlt

/-- **What "not modified" is worth**: under the current number there is the current
content. -/
theorem Sound.eq_content {s : σ} {content : C} (h : V.Sound s (V.version s) content) :
    content = V.content s := by
  rcases h with hlt | ⟨-, heq⟩
  · omega
  · exact heq

end Versioned

end Switchgear.Lib
