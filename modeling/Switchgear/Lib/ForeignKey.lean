/-
  Switchgear.Lib.ForeignKey — a map whose values refer to keys of another map.

  `References ref children parents`: what a foreign key promises.  It is kept
  by inserting a child whose parent is there, by erasing a child, by inserting
  a parent, and by erasing a parent nobody refers to.
-/
import Mathlib

namespace Switchgear.Lib

open Std (ExtTreeMap TransCmp LawfulEqCmp)

universe u

variable {K P V W : Type u} {cmp : K → K → Ordering} [TransCmp cmp]
  {cmp' : P → P → Ordering} [TransCmp cmp']

/-- Every child refers to a parent that is there. -/
def References (ref : V → P) (children : ExtTreeMap K V cmp) (parents : ExtTreeMap P W cmp') :
    Prop :=
  ∀ (k : K) (v : V), children[k]? = some v → ref v ∈ parents

namespace References

variable {ref : V → P} {children : ExtTreeMap K V cmp} {parents : ExtTreeMap P W cmp'}

theorem empty (parents : ExtTreeMap P W cmp') :
    References ref (∅ : ExtTreeMap K V cmp) parents := by
  intro k v h
  rw [ExtTreeMap.getElem?_empty] at h
  cases h

theorem insertChild (h : References ref children parents) {v : V} (hv : ref v ∈ parents) (k : K) :
    References ref (children.insert k v) parents := by
  intro k' v' h'
  rw [ExtTreeMap.getElem?_insert] at h'
  by_cases hk : cmp k k' = .eq
  · rw [if_pos hk, Option.some.injEq] at h'
    rw [← h']
    exact hv
  · rw [if_neg hk] at h'
    exact h k' v' h'

theorem eraseChild (h : References ref children parents) (k : K) :
    References ref (children.erase k) parents := by
  intro k' v' h'
  rw [ExtTreeMap.getElem?_erase] at h'
  by_cases hk : cmp k k' = .eq
  · rw [if_pos hk] at h'
    cases h'
  · rw [if_neg hk] at h'
    exact h k' v' h'

theorem insertParent (h : References ref children parents) (p : P) (w : W) :
    References ref children (parents.insert p w) := by
  intro k v hv
  rw [ExtTreeMap.mem_insert]
  exact .inr (h k v hv)

theorem eraseParent [LawfulEqCmp cmp'] (h : References ref children parents) {p : P}
    (hfree : ∀ (k : K) (v : V), children[k]? = some v → ref v ≠ p) :
    References ref children (parents.erase p) := by
  intro k v hv
  rw [ExtTreeMap.mem_erase]
  refine ⟨?_, h k v hv⟩
  intro heq
  exact hfree k v hv (LawfulEqCmp.eq_of_compare heq).symm

/-- The parent of a child. -/
theorem exists_parent (h : References ref children parents) {k : K} {v : V}
    (hv : children[k]? = some v) : ∃ w, parents[ref v]? = some w := by
  have hmem := h k v hv
  rw [ExtTreeMap.mem_iff_isSome_getElem?] at hmem
  exact Option.isSome_iff_exists.mp hmem

end References

/-- Some value of a map, in whatever order it is scanned, passes a test. -/
theorem any_values_iff [LawfulEqCmp cmp] (m : ExtTreeMap K V cmp) (p : V → Bool) :
    (m.toList.map Prod.snd).any p = true
      ↔ ∃ (k : K) (v : V), m[k]? = some v ∧ p v = true := by
  rw [List.any_eq_true]
  constructor
  · rintro ⟨v, hmem, hp⟩
    obtain ⟨⟨k, v'⟩, hpair, rfl⟩ := List.mem_map.mp hmem
    exact ⟨k, v', ExtTreeMap.mem_toList_iff_getElem?_eq_some.mp hpair, hp⟩
  · rintro ⟨k, v, hv, hp⟩
    exact ⟨v, List.mem_map.mpr ⟨(k, v), ExtTreeMap.mem_toList_iff_getElem?_eq_some.mpr hv, rfl⟩, hp⟩

end Switchgear.Lib
