/-
  Switchgear.Lib.MapPart — maps that agree on a part of their keys.

  Two maps agree where a test on keys passes.  Agreement is kept by doing the
  same to both under any key, and by doing anything to one of them under a key
  outside the part; and it is enough for a listing of the part.
-/
import Mathlib

namespace Switchgear.Lib

open Std (ExtTreeMap TransCmp LawfulEqCmp)

universe u

variable {K V : Type u} {cmp : K → K → Ordering} [TransCmp cmp]

/-- Under every key of the part the two maps hold the same. -/
def AgreeOn (part : K → Bool) (m d : ExtTreeMap K V cmp) : Prop :=
  ∀ k : K, part k = true → m[k]? = d[k]?

namespace AgreeOn

variable {part : K → Bool} {m d : ExtTreeMap K V cmp}

theorem refl (part : K → Bool) (m : ExtTreeMap K V cmp) : AgreeOn part m m := fun _ _ => rfl

theorem insert (h : AgreeOn part m d) (k : K) (v : V) :
    AgreeOn part (m.insert k v) (d.insert k v) := by
  intro k' hk'
  rw [ExtTreeMap.getElem?_insert, ExtTreeMap.getElem?_insert, h k' hk']

theorem erase (h : AgreeOn part m d) (k : K) : AgreeOn part (m.erase k) (d.erase k) := by
  intro k' hk'
  rw [ExtTreeMap.getElem?_erase, ExtTreeMap.getElem?_erase, h k' hk']

theorem insert_outside [LawfulEqCmp cmp] (h : AgreeOn part m d) {k : K} (hk : part k = false)
    (v : V) : AgreeOn part (m.insert k v) d := by
  intro k' hk'
  have hne : cmp k k' ≠ .eq := by
    intro heq
    rw [LawfulEqCmp.eq_of_compare heq, hk'] at hk
    cases hk
  rw [ExtTreeMap.getElem?_insert, if_neg hne, h k' hk']

theorem erase_outside [LawfulEqCmp cmp] (h : AgreeOn part m d) {k : K} (hk : part k = false) :
    AgreeOn part (m.erase k) d := by
  intro k' hk'
  have hne : cmp k k' ≠ .eq := by
    intro heq
    rw [LawfulEqCmp.eq_of_compare heq, hk'] at hk
    cases hk
  rw [ExtTreeMap.getElem?_erase, if_neg hne, h k' hk']

theorem mem_iff (h : AgreeOn part m d) {k : K} (hk : part k = true) : k ∈ m ↔ k ∈ d := by
  rw [ExtTreeMap.mem_iff_isSome_getElem?, ExtTreeMap.mem_iff_isSome_getElem?, h k hk]

/-- The two parts are listed alike. -/
theorem toList_filter [LawfulEqCmp cmp] (h : AgreeOn part m d) :
    (m.toList.filter fun p => part p.1) = d.toList.filter fun p => part p.1 := by
  have hparts : m.filter (fun k _ => part k) = d.filter (fun k _ => part k) := by
    apply ExtTreeMap.ext_getElem?
    intro k
    rw [ExtTreeMap.getElem?_filter', ExtTreeMap.getElem?_filter']
    by_cases hk : part k = true
    · rw [h k hk]
    · have hfalse : part k = false := by simpa using hk
      simp [hfalse]
  have hlists := congrArg ExtTreeMap.toList hparts
  rwa [ExtTreeMap.toList_filter, ExtTreeMap.toList_filter] at hlists

end AgreeOn

end Switchgear.Lib
