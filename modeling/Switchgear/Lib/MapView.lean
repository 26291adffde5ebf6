/-
  Switchgear.Lib.MapView — two maps that show the same through views.

  Two stores keep the same keys with values of different types; a view of
  each value type into a common one says what a caller can see.  `SameView`
  is kept by inserting values that look alike and by erasing a key, and two
  maps with the same view list the same things in the same order.
-/
import Mathlib

namespace Switchgear.Lib

open Std (ExtTreeMap TransCmp LawfulEqCmp)

universe u

variable {K V W C : Type u} {cmp : K → K → Ordering}

/-- Under every key the two maps show the same. -/
def SameView [TransCmp cmp] (f : V → C) (g : W → C) (m : ExtTreeMap K V cmp)
    (d : ExtTreeMap K W cmp) : Prop :=
  ∀ k : K, m[k]?.map f = d[k]?.map g

namespace SameView

variable [TransCmp cmp] {f : V → C} {g : W → C} {m : ExtTreeMap K V cmp}
  {d : ExtTreeMap K W cmp}

theorem empty : SameView f g (∅ : ExtTreeMap K V cmp) (∅ : ExtTreeMap K W cmp) := by
  intro k
  simp

theorem symm (h : SameView f g m d) : SameView g f d m := fun k => (h k).symm

theorem insert (h : SameView f g m d) (k : K) {v : V} {w : W} (hvw : f v = g w) :
    SameView f g (m.insert k v) (d.insert k w) := by
  intro k'
  rw [ExtTreeMap.getElem?_insert, ExtTreeMap.getElem?_insert]
  by_cases hk : cmp k k' = .eq
  · rw [if_pos hk, if_pos hk, Option.map_some, Option.map_some, hvw]
  · rw [if_neg hk, if_neg hk]
    exact h k'

theorem erase (h : SameView f g m d) (k : K) : SameView f g (m.erase k) (d.erase k) := by
  intro k'
  rw [ExtTreeMap.getElem?_erase, ExtTreeMap.getElem?_erase]
  by_cases hk : cmp k k' = .eq
  · rw [if_pos hk, if_pos hk, Option.map_none, Option.map_none]
  · rw [if_neg hk, if_neg hk]
    exact h k'

/-- A key with a value on one side has one on the other, and they look alike. -/
theorem exists_right (h : SameView f g m d) {k : K} {v : V} (hv : m[k]? = some v) :
    ∃ w, d[k]? = some w ∧ f v = g w := by
  have hk := h k
  rw [hv, Option.map_some, eq_comm, Option.map_eq_some_iff] at hk
  obtain ⟨w, hw, hgw⟩ := hk
  exact ⟨w, hw, hgw.symm⟩

theorem none_iff (h : SameView f g m d) (k : K) : m[k]? = none ↔ d[k]? = none := by
  rw [← Option.map_eq_none_iff (f := f), h k, Option.map_eq_none_iff]

theorem mem_iff (h : SameView f g m d) (k : K) : k ∈ m ↔ k ∈ d := by
  have hnone := h.none_iff k
  rw [ExtTreeMap.mem_iff_isSome_getElem?, ExtTreeMap.mem_iff_isSome_getElem?,
    Option.isSome_iff_ne_none, Option.isSome_iff_ne_none, ne_eq, ne_eq, hnone]

/-- The two maps list the same views, in the order of the keys. -/
theorem values_map_eq [LawfulEqCmp cmp] (h : SameView f g m d) :
    (m.toList.map Prod.snd).map f = (d.toList.map Prod.snd).map g := by
  have hmaps : m.map (fun _ => f) = d.map (fun _ => g) := by
    apply ExtTreeMap.ext_getElem?
    intro k
    rw [ExtTreeMap.getElem?_map, ExtTreeMap.getElem?_map]
    exact h k
  have hlists := congrArg (fun t => t.toList.map Prod.snd) hmaps
  simpa only [ExtTreeMap.toList_map, List.map_map, Function.comp_def] using hlists

end SameView

end Switchgear.Lib
