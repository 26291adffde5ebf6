/-
  Switchgear.Lib.KeyedMap — maps whose values carry their own key.

  A table keyed by a column of its rows, or a map of records under the key
  that is a field of them.  `OwnKeys` is kept by inserting a value under its
  own key and by erasing; then the values, in whatever order they are listed,
  are exactly what a lookup finds, one per key.  `EveryValue` is a property of
  all values.
-/
import Mathlib

namespace Switchgear.Lib

open Std (ExtTreeMap TransCmp LawfulEqCmp)

universe u

variable {K V : Type u} {cmp : K → K → Ordering} [TransCmp cmp]

/-- Erasing a key that is not there changes nothing. -/
theorem erase_of_not_mem [LawfulEqCmp cmp] {m : ExtTreeMap K V cmp} {k : K} (h : k ∉ m) :
    m.erase k = m := by
  apply ExtTreeMap.ext_getElem?
  intro k'
  rw [ExtTreeMap.getElem?_erase]
  by_cases hk : cmp k k' = .eq
  · rw [if_pos hk, ← LawfulEqCmp.eq_of_compare hk]
    exact (ExtTreeMap.getElem?_eq_none h).symm
  · rw [if_neg hk]

/-- Two maps that differ in one inserted value are the same IFF the values are. -/
theorem insert_inj {m : ExtTreeMap K V cmp} {k : K} {v w : V} :
    m.insert k v = m.insert k w ↔ v = w := by
  constructor
  · intro h
    -- look the key up on both sides
    have hlookup := congrArg (fun m : ExtTreeMap K V cmp => m[k]?) h
    rw [ExtTreeMap.getElem?_insert_self, ExtTreeMap.getElem?_insert_self] at hlookup
    exact Option.some.inj hlookup
  · intro h
    rw [h]

/-! ## §1. A property of every value. -/

/-- Every value of the map has the property. -/
def EveryValue (P : V → Prop) (m : ExtTreeMap K V cmp) : Prop :=
  ∀ (k : K) (v : V), m[k]? = some v → P v

namespace EveryValue

variable {P Q : V → Prop} {m : ExtTreeMap K V cmp}

theorem empty : EveryValue P (∅ : ExtTreeMap K V cmp) := by
  intro k v h
  rw [ExtTreeMap.getElem?_empty] at h
  cases h

theorem insert (h : EveryValue P m) {v : V} (hv : P v) (k : K) :
    EveryValue P (m.insert k v) := by
  intro k' v' h'
  rw [ExtTreeMap.getElem?_insert] at h'
  by_cases hk : cmp k k' = .eq
  · rw [if_pos hk, Option.some.injEq] at h'
    rw [← h']
    exact hv
  · rw [if_neg hk] at h'
    exact h k' v' h'

theorem erase (h : EveryValue P m) (k : K) : EveryValue P (m.erase k) := by
  intro k' v' h'
  rw [ExtTreeMap.getElem?_erase] at h'
  by_cases hk : cmp k k' = .eq
  · rw [if_pos hk] at h'
    cases h'
  · rw [if_neg hk] at h'
    exact h k' v' h'

theorem mono (h : EveryValue P m) (hPQ : ∀ v, P v → Q v) : EveryValue Q m :=
  fun k v hv => hPQ v (h k v hv)

/-- A property of every value is one of every member of a listing, in whatever order. -/
theorem iff_forall_mem_listing [LawfulEqCmp cmp] {W : Type u} {l : List V}
    (hperm : l.Perm (m.toList.map Prod.snd)) (f : V → W) (Q : W → Prop) :
    EveryValue (fun v => Q (f v)) m ↔ ∀ w ∈ l.map f, Q w := by
  constructor
  · intro h w hw
    obtain ⟨v, hv, rfl⟩ := List.mem_map.mp hw
    obtain ⟨⟨k, v'⟩, hpair, rfl⟩ := List.mem_map.mp (hperm.mem_iff.mp hv)
    exact h k v' (ExtTreeMap.mem_toList_iff_getElem?_eq_some.mp hpair)
  · intro h k v hv
    have hpair := ExtTreeMap.mem_toList_iff_getElem?_eq_some.mpr hv
    have hmem : v ∈ l := hperm.mem_iff.mpr (List.mem_map_of_mem hpair)
    exact h (f v) (List.mem_map_of_mem hmem)

end EveryValue

/-! ## §2. Values under their own keys. -/

/-- Every value is stored under its own key. -/
def OwnKeys (key : V → K) (m : ExtTreeMap K V cmp) : Prop :=
  ∀ (k : K) (v : V), m[k]? = some v → key v = k

namespace OwnKeys

variable {key : V → K} {m : ExtTreeMap K V cmp}

theorem empty : OwnKeys key (∅ : ExtTreeMap K V cmp) := by
  intro k v h
  rw [ExtTreeMap.getElem?_empty] at h
  cases h

theorem insert [LawfulEqCmp cmp] (h : OwnKeys key m) {k : K} {v : V} (hkey : key v = k) :
    OwnKeys key (m.insert k v) := by
  intro k' v' h'
  rw [ExtTreeMap.getElem?_insert] at h'
  by_cases hk : cmp k k' = .eq
  · rw [if_pos hk, Option.some.injEq] at h'
    rw [← h', hkey, LawfulEqCmp.eq_of_compare hk]
  · rw [if_neg hk] at h'
    exact h k' v' h'

theorem erase (h : OwnKeys key m) (k : K) : OwnKeys key (m.erase k) := by
  intro k' v' h'
  rw [ExtTreeMap.getElem?_erase] at h'
  by_cases hk : cmp k k' = .eq
  · rw [if_pos hk] at h'
    cases h'
  · rw [if_neg hk] at h'
    exact h k' v' h'

/-- The values are what a lookup under their own keys finds. -/
theorem mem_values_iff [LawfulEqCmp cmp] (h : OwnKeys key m) (v : V) :
    v ∈ m.toList.map Prod.snd ↔ m[key v]? = some v := by
  constructor
  · intro hmem
    obtain ⟨⟨k, v'⟩, hpair, rfl⟩ := List.mem_map.mp hmem
    have hk := ExtTreeMap.mem_toList_iff_getElem?_eq_some.mp hpair
    rw [h k v' hk]
    exact hk
  · intro hfound
    exact List.mem_map.mpr ⟨(key v, v), ExtTreeMap.mem_toList_iff_getElem?_eq_some.mpr hfound, rfl⟩

/-- One value per key. -/
theorem nodup_keys [LawfulEqCmp cmp] (h : OwnKeys key m) :
    ((m.toList.map Prod.snd).map key).Nodup := by
  have hkeys : (m.toList.map Prod.snd).map key = m.toList.map Prod.fst := by
    rw [List.map_map]
    apply List.map_congr_left
    intro p hp
    exact h p.1 p.2 (ExtTreeMap.mem_toList_iff_getElem?_eq_some.mp hp)
  rw [hkeys, List.nodup_iff_pairwise_ne, List.pairwise_map]
  refine ExtTreeMap.distinct_keys_toList.imp ?_
  intro a b hne heq
  exact hne (heq ▸ Std.ReflCmp.compare_self)

/-- A value under a key that is there takes the place of the one it replaces. -/
theorem values_insert_perm [LawfulEqCmp cmp] [DecidableEq K] (h : OwnKeys key m) {k : K} {v : V}
    (hkey : key v = k) (hmem : k ∈ m) :
    ((m.insert k v).toList.map Prod.snd).Perm
      ((m.toList.map Prod.snd).map fun e => if key e = k then v else e) := by
  have hown := h.insert (v := v) hkey
  have hkeys : (((m.toList.map Prod.snd).map fun e => if key e = k then v else e).map key).Nodup := by
    have hsame : ((m.toList.map Prod.snd).map fun e => if key e = k then v else e).map key
        = (m.toList.map Prod.snd).map key := by
      rw [List.map_map]
      apply List.map_congr_left
      intro e _
      show key (if key e = k then v else e) = key e
      by_cases he : key e = k
      · rw [if_pos he, hkey, he]
      · rw [if_neg he]
    rw [hsame]
    exact h.nodup_keys
  refine (List.perm_ext_iff_of_nodup hown.nodup_keys.of_map hkeys.of_map).mpr ?_
  intro w
  rw [hown.mem_values_iff, List.mem_map, ExtTreeMap.getElem?_insert]
  constructor
  · intro hw
    by_cases hk : cmp k (key w) = .eq
    · rw [if_pos hk, Option.some.injEq] at hw
      obtain ⟨old, hold⟩ := ExtTreeMap.mem_iff_isSome_getElem?.mp hmem |> Option.isSome_iff_exists.mp
      have hold' := h k old hold
      refine ⟨old, (h.mem_values_iff old).mpr (hold' ▸ hold), ?_⟩
      rw [if_pos hold', hw]
    · rw [if_neg hk] at hw
      refine ⟨w, (h.mem_values_iff w).mpr hw, if_neg ?_⟩
      intro heq
      exact hk (heq ▸ Std.ReflCmp.compare_self)
  · rintro ⟨e, he, rfl⟩
    by_cases hk : key e = k
    · rw [if_pos hk, hkey, if_pos Std.ReflCmp.compare_self]
    · rw [if_neg hk, if_neg fun heq => hk (LawfulEqCmp.eq_of_compare heq).symm]
      exact (h.mem_values_iff e).mp he

/-! A listing: the values in some order, each shown through `f`. -/

variable [LawfulEqCmp cmp] {W : Type u} {f : V → W} {keyOf : W → K} {l : List V}

theorem mem_listing_iff (h : OwnKeys key m) (hperm : l.Perm (m.toList.map Prod.snd))
    (hkey : ∀ v, keyOf (f v) = key v) (w : W) :
    w ∈ l.map f ↔ m[keyOf w]?.map f = some w := by
  rw [List.mem_map, Option.map_eq_some_iff]
  constructor
  · rintro ⟨v, hv, rfl⟩
    refine ⟨v, ?_, rfl⟩
    rw [hkey]
    exact (h.mem_values_iff v).mp (hperm.mem_iff.mp hv)
  · rintro ⟨v, hv, rfl⟩
    rw [hkey] at hv
    exact ⟨v, hperm.mem_iff.mpr ((h.mem_values_iff v).mpr hv), rfl⟩

theorem nodup_listing (h : OwnKeys key m) (hperm : l.Perm (m.toList.map Prod.snd))
    (hkey : ∀ v, keyOf (f v) = key v) : ((l.map f).map keyOf).Nodup := by
  have hkeys : (l.map f).map keyOf = l.map key := by
    rw [List.map_map]
    exact List.map_congr_left fun v _ => hkey v
  rw [hkeys]
  exact (hperm.map key).nodup_iff.mpr h.nodup_keys

end OwnKeys

end Switchgear.Lib
