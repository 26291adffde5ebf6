/-
  Switchgear.Pingora.Backend — `pingora_load_balancing::Backend` and sets of
  them.

  Equality, order and hash of a `Backend` use `addr` and `weight` only, so a
  `BTreeSet<Backend>` is a map from these two to the extension, and an insert
  keeps the element that is there.  The address `discover` builds is an IPv6
  address whose low half is a 64-bit hash and whose port is 1: here, the hash.
-/
import Mathlib

namespace Switchgear.Pingora

open Std (ExtTreeMap TransOrd LawfulEqOrd)

structure PingoraLnBackendExtension where
  partitions : Finset String
  deriving DecidableEq

/-- What two `Backend`s are compared by. -/
structure BackendId where
  addr : UInt64
  weight : UInt64
  deriving DecidableEq

instance : Ord BackendId where
  compare a b := (compare a.addr b.addr).then (compare a.weight b.weight)

instance : TransOrd BackendId :=
  inferInstanceAs (Std.TransCmp
    (compareLex (compareOn BackendId.addr) (compareOn BackendId.weight)))

instance : LawfulEqOrd BackendId where
  eq_of_compare {a b} h := by
    obtain ⟨haddr, hweight⟩ := Ordering.then_eq_eq.mp h
    cases a
    cases b
    rw [BackendId.mk.injEq]
    exact ⟨LawfulEqOrd.eq_of_compare haddr, LawfulEqOrd.eq_of_compare hweight⟩

structure Backend where
  id : BackendId
  ext : Option PingoraLnBackendExtension
  deriving DecidableEq

/-- `BTreeSet<Backend>`. -/
abbrev BackendSet := ExtTreeMap BackendId (Option PingoraLnBackendExtension)

namespace BackendSet

/-- `BTreeSet::insert`: an equal element that is there stays. -/
def insertBackend (backends : BackendSet) (backend : Backend) : BackendSet :=
  backends.insertIfNew backend.id backend.ext

theorem getElem?_insertBackend (backends : BackendSet) (backend : Backend) (id : BackendId) :
    (backends.insertBackend backend)[id]?
      = if backend.id = id ∧ backends[id]? = none then some backend.ext else backends[id]? := by
  unfold insertBackend
  rw [ExtTreeMap.getElem?_insertIfNew]
  have hmem : backend.id ∉ backends ↔ backends[backend.id]? = none := by
    rw [ExtTreeMap.mem_iff_isSome_getElem?, Bool.not_eq_true, Option.isSome_eq_false_iff,
      Option.isNone_iff_eq_none]
  by_cases hid : backend.id = id
  · subst hid
    simp only [Std.ReflCmp.compare_self, true_and, hmem]
  · have hne : compare backend.id id ≠ .eq := fun h => hid (LawfulEqOrd.eq_of_compare h)
    simp only [hid, hne, false_and, if_false]

end BackendSet

end Switchgear.Pingora
