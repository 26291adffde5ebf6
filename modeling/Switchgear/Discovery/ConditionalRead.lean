/-
  Switchgear.Discovery.ConditionalRead — "not modified" is never stale.

  A client that was once answered a list under an etag, and is later answered
  "not modified" for that etag, may keep its list: it is the content of the
  store at that moment.  The memory store answers `get_all` in one step under
  its mutex.  The database store reads the etag and the rows in two statements,
  between which any mutation may commit; the etag is read FIRST, so a list is
  never newer than the etag it goes out with and can only look older than it is.

  Main result:
    * `not_modified_is_current` — for both stores, any interleaving, fewer than
      `2 ^ 63` mutations.
-/
import Switchgear.Discovery.VersionedStore

namespace Switchgear.Discovery

open Switchgear.Lib
open Std (TransOrd LawfulEqOrd)

/-! ## §1. The two statements of `get_all` on the database. -/

section Halves

variable {K : Type} [Ord K] [TransOrd K] [LawfulEqOrd K]

namespace DiscoveryDb

/-- `get_all` up to its row read: "not modified", or the etag to answer with. -/
def getAllEtag (requestEtag : Option UInt64) (db : DiscoveryDb K) :
    DiscoveryBackends K ⊕ UInt64 :=
  if requestEtag = some db.responseEtag then
    .inl { etag := db.responseEtag, backends := none }
  else
    .inr db.responseEtag

/-- The row read of `get_all`, under the etag read before. -/
def getAllRows (responseEtag : UInt64) (db : DiscoveryDb K) : DiscoveryBackends K where
  etag := responseEtag
  backends := some (db.models.map Model.toDomain)

omit [LawfulEqOrd K] in
/-- With nothing in between, the two statements are the method. -/
theorem getAll_eq_halves [ToString K] (requestEtag : Option UInt64) (db : DiscoveryDb K) :
    getAll Faults.none requestEtag db
      = (.ok ((getAllEtag requestEtag db).elim id fun etag => getAllRows etag db), db) := by
  rw [getAll_none]
  unfold getAllEtag
  by_cases hcurrent : requestEtag = some db.responseEtag
  · rw [if_pos hcurrent, if_pos hcurrent]
    rfl
  · rw [if_neg hcurrent, if_neg hcurrent]
    rfl

end DiscoveryDb

end Halves

/-! ## §2. Readers and writers, interleaved. -/

section Interleaved

variable {K ι : Type} [Ord K] [TransOrd K] [LawfulEqOrd K] [ToString K] [DecidableEq ι]

/-- One statement or transaction of some client; `ι` names the `get_all` calls. -/
inductive DbEvent (K ι : Type) where
  | mutate (now : DateTime) (mutation : Mutation K)
  | readEtag (reader : ι) (requestEtag : Option UInt64)
  | readRows (reader : ι)

/-- The tables, and the etag each call between its two reads has in hand. -/
structure DbReaders (K ι : Type) [Ord K] where
  db : DiscoveryDb K
  pending : ι → Option UInt64

def DbReaders.start : DbReaders K ι := { db := DiscoveryDb.migrated, pending := fun _ => none }

/-- The tables with their readers; the answer is the one a `get_all` call gives in
this step, if one does.  A read out of turn does nothing. -/
def dbReaders (eng : Engine) :
    Machine (DbReaders K ι) (DbEvent K ι) (Option (DiscoveryBackends K)) :=
  fun s event =>
    match event with
    | .mutate now m =>
        (none, { s with db := ((DiscoveryDb.backendStore eng Faults.none).mutate now m s.db).2 })
    | .readEtag reader requestEtag =>
        match s.pending reader with
        | some _ => (none, s)
        | none =>
            match DiscoveryDb.getAllEtag requestEtag s.db with
            | .inl answer => (some answer, s)
            | .inr etag => (none, { s with pending := Function.update s.pending reader (some etag) })
    | .readRows reader =>
        match s.pending reader with
        | none => (none, s)
        | some etag =>
            (some (DiscoveryDb.getAllRows etag s.db),
              { s with pending := Function.update s.pending reader none })

/-- How many mutations an event is. -/
def DbEvent.mutations : DbEvent K ι → ℕ
  | .mutate _ _ => 1
  | _ => 0

/-- No call holds an etag from the future. -/
structure DbReaders.Inv (eng : Engine) (s : DbReaders K ι) : Prop where
  wf : (VersionedStore.db eng).Wf s.db
  pending : ∀ reader etag, s.pending reader = some etag → etag.toNat ≤ s.db.responseEtag.toNat

/-- A list that was answered is sound for the tables as they are now. -/
def DbReaders.Fresh (eng : Engine) (answer : Option (DiscoveryBackends K)) (s : DbReaders K ι) :
    Prop :=
  ∀ etag list, answer = some { etag, backends := some list } →
    (VersionedStore.db eng).versioned.Sound s.db etag.toNat list

variable {eng : Engine}

omit [DecidableEq ι] in
theorem DbReaders.Inv.start : DbReaders.Inv eng (DbReaders.start : DbReaders K ι) where
  wf := (VersionedStore.db eng).wf_new
  pending := by
    intro reader etag h
    cases h

/-! What each event does, by the phase of its call. -/

omit [LawfulEqOrd K] in
theorem readEtag_outOfTurn {s : DbReaders K ι} {reader : ι} {etag : UInt64}
    (h : s.pending reader = some etag) (requestEtag : Option UInt64) :
    dbReaders eng s (.readEtag reader requestEtag) = (none, s) := by
  simp only [dbReaders, h]

omit [LawfulEqOrd K] in
theorem readEtag_notModified {s : DbReaders K ι} {reader : ι} (h : s.pending reader = none) :
    dbReaders eng s (.readEtag reader (some s.db.responseEtag))
      = (some { etag := s.db.responseEtag, backends := none }, s) := by
  simp only [dbReaders, h, DiscoveryDb.getAllEtag, if_pos]

omit [LawfulEqOrd K] in
theorem readEtag_modified {s : DbReaders K ι} {reader : ι} {requestEtag : Option UInt64}
    (h : s.pending reader = none) (hmodified : requestEtag ≠ some s.db.responseEtag) :
    dbReaders eng s (.readEtag reader requestEtag)
      = (none, { s with
          pending := Function.update s.pending reader (some s.db.responseEtag) }) := by
  simp only [dbReaders, h, DiscoveryDb.getAllEtag, if_neg hmodified]

omit [LawfulEqOrd K] in
theorem readRows_outOfTurn {s : DbReaders K ι} {reader : ι} (h : s.pending reader = none) :
    dbReaders eng s (.readRows reader) = (none, s) := by
  simp only [dbReaders, h]

omit [LawfulEqOrd K] in
theorem readRows_answers {s : DbReaders K ι} {reader : ι} {etag : UInt64}
    (h : s.pending reader = some etag) :
    dbReaders eng s (.readRows reader)
      = (some (DiscoveryDb.getAllRows etag s.db),
          { s with pending := Function.update s.pending reader none }) := by
  simp only [dbReaders, h]

theorem DbReaders.Inv.update {s : DbReaders K ι} (h : s.Inv eng) (reader : ι)
    {phase : Option UInt64}
    (hphase : ∀ etag, phase = some etag → etag.toNat ≤ s.db.responseEtag.toNat) :
    DbReaders.Inv eng { s with pending := Function.update s.pending reader phase } where
  wf := h.wf
  pending := by
    intro reader' etag hread
    change Function.update s.pending reader phase reader' = some etag at hread
    by_cases hsame : reader' = reader
    · subst hsame
      rw [Function.update_self] at hread
      exact hphase etag hread
    · rw [Function.update_of_ne hsame] at hread
      exact h.pending reader' etag hread

/-- One step keeps the invariant and writes the tables as a mutation does. -/
theorem dbReaders_inv {s : DbReaders K ι} (h : s.Inv eng) (event : DbEvent K ι)
    (hroom : s.db.responseEtag.toNat + event.mutations < etagRoom) :
    (dbReaders eng s event).2.Inv eng
      ∧ (VersionedStore.db eng).versioned.Writes s.db (dbReaders eng s event).2.db
      ∧ (dbReaders eng s event).2.db.responseEtag.toNat
          ≤ s.db.responseEtag.toNat + event.mutations := by
  have hstay : (VersionedStore.db eng).versioned.Writes s.db s.db := .refl _
  cases event with
  | mutate now m =>
      have hwrites := (VersionedStore.db eng).mutate_writes h.wf hroom now m
      refine ⟨⟨((VersionedStore.db eng).mutate_spec s.db h.wf hroom now m).1, ?_⟩, hwrites, ?_⟩
      · intro reader etag hpending
        exact (h.pending reader etag hpending).trans hwrites.version_le
      · exact (VersionedStore.db eng).mutate_etag_le h.wf hroom now m
  | readEtag reader requestEtag =>
      cases hphase : s.pending reader with
      | some etag =>
          rw [readEtag_outOfTurn hphase]
          exact ⟨h, hstay, Nat.le_add_right _ _⟩
      | none =>
          by_cases hcurrent : requestEtag = some s.db.responseEtag
          · rw [hcurrent, readEtag_notModified hphase]
            exact ⟨h, hstay, Nat.le_add_right _ _⟩
          · rw [readEtag_modified hphase hcurrent]
            refine ⟨h.update reader fun etag hetag => ?_, hstay, Nat.le_add_right _ _⟩
            rw [Option.some.inj hetag]
  | readRows reader =>
      cases hphase : s.pending reader with
      | none =>
          rw [readRows_outOfTurn hphase]
          exact ⟨h, hstay, Nat.le_add_right _ _⟩
      | some etag =>
          rw [readRows_answers hphase]
          refine ⟨h.update reader fun etag' hetag => ?_, hstay, Nat.le_add_right _ _⟩
          cases hetag

/-- The etag of an answered list was read before its rows, so the list is sound. -/
theorem dbReaders_fresh {s : DbReaders K ι} (h : s.Inv eng) (event : DbEvent K ι) :
    DbReaders.Fresh eng (dbReaders eng s event).1 (dbReaders eng s event).2 := by
  intro etag list hanswer
  cases event with
  | mutate now m => cases hanswer
  | readEtag reader requestEtag =>
      -- what this step answers, if anything, is "not modified" and carries no list
      cases hphase : s.pending reader with
      | some etag' =>
          rw [readEtag_outOfTurn hphase] at hanswer
          cases hanswer
      | none =>
          by_cases hcurrent : requestEtag = some s.db.responseEtag
          · rw [hcurrent, readEtag_notModified hphase] at hanswer
            cases hanswer
          · rw [readEtag_modified hphase hcurrent] at hanswer
            cases hanswer
  | readRows reader =>
      cases hphase : s.pending reader with
      | none =>
          rw [readRows_outOfTurn hphase] at hanswer
          cases hanswer
      | some etag' =>
          rw [readRows_answers hphase] at hanswer ⊢
          simp only [DiscoveryDb.getAllRows, Option.some.injEq,
            DiscoveryBackends.mk.injEq] at hanswer
          obtain ⟨rfl, rfl⟩ := hanswer
          exact Versioned.sound_of_version_le (h.pending reader _ hphase)

/-- Every list answered in a run is sound for the tables at the end of the run. -/
theorem dbReaders_run_fresh (events : List (DbEvent K ι))
    (hroom : (events.map DbEvent.mutations).sum < etagRoom) :
    ∀ answer ∈ ((dbReaders eng).run DbReaders.start events).1,
      DbReaders.Fresh eng answer ((dbReaders eng).run DbReaders.start events).2 := by
  have hbudget := (dbReaders eng).along_of_budget (DbReaders.Inv eng)
    (fun s => s.db.responseEtag.toNat) DbEvent.mutations etagRoom
    (fun s event hinv hfits => ⟨(dbReaders_inv hinv event hfits).1,
      (dbReaders_inv hinv event hfits).2.2⟩)
    DbReaders.start events DbReaders.Inv.start (by rwa [show
      DbReaders.start.db.responseEtag.toNat = 0 from rfl, Nat.zero_add])
  refine ((dbReaders eng).run_answers (DbReaders.Inv eng) _ (DbReaders.Fresh eng)
    (fun s event hinv hfits => (dbReaders_inv hinv event hfits).1)
    (fun s event hinv _ => dbReaders_fresh hinv event) ?_
    DbReaders.start events DbReaders.Inv.start hbudget).1
  intro s event answer hinv hfits hfresh etag list hanswer
  exact (hfresh etag list hanswer).writes (dbReaders_inv hinv event hfits).2.1

end Interleaved

/-! ## §3. A store that answers in one step. -/

section Atomic

variable {K σ ε : Type} (S : VersionedStore K σ ε)

/-- How many mutations a call is. -/
def Call.mutations : Call K → ℕ
  | .mutate _ => 1
  | _ => 0

/-- A list that was answered is sound for the store as it is now. -/
def VersionedStore.Fresh (answer : Except ε (Answer K)) (s : σ) : Prop :=
  ∀ etag list, answer = .ok (.backends { etag, backends := some list }) →
    S.versioned.Sound s etag.toNat list

/-- One call keeps the store well formed and writes it as a mutation does. -/
theorem VersionedStore.machine_step {s : σ} (hwf : S.Wf s) (call : DateTime × Call K)
    (hroom : (S.etag s).toNat + call.2.mutations < etagRoom) :
    S.Wf (S.store.machine s call).2
      ∧ S.versioned.Writes s (S.store.machine s call).2
      ∧ (S.etag (S.store.machine s call).2).toNat ≤ (S.etag s).toNat + call.2.mutations := by
  obtain ⟨now, call⟩ := call
  cases call with
  | get k =>
      show S.Wf (S.store.get k s).2 ∧ S.versioned.Writes s (S.store.get k s).2
        ∧ (S.etag (S.store.get k s).2).toNat ≤ _
      rw [S.get_eq s hwf]
      exact ⟨hwf, .refl _, Nat.le_add_right _ _⟩
  | getAll etag =>
      show S.Wf (S.store.getAll etag s).2 ∧ S.versioned.Writes s (S.store.getAll etag s).2
        ∧ (S.etag (S.store.getAll etag s).2).toNat ≤ _
      rw [S.getAll_eq s hwf]
      exact ⟨hwf, .refl _, Nat.le_add_right _ _⟩
  | mutate m =>
      exact ⟨(S.mutate_spec s hwf hroom now m).1, S.mutate_writes hwf hroom now m,
        S.mutate_etag_le hwf hroom now m⟩

theorem VersionedStore.machine_fresh {s : σ} (hwf : S.Wf s) (call : DateTime × Call K) :
    S.Fresh (S.store.machine s call).1 (S.store.machine s call).2 := by
  obtain ⟨now, call⟩ := call
  intro etag list hanswer
  cases call with
  | get k =>
      change (S.store.get k s).1.map Answer.backend = _ at hanswer
      rw [S.get_eq s hwf] at hanswer
      cases hanswer
  | getAll requestEtag =>
      change (S.store.getAll requestEtag s).1.map Answer.backends = _ at hanswer
      show S.versioned.Sound (S.store.getAll requestEtag s).2 etag.toNat list
      rw [S.getAll_eq s hwf] at hanswer ⊢
      by_cases hcurrent : requestEtag = some (S.etag s)
      · rw [if_pos hcurrent] at hanswer
        cases hanswer
      · rw [if_neg hcurrent] at hanswer
        cases hanswer
        exact Versioned.sound_self s
  | mutate m =>
      change (S.store.mutate now m s).1.map Answer.mutated = _ at hanswer
      cases hresult : (S.store.mutate now m s).1 with
      | error e =>
          rw [hresult] at hanswer
          cases hanswer
      | ok a =>
          rw [hresult] at hanswer
          cases hanswer

/-- Every list answered in a run is sound for the store at the end of the run. -/
theorem VersionedStore.run_fresh (calls : List (DateTime × Call K))
    (hroom : (calls.map fun call => call.2.mutations).sum < etagRoom) :
    S.Wf (S.store.machine.run S.new calls).2
      ∧ ∀ answer ∈ (S.store.machine.run S.new calls).1,
          S.Fresh answer (S.store.machine.run S.new calls).2 := by
  have hbudget := S.store.machine.along_of_budget S.Wf (fun s => (S.etag s).toNat)
    (fun call => call.2.mutations) etagRoom
    (fun s call hwf hfits => ⟨(S.machine_step hwf call hfits).1, (S.machine_step hwf call hfits).2.2⟩)
    S.new calls S.wf_new (by rwa [S.etag_new, UInt64.toNat_zero, Nat.zero_add])
  have hstep : ∀ s call, S.Wf s → (S.etag s).toNat + call.2.mutations < etagRoom →
      S.Wf (S.store.machine s call).2 :=
    fun s call hwf hfits => (S.machine_step hwf call hfits).1
  refine ⟨S.store.machine.run_invariant S.Wf _ hstep S.new calls S.wf_new hbudget,
    (S.store.machine.run_answers S.Wf _ S.Fresh hstep
      (fun s call hwf _ => S.machine_fresh hwf call) ?_ S.new calls S.wf_new hbudget).1⟩
  intro s call answer hwf hfits hfresh etag list hanswer
  exact (hfresh etag list hanswer).writes (S.machine_step hwf call hfits).2.1

end Atomic

/-! ## §4. The result for both stores. -/

section Result

variable {K ι : Type} [Ord K] [TransOrd K] [LawfulEqOrd K] [ToString K] [DecidableEq ι]

omit [Ord K] [TransOrd K] [LawfulEqOrd K] [ToString K] in
/-- A list answered under `etag` is the content of the store whenever the store
answers "not modified" to it; here for a store that answers in one step. -/
theorem VersionedStore.notModified_eq_content {σ ε : Type} (S : VersionedStore K σ ε)
    (calls : List (DateTime × Call K))
    (hroom : (calls.map fun call => call.2.mutations).sum < etagRoom) {etag etag' : UInt64}
    (hnot : (S.store.getAll (some etag) (S.store.machine.run S.new calls).2).1
      = .ok { etag := etag', backends := none })
    {list : List (DiscoveryBackend K)}
    (hlist : .ok (.backends { etag, backends := some list })
      ∈ (S.store.machine.run S.new calls).1) :
    list = S.content (S.store.machine.run S.new calls).2 := by
  obtain ⟨hwf, hfresh⟩ := S.run_fresh calls hroom
  rw [S.getAll_eq _ hwf] at hnot
  have hetag : some etag = some (S.etag (S.store.machine.run S.new calls).2) := by
    by_contra hne
    rw [if_neg hne] at hnot
    cases hnot
  rw [Option.some.injEq] at hetag
  have hsound := hfresh _ hlist etag list rfl
  rw [hetag] at hsound
  exact hsound.eq_content

/-- The same for the database store, whose two reads are interleaved with anything. -/
theorem DbReaders.notModified_eq_content (eng : Engine) (events : List (DbEvent K ι))
    (hroom : (events.map DbEvent.mutations).sum < etagRoom) {reader : ι} {etag etag' : UInt64}
    (hnot : (dbReaders eng ((dbReaders eng).run DbReaders.start events).2
      (.readEtag reader (some etag))).1 = some { etag := etag', backends := none })
    {list : List (DiscoveryBackend K)}
    (hlist : some { etag, backends := some list }
      ∈ ((dbReaders eng).run DbReaders.start events).1) :
    list = ((dbReaders eng).run DbReaders.start events).2.db.models.map Model.toDomain := by
  have hfresh := dbReaders_run_fresh events hroom _ hlist etag list rfl
  have hetag : some etag
      = some ((dbReaders eng).run DbReaders.start events).2.db.responseEtag := by
    by_contra hne
    cases hphase : ((dbReaders eng).run DbReaders.start events).2.pending reader with
    | some etag'' =>
        rw [readEtag_outOfTurn hphase] at hnot
        cases hnot
    | none =>
        rw [readEtag_modified hphase hne] at hnot
        cases hnot
  rw [Option.some.injEq] at hetag
  rw [hetag] at hfresh
  exact hfresh.eq_content

/-- **"Not modified" is current**: on the memory store and on the database store,
whatever was interleaved before, every list once answered under the etag is the
content of the store when "not modified" is answered to it. -/
theorem not_modified_is_current (eng : Engine) :
    (∀ (calls : List (DateTime × Call K)) (etag etag' : UInt64)
        (list : List (DiscoveryBackend K)),
      let M := (MemoryDiscoveryBackendStore.backendStore (K := K)).machine
      (calls.map fun call => call.2.mutations).sum < 2 ^ 63 →
      ((M.run .new calls).2.getAll (some etag)).1 = .ok { etag := etag', backends := none } →
      .ok (.backends { etag, backends := some list }) ∈ (M.run .new calls).1 →
      list = (M.run .new calls).2.listing)
    ∧ (∀ (events : List (DbEvent K ι)) (reader : ι) (etag etag' : UInt64)
        (list : List (DiscoveryBackend K)),
      let M := dbReaders (ι := ι) eng
      (events.map DbEvent.mutations).sum < 2 ^ 63 →
      (M (M.run .start events).2 (.readEtag reader (some etag))).1
        = some { etag := etag', backends := none } →
      some { etag, backends := some list } ∈ (M.run .start events).1 →
      list = (M.run .start events).2.db.models.map Model.toDomain) := by
  constructor
  · intro calls etag etag' list M hroom hnot hlist
    exact VersionedStore.memory.notModified_eq_content calls hroom hnot hlist
  · intro events reader etag etag' list M hroom hnot hlist
    exact DbReaders.notModified_eq_content eng events hroom hnot hlist

end Result

/-- A list answered before and after a reader took its etag, on both stores. -/
theorem not_modified_is_current_after_post :
    let backend := sampleBackend 1 {"a"}
    let calls := [((0 : DateTime), Call.mutate (.post backend)), (1, .getAll none)]
    let events := [DbEvent.mutate 0 (.post backend), .readEtag 0 none, .readRows 0]
    [backend] = ((MemoryDiscoveryBackendStore.backendStore (K := Nat)).machine.run
        .new calls).2.listing
      ∧ [backend] = ((dbReaders (K := Nat) (ι := Nat) Engine.exact).run
        .start events).2.db.models.map Model.toDomain :=
  ⟨(not_modified_is_current (K := Nat) (ι := Nat) Engine.exact).1 _ 1 1 _
      (by decide) (by decide) (by decide),
    (not_modified_is_current (K := Nat) (ι := Nat) Engine.exact).2 _ 1 1 1 _
      (by decide) (by decide) (by decide)⟩

end Switchgear.Discovery
