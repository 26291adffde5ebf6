/-
  Switchgear.Offer.PutRace — `put_offer` and `delete_offer` calls of any number of
  clients on one database.

  A put reads the clock, runs its upsert and then fetches the two timestamps of
  the row, each statement on its own; other calls may run in between.  What its
  fetch sees is the row as the LAST writers left it, so the answer says whether
  that row looks updated, not whether this put found one.

  Beside the database the state keeps what the calls have done to each row
  (`RowHistory`), so that the condition can be stated without its columns.

  Main results:
    * `puts_answer_right_iff` — every put of an interleaving answers right exactly
      if every fetch finds its row with a history that fits (`FetchInStep`),
    * `undisturbed_along` — a put nobody gets between fits.
-/
import Switchgear.Offer.Db

namespace Switchgear.Offer

open Switchgear.Lib
open Std (ExtTreeMap)

/-! ## §1. The history of a row. -/

/-- The clock readings of the put that inserted the row, and of the last put that
updated it. -/
structure RowHistory where
  inserted : DateTime
  updated : Option DateTime
  deriving DecidableEq

namespace RowHistory

/-- What an upsert makes of the history. -/
def written (now : DateTime) : Option RowHistory → RowHistory
  | none => { inserted := now, updated := none }
  | some history => { history with updated := some now }

/-- The two timestamps the columns hold. -/
def timestamps (eng : Engine) (history : RowHistory) : DateTime × DateTime :=
  (eng.storeTimestamp history.inserted,
    match history.updated with
    | none => eng.storeTimestamp history.inserted
    | some now => eng.storeTimestamp (now + second))

/-- The row was updated, and not by a put that read the clock exactly a second before the
put that inserted it. -/
def ShowsUpdate (eng : Engine) (history : RowHistory) : Prop :=
  ∃ now ∈ history.updated,
    eng.storeTimestamp (now + second) ≠ eng.storeTimestamp history.inserted

instance (eng : Engine) (history : RowHistory) : Decidable (history.ShowsUpdate eng) :=
  inferInstanceAs (Decidable (∃ now ∈ history.updated,
    eng.storeTimestamp (now + second) ≠ eng.storeTimestamp history.inserted))

theorem timestamps_differ_iff (eng : Engine) (history : RowHistory) :
    (history.timestamps eng).1 ≠ (history.timestamps eng).2 ↔ history.ShowsUpdate eng := by
  unfold timestamps ShowsUpdate
  cases history.updated with
  | none => simp
  | some now => simp [eq_comm]

end RowHistory

/-! ## §2. Calls in flight. -/

section Race

variable {A C : Type}

/-- How far a put of a client has come; `existed`: a row was there when its upsert ran. -/
inductive PutPhase (A : Type) where
  | idle
  | started (now : DateTime) (offer : OfferRecord A)
  | upserted (offer : OfferRecord A) (existed : Bool)

/-- The database, the puts of the clients and the histories of the rows. -/
structure PutRaceState (A C : Type) where
  db : OfferDb
  puts : C → PutPhase A
  history : OfferKey → Option RowHistory

/-- The next step of a client's put, or a delete of anybody. -/
inductive PutEvent (A C : Type) where
  | start (client : C) (now : DateTime) (offer : OfferRecord A)
  | upsert (client : C)
  | fetch (client : C)
  | delete (partition : String) (id : Uuid)

/-- The clock reading of an event that takes one. -/
def PutEvent.clock : PutEvent A C → Option DateTime
  | .start _ now _ => some now
  | _ => none

/-- What a put answers, and whether a row was there when its upsert ran. -/
structure PutAnswer where
  existed : Bool
  result : Except OfferStoreError Bool

/-- `Ok(true)` for a new row, `Ok(false)` for one that was there. -/
def PutAnswer.Right (answer : PutAnswer) : Prop := answer.result = .ok (!answer.existed)

instance (answer : PutAnswer) : Decidable answer.Right :=
  match h : answer.result with
  | .ok created =>
      decidable_of_iff (created = !answer.existed) (by unfold PutAnswer.Right; rw [h]; simp)
  | .error e => isFalse (by unfold PutAnswer.Right; rw [h]; simp)

variable [DecidableEq C]

def PutRaceState.setPhase (s : PutRaceState A C) (client : C) (phase : PutPhase A) :
    PutRaceState A C :=
  { s with puts := Function.update s.puts client phase }

def PutRaceState.setHistory (s : PutRaceState A C) (key : OfferKey)
    (history : Option RowHistory) : PutRaceState A C :=
  { s with history := Function.update s.history key history }

variable [Repr A] (eng : Engine)

/-- One statement, or the start of a put; an event that is not the next step of its client
does nothing.  No statement fails but for a violated foreign key. -/
def putRace : Machine (PutRaceState A C) (PutEvent A C) (Option PutAnswer)
  | s, .start client now offer =>
      match s.puts client with
      | .idle => (none, s.setPhase client (.started now offer))
      | _ => (none, s)
  | s, .upsert client =>
      match s.puts client with
      | .started now offer =>
          let existed := decide (offer.key ∈ s.db.offers)
          match OfferDb.putOfferUpsert eng Faults.none now offer s.db with
          | (.error e, db) =>
              -- the reference is gone: the put ends here, with no fetch
              (some { existed, result := .error e }, { s with db := db }.setPhase client .idle)
          | (.ok (), db) =>
              (none, ({ s with db := db }.setPhase client (.upserted offer existed)).setHistory offer.key
                (some (.written now (s.history offer.key))))
      | _ => (none, s)
  | s, .fetch client =>
      match s.puts client with
      | .upserted offer existed =>
          let (result, db) := OfferDb.putOfferFetch Faults.none offer.key s.db
          (some { existed, result }, { s with db := db }.setPhase client .idle)
      | _ => (none, s)
  | s, .delete partition id =>
      -- a delete is one statement, and may fall between the two of a put
      let (_, db) := OfferDb.deleteOffer Faults.none partition id s.db
      (none, { s with db := db }.setHistory { partition, id } none)

/-- A put alone: its three steps answer as `put_offer` does. -/
theorem putRace_alone {s : PutRaceState A C} {client : C} (hidle : s.puts client = .idle)
    (now : DateTime) (offer : OfferRecord A) (hparent : offer.metadataKey ∈ s.db.metadata) :
    ((putRace eng).run s [.start client now offer, .upsert client, .fetch client]).1
        = [none, none, some
            { existed := decide (offer.key ∈ s.db.offers)
              result := (OfferDb.putOffer eng Faults.none now offer s.db).1 }]
      ∧ ((putRace eng).run s [.start client now offer, .upsert client, .fetch client]).2.db
        = (OfferDb.putOffer eng Faults.none now offer s.db).2 := by
  unfold OfferDb.putOffer
  simp [putRace, hidle, PutRaceState.setPhase, PutRaceState.setHistory,
    OfferDb.putOfferUpsert_ok now hparent]

/-! ## §3. The history tells what the columns hold. -/

/-- The histories are those of the rows that are there. -/
def Tracks (db : OfferDb) (history : OfferKey → Option RowHistory) : Prop :=
  ∀ key : OfferKey, db.offers[key]?.map (fun row => (row.createdAt, row.updatedAt))
    = (history key).map (RowHistory.timestamps eng)

theorem tracks_no_offers {db : OfferDb} (hempty : db.offers = ∅) :
    Tracks eng db fun _ => none := by
  intro key
  rw [hempty, ExtTreeMap.getElem?_empty]
  rfl

variable {eng} {db : OfferDb} {history : OfferKey → Option RowHistory}

omit [Repr A] in
/-- The upsert does to the columns what it does to the history. -/
theorem putRow_timestamps (h : Tracks eng db history) (now : DateTime) (offer : OfferRecord A) :
    ((OfferDb.putRow eng now offer db).createdAt, (OfferDb.putRow eng now offer db).updatedAt)
      = (RowHistory.written now (history offer.key)).timestamps eng := by
  have hkey := h offer.key
  unfold OfferDb.putRow
  cases hrow : db.offers[offer.key]? with
  | none =>
      rw [hrow, Option.map_none, eq_comm, Option.map_eq_none_iff] at hkey
      rw [hkey]
      rfl
  | some row =>
      rw [hrow, Option.map_some, eq_comm, Option.map_eq_some_iff] at hkey
      obtain ⟨old, hold, hsame⟩ := hkey
      rw [hold]
      show (row.createdAt, eng.storeTimestamp (now + second)) = _
      rw [← (Prod.mk.inj hsame).1]
      rfl

theorem Tracks.insert (h : Tracks eng db history) {key : OfferKey} {row : OfferModel}
    {new : RowHistory} (hrow : (row.createdAt, row.updatedAt) = new.timestamps eng) :
    Tracks eng { db with offers := db.offers.insert key row }
      (Function.update history key (some new)) := by
  intro key'
  dsimp only
  rw [ExtTreeMap.getElem?_insert]
  by_cases hkey : key = key'
  · subst hkey
    rw [Function.update_self, if_pos (Std.ReflCmp.compare_self), Option.map_some, hrow]
    rfl
  · rw [Function.update_of_ne (Ne.symm hkey),
      if_neg fun heq => hkey (Std.LawfulEqOrd.eq_of_compare heq)]
    exact h key'

theorem Tracks.erase (h : Tracks eng db history) (key : OfferKey) :
    Tracks eng { db with offers := db.offers.erase key } (Function.update history key none) := by
  intro key'
  dsimp only
  rw [ExtTreeMap.getElem?_erase]
  by_cases hkey : key = key'
  · subst hkey
    rw [Function.update_self, if_pos (Std.ReflCmp.compare_self)]
    rfl
  · rw [Function.update_of_ne (Ne.symm hkey),
      if_neg fun heq => hkey (Std.LawfulEqOrd.eq_of_compare heq)]
    exact h key'

/-- The fetch answers `Ok(created)` exactly if the row is there with a history that shows an
update exactly when `created` is false. -/
theorem putOfferFetch_ok_iff (h : Tracks eng db history) (key : OfferKey) (created : Bool) :
    (OfferDb.putOfferFetch Faults.none key db).1 = .ok created
      ↔ ∃ row ∈ history key, (created = false ↔ row.ShowsUpdate eng) := by
  have hkey := h key
  cases hhistory : history key with
  | none =>
      rw [hhistory, Option.map_none, Option.map_eq_none_iff] at hkey
      rw [OfferDb.putOfferFetch_none hkey]
      simp
  | some old =>
      rw [hhistory, Option.map_some, Option.map_eq_some_iff] at hkey
      obtain ⟨row, hrow, hsame⟩ := hkey
      rw [OfferDb.putOfferFetch_some hrow]
      have hdiffer : row.createdAt ≠ row.updatedAt ↔ old.ShowsUpdate eng := by
        rw [← old.timestamps_differ_iff eng, ← hsame]
      simp only [Option.mem_some_iff, exists_eq_left', ← hdiffer, Except.ok.injEq]
      cases created <;> simp

/-! ## §4. Which interleavings are answered right. -/

variable (eng)

/-- The offer a put starts with refers to metadata that is there. -/
def PutEvent.ReferenceExists (db : OfferDb) : PutEvent A C → Prop
  | .start _ _ offer => offer.metadataKey ∈ db.metadata
  | _ => True

instance (db : OfferDb) : (event : PutEvent A C) → Decidable (event.ReferenceExists db)
  | .start _ _ offer => inferInstanceAs (Decidable (offer.metadataKey ∈ db.metadata))
  | .upsert _ | .fetch _ | .delete _ _ => isTrue trivial

/-- The row of a put whose upsert ran is there, and shows an update since its insertion
exactly if the put found a row. -/
def PutPhase.InStep (history : OfferKey → Option RowHistory) : PutPhase A → Prop
  | .upserted offer existed =>
      ∃ row ∈ history offer.key, (existed = true ↔ row.ShowsUpdate eng)
  | _ => True

instance (history : OfferKey → Option RowHistory) :
    (phase : PutPhase A) → Decidable (phase.InStep eng history)
  | .upserted offer existed =>
      inferInstanceAs (Decidable
        (∃ row ∈ history offer.key, (existed = true ↔ row.ShowsUpdate eng)))
  | .idle | .started _ _ => isTrue trivial

/-- A fetch runs in step. -/
def FetchInStep (s : PutRaceState A C) : PutEvent A C → Prop
  | .fetch client => (s.puts client).InStep eng s.history
  | _ => True

instance (s : PutRaceState A C) : (event : PutEvent A C) → Decidable (FetchInStep eng s event)
  | .fetch client => inferInstanceAs (Decidable ((s.puts client).InStep eng s.history))
  | .start _ _ _ | .upsert _ | .delete _ _ => isTrue trivial

/-- No client has begun. -/
def PutRaceState.begin (db : OfferDb) (history : OfferKey → Option RowHistory) :
    PutRaceState A C where
  db
  puts := fun _ => .idle
  history

/-- What every state of an interleaving satisfies, over metadata that stays. -/
structure PutRaceInv (metadata : ExtTreeMap OfferKey MetadataModel) (s : PutRaceState A C) :
    Prop where
  sameMetadata : s.db.metadata = metadata
  tracks : Tracks eng s.db s.history
  references : ∀ (client : C) (now : DateTime) (offer : OfferRecord A),
    s.puts client = .started now offer → offer.metadataKey ∈ metadata

variable {metadata : ExtTreeMap OfferKey MetadataModel} {s : PutRaceState A C}

omit [Repr A] in
/-- A client in another phase than "started" refers to nothing yet. -/
theorem references_setPhase {puts : C → PutPhase A}
    (h : ∀ (client : C) (now : DateTime) (offer : OfferRecord A),
      puts client = .started now offer → offer.metadataKey ∈ metadata)
    (client : C) {phase : PutPhase A}
    (hphase : ∀ (now : DateTime) (offer : OfferRecord A),
      phase = .started now offer → offer.metadataKey ∈ metadata) :
    ∀ (client' : C) (now : DateTime) (offer : OfferRecord A),
      Function.update puts client phase client' = .started now offer →
        offer.metadataKey ∈ metadata := by
  intro client' now offer hstarted
  by_cases hclient : client' = client
  · subst hclient
    rw [Function.update_self] at hstarted
    exact hphase now offer hstarted
  · rw [Function.update_of_ne hclient] at hstarted
    exact h client' now offer hstarted

/-- **One statement**: the invariant is kept, and a put that ends with it answers right
exactly if it is in step. -/
theorem putRace_step (h : PutRaceInv eng metadata s) {event : PutEvent A C}
    (hreference : ∀ (client : C) (now : DateTime) (offer : OfferRecord A),
      event = .start client now offer → offer.metadataKey ∈ metadata) :
    PutRaceInv eng metadata (putRace eng s event).2
      ∧ ((∀ answer ∈ (putRace eng s event).1, answer.Right) ↔ FetchInStep eng s event) := by
  cases event with
  | start client now offer =>
      refine ⟨?_, iff_of_true (by simp only [putRace]; split <;> simp) trivial⟩
      simp only [putRace]
      cases hphase : s.puts client with
      | started _ _ => exact h
      | upserted _ _ => exact h
      | idle =>
          refine ⟨h.sameMetadata, h.tracks, references_setPhase h.references client ?_⟩
          intro now' offer' hstarted
          obtain ⟨-, rfl⟩ := PutPhase.started.inj hstarted
          exact hreference client now offer rfl
  | upsert client =>
      cases hphase : s.puts client with
      | idle => simpa [putRace, hphase, FetchInStep, PutPhase.InStep] using h
      | upserted _ _ => simpa [putRace, hphase, FetchInStep, PutPhase.InStep] using h
      | started now offer =>
          have hparent : offer.metadataKey ∈ s.db.metadata := by
            rw [h.sameMetadata]
            exact h.references client now offer hphase
          have hrow := putRow_timestamps h.tracks now offer
          simp only [putRace, hphase, OfferDb.putOfferUpsert_ok now hparent]
          refine ⟨⟨h.sameMetadata, h.tracks.insert hrow,
            references_setPhase h.references client fun _ _ hstarted => ?_⟩, ?_⟩
          · cases hstarted
          · simp [FetchInStep]
  | fetch client =>
      cases hphase : s.puts client with
      | idle => simpa [putRace, hphase, FetchInStep, PutPhase.InStep] using h
      | started _ _ => simpa [putRace, hphase, FetchInStep, PutPhase.InStep] using h
      | upserted offer existed =>
          have hanswer := putOfferFetch_ok_iff h.tracks offer.key (!existed)
          have hstate : (OfferDb.putOfferFetch Faults.none offer.key s.db).2 = s.db := rfl
          simp only [putRace, hphase, FetchInStep, PutPhase.InStep]
          refine ⟨⟨h.sameMetadata, h.tracks,
            references_setPhase h.references client fun _ _ hstarted => ?_⟩, ?_⟩
          · cases hstarted
          · simpa [PutAnswer.Right] using hanswer
  | delete partition id =>
      simp only [putRace, OfferDb.deleteOffer_none]
      refine ⟨⟨h.sameMetadata, h.tracks.erase _, h.references⟩, ?_⟩
      simp [FetchInStep]

/-- **Exactly these interleavings are answered right**: from any database whose rows have
the given histories, with references that exist, every put of any number of clients answers
whether its upsert found a row exactly if every fetch is in step. -/
theorem puts_answer_right_iff (eng : Engine) {db : OfferDb}
    {history : OfferKey → Option RowHistory} (htracks : Tracks eng db history)
    (events : List (PutEvent A C)) (hreferences : ∀ event ∈ events, event.ReferenceExists db) :
    (∀ step ∈ ((putRace eng).run (PutRaceState.begin db history) events).1,
        ∀ answer ∈ step, answer.Right)
      ↔ (putRace eng).Along (FetchInStep eng) (PutRaceState.begin db history) events := by
  refine (putRace eng).run_forall_iff (PutRaceInv eng db.metadata)
    (fun event => event.ReferenceExists db) _ (FetchInStep eng) ?_ _ events ?_ hreferences
  · intro s event h hreference
    apply putRace_step eng h
    intro client now offer hstart
    subst hstart
    exact hreference
  · refine ⟨rfl, htracks, ?_⟩
    intro client now offer hstarted
    cases hstarted

/-! ## §5. Puts nobody gets between. -/

/-- The put is between its upsert and its fetch, on this key. -/
def PutPhase.Between (key : OfferKey) : PutPhase A → Prop
  | .upserted offer _ => offer.key = key
  | _ => False

/-- No upsert or delete of another client runs while a put on its key is between its two
statements, and no put updates a row whose insertion read the clock exactly a second later
than itself. -/
def Undisturbed (s : PutRaceState A C) : PutEvent A C → Prop
  | .upsert client =>
      ∀ (now : DateTime) (offer : OfferRecord A), s.puts client = .started now offer →
        (∀ other ≠ client, ¬ (s.puts other).Between offer.key)
        ∧ ∀ row ∈ s.history offer.key,
            eng.storeTimestamp (now + second) ≠ eng.storeTimestamp row.inserted
  | .delete partition id => ∀ client : C, ¬ (s.puts client).Between { partition, id }
  | _ => True

omit [DecidableEq C] [Repr A] in
/-- The history of another key does not matter to a put. -/
theorem inStep_update {history : OfferKey → Option RowHistory} {phase : PutPhase A}
    (h : phase.InStep eng history) {key : OfferKey} (hkey : ¬ phase.Between key)
    (new : Option RowHistory) : phase.InStep eng (Function.update history key new) := by
  cases phase with
  | idle => trivial
  | started _ _ => trivial
  | upserted offer existed =>
      have hne : offer.key ≠ key := hkey
      show ∃ row ∈ Function.update history key new offer.key, _
      rw [Function.update_of_ne hne]
      exact h

/-- Right after its upsert a put is in step, the exact second apart. -/
theorem inStep_written {db : OfferDb} {history : OfferKey → Option RowHistory}
    (h : Tracks eng db history) {now : DateTime} {key : OfferKey}
    (hsecond : ∀ row ∈ history key,
      eng.storeTimestamp (now + second) ≠ eng.storeTimestamp row.inserted) :
    key ∈ db.offers ↔ (RowHistory.written now (history key)).ShowsUpdate eng := by
  have hkey := h key
  rw [ExtTreeMap.mem_iff_isSome_getElem?]
  cases hhistory : history key with
  | none =>
      rw [hhistory, Option.map_none, Option.map_eq_none_iff] at hkey
      rw [hkey]
      simp [RowHistory.written, RowHistory.ShowsUpdate]
  | some old =>
      rw [hhistory, Option.map_some, Option.map_eq_some_iff] at hkey
      obtain ⟨row, hrow, -⟩ := hkey
      rw [hrow]
      have hold := hsecond old hhistory
      simpa [RowHistory.written, RowHistory.ShowsUpdate] using hold

/-- Every put between its statements is in step, and stays so. -/
theorem putRace_step_undisturbed (h : PutRaceInv eng metadata s)
    (hputs : ∀ client : C, (s.puts client).InStep eng s.history) {event : PutEvent A C}
    (hundisturbed : Undisturbed eng s event) :
    ∀ client : C,
      ((putRace eng s event).2.puts client).InStep eng (putRace eng s event).2.history := by
  cases event with
  | start client now offer =>
      intro other
      cases hphase : s.puts client with
      | started _ _ => simpa [putRace, hphase] using hputs other
      | upserted _ _ => simpa [putRace, hphase] using hputs other
      | idle =>
          simp only [putRace, hphase, PutRaceState.setPhase]
          by_cases hother : other = client
          · rw [hother, Function.update_self]
            trivial
          · rw [Function.update_of_ne hother]
            exact hputs other
  | upsert client =>
      intro other
      cases hphase : s.puts client with
      | idle => simpa [putRace, hphase] using hputs other
      | upserted _ _ => simpa [putRace, hphase] using hputs other
      | started now offer =>
          obtain ⟨hothers, hsecond⟩ := hundisturbed now offer hphase
          have hparent : offer.metadataKey ∈ s.db.metadata := by
            rw [h.sameMetadata]
            exact h.references client now offer hphase
          simp only [putRace, hphase, OfferDb.putOfferUpsert_ok now hparent,
            PutRaceState.setPhase, PutRaceState.setHistory]
          by_cases hother : other = client
          · rw [hother, Function.update_self]
            have hwritten := inStep_written eng h.tracks hsecond
            refine ⟨_, Function.update_self .., ?_⟩
            rw [decide_eq_true_iff]
            exact hwritten
          · rw [Function.update_of_ne hother]
            exact inStep_update eng (hputs other) (hothers other hother) _
  | fetch client =>
      intro other
      cases hphase : s.puts client with
      | idle => simpa [putRace, hphase] using hputs other
      | started _ _ => simpa [putRace, hphase] using hputs other
      | upserted offer existed =>
          simp only [putRace, hphase, PutRaceState.setPhase]
          by_cases hother : other = client
          · rw [hother, Function.update_self]
            trivial
          · rw [Function.update_of_ne hother]
            exact hputs other
  | delete partition id =>
      intro other
      simp only [putRace, OfferDb.deleteOffer_none, PutRaceState.setHistory]
      exact inStep_update eng (hputs other) (hundisturbed other) _

/-- **In an undisturbed interleaving every fetch is in step.** -/
theorem undisturbed_along (eng : Engine) {db : OfferDb}
    {history : OfferKey → Option RowHistory} (htracks : Tracks eng db history)
    {events : List (PutEvent A C)} (hreferences : ∀ event ∈ events, event.ReferenceExists db)
    (hundisturbed : (putRace eng).Along (Undisturbed eng) (PutRaceState.begin db history)
      events) :
    (putRace eng).Along (FetchInStep eng) (PutRaceState.begin db history) events := by
  have hrefs := (putRace (A := A) (C := C) eng).along_of_forall
    (P := fun _ event => event.ReferenceExists db) (PutRaceState.begin db history) events
    fun event hevent _ => hreferences event hevent
  refine Machine.Along.of_invariant
    (fun s => PutRaceInv eng db.metadata s
      ∧ ∀ client : C, (s.puts client).InStep eng s.history) ?_ ?_ ?_ (hundisturbed.and hrefs)
  · intro s event h hevent
    obtain ⟨hinv, hputs⟩ := h
    refine ⟨(putRace_step eng hinv ?_).1, putRace_step_undisturbed eng hinv hputs hevent.1⟩
    intro client now offer hstart
    have hreference := hevent.2
    rw [hstart] at hreference
    exact hreference
  · intro s event h hevent
    cases event with
    | fetch client => exact h.2 client
    | start _ _ _ => trivial
    | upsert _ => trivial
    | delete _ _ => trivial
  · refine ⟨⟨rfl, htracks, ?_⟩, fun _ => trivial⟩
    intro client now offer hstarted
    cases hstarted

end Race

/-! ## §6. Two puts of one new key. -/

/-- One metadata row and no offer. -/
def menuDb : OfferDb where
  offers := ∅
  metadata := (∅ : ExtTreeMap OfferKey MetadataModel).insert { partition := "default", id := 7 }
    { partition := "default", id := 7, metadata := .object [], createdAt := 0, updatedAt := 0 }

def menuOffer : OfferRecord String where
  partition := "default"
  id := 1
  offer :=
    { maxSendable := 2000
      minSendable := 1000
      metadataId := 7
      metadata := none
      timestamp := 0
      expires := none }

theorem puts_one_after_the_other :
    Tracks Engine.exact menuDb (fun _ => none)
    ∧ ∀ step ∈ ((putRace Engine.exact).run (PutRaceState.begin menuDb fun _ => none)
        [.start (0 : ℕ) 0 menuOffer, .upsert 0, .fetch 0, .start 1 5 menuOffer, .upsert 1,
          .fetch 1, .delete "default" 1]).1,
      ∀ answer ∈ step, answer.Right :=
  ⟨tracks_no_offers Engine.exact rfl,
    (puts_answer_right_iff Engine.exact (tracks_no_offers Engine.exact rfl) _ (by decide)).mpr
      (by decide)⟩

/-- A second client upserts or deletes the row before the first has fetched: a row the first
put inserted is answered as replaced, or its put fails after all. -/
theorem put_answers_for_another :
    ¬ ∀ (eng : Engine) (db : OfferDb) (history : OfferKey → Option RowHistory)
        (events : List (PutEvent String ℕ)),
      Tracks eng db history →
      (events.filterMap PutEvent.clock).Pairwise (· ≤ ·) →
      (∀ event ∈ events, event.ReferenceExists db) →
      ∀ step ∈ ((putRace eng).run (PutRaceState.begin db history) events).1,
        ∀ answer ∈ step, answer.Right := by
  intro h
  have hrun := h Engine.exact menuDb (fun _ => none)
    [.start 0 0 menuOffer, .upsert 0, .start 1 1 menuOffer, .upsert 1, .fetch 0,
      .delete "default" 1, .fetch 1]
    (tracks_no_offers Engine.exact rfl) (by decide) (by decide)
  revert hrun
  decide

end Switchgear.Offer
