/-
  Switchgear.Lib.Paging — reading a sorted listing page by page while its
  entries are replaced.

  A reader asks for the entries from an offset on, `count` at a time, and moves
  the offset by what it asked for.  Between two pages the collection changes.
  What it receives is a listing of the collection as it was at the start
  exactly as far as the part it has not read yet stays the same.

    * `drop_sort_replaced` — a replacement that moves entries only inside the
      part before an offset leaves the listing behind the offset alone,
    * `read_inv`, `paging_inv` — what one page, and a whole run, keep,
    * `paging_progress` — how far the reader is after so many pages.
-/
import Switchgear.Lib.Machine

namespace Switchgear.Lib

/-! ## §1. A sorted listing whose entries are replaced. -/

section Replaced

variable {V I : Type} {le : V → V → Prop} [DecidableRel le] {rep : V → V} {id : V → I}
  {entries : List V}

/-- Entries of the sorted listing have different ids, pair by pair. -/
theorem sorted_ids_ne (hnodup : (entries.map id).Nodup) :
    (entries.insertionSort le).Pairwise fun e f => id e ≠ id f := by
  have hperm := (List.perm_insertionSort le entries).map id
  exact List.pairwise_map.mp (hperm.nodup_iff.mpr hnodup)

omit [DecidableRel le] in
/-- Behind `start` is the second part of a list, if both parts are as long as those of a list
that is cut there. -/
theorem drop_of_lengths {l read unread : List V} {start : ℕ}
    (hread : read.length = (l.take start).length)
    (hunread : unread.length = (l.drop start).length) :
    (read ++ unread).drop start = unread := by
  rw [List.length_take] at hread
  rw [List.length_drop] at hunread
  by_cases hle : start ≤ l.length
  · have hstart : read.length = start := by omega
    rw [← hstart, List.drop_left]
  · have hnil : unread = [] := List.length_eq_zero_iff.mp (by omega)
    rw [hnil, List.append_nil, List.drop_eq_nil_of_le (by omega)]

/-- Replacing entries by others with their ids leaves the listing behind `start` alone, if
it keeps the order of any two of them that are not both before `start`. -/
theorem drop_sort_replaced [Std.Total le] [IsTrans V le] (hid : ∀ v, id (rep v) = id v)
    (hnodup : (entries.map id).Nodup) (hanti : ∀ a b, le a b → le b a → id a = id b) (start : ℕ)
    (hkeep : ∀ e ∈ entries, ∀ f ∈ entries, id e ≠ id f → le e f →
      le (rep e) (rep f) ∨ (e ∈ (entries.insertionSort le).take start
        ∧ f ∈ (entries.insertionSort le).take start)) :
    (((entries.map rep).insertionSort le).drop start).map id
      = ((entries.insertionSort le).drop start).map id := by
  generalize hread : (entries.insertionSort le).take start = read at hkeep
  generalize hunread : (entries.insertionSort le).drop start = unread
  have hsplit : entries.insertionSort le = read ++ unread := by
    rw [← hread, ← hunread, List.take_append_drop]
  have hperm : (read ++ unread).Perm entries := by
    rw [← hsplit]
    exact List.perm_insertionSort le entries
  have hsorted : (read ++ unread).Pairwise fun e f => le e f ∧ id e ≠ id f := by
    rw [← hsplit]
    exact (List.pairwise_insertionSort le entries).and (sorted_ids_ne hnodup)
  have hmem : ∀ {e}, e ∈ read ++ unread → e ∈ entries := fun h => hperm.mem_iff.mp h
  obtain ⟨-, hbehind, hacross⟩ := List.pairwise_append.mp hsorted
  -- an entry is not both before `start` and behind it
  have hnotRead : ∀ f ∈ unread, f ∉ read := fun f hf hfr => (hacross f hfr f hf).2 rfl
  have hbehind' : (unread.map rep).Pairwise le := by
    refine List.pairwise_map.mpr (hbehind.imp_of_mem ?_)
    intro e f he hf hef
    rcases hkeep e (hmem (List.mem_append_right _ he)) f (hmem (List.mem_append_right _ hf))
      hef.2 hef.1 with hle | hboth
    · exact hle
    · exact absurd hboth.1 (hnotRead e he)
  have hacross' : ∀ e' ∈ (read.map rep).insertionSort le, ∀ f' ∈ unread.map rep, le e' f' := by
    intro e' he' f' hf'
    obtain ⟨e, he, rfl⟩ := List.mem_map.mp ((List.mem_insertionSort le).mp he')
    obtain ⟨f, hf, rfl⟩ := List.mem_map.mp hf'
    have hef := hacross e he f hf
    rcases hkeep e (hmem (List.mem_append_left _ he)) f (hmem (List.mem_append_right _ hf))
      hef.2 hef.1 with hle | hboth
    · exact hle
    · exact absurd hboth.2 (hnotRead f hf)
  have hlisting : (entries.map rep).insertionSort le
      = (read.map rep).insertionSort le ++ unread.map rep := by
    refine List.Perm.eq_of_pairwise ?_ (List.pairwise_insertionSort le _)
      (List.pairwise_append.mpr
        ⟨List.pairwise_insertionSort le _, hbehind', fun e he f hf => hacross' e he f hf⟩) ?_
    · intro a b ha hb hab hba
      have hids : ((entries.map rep).map id).Nodup := by
        rw [List.map_map, show id ∘ rep = id from funext hid]
        exact hnodup
      have hb' : b ∈ entries.map rep := by
        rw [List.mem_append, List.mem_insertionSort, ← List.mem_append, ← List.map_append] at hb
        exact (hperm.map rep).mem_iff.mp hb
      exact List.inj_on_of_nodup_map hids ((List.mem_insertionSort le).mp ha) hb' (hanti a b hab hba)
    · refine (List.perm_insertionSort le _).trans ((hperm.map rep).symm.trans ?_)
      rw [List.map_append]
      exact (List.perm_insertionSort le _).symm.append_right _
  have hdrop : ((entries.map rep).insertionSort le).drop start = unread.map rep := by
    rw [hlisting]
    apply drop_of_lengths (l := entries.insertionSort le)
    · rw [hread, List.length_insertionSort, List.length_map]
    · rw [hunread, List.length_map]
  rw [hdrop, List.map_map, show id ∘ rep = id from funext hid]

end Replaced

/-! ## §2. The reader. -/

/-- What a reader has received, in how many pages, and whether it has seen a short one. -/
structure Pager (I : Type) where
  received : List I
  pages : ℕ
  done : Bool
  deriving DecidableEq

namespace Pager

variable {I : Type}

def start : Pager I := { received := [], pages := 0, done := false }

/-- Ask for the next page, until a page is short; an offset from `limit` on cannot be
asked for. -/
def read (count limit : ℕ) (page : ℕ → List I) (p : Pager I) : Pager I :=
  if p.done = true ∨ limit ≤ p.pages * count then p
  else
    let ids := page (p.pages * count)
    { received := p.received ++ ids
      pages := p.pages + 1
      done := decide (ids.length < count) }

/-- The reader has received the first so many pages of the listing, and is done when they
reach beyond its end. -/
def HasRead (initial : List I) (count : ℕ) (p : Pager I) : Prop :=
  p.received = initial.take (p.pages * count)
    ∧ (p.done = true ↔ initial.length < p.pages * count)

theorem hasRead_start (initial : List I) (count : ℕ) : HasRead initial count start := by
  constructor
  · show [] = initial.take (0 * count)
    rw [Nat.zero_mul, List.take_zero]
  · show false = true ↔ initial.length < 0 * count
    simp

/-- A reader that is done has received the listing. -/
theorem HasRead.received_of_done {initial : List I} {count : ℕ} {p : Pager I}
    (h : HasRead initial count p) (hdone : p.done = true) : p.received = initial := by
  rw [h.1]
  exact List.take_of_length_le (h.2.mp hdone).le

theorem read_hasRead {initial : List I} {count limit : ℕ} {page : ℕ → List I} {p : Pager I}
    (h : HasRead initial count p)
    (hpage : p.pages * count < limit →
      page (p.pages * count) = (initial.drop (p.pages * count)).take count) :
    HasRead initial count (p.read count limit page) := by
  unfold read
  by_cases hstop : p.done = true ∨ limit ≤ p.pages * count
  · rw [if_pos hstop]
    exact h
  · rw [if_neg hstop]
    have hnot : ¬ initial.length < p.pages * count := fun hlt => hstop (.inl (h.2.mpr hlt))
    have hpage := hpage (by omega)
    have hnext : (p.pages + 1) * count = p.pages * count + count := by ring
    constructor
    · show p.received ++ page (p.pages * count) = initial.take ((p.pages + 1) * count)
      rw [h.1, hpage, hnext, List.take_add]
    · show decide ((page (p.pages * count)).length < count) = true
        ↔ initial.length < (p.pages + 1) * count
      rw [hpage, hnext, decide_eq_true_eq, List.length_take, List.length_drop]
      omega

end Pager

/-! ## §3. Pages and changes in any order. -/

section Run

variable {σ α I : Type} (page : σ → ℕ → List I) (next : σ → α → σ) (count limit : ℕ)

/-- The collection and its reader; `none` reads a page, an input changes the collection. -/
def pagingMachine : Machine (σ × Pager I) (Option α) Unit
  | (s, p), none => ((), (s, p.read count limit (page s)))
  | (s, p), some a => ((), (next s a, p))

variable (ids : σ → List I)

/-- **Paging is sound** where no change touches the part of the listing that is still to be
read: the reader has the first pages of the initial listing, and is done at its end. -/
theorem paging_hasRead (hpage : ∀ s start, start < limit →
      page s start = ((ids s).drop start).take count)
    (s : σ) (inputs : List (Option α))
    (hkeep : (pagingMachine page next count limit).Along
      (fun state input => ∀ a ∈ input,
        (ids (next state.1 a)).drop (state.2.pages * count)
          = (ids state.1).drop (state.2.pages * count)) (s, Pager.start) inputs) :
    ((pagingMachine page next count limit).run (s, Pager.start) inputs).2.2.HasRead (ids s)
      count := by
  refine (Machine.run_invariant _ (fun state : σ × Pager I =>
    state.2.HasRead (ids s) count
      ∧ (ids state.1).drop (state.2.pages * count) = (ids s).drop (state.2.pages * count)) _ ?_
    (s, Pager.start) inputs ⟨Pager.hasRead_start _ _, rfl⟩ hkeep).1
  rintro ⟨current, p⟩ input ⟨hread, hsame⟩ hunread
  cases input with
  | some a => exact ⟨hread, (hunread a rfl).trans hsame⟩
  | none =>
      refine ⟨Pager.read_hasRead hread fun hlt => by rw [hpage _ _ hlt, hsame], ?_⟩
      show (ids current).drop ((p.read count limit (page current)).pages * count)
        = (ids s).drop ((p.read count limit (page current)).pages * count)
      unfold Pager.read
      by_cases hstop : p.done = true ∨ limit ≤ p.pages * count
      · rw [if_pos hstop]
        exact hsame
      · rw [if_neg hstop]
        show (ids current).drop ((p.pages + 1) * count) = (ids s).drop ((p.pages + 1) * count)
        rw [Nat.add_one_mul, ← List.drop_drop, hsame, List.drop_drop]

omit ids in
/-- A reader that has stopped stays as it is. -/
theorem paging_stopped {p : Pager I} (hstop : p.done = true ∨ limit ≤ p.pages * count) :
    ∀ (s : σ) (inputs : List (Option α)),
      ((pagingMachine page next count limit).run (s, p) inputs).2.2 = p
  | _, [] => rfl
  | s, some a :: inputs => paging_stopped hstop (next s a) inputs
  | s, none :: inputs => by
      have hsame : p.read count limit (page s) = p := if_pos hstop
      show ((pagingMachine page next count limit).run (s, p.read count limit (page s)) inputs).2.2
        = p
      rw [hsame]
      exact paging_stopped hstop s inputs

omit ids in
/-- Every page that is asked for is read: after so many requests the reader has seen as many
pages, unless it has stopped. -/
theorem paging_progress :
    ∀ (s : σ) (p : Pager I) (inputs : List (Option α)),
      let final := ((pagingMachine page next count limit).run (s, p) inputs).2.2
      (final.done = true ∨ limit ≤ final.pages * count)
        ∨ final.pages = p.pages + inputs.countP Option.isNone
  | _, _, [] => .inr rfl
  | s, p, some a :: inputs => paging_progress (next s a) p inputs
  | s, p, none :: inputs => by
      intro final
      by_cases hstop : p.done = true ∨ limit ≤ p.pages * count
      · have hfinal : final = p := paging_stopped page next count limit hstop s (none :: inputs)
        rw [hfinal]
        exact .inl hstop
      · have hpages : (p.read count limit (page s)).pages = p.pages + 1 := by
          unfold Pager.read
          rw [if_neg hstop]
        rcases paging_progress s (p.read count limit (page s)) inputs with h | h
        · exact .inl h
        · right
          show final.pages = _
          rw [List.countP_cons_of_pos rfl, Nat.add_comm _ 1, ← Nat.add_assoc, ← hpages]
          exact h

end Run

end Switchgear.Lib
