/-
  Switchgear.Lib.Transaction — statements that may fail, and the transaction
  around a closure of them.

  A statement reads and replaces a database and gives an answer, or fails
  with an error.  The environment may make ANY statement fail: `exec` takes
  the failure it chose.  A failed statement changes nothing and leaves the
  transaction usable, and a transaction commits what its closure did exactly
  when the closure returns `ok`.
-/
import Mathlib

namespace Switchgear.Lib

variable {σ ε α : Type}

/-- A statement over the database `σ`: the answer and the next database, or an
error that leaves the database as it was. -/
abbrev Statement (σ ε α : Type) := σ → Except ε (α × σ)

/-- Execute a statement; `fault` is the failure the environment chose for it. -/
def Statement.exec (stmt : Statement σ ε α) (fault : Option ε) (s : σ) : Except ε α × σ :=
  match fault with
  | some e => (.error e, s)
  | none =>
    match stmt s with
    | .ok (a, s') => (.ok a, s')
    | .error e => (.error e, s)

/-- Run a closure in a transaction: committed iff the closure returns `ok`. -/
def transaction (closure : σ → Except ε α × σ) (s : σ) : Except ε α × σ :=
  match closure s with
  | (.ok a, s') => (.ok a, s')
  | (.error e, _) => (.error e, s)

namespace Statement

@[simp] theorem exec_fault (stmt : Statement σ ε α) (e : ε) (s : σ) :
    stmt.exec (some e) s = (.error e, s) := rfl

theorem exec_ok (stmt : Statement σ ε α) {s s' : σ} {a : α} (h : stmt s = .ok (a, s')) :
    stmt.exec none s = (.ok a, s') := by
  simp only [exec, h]

theorem exec_error (stmt : Statement σ ε α) {s : σ} {e : ε} (h : stmt s = .error e) :
    stmt.exec none s = (.error e, s) := by
  simp only [exec, h]

/-- What a successful statement keeps is kept whether it is made to fail or not. -/
theorem exec_keeps {τ : Type} (f : σ → τ) (stmt : Statement σ ε α) {s : σ}
    (h : ∀ a s', stmt s = .ok (a, s') → f s' = f s) (fault : Option ε) :
    f (stmt.exec fault s).2 = f s := by
  cases fault with
  | some e => rfl
  | none =>
      cases hs : stmt s with
      | ok p =>
          rw [exec_ok stmt hs]
          exact h p.1 p.2 hs
      | error e => rw [exec_error stmt hs]

end Statement

@[simp] theorem transaction_ok (closure : σ → Except ε α × σ) (s : σ) {a : α} {s' : σ}
    (h : closure s = (.ok a, s')) : transaction closure s = (.ok a, s') := by
  simp only [transaction, h]

end Switchgear.Lib
