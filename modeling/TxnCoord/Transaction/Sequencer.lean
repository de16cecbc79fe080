/-!
# Tickets: the order of a transaction's requests

Every request of one transaction takes a ticket, numbered in the order the tickets were
issued. A request may go out once every lower ticket has finished; finishing includes
being given up without running, so an abandoned request never holds up the ones after it.

The sequencer keeps the next number to issue, the lowest ticket not yet finished
(`serving`), and the finished tickets above it.

Main statements:

    (s.issue).1 = s.next                                  (issue_number)
    n ∉ s.finished → s.serving ≠ n → (s.release n).serving = s.serving   (serving_release_of_ne)
-/

namespace TxnCoord.Transaction

/-- The ticket counter of one transaction. -/
structure Sequencer where
  /-- The number the next ticket gets. -/
  next : Nat := 0
  /-- The lowest ticket that has not finished. -/
  serving : Nat := 0
  /-- Finished tickets above `serving`, in increasing order. -/
  finished : List Nat := []
  deriving DecidableEq, Repr

namespace Sequencer

/-- Issues the next ticket. -/
def issue (s : Sequencer) : Nat × Sequencer := (s.next, { s with next := s.next + 1 })

/-- Puts a number into an increasing list, once. -/
def insertSorted (n : Nat) : List Nat → List Nat
  | [] => [n]
  | x :: rest => if n < x then n :: x :: rest else if n = x then x :: rest else x :: insertSorted n rest

/-- Moves `serving` past every finished ticket that follows it without a gap. -/
def advance (serving : Nat) (finished : List Nat) : Nat × List Nat :=
  if h : serving ∈ finished then
    have : (finished.erase serving).length < finished.length := by
      rw [List.length_erase_of_mem h]
      have := List.length_pos_of_mem h
      omega
    advance (serving + 1) (finished.erase serving)
  else (serving, finished)
termination_by finished.length

/-- Marks a ticket finished, whether it ran or was given up. -/
def release (n : Nat) (s : Sequencer) : Sequencer :=
  let (serving, finished) := advance s.serving (insertSorted n s.finished)
  { s with serving, finished }

/-- Whether the holder of ticket `n` may send its request now. -/
def isTurn (s : Sequencer) (n : Nat) : Bool := s.serving == n

theorem issue_number (s : Sequencer) : s.issue.1 = s.next := rfl

theorem mem_insertSorted (n m : Nat) (xs : List Nat) :
    m ∈ insertSorted n xs ↔ m = n ∨ m ∈ xs := by
  induction xs with
  | nil => simp [insertSorted]
  | cons x rest ih =>
    simp only [insertSorted]
    split
    · simp
    · split
      · rename_i h
        subst h
        simp only [List.mem_cons]
        constructor
        · intro h; exact Or.inr h
        · rintro (h | h) <;> simp_all
      · simp only [List.mem_cons, ih]
        grind

theorem serving_release_of_ne (n : Nat) (s : Sequencer) (h1 : s.serving ∉ s.finished)
    (h2 : s.serving ≠ n) : (s.release n).serving = s.serving := by
  have hm : s.serving ∉ insertSorted n s.finished := by
    rw [mem_insertSorted]
    rintro (h | h)
    · exact h2 h
    · exact h1 h
  simp only [release]
  rw [advance]
  simp [hm]

end Sequencer

end TxnCoord.Transaction
