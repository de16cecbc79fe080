import TxnCoord.Transaction.Http
/-!
# Transactions in driver sessions

A driver session transaction exists on the server from the moment it is opened. Its
statements run one by one; the first that fails stops the batch.

* A statement failure is remembered, the first one only, and the transaction stays open.
* A commit refuses while statement runs are pending, runs its last batch as an ordinary
  run first, and then, after its own ticket's turn: with a remembered failure it rolls the
  session back and reports that failure, otherwise it commits. A failed commit leaves the
  handle rolled back.
* A rollback rolls the session back. A failure of that call is dropped after a statement
  failure, and when it maps to a closed transaction.
* The call that ends the session and the marking of the handle as ended are one step
  (`finishSession`): nothing runs between them.
* Keep-alive only checks that the transaction is open.
-/

namespace TxnCoord

/-- Manager `m`'s driver commits or rolls back a session; the call is logged. -/
def World.endSession (w : World) (m : Nat) (commit : Bool) : Option DriverFault × World :=
  let r := if commit then (w.peer m).commit else (w.peer m).rollback
  (r.1, (w.note (Peer.driverEntry m (if commit then "commit" else "rollback"))).modifyPeer m fun _ => r.2)

/-- Manager `m`'s driver ends the session transaction of handle `h`, and the handle is marked
ended: committed when a commit goes through, rolled back otherwise. -/
def World.finishSession (w : World) (h m : Nat) (commit : Bool) : Option DriverFault × World :=
  let r := w.endSession m commit
  (r.1, r.2.modifyHandle h fun hd =>
    { hd with state := if commit && r.1.isNone then .committed else .rolledBack })

namespace Transaction

/-- Runs statements one by one in manager `m`'s driver session, stopping at the first
failure. -/
def runStatements (m : Nat) : List Statement → Step (Except DriverFault (List StatementResult))
  | [] => pure (.ok [])
  | s :: rest => do
    let r ← modifyGet fun w => ((w.peer m).run s, w.note (Peer.runEntry m s))
    match r with
    | .error f => pure (.error f)
    | .ok res => do
      match ← runStatements m rest with
      | .ok more => pure (.ok (res :: more))
      | .error f => pure (.error f)

/-- Ends the session transaction of handle `h` through manager `m`'s driver in one step, and
marks the handle ended in the same step: committed when a commit goes through, rolled back
otherwise. -/
def finishSession (h m : Nat) (commit : Bool) : Step (Option DriverFault) :=
  modifyGet fun w => w.finishSession h m commit

/-- Runs a batch once ticket `n`'s turn comes, then gives the reservation back. -/
def sessionExecute (h n : Nat) (batch : Batch) : Tx (List StatementResult) := do
  Step.waitTurn h n
  Tx.andThen (do
    let hd := (← Step.read).handle h
    Tx.ofExcept hd.state.ensureOpen
    match ← runStatements hd.via batch.statements with
    | .ok results => pure results
    | .error f =>
      let e := f.toError
      Step.change fun w => w.modifyHandle h fun hd =>
        if e.isStatement && hd.failure.isNone then { hd with failure := some e } else hd
      throw e)
    (do Step.endPending h; Step.finishTicket h n)

/-- Commits, running a last batch first. -/
def sessionCommit (h : Nat) (batch : Batch) : Tx (List StatementResult) := do
  let pending := ((← Step.read).handle h).pending
  if 0 < pending then
    throw (.invalid ("cannot commit while " ++ toString pending ++ " operation(s) are pending"))
  let results ← if batch.isEmpty then pure [] else do
    Step.beginPending h
    let n ← Step.issue h
    sessionExecute h n batch
  let n ← Step.issue h
  Step.waitTurn h n
  Tx.andThen (do
    let hd := (← Step.read).handle h
    Tx.ofExcept hd.state.ensureOpen
    match hd.failure with
    | some failure =>
      let _ ← finishSession h hd.via false
      throw failure
    | none =>
      match ← finishSession h hd.via true with
      | none => pure results
      | some f => throw f.toError)
    (Step.finishTicket h n)

/-- Rolls the session transaction back. -/
def sessionRollback (h : Nat) : Tx Unit := do
  let n ← Step.issue h
  Step.waitTurn h n
  Tx.andThen (do
    let hd := (← Step.read).handle h
    Tx.ofExcept hd.state.ensureOpen
    match ← finishSession h hd.via false with
    | none => pure ()
    | some f =>
      if hd.failure.isSome then pure ()
      else
        let e := f.toError
        if e.isClosed then pure () else throw e)
    (Step.finishTicket h n)

end Transaction

end TxnCoord
