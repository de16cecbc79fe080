import TxnCoord.Transaction.Session
/-!
# Transaction handles

The operations of a handle, for both kinds of transaction, and the making of new handles.

* A statement run takes its place in line when it is started: its pending count and its
  ticket are taken at once (`reserve`), before it first runs. Commit, rollback and
  keep-alive take their tickets when they first run.
* A new HTTP handle sends nothing yet. When the settings ask for keep-alive, a task is
  started that ticks at once and then every interval; at each tick it stops if the handle
  has ended, skips it if the handle has not begun, and otherwise keeps it alive, stopping
  when that reports a closed transaction.
* A new session handle opens its transaction through the driver at once.
-/

namespace TxnCoord.Transaction

/-- The identifier of the handle with a number. -/
def handleId (i : Nat) : Uuid := Uuid.ofNat (0x6a1d3c2e7b4f4e219c8d000000000000 + i)

/-- Takes a statement run's place in line now; returns its ticket. -/
def reserve (h : Nat) : Step Nat := do
  Step.beginPending h
  Step.issue h

/-- The run of a batch whose place was reserved with ticket `n`. -/
def executeReserved (h n : Nat) (batch : Batch) : Tx (List StatementResult) := do
  match ((← Step.read).handle h).link with
  | .http .. => httpExecute h n batch
  | .session _ => sessionExecute h n batch

/-- Runs a batch in the transaction. -/
def execute (h : Nat) (batch : Batch) : Tx (List StatementResult) := do
  let n ← reserve h
  executeReserved h n batch

/-- Commits, running a last batch as part of the commit. -/
def commitWith (h : Nat) (batch : Batch) : Tx (List StatementResult) := do
  match ((← Step.read).handle h).link with
  | .http .. => httpCommit h batch
  | .session _ => sessionCommit h batch

/-- Commits. -/
def commit (h : Nat) : Tx Unit := do
  let _ ← commitWith h {}

/-- Rolls back. -/
def rollback (h : Nat) : Tx Unit := do
  match ((← Step.read).handle h).link with
  | .http .. => httpRollback h
  | .session _ => sessionRollback h

/-- Keeps the transaction alive. -/
def keepAlive (h : Nat) : Tx Unit := do
  let hd := (← Step.read).handle h
  match hd.link with
  | .http .. => httpKeepAlive h
  | .session _ => Tx.ofExcept hd.state.ensureOpen

/-- Closes an open HTTP handle without any request when nothing exists on the server;
says whether it did. -/
def abandonLocally (h : Nat) : Step Bool :=
  modifyGet fun w =>
    let hd := w.handle h
    match hd.link with
    | .http .. =>
      if hd.location.isNone && hd.state == .open then
        (true, w.modifyHandle h fun hd => { hd with state := .rolledBack })
      else (false, w)
    | .session _ => (false, w)

/-- The ticks at which keep-alive gives up: enough for any run. -/
def keepAliveTicks : Nat := 1000000

/-- The keep-alive loop of handle `h` from tick `k` on, ticks `period` apart from `start`. -/
def keepAliveFrom (h start period : Nat) : Nat → Nat → Step Unit
  | 0, _ => pure ()
  | fuel + 1, k => do
    Step.sleepUntil (start + k * period)
    let hd := (← Step.read).handle h
    if !hd.isOpen then pure ()
    else if !hd.isBegun then keepAliveFrom h start period fuel (k + 1)
    else
      match ← (keepAlive h).run with
      | .error e => if e.isClosed then pure () else keepAliveFrom h start period fuel (k + 1)
      | .ok () => keepAliveFrom h start period fuel (k + 1)

/-- The keep-alive task of a handle: the first tick comes at once. -/
def keepAliveTask (h period : Nat) : Step Unit := do
  let start := (← Step.read).now
  Step.sleepUntil start
  keepAliveFrom h start period keepAliveTicks 1

/-- Adds a handle; returns its number. -/
def addHandle (database : String) (link : Link) : Step Nat :=
  modifyGet fun w =>
    let i := w.handles.size
    (i, { w with handles := w.handles.push { id := handleId i, database, link } })

/-- Makes a new handle for manager `m` on a server version and database. -/
def newHandle (m : Nat) (version : ServerVersion) (database : String) : Tx Nat := do
  let mgr := (← Step.read).manager m
  match mgr.backend with
  | .http =>
    let h ← addHandle database (.http m mgr.config version)
    match mgr.config.keepAliveInterval with
    | some p =>
      let _ ← Async.spawn (Async.toFiber (keepAliveTask h p))
      pure h
    | none => pure h
  | .driver =>
    let fault ← modifyGet fun w =>
      let (f, p) := (w.peer m).beginSession
      (f, (w.note (Peer.driverEntry m ("begin:" ++ database))).modifyPeer m fun _ => p)
    match fault with
    | some f => throw f.toError
    | none => addHandle database (.session m)

end TxnCoord.Transaction
