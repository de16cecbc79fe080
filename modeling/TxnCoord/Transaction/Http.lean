import TxnCoord.World.Host
/-!
# Transactions on the HTTP endpoint

A handle begins lazily: nothing is sent until its first statement batch, which is posted
to the begin address; the `Location` of that answer is the transaction's address from then
on. Every request waits for its ticket's turn, so the requests of one handle go out one at
a time in the order their tickets were issued.

* A statement failure is remembered, the first one only. A server from 3.0 on rolls the
  transaction back with it; an older one keeps it open, and a begin answer that fails a
  statement still gives the transaction its address.
* An answer saying the server does not know a begun transaction ends it as rolled back
  with the expired failure. For a begin request it is a transport failure instead.
* A commit refuses while statement runs are pending. It commits an unbegun handle without
  a request unless it carries statements. After the server rolled back on a statement
  failure, commit reports that failure and rollback succeeds without a request.
* A rollback of an unbegun handle sends nothing; otherwise it deletes the address and the
  handle is rolled back whatever the answer.
-/

namespace TxnCoord.Transaction

open Http

/-- The server version and settings of an HTTP handle. -/
def httpParts (hd : Handle) : Config × ServerVersion :=
  match hd.link with
  | .http _ c v => (c, v)
  | .session _ => (default, default)

/-- The begin address of a handle: the root followed by the version's endpoint. -/
def beginUri (hd : Handle) : String :=
  let (c, v) := httpParts hd
  c.rootUri ++ v.transactionEndpoint hd.database

/-- Sets the state of a handle. -/
def setState (h : Nat) (s : TxState) : Step Unit :=
  Step.change fun w => w.modifyHandle h fun hd => { hd with state := s }

/-- Sends a request of a handle to its manager's server, and logs it. -/
def send (h : Nat) (method : Method) (uri : String) (body : Option Json) :
    Step (Except String Response) :=
  modifyGet fun w =>
    let hd := w.handle h
    let (c, _) := httpParts hd
    let req : Request := { method, uri, body, credentials := c.credentials,
                           userAgent := c.userAgent, stream := c.useJsonStream }
    let w := w.note (Peer.requestEntry hd.via req)
    let (r, p) := (w.peer hd.via).send w.expires req
    (r, w.modifyPeer hd.via fun _ => p)

/-- Posts a batch and reads the answer. On a server before 3.0, a statement failure whose
answer names a location gives an unbegun handle that address. -/
def post (h : Nat) (uri : String) (batch : Batch) : Step (Except Failure Accepted) := do
  match ← send h .post uri (some (batchBody batch)) with
  | .error m => pure (.error (.transport m))
  | .ok resp =>
    let outcome := interpret resp
    match outcome, resp.location with
    | .error (.statement _ _), some loc =>
      Step.change fun w => w.modifyHandle h fun hd =>
        if !(httpParts hd).2.rollsBackOnStatementError && hd.location.isNone then
          { hd with location := some loc }
        else hd
    | _, _ => pure ()
    pure outcome

/-- Takes in what an accepted answer says: the address of a new transaction, and the
expiry if there is one. -/
def absorb (h : Nat) (a : Accepted) : Tx Unit := do
  let hd := (← Step.read).handle h
  if hd.location.isNone then
    match a.location with
    | some loc => Step.change fun w => w.modifyHandle h fun hd => { hd with location := some loc }
    | none => throw (.transport "begin response did not carry a transaction location")
  if a.expiresAt.isSome then
    Step.change fun w => w.modifyHandle h fun hd => { hd with expiresAt := a.expiresAt }

/-- Ends a transaction the server no longer knows. -/
def vanished (h : Nat) : Step TxError := do
  setState h .rolledBack
  pure TxError.expired

/-- Keeps the first statement failure; a server from 3.0 on has rolled the transaction back. -/
def recordFailure (h : Nat) (f : Failure) : Step TxError := do
  let e := f.toError
  if e.isStatement then
    Step.change fun w => w.modifyHandle h fun hd =>
      let hd := if hd.failure.isNone then { hd with failure := some e } else hd
      if (httpParts hd).2.rollsBackOnStatementError && hd.state == .open then
        { hd with state := .rolledBack }
      else hd
  pure e

/-- The statement failure with which the server rolled the transaction back, if it did. -/
def rollbackCause (hd : Handle) : Option TxError :=
  match hd.failure, hd.state with
  | some f, .rolledBack => if (httpParts hd).2.rollsBackOnStatementError then some f else none
  | _, _ => none

/-- Runs a batch once ticket `n`'s turn comes, then gives the reservation back. -/
def httpExecute (h n : Nat) (batch : Batch) : Tx (List StatementResult) := do
  Step.waitTurn h n
  Tx.andThen (do
    let hd := (← Step.read).handle h
    Tx.ofExcept hd.state.ensureOpen
    let begun := hd.location.isSome
    match ← post h (hd.location.getD (beginUri hd)) batch with
    | .ok a =>
      absorb h a
      pure a.results
    | .error .unknownTransaction =>
      if begun then throw (← vanished h)
      else throw (.transport "server rejected the transaction begin request")
    | .error f => throw (← recordFailure h f))
    (do Step.endPending h; Step.finishTicket h n)

/-- Keeps a begun transaction alive with an empty post. -/
def httpKeepAlive (h : Nat) : Tx Unit := do
  let n ← Step.issue h
  Step.waitTurn h n
  Tx.andThen (do
    let hd := (← Step.read).handle h
    Tx.ofExcept hd.state.ensureOpen
    match hd.location with
    | none => pure ()
    | some loc =>
      match ← post h loc {} with
      | .ok a => absorb h a
      | .error .unknownTransaction => throw (← vanished h)
      | .error f => throw (← recordFailure h f))
    (Step.finishTicket h n)

/-- Commits, running a last batch in the commit request. -/
def httpCommit (h : Nat) (batch : Batch) : Tx (List StatementResult) := do
  let pending := ((← Step.read).handle h).pending
  if 0 < pending then
    throw (.invalid ("cannot commit while " ++ toString pending ++ " operation(s) are pending"))
  let n ← Step.issue h
  Step.waitTurn h n
  Tx.andThen (do
    let hd := (← Step.read).handle h
    if let some cause := rollbackCause hd then throw cause
    Tx.ofExcept hd.state.ensureOpen
    let uri ← match hd.location with
      | some loc => pure (loc ++ "/commit")
      | none =>
        if batch.isEmpty then
          setState h .committed
          return []
        else pure (beginUri hd ++ "/commit")
    match ← post h uri batch with
    | .ok a =>
      setState h .committed
      pure a.results
    | .error .unknownTransaction => throw (← vanished h)
    | .error (.transport m) => throw (.transport m)
    | .error f =>
      setState h .rolledBack
      throw f.toError)
    (Step.finishTicket h n)

/-- Rolls back: deletes the transaction's address if it has one. -/
def httpRollback (h : Nat) : Tx Unit := do
  let n ← Step.issue h
  Step.waitTurn h n
  Tx.andThen (do
    let hd := (← Step.read).handle h
    if (rollbackCause hd).isSome then return ()
    Tx.ofExcept hd.state.ensureOpen
    match hd.location with
    | none => setState h .rolledBack
    | some loc =>
      let outcome := match ← send h .delete loc none with
        | .ok r => (interpret r).map fun _ => ()
        | .error m => .error (.transport m)
      setState h .rolledBack
      match outcome with
      | .ok () => pure ()
      | .error .unknownTransaction => pure ()
      | .error f => throw f.toError)
    (Step.finishTicket h n)

end TxnCoord.Transaction
