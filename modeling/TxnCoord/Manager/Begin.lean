import TxnCoord.Manager.Scope
/-!
# Beginning scopes

A scope begins on a connected manager whose server supports transactions, and supports
several databases when the scope names one. Its handle depends on its option:

* a suppressed scope has none;
* a scope that requires a new transaction gets a new handle that it owns;
* a joining scope shares the handle of the parent it names, if that is open, or else the
  open handle of the innermost scope; it must then ask for the same database, if it asks
  for one. With nothing to join, it uses the handle enlisted in the current unit of work of
  the manager's coordinator, unless it sits inside a suppressed scope; with no unit either,
  it gets a new handle that it owns.

A unit of work has one enlisted handle per manager, made on first use under the manager's
enlistment lock. Making it saves a recovery descriptor first, then enlists the handle. If
the enlistment fails, the handle is rolled back and the descriptor removed. Before that,
the enlistments whose unit of work nothing holds any more are rolled back and forgotten
(`prune`).
-/

namespace TxnCoord.Manager

open Transaction Ambient

/-- Checks that a scope asking for a database may join a handle. -/
def checkSameDatabase (h : Handle) (requested : Option String) : Except TxError Unit :=
  match requested with
  | some d =>
    if d != h.database then
      .error (.invalid ("cannot join a transaction on database '" ++ h.database ++
        "' from a scope on '" ++ d ++ "'"))
    else .ok ()
  | none => .ok ()

/-- The current unit of work of manager `m`'s coordinator, unless inside a suppressed scope. -/
def ambientUnit (w : World) (m : Nat) (insideSuppressed : Bool) : Option UnitRef :=
  if insideSuppressed || !(w.manager m).ambient then none
  else if w.manualMode then w.manualCurrent.map .manual
  else w.current.map .local

/-- Whether an enlistment's unit of work is still held by anything. -/
def isAbandoned (w : World) (a : Nat) : Bool := !w.unitAlive (w.adapter a).unit

/-- The number of manager `m`'s enlistments whose unit of work is still held. -/
def liveCount (w : World) (m : Nat) : Nat :=
  ((w.manager m).enlistments.filter fun e => !isAbandoned w e.2).length

/-- Rolls back and forgets the enlistments of manager `m` whose unit of work was let go;
returns how many there were. -/
def prune (m : Nat) : Step Nat := do
  let w ← Step.read
  let gone := (w.manager m).enlistments.filter fun e => isAbandoned w e.2
  Step.change fun w => w.modifyManager m fun mg =>
    { mg with enlistments := mg.enlistments.filter fun e => !gone.contains e }
  Async.forEach gone fun e => abandon e.2
  pure gone.length

/-- Lets go of a handle that nothing will use: a driver transaction still open is rolled
back by a task of its own. -/
def dropUnused (h : Nat) : Step Unit := do
  let hd := (← Step.read).handle h
  if hd.transport == .driver && hd.isOpen then
    let _ ← Async.spawn (Async.toFiber (do let _ ← (sessionRollback h).run))

/-- Makes the handle of manager `m` enlisted in unit `u`, holding the enlistment lock. -/
def enlistNew (m : Nat) (u : UnitRef) (unitId : Uuid) (version : ServerVersion)
    (database : String) : Tx Nat := do
  let h ← newHandle m version database
  let w ← Step.read
  let d := descriptorFor w m h unitId version
  match ← Tx.attempt (storeSave m d) with
  | .error e =>
    let _ ← abandonLocally h
    dropUnused h
    throw (.coordination ("could not record recovery descriptor: " ++ e.message))
  | .ok () =>
    let ad : Adapter := { unitId, unit := u, rm := d.rm, handle := h, manager := m }
    let a ← modifyGet fun w => (w.adapters.size, { w with adapters := w.adapters.push ad })
    match ← Tx.attempt (enlistIn u a true) with
    | .error e =>
      if !(← abandonLocally h) && ((← Step.read).handle h).isOpen then
        let _ ← Tx.attempt (rollback h)
      let _ ← Tx.attempt (storeRemove m d.rm unitId)
      dropUnused h
      match e with
      | .coordination _ => throw e
      | other => throw (.coordination ("enlistment in unit of work " ++ unitId.render ++
          " failed: " ++ other.message))
    | .ok () =>
      Step.change fun w => w.modifyManager m fun mg =>
        { mg with enlistments := (mg.enlistments.filter (·.1 != unitId)) ++ [(unitId, a)] }
      pure h

/-- The handle of manager `m` enlisted in unit `u`, made and enlisted on first use. -/
def enlistedHandle (m : Nat) (u : UnitRef) (version : ServerVersion) (database : String)
    (requested : Option String) : Tx Nat := do
  let w ← Step.read
  let unitId := w.unitId u
  let lock := (w.manager m).enlistLock
  Step.acquire lock
  Tx.andThen (do
    let _ ← prune m
    let w ← Step.read
    match (w.manager m).enlistments.lookup unitId with
    | some a =>
      let hd := w.handle (w.adapter a).handle
      if !hd.isOpen then
        throw (.closed ("the transaction enlisted in unit of work " ++ unitId.render ++
          " has already ended"))
      Tx.ofExcept (checkSameDatabase hd requested)
      pure (w.adapter a).handle
    | none => enlistNew m u unitId version database) (Step.unlock lock)

/-- The handle, ownership and enlistment of a joining scope. -/
def joinHandle (m : Nat) (version : ServerVersion) (database : String)
    (requested : Option String) (parent : Option Nat) (top : Option Nat) :
    Tx (Option Nat × Bool × Bool) := do
  let w ← Step.read
  let topRec := top.map w.record
  let joined := match parent with
    | some p => if (w.handle p).isOpen then some p else none
    | none => topRec.bind fun r => r.handle.filter fun h => (w.handle h).isOpen
  let insideSuppressed := topRec.any (·.handle.isNone)
  match joined with
  | some h =>
    Tx.ofExcept (checkSameDatabase (w.handle h) requested)
    pure (some h, false, parent.isNone && topRec.any (·.enlisted))
  | none =>
    match ambientUnit w m insideSuppressed with
    | some u =>
      Step.holdUnit u
      let h ← Tx.andThen (enlistedHandle m u version database requested) (Step.letGoUnit u)
      pure (some h, false, true)
    | none =>
      let h ← newHandle m version database
      pure (some h, true, false)

/-- Begins a scope on manager `m`; returns its record and its stack. -/
def beginTransaction (m : Nat) (option : ScopeOption) (parent : Option Nat)
    (requested : Option String) : Tx (Nat × Nat) := do
  let w ← Step.read
  let version ← match (w.manager m).version with
    | some v => pure v
    | none => throw .notReady
  if !version.supportsTransactions then
    throw (.unsupported ("server " ++ version.render ++
      " does not support multi-statement transactions"))
  if let some d := requested then
    if !version.supportsMultipleDatabases then
      throw (.unsupported ("server " ++ version.render ++
        " does not support multiple databases (requested '" ++ d ++ "')"))
  let ctx ← contextOf m
  let w ← Step.read
  let top := topOf w ctx
  let database := (w.manager m).config.databaseOrDefault requested
  let (handle, owner, enlisted) ← match option with
    | .suppress => pure (none, false, false)
    | .requiresNew => do
      let h ← newHandle m version database
      pure (some h, true, false)
    | .join => joinHandle m version database requested parent top
  let r ← modifyGet fun w =>
    (w.records.size, { w with
      records := w.records.push { serial := w.nextSerial, option, handle, owner, enlisted }
      nextSerial := w.nextSerial + 1 })
  Step.change fun w => w.modifyContext ctx fun c => { c with records := c.records ++ [r] }
  pure (r, ctx)

/-- Ends the innermost scope of manager `m` for the running code, if there is one. -/
def endTransaction (m : Nat) : Tx Unit := do
  let ctx ← contextOf m
  match topOf (← Step.read) ctx with
  | some r => finishScope ctx r
  | none => pure ()

end TxnCoord.Manager
