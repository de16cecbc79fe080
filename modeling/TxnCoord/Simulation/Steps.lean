import TxnCoord.Simulation.Snapshot
import TxnCoord.Simulation.Stateless
/-!
# Session steps

A session is a list of steps run in order by one main fiber. Each step calls the
coordinator and answers with a result.

* A step that is neither a block nor a sleep has a time limit of an hour. If it is still
  waiting when the hour is over, it is dropped and answers `Blocked`.
* After every step, nested ones included, the stepping fiber yields 32 times, so that
  work the step started in other tasks gets to run.
* `scoped` runs its steps with a new, empty stack for one manager. `spawn` runs them in a
  new task and waits for it; with `share`, the task uses the stack of the code that
  spawned it. Each nested step answers with its result and with the depth of every
  manager's stack as the nested code sees it.
* A deferred statement run takes its place in line when the step runs, and runs only when
  `run_deferred` starts it; `drop_deferred` gives its place back.

A step that names something that does not exist, or a scope that cannot be used that way,
answers a usage failure.
-/

namespace TxnCoord.Simulation

open Recovery Manager Ambient Transaction

/-- A whole-number member of a request. -/
def natArg (req : Json) (k : String) : Option Nat := ((req.get? k).bind Json.int?).map Int.toNat

/-- A flag member of a request. -/
def flagArg (req : Json) (k : String) : Option Bool := (req.get? k).bind Json.bool?

/-- The answer of a step that needs a current transaction when there is none. -/
def noCurrentAnswer : Json :=
  .obj [("error", .str "NoCurrentTransaction"), ("message", .str "manager has no current transaction")]

/-- The answer of a step still waiting when its time ran out. -/
def blockedAnswer : Json :=
  .obj [("error", .str "Blocked"), ("message", .str "waited for an earlier request that never ran")]

/-- How long a step may wait, in milliseconds. -/
def stepLimit : Nat := 3600000

/-- How many times the stepping fiber yields after a step. -/
def yieldsAfterStep : Nat := 32

/-- How deep blocks of steps may nest. -/
def nestingLimit : Nat := 256

/-- The batch of a step's `statements`. -/
def batchArg (step : Json) : Batch :=
  ⟨(((step.get? "statements").bind Json.arr?).getD []).map fun s =>
    { text := (textArg s "text").getD "", parameters := ((s.get? "parameters").bind Json.obj?).getD [] }⟩

/-- Statement results, or the failure, as an answer. -/
def resultsAnswer (w : World) : Except TxError (List StatementResult) → Json
  | .ok rs => .arr (rs.map StatementResult.toJson)
  | .error e => failureAnswer w e

/-- The handle a label names. -/
def labelled (w : World) (label : String) : Option Nat :=
  w.shown.find? fun h => handleLabel w h == some label

/-- A live scope by number. -/
def slotAt (w : World) (i : Nat) : Option Slot := (w.slots[i]?).join

/-- The answer for a scope that is not live. -/
def notLive (i : Nat) : Json := usageError ("scope " ++ toString i ++ " is not live")

/-- The scope a step names, or the failure. -/
def slotArg (step : Json) : Step (Except Json (Nat × Slot)) := do
  match natArg step "scope" with
  | none => pure (.error (usageError "missing field scope"))
  | some i =>
    match slotAt (← Step.read) i with
    | some s => pure (.ok (i, s))
    | none => pure (.error (notLive i))

/-- The handle of a live scope, or the failure. -/
def scopeHandleAt (w : World) (i : Nat) : Except Json Nat :=
  match slotAt w i with
  | some s =>
    match (w.record s.record).handle with
    | some h => .ok h
    | none => .error (usageError ("scope " ++ toString i ++ " has no transaction"))
  | none => .error (notLive i)

/-- The handle a label names, or the failure. -/
def labelledArg (w : World) (label : String) : Except Json Nat :=
  match labelled w label with
  | some h => .ok h
  | none => .error (usageError ("unknown transaction " ++ label))

/-- The handle a step targets: a label, a scope, or manager `m`'s current transaction. -/
def targetArg (m : Nat) (step : Json) : Step (Except Json Nat) := do
  let w ← Step.read
  match textArg step "tx", natArg step "scope" with
  | some label, _ => pure (labelledArg w label)
  | none, some i => pure (scopeHandleAt w i)
  | none, none =>
    match ← currentTransaction m with
    | some h => pure (.ok h)
    | none => pure (.error noCurrentAnswer)

/-- Runs `f` on the handle a step targets. -/
def onTarget (m : Nat) (step : Json) (f : Nat → Step Json) : Step Json := do
  match ← targetArg m step with
  | .ok h => f h
  | .error j => pure j

/-- Runs code that may fail and answers `"ok"` or its failure. -/
def done (x : Tx Unit) : Step Json := do
  let r ← x.run
  pure (doneAnswer (← Step.read) r)

/-! ## Scopes -/

/-- The option a step names: join when it names none. -/
def optionArg (step : Json) : Except Json ScopeOption :=
  match textArg step "option" with
  | none | some "join" => .ok .join
  | some "suppress" => .ok .suppress
  | some "requires_new" => .ok .requiresNew
  | some other => .error (usageError ("bad option " ++ other))

/-- The parent a begin step names. -/
def parentArg (w : World) (step : Json) : Except Json (Option Nat) :=
  match textArg step "parent_tx", natArg step "parent_scope" with
  | some label, _ => (labelledArg w label).map some
  | none, some i => (scopeHandleAt w i).map some
  | none, none => .ok none

/-- Answers `begin`: every begin with a known option takes the next scope number, failed
ones too. -/
def beginStep (m : Nat) (step : Json) : Step Json := do
  match optionArg step with
  | .error j => pure j
  | .ok option =>
    let idx := (← Step.read).slots.size
    Step.change fun w => { w with slots := w.slots.push none }
    match parentArg (← Step.read) step with
    | .error j => pure j
    | .ok parent =>
      match ← (beginTransaction m option parent (textArg step "database")).run with
      | .error e => pure (failureAnswer (← Step.read) e)
      | .ok (r, ctx) =>
        Step.change fun w => { w with slots := w.slots.modify idx fun _ => some ⟨r, ctx, m⟩ }
        let h := ((← Step.read).record r).handle
        showHandles h.toList
        let w ← Step.read
        let sr := w.record r
        pure (.obj [("scope", .nat idx), ("option", .str option.render), ("owner", .bool sr.owner),
          ("enlisted", .bool sr.enlisted), ("open", .bool (scopeIsOpen w r)),
          ("tx", Json.optStr (h.bind (handleLabel w)))])

/-- Forgets a scope of the session. -/
def clearSlot (i : Nat) : Step Unit :=
  Step.change fun w => { w with slots := w.slots.modify i fun _ => none }

/-- Answers `end`. -/
def endStep (step : Json) : Step Json := do
  match ← slotArg step with
  | .error j => pure j
  | .ok (i, s) =>
    clearSlot i
    done (finishScope s.context s.record)

/-- Answers `drop`. -/
def dropStep (step : Json) : Step Json := do
  match ← slotArg step with
  | .error j => pure j
  | .ok (i, s) =>
    clearSlot i
    dropScope s.context s.record
    pure (.str "ok")

/-- Answers a step that calls a scope's method. -/
def scopeStep (step : Json) (f : Nat → Tx Unit) : Step Json := do
  match ← slotArg step with
  | .error j => pure j
  | .ok (_, s) => done (f s.record)

/-! ## Deferred statement runs -/

/-- Answers `execute_deferred`: reserves the run's place now and keeps it unpolled. -/
def deferStep (m : Nat) (step : Json) : Step Json := onTarget m step fun h => do
  let k := (← Step.read).deferred.size
  let o ← Step.freshOwner
  let n ← Step.asOwner o (reserve h)
  Step.change fun w => { w with deferred := w.deferred.push { handle := h } }
  let batch := batchArg step
  Async.stash k o (Async.toFiber do
    let r ← (executeReserved h n batch).run
    Step.change fun w => { w with deferred := w.deferred.modify k fun d =>
      { d with result := some (resultsAnswer w r) } })
  pure (.obj [("deferred", .nat k), ("pending", .nat ((← Step.read).handle h).pending)])

/-- Marks a deferred run as started or dropped. -/
def settleDeferred (k : Nat) : Step Unit :=
  Step.change fun w => { w with deferred := w.deferred.modify k fun d => { d with settled := true } }

/-- Answers `drop_deferred`. -/
def dropDeferredStep (step : Json) : Step Json := do
  let k := (natArg step "id").getD 0
  match (← Step.read).deferred[k]? with
  | some d =>
    if d.settled then pure (usageError ("deferred " ++ toString k ++ " is not outstanding"))
    else
      settleDeferred k
      Async.discard k
      pure (.str "ok")
  | none => pure (usageError ("deferred " ++ toString k ++ " is not outstanding"))

/-- Starts deferred runs in the given order; returns their tasks. -/
def launchAll : List Nat → Step (List (Nat × Option Nat))
  | [] => pure []
  | k :: rest => do
    settleDeferred k
    let t ← Async.launch k
    let more ← launchAll rest
    pure ((k, t) :: more)

/-- Waits for deferred runs in the given order and answers their results. -/
def joinAll (tasks : List (Nat × Option Nat)) : List Nat → Step (List Json)
  | [] => pure []
  | k :: rest => do
    if let some (some t) := tasks.lookup k then Async.await (.join t)
    let r := (((← Step.read).deferred[k]?).bind (·.result)).getD .null
    let more ← joinAll tasks rest
    pure (.obj [("deferred", .nat k), ("result", r)] :: more)

/-- Answers `run_deferred`: starts the outstanding runs, last first, and waits for them in order. -/
def runDeferredStep : Step Json := do
  let w ← Step.read
  let ks := (List.range w.deferred.size).filter fun k => !((w.deferred[k]?.map (·.settled)).getD true)
  let tasks ← launchAll ks.reverse
  pure (.arr (← joinAll tasks ks))

/-! ## Peers and managers -/

/-- The status of a scripted answer, as a 16-bit word: it wraps modulo `2^16`, and one that
is missing or below zero is 200. -/
def statusArg (j : Json) : Nat :=
  match (j.get? "status").bind Json.int? with
  | some (.ofNat n) => n % Nat.pow 2 16
  | _ => 200

/-- One scripted answer of a `script` step. -/
def scriptedOf (j : Json) : Scripted :=
  match textArg j "fail" with
  | some msg => .fail msg
  | none =>
    .answer { status := statusArg j, location := textArg j "location",
              body := (j.get? "body").getD .null }

/-- Answers `script`. -/
def scriptStep (m : Nat) (step : Json) : Step Json := do
  let rs := (((step.get? "responses").bind Json.arr?).getD []).map scriptedOf
  Step.change fun w => w.modifyPeer m fun p => { p with script := p.script ++ rs }
  pure (.str "ok")

/-- Answers `driver_fail`. -/
def driverFailStep (m : Nat) (step : Json) : Step Json := do
  let f : DriverFault := ⟨textArg step "code", (textArg step "message").getD ""⟩
  let change : Option (Peer → Peer) := match textArg step "on" with
    | some "begin" => some fun p => { p with beginFaults := p.beginFaults ++ [f] }
    | some "commit" => some fun p => { p with commitFaults := p.commitFaults ++ [f] }
    | some "rollback" => some fun p => { p with rollbackFaults := p.rollbackFaults ++ [f] }
    | some "run" => some fun p => p.failRun ((textArg step "text").getD "") f
    | _ => none
  match change with
  | some g =>
    Step.change fun w => w.modifyPeer m g
    pure (.str "ok")
  | none => pure (usageError "unknown driver call")

/-- Answers `connect`. -/
def connectStep (m : Nat) (step : Json) : Step Json := do
  match ServerVersion.parse ((textArg step "version").getD "") with
  | .error e => pure (failureAnswer (← Step.read) e)
  | .ok v =>
    Step.change fun w => w.modifyManager m fun mg => { mg with version := some v }
    pure (.obj [("connected", .bool true), ("version", .str v.render)])

/-- Answers `disconnect`. -/
def disconnectStep (m : Nat) : Step Json := do
  Step.change fun w => w.modifyManager m fun mg => { mg with version := none }
  pure (.obj [("connected", .bool false)])

/-! ## Units of work -/

/-- The label of a local unit. -/
def unitLabel (i : Nat) : Json := .str ("u" ++ toString (i + 1))

/-- The local unit a label names, if it is live. -/
def liveUnit (w : World) (label : String) : Option Nat :=
  ((List.range w.units.size).find? fun i => "u" ++ toString (i + 1) == label).filter
    fun i => w.unitAlive (.local i)

/-- The answer for a unit that is not live. -/
def unitNotLive (label : String) : Json := usageError ("unit " ++ label ++ " is not live")

/-- Runs code on a local unit while holding it. -/
def holding (u : UnitRef) (x : Tx Unit) : Step Json := do
  Step.holdUnit u
  let r ← x.run
  Step.letGoUnit u
  pure (doneAnswer (← Step.read) r)

/-- Answers `uow_begin`. -/
def uowBeginStep : Step Json := do
  match ← beginUnit.run with
  | .ok i => pure (.obj [("unit", unitLabel i)])
  | .error e => pure (failureAnswer (← Step.read) e)

/-- Answers `uow_doom`. -/
def uowDoomStep : Step Json := do
  match (← Step.read).current with
  | some i =>
    Step.change fun w => w.modifyUnit i fun u => { u with doomed := true }
    pure (.str "ok")
  | none => pure (usageError "no current unit of work")

/-- Answers `uow_detach`. -/
def uowDetachStep : Step Json := do
  match (← Step.read).current with
  | some i =>
    Step.change fun w => { w with current := none, detachedUnits := w.detachedUnits ++ [i] }
    pure (.obj [("unit", unitLabel i)])
  | none => pure .null

/-- Answers `uow_release`. -/
def uowReleaseStep : Step Json := do
  let n := (← Step.read).detachedUnits.length
  Step.change fun w => { w with detachedUnits := [] }
  pure (.nat n)

/-- Answers a step that calls a method of a live local unit. -/
def unitStep (step : Json) (f : Nat → Step Json) : Step Json := do
  let label := (textArg step "unit").getD ""
  match liveUnit (← Step.read) label with
  | some i => f i
  | none => pure (unitNotLive label)

/-- A failure as a request describes it: a text for a coordination failure, or a kind,
message and code. -/
def failureOf (j : Json) : TxError :=
  match j with
  | .str msg => .coordination msg
  | _ =>
    let message := (textArg j "message").getD ""
    ((TxError.ofKind ((textArg j "kind").getD "") message ((textArg j "code").getD ""))).getD
      (.coordination message)

/-- A recorder as a step describes it. -/
def recorderOf (step : Json) : Recorder :=
  { vote := if textArg step "vote" == some "aborted" then .aborted else .prepared
    failures := (((step.get? "fail").bind Json.obj?).getD []).map fun (k, v) => (k, failureOf v) }

/-- Answers `uow_enlist`. -/
def enlistStep (step : Json) : Step Json := do
  let w ← Step.read
  let unit? : Except Json Nat := match textArg step "unit" with
    | some label => match liveUnit w label with
      | some i => .ok i
      | none => .error (unitNotLive label)
    | none => match w.current with
      | some i => .ok i
      | none => .error (usageError "no current unit of work")
  match unit? with
  | .error j => pure j
  | .ok u =>
    let r ← match natArg step "recorder" with
      | some k => pure k
      | none => do
        let id ← freshId
        modifyGet fun w =>
          (w.recorders.size, { w with recorders := w.recorders.push { recorderOf step with id } })
    let res ← holding (.local u) (enlistLocal u (.recorder r) ((flagArg step "single_phase").getD true))
    pure (.obj [("recorder", .str ("r" ++ toString r)), ("result", res)])

/-! ## Recovery and the store -/

/-- The outcome a request names: rollback for `rolled_back`, commit otherwise. -/
def outcomeOf (s : Option String) : Outcome := if s == some "rolled_back" then .rolledBack else .committed

/-- Answers `recover`. -/
def recoverStep (m : Nat) (step : Json) : Step Json := do
  let w ← Step.read
  let byUow := ((step.get? "by_uow").bind Json.obj?).getD []
  let fallback := textArg step "outcome"
  let decide (d : Descriptor) : Outcome :=
    match Json.Fields.lookup (idLabel w d.uow) byUow with
    | some v => outcomeOf v.str?
    | none => outcomeOf fallback
  match ← (recoverPending m decide).run with
  | .ok n => pure (.nat n)
  | .error e => pure (failureAnswer (← Step.read) e)

/-- Answers `store_put`. -/
def storePutStep (m : Nat) (step : Json) : Step Json := do
  let uow ← namedId ((textArg step "uow").getD "")
  match ServerVersion.parse ((textArg step "version").getD "5.13.0") with
  | .error e => pure (failureAnswer (← Step.read) e)
  | .ok version =>
    let mgr := (← Step.read).manager m
    let d : Descriptor :=
      { rm := mgr.config.resourceManager, uow, config := mgr.config
        transport := if textArg step "transport" == some "driver" then .driver else .http
        version, database := (textArg step "database").getD defaultDatabase
        location := textArg step "location", recordedAt := stamp }
    done (storeSave m d)

/-- Answers `store_remove`. -/
def storeRemoveStep (m : Nat) (step : Json) : Step Json := do
  let w ← Step.read
  let label := (textArg step "uow").getD ""
  match labelId? w label with
  | none => pure (usageError ("unknown unit of work " ++ label))
  | some uow =>
    match ← (storeRemove m (w.manager m).config.resourceManager uow).run with
    | .ok b => pure (.bool b)
    | .error e => pure (failureAnswer (← Step.read) e)

/-- The new failure text of one store operation: a text sets it, null clears it, and
leaving it out keeps it. -/
def faultArg (step : Json) (k : String) (old : Option String) : Option String :=
  match step.get? k with
  | some (.str s) => some s
  | some _ => none
  | none => old

/-- Answers `store_fail`. -/
def storeFailStep (step : Json) : Step Json := do
  Step.change fun w => { w with faults :=
    { save := faultArg step "save" w.faults.save, load := faultArg step "load" w.faults.load
      list := faultArg step "list" w.faults.list, remove := faultArg step "remove" w.faults.remove } }
  pure (.str "ok")

/-! ## Host-driven units of work -/

/-- The host-driven unit a label names. -/
def manualArg (w : World) (label : String) : Option Nat :=
  (List.range w.manualUnits.size).find? fun i => "w" ++ toString (i + 1) == label

/-- Answers `manual_begin`. -/
def manualBeginStep : Step Json := do
  let k ← modifyGet fun w =>
    let k := w.manualUnits.size
    (k, { w with manualUnits := w.manualUnits.push { id := manualUnitId (k + 1) },
                 manualCurrent := some k })
  pure (.obj [("unit", .str ("w" ++ toString (k + 1)))])

/-- Answers `manual_drop`. -/
def manualDropStep (step : Json) : Step Json := do
  let label := (textArg step "unit").getD ""
  match manualArg (← Step.read) label with
  | some i =>
    Step.change fun w =>
      let w := if w.manualCurrent == some i then { w with manualCurrent := none } else w
      w.modifyManualUnit i fun u => { u with held := false }
    pure (.str "ok")
  | none => pure (unitNotLive label)

/-- Answers `manual_fail`. -/
def manualFailStep (step : Json) : Step Json := do
  match (← Step.read).manualCurrent with
  | some i =>
    let e := failureOf (.obj [("kind", (step.get? "kind").getD .null),
      ("message", (step.get? "message").getD .null), ("code", (step.get? "code").getD .null)])
    Step.change fun w => w.modifyManualUnit i fun u => { u with failNext := some e }
    pure (.str "ok")
  | none => pure (usageError "no current unit of work")

/-- Answers `manual_call`: calls an enlistment of a host-driven unit directly. -/
def manualCallStep (step : Json) : Step Json := do
  let w ← Step.read
  let label := (textArg step "unit").getD ""
  match manualArg w label with
  | none => pure (unitNotLive label)
  | some i =>
    let p := (natArg step "p").getD 0
    match (w.manualUnit i).parties[p]? with
    | none => pure (usageError ("unit " ++ label ++ " has no participant " ++ toString p))
    | some a =>
      match (textArg step "call").getD "" with
      | "promote" => done (promote a)
      | "prepare" => do pure (.str (← prepare a).debugName)
      | "commit" => done (commitPrepared a)
      | "rollback" => done (rollbackPrepared a)
      | "single_phase_commit" => done (singlePhaseCommit a)
      | "single_phase_rollback" => done (singlePhaseRollback a)
      | "resource_manager_id" => pure (.str (idLabel w (w.adapter a).rm))
      | other => pure (usageError ("unknown call " ++ other))

/-! ## Running steps -/

/-- One step that is not a block. -/
def primitive (m : Nat) (op : String) (step : Json) : Step Json :=
  match op with
  | "begin" => beginStep m step
  | "end" => endStep step
  | "drop" => dropStep step
  | "end_transaction" => done (endTransaction m)
  | "commit" => scopeStep step scopeCommit
  | "rollback" => scopeStep step scopeRollback
  | "keep_alive" => scopeStep step scopeKeepAlive
  | "execute" => onTarget m step fun h => do
      let r ← (execute h (batchArg step)).run
      pure (resultsAnswer (← Step.read) r)
  | "execute_deferred" => deferStep m step
  | "drop_deferred" => dropDeferredStep step
  | "run_deferred" => runDeferredStep
  | "tx_commit" => onTarget m step fun h => do
      let r ← (commitWith h (batchArg step)).run
      pure (resultsAnswer (← Step.read) r)
  | "tx_rollback" => onTarget m step fun h => done (rollback h)
  | "tx_keep_alive" => onTarget m step fun h => done (keepAlive h)
  | "script" => scriptStep m step
  | "driver_fail" => driverFailStep m step
  | "connect" => connectStep m step
  | "disconnect" => disconnectStep m
  | "uow_begin" => uowBeginStep
  | "uow_commit" => done commitCurrent
  | "uow_rollback" => done rollbackCurrent
  | "uow_doom" => uowDoomStep
  | "uow_detach" => uowDetachStep
  | "uow_release" => uowReleaseStep
  | "unit_commit" => unitStep step fun i => holding (.local i) (commitLocal i)
  | "unit_rollback" => unitStep step fun i => holding (.local i) (rollbackLocal i)
  | "unit_doom" => unitStep step fun i => do
      Step.change fun w => w.modifyUnit i fun u => { u with doomed := true }
      pure (.str "ok")
  | "uow_enlist" => enlistStep step
  | "prune" => do pure (.nat (← prune m))
  | "recover" => recoverStep m step
  | "store_put" => storePutStep m step
  | "store_remove" => storeRemoveStep m step
  | "store_fail" => storeFailStep step
  | "sleep" => do
      Step.sleepUntil ((← Step.read).now + (natArg step "ms").getD 0)
      pure (.str "ok")
  | "state" => pure (.str "ok")
  | "debug" => debugAnswer
  | "manual_begin" => manualBeginStep
  | "manual_end" => do
      Step.change fun w => { w with manualCurrent := none }
      pure (.str "ok")
  | "manual_drop" => manualDropStep step
  | "manual_fail" => manualFailStep step
  | "manual_call" => manualCallStep step
  | _ => pure (usageError ("unknown step: " ++ op))

/-- Yields a number of times. -/
def yieldTimes : Nat → Step Unit
  | 0 => pure ()
  | n + 1 => do
    Step.yield
    yieldTimes n

/-- The depth of every manager's stack, as the running code sees them. -/
def depths : Step Json := do
  let n := (← Step.read).managers.size
  let ds ← (List.range n).mapM fun m => Manager.depth m
  pure (.arr (ds.map Json.nat))

/-- The nested steps of a block. -/
def stepsArg (step : Json) : List Json := ((step.get? "steps").bind Json.arr?).getD []

mutual
/-- Runs one step, blocks included; `fuel` bounds how deep blocks nest. -/
def runStep : Nat → Json → Step Json
  | 0, _ => pure (usageError "steps nested too deeply")
  | fuel + 1, step => do
    let m := (natArg step "m").getD 0
    match (textArg step "do").getD "" with
    | "scoped" =>
      let ctx ← modifyGet fun w => w.newContext
      let rs ← Step.withContext m ctx (runNested fuel (stepsArg step))
      pure (.arr rs)
    | "spawn" =>
      let key ← Step.freshOwner
      let shared ← if (flagArg step "share").getD false then some <$> contextOf m else pure none
      let body : Step Unit := do
        let rs ← match shared with
          | some ctx => Step.withContext m ctx (runNested fuel (stepsArg step))
          | none => runNested fuel (stepsArg step)
        Step.change fun w => { w with taskAnswers := (key, .arr rs) :: w.taskAnswers }
      let t ← Async.spawn (Async.toFiber body)
      Async.await (.join t)
      pure (((← Step.read).taskAnswers.lookup key).getD .null)
    | "sleep" => primitive m "sleep" step
    | op =>
      match ← Async.timeout stepLimit (primitive m op step) with
      | some r => pure r
      | none => pure blockedAnswer
termination_by fuel _ => (fuel, 0)

/-- Runs the nested steps of a block, each followed by the yields and the depths. -/
def runNested (fuel : Nat) : List Json → Step (List Json)
  | [] => pure []
  | s :: rest => do
    let r ← runStep fuel s
    yieldTimes yieldsAfterStep
    let d ← depths
    let more ← runNested fuel rest
    pure (.obj [("result", r), ("depth", d)] :: more)
termination_by xs => (fuel, xs.length + 1)
end

/-- Runs the steps of a session, each followed by the yields and a snapshot. -/
def runSession : List Json → Step Unit
  | [] => pure ()
  | s :: rest => do
    let r ← runStep nestingLimit s
    yieldTimes yieldsAfterStep
    let j ← snapshot r
    Step.change fun w => { w with replies := w.replies.push j }
    runSession rest

end TxnCoord.Simulation
