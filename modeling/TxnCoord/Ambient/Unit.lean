import TxnCoord.Ambient.Adapter
/-!
# Units of work

A local unit of work collects participants and completes them together.

* Enlisting after completion fails. Enlisting the same participant again changes nothing.
  Enlisting a second participant promotes every participant that could still commit in
  one phase, in order, the new one included; a failed promotion dooms the unit.
* Commit takes the participants. A doomed unit rolls them all back and fails. Otherwise a
  single one-phase participant commits in one phase; any other set is asked to prepare in
  order, and one vote to abort rolls them all back and fails the unit; then each commits,
  and the first failure is reported.
* Rollback takes the participants; a single one-phase participant rolls back in one phase,
  any other set rolls back each, reporting the first failure.
* A unit completes once: its outcome is set at the start of its completion.

The local coordinator has at most one current unit. A host-driven unit only records whom
it enlisted, failing once when told to; the host then drives the participants itself.
A recorder is a participant that logs each call and fails the calls it was told to fail.
-/

namespace TxnCoord.Ambient

/-- The identifier of the local unit with a number. -/
def unitIdOf (i : Nat) : Uuid := Uuid.ofNat (0x3f6e1b9a52c84d7e8a41000000000000 + i)

/-- The log entry of a recorder call. -/
def recorderEntry (r : Nat) (call : String) : Json :=
  .obj [("participant", .str ("r" ++ toString r)), ("call", .str call)]

/-- Calls recorder `r`: logs the call and fails it if told to. -/
def recorderCall (r : Nat) (call : String) : Tx Unit := do
  let w ← Step.read
  Step.change fun w => w.note (recorderEntry r call)
  match (w.recorder r).failures.find? (·.1 == call) with
  | some (_, e) => throw e
  | none => pure ()

/-- One-phase commit of a participant. -/
def partySinglePhaseCommit : Party → Tx Unit
  | .adapter a => singlePhaseCommit a
  | .recorder r => recorderCall r "single_phase_commit"

/-- One-phase rollback of a participant. -/
def partySinglePhaseRollback : Party → Tx Unit
  | .adapter a => singlePhaseRollback a
  | .recorder r => recorderCall r "single_phase_rollback"

/-- Promotion of a participant. -/
def partyPromote : Party → Tx Unit
  | .adapter a => promote a
  | .recorder r => recorderCall r "promote"

/-- The vote of a participant. -/
def partyPrepare : Party → Step Vote
  | .adapter a => prepare a
  | .recorder r => do
    Step.change fun w => w.note (recorderEntry r "prepare")
    pure ((← Step.read).recorder r).vote

/-- Second-phase commit of a participant. -/
def partyCommit : Party → Tx Unit
  | .adapter a => commitPrepared a
  | .recorder r => recorderCall r "commit"

/-- Second-phase rollback of a participant. -/
def partyRollback : Party → Tx Unit
  | .adapter a => rollbackPrepared a
  | .recorder r => recorderCall r "rollback"

/-- Rolls back every participant in order; returns the first failure. -/
def rollbackAll : List (Party × Bool) → Step (Option TxError)
  | [] => pure none
  | (p, _) :: rest => do
    let r ← (partyRollback p).run
    let later ← rollbackAll rest
    match r with
    | .error e => pure (some e)
    | .ok () => pure later

/-- Promotes, in order, the participants at the given places, marking each two-phase. -/
def promoteAll (u : Nat) : List Nat → Tx Unit
  | [] => pure ()
  | i :: rest => do
    let w ← Step.read
    match (w.unit u).parties[i]? with
    | some (p, _) =>
      match ← Tx.attempt (partyPromote p) with
      | .error e =>
        Step.change fun w => w.modifyUnit u fun x => { x with doomed := true }
        throw e
      | .ok () =>
        Step.change fun w => w.modifyUnit u fun x =>
          { x with parties := x.parties.modify i fun q => (q.1, false) }
        promoteAll u rest
    | none => promoteAll u rest

/-- The text of a completed outcome in a failure. -/
def outcomeText (o : Outcome) : String := o.debugName

/-- Enlists a participant in local unit `u`. -/
def enlistLocal (u : Nat) (p : Party) (singlePhase : Bool) : Tx Unit := do
  let x := (← Step.read).unit u
  if let some o := x.outcome then
    throw (.invalid ("cannot enlist in unit of work " ++ x.id.render ++ " after it completed (" ++
      outcomeText o ++ ")"))
  Step.acquire x.lock
  Tx.andThen (do
    let parties := ((← Step.read).unit u).parties
    if parties.any (·.1 == p) then return ()
    Step.change fun w => w.modifyUnit u fun x => { x with parties := x.parties ++ [(p, singlePhase)] }
    if !parties.isEmpty then
      let all := ((← Step.read).unit u).parties
      promoteAll u ((List.range all.length).filter fun i => (all[i]?.map (·.2)).getD false))
    (Step.unlock x.lock)

/-- Takes the participants of a unit, under its lock. -/
def takeParties (u : Nat) : Step (List (Party × Bool)) := do
  let lock := ((← Step.read).unit u).lock
  Step.acquire lock
  let parties := ((← Step.read).unit u).parties
  Step.change fun w => w.modifyUnit u fun x => { x with parties := [] }
  Step.unlock lock
  pure parties

/-- Sets a unit's outcome, once. -/
def finishUnit (u : Nat) (o : Outcome) : Tx Unit := do
  let x := (← Step.read).unit u
  match x.outcome with
  | some prev =>
    throw (.invalid ("unit of work " ++ x.id.render ++ " already completed (" ++ outcomeText prev ++ ")"))
  | none => Step.change fun w => w.modifyUnit u fun x => { x with outcome := some o }

/-- Asks the participants to prepare in order; says whether all voted prepared. -/
def prepareAll : List (Party × Bool) → Step Bool
  | [] => pure true
  | (p, _) :: rest => do
    if (← partyPrepare p) == .aborted then pure false else prepareAll rest

/-- Commits every participant in order; returns the first failure. -/
def commitAll : List (Party × Bool) → Step (Option TxError)
  | [] => pure none
  | (p, _) :: rest => do
    let r ← (partyCommit p).run
    let later ← commitAll rest
    match r with
    | .error e => pure (some e)
    | .ok () => pure later

/-- Commits local unit `u`. -/
def commitLocal (u : Nat) : Tx Unit := do
  let parties ← takeParties u
  let x := (← Step.read).unit u
  if x.doomed then
    finishUnit u .rolledBack
    let _ ← rollbackAll parties
    throw (.coordination ("unit of work " ++ x.id.render ++ " was marked for rollback"))
  finishUnit u .committed
  match parties with
  | [] => pure ()
  | [(p, true)] => partySinglePhaseCommit p
  | _ =>
    if !(← prepareAll parties) then
      Step.change fun w => w.modifyUnit u fun x => { x with outcome := some .rolledBack }
      let _ ← rollbackAll parties
      throw (.coordination ("unit of work " ++ x.id.render ++ " aborted during prepare"))
    match ← commitAll parties with
    | some e => throw e
    | none => pure ()

/-- Rolls local unit `u` back. -/
def rollbackLocal (u : Nat) : Tx Unit := do
  let parties ← takeParties u
  finishUnit u .rolledBack
  match parties with
  | [(p, true)] => partySinglePhaseRollback p
  | _ =>
    match ← rollbackAll parties with
    | some e => throw e
    | none => pure ()

/-- Starts a unit as the coordinator's current one; returns its number. -/
def beginUnit : Tx Nat := do
  let w ← Step.read
  if w.current.isSome then throw (.invalid "a unit of work is already active")
  modifyGet fun w =>
    let (lock, w) := w.newLock
    let i := w.units.size
    (i, { w with units := w.units.push { id := unitIdOf i, lock }, current := some i })

/-- Takes the coordinator's current unit. -/
def takeCurrent : Tx Nat := do
  match (← Step.read).current with
  | some i =>
    Step.change fun w => { w with current := none }
    pure i
  | none => throw (.invalid "no unit of work is active")

/-- Commits the coordinator's current unit, holding it while it completes. -/
def commitCurrent : Tx Unit := do
  let u ← takeCurrent
  Step.holdUnit (.local u)
  Tx.andThen (commitLocal u) (Step.letGoUnit (.local u))

/-- Rolls the coordinator's current unit back, holding it while it completes. -/
def rollbackCurrent : Tx Unit := do
  let u ← takeCurrent
  Step.holdUnit (.local u)
  Tx.andThen (rollbackLocal u) (Step.letGoUnit (.local u))

/-- The identifier of host-driven unit `k` (numbered from 1). -/
def manualUnitId (k : Nat) : Uuid := Uuid.ofNat (0x5000 + k)

/-- Enlists an adapter in host-driven unit `i`: logs it, then fails once if told to. -/
def enlistManual (i a : Nat) (singlePhase : Bool) : Tx Unit := do
  Step.change fun w => w.note (.obj [("unit", .str ("w" ++ toString (i + 1))),
    ("enlist", .bool singlePhase)])
  match ((← Step.read).manualUnit i).failNext with
  | some e =>
    Step.change fun w => w.modifyManualUnit i fun x => { x with failNext := none }
    throw e
  | none =>
    Step.change fun w => w.modifyManualUnit i fun x => { x with parties := x.parties ++ [a] }

/-- Enlists an adapter in a unit of either coordinator. -/
def enlistIn (u : UnitRef) (a : Nat) (singlePhase : Bool) : Tx Unit :=
  match u with
  | .local i => enlistLocal i (.adapter a) singlePhase
  | .manual i => enlistManual i a singlePhase

end TxnCoord.Ambient
