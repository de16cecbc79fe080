import TxnCoord.Ambient.Unit
/-!
# Scope stacks and scopes

Each manager keeps a stack of scopes for every line of control that uses it.

* The stack of running code is the one installed around it for this manager, if any;
  otherwise its task's own, made on first use; otherwise, outside any task, the
  manager's detached stack.
* The current transaction is the handle of the innermost scope: none when the stack is
  empty or the innermost scope is suppressed.
* Ending a scope runs once. It takes the record off its stack, wherever it sits, and then
  rolls back a transaction that the scope owns and that is still open; an HTTP
  transaction that never reached the server is just marked rolled back.
* Dropping a scope does the same, but the rollback runs as a task of its own.
* A scope's commit commits only when the scope owns the transaction; otherwise it just
  checks that the transaction is open. Rollback and keep-alive act on the handle whoever
  owns it. A suppressed scope has no handle and refuses all three.
-/

namespace TxnCoord.Manager

open Transaction

/-- The stack that manager `m` uses for the running code. -/
def contextOf (m : Nat) : Step Nat := do
  let w ← Step.read
  match (w.overrideMap w.task).bind (·.lookup m) with
  | some c => pure c
  | none =>
    if w.task == 0 then pure (w.manager m).detached
    else
      match (w.manager m).byTask.lookup w.task with
      | some c => pure c
      | none => modifyGet fun w =>
        let (c, w) := w.newContext
        (c, w.modifyManager m fun mg => { mg with byTask := mg.byTask ++ [(w.task, c)] })

/-- The innermost record of a stack. -/
def topOf (w : World) (ctx : Nat) : Option Nat := (w.context ctx).records.getLast?

/-- The handle of the innermost scope of a stack, if it has one. -/
def currentOf (w : World) (ctx : Nat) : Option Nat := (topOf w ctx).bind fun r => (w.record r).handle

/-- The number of scopes manager `m` has open for the running code. -/
def depth (m : Nat) : Step Nat := do
  let ctx ← contextOf m
  pure ((← Step.read).context ctx).records.length

/-- Manager `m`'s current transaction for the running code. -/
def currentTransaction (m : Nat) : Step (Option Nat) := do
  let ctx ← contextOf m
  pure (currentOf (← Step.read) ctx)

/-- Removes the last occurrence of a record from a stack. -/
def removeLast (r : Nat) (xs : List Nat) : List Nat := (xs.reverse.erase r).reverse

/-- Marks a record ended and takes it off its stack; says whether it was still live. -/
def retire (ctx r : Nat) : Step Bool := modifyGet fun w =>
  if (w.record r).ended then (false, w)
  else (true, (w.modifyRecord r fun x => { x with ended := true }).modifyContext ctx fun c =>
    { c with records := removeLast r c.records })

/-- Ends a scope: rolls back the transaction it owns if that is still open. -/
def finishScope (ctx r : Nat) : Tx Unit := do
  if !(← retire ctx r) then return ()
  let sr := (← Step.read).record r
  match sr.handle with
  | some h =>
    if sr.owner && ((← Step.read).handle h).isOpen then
      if ← abandonLocally h then return ()
      rollback h
  | none => pure ()

/-- Drops a scope: as ending it, with the rollback left to a task of its own. -/
def dropScope (ctx r : Nat) : Step Unit := do
  if !(← retire ctx r) then return ()
  let sr := (← Step.read).record r
  match sr.handle with
  | some h =>
    if !sr.owner || !((← Step.read).handle h).isOpen then return ()
    if ← abandonLocally h then return ()
    let _ ← Async.spawn (Async.toFiber (do let _ ← (rollback h).run))
  | none => pure ()

/-- The handle of a scope, for an action that needs one. -/
def activeHandle (r : Nat) (action : String) : Tx Nat := do
  match ((← Step.read).record r).handle with
  | some h => pure h
  | none => throw (.invalid ("cannot " ++ action ++ ": no transaction is active in suppressed mode"))

/-- Commits a scope's transaction if the scope owns it; otherwise checks it is open. -/
def scopeCommit (r : Nat) : Tx Unit := do
  let h ← activeHandle r "commit"
  let w ← Step.read
  if (w.record r).owner then commit h else Tx.ofExcept (w.handle h).state.ensureOpen

/-- Rolls back a scope's transaction, whoever owns it. -/
def scopeRollback (r : Nat) : Tx Unit := do
  rollback (← activeHandle r "roll back")

/-- Keeps a scope's transaction alive. -/
def scopeKeepAlive (r : Nat) : Tx Unit := do
  keepAlive (← activeHandle r "keep alive")

/-- Whether a scope's transaction is open. -/
def scopeIsOpen (w : World) (r : Nat) : Bool :=
  match (w.record r).handle with
  | some h => (w.handle h).isOpen
  | none => false

end TxnCoord.Manager
