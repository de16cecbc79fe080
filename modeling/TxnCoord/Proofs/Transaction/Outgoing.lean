import TxnCoord.Proofs.Transaction.KeepAlive
/-!
# What each request of an HTTP handle carries

An operation on an HTTP handle sends at most one request, in its turn, and everything in that
request is read off the handle as it stands then (`HttpOp.request`): the address the handle has
by then, or its begin address (the configuration's root followed by the version's endpoint for
the handle's database), the body of the operation's batch, and the credentials, user agent and
streaming of the configuration.

* a run of statements posts its batch to the address, or to the begin address while there is
  none;
* a keep-alive posts the empty batch to the address, and sends nothing while there is none;
* a commit posts its batch to the address followed by "/commit", or, while there is no address,
  to the begin address followed by "/commit", and sends nothing if the batch is empty then;
* a rollback deletes the address, with no body.

Among other tasks that move the world as the handle's life allows, every step of these
operations sends nothing, or that request while the handle is open (`World.SendsAs`): the
address is the one the handle has at the request's turn, not at the call. A batch's body has
one entry per statement, in order, and each entry reads back as its statement
(`Statement.ofEntry?`) and asks for rows.
-/

namespace TxnCoord

open Transaction

/-- The operations of an HTTP handle that send a request. -/
inductive HttpOp where
  | execute (batch : Batch)
  | keepAlive
  | commit (batch : Batch)
  | rollback

namespace HttpOp

/-- The method, address and body of what `op` sends from a handle as `hd`, or nothing. -/
def target : HttpOp → Handle → Option (Http.Method × String × Option Json)
  | .execute batch, hd => some (.post, hd.location.getD (beginUri hd), some (Http.batchBody batch))
  | .keepAlive, hd => hd.location.map fun loc => (.post, loc, some (Http.batchBody {}))
  | .commit batch, hd =>
    match hd.location with
    | some loc => some (.post, loc ++ "/commit", some (Http.batchBody batch))
    | none =>
      if batch.isEmpty then none
      else some (.post, beginUri hd ++ "/commit", some (Http.batchBody batch))
  | .rollback, hd => hd.location.map fun loc => (.delete, loc, none)

/-- The request `op` sends from handle `hd`: its target, with the credentials, user agent and
streaming of the handle's configuration. -/
def request (op : HttpOp) (hd : Handle) : Option Http.Request :=
  (op.target hd).map fun (method, uri, body) =>
    { method, uri, body, credentials := (httpParts hd).1.credentials,
      userAgent := (httpParts hd).1.userAgent, stream := (httpParts hd).1.useJsonStream }

theorem request_eq_some {op : HttpOp} {hd : Handle} {method : Http.Method} {uri : String}
    {body : Option Json} (ht : op.target hd = some (method, uri, body)) :
    op.request hd =
      some { method, uri, body, credentials := (httpParts hd).1.credentials,
             userAgent := (httpParts hd).1.userAgent, stream := (httpParts hd).1.useJsonStream } := by
  rw [request, ht]
  rfl

/-- What an operation sends does not depend on who waits for the handle's turns. -/
theorem request_watchers (op : HttpOp) (hd : Handle) (w : List Nat) :
    op.request { hd with watchers := w } = op.request hd := by
  cases op <;> rfl

theorem target_commit_some {hd : Handle} {loc : String} (hloc : hd.location = some loc)
    (batch : Batch) :
    (commit batch).target hd = some (.post, loc ++ "/commit", some (Http.batchBody batch)) := by
  simp only [target, hloc]

theorem target_commit_none {hd : Handle} (hnone : hd.location = none) {batch : Batch}
    (hb : batch.isEmpty = false) :
    (commit batch).target hd = some (.post, beginUri hd ++ "/commit", some (Http.batchBody batch)) := by
  simp only [target, hnone, hb, Bool.false_eq_true, if_false]

theorem target_keepAlive_some {hd : Handle} {loc : String} (hloc : hd.location = some loc) :
    keepAlive.target hd = some (.post, loc, some (Http.batchBody {})) := by
  simp only [target, hloc, Option.map_some]

theorem target_rollback_some {hd : Handle} {loc : String} (hloc : hd.location = some loc) :
    rollback.target hd = some (.delete, loc, none) := by
  simp only [target, hloc, Option.map_some]

end HttpOp

/-- A commit of a handle without an address goes to the begin address for its database: on a
server before 4.0, the one endpoint every database shares. -/
example :
    ((HttpOp.commit ⟨[{ text := "RETURN 1" }]⟩).target
      { id := default, database := "movies", link := .http 0 { rootUri := "http://db:7474" } ⟨3, 5, 0⟩ }).map
        (·.2.1) = some "http://db:7474/db/data/transaction/commit" := by
  decide

theorem World.Reads.request {h : Nat} {hd : Handle} {s : World} (hr : World.Reads h hd s)
    (op : HttpOp) : op.request (s.handle h) = op.request hd := by
  rw [hr, HttpOp.request_watchers]

/-- A step of operation `op` on handle `h`: it sends nothing, or, while the handle is open, the
request `op` makes of the handle as the step finds it. -/
def World.SendsAs (h : Nat) (op : HttpOp) (s s' : World) : Prop :=
  s'.log = s.log ∨ ∃ req, op.request (s.handle h) = some req ∧ (s.handle h).state = .open ∧
    s'.log = s.log.push (Peer.requestEntry (s.handle h).via req)

/-- The rules for operation `op` on handle `h`: the rest of the program moves the handle only as
its life allows, and every step of `op` sends nothing or the request of its turn. -/
def requestRules (h : Nat) (op : HttpOp) : Rules World Cond :=
  guardRules h (fun _ _ => True) (World.SendsAs h op)

namespace Transaction

/-! ## Steps that send nothing -/

section Silent

variable {h : Nat} {L : World → World → Prop} (hL : ∀ s s', s'.log = s.log → L s s')
include hL

theorem silent_lawful : (guardRules h (fun _ _ => True) L).Lawful :=
  guarded_lawful (World.promise_true h) fun s s' _ hlog => hL s s' hlog

/-- Ending an open handle sends nothing. -/
theorem setState_silent {st : TxState} (hst : st ≠ .open) :
    Triple (guardRules h (fun _ _ => True) L)
      (fun s => IsHttp h s ∧ (s.handle h).state = .open) (setState h st) (fun _ => IsHttp h) := by
  unfold setState
  exact Triple.post (Triple.modify fun s hs => guardRules_guar_of (s.settles_setState hs.2 hst)
    (hL _ _ rfl)) fun _ _ ⟨s, hs, hw⟩ => hs.1.after_step (s.settles_setState hs.2 hst) hw

theorem vanished_silent :
    Triple (guardRules h (fun _ _ => True) L)
      (fun s => IsHttp h s ∧ (s.handle h).state = .open) (vanished h) (fun _ => IsHttp h) :=
  Triple.bind (setState_silent hL (by decide)) fun _ => Triple.pure_of fun _ hs => hs

theorem recordFailure_silent (f : Http.Failure) :
    Triple (guardRules h (fun _ _ => True) L)
      (fun s => IsHttp h s ∧ (s.handle h).state = .open) (recordFailure h f)
      (fun _ => IsHttp h) := by
  unfold recordFailure
  dsimp only
  split
  · have hmove := fun s (hs : IsHttp h s ∧ (s.handle h).state = .open) =>
      settles_recordFailure (h := h) s hs.1.lt_size hs.2 f.toError
    exact Triple.bind (Triple.modify fun s hs => guardRules_guar_of (hmove s hs) (hL _ _ rfl))
      fun _ => Triple.pure_of fun _ ⟨s, hs, hw⟩ => hs.1.after_step (hmove s hs) hw
  · exact Triple.pure_of fun _ hs => hs.1

/-- Taking in an accepted answer sends nothing; an address it gives goes to a handle that had
none. -/
theorem absorb_silent (a : Http.Accepted) :
    Triple (guardRules h (fun _ _ => True) L) (IsHttp h) (absorb h a).run (fun _ => IsHttp h) :=
  (absorb_guarded (P := fun _ => True) (World.promise_true h) (fun s s' _ hlog => hL s s' hlog)
    (fun _ _ _ _ => trivial)
    (fun s _ hnone loc => guardRules_guar_of (s.relocated_locate hnone loc).settles (hL _ _ rfl))
    a).pre fun _ hs => ⟨hs, trivial⟩

/-- A block run in its turn sends what the block sends: taking the ticket, waiting for it and
finishing it touch only the handle's bookkeeping. -/
theorem inTurn_silent {α : Type} {body : Tx α}
    (hb : Triple (guardRules h (fun _ _ => True) L) (IsHttp h) body.run (fun _ => IsHttp h)) :
    Triple (guardRules h (fun _ _ => True) L) (IsHttp h)
      (do
        let n ← (liftM (Step.issue h) : Tx Nat)
        liftM (Step.waitTurn h n)
        Tx.andThen body (Step.finishTicket h n)).run
      (fun _ => IsHttp h) := by
  have hq : Stable (World.Quiet h) (IsHttp h) := stable_isHttp.quiet
  have hLq : ∀ s s', World.Quiet h s s' → s'.log = s.log → L s s' := fun s s' _ hlog => hL s s' hlog
  refine Triple.run_liftM_bind (issue_guarded (World.promise_true h) hLq hq h) fun n => ?_
  refine Triple.run_liftM_bind (await_guarded stable_isHttp_guarded _) fun _ => ?_
  exact Triple.run_andThen (fun _ => IsHttp h) hb fun _ =>
    finishTicket_guarded (World.promise_true h) hLq hq h n

end Silent

/-! ## The requests -/

section Requests

variable {h : Nat} {op : HttpOp}

theorem sendsAs_silent (s s' : World) (hlog : s'.log = s.log) : World.SendsAs h op s s' := .inl hlog

theorem requestRules_lawful : (requestRules h op).Lawful := silent_lawful sendsAs_silent

/-- The one request of an operation, sent from the handle it read in its turn. -/
theorem send_sendsAs {hd : Handle} (hopen : hd.state = .open) {method : Http.Method} {uri : String}
    {body : Option Json} (ht : op.target hd = some (method, uri, body)) :
    Triple (requestRules h op) (fun s => IsHttp h s ∧ World.Reads h hd s) (send h method uri body)
      (fun _ s => IsHttp h s ∧ World.Reads h hd s) := by
  unfold send
  refine (Triple.modifyGet fun s hs => guardRules_guar_of (World.quiet_sent s _ _ _).settles
    (.inr ⟨_, ?_, hs.2.state.trans hopen, rfl⟩)).post fun _ s' ⟨s, hs, _, hw⟩ =>
      ⟨hs.1.after_step (World.quiet_sent s _ _ _).settles hw,
        World.Reads.watchers (hs.2.of_handles (by rfl)) hw⟩
  rw [hs.2.request, HttpOp.request_eq_some ht, ← httpParts_congr hs.2.link]
  rfl

/-- A post of an operation's batch. Afterwards the handle is still open: an older server's
failed begin only gives it an address. -/
theorem post_sendsAs {hd : Handle} (hopen : hd.state = .open) {uri : String} {batch : Batch}
    (ht : op.target hd = some (.post, uri, some (Http.batchBody batch))) :
    Triple (requestRules h op) (fun s => IsHttp h s ∧ World.Reads h hd s) (post h uri batch)
      (fun _ s => IsHttp h s ∧ (s.handle h).state = .open) := by
  unfold post
  refine Triple.bind (send_sendsAs hopen ht) fun r => ?_
  split
  · exact Triple.pure_of fun _ hs => ⟨hs.1, hs.2.state.trans hopen⟩
  dsimp only
  split
  · rename_i _ _ loc _ _
    have hmove := fun s => World.relocated_failedBegin (h := h) s loc
    exact Triple.bind (Triple.modify fun s _ => guardRules_guar_of (hmove s).settles (.inl rfl))
      fun _ => Triple.pure_of fun _ ⟨s, hs, hw⟩ => ⟨hs.1.after_step (hmove s).settles hw,
        hw.quiet.state.trans ((hmove s).state.trans (hs.2.state.trans hopen))⟩
  · exact Triple.pure_of fun _ hs => ⟨hs.1, hs.2.state.trans hopen⟩

theorem httpExecute_sendsAs (n : Nat) (batch : Batch) :
    Triple (requestRules h (.execute batch)) (IsHttp h) (httpExecute h n batch).run
      (fun _ => IsHttp h) := by
  have hq : Stable (World.Quiet h) (IsHttp h) := stable_isHttp.quiet
  have hLq : ∀ s s', World.Quiet h s s' → s'.log = s.log → World.SendsAs h (.execute batch) s s' :=
    fun s s' _ hlog => sendsAs_silent s s' hlog
  unfold httpExecute
  refine Triple.run_liftM_bind (await_guarded stable_isHttp_guarded _) fun _ => ?_
  refine Triple.run_andThen (fun _ => IsHttp h) ?_ fun _ =>
    Triple.bind (endPending_guarded (World.promise_true h) hLq hq h) fun _ =>
      finishTicket_guarded (World.promise_true h) hLq hq h n
  refine Triple.run_get_bind requestRules_lawful fun w hw => ?_
  dsimp only
  refine Triple.run_ofExcept_bind (fun _ hok => ?_) fun _ _ s hs => hq _ _ hs.1 hs.2.quiet
  have hopen : (w.handle h).state = .open := (TxState.ensureOpen_ok_iff _).1 hok
  -- the batch goes where the handle read in its turn says: its address, or its begin address
  refine Triple.run_liftM_bind ((post_sendsAs hopen rfl).pre fun s hs =>
    ⟨hq _ _ hs.1 hs.2.quiet, World.reads_of_watchers hs.2⟩) fun r => ?_
  split
  · exact Triple.run_bind (fun _ => IsHttp h) ((absorb_silent sendsAs_silent _).pre fun _ hs => hs.1)
      (fun _ => Triple.run_pure fun _ hs => hs) fun _ _ hs => hs
  · split
    · exact Triple.run_liftM_bind (vanished_silent sendsAs_silent) fun _ =>
        Triple.run_throw fun _ hs => hs
    · exact Triple.run_throw fun _ hs => hs.1
  · exact Triple.run_liftM_bind (recordFailure_silent sendsAs_silent _) fun _ =>
      Triple.run_throw fun _ hs => hs

theorem httpRollback_sendsAs :
    Triple (requestRules h .rollback) (IsHttp h) (httpRollback h).run (fun _ => IsHttp h) := by
  have hq : Stable (World.Quiet h) (IsHttp h) := stable_isHttp.quiet
  unfold httpRollback
  refine inTurn_silent sendsAs_silent ?_
  refine Triple.run_get_bind requestRules_lawful fun w hw => ?_
  dsimp only
  split
  · exact Triple.run_pure fun s hs => hq _ _ hs.1 hs.2.quiet
  refine Triple.run_ofExcept_bind (fun _ hok => ?_) fun _ _ s hs => hq _ _ hs.1 hs.2.quiet
  have hopen : (w.handle h).state = .open := (TxState.ensureOpen_ok_iff _).1 hok
  split
  · exact Triple.run_liftM ((setState_silent sendsAs_silent (by decide)).pre fun s hs =>
      ⟨hq _ _ hs.1 hs.2.quiet, hs.2.open_of_ok hok⟩)
  rename_i loc hloc
  -- the DELETE goes to the address the handle has in the rollback's turn
  refine Triple.run_liftM_bind ((send_sendsAs hopen (HttpOp.target_rollback_some hloc)).pre
    fun s hs => ⟨hq _ _ hs.1 hs.2.quiet, World.reads_of_watchers hs.2⟩) fun r => ?_
  refine Triple.run_liftM_bind ((setState_silent sendsAs_silent (by decide)).pre fun s hs =>
    ⟨hs.1, hs.2.state.trans hopen⟩) fun _ => ?_
  split
  · exact Triple.run_pure fun _ hs => hs
  · exact Triple.run_pure fun _ hs => hs
  · exact Triple.run_throw fun _ hs => hs

theorem httpCommit_sendsAs (batch : Batch) :
    Triple (requestRules h (.commit batch)) (IsHttp h) (httpCommit h batch).run
      (fun _ => IsHttp h) := by
  have hq : Stable (World.Quiet h) (IsHttp h) := stable_isHttp.quiet
  unfold httpCommit
  extract_lets committing afterPending
  refine Triple.run_get_bind requestRules_lawful fun w₀ hw₀ => ?_
  dsimp only
  split
  · exact Triple.run_throw_bind fun s hs => hq _ _ hs.1 hs.2.quiet
  refine (inTurn_silent sendsAs_silent ?_).pre fun s hs => hq _ _ hs.1 hs.2.quiet
  refine Triple.run_get_bind requestRules_lawful fun w hw => ?_
  dsimp only
  split
  · exact Triple.run_throw_bind fun s hs => hq _ _ hs.1 hs.2.quiet
  refine Triple.run_ofExcept_bind (fun _ hok => ?_) fun _ _ s hs => hq _ _ hs.1 hs.2.quiet
  have hopen : (w.handle h).state = .open := (TxState.ensureOpen_ok_iff _).1 hok
  -- the commit post goes where the commit's target, read in its turn, says; then the handle ends
  have hcommitting : ∀ uri, (HttpOp.commit batch).target (w.handle h) =
        some (.post, uri, some (Http.batchBody batch)) →
      Triple (requestRules h (.commit batch))
        (fun s => IsHttp h w ∧ (requestRules h (.commit batch)).sched w s) (committing uri).run
        (fun _ => IsHttp h) := by
    intro uri ht
    refine Triple.run_liftM_bind ((post_sendsAs hopen ht).pre fun s hs =>
      ⟨hq _ _ hs.1 hs.2.quiet, World.reads_of_watchers hs.2⟩) fun r => ?_
    split
    · exact Triple.run_liftM_bind (setState_silent sendsAs_silent (by decide)) fun _ =>
        Triple.run_pure fun _ hs => hs
    · exact Triple.run_liftM_bind (vanished_silent sendsAs_silent) fun _ =>
        Triple.run_throw fun _ hs => hs
    · exact Triple.run_throw fun _ hs => hs.1
    · exact Triple.run_liftM_bind (setState_silent sendsAs_silent (by decide)) fun _ =>
        Triple.run_throw fun _ hs => hs
  split
  · rename_i loc hloc
    exact Triple.run_pure_bind (hcommitting _ (HttpOp.target_commit_some hloc batch))
  rename_i hnone
  split
  · -- an empty commit of a handle without an address only marks it committed
    exact Triple.run_liftM_bind ((setState_silent sendsAs_silent (by decide)).pre fun s hs =>
      ⟨hq _ _ hs.1 hs.2.quiet, hs.2.open_of_ok hok⟩) fun _ => Triple.run_pure fun _ hs => hs
  rename_i hb
  exact Triple.run_pure_bind (hcommitting _ (HttpOp.target_commit_none hnone (by simpa using hb)))

/-- A keep-alive's post is the request of a keep-alive: the empty batch to the address. -/
theorem keepAliveLaw_sendsAs (h : Nat) : KeepAliveLaw h (fun _ => True) (World.SendsAs h .keepAlive) where
  stable _ _ _ _ := trivial
  silent _ _ hlog := .inl hlog
  sends _ _ _ _ hopen hloc hlog :=
    .inr ⟨_, HttpOp.request_eq_some (HttpOp.target_keepAlive_some hloc), hopen, hlog⟩

theorem execute_sendsAs (batch : Batch) :
    Triple (requestRules h (.execute batch)) (IsHttp h) (execute h batch).run (fun _ => IsHttp h) := by
  have hq : Stable (World.Quiet h) (IsHttp h) := stable_isHttp.quiet
  have hLq : ∀ s s', World.Quiet h s s' → s'.log = s.log → World.SendsAs h (.execute batch) s s' :=
    fun s s' _ hlog => sendsAs_silent s s' hlog
  unfold execute reserve executeReserved
  refine Triple.run_liftM_bind (Triple.bind (beginPending_guarded (World.promise_true h) hLq hq h)
    fun _ => issue_guarded (World.promise_true h) hLq hq h) fun n => ?_
  refine Triple.run_get_bind requestRules_lawful fun w hw => ?_
  split
  · exact (httpExecute_sendsAs n batch).pre fun s hs => hq _ _ hs.1 hs.2.quiet
  · exact (hw.not_session ‹_›).elim

theorem commitWith_sendsAs (batch : Batch) :
    Triple (requestRules h (.commit batch)) (IsHttp h) (commitWith h batch).run
      (fun _ => IsHttp h) := by
  unfold commitWith
  refine Triple.run_get_bind requestRules_lawful fun w hw => ?_
  split
  · exact (httpCommit_sendsAs batch).pre fun s hs => stable_isHttp.quiet _ _ hs.1 hs.2.quiet
  · exact (hw.not_session ‹_›).elim

theorem rollback_sendsAs :
    Triple (requestRules h .rollback) (IsHttp h) (rollback h).run (fun _ => IsHttp h) := by
  unfold rollback
  refine Triple.run_get_bind requestRules_lawful fun w hw => ?_
  split
  · exact httpRollback_sendsAs.pre fun s hs => stable_isHttp.quiet _ _ hs.1 hs.2.quiet
  · exact (hw.not_session ‹_›).elim

end Requests

end Transaction

/-! ## The body of a batch -/

/-- A statement as an entry of a request body reads: its text and its parameters. -/
def Statement.ofEntry? (e : Json) : Option Statement := do
  let text ← (e.get? "statement").bind Json.str?
  let parameters ← (e.get? "parameters").bind Json.obj?
  pure { text, parameters }

/-- The body of a batch has one entry per statement, in order; each reads back as its statement
and asks for the rows. -/
theorem batchBody_entries (b : Batch) :
    ∃ entries : List Json, Http.batchBody b = .obj [("statements", .arr entries)] ∧
      entries.mapM Statement.ofEntry? = some b.statements ∧
      ∀ e ∈ entries, e.get? "resultDataContents" = some (.arr [.str "row"]) := by
  refine ⟨_, rfl, ?_, ?_⟩
  · obtain ⟨sts⟩ := b
    induction sts with
    | nil => rfl
    | cons st rest ih =>
      simp only [List.map_cons, List.mapM_cons] at ih ⊢
      rw [ih]
      rfl
  · intro e he
    obtain ⟨st, -, rfl⟩ := List.mem_map.1 he
    rfl


/-- **Each request is read off the handle at its turn.** Among any other tasks that let an HTTP
handle's life move on as it may, every step of a run of statements, a keep-alive (the operation
and the background task), a commit and a rollback on the handle sends nothing, or, while the
handle is open, the request that the operation makes of the handle as it stands at that step:

* a run of statements posts its batch to the address, or to the begin address while there is
  none;
* a keep-alive posts the empty batch to the address, and nothing while there is none;
* a commit posts its batch to the address followed by "/commit", or to the begin address
  followed by "/commit" while there is no address and the batch is not empty;
* a rollback deletes the address, with no body;

each with the credentials, user agent and streaming of the handle's configuration. The body of
a batch has one entry per statement, in order, each reading back as its statement and asking
for rows. -/
theorem requests_read_at_their_turn (h : Nat) :
    (∀ batch, Triple (requestRules h (.execute batch)) (IsHttp h) (execute h batch).run
      fun _ => IsHttp h) ∧
    Triple (requestRules h .keepAlive) (IsHttp h) (keepAlive h).run (fun _ => IsHttp h) ∧
    (∀ period, Triple (requestRules h .keepAlive) (IsHttp h) (keepAliveTask h period)
      fun _ => IsHttp h) ∧
    (∀ batch, Triple (requestRules h (.commit batch)) (IsHttp h) (commitWith h batch).run
      fun _ => IsHttp h) ∧
    Triple (requestRules h .rollback) (IsHttp h) (rollback h).run (fun _ => IsHttp h) ∧
    ∀ b : Batch, ∃ entries : List Json, Http.batchBody b = .obj [("statements", .arr entries)] ∧
      entries.mapM Statement.ofEntry? = some b.statements ∧
      ∀ e ∈ entries, e.get? "resultDataContents" = some (.arr [.str "row"]) :=
  have hK := keepAliveLaw_sendsAs h
  ⟨execute_sendsAs,
    ((keepAlive_obeys hK).pre fun _ hs => ⟨hs, trivial⟩).post fun _ _ hs => hs.1,
    fun period => ((keepAliveTask_obeys hK period).pre fun _ hs => ⟨hs, trivial⟩).post
      fun _ _ hs => hs.1,
    commitWith_sendsAs, rollback_sendsAs, batchBody_entries⟩

end TxnCoord
