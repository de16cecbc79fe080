import TxnCoord.Proofs.Manager.Endings
import TxnCoord.Proofs.Fiber.Alone
/-!
# What ending an owning scope sends

Ending a scope that owns an open transaction rolls it back. When no other operation is
under way on that transaction (`Idle`: every ticket issued on it has finished), the rollback
never has to wait, so the scheduler runs it straight through (`Alone`), and the whole run can
be told exactly:

* the transaction ends rolled back;
* an HTTP transaction that never began is closed locally, and nothing is sent;
* otherwise the log gains exactly one request: the DELETE of the transaction's address, or
  its driver's rollback (`rollbackRequest`).

`Tracks h hd l s` follows the run: transaction `h` reads as `hd` (its tickets and who waits on
them apart) and the log is `l`. Each step of the rollback has one lemma saying how it moves
`Tracks`, and the rollbacks and scope endings are assembled from them.

Ending the scope runs the rollback itself (`finishScope_requests`). Dropping it leaves the
rollback to a task of its own (`dropScope_requests`), and that task, once it runs, does
the same (`rollbackFiber_requests`).
-/

namespace TxnCoord

open Transaction Manager

/-- The request a rollback of `hd` sends: the DELETE of its address over HTTP, the driver's
rollback for a session. -/
def rollbackRequest (hd : Handle) : Json :=
  match hd.link with
  | .http m c _ =>
    Peer.requestEntry m
      { method := .delete, uri := hd.location.getD "", body := none,
        credentials := c.credentials, userAgent := c.userAgent, stream := c.useJsonStream }
  | .session m => Peer.driverEntry m "rollback"

theorem rollbackRequest_session {hd : Handle} {m : Nat} (hlink : hd.link = .session m) :
    rollbackRequest hd = Peer.driverEntry m "rollback" := by
  rw [rollbackRequest, hlink]

/-- The task that dropping a scope leaves to roll its transaction back. -/
def rollbackFiber (h : Nat) : Fiber World Cond := Async.toFiber (do let _ ← (rollback h).run)

/-- Transaction `h` of the world reads as `hd`, its tickets and who waits on them apart, and
the log is `l`. -/
structure Tracks (h : Nat) (hd : Handle) (l : Array Json) (s : World) : Prop where
  lt : h < s.handles.size
  state : (s.handle h).state = hd.state
  link : (s.handle h).link = hd.link
  location : (s.handle h).location = hd.location
  log : s.log = l

/-- Every ticket issued on transaction `h` has finished: no operation is under way on it. -/
def Idle (h : Nat) (s : World) : Prop := (s.handle h).tickets.serving = (s.handle h).tickets.next

/-- Scope `r` has not ended and owns transaction `h`, which is idle and reads as `hd`, with the
log at `l`. -/
def OwnsIdle (r h : Nat) (hd : Handle) (l : Array Json) (s : World) : Prop :=
  ((Tracks h hd l s ∧ Idle h s) ∧ (s.record r).handle = some h ∧ (s.record r).owner = true) ∧
    (s.record r).ended = false

section Tracks

variable {h : Nat} {hd : Handle} {l : Array Json} {s s' : World}

theorem handle_of_handles (hh : s'.handles = s.handles) (i : Nat) : s'.handle i = s.handle i := by
  unfold World.handle
  rw [hh]

theorem Tracks.of_handles (ht : Tracks h hd l s) (hh : s'.handles = s.handles) (hl : s'.log = s.log) :
    Tracks h hd l s' := by
  obtain ⟨hlt, hst, hlk, hloc, hlog⟩ := ht
  rw [← handle_of_handles hh h] at hst hlk hloc
  exact ⟨hh ▸ hlt, hst, hlk, hloc, hl.trans hlog⟩

theorem Idle.of_handles (hi : Idle h s) (hh : s'.handles = s.handles) : Idle h s' := by
  unfold Idle
  rw [handle_of_handles hh h]
  exact hi

/-- A change of transaction `h` after which it reads as `hd'`. -/
theorem Tracks.modifyHandle (ht : Tracks h hd l s) {g : Handle → Handle} {hd' : Handle}
    (hst : (g (s.handle h)).state = hd'.state) (hlk : (g (s.handle h)).link = hd'.link)
    (hloc : (g (s.handle h)).location = hd'.location) : Tracks h hd' l (s.modifyHandle h g) := by
  rw [← World.handle_modifyHandle_self s ht.lt g] at hst hlk hloc
  exact ⟨by simpa [World.modifyHandle] using ht.lt, hst, hlk, hloc, ht.log⟩

/-- A change of transaction `h` that keeps what a rollback reads of it. -/
theorem Tracks.modifyHandle_keep (ht : Tracks h hd l s) {g : Handle → Handle}
    (hg : ∀ x, (g x).state = x.state ∧ (g x).link = x.link ∧ (g x).location = x.location) :
    Tracks h hd l (s.modifyHandle h g) :=
  ht.modifyHandle ((hg _).1.trans ht.state) ((hg _).2.1.trans ht.link) ((hg _).2.2.trans ht.location)

theorem Tracks.note (ht : Tracks h hd l s) (e : Json) : Tracks h hd (l.push e) (s.note e) :=
  ⟨ht.lt, ht.state, ht.link, ht.location, by rw [← ht.log]; rfl⟩

theorem Tracks.issue (ht : Tracks h hd l s) (tk : Sequencer) (x : Hold) :
    Tracks h hd l ((s.modifyHandle h fun hd => { hd with tickets := tk }).hold x) := by
  have hm : Tracks h hd l (s.modifyHandle h fun hd => { hd with tickets := tk }) :=
    ht.modifyHandle_keep fun _ => ⟨rfl, rfl, rfl⟩
  exact hm.of_handles rfl rfl

theorem Tracks.releaseTicket (ht : Tracks h hd l s) (n : Nat) :
    Tracks h hd l (s.releaseTicket h n) := by
  have hm : Tracks h hd l (s.modifyHandle h fun hd =>
      { hd with tickets := hd.tickets.release n, watchers := [] }) :=
    ht.modifyHandle_keep fun _ => ⟨rfl, rfl, rfl⟩
  unfold World.releaseTicket
  exact hm.of_handles rfl rfl

theorem Tracks.setState (ht : Tracks h hd l s) (st : TxState) :
    Tracks h { hd with state := st } l (s.modifyHandle h fun hd => { hd with state := st }) :=
  ht.modifyHandle rfl ht.link ht.location

/-- What the tracking of an idle transaction says holds whatever keeps the handles and the
log. -/
theorem tracksIdle_keep : ∀ s s' : World, s'.handles = s.handles → s'.log = s.log →
    Tracks h hd l s ∧ Idle h s → Tracks h hd l s' ∧ Idle h s' :=
  fun _ _ hh hl hs => ⟨hs.1.of_handles hh hl, hs.2.of_handles hh⟩

end Tracks

/-! ## The steps of a rollback -/

section Steps

variable {t h : Nat} {hd : Handle} {l : Array Json}

/-- On an idle transaction, the ticket issued is served at once. -/
theorem issue_alone :
    Alone World.host t (fun a => Tracks h hd l a.state ∧ Idle h a.state) (Step.issue h)
      (fun n a => Tracks h hd l a.state ∧ World.host.holds (.turn h n) a.state = true) := by
  unfold Step.issue
  refine Alone.modifyGet_world fun s (hs : Tracks h hd l s ∧ Idle h s) a he => ?_
  rw [he]
  simp only [Sequencer.issue]
  have hturn : ((s.modifyHandle h fun x => { x with tickets := { (s.handle h).tickets with
      next := (s.handle h).tickets.next + 1 } }).handle h).tickets.isTurn
      (s.handle h).tickets.next = true := by
    rw [World.handle_modifyHandle_self s hs.1.lt]
    simp only [Sequencer.isTurn, beq_iff_eq]
    exact hs.2
  have hm := hs.1.issue { (s.handle h).tickets with next := (s.handle h).tickets.next + 1 }
    (.ticket h (s.handle h).tickets.next)
  exact ⟨hm.of_handles rfl rfl, hturn⟩

theorem finishTicket_alone (n : Nat) :
    Alone World.host t (fun a => Tracks h hd l a.state) (Step.finishTicket h n)
      (fun _ a => Tracks h hd l a.state) := by
  unfold Step.finishTicket
  refine Alone.change_world fun s hs a he => ?_
  rw [he]
  exact ((hs.of_handles (World.handles_unhold s _) (World.log_unhold s _)).releaseTicket n).of_handles
    rfl rfl

theorem setState_alone (st : TxState) :
    Alone World.host t (fun a => Tracks h hd l a.state) (setState h st)
      (fun _ a => Tracks h { hd with state := st } l a.state) := by
  unfold setState
  refine Alone.change_world fun _ hs a he => ?_
  rw [he]
  exact (hs.setState st).of_handles rfl rfl

/-- The DELETE of a begun HTTP transaction's address is logged as its rollback request. -/
theorem send_alone {m : Nat} {c : Config} {v : ServerVersion} (hlink : hd.link = .http m c v)
    {loc : String} (hloc : hd.location = some loc) :
    Alone World.host t (fun a => Tracks h hd l a.state) (send h .delete loc none)
      (fun _ a => Tracks h hd (l.push (rollbackRequest hd)) a.state) := by
  unfold send
  refine Alone.modifyGet_world fun s hs a he => ?_
  have hl : (s.handle h).link = .http m c v := hs.link.trans hlink
  rw [he]
  simp only [httpParts, Handle.via, hl, rollbackRequest, hlink, hloc, Option.getD_some]
  exact (hs.note _).of_handles rfl rfl

/-- The driver's rollback of a session is logged, and the transaction ends rolled back in the
same step. -/
theorem finishSession_alone (m : Nat) :
    Alone World.host t (fun a => Tracks h hd l a.state) (finishSession h m false)
      (fun _ a => Tracks h { hd with state := .rolledBack }
        (l.push (Peer.driverEntry m "rollback")) a.state) := by
  unfold finishSession
  refine Alone.modifyGet_world fun s hs a he => ?_
  have hend : Tracks h hd (l.push (Peer.driverEntry m "rollback")) (s.endSession m false).2 :=
    (hs.note _).of_handles rfl rfl
  rw [he]
  exact (hend.setState .rolledBack).of_handles rfl rfl

/-- Closing locally: an open HTTP transaction that never began is rolled back without a
request; any other is left as it is. -/
theorem abandonLocally_alone (hopen : hd.state = .open) :
    Alone World.host t (fun a => Tracks h hd l a.state ∧ Idle h a.state) (abandonLocally h)
      (fun b a => b = !hd.isBegun ∧
        Tracks h (if hd.isBegun then hd else { hd with state := .rolledBack }) l a.state ∧
        Idle h a.state) := by
  unfold abandonLocally
  refine Alone.modifyGet_world fun s (hs : Tracks h hd l s ∧ Idle h s) a he => ?_
  have hst : (s.handle h).state = .open := hs.1.state.trans hopen
  rw [he]
  dsimp only
  split
  · rename_i m c v hl
    have hlink : hd.link = .http m c v := hs.1.link ▸ hl
    by_cases hloc : hd.location = none
    · have hbegun : hd.isBegun = false := by simp [Handle.isBegun, hlink, hloc]
      have hidle : Idle h (s.modifyHandle h fun x => { x with state := .rolledBack }) := by
        unfold Idle
        rw [World.handle_modifyHandle_self s hs.1.lt]
        exact hs.2
      rw [if_pos (by simp [hs.1.location, hloc, hst])]
      refine ⟨by rw [hbegun]; rfl, ?_, hidle.of_handles rfl⟩
      rw [hbegun, if_neg Bool.false_ne_true]
      exact (hs.1.setState _).of_handles rfl rfl
    · have hbegun : hd.isBegun = true := by
        simpa [Handle.isBegun, hlink, Option.isSome_iff_ne_none] using hloc
      rw [if_neg (by simp [hs.1.location, hloc])]
      rw [hbegun, if_pos rfl]
      exact ⟨rfl, hs.1.of_handles rfl rfl, hs.2⟩
  · rename_i m hl
    have hbegun : hd.isBegun = true := by simp [Handle.isBegun, ← hs.1.link, hl]
    rw [hbegun, if_pos rfl]
    exact ⟨rfl, hs.1.of_handles rfl rfl, hs.2⟩

end Steps

/-! ## Rollbacks run alone -/

section Rollbacks

variable {t h : Nat} {hd : Handle} {l : Array Json}

/-- An operation that takes a ticket of an idle transaction runs its body at once, on the
transaction as it was, and gives the ticket back after it. -/
theorem ticketed_alone {α : Type} {x : Tx α} {hd' : Handle} {l' : Array Json}
    (hx : Alone World.host t (fun a => Tracks h hd l a.state) x.run
      (fun _ a => Tracks h hd' l' a.state)) :
    Alone World.host t (fun a => Tracks h hd l a.state ∧ Idle h a.state)
      (do let n ← Step.issue h; Step.waitTurn h n; Tx.andThen x (Step.finishTicket h n) : Tx α).run
      (fun _ a => Tracks h hd' l' a.state) := by
  refine Alone.run_liftM_bind issue_alone fun n => ?_
  refine Alone.run_liftM_bind (Alone.await_world fun s (hs : Tracks h hd l s ∧ _) => hs.2)
    fun _ => ?_
  exact Alone.run_andThen _ (hx.pre fun _ ha => ha.1) fun _ => finishTicket_alone n

/-- Rolling back a begun HTTP transaction, open and idle: it ends rolled back, and its DELETE
is the one request logged. -/
theorem httpRollback_alone {m : Nat} {c : Config} {v : ServerVersion} (hlink : hd.link = .http m c v)
    {loc : String} (hloc : hd.location = some loc) (hopen : hd.state = .open) :
    Alone World.host t (fun a => Tracks h hd l a.state ∧ Idle h a.state) (httpRollback h).run
      (fun _ a => Tracks h { hd with state := .rolledBack } (l.push (rollbackRequest hd)) a.state) := by
  unfold httpRollback
  refine ticketed_alone ?_
  refine Alone.run_liftM_bind (Alone.get_world (Tracks h hd l)) fun w => Alone.of_fact fun hw => ?_
  have hnow : ∀ a : Agenda World Cond, a.state = { w with wakes := [] } → Tracks h hd l a.state :=
    fun a ha => by rw [ha]; exact hw.of_handles rfl rfl
  dsimp only
  split
  · -- an open transaction has no statement failure to roll back for
    rename_i hcause
    have hrb := state_of_rollbackCause hcause
    rw [hw.state, hopen] at hrb
    cases hrb
  refine Alone.run_ofExcept_bind (fun _ _ => ?_) fun _ herr _ _ => ?_
  · split
    · rename_i hnone
      rw [hw.location, hloc] at hnone
      cases hnone
    · rename_i loc' hsome
      rw [hw.location, hloc] at hsome
      cases hsome
      refine Alone.run_liftM_bind ((send_alone hlink hloc).pre hnow) fun r => ?_
      refine Alone.run_liftM_bind (setState_alone .rolledBack) fun _ => ?_
      split
      · exact Alone.run_pure fun _ ha => ha
      · exact Alone.run_pure fun _ ha => ha
      · exact Alone.run_throw fun _ ha => ha
  · rw [hw.state, hopen] at herr
    cases herr

/-- Rolling back a session transaction, open and idle: it ends rolled back, and the driver's
rollback is the one call logged. -/
theorem sessionRollback_alone {m : Nat} (hlink : hd.link = .session m) (hopen : hd.state = .open) :
    Alone World.host t (fun a => Tracks h hd l a.state ∧ Idle h a.state) (sessionRollback h).run
      (fun _ a => Tracks h { hd with state := .rolledBack } (l.push (rollbackRequest hd)) a.state) := by
  unfold sessionRollback
  rw [rollbackRequest_session hlink]
  refine ticketed_alone ?_
  refine Alone.run_liftM_bind (Alone.get_world (Tracks h hd l)) fun w => Alone.of_fact fun hw => ?_
  dsimp only
  have hvia : (w.handle h).via = m := by
    unfold Handle.via
    rw [hw.link, hlink]
  refine Alone.run_ofExcept_bind (fun _ _ => ?_) fun _ herr _ _ => ?_
  · rw [hvia]
    refine Alone.run_liftM_bind ((finishSession_alone m).pre fun a ha => by
      rw [ha]
      exact hw.of_handles rfl rfl) fun r => ?_
    split
    · exact Alone.run_pure fun _ ha => ha
    · split
      · exact Alone.run_pure fun _ ha => ha
      · split
        · exact Alone.run_pure fun _ ha => ha
        · exact Alone.run_throw fun _ ha => ha
  · rw [hw.state, hopen] at herr
    cases herr

/-- Rolling back a begun transaction, open and idle, over either transport: it ends rolled
back, and its rollback request is the one request logged. -/
theorem rollback_alone (hopen : hd.state = .open) (hbegun : hd.isBegun = true) :
    Alone World.host t (fun a => Tracks h hd l a.state ∧ Idle h a.state) (rollback h).run
      (fun _ a => Tracks h { hd with state := .rolledBack } (l.push (rollbackRequest hd)) a.state) := by
  unfold rollback
  refine Alone.run_liftM_bind (Alone.get_world fun s => Tracks h hd l s ∧ Idle h s)
    fun w => Alone.of_fact fun hw => ?_
  have hnow : ∀ a : Agenda World Cond, a.state = { w with wakes := [] } →
      Tracks h hd l a.state ∧ Idle h a.state :=
    fun a ha => by rw [ha]; exact tracksIdle_keep w _ rfl rfl hw
  split
  · rename_i m c v hl
    have hlink : hd.link = .http m c v := hw.1.link ▸ hl
    -- a begun HTTP transaction has an address
    obtain ⟨loc, hloc⟩ := Option.isSome_iff_exists.1 (by simpa [Handle.isBegun, hlink] using hbegun)
    exact (httpRollback_alone hlink hloc hopen).pre hnow
  · rename_i m hl
    exact (sessionRollback_alone (hw.1.link ▸ hl) hopen).pre hnow

end Rollbacks

/-! ## Ending an owning scope -/

section Scopes

variable {t h : Nat} {hd : Handle} {l : Array Json}

theorem record_clearWakes (s : World) (r : Nat) :
    ({ s with wakes := [] } : World).record r = s.record r := rfl

theorem handle_clearWakes (s : World) (i : Nat) :
    ({ s with wakes := [] } : World).handle i = s.handle i := rfl

/-- Taking a scope that has not ended off its stack goes on to the rest of the ending; it
touches no handle and logs nothing, and the scope's record still names its transaction and
whether it owns it. -/
theorem retire_alone (ctx r : Nat) (W : World → Prop) (C : Option Nat → Bool → Prop)
    (hW : ∀ s s', s'.handles = s.handles → s'.log = s.log → W s → W s') :
    Alone World.host t
      (fun a => (W a.state ∧ C (a.state.record r).handle (a.state.record r).owner) ∧
        (a.state.record r).ended = false)
      (retire ctx r)
      (fun b a => b = true ∧ W a.state ∧ C (a.state.record r).handle (a.state.record r).owner) := by
  unfold retire
  refine Alone.modifyGet_world fun s (hs : (W s ∧ C (s.record r).handle (s.record r).owner) ∧
    (s.record r).ended = false) a he => ?_
  rw [if_neg (by rw [hs.2]; exact Bool.false_ne_true)] at he ⊢
  rw [he, record_clearWakes, World.record_modifyContext]
  obtain ⟨hh, ho⟩ := claims_modifyRecord_ended s r r
  rw [hh, ho]
  exact ⟨rfl, hW s _ rfl rfl hs.1.1, hs.1.2⟩

/-- Ending a scope that owns an open, idle transaction rolls it back, run alone: the
transaction ends rolled back, and the log gains its rollback request if it began on the
server, and nothing otherwise. -/
theorem finishScope_requests (ctx r : Nat) (hopen : hd.state = .open) :
    Alone World.host t (fun a => OwnsIdle r h hd l a.state)
      (finishScope ctx r).run
      (fun _ a => Tracks h { hd with state := .rolledBack }
        (if hd.isBegun then l.push (rollbackRequest hd) else l) a.state) := by
  unfold finishScope
  refine Alone.run_liftM_bind (retire_alone ctx r (fun s => Tracks h hd l s ∧ Idle h s)
    (fun x o => x = some h ∧ o = true) tracksIdle_keep) fun b => Alone.of_fact fun hb => ?_
  subst hb
  rw [if_neg (by decide)]
  refine Alone.run_liftM_bind (Alone.get_world fun s => (Tracks h hd l s ∧ Idle h s) ∧
    (s.record r).handle = some h ∧ (s.record r).owner = true) fun w => Alone.of_fact fun hw => ?_
  dsimp only
  split
  · rename_i h' hh'
    rw [hw.2.1] at hh'
    cases hh'
    refine Alone.run_liftM_bind (Alone.get_world fun s => s = { w with wakes := [] })
      fun w' => Alone.of_fact fun hw' => ?_
    subst hw'
    have hisOpen : (w.handle h).isOpen = true := by
      simp [Handle.isOpen, hw.1.1.state, hopen]
    rw [if_pos (by rw [hw.2.2]; exact hisOpen)]
    refine Alone.run_liftM_bind ((abandonLocally_alone hopen).pre fun a ha => by
      rw [ha]
      exact tracksIdle_keep w _ rfl rfl hw.1) fun b => Alone.of_fact fun hb => ?_
    subst hb
    -- never begun: closed locally; begun: rolled back with its one request
    cases hbegun : hd.isBegun
    · simp only [Bool.not_false, if_true, Bool.false_eq_true, if_false]
      exact Alone.run_pure fun _ ha => ha.1
    · simp only [Bool.not_true, Bool.false_eq_true, if_false, if_true]
      exact rollback_alone hopen hbegun
  · rename_i hnone
    rw [hw.2.1] at hnone
    cases hnone

/-- Dropping a scope that owns an open, idle transaction, run alone: a transaction that never
began is closed locally with no request; any other is left as it was, with nothing sent yet,
and a task is started to roll it back. -/
theorem dropScope_requests (ctx r : Nat) (hopen : hd.state = .open) :
    Alone World.host t (fun a => OwnsIdle r h hd l a.state)
      (dropScope ctx r)
      (fun _ a => if hd.isBegun then
          (Tracks h hd l a.state ∧ Idle h a.state) ∧
            ∃ id : Nat, a.tasks[id]?.map Agenda.Task.fiber = some (rollbackFiber h)
        else Tracks h { hd with state := .rolledBack } l a.state) := by
  unfold dropScope
  refine Alone.bind (retire_alone ctx r (fun s => Tracks h hd l s ∧ Idle h s)
    (fun x o => x = some h ∧ o = true) tracksIdle_keep) fun b => Alone.of_fact fun hb => ?_
  subst hb
  rw [if_neg (by decide)]
  refine Alone.bind (Alone.get_world fun s => (Tracks h hd l s ∧ Idle h s) ∧
    (s.record r).handle = some h ∧ (s.record r).owner = true) fun w => Alone.of_fact fun hw => ?_
  dsimp only
  split
  · rename_i h' hh'
    rw [hw.2.1] at hh'
    cases hh'
    refine Alone.bind (Alone.get_world fun s => s = { w with wakes := [] })
      fun w' => Alone.of_fact fun hw' => ?_
    subst hw'
    have hisOpen : (w.handle h).isOpen = true := by
      simp [Handle.isOpen, hw.1.1.state, hopen]
    rw [if_neg (by rw [hw.2.2, handle_clearWakes]; simpa using hisOpen)]
    refine Alone.bind ((abandonLocally_alone hopen).pre fun a ha => by
      rw [ha]
      exact tracksIdle_keep w _ rfl rfl hw.1) fun b => Alone.of_fact fun hb => ?_
    subst hb
    -- never begun: closed locally; begun: the rollback is left to a task of its own
    cases hbegun : hd.isBegun
    · simp only [Bool.not_false, if_true, Bool.false_eq_true, if_false]
      exact Alone.pure_of fun _ ha => ha.1
    · simp only [Bool.not_true, Bool.false_eq_true, if_false, if_true]
      exact Alone.bind (Alone.spawn_world tracksIdle_keep) fun id =>
        Alone.pure_of fun _ ha => ⟨ha.1, id, ha.2⟩
  · rename_i hnone
    rw [hw.2.1] at hnone
    cases hnone

/-- The task a dropped scope starts, once it runs on a transaction still open, idle and as it
was, rolls it back with its one rollback request. -/
theorem rollbackFiber_requests (hopen : hd.state = .open) (hbegun : hd.isBegun = true)
    (a : Agenda World Cond) (ha : Tracks h hd l a.state ∧ Idle h a.state) :
    Agenda.Ends World.host t (rollbackFiber h)
      (fun a' => Tracks h { hd with state := .rolledBack } (l.push (rollbackRequest hd)) a'.state) a :=
  rollback_alone hopen hbegun _ _ (fun _ a' ha' => Agenda.Ends.done (by
    rw [Agenda.state_finish]
    exact ha')) a ha

end Scopes

/-! ## How scopes end, by what they own -/

/-- How a scope ends depends on what it owns.

* A scope that owns nothing, whether ended, dropped or ended as the running transaction,
  changes no transaction's state and sends nothing; its commit succeeds exactly when the
  shared transaction is open and fails as closed otherwise.
* Ending the owner of an open, idle transaction rolls it back: closed locally with no request
  if it never began, otherwise with its one rollback request, sent at once when the scope
  ends and by a task of its own when it is dropped.
* A rollback through any scope ends the shared transaction, so that every scope on it then
  reports it closed.
* The operations of a scope on another transaction spare transaction `h`.
* A scope with no transaction refuses commit, rollback and keep-alive as invalid and changes
  nothing.

Every set of rules is one the scheduler keeps. -/
theorem scopes_end_by_ownership :
    (World.host.Keeps (calmRules Untouched) ∧
      (∀ ctx r x, Triple (calmRules Untouched)
        (fun s => (s.record r).handle = x ∧ (s.record r).owner = false)
        (finishScope ctx r).run (fun res _ => res = .ok ())) ∧
      (∀ ctx r x, Triple (calmRules Untouched)
        (fun s => (s.record r).handle = x ∧ (s.record r).owner = false)
        (dropScope ctx r) (fun _ _ => True)) ∧
      (∀ m, Triple (calmRules Untouched) NoOwnerOnTop (endTransaction m).run
        (fun res _ => res = .ok ())) ∧
      ∀ r h, Triple (calmRules Untouched)
        (fun s => (s.record r).handle = some h ∧ (s.record r).owner = false)
        (scopeCommit r).run (fun res s => res = (s.handle h).state.ensureOpen)) ∧
    (∀ t ctx r h (hd : Handle) l, hd.state = .open →
      Alone World.host t (fun a => OwnsIdle r h hd l a.state) (finishScope ctx r).run
        (fun _ a => Tracks h { hd with state := .rolledBack }
          (if hd.isBegun then l.push (rollbackRequest hd) else l) a.state) ∧
      Alone World.host t (fun a => OwnsIdle r h hd l a.state) (dropScope ctx r)
        (fun _ a => if hd.isBegun then
            (Tracks h hd l a.state ∧ Idle h a.state) ∧
              ∃ id : Nat, a.tasks[id]?.map Agenda.Task.fiber = some (rollbackFiber h)
          else Tracks h { hd with state := .rolledBack } l a.state) ∧
      (hd.isBegun = true → ∀ t' a, Tracks h hd l a.state ∧ Idle h a.state →
        Agenda.Ends World.host t' (rollbackFiber h)
          (fun a' => Tracks h { hd with state := .rolledBack } (l.push (rollbackRequest hd))
            a'.state) a)) ∧
    (World.host.Keeps endRules ∧
      ∀ r h, Triple endRules (fun s => (s.record r).handle = some h ∧ h < s.handles.size)
        (scopeRollback r).run
        (fun _ s => ∀ r', (s.record r').handle = some h → scopeIsOpen s r' = false)) ∧
    (∀ h, World.host.Keeps (calmRules (Spares h)) ∧
      ∀ ctx r h', h' ≠ h →
        Triple (calmRules (Spares h)) (fun s => (s.record r).handle = some h')
          (scopeCommit r).run (fun _ _ => True) ∧
        Triple (calmRules (Spares h)) (fun s => (s.record r).handle = some h')
          (scopeRollback r).run (fun _ _ => True) ∧
        Triple (calmRules (Spares h)) (fun s => (s.record r).handle = some h')
          (scopeKeepAlive r).run (fun _ _ => True) ∧
        Triple (calmRules (Spares h)) (fun s => (s.record r).handle = some h')
          (finishScope ctx r).run (fun _ _ => True) ∧
        Triple (calmRules (Spares h)) (fun s => (s.record r).handle = some h')
          (dropScope ctx r) (fun _ _ => True)) ∧
    World.host.Keeps (calmRules Unchanged) ∧
      ∀ r, Triple (calmRules Unchanged) (fun s => (s.record r).handle = none) (scopeCommit r).run
          (fun res _ => res = .error (suppressedRefusal "commit")) ∧
        Triple (calmRules Unchanged) (fun s => (s.record r).handle = none) (scopeRollback r).run
          (fun res _ => res = .error (suppressedRefusal "roll back")) ∧
        Triple (calmRules Unchanged) (fun s => (s.record r).handle = none) (scopeKeepAlive r).run
          (fun res _ => res = .error (suppressedRefusal "keep alive")) :=
  ⟨⟨World.host_keeps_calmRules _, finishScope_untouched, dropScope_untouched,
      endTransaction_untouched, scopeCommit_untouched⟩,
    fun _ ctx r _ _ _ hopen => ⟨finishScope_requests ctx r hopen, dropScope_requests ctx r hopen,
      fun hbegun _ a ha => rollbackFiber_requests hopen hbegun a ha⟩,
    ⟨World.host_keeps_endRules, scopeRollback_ends⟩,
    fun _ => ⟨World.host_keeps_calmRules _, fun ctx r _ hne => ⟨scopeCommit_spares r hne,
      scopeRollback_spares r hne, scopeKeepAlive_spares r hne, finishScope_spares ctx r hne,
      dropScope_spares ctx r hne⟩⟩,
    World.host_keeps_calmRules _,
    fun r => ⟨scopeCommit_suppressed r, scopeRollback_suppressed r, scopeKeepAlive_suppressed r⟩⟩

/-- A session transaction, open and idle: the task a dropped scope starts rolls it back, and
the driver's rollback is the one call logged. -/
theorem dropped_session_rolls_back :
    ({ id := ⟨0⟩, database := "neo4j", link := .session 0 } : Handle).state = .open ∧
    ({ id := ⟨0⟩, database := "neo4j", link := .session 0 } : Handle).isBegun = true ∧
    Agenda.Ends World.host 1 (rollbackFiber 0)
      (fun a => Tracks 0 { id := ⟨0⟩, database := "neo4j", link := .session 0, state := .rolledBack }
        #[Peer.driverEntry 0 "rollback"] a.state)
      { state := { handles := #[{ id := ⟨0⟩, database := "neo4j", link := .session 0 }] },
        tasks := #[] } :=
  ⟨rfl, rfl, (scopes_end_by_ownership.2.1 0 0 0 0
    { id := ⟨0⟩, database := "neo4j", link := .session 0 } #[] rfl).2.2 rfl 1 _
    ⟨⟨by decide, rfl, rfl, rfl, rfl⟩, rfl⟩⟩

end TxnCoord
