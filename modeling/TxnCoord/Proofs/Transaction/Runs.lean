import TxnCoord.Proofs.Transaction.Guards
import TxnCoord.Proofs.Manager.Requests
import TxnCoord.Recovery.Recover
/-!
# What a statement run and a commit send, run alone

Operations on one HTTP handle that the scheduler takes straight through (`Alone`), told
exactly:

* a run of statements on an open handle with no address, whose server fails the transport,
  posts the batch to the begin address, fails with that transport failure, and leaves the
  handle open, without an address, and with no ticket outstanding (`execute_failed_alone`);
  every refusal of that post other than a statement failure ends the run so
  (`execute_refused_alone`);
* when the server answers that post that it knows no such transaction, the run reports a
  refused begin and leaves the handle open (`execute_unknown_at_begin_alone`), but a commit
  with a last batch, posted to the begin address followed by "/commit", reports the
  transaction closed as expired and ends the handle rolled back
  (`commitWith_unknown_at_begin_alone`);
* a commit of an open, idle handle with an address posts to that address followed by
  "/commit", and logs nothing else, whatever the answer (`commit_located_alone`). Recovery
  attaches a handle at the address a descriptor records and commits it so
  (`recover_commit_alone`).

`Follows h hd l s` extends `Tracks` by the handle's tickets. A handle whose tickets are
`Sequencer.Clear`, none outstanding and none finished out of turn, serves the ticket of its next
operation at once, and is clear again when that operation gives its ticket back.
-/

namespace TxnCoord

open Transaction

/-- The log entry of the POST of batch `batch` by handle `hd` to address `uri`. -/
def postRequest (hd : Handle) (uri : String) (batch : Batch) : Json :=
  Peer.requestEntry hd.via
    { method := .post, uri, body := some (Http.batchBody batch),
      credentials := (httpParts hd).1.credentials, userAgent := (httpParts hd).1.userAgent,
      stream := (httpParts hd).1.useJsonStream }

namespace Transaction.Sequencer

/-- No ticket is outstanding, and none has finished out of turn. -/
def Clear (s : Sequencer) : Prop := s.serving = s.next ∧ s.finished = []

/-- Finishing the one ticket issued on a clear sequencer leaves it clear, one number on. -/
theorem release_issue {s : Sequencer} (hs : s.Clear) :
    ({ s with next := s.next + 1 } : Sequencer).release s.next =
      { next := s.next + 1, serving := s.next + 1, finished := [] } := by
  obtain ⟨next, serving, finished⟩ := s
  obtain ⟨hserve, hfin⟩ := hs
  dsimp only at hserve hfin
  subst hserve hfin
  simp only [release, insertSorted]
  rw [advance, dif_pos (List.mem_singleton_self _)]
  simp only [List.erase_cons_head]
  rw [advance, dif_neg List.not_mem_nil]

end Transaction.Sequencer

/-- Handle `h` reads as `hd` in its state, link, address, database and tickets, and the log
is `l`. -/
structure Follows (h : Nat) (hd : Handle) (l : Array Json) (s : World) : Prop where
  tracks : Tracks h hd l s
  tickets : (s.handle h).tickets = hd.tickets
  database : (s.handle h).database = hd.database

theorem beginUri_congr {hd hd' : Handle} (hl : hd'.link = hd.link) (hdb : hd'.database = hd.database) :
    beginUri hd' = beginUri hd := by
  unfold beginUri
  rw [httpParts_congr hl, hdb]

section Follows

variable {h : Nat} {hd : Handle} {l : Array Json} {s s' : World}

theorem Follows.of_handles (hf : Follows h hd l s) (hh : s'.handles = s.handles)
    (hl : s'.log = s.log) : Follows h hd l s' :=
  ⟨hf.tracks.of_handles hh hl, (congrArg Handle.tickets (handle_of_handles hh h)).trans hf.tickets,
    (congrArg Handle.database (handle_of_handles hh h)).trans hf.database⟩

theorem Follows.note (hf : Follows h hd l s) (e : Json) : Follows h hd (l.push e) (s.note e) :=
  ⟨hf.tracks.note e, hf.tickets, hf.database⟩

/-- A change of handle `h` after which it reads as `hd'`. -/
theorem Follows.modifyHandle (hf : Follows h hd l s) {g : Handle → Handle} {hd' : Handle}
    (hst : (g (s.handle h)).state = hd'.state) (hlk : (g (s.handle h)).link = hd'.link)
    (hloc : (g (s.handle h)).location = hd'.location) (htk : (g (s.handle h)).tickets = hd'.tickets)
    (hdb : (g (s.handle h)).database = hd'.database) :
    Follows h hd' l (s.modifyHandle h g) := by
  refine ⟨hf.tracks.modifyHandle hst hlk hloc, ?_, ?_⟩ <;>
    rw [World.handle_modifyHandle_self s hf.tracks.lt]
  · exact htk
  · exact hdb

/-- A change of handle `h` that keeps what its requests depend on. -/
theorem Follows.modifyHandle_keep (hf : Follows h hd l s) {g : Handle → Handle}
    (hg : ∀ x, (g x).state = x.state ∧ (g x).link = x.link ∧ (g x).location = x.location ∧
      (g x).tickets = x.tickets ∧ (g x).database = x.database) :
    Follows h hd l (s.modifyHandle h g) :=
  hf.modifyHandle ((hg _).1.trans hf.tracks.state) ((hg _).2.1.trans hf.tracks.link)
    ((hg _).2.2.1.trans hf.tracks.location) ((hg _).2.2.2.1.trans hf.tickets)
    ((hg _).2.2.2.2.trans hf.database)

/-- A change of handle `h` that leaves it as it is. -/
theorem Follows.modifyHandle_self (hf : Follows h hd l s) {g : Handle → Handle}
    (hg : g (s.handle h) = s.handle h) : Follows h hd l (s.modifyHandle h g) :=
  hf.modifyHandle (by rw [hg]; exact hf.tracks.state) (by rw [hg]; exact hf.tracks.link)
    (by rw [hg]; exact hf.tracks.location) (by rw [hg]; exact hf.tickets)
    (by rw [hg]; exact hf.database)

theorem Follows.beginUri (hf : Follows h hd l s) : Transaction.beginUri (s.handle h) = beginUri hd :=
  beginUri_congr hf.tracks.link hf.database

end Follows

theorem World.peers_unhold (w : World) (x : Hold) : (w.unhold x).peers = w.peers := by
  unfold World.unhold
  split
  · rfl
  · split <;> rfl

theorem World.script_of_peers {s s' : World} (hp : s'.peers = s.peers) (m : Nat) :
    (s'.peer m).script = (s.peer m).script := by
  unfold World.peer
  rw [hp]

/-- What is left of a server's script is decided by the peers alone. -/
theorem World.script_keep (m : Nat) (sc : List Scripted) {H : Nat → Prop} :
    ∀ s s' : World, World.HandleMove H s s' → s'.peers = s.peers → (s.peer m).script = sc →
      (s'.peer m).script = sc :=
  fun _ _ _ hp hs => (World.script_of_peers hp m).trans hs

/-! ## The steps of a run and a commit -/

section Steps

variable {t h : Nat} {hd : Handle} {l : Array Json}

/-- A request of a handle goes out: the log gains its entry, and the handle is as it was. -/
theorem send_post_alone {m : Nat} {c : Config} {v : ServerVersion} (hlink : hd.link = .http m c v)
    (uri : String) (batch : Batch) :
    Alone World.host t (fun a => Follows h hd l a.state) (send h .post uri (some (Http.batchBody batch)))
      (fun _ a => Follows h hd (l.push (postRequest hd uri batch)) a.state) := by
  unfold send
  refine Alone.modifyGet_world fun s hs a he => ?_
  have hl : (s.handle h).link = .http m c v := hs.tracks.link.trans hlink
  rw [he]
  simp only [httpParts, Handle.via, hl, postRequest, hlink]
  exact (hs.note _).of_handles rfl rfl

/-- What a scripted answer hands the request: the response, or the failure of the transport. -/
def Scripted.reply : Scripted → Except String Http.Response
  | .answer r => .ok r
  | .fail m => .error m

/-- The log entry of a request of handle `hd`, sent with the handle's settings. -/
def requestOf (hd : Handle) (method : Http.Method) (uri : String) (body : Option Json) : Json :=
  Peer.requestEntry hd.via
    { method, uri, body, credentials := (httpParts hd).1.credentials,
      userAgent := (httpParts hd).1.userAgent, stream := (httpParts hd).1.useJsonStream }

/-- A request answered from the script: the answer is the script's next one, and the script
moves on. A fact `Y` that no move of the handle changes still holds. -/
theorem send_scripted_alone {Y : World → Prop} (hY : ∀ s s', World.HandleMove (· = h) s s' → Y s → Y s')
    {m : Nat} {c : Config} {v : ServerVersion} (hlink : hd.link = .http m c v)
    (method : Http.Method) (uri : String) (body : Option Json) (x : Scripted) (rest : List Scripted) :
    Alone World.host t
      (fun a => Follows h hd l a.state ∧ (a.state.peer m).script = x :: rest ∧ Y a.state)
      (send h method uri body)
      (fun r a => r = x.reply ∧ Follows h hd (l.push (requestOf hd method uri body)) a.state ∧
        (a.state.peer m).script = rest ∧ Y a.state) := by
  unfold send
  refine Alone.modifyGet_world fun s (hs : Follows h hd l s ∧ (s.peer m).script = x :: rest ∧ Y s)
    a he => ?_
  have hl : (s.handle h).link = .http m c v := hs.1.tracks.link.trans hlink
  -- a peer with a script is one of the world's peers
  obtain ⟨p, hp, hscript⟩ : ∃ p, s.peers[m]? = some p ∧ p.script = x :: rest := by
    unfold World.peer at hs
    cases hq : s.peers[m]? with
    | none => rw [hq] at hs; cases hs.2.1
    | some p => rw [hq] at hs; exact ⟨p, rfl, hs.2.1⟩
  have hy : Y { (s.note (requestOf hd method uri body)).modifyPeer m
      (fun _ => ((s.peer m).send s.expires
        { method, uri, body, credentials := (httpParts hd).1.credentials,
          userAgent := (httpParts hd).1.userAgent, stream := (httpParts hd).1.useJsonStream }).2)
      with wakes := [] } :=
    hY s _ (.trans (.trans (.note s _) (.modifyPeer _ m _)) (.wakes _ [])) hs.2.2
  rw [he]
  simp only [httpParts, Handle.via, hl, requestOf, hlink] at hy ⊢
  cases x <;>
    simp only [World.peer, World.note, World.modifyPeer, Array.getElem?_modify, hp, Option.getD_some,
      Peer.send, hscript, if_true, Option.map_some, Scripted.reply] at hy ⊢ <;>
    exact ⟨trivial, (hs.1.note _).of_handles rfl rfl, trivial, hy⟩

/-- A request whose answer the script fails: the answer is that failure, and the script moves
on. -/
theorem send_failed_alone {m : Nat} {c : Config} {v : ServerVersion} (hlink : hd.link = .http m c v)
    (uri : String) (batch : Batch) (msg : String) (rest : List Scripted) :
    Alone World.host t (fun a => Follows h hd l a.state ∧ (a.state.peer m).script = .fail msg :: rest)
      (send h .post uri (some (Http.batchBody batch)))
      (fun r a => r = .error msg ∧ Follows h hd (l.push (postRequest hd uri batch)) a.state ∧
        (a.state.peer m).script = rest) :=
  (send_scripted_alone (Y := fun _ => True) (fun _ _ _ hy => hy) hlink .post uri _ (.fail msg) rest).conseq
    (fun _ ha => ⟨ha.1, ha.2, trivial⟩) fun _ _ ha => ⟨ha.1, ha.2.1, ha.2.2.1⟩

/-- A post that the script fails in transport logs the request and hands the failure on. -/
theorem post_failed_alone {m : Nat} {c : Config} {v : ServerVersion} (hlink : hd.link = .http m c v)
    (uri : String) (batch : Batch) (msg : String) (rest : List Scripted) :
    Alone World.host t (fun a => Follows h hd l a.state ∧ (a.state.peer m).script = .fail msg :: rest)
      (post h uri batch)
      (fun r a => r = .error (.transport msg) ∧ Follows h hd (l.push (postRequest hd uri batch)) a.state ∧
        (a.state.peer m).script = rest) := by
  unfold post
  refine Alone.bind (send_failed_alone hlink uri batch msg rest) fun r => Alone.of_fact fun hr => ?_
  subst hr
  exact Alone.pure_of fun _ ha => ⟨rfl, ha⟩

/-- A post that the server answers with not knowing the transaction logs the request and hands
that answer on, and the handle is as it was. -/
theorem post_unknown_alone {m : Nat} {c : Config} {v : ServerVersion} (hlink : hd.link = .http m c v)
    (uri : String) (batch : Batch) {resp : Http.Response}
    (hr : Http.interpret resp = .error .unknownTransaction) (rest : List Scripted) :
    Alone World.host t (fun a => Follows h hd l a.state ∧ (a.state.peer m).script = .answer resp :: rest)
      (post h uri batch)
      (fun r a => r = .error .unknownTransaction ∧
        Follows h hd (l.push (postRequest hd uri batch)) a.state ∧ (a.state.peer m).script = rest) := by
  unfold post
  refine Alone.bind ((send_scripted_alone (Y := fun _ => True) (fun _ _ _ hy => hy) hlink .post uri _ _
    rest).pre fun _ ha => ⟨ha.1, ha.2, trivial⟩) fun r => Alone.of_fact fun hr' => ?_
  subst hr'
  -- no statement failure: the handle takes no address from the answer
  simp only [Scripted.reply, hr]
  exact Alone.pure_of fun _ ha => ⟨rfl, ha.1, ha.2.1⟩

/-- A post of a handle with an address logs the request, whatever the answer: an address that
a failed begin names is taken only by a handle that has none. -/
theorem post_located_alone {m : Nat} {c : Config} {v : ServerVersion} (hlink : hd.link = .http m c v)
    {loc : String} (hloc : hd.location = some loc) (uri : String) (batch : Batch) :
    Alone World.host t (fun a => Follows h hd l a.state) (post h uri batch)
      (fun _ a => Follows h hd (l.push (postRequest hd uri batch)) a.state) := by
  unfold post
  refine Alone.bind (send_post_alone hlink uri batch) fun r => ?_
  split
  · exact Alone.pure_of fun _ ha => ha
  · dsimp only
    split
    · rename_i _ _ loc' _ _
      refine Alone.bind (Alone.change_world fun s hs a he => ?_) fun _ => Alone.pure_of fun _ ha => ha
      have hkeep : Follows h hd (l.push (postRequest hd uri batch)) (s.modifyHandle h fun x =>
          if (!(httpParts x).2.rollsBackOnStatementError && x.location.isNone) = true then
            { x with location := some loc' } else x) :=
        hs.modifyHandle_self (if_neg (by simp [hs.tracks.location, hloc]))
      rw [he]
      exact hkeep.of_handles rfl rfl
    · exact Alone.pure_of fun _ ha => ha

end Steps

/-! ## Bookkeeping steps

Each keeps what `Follows` says, and any fact `X` of the world that a move of handle `h` keeps
when it leaves the peers alone: what the server has left to answer, or what the stores hold. -/

section Bookkeeping

variable {t h : Nat} {hd : Handle} {l : Array Json} {X : World → Prop}
  (hX : ∀ s s' : World, World.HandleMove (· = h) s s' → s'.peers = s.peers → X s → X s')
include hX

theorem beginPending_follows :
    Alone World.host t (fun a => Follows h hd l a.state ∧ X a.state) (Step.beginPending h)
      (fun _ a => Follows h hd l a.state ∧ X a.state) := by
  unfold Step.beginPending
  refine Alone.change_world fun s (hs : Follows h hd l s ∧ X s) a he => ?_
  have hm : Follows h hd l (s.modifyHandle h fun x => { x with pending := x.pending + 1 }) :=
    hs.1.modifyHandle_keep fun _ => ⟨rfl, rfl, rfl, rfl, rfl⟩
  rw [he]
  refine ⟨hm.of_handles rfl rfl, hX s _ ?_ rfl hs.2⟩
  -- the world moved only handle `h`, and the peers stayed
  refine .trans (.trans (.modifyHandle s rfl ?_) (.hold _ _)) (.wakes _ [])
  exact fun _ => ⟨rfl, rfl, rfl⟩

theorem endPending_follows :
    Alone World.host t (fun a => Follows h hd l a.state ∧ X a.state) (Step.endPending h)
      (fun _ a => Follows h hd l a.state ∧ X a.state) := by
  unfold Step.endPending
  refine Alone.change_world fun s (hs : Follows h hd l s ∧ X s) a he => ?_
  have hu : Follows h hd l (s.unhold (.pending h)) :=
    hs.1.of_handles (World.handles_unhold s _) (World.log_unhold s _)
  have hm : Follows h hd l ((s.unhold (.pending h)).modifyHandle h fun x =>
      { x with pending := x.pending - 1 }) :=
    hu.modifyHandle_keep fun _ => ⟨rfl, rfl, rfl, rfl, rfl⟩
  rw [he]
  refine ⟨hm.of_handles rfl rfl, hX s _ ?_ (World.peers_unhold s _) hs.2⟩
  refine .trans (.trans (.unhold s _) (.modifyHandle _ rfl ?_)) (.wakes _ [])
  exact fun _ => ⟨rfl, rfl, rfl⟩

/-- On clear tickets, the ticket issued is the next number, and its turn has come. -/
theorem issue_follows (hc : hd.tickets.Clear) :
    Alone World.host t (fun a => Follows h hd l a.state ∧ X a.state) (Step.issue h)
      (fun n a => n = hd.tickets.next ∧
        (Follows h { hd with tickets := { hd.tickets with next := hd.tickets.next + 1 } } l a.state ∧
          X a.state) ∧ World.host.holds (.turn h n) a.state = true) := by
  unfold Step.issue
  refine Alone.modifyGet_world fun s (hs : Follows h hd l s ∧ X s) a he => ?_
  have htk : (s.handle h).tickets = hd.tickets := hs.1.tickets
  have hm : Follows h { hd with tickets := { hd.tickets with next := hd.tickets.next + 1 } } l
      (s.modifyHandle h fun x =>
        { x with tickets := { (s.handle h).tickets with next := (s.handle h).tickets.next + 1 } }) :=
    hs.1.modifyHandle hs.1.tracks.state hs.1.tracks.link hs.1.tracks.location (by rw [htk])
      hs.1.database
  rw [he]
  dsimp only [Sequencer.issue]
  refine ⟨congrArg Sequencer.next htk, ⟨hm.of_handles rfl rfl, hX s _ ?_ rfl hs.2⟩, ?_⟩
  refine .trans (.trans (.modifyHandle s rfl ?_) (.hold _ _)) (.wakes _ [])
  exact fun _ => ⟨rfl, rfl, rfl⟩
  -- the ticket issued is the one being served
  show ((s.modifyHandle h _).handle h).tickets.isTurn (s.handle h).tickets.next = true
  rw [World.handle_modifyHandle_self s hs.1.tracks.lt]
  simp only [Sequencer.isTurn, beq_iff_eq, htk]
  exact hc.1

theorem finishTicket_follows (n : Nat) :
    Alone World.host t (fun a => Follows h hd l a.state ∧ X a.state) (Step.finishTicket h n)
      (fun _ a => Follows h { hd with tickets := hd.tickets.release n } l a.state ∧ X a.state) := by
  unfold Step.finishTicket
  refine Alone.change_world fun s (hs : Follows h hd l s ∧ X s) a he => ?_
  have hu : Follows h hd l (s.unhold (.ticket h n)) :=
    hs.1.of_handles (World.handles_unhold s _) (World.log_unhold s _)
  have hm : Follows h { hd with tickets := hd.tickets.release n } l
      ((s.unhold (.ticket h n)).modifyHandle h fun x =>
        { x with tickets := x.tickets.release n, watchers := [] }) :=
    hu.modifyHandle hu.tracks.state hu.tracks.link hu.tracks.location (by rw [hu.tickets]) hu.database
  rw [he]
  refine ⟨hm.of_handles rfl rfl, hX s _ ?_ (World.peers_unhold s _) hs.2⟩
  exact .trans (.trans (.unhold s _) (.releaseTicket (H := (· = h)) _ rfl n)) (.wakes _ [])

/-- Setting the handle's state: it reads as `hd` in that state. -/
theorem setState_follows (st : TxState) :
    Alone World.host t (fun a => Follows h hd l a.state ∧ X a.state) (setState h st)
      (fun _ a => Follows h { hd with state := st } l a.state ∧ X a.state) := by
  unfold setState
  refine Alone.change_world fun s (hs : Follows h hd l s ∧ X s) a he => ?_
  have hm : Follows h { hd with state := st } l (s.modifyHandle h fun x => { x with state := st }) :=
    hs.1.modifyHandle rfl hs.1.tracks.link hs.1.tracks.location hs.1.tickets hs.1.database
  rw [he]
  refine ⟨hm.of_handles rfl rfl, hX s _ ?_ rfl hs.2⟩
  refine .trans (.modifyHandle s rfl ?_) (.wakes _ [])
  exact fun _ => ⟨rfl, rfl, rfl⟩

end Bookkeeping

/-! ## A run whose begin fails, and a commit of a begun handle -/

section Runs

variable {t h : Nat} {hd : Handle} {l : Array Json}

/-- Recording a transport failure records nothing. -/
theorem recordFailure_transport_alone (P : Agenda World Cond → Prop) (msg : String) :
    Alone World.host t P (recordFailure h (.transport msg)) (fun e a => e = .transport msg ∧ P a) := by
  unfold recordFailure
  exact Alone.pure_of fun _ ha => ⟨rfl, ha⟩

/-- What a run reports when the post that would begin its transaction is refused with `f`: an
answer that the server does not know the transaction is taken as a refused begin. -/
def beginRefusal : Http.Failure → TxError
  | .unknownTransaction => .transport "server rejected the transaction begin request"
  | f => f.toError

/-- A run whose turn has come, on an open handle with no address, whose post to the begin
address is refused with `f`, no statement failure: the run fails with `beginRefusal f` and
gives its ticket back, and the handle keeps its state and stays without an address. Facts `X`
and `X'` that only the peers decide carry what the server answers. -/
theorem httpExecute_refused_alone {X X' : World → Prop}
    (hX : ∀ s s' : World, World.HandleMove (· = h) s s' → s'.peers = s.peers → X s → X s')
    (hX' : ∀ s s' : World, World.HandleMove (· = h) s s' → s'.peers = s.peers → X' s → X' s')
    (hopen : hd.state = .open) (hnone : hd.location = none) {f : Http.Failure}
    (hf : ∀ c msg, f ≠ .statement c msg) (n : Nat) (batch : Batch)
    (hpost : Alone World.host t (fun a => Follows h hd l a.state ∧ X a.state)
      (post h (beginUri hd) batch)
      (fun r a => r = .error f ∧
        Follows h hd (l.push (postRequest hd (beginUri hd) batch)) a.state ∧ X' a.state)) :
    Alone World.host t (fun a => (Follows h hd l a.state ∧ X a.state) ∧
        World.host.holds (.turn h n) a.state = true)
      (httpExecute h n batch).run
      (fun r a => r = .error (beginRefusal f) ∧
        Follows h { hd with tickets := hd.tickets.release n }
          (l.push (postRequest hd (beginUri hd) batch)) a.state ∧ X' a.state) := by
  unfold httpExecute Step.waitTurn
  refine Alone.run_liftM_bind Alone.await fun _ => ?_
  refine Alone.run_andThen (fun r a => r = .error (beginRefusal f) ∧
    Follows h hd (l.push (postRequest hd (beginUri hd) batch)) a.state ∧ X' a.state)
    ?_ fun r => Alone.of_fact fun hr =>
      (Alone.bind (endPending_follows hX') fun _ => finishTicket_follows hX' n).post
        fun _ _ ha => ⟨hr, ha⟩
  refine Alone.run_liftM_bind (Alone.get_world fun s => Follows h hd l s ∧ X s)
    fun w => Alone.of_fact fun hw => ?_
  have hnow : ∀ a : Agenda World Cond, a.state = { w with wakes := [] } →
      Follows h hd l a.state ∧ X a.state :=
    fun a ha => by rw [ha]; exact ⟨hw.1.of_handles rfl rfl, hX w _ (.wakes _ []) rfl hw.2⟩
  dsimp only
  refine Alone.run_ofExcept_bind (fun _ _ => ?_) fun x hx _ _ => ?_
  · -- with no address, the batch goes to the begin address
    rw [hw.1.tracks.location, hnone, Option.getD_none, hw.1.beginUri]
    refine Alone.run_liftM_bind (hpost.pre hnow) fun res => Alone.of_fact fun hres => ?_
    subst hres
    cases f with
    | unknownTransaction =>
      -- the handle has not begun, so the server's answer refuses the begin
      simp only [Option.isSome_none, Bool.false_eq_true, if_false]
      exact Alone.run_throw fun _ ha => ⟨rfl, ha⟩
    | statement c msg => exact absurd rfl (hf c msg)
    | transport msg =>
      -- a transport failure is no statement failure: nothing is recorded
      refine Alone.run_liftM_bind (recordFailure_transport_alone _ msg) fun e => ?_
      exact Alone.run_throw fun _ ha => by rw [ha.1]; exact ⟨rfl, ha.2⟩
  · rw [hw.1.tracks.state, hopen] at hx
    cases hx

/-- A batch on an open handle with no address and clear tickets, whose post to the begin
address is refused with `f`, no statement failure: the batch is posted once, the run fails with
`beginRefusal f`, and the tickets are clear again one number on. -/
theorem execute_refused_alone {X X' : World → Prop}
    (hX : ∀ s s' : World, World.HandleMove (· = h) s s' → s'.peers = s.peers → X s → X s')
    (hX' : ∀ s s' : World, World.HandleMove (· = h) s s' → s'.peers = s.peers → X' s → X' s')
    {m : Nat} {c : Config} {v : ServerVersion}
    (hlink : hd.link = .http m c v) (hopen : hd.state = .open) (hnone : hd.location = none)
    (hc : hd.tickets.Clear) {f : Http.Failure} (hf : ∀ c msg, f ≠ .statement c msg) (batch : Batch)
    (hpost : Alone World.host t
      (fun a => Follows h { hd with tickets := { hd.tickets with next := hd.tickets.next + 1 } } l a.state ∧
        X a.state)
      (post h (beginUri hd) batch)
      (fun r a => r = .error f ∧
        Follows h { hd with tickets := { hd.tickets with next := hd.tickets.next + 1 } }
          (l.push (postRequest hd (beginUri hd) batch)) a.state ∧ X' a.state)) :
    Alone World.host t (fun a => Follows h hd l a.state ∧ X a.state)
      (execute h batch).run
      (fun r a => r = .error (beginRefusal f) ∧
        Follows h { hd with tickets :=
            { next := hd.tickets.next + 1, serving := hd.tickets.next + 1, finished := [] } }
          (l.push (postRequest hd (beginUri hd) batch)) a.state ∧ X' a.state) := by
  unfold execute reserve
  refine Alone.run_liftM_bind
    (Alone.bind (beginPending_follows hX) fun _ => issue_follows hX hc)
    fun n => Alone.of_fact fun hn => ?_
  subst hn
  unfold executeReserved
  refine Alone.run_liftM_bind (Alone.get_world fun s =>
      (Follows h { hd with tickets := { hd.tickets with next := hd.tickets.next + 1 } } l s ∧ X s) ∧
      World.host.holds (.turn h hd.tickets.next) s = true)
    fun w => Alone.of_fact fun hw => ?_
  have hlink' : ({ hd with tickets := { hd.tickets with next := hd.tickets.next + 1 } } : Handle).link =
      .http m c v := hlink
  have hnow : ∀ a : Agenda World Cond, a.state = { w with wakes := [] } →
      (Follows h { hd with tickets := { hd.tickets with next := hd.tickets.next + 1 } } l a.state ∧
        X a.state) ∧
      World.host.holds (.turn h hd.tickets.next) a.state = true :=
    fun a ha => by rw [ha]; exact ⟨⟨hw.1.1.of_handles rfl rfl, hX w _ (.wakes _ []) rfl hw.1.2⟩, hw.2⟩
  have hopen' : ({ hd with tickets := { hd.tickets with next := hd.tickets.next + 1 } } : Handle).state =
      .open := hopen
  have hnone' : ({ hd with tickets := { hd.tickets with next := hd.tickets.next + 1 } } : Handle).location =
      none := hnone
  rw [hw.1.1.tracks.link]
  split
  next hl =>
    refine ((httpExecute_refused_alone hX hX' hopen' hnone' hf _ batch hpost).pre hnow).post
      fun r a hr => ?_
    rw [Sequencer.release_issue hc] at hr
    exact hr
  next hl =>
    rw [hlink'] at hl
    cases hl

/-- A batch on an open handle with no address and clear tickets, whose server fails the
transport: the batch is posted once to the begin address, the run fails with that failure, and
the tickets are clear again one number on. -/
theorem execute_failed_alone {m : Nat} {c : Config} {v : ServerVersion}
    (hlink : hd.link = .http m c v) (hopen : hd.state = .open) (hnone : hd.location = none)
    (hc : hd.tickets.Clear) (batch : Batch) (msg : String) (rest : List Scripted) :
    Alone World.host t (fun a => Follows h hd l a.state ∧ (a.state.peer m).script = .fail msg :: rest)
      (execute h batch).run
      (fun r a => r = .error (.transport msg) ∧
        Follows h { hd with tickets :=
            { next := hd.tickets.next + 1, serving := hd.tickets.next + 1, finished := [] } }
          (l.push (postRequest hd (beginUri hd) batch)) a.state ∧ (a.state.peer m).script = rest) :=
  have hlink' : ({ hd with tickets := { hd.tickets with next := hd.tickets.next + 1 } } : Handle).link =
      .http m c v := hlink
  execute_refused_alone (f := .transport msg) (World.script_keep m _) (World.script_keep m _) hlink
    hopen hnone hc
    (fun _ _ => Http.Failure.noConfusion) batch (post_failed_alone hlink' _ batch msg rest)

/-- A step that changes the world but not its log keeps the log. -/
theorem change_log_alone {L : Array Json} {f : World → World} (hf : ∀ s, (f s).log = s.log) :
    Alone World.host t (fun a => a.state.log = L) (Step.change f) (fun _ a => a.state.log = L) :=
  Alone.change_world fun s (hs : s.log = L) a he => by rw [he]; exact (hf s).trans hs

theorem setState_log_alone {L : Array Json} {st : TxState} :
    Alone World.host t (fun a => a.state.log = L) (setState h st) (fun _ a => a.state.log = L) := by
  unfold setState
  exact change_log_alone fun _ => rfl

theorem vanished_log_alone {L : Array Json} :
    Alone World.host t (fun a => a.state.log = L) (vanished h) (fun _ a => a.state.log = L) := by
  unfold vanished
  exact Alone.bind setState_log_alone fun _ => Alone.pure_of fun _ ha => ha

/-- A commit of an open handle with an address and clear tickets, with no operation pending:
the commit posts its batch to the address followed by "/commit", and logs nothing else,
whatever the answer. -/
theorem httpCommit_located_alone {m : Nat} {c : Config} {v : ServerVersion}
    (hlink : hd.link = .http m c v) {loc : String} (hloc : hd.location = some loc)
    (hopen : hd.state = .open) (hc : hd.tickets.Clear) (batch : Batch) :
    Alone World.host t (fun a => Follows h hd l a.state ∧ (a.state.handle h).pending = 0)
      (httpCommit h batch).run
      (fun _ a => a.state.log = l.push (postRequest hd (loc ++ "/commit") batch)) := by
  have hX : ∀ s s' : World, World.HandleMove (· = h) s s' → s'.peers = s.peers → True → True :=
    fun _ _ _ _ h => h
  unfold httpCommit
  refine Alone.run_liftM_bind (Alone.get_world fun s => Follows h hd l s ∧ (s.handle h).pending = 0)
    fun w => Alone.of_fact fun hw => ?_
  dsimp only
  rw [hw.2, if_neg (Nat.lt_irrefl 0)]
  refine Alone.run_liftM_bind ((issue_follows hX hc :
      Alone World.host t (fun a => Follows h hd l a.state ∧ True) _ _).pre fun a ha => ?_)
    fun n => Alone.of_fact fun hn => ?_
  · rw [ha]
    exact ⟨hw.1.of_handles rfl rfl, trivial⟩
  subst hn
  refine Alone.run_liftM_bind Alone.await fun _ => ?_
  -- the ticket given back leaves the log as the commit left it
  refine Alone.run_andThen (fun _ a => a.state.log = l.push (postRequest hd (loc ++ "/commit") batch))
    ?_ fun _ => by
      unfold Step.finishTicket
      exact change_log_alone fun s => World.log_unhold s _
  refine Alone.run_liftM_bind (Alone.get_world fun s =>
      Follows h { hd with tickets := { hd.tickets with next := hd.tickets.next + 1 } } l s ∧ True)
    fun w' => Alone.of_fact fun hw' => ?_
  have hnow : ∀ a : Agenda World Cond, a.state = { w' with wakes := [] } →
      Follows h { hd with tickets := { hd.tickets with next := hd.tickets.next + 1 } } l a.state :=
    fun a ha => by rw [ha]; exact hw'.1.of_handles rfl rfl
  have hlink' : ({ hd with tickets := { hd.tickets with next := hd.tickets.next + 1 } } : Handle).link =
      .http m c v := hlink
  have hloc' : ({ hd with tickets := { hd.tickets with next := hd.tickets.next + 1 } } : Handle).location =
      some loc := hloc
  split
  · -- an open handle has no statement failure to roll back for
    rename_i hcause
    have hrb := state_of_rollbackCause (Option.isSome_iff_exists.2 ⟨_, hcause⟩)
    rw [hw'.1.tracks.state, hopen] at hrb
    cases hrb
  refine Alone.run_ofExcept_bind (fun _ _ => ?_) fun x hx _ _ => ?_
  · rw [hw'.1.tracks.location, hloc]
    refine Alone.run_pure_bind (Alone.run_liftM_bind
      ((post_located_alone hlink' hloc' _ batch).pre hnow |>.post fun _ _ ha => ha.tracks.log) fun r => ?_)
    -- whatever the answer, the commit only marks the handle
    split
    · exact Alone.run_liftM_bind setState_log_alone fun _ => Alone.run_pure fun _ ha => ha
    · exact Alone.run_liftM_bind vanished_log_alone fun _ => Alone.run_throw fun _ ha => ha
    · exact Alone.run_throw fun _ ha => ha
    · exact Alone.run_liftM_bind setState_log_alone fun _ => Alone.run_throw fun _ ha => ha
  · rw [hw'.1.tracks.state, hopen] at hx
    cases hx

/-- A commit, with no last batch, of an open HTTP handle with an address and clear tickets, with
no operation pending: it posts to the address followed by "/commit", and logs nothing else. -/
theorem commit_located_alone {m : Nat} {c : Config} {v : ServerVersion}
    (hlink : hd.link = .http m c v) {loc : String} (hloc : hd.location = some loc)
    (hopen : hd.state = .open) (hc : hd.tickets.Clear) :
    Alone World.host t (fun a => Follows h hd l a.state ∧ (a.state.handle h).pending = 0)
      (commit h).run
      (fun _ a => a.state.log = l.push (postRequest hd (loc ++ "/commit") {})) := by
  unfold commit commitWith
  refine Alone.run_bind (fun _ a => a.state.log = l.push (postRequest hd (loc ++ "/commit") {})) ?_
    (fun _ => Alone.run_pure fun _ ha => ha) fun _ _ ha => ha
  refine Alone.run_liftM_bind (Alone.get_world fun s => Follows h hd l s ∧ (s.handle h).pending = 0)
    fun w => Alone.of_fact fun hw => ?_
  rw [hw.1.tracks.link, hlink]
  exact (httpCommit_located_alone hlink hloc hopen hc {}).pre fun a ha => by
    rw [ha]
    exact ⟨hw.1.of_handles rfl rfl, hw.2⟩

/-- A handle added as the `i`-th, with no operation pending. -/
theorem addHandle_alone {i : Nat} (database : String) (link : Link) :
    Alone World.host t (fun a => a.state.handles.size = i ∧ a.state.log = l) (addHandle database link)
      (fun h a => h = i ∧ Follows h { id := handleId i, database, link } l a.state ∧
        (a.state.handle h).pending = 0) := by
  unfold addHandle
  refine Alone.modifyGet_world fun s (hs : s.handles.size = i ∧ s.log = l) a he => ?_
  obtain ⟨rfl, hl⟩ := hs
  rw [he]
  refine ⟨rfl, ⟨⟨?_, ?_, ?_, ?_, hl⟩, ?_, ?_⟩, ?_⟩ <;> simp [World.handle]

/-- A handle given an address reads as before but for it. -/
theorem locate_alone (loc : String) :
    Alone World.host t (fun a => Follows h hd l a.state ∧ (a.state.handle h).pending = 0)
      (Step.change fun w => w.modifyHandle h fun x => { x with location := some loc })
      (fun _ a => Follows h { hd with location := some loc } l a.state ∧
        (a.state.handle h).pending = 0) := by
  refine Alone.change_world fun s (hs : Follows h hd l s ∧ (s.handle h).pending = 0) a he => ?_
  have hm : Follows h { hd with location := some loc } l
      (s.modifyHandle h fun x => { x with location := some loc }) :=
    hs.1.modifyHandle hs.1.tracks.state hs.1.tracks.link rfl hs.1.tickets hs.1.database
  rw [he]
  refine ⟨hm.of_handles rfl rfl, ?_⟩
  show ((s.modifyHandle h _).handle h).pending = 0
  rw [World.handle_modifyHandle_self s hs.1.tracks.lt]
  exact hs.2

/-- Recovery of a descriptor with an address, for a commit: the handle it attaches posts to
that address followed by "/commit", and nothing else is logged, whatever the answer. -/
theorem recover_commit_alone (m : Nat) {d : Recovery.Descriptor} (ht : d.transport = .http)
    {loc : String} (hloc : d.location = some loc) (i : Nat) :
    Alone World.host t (fun a => a.state.handles.size = i ∧ a.state.log = l)
      (Recovery.recover m d .committed).run
      (fun _ a => a.state.log = l.push (postRequest
        { id := handleId i, database := d.database, link := .http m d.config d.version,
          location := some loc } (loc ++ "/commit") {})) := by
  unfold Recovery.recover
  rw [ht, hloc]
  simp only [bne_self_eq_false, Bool.false_eq_true, if_false]
  refine Alone.run_liftM_bind (addHandle_alone _ _) fun h => Alone.of_fact fun hh => ?_
  subst hh
  refine Alone.run_liftM_bind (locate_alone loc) fun _ => ?_
  -- the attached handle is open, at the address, with clear tickets
  exact commit_located_alone rfl rfl rfl ⟨rfl, rfl⟩

/-! ## A begin the server does not know

An answer saying that the server does not know the transaction means, for a handle with an
address, that the transaction has gone. A handle with no address has nothing on the server
yet, and the two operations that post to its begin address read that answer differently: a
run takes it as a refused begin and leaves the handle open, while a commit with a last batch
takes it as the transaction gone and ends the handle rolled back.
-/

/-- A batch on an open handle with no address and clear tickets, whose server answers that it
knows no such transaction: the run reports a refused begin as a transport failure, and the
handle stays open, with no address. -/
theorem execute_unknown_at_begin_alone {m : Nat} {c : Config} {v : ServerVersion}
    (hlink : hd.link = .http m c v) (hopen : hd.state = .open) (hnone : hd.location = none)
    (hc : hd.tickets.Clear) (batch : Batch) {resp : Http.Response}
    (hr : Http.interpret resp = .error .unknownTransaction) (rest : List Scripted) :
    Alone World.host t (fun a => Follows h hd l a.state ∧ (a.state.peer m).script = .answer resp :: rest)
      (execute h batch).run
      (fun r a => r = .error (.transport "server rejected the transaction begin request") ∧
        Follows h { hd with tickets :=
            { next := hd.tickets.next + 1, serving := hd.tickets.next + 1, finished := [] } }
          (l.push (postRequest hd (beginUri hd) batch)) a.state ∧ (a.state.peer m).script = rest) :=
  have hlink' : ({ hd with tickets := { hd.tickets with next := hd.tickets.next + 1 } } : Handle).link =
      .http m c v := hlink
  execute_refused_alone (f := .unknownTransaction) (World.script_keep m _) (World.script_keep m _)
    hlink hopen hnone hc (fun _ _ => Http.Failure.noConfusion) batch
    (post_unknown_alone hlink' _ batch hr rest)

/-- Ending a transaction that the server no longer knows: the handle reads as rolled back, and
the failure is that the transaction expired. -/
theorem vanished_follows {X : World → Prop}
    (hX : ∀ s s' : World, World.HandleMove (· = h) s s' → s'.peers = s.peers → X s → X s') :
    Alone World.host t (fun a => Follows h hd l a.state ∧ X a.state) (vanished h)
      (fun e a => e = TxError.expired ∧ Follows h { hd with state := .rolledBack } l a.state ∧
        X a.state) := by
  unfold vanished
  exact Alone.bind (setState_follows hX .rolledBack) fun _ => Alone.pure_of fun _ ha => ⟨rfl, ha⟩

/-- A commit with a last batch, of an open handle with no address and clear tickets, with no
run pending, whose server answers that it knows no such transaction: the batch is posted to
the begin address followed by "/commit", and the commit reports the transaction as expired and
ends it rolled back, with no address. -/
theorem httpCommit_unknown_at_begin_alone {m : Nat} {c : Config} {v : ServerVersion}
    (hlink : hd.link = .http m c v) (hopen : hd.state = .open) (hnone : hd.location = none)
    (hc : hd.tickets.Clear) {batch : Batch} (hb : batch.isEmpty = false) {resp : Http.Response}
    (hr : Http.interpret resp = .error .unknownTransaction) (rest : List Scripted) :
    Alone World.host t
      (fun a => (Follows h hd l a.state ∧ (a.state.peer m).script = .answer resp :: rest) ∧
        (a.state.handle h).pending = 0)
      (httpCommit h batch).run
      (fun r a => r = .error TxError.expired ∧
        Follows h { hd with state := .rolledBack, tickets :=
            { next := hd.tickets.next + 1, serving := hd.tickets.next + 1, finished := [] } }
          (l.push (postRequest hd (beginUri hd ++ "/commit") batch)) a.state ∧
        (a.state.peer m).script = rest) := by
  -- the handle as its turn finds it: one ticket issued
  let hd' : Handle := { hd with tickets := { hd.tickets with next := hd.tickets.next + 1 } }
  have hlink' : hd'.link = .http m c v := hlink
  unfold httpCommit
  refine Alone.run_liftM_bind (Alone.get_world fun s =>
      (Follows h hd l s ∧ (s.peer m).script = .answer resp :: rest) ∧ (s.handle h).pending = 0)
    fun w => Alone.of_fact fun hw => ?_
  dsimp only
  rw [hw.2, if_neg (Nat.lt_irrefl 0)]
  refine Alone.run_liftM_bind ((issue_follows (World.script_keep m _) hc).pre fun a ha => by
      rw [ha]
      exact ⟨hw.1.1.of_handles rfl rfl, hw.1.2⟩) fun n => Alone.of_fact fun hn => ?_
  subst hn
  refine Alone.run_liftM_bind Alone.await fun _ => ?_
  refine Alone.run_andThen (fun r a => r = .error TxError.expired ∧
      Follows h { hd' with state := .rolledBack }
        (l.push (postRequest hd (beginUri hd ++ "/commit") batch)) a.state ∧
      (a.state.peer m).script = rest) ?_ fun r => Alone.of_fact fun hr' =>
    (finishTicket_follows (World.script_keep m _) _).post fun _ _ ha => by
      rw [Sequencer.release_issue hc] at ha
      exact ⟨hr', ha⟩
  refine Alone.run_liftM_bind (Alone.get_world fun s =>
      Follows h hd' l s ∧ (s.peer m).script = .answer resp :: rest) fun w' => Alone.of_fact fun hw' => ?_
  have hnow : ∀ a : Agenda World Cond, a.state = { w' with wakes := [] } →
      Follows h hd' l a.state ∧ (a.state.peer m).script = .answer resp :: rest :=
    fun a ha => by rw [ha]; exact ⟨hw'.1.of_handles rfl rfl, hw'.2⟩
  split
  · -- an open handle has no statement failure to roll back for
    rename_i hcause
    have hrb := state_of_rollbackCause (Option.isSome_iff_exists.2 ⟨_, hcause⟩)
    rw [hw'.1.tracks.state, hopen] at hrb
    cases hrb
  refine Alone.run_ofExcept_bind (fun _ _ => ?_) fun x hx _ _ => ?_
  · -- with no address and a batch to run, the commit goes to the begin address
    rw [show (w'.handle h).location = none from hw'.1.tracks.location.trans hnone]
    simp only [hb, Bool.false_eq_true, if_false]
    rw [hw'.1.beginUri]
    refine Alone.run_pure_bind (Alone.run_liftM_bind
      ((post_unknown_alone hlink' _ batch hr rest).pre hnow) fun res => Alone.of_fact fun hres => ?_)
    subst hres
    refine Alone.run_liftM_bind (vanished_follows (World.script_keep m _)) fun e => ?_
    exact Alone.run_throw fun _ ha => by rw [ha.1]; exact ⟨rfl, ha.2⟩
  · rw [hw'.1.tracks.state, hopen] at hx
    cases hx

/-- A commit with a last batch, of an open HTTP handle with no address and clear tickets, with
no run pending, whose server answers the post to its begin address that it knows no such
transaction: the commit reports the transaction closed as expired and ends the handle rolled
back, with no address, although nothing of it had begun on the server. The post is the one
request logged. A run of a batch given the same answer reports a refused begin instead and
leaves the handle open (`execute_unknown_at_begin_alone`). -/
theorem commitWith_unknown_at_begin_alone {m : Nat} {c : Config} {v : ServerVersion}
    (hlink : hd.link = .http m c v) (hopen : hd.state = .open) (hnone : hd.location = none)
    (hc : hd.tickets.Clear) {batch : Batch} (hb : batch.isEmpty = false) {resp : Http.Response}
    (hr : Http.interpret resp = .error .unknownTransaction) (rest : List Scripted) :
    Alone World.host t
      (fun a => (Follows h hd l a.state ∧ (a.state.peer m).script = .answer resp :: rest) ∧
        (a.state.handle h).pending = 0)
      (commitWith h batch).run
      (fun r a => r = .error TxError.expired ∧ (a.state.handle h).state = .rolledBack ∧
        (a.state.handle h).location = none ∧
        a.state.log = l.push (postRequest hd (beginUri hd ++ "/commit") batch)) := by
  unfold commitWith
  refine Alone.run_liftM_bind (Alone.get_world fun s =>
      (Follows h hd l s ∧ (s.peer m).script = .answer resp :: rest) ∧ (s.handle h).pending = 0)
    fun w => Alone.of_fact fun hw => ?_
  rw [hw.1.1.tracks.link, hlink]
  refine ((httpCommit_unknown_at_begin_alone hlink hopen hnone hc hb hr rest).pre fun a ha => by
    rw [ha]
    exact ⟨⟨hw.1.1.of_handles rfl rfl, hw.1.2⟩, hw.2⟩).post fun r a ha => ?_
  obtain ⟨hres, hf, -⟩ := ha
  exact ⟨hres, hf.tracks.state, hf.tracks.location.trans hnone, hf.tracks.log⟩

/-- A handle that has run nothing, committed with one statement while the server answers 404
with no errors, which reads as not knowing the transaction: the commit reports it expired and
the handle rolled back. -/
theorem unbegun_commit_reported_expired :
    let hd : Handle := { id := default, database := "neo4j", link := .http 0 default ⟨5, 13, 0⟩ }
    let b : Batch := { statements := [{ text := "CREATE (n)" }] }
    let resp : Http.Response := { status := 404 }
    Http.interpret resp = .error .unknownTransaction ∧
    Alone World.host 0
      (fun a => (Follows 0 hd #[] a.state ∧ (a.state.peer 0).script = [.answer resp]) ∧
        (a.state.handle 0).pending = 0)
      (commitWith 0 b).run
      (fun r a => r = .error TxError.expired ∧ (a.state.handle 0).state = .rolledBack ∧
        (a.state.handle 0).location = none ∧
        a.state.log = (#[] : Array Json).push (postRequest hd (beginUri hd ++ "/commit") b)) := by
  intro hd b resp
  have hr : Http.interpret resp = .error .unknownTransaction := rfl
  exact ⟨hr, commitWith_unknown_at_begin_alone rfl rfl rfl ⟨rfl, rfl⟩ rfl hr []⟩

/-! ## A rollback that fails in transport -/

/-- Rolling back an open HTTP handle at address `loc`, with clear tickets, whose DELETE the
script fails in transport: the rollback fails with that transport failure, and the handle ends
rolled back at its address, with its tickets clear again one number on. A fact `Y` that no move
of the handle changes still holds. -/
theorem httpRollback_failed_alone {Y : World → Prop}
    (hY : ∀ s s', World.HandleMove (· = h) s s' → Y s → Y s')
    {m : Nat} {c : Config} {v : ServerVersion} (hlink : hd.link = .http m c v)
    {loc : String} (hloc : hd.location = some loc) (hopen : hd.state = .open)
    (hc : hd.tickets.Clear) (msg : String) (rest : List Scripted) :
    Alone World.host t
      (fun a => Follows h hd l a.state ∧ (a.state.peer m).script = .fail msg :: rest ∧ Y a.state)
      (httpRollback h).run
      (fun r a => r = .error (.transport msg) ∧
        Follows h { hd with state := .rolledBack, tickets :=
            { next := hd.tickets.next + 1, serving := hd.tickets.next + 1, finished := [] } }
          (l.push (requestOf hd .delete loc none)) a.state ∧
        (a.state.peer m).script = rest ∧ Y a.state) := by
  -- the bookkeeping steps keep what is left of the script, and `Y`
  have hX : ∀ sc : List Scripted, ∀ s s' : World, World.HandleMove (· = h) s s' →
      s'.peers = s.peers → (s.peer m).script = sc ∧ Y s → (s'.peer m).script = sc ∧ Y s' :=
    fun sc s s' hm hp hs => ⟨World.script_keep m sc s s' hm hp hs.1, hY s s' hm hs.2⟩
  -- the handle as its turn finds it: one ticket issued
  let hd' : Handle := { hd with tickets := { hd.tickets with next := hd.tickets.next + 1 } }
  have hlink' : hd'.link = .http m c v := hlink
  unfold httpRollback
  refine Alone.run_liftM_bind (issue_follows (hX _) hc) fun n => Alone.of_fact fun hn => ?_
  subst hn
  refine Alone.run_liftM_bind Alone.await fun _ => ?_
  refine Alone.run_andThen (fun r a => r = .error (.transport msg) ∧
      Follows h { hd' with state := .rolledBack } (l.push (requestOf hd .delete loc none)) a.state ∧
      (a.state.peer m).script = rest ∧ Y a.state) ?_ fun r => Alone.of_fact fun hr =>
    (finishTicket_follows (hX rest) _).post fun _ _ ha => by
      rw [Sequencer.release_issue hc] at ha
      exact ⟨hr, ha⟩
  refine Alone.run_liftM_bind (Alone.get_world fun s =>
      Follows h hd' l s ∧ (s.peer m).script = .fail msg :: rest ∧ Y s)
    fun w => Alone.of_fact fun hw => ?_
  have hnow : ∀ a : Agenda World Cond, a.state = { w with wakes := [] } →
      Follows h hd' l a.state ∧ (a.state.peer m).script = .fail msg :: rest ∧ Y a.state :=
    fun a ha => by rw [ha]; exact ⟨hw.1.of_handles rfl rfl, hw.2.1, hY w _ (.wakes _ []) hw.2.2⟩
  dsimp only
  split
  · -- an open handle has no statement failure to roll back for
    rename_i hcause
    have hrb := state_of_rollbackCause hcause
    rw [hw.1.tracks.state, hopen] at hrb
    cases hrb
  refine Alone.run_ofExcept_bind (fun _ _ => ?_) fun x hx _ _ => ?_
  · split
    · rename_i hnone
      rw [hw.1.tracks.location, hloc] at hnone
      cases hnone
    · rename_i loc' hsome
      rw [hw.1.tracks.location, hloc] at hsome
      cases hsome
      refine Alone.run_liftM_bind ((send_scripted_alone hY hlink' .delete loc none (.fail msg) rest).pre
        hnow) fun res => Alone.of_fact fun hres => ?_
      subst hres
      refine Alone.run_liftM_bind (setState_follows (hX rest) .rolledBack) fun _ => ?_
      exact Alone.run_throw fun _ ha => ⟨rfl, ha⟩
  · rw [hw.1.tracks.state, hopen] at hx
    cases hx

end Runs

end TxnCoord
