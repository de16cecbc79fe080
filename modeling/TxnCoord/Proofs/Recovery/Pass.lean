import Mathlib
import TxnCoord.Proofs.Transaction.Runs
/-!
# A recovery pass

Recovering a resource manager lists its descriptors in manager `m`'s store, then for each in
turn finishes the transaction it points at and removes it; the first failure ends the pass.

* `recover_recovered`: recovering one descriptor sends the one finishing request of an HTTP
  transaction that has an address (a POST to the address followed by "/commit", or a DELETE
  of the address, with the descriptor's settings), sends nothing for one without an address,
  refuses a driver descriptor, and never touches a store (`Recovered`).
* `recoverEach_pass`: the loop runs as the relation `Pass` says, descriptor by descriptor.
* `Pass.outcome`: after `j` descriptors were recovered and removed, the store has lost exactly
  their keys, the log holds the requests of the first `j + 1`, and the pass succeeds with the
  count exactly when `j` is all of them.

Recovery runs alone: a handle attached for recovery is open at its address with clear
tickets, so no step of it waits. What recovery keeps is tracked beside `Follows` by
`World.SameStores`.
-/

namespace TxnCoord

open Transaction Ambient Recovery

/-- The recovery stores, their injected failures and the managers that choose between them
are as they were. -/
structure World.SameStores (s s' : World) : Prop where
  ledger : s'.ledger = s.ledger
  sharedLedger : s'.sharedLedger = s.sharedLedger
  faults : s'.faults = s.faults
  managers : s'.managers = s.managers

namespace World.SameStores

theorem refl (s : World) : SameStores s s := ⟨rfl, rfl, rfl, rfl⟩

theorem trans {a b c : World} (h₁ : SameStores a b) (h₂ : SameStores b c) : SameStores a c :=
  ⟨h₂.ledger.trans h₁.ledger, h₂.sharedLedger.trans h₁.sharedLedger, h₂.faults.trans h₁.faults,
    h₂.managers.trans h₁.managers⟩

/-- Clearing the tasks to wake touches no store. -/
theorem clearWakes (s : World) : SameStores s { s with wakes := [] } := ⟨rfl, rfl, rfl, rfl⟩

theorem ledgerOf {s s' : World} (h : SameStores s s') (m : Nat) : ledgerOf s' m = ledgerOf s m := by
  unfold Ambient.ledgerOf World.manager
  rw [h.managers, h.ledger, h.sharedLedger]

theorem storeFault {s s' : World} (h : SameStores s s') (m : Nat) (op : StoreFaults → Option String) :
    storeFault s' m op = storeFault s m op := by
  unfold Ambient.storeFault World.manager
  rw [h.managers, h.faults]

end World.SameStores

theorem ledgerOf_setLedger (s : World) (m : Nat) (l : Ledger) : ledgerOf (setLedger s m l) m = l := by
  unfold setLedger ledgerOf
  split <;> simp_all [World.manager]

theorem setLedger_clearWakes (s : World) (m : Nat) (l : Ledger) :
    { setLedger { s with wakes := [] } m l with wakes := [] } = { setLedger s m l with wakes := [] } := by
  have hm : ({ s with wakes := [] } : World).manager m = s.manager m := rfl
  unfold setLedger
  rw [hm]
  split <;> rfl

namespace Recovery

/-- The request that finishes the transaction at address `loc`: a commit posts to the address
followed by "/commit", a rollback deletes the address, both through manager `m`'s transport
with the descriptor's settings. -/
def finishRequest (m : Nat) (d : Descriptor) (loc : String) : Outcome → Json
  | .committed => Peer.requestEntry m
      { method := .post, uri := loc ++ "/commit", body := some (Http.batchBody {}),
        credentials := d.config.credentials, userAgent := d.config.userAgent,
        stream := d.config.useJsonStream }
  | .rolledBack => Peer.requestEntry m
      { method := .delete, uri := loc, body := none, credentials := d.config.credentials,
        userAgent := d.config.userAgent, stream := d.config.useJsonStream }

/-- The requests that recovering a descriptor sends: the one finishing request for an HTTP
transaction that reached the server, none otherwise. -/
def recoveryRequests (m : Nat) (d : Descriptor) (o : Outcome) : List Json :=
  match d.transport, d.location with
  | .http, some loc => [finishRequest m d loc o]
  | _, _ => []

/-- What recovering descriptor `d` for outcome `o` through manager `m` did, from world `s` to
world `s'` with verdict `r`: it sent the requests `recoveryRequests` names and nothing else, and
left the stores alone. A driver descriptor is refused as unsupported, and a descriptor with no
address is done at once; neither changes anything. -/
structure Recovered (m : Nat) (d : Descriptor) (o : Outcome) (s : World)
    (r : Except TxError Unit) (s' : World) : Prop where
  log : s'.log.toList = s.log.toList ++ recoveryRequests m d o
  stores : World.SameStores s s'
  driver : d.transport = .driver →
    r = .error (.unsupported "driver session transactions cannot be recovered outside their session") ∧
      s' = s
  unplaced : d.transport = .http → d.location = none → r = .ok () ∧ s' = s

namespace Ledger

/-- Each key has at most one descriptor: the ledger is a map from keys to descriptors. -/
def Keyed (l : Ledger) : Prop := (l.entries.map fun d => (d.rm, d.uow)).Nodup

theorem isFor_iff {rm uow : Uuid} {e : Descriptor} : e.isFor rm uow = true ↔ e.rm = rm ∧ e.uow = uow := by
  simp [Descriptor.isFor]

/-- A save keeps the ledger keyed: it replaces the descriptor of its key in place, or adds
the key at the end. -/
theorem Keyed.save {l : Ledger} (hk : l.Keyed) (d : Descriptor) : (l.save d).Keyed := by
  unfold Keyed Ledger.save
  split
  · -- replacing a descriptor by one of the same key keeps the keys
    rename_i hany
    rw [List.map_map]
    refine List.map_congr_left (fun e _ => ?_) ▸ hk
    by_cases he : e.isFor d.rm d.uow = true
    · obtain ⟨hrm, huow⟩ := isFor_iff.1 he
      simp [he, hrm, huow]
    · simp [he]
  · rename_i hany
    rw [List.map_append, List.nodup_append]
    refine ⟨hk, List.nodup_singleton _, fun k hk' k' hk'' => ?_⟩
    obtain ⟨e, he, rfl⟩ := List.mem_map.1 hk'
    rw [List.map_singleton, List.mem_singleton] at hk''
    subst hk''
    intro heq
    obtain ⟨hrm, huow⟩ := Prod.ext_iff.1 heq
    exact hany (List.any_eq_true.2 ⟨e, he, isFor_iff.2 ⟨hrm, huow⟩⟩)

/-- A removal keeps the ledger keyed. -/
theorem Keyed.remove {l : Ledger} (hk : l.Keyed) (rm uow : Uuid) : (l.remove rm uow).2.Keyed :=
  hk.sublist ((List.filter_sublist).map _)

theorem Keyed.nodup_list {l : Ledger} (hk : l.Keyed) (rm : Uuid) : (l.list rm).Nodup :=
  (List.Nodup.of_map _ hk).filter _

/-- In a keyed ledger, an entry has the key of one of a resource manager's descriptors
exactly when it is that descriptor. -/
theorem Keyed.any_isFor_iff {l : Ledger} (hk : l.Keyed) {rm : Uuid} {ds : List Descriptor}
    (hds : ∀ d ∈ ds, d ∈ l.list rm) {e : Descriptor} (he : e ∈ l.entries) :
    (ds.any fun d => e.isFor rm d.uow) = true ↔ e ∈ ds := by
  constructor
  · intro h
    obtain ⟨d, hd, hed⟩ := List.any_eq_true.1 h
    obtain ⟨hdl, hdrm⟩ := List.mem_filter.1 (hds d hd)
    obtain ⟨herm, heuow⟩ := isFor_iff.1 hed
    have hkey : (e.rm, e.uow) = (d.rm, d.uow) := by
      rw [herm, heuow, beq_iff_eq.1 hdrm]
    rw [List.inj_on_of_nodup_map hk he hdl hkey]
    exact hd
  · intro h
    have hrm := (List.mem_filter.1 (hds e h)).2
    exact List.any_eq_true.2 ⟨e, h, isFor_iff.2 ⟨beq_iff_eq.1 hrm, rfl⟩⟩

/-- Dropping the keys of some of a resource manager's descriptors from a keyed ledger drops
exactly those descriptors. -/
theorem Keyed.filter_keys {l : Ledger} (hk : l.Keyed) {rm : Uuid} {ds : List Descriptor}
    (hds : ∀ d ∈ ds, d ∈ l.list rm) :
    l.entries.filter (fun e => !ds.any fun d => e.isFor rm d.uow) = l.entries.filter (· ∉ ds) :=
  List.filter_congr fun e he => by
    rw [Bool.eq_iff_iff, Bool.not_eq_true', decide_eq_true_iff, ← hk.any_isFor_iff hds he]
    simp

end Ledger

/-- The store of manager `m` without the descriptor of key (`rm`, `uow`). -/
def dropDescriptor (s : World) (m : Nat) (rm uow : Uuid) : World :=
  setLedger s m ((ledgerOf s m).remove rm uow).2

/-- One pass of recovery over descriptors `ds`, from world `s` with `n` recovered so far, to
verdict `r` and world `s'`: each descriptor is recovered for the outcome `decide` gives it and
then removed from manager `m`'s store; the first failure, of a recovery or of a removal, ends
the pass with that failure. -/
inductive Pass (m : Nat) (rm : Uuid) (decide : Descriptor → Outcome) :
    World → List Descriptor → Nat → Except TxError Nat → World → Prop
  | done (s : World) (n : Nat) : Pass m rm decide s [] n (.ok n) s
  | recoverFails {s s' : World} {d : Descriptor} {rest : List Descriptor} {n : Nat} {e : TxError}
      (hr : Recovered m d (decide d) s (.error e) s') : Pass m rm decide s (d :: rest) n (.error e) s'
  | removeFails {s s' : World} {d : Descriptor} {rest : List Descriptor} {n : Nat} {msg : String}
      (hr : Recovered m d (decide d) s (.ok ()) s') (hf : storeFault s' m (·.remove) = some msg) :
      Pass m rm decide s (d :: rest) n (.error (.coordination msg)) { s' with wakes := [] }
  | next {s s' s'' : World} {d : Descriptor} {rest : List Descriptor} {n : Nat}
      {r : Except TxError Nat}
      (hr : Recovered m d (decide d) s (.ok ()) s') (hf : storeFault s' m (·.remove) = none)
      (hrest : Pass m rm decide { dropDescriptor s' m rm d.uow with wakes := [] } rest (n + 1) r s'') :
      Pass m rm decide s (d :: rest) n r s''

end Recovery

/-! ## Recovering one descriptor -/

section Attached

variable {t h : Nat} {hd : Handle} {l : Array Json} {s₀ : World}

/-- A handle attached for recovery: it reads as `hd` with the log at `l`, as `Follows` says,
and the stores are those of `s₀`. -/
def Attached (s₀ : World) (h : Nat) (hd : Handle) (l : Array Json) (s : World) : Prop :=
  Follows h hd l s ∧ World.SameStores s₀ s

/-- A step that moves what `Follows` says and keeps the stores. -/
theorem attached_change {f : World → World} {hd' : Handle} {l' : Array Json}
    (hf : ∀ s, Follows h hd l s → Follows h hd' l' (f s)) (hs : ∀ s, World.SameStores s (f s)) :
    Alone World.host t (fun a => Attached s₀ h hd l a.state) (Step.change f)
      (fun _ a => Attached s₀ h hd' l' a.state) :=
  Alone.change_world fun s (hw : Attached s₀ h hd l s) a he => by
    rw [he]
    exact ⟨(hf s hw.1).of_handles rfl rfl, (hw.2.trans (hs s)).trans (World.SameStores.clearWakes _)⟩

theorem attached_get :
    Alone World.host t (fun a => Attached s₀ h hd l a.state) (MonadStateOf.get : Step World)
      (fun w a => Attached s₀ h hd l w ∧ Attached s₀ h hd l a.state ∧
        a.state = { w with wakes := [] }) :=
  (Alone.get_world (Attached s₀ h hd l)).post fun w a hw => by
    refine ⟨hw.1, ?_, hw.2⟩
    rw [hw.2]
    exact ⟨hw.1.1.of_handles rfl rfl, hw.1.2.trans (World.SameStores.clearWakes _)⟩

/-- On clear tickets, the ticket issued is the next number, and its turn has come. -/
theorem issue_attached (hc : hd.tickets.Clear) :
    Alone World.host t (fun a => Attached s₀ h hd l a.state) (Step.issue h)
      (fun n a => n = hd.tickets.next ∧
        Attached s₀ h { hd with tickets := { hd.tickets with next := hd.tickets.next + 1 } } l a.state ∧
        World.host.holds (.turn h n) a.state = true) := by
  unfold Step.issue
  refine Alone.modifyGet_world fun s (hs : Attached s₀ h hd l s) a he => ?_
  have htk : (s.handle h).tickets = hd.tickets := hs.1.tickets
  have hm : Follows h { hd with tickets := { hd.tickets with next := hd.tickets.next + 1 } } l
      (s.modifyHandle h fun x =>
        { x with tickets := { (s.handle h).tickets with next := (s.handle h).tickets.next + 1 } }) :=
    hs.1.modifyHandle hs.1.tracks.state hs.1.tracks.link hs.1.tracks.location (by rw [htk])
      hs.1.database
  rw [he]
  dsimp only [Sequencer.issue]
  refine ⟨congrArg Sequencer.next htk, ⟨hm.of_handles rfl rfl, hs.2.trans ⟨rfl, rfl, rfl, rfl⟩⟩, ?_⟩
  show ((s.modifyHandle h _).handle h).tickets.isTurn (s.handle h).tickets.next = true
  rw [World.handle_modifyHandle_self s hs.1.tracks.lt]
  simp only [Sequencer.isTurn, beq_iff_eq, htk]
  exact hc.1

/-- The request of an HTTP handle goes out with its settings, and is logged. -/
theorem send_attached {m : Nat} {c : Config} {v : ServerVersion} (hlink : hd.link = .http m c v)
    (method : Http.Method) (uri : String) (body : Option Json) :
    Alone World.host t (fun a => Attached s₀ h hd l a.state) (send h method uri body)
      (fun _ a => Attached s₀ h hd (l.push (Peer.requestEntry m
        { method, uri, body, credentials := c.credentials, userAgent := c.userAgent,
          stream := c.useJsonStream })) a.state) := by
  unfold send
  refine Alone.modifyGet_world fun s (hs : Attached s₀ h hd l s) a he => ?_
  have hl : (s.handle h).link = .http m c v := hs.1.tracks.link.trans hlink
  rw [he]
  simp only [httpParts, Handle.via, hl]
  exact ⟨(hs.1.note _).of_handles rfl rfl, hs.2.trans ⟨rfl, rfl, rfl, rfl⟩⟩

/-- A post of a handle with an address is logged, whatever the answer: the address a failed
begin names is taken only by a handle that has none. -/
theorem post_attached {m : Nat} {c : Config} {v : ServerVersion} (hlink : hd.link = .http m c v)
    {loc : String} (hloc : hd.location = some loc) (uri : String) (batch : Batch) :
    Alone World.host t (fun a => Attached s₀ h hd l a.state) (post h uri batch)
      (fun _ a => Attached s₀ h hd (l.push (Peer.requestEntry m
        { method := .post, uri, body := some (Http.batchBody batch), credentials := c.credentials,
          userAgent := c.userAgent, stream := c.useJsonStream })) a.state) := by
  unfold post
  refine Alone.bind (send_attached hlink .post uri _) fun r => ?_
  split
  · exact Alone.pure_of fun _ ha => ha
  · dsimp only
    split
    · refine Alone.bind (attached_change (fun s hs => hs.modifyHandle_self ?_)
        fun _ => ⟨rfl, rfl, rfl, rfl⟩) fun _ => Alone.pure_of fun _ ha => ha
      rw [if_neg (by simp [hs.tracks.location, hloc])]
    · exact Alone.pure_of fun _ ha => ha

/-- The log is `L` and the stores are those of `s₀`. -/
def Logged (s₀ : World) (L : Array Json) (s : World) : Prop :=
  s.log = L ∧ World.SameStores s₀ s

/-- A step that keeps the log and the stores. -/
theorem logged_change {L : Array Json} {f : World → World} (hl : ∀ s, (f s).log = s.log)
    (hs : ∀ s, World.SameStores s (f s)) :
    Alone World.host t (fun a => Logged s₀ L a.state) (Step.change f)
      (fun _ a => Logged s₀ L a.state) :=
  Alone.change_world fun s (hw : Logged s₀ L s) a he => by
    rw [he]
    exact ⟨(hl s).trans hw.1, (hw.2.trans (hs s)).trans (World.SameStores.clearWakes _)⟩

theorem attached_logged {L : Array Json} {a : Agenda World Cond} (ha : Attached s₀ h hd L a.state) :
    Logged s₀ L a.state :=
  ⟨ha.1.tracks.log, ha.2⟩

theorem setState_logged {L : Array Json} (st : TxState) :
    Alone World.host t (fun a => Logged s₀ L a.state) (setState h st)
      (fun _ a => Logged s₀ L a.state) := by
  unfold setState
  exact logged_change (fun _ => rfl) fun _ => ⟨rfl, rfl, rfl, rfl⟩

theorem finishTicket_logged {L : Array Json} (n : Nat) :
    Alone World.host t (fun a => Logged s₀ L a.state) (Step.finishTicket h n)
      (fun _ a => Logged s₀ L a.state) := by
  unfold Step.finishTicket
  refine logged_change (fun s => World.log_unhold s _) fun s => ?_
  unfold World.releaseTicket World.unhold
  split
  · exact ⟨rfl, rfl, rfl, rfl⟩
  · split <;> exact ⟨rfl, rfl, rfl, rfl⟩

theorem vanished_logged {L : Array Json} :
    Alone World.host t (fun a => Logged s₀ L a.state) (vanished h) (fun _ a => Logged s₀ L a.state) := by
  unfold vanished
  exact Alone.bind (setState_logged _) fun _ => Alone.pure_of fun _ ha => ha

/-- A commit of an attached handle, open at address `loc` with clear tickets and no operation
pending: it posts its batch to the address followed by "/commit", logs nothing else and
leaves the stores alone, whatever the answer. -/
theorem httpCommit_attached {m : Nat} {c : Config} {v : ServerVersion}
    (hlink : hd.link = .http m c v) {loc : String} (hloc : hd.location = some loc)
    (hopen : hd.state = .open) (hc : hd.tickets.Clear) (batch : Batch) :
    Alone World.host t (fun a => Attached s₀ h hd l a.state ∧ (a.state.handle h).pending = 0)
      (httpCommit h batch).run
      (fun _ a => Logged s₀ (l.push (Peer.requestEntry m
        { method := .post, uri := loc ++ "/commit", body := some (Http.batchBody batch),
          credentials := c.credentials, userAgent := c.userAgent, stream := c.useJsonStream }))
        a.state) := by
  unfold httpCommit
  refine Alone.run_liftM_bind (Alone.get_world fun s => Attached s₀ h hd l s ∧ (s.handle h).pending = 0)
    fun w => Alone.of_fact fun hw => ?_
  dsimp only
  rw [hw.2, if_neg (Nat.lt_irrefl 0)]
  refine Alone.run_liftM_bind ((issue_attached hc :
      Alone World.host t (fun a => Attached s₀ h hd l a.state) _ _).pre fun a ha => ?_)
    fun n => Alone.of_fact fun hn => ?_
  · rw [ha]
    exact ⟨hw.1.1.of_handles rfl rfl, hw.1.2.trans (World.SameStores.clearWakes _)⟩
  subst hn
  refine Alone.run_liftM_bind Alone.await fun _ => ?_
  refine Alone.run_andThen _ ?_ fun _ => finishTicket_logged _
  refine Alone.run_liftM_bind attached_get fun w' => Alone.of_fact fun hw' => ?_
  have hlink' : ({ hd with tickets := { hd.tickets with next := hd.tickets.next + 1 } } : Handle).link =
      .http m c v := hlink
  have hloc' : ({ hd with tickets := { hd.tickets with next := hd.tickets.next + 1 } } : Handle).location =
      some loc := hloc
  split
  · -- an open handle has no statement failure to roll back for
    rename_i hcause
    have hrb := state_of_rollbackCause (Option.isSome_iff_exists.2 ⟨_, hcause⟩)
    rw [hw'.1.tracks.state, hopen] at hrb
    cases hrb
  refine Alone.run_ofExcept_bind (fun _ _ => ?_) fun x hx _ _ => ?_
  · rw [hw'.1.tracks.location.trans hloc']
    refine Alone.run_pure_bind (Alone.run_liftM_bind
      (((post_attached hlink' hloc' _ batch).pre fun _ ha => ha.1).post fun _ _ ha => attached_logged ha)
      fun r => ?_)
    -- whatever the answer, the commit only marks the handle
    split
    · exact Alone.run_liftM_bind (setState_logged _) fun _ => Alone.run_pure fun _ ha => ha
    · exact Alone.run_liftM_bind vanished_logged fun _ => Alone.run_throw fun _ ha => ha
    · exact Alone.run_throw fun _ ha => ha
    · exact Alone.run_liftM_bind (setState_logged _) fun _ => Alone.run_throw fun _ ha => ha
  · rw [hw'.1.tracks.state, hopen] at hx
    cases hx

/-- A rollback of an attached handle, open at address `loc` with clear tickets: it deletes the
address, logs nothing else and leaves the stores alone, whatever the answer. -/
theorem httpRollback_attached {m : Nat} {c : Config} {v : ServerVersion}
    (hlink : hd.link = .http m c v) {loc : String} (hloc : hd.location = some loc)
    (hopen : hd.state = .open) (hc : hd.tickets.Clear) :
    Alone World.host t (fun a => Attached s₀ h hd l a.state) (httpRollback h).run
      (fun _ a => Logged s₀ (l.push (Peer.requestEntry m
        { method := .delete, uri := loc, body := none, credentials := c.credentials,
          userAgent := c.userAgent, stream := c.useJsonStream })) a.state) := by
  unfold httpRollback
  refine Alone.run_liftM_bind (issue_attached hc) fun n => Alone.of_fact fun hn => ?_
  subst hn
  refine Alone.run_liftM_bind Alone.await fun _ => ?_
  refine Alone.run_andThen _ ?_ fun _ => finishTicket_logged _
  refine Alone.run_liftM_bind attached_get fun w => Alone.of_fact fun hw => ?_
  have hlink' : ({ hd with tickets := { hd.tickets with next := hd.tickets.next + 1 } } : Handle).link =
      .http m c v := hlink
  dsimp only
  split
  · -- an open transaction has no statement failure to roll back for
    rename_i hcause
    have hrb := state_of_rollbackCause hcause
    rw [hw.1.tracks.state, hopen] at hrb
    cases hrb
  refine Alone.run_ofExcept_bind (fun _ _ => ?_) fun _ herr _ _ => ?_
  · rw [hw.1.tracks.location.trans hloc]
    refine Alone.run_liftM_bind (((send_attached hlink' .delete loc none).pre fun _ ha => ha.1).post
      fun _ _ ha => attached_logged ha) fun r => ?_
    refine Alone.run_liftM_bind (setState_logged _) fun _ => ?_
    split
    · exact Alone.run_pure fun _ ha => ha
    · exact Alone.run_pure fun _ ha => ha
    · exact Alone.run_throw fun _ ha => ha
  · rw [hw.1.tracks.state, hopen] at herr
    cases herr

/-- A handle added for recovery as the `i`-th: it reads as a fresh handle, open with clear
tickets and nothing pending, and the stores are untouched. -/
theorem addHandle_attached (database : String) (link : Link) :
    Alone World.host t (fun a => a.state.handles.size = s₀.handles.size ∧ a.state.log = l ∧
        World.SameStores s₀ a.state) (addHandle database link)
      (fun h a => h = s₀.handles.size ∧
        Attached s₀ h { id := handleId s₀.handles.size, database, link } l a.state ∧
        (a.state.handle h).pending = 0) := by
  unfold addHandle
  refine Alone.modifyGet_world fun s (hs : s.handles.size = s₀.handles.size ∧ s.log = l ∧ _) a he => ?_
  obtain ⟨hsize, hl, hst⟩ := hs
  rw [he, ← hsize]
  refine ⟨rfl, ⟨⟨⟨?_, ?_, ?_, ?_, hl⟩, ?_, ?_⟩, hst.trans ⟨rfl, rfl, rfl, rfl⟩⟩, ?_⟩ <;>
    simp [World.handle]

/-- Giving an attached handle an address changes nothing else. -/
theorem locate_attached (loc : String) :
    Alone World.host t (fun a => Attached s₀ h hd l a.state ∧ (a.state.handle h).pending = 0)
      (Step.change fun w => w.modifyHandle h fun x => { x with location := some loc })
      (fun _ a => Attached s₀ h { hd with location := some loc } l a.state ∧
        (a.state.handle h).pending = 0) := by
  refine Alone.change_world fun s (hs : Attached s₀ h hd l s ∧ (s.handle h).pending = 0) a he => ?_
  have hm : Follows h { hd with location := some loc } l
      (s.modifyHandle h fun x => { x with location := some loc }) :=
    hs.1.1.modifyHandle hs.1.1.tracks.state hs.1.1.tracks.link rfl hs.1.1.tickets hs.1.1.database
  rw [he]
  refine ⟨⟨hm.of_handles rfl rfl, hs.1.2.trans ⟨rfl, rfl, rfl, rfl⟩⟩, ?_⟩
  show ((s.modifyHandle h _).handle h).pending = 0
  rw [World.handle_modifyHandle_self s hs.1.1.tracks.lt]
  exact hs.2

theorem commit_attached {m : Nat} {c : Config} {v : ServerVersion}
    (hlink : hd.link = .http m c v) {loc : String} (hloc : hd.location = some loc)
    (hopen : hd.state = .open) (hc : hd.tickets.Clear) :
    Alone World.host t (fun a => Attached s₀ h hd l a.state ∧ (a.state.handle h).pending = 0)
      (commit h).run
      (fun _ a => Logged s₀ (l.push (Peer.requestEntry m
        { method := .post, uri := loc ++ "/commit", body := some (Http.batchBody {}),
          credentials := c.credentials, userAgent := c.userAgent, stream := c.useJsonStream }))
        a.state) := by
  unfold commit commitWith
  refine Alone.run_bind (fun _ a => Logged s₀ (l.push (Peer.requestEntry m
      { method := .post, uri := loc ++ "/commit", body := some (Http.batchBody {}),
        credentials := c.credentials, userAgent := c.userAgent, stream := c.useJsonStream })) a.state)
    ?_ (fun _ => Alone.run_pure fun _ ha => ha) fun _ _ ha => ha
  refine Alone.run_liftM_bind (Alone.get_world fun s => Attached s₀ h hd l s ∧ (s.handle h).pending = 0)
    fun w => Alone.of_fact fun hw => ?_
  rw [hw.1.1.tracks.link, hlink]
  exact (httpCommit_attached hlink hloc hopen hc {}).pre fun a ha => by
    rw [ha]
    exact ⟨⟨hw.1.1.of_handles rfl rfl, hw.1.2.trans (World.SameStores.clearWakes _)⟩, hw.2⟩

theorem rollback_attached {m : Nat} {c : Config} {v : ServerVersion}
    (hlink : hd.link = .http m c v) {loc : String} (hloc : hd.location = some loc)
    (hopen : hd.state = .open) (hc : hd.tickets.Clear) :
    Alone World.host t (fun a => Attached s₀ h hd l a.state) (rollback h).run
      (fun _ a => Logged s₀ (l.push (Peer.requestEntry m
        { method := .delete, uri := loc, body := none, credentials := c.credentials,
          userAgent := c.userAgent, stream := c.useJsonStream })) a.state) := by
  unfold rollback
  refine Alone.run_liftM_bind attached_get fun w => Alone.of_fact fun hw => ?_
  rw [hw.1.tracks.link, hlink]
  exact (httpRollback_attached hlink hloc hopen hc).pre fun _ ha => ha.1

end Attached

namespace Recovery

/-- A recovery that logged only the finishing request of a placed HTTP descriptor. -/
theorem Recovered.of_logged {m : Nat} {d : Descriptor} {o : Outcome} {s s' : World}
    {r : Except TxError Unit} {loc : String} (ht : d.transport = .http) (hloc : d.location = some loc)
    (hs : Logged s (s.log.push (finishRequest m d loc o)) s') : Recovered m d o s r s' where
  log := by rw [hs.1, Array.toList_push, recoveryRequests, ht, hloc]
  stores := hs.2
  driver h := by simp [ht] at h
  unplaced _ h := by simp [hloc] at h

/-- Recovering one descriptor does what `Recovered` says: at most the one finishing request,
through a handle attached at the recorded address, and no change to the stores. -/
theorem recover_recovered {t : Nat} (m : Nat) (d : Descriptor) (o : Outcome) (s : World) :
    Alone World.host t (fun a => a.state = s) (recover m d o).run
      (fun r a => Recovered m d o s r a.state) := by
  unfold recover
  cases ht : d.transport with
  | driver =>
    refine Alone.run_throw fun a ha => ⟨?_, ?_, fun _ => ⟨rfl, ha⟩, fun h => ?_⟩
    · simp [ha, recoveryRequests, ht]
    · rw [ha]; exact World.SameStores.refl s
    · simp [ht] at h
  | http =>
    simp only [bne_self_eq_false, Bool.false_eq_true, if_false]
    cases hloc : d.location with
    | none =>
      refine Alone.run_pure fun a ha => ⟨?_, ?_, fun h => ?_, fun _ _ => ⟨rfl, ha⟩⟩
      · simp [ha, recoveryRequests, ht, hloc]
      · rw [ha]; exact World.SameStores.refl s
      · simp [ht] at h
    | some loc =>
      refine Alone.run_liftM_bind ((addHandle_attached d.database (.http m d.config d.version) :
          Alone World.host t (fun a => a.state.handles.size = s.handles.size ∧ a.state.log = s.log ∧
            World.SameStores s a.state) _ _).pre fun a ha => ?_) fun h => Alone.of_fact fun hh => ?_
      · rw [ha]
        exact ⟨rfl, rfl, World.SameStores.refl s⟩
      subst hh
      refine Alone.run_liftM_bind (locate_attached loc) fun _ => ?_
      -- the attached handle is open at the address, with clear tickets
      cases o with
      | committed =>
        exact (commit_attached rfl rfl rfl ⟨rfl, rfl⟩).post fun _ _ ha => Recovered.of_logged ht hloc ha
      | rolledBack =>
        exact ((rollback_attached rfl rfl rfl ⟨rfl, rfl⟩).pre fun _ ha => ha.1).post
          fun _ _ ha => Recovered.of_logged ht hloc ha

/-! ## The store's answers -/

/-- Code whose start is told of the world alone may be taken from each such world in turn. -/
theorem Alone.of_state {t : Nat} {α : Type} {W : World → Prop} {x : Step α}
    {Q : α → Agenda World Cond → Prop}
    (hx : ∀ s, W s → Alone World.host t (fun a => a.state = s) x Q) :
    Alone World.host t (fun a => W a.state) x Q :=
  fun k R hk a ha => hx a.state ha k R hk a rfl

/-- Code may be taken from each start in turn. -/
theorem Alone.of_start {t : Nat} {α : Type} {P : Agenda World Cond → Prop} {x : Step α}
    {Q : α → Agenda World Cond → Prop} (hx : ∀ a, P a → Alone World.host t (· = a) x Q) :
    Alone World.host t P x Q :=
  fun k R hk a ha => hx a ha k R hk a rfl

/-- Listing a resource manager's descriptors fails with the injected failure, if there is one,
and otherwise answers the ledger's list; either way the world is as it was. -/
theorem storeList_lists {t : Nat} (m : Nat) (rm : Uuid) (s : World) :
    Alone World.host t (fun a => a.state = s) (storeList m rm).run fun r a =>
      a.state = { s with wakes := [] } ∧
      (∀ msg, storeFault s m (·.list) = some msg → r = .error (.coordination msg)) ∧
      (storeFault s m (·.list) = none → r = .ok ((ledgerOf s m).list rm)) := by
  unfold storeList
  refine Alone.run_liftM_bind (Alone.get_world (· = s)) fun w => Alone.of_fact fun hw => ?_
  subst hw
  cases hf : storeFault w m (·.list) with
  | some msg =>
    refine Alone.run_throw fun a ha => ⟨ha, fun msg' h => ?_, fun h => ?_⟩
    · cases h
      rfl
    · cases h
  | none =>
    refine Alone.run_pure fun a ha => ⟨ha, fun msg' h => ?_, fun _ => rfl⟩
    cases h

/-- Removing a descriptor fails with the injected failure, if there is one, changing nothing;
otherwise it drops the key from the ledger and says whether it was there. -/
theorem storeRemove_removes {t : Nat} (m : Nat) (rm uow : Uuid) (s : World) :
    Alone World.host t (fun a => a.state = s) (storeRemove m rm uow).run fun r a =>
      (∀ msg, storeFault s m (·.remove) = some msg →
        r = .error (.coordination msg) ∧ a.state = { s with wakes := [] }) ∧
      (storeFault s m (·.remove) = none →
        r = .ok ((ledgerOf s m).remove rm uow).1 ∧
          a.state = { dropDescriptor s m rm uow with wakes := [] }) := by
  unfold storeRemove
  refine Alone.run_liftM_bind (Alone.get_world (· = s)) fun w => Alone.of_fact fun hw => ?_
  subst hw
  cases hf : storeFault w m (·.remove) with
  | some msg =>
    refine Alone.run_throw fun a ha => ⟨fun msg' h => ?_, fun h => ?_⟩
    · cases h
      exact ⟨rfl, ha⟩
    · cases h
  | none =>
    refine Alone.run_liftM_bind (Alone.change_world fun s' (hs' : s' = { w with wakes := [] }) a he => ?_)
      fun _ => Alone.run_pure fun _ ha => ha
    refine ⟨fun msg' h => ?_, fun _ => ⟨rfl, ?_⟩⟩
    · cases h
    · rw [he, hs', dropDescriptor, setLedger_clearWakes]
      rfl

/-! ## The loop -/

/-- Recovering descriptors one by one runs as `Pass` says. -/
theorem recoverEach_pass {t : Nat} (m : Nat) (rm : Uuid) (decide : Descriptor → Outcome)
    (ds : List Descriptor) (n : Nat) (s : World) :
    Alone World.host t (fun a => a.state = s) (recoverEach m rm decide ds n).run
      (fun r a => Pass m rm decide s ds n r a.state) := by
  induction ds generalizing n s with
  | nil =>
    unfold recoverEach
    refine Alone.run_pure fun a ha => ?_
    rw [ha]
    exact .done s n
  | cons d rest ih =>
    unfold recoverEach
    refine Alone.run_bind _ (recover_recovered m d (decide d) s) (fun _ => ?_)
      fun _ _ ha => .recoverFails ha
    -- the removal is read from the world the recovery left
    refine Alone.of_state fun s' hr => ?_
    cases hf : storeFault s' m (·.remove) with
    | some msg =>
      refine Alone.run_bind _ (storeRemove_removes m rm d.uow s') (fun _ => ?_) fun e a ha => ?_
      · -- a removal that fails hands on no value
        intro _ _ _ a ha
        cases (ha.1 msg hf).1
      · obtain ⟨he, hs⟩ := ha.1 msg hf
        cases he
        rw [hs]
        exact .removeFails hr hf
    | none =>
      refine Alone.run_bind _ (storeRemove_removes m rm d.uow s') (fun _ => ?_) fun e a ha => ?_
      · refine ((ih (n + 1) _).pre fun _ ha => (ha.2 hf).2).post fun _ _ hp => .next hr hf hp
      · cases (ha.2 hf).1

/-! ## What a pass leaves -/

section Outcome

variable {m : Nat} {rm : Uuid} {decide : Descriptor → Outcome}

theorem ledgerOf_dropDescriptor {s s' : World} (h : World.SameStores s s') (uow : Uuid) :
    ledgerOf { dropDescriptor s' m rm uow with wakes := [] } m = ((ledgerOf s m).remove rm uow).2 := by
  show ledgerOf (setLedger s' m _) m = _
  rw [ledgerOf_setLedger, h.ledgerOf]

/-- A pass over `ds` ends after `j` of them were recovered and removed: the store has lost
exactly the keys of those `j`, the log gained the requests of the first `j + 1` (the one that
failed included), and the pass gives the count exactly when it went through all of them. -/
theorem Pass.outcome {s s' : World} {ds : List Descriptor} {n : Nat} {r : Except TxError Nat}
    (hp : Pass m rm decide s ds n r s') :
    ∃ j ≤ ds.length,
      (ledgerOf s' m).entries = (ledgerOf s m).entries.filter
        (fun e => !(ds.take j).any fun d => e.isFor rm d.uow) ∧
      s'.log.toList = s.log.toList ++ (ds.take (j + 1)).flatMap (fun d => recoveryRequests m d (decide d)) ∧
      (j = ds.length → r = .ok (n + ds.length)) ∧ (j < ds.length → ∃ e, r = .error e) := by
  induction hp with
  | done s n => exact ⟨0, le_rfl, by simp, by simp, fun _ => rfl, fun h => absurd h (Nat.lt_irrefl 0)⟩
  | recoverFails hr =>
    refine ⟨0, Nat.zero_le _, ?_, ?_, fun h => ?_, fun _ => ⟨_, rfl⟩⟩
    · simp [hr.stores.ledgerOf]
    · simp [hr.log]
    · simp at h
  | removeFails hr hf =>
    refine ⟨0, Nat.zero_le _, ?_, ?_, fun h => ?_, fun _ => ⟨_, rfl⟩⟩
    · simp [(hr.stores.trans (World.SameStores.clearWakes _)).ledgerOf]
    · simp [hr.log]
    · simp at h
  | @next s s' s'' d rest n r hr hf hrest ih =>
    obtain ⟨j, hj, hl, hlog, hok, herr⟩ := ih
    refine ⟨j + 1, Nat.succ_le_succ hj, ?_, ?_, fun h => ?_, fun h => herr (by simpa using h)⟩
    · -- the earlier removals come after this one
      rw [hl, ledgerOf_dropDescriptor hr.stores]
      simp only [Ledger.remove, List.filter_filter, List.take_succ_cons, List.any_cons, Bool.not_or]
      congr 1
      funext e
      exact Bool.and_comm _ _
    · have hlog' : ({ dropDescriptor s' m rm d.uow with wakes := [] } : World).log = s'.log :=
        log_setLedger s' m _
      rw [hlog, hlog', hr.log, List.take_succ_cons, List.flatMap_cons, List.append_assoc]
    · rw [hok (by simpa using h)]
      congr 1
      simp only [List.length_cons]
      omega

end Outcome

/-! ## Recovering a resource manager -/

/-- Recovery of manager `m`'s resource manager, from any world whose store is a map: a list
that fails ends it with that failure and no change. Otherwise it goes through the listed
descriptors in order as `Pass` says, recovering each for the outcome `decide` gives it and
then removing it, and stops at the first failure with that failure. At the end exactly the
recovered descriptors are gone from the store, the failing one and all later ones are still
there, the log holds the finishing requests of the recovered ones and of the failing one and
nothing for the later ones, and the count of all listed descriptors comes back exactly when
every recovery and removal succeeded. Recovering one descriptor sends the one finishing
request of an HTTP transaction that has an address, with the descriptor's settings, nothing
for one without, and refuses a driver descriptor without a request (`Recovered`). -/
theorem recovery_pass_stops_at_first_failure (m : Nat) :
    (∀ (t : Nat) (d : Descriptor) (o : Outcome) (s : World),
      Alone World.host t (fun a => a.state = s) (recover m d o).run
        (fun r a => Recovered m d o s r a.state)) ∧
    ∀ (t : Nat) (decide : Descriptor → Outcome) (s : World),
      (s.manager m).backend = .http → (ledgerOf s m).Keyed →
      Alone World.host t (fun a => a.state = s) (recoverPending m decide).run fun r a =>
        (∀ msg, storeFault s m (·.list) = some msg →
          r = .error (.coordination msg) ∧ a.state = { s with wakes := [] }) ∧
        (storeFault s m (·.list) = none →
          let rm := (s.manager m).config.resourceManager
          let ds := (ledgerOf s m).list rm
          Pass m rm decide { s with wakes := [] } ds 0 r a.state ∧
          ∃ j ≤ ds.length,
            (ledgerOf a.state m).entries = (ledgerOf s m).entries.filter (· ∉ ds.take j) ∧
            (∀ d ∈ ds.drop j, d ∈ (ledgerOf a.state m).entries) ∧
            a.state.log.toList =
              s.log.toList ++ (ds.take (j + 1)).flatMap (fun d => recoveryRequests m d (decide d)) ∧
            (j = ds.length → r = .ok ds.length) ∧ (j < ds.length → ∃ e, r = .error e)) := by
  refine ⟨fun t d o s => recover_recovered m d o s, fun t decide s hb hk => ?_⟩
  unfold recoverPending
  refine Alone.run_liftM_bind (Alone.get_world (· = s)) fun w => Alone.of_fact fun hw => ?_
  subst hw
  dsimp only
  rw [hb]
  simp only [bne_self_eq_false, Bool.false_eq_true, if_false]
  have hfw : storeFault { w with wakes := [] } m (·.list) = storeFault w m (·.list) := rfl
  refine Alone.run_bind _ (storeList_lists m _ { w with wakes := [] }) (fun ds => Alone.of_start fun a ha => ?_)
    fun e a ha => ?_
  · obtain ⟨hst, hfail, hok⟩ := ha
    rw [hfw] at hfail hok
    cases hf : storeFault w m (·.list) with
    | some msg => cases hfail msg hf
    | none =>
      cases hok hf
      refine ((recoverEach_pass m _ decide _ 0 { w with wakes := [] }).pre fun a' ha' => ?_).post
        fun r a' hp => ⟨fun msg h => (by cases h), fun _ => ⟨hp, ?_⟩⟩
      · rw [ha', hst]
      -- the pass read the store of the world it started from
      obtain ⟨j, hj, hl, hlog, hok', herr⟩ := hp.outcome
      have hsub : ∀ d ∈ ((ledgerOf w m).list (w.manager m).config.resourceManager).take j,
          d ∈ (ledgerOf w m).list (w.manager m).config.resourceManager :=
        fun d hd => List.mem_of_mem_take hd
      have hl' := hl.trans (hk.filter_keys hsub)
      refine ⟨j, hj, hl', fun d hd => ?_, hlog, fun h => (hok' h).trans (by rw [Nat.zero_add]; rfl), herr⟩
      rw [hl', List.mem_filter]
      exact ⟨(List.mem_filter.1 (List.mem_of_mem_drop hd)).1,
        decide_eq_true fun ht => List.disjoint_take_drop (hk.nodup_list _) le_rfl ht hd⟩
  · obtain ⟨hst, hfail, hok⟩ := ha
    rw [hfw] at hfail hok
    refine ⟨fun msg h => ⟨?_, hst⟩, fun h => ?_⟩
    · cases hfail msg h
      rfl
    · cases hok h

/-- A store of two descriptors of the default resource manager, one of a transaction at an
address and one of a transaction that never reached the server, recovered as committed. -/
theorem recovery_pass_commits_two_descriptors :
    let d₁ : Descriptor :=
      { rm := default, uow := ⟨1⟩, config := default, transport := .http, version := ⟨5, 13, 0⟩,
        database := "neo4j", location := some "http://localhost:7474/db/neo4j/tx/1",
        recordedAt := { days := 20000, second := 0 } }
    let d₂ : Descriptor := { d₁ with uow := ⟨2⟩, location := none }
    let s : World := { ledger := ⟨[d₁, d₂]⟩ }
    (s.manager 0).backend = .http ∧ (ledgerOf s 0).Keyed ∧
      Alone World.host 1 (fun a => a.state = s) (recoverPending 0 fun _ => .committed).run
        fun r a => Pass 0 default (fun _ => .committed) { s with wakes := [] } [d₁, d₂] 0 r a.state := by
  intro d₁ d₂ s
  have hb : (s.manager 0).backend = .http := rfl
  have hk : (ledgerOf s 0).Keyed := by
    unfold Ledger.Keyed
    decide
  exact ⟨hb, hk, ((recovery_pass_stops_at_first_failure 0).2 1 _ s hb hk).post fun _ _ h => (h.2 rfl).1⟩

end Recovery

end TxnCoord
