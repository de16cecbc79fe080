import TxnCoord.Proofs.Transaction.Tickets
/-!
# The books of a sequencer after any history of its tickets

The owner of a sequencer does two things to it: it issues the next ticket, and it drops a
ticket it holds, whether its request ran or was given up. A history is a list of these
events, oldest first; it is `Legal` when each ticket is dropped at most once, and only after
it was issued.

After any legal history the sequencer's books say exactly what happened
(`Sequencer.Tracks`): the next number is the count of tickets issued, a ticket has finished
iff it was dropped, and the finished tickets kept are all above the one served. One lemma
per event keeps this, and an induction on the history gives it for every run
(`tracks_replay`). From it, the ticket served is the lowest issued ticket not dropped, or the
next number once every ticket was dropped, and a ticket's turn comes only once every lower
ticket was dropped.

    Legal es → (replay es).serving = lowestUndropped (issuedIn es) (droppedIn es)
                                                          (served_lowest_undropped)
-/

namespace TxnCoord.Transaction.Sequencer

/-- What the owner of a sequencer does to it. -/
inductive Event
  /-- Issue the next ticket. -/
  | issue
  /-- Drop ticket `n`, which finishes it. -/
  | drop (n : Nat)
  deriving DecidableEq, Repr

/-- The books after one event. -/
def Event.apply : Event → Sequencer → Sequencer
  | .issue, s => s.issue.2
  | .drop n, s => s.release n

/-- The ticket an event drops, if it drops one. -/
def Event.dropped? : Event → Option Nat
  | .issue => none
  | .drop n => some n

/-- The books of a new sequencer after a history, oldest event first. -/
def replay (es : List Event) : Sequencer := es.foldl (fun s e => e.apply s) {}

/-- The number of tickets a history issued. -/
def issuedIn (es : List Event) : Nat := es.count .issue

/-- The tickets a history dropped, in the order it dropped them. -/
def droppedIn (es : List Event) : List Nat := es.filterMap Event.dropped?

/-- The histories an owner can produce: a ticket is dropped only once it was issued, and at
most once. -/
inductive Legal : List Event → Prop
  | nil : Legal []
  | issue {es : List Event} : Legal es → Legal (es ++ [.issue])
  | drop {es : List Event} {n : Nat} : Legal es → n < issuedIn es → n ∉ droppedIn es →
      Legal (es ++ [.drop n])

/-- The lowest of the first `issued` tickets that is not in `dropped`, or `issued` when every
one of them is. -/
def lowestUndropped (issued : Nat) (dropped : List Nat) : Nat :=
  ((List.range issued).find? (· ∉ dropped)).getD issued

@[simp] theorem replay_nil : replay [] = {} := rfl

@[simp] theorem replay_concat (es : List Event) (e : Event) :
    replay (es ++ [e]) = e.apply (replay es) :=
  List.foldl_append ..

@[simp] theorem issuedIn_concat (es : List Event) (e : Event) :
    issuedIn (es ++ [e]) = issuedIn es + if e = .issue then 1 else 0 := by
  cases e <;> simp [issuedIn]

@[simp] theorem droppedIn_concat (es : List Event) (e : Event) :
    droppedIn (es ++ [e]) = droppedIn es ++ e.dropped?.toList := by
  cases e <;> simp [droppedIn, Event.dropped?]

/-- The lowest undropped ticket is the one below which every ticket was dropped, and which
was not dropped itself unless it is the next number. -/
theorem lowestUndropped_eq {issued k : Nat} {dropped : List Nat} (hk : k ≤ issued)
    (hlow : ∀ m < k, m ∈ dropped) (hnot : k < issued → k ∉ dropped) :
    lowestUndropped issued dropped = k := by
  rcases Nat.lt_or_eq_of_le hk with hlt | rfl
  · have hfind : (List.range issued).find? (· ∉ dropped) = some k := by
      rw [List.find?_range_eq_some]
      simpa [hlt, hnot hlt] using hlow
    rw [lowestUndropped, hfind]
    rfl
  · have hfind : (List.range k).find? (· ∉ dropped) = none := by
      rw [List.find?_range_eq_none]
      simpa using hlow
    rw [lowestUndropped, hfind]
    rfl

/-- Moving past finished tickets that all lie at or above the one served leaves only
tickets above the new one served. -/
theorem advance_above (serving : Nat) (finished : List Nat) (h : finished.Pairwise (· < ·))
    (hle : ∀ m ∈ finished, serving ≤ m) :
    ∀ m ∈ (advance serving finished).2, (advance serving finished).1 < m := by
  fun_induction advance serving finished with
  | case1 sv fin hmem _ ih =>
    refine ih (h.sublist (List.erase_sublist ..)) fun m hm => ?_
    -- the ticket moved past occurs once, so what is left lies above it
    have hnd : fin.Nodup := h.imp Nat.ne_of_lt
    obtain ⟨hne, hm⟩ := hnd.mem_erase_iff.1 hm
    have := hle m hm
    omega
  | case2 sv fin hmem =>
    intro m hm
    have hne : m ≠ sv := fun he => hmem (he ▸ hm)
    have := hle m hm
    omega

/-- Dropping a ticket at or above the one served keeps the finished tickets above it. -/
theorem release_finished_above {s : Sequencer} (hs : s.Valid)
    (habove : ∀ m ∈ s.finished, s.serving < m) {n : Nat} (hn : s.serving ≤ n) :
    ∀ m ∈ (s.release n).finished, (s.release n).serving < m := by
  refine advance_above s.serving _ (pairwise_insertSorted n hs.sorted) fun m hm => ?_
  rcases (mem_insertSorted n m s.finished).1 hm with rfl | hm
  · exact hn
  · exact Nat.le_of_lt (habove m hm)

/-- The books of `s` say what a history did that issued `issued` tickets and dropped those
of `dropped`. -/
structure Tracks (s : Sequencer) (issued : Nat) (dropped : List Nat) : Prop where
  valid : s.Valid
  next_eq : s.next = issued
  finished_iff : ∀ m, s.Finished m ↔ m ∈ dropped
  finished_above : ∀ m ∈ s.finished, s.serving < m
  dropped_lt : ∀ m ∈ dropped, m < issued

theorem tracks_empty : ({} : Sequencer).Tracks 0 [] where
  valid := valid_empty
  next_eq := rfl
  finished_iff m := by simp [Finished]
  finished_above _ hm := by simp at hm
  dropped_lt _ hm := by simp at hm

section Steps

variable {s : Sequencer} {i : Nat} {d : List Nat}

theorem Tracks.issue (h : s.Tracks i d) : s.issue.2.Tracks (i + 1) d where
  valid := ⟨h.valid.sorted, h.valid.serving_not_mem⟩
  next_eq := congrArg (· + 1) h.next_eq
  finished_iff := h.finished_iff
  finished_above := h.finished_above
  dropped_lt m hm := Nat.lt_succ_of_lt (h.dropped_lt m hm)

/-- Dropping an issued ticket that was not dropped before finishes it and nothing else. -/
theorem Tracks.release (h : s.Tracks i d) {n : Nat} (hn : n < i) (hd : n ∉ d) :
    (s.release n).Tracks i (d ++ [n]) where
  valid := h.valid.release n
  next_eq := h.next_eq
  finished_iff m := by
    rw [release_finished_iff h.valid, h.finished_iff, List.mem_append, List.mem_singleton]
  finished_above := by
    -- a ticket not dropped has not finished, so it is not below the one served
    have hle : s.serving ≤ n :=
      Nat.le_of_not_lt fun hlt => hd ((h.finished_iff n).1 (.inl hlt))
    exact release_finished_above h.valid h.finished_above hle
  dropped_lt m hm := by
    rcases List.mem_append.1 hm with hm | hm
    · exact h.dropped_lt m hm
    · exact (List.mem_singleton.1 hm) ▸ hn

end Steps

/-- After a legal history, the books say what it did. -/
theorem tracks_replay {es : List Event} (h : Legal es) :
    (replay es).Tracks (issuedIn es) (droppedIn es) := by
  induction h with
  | nil => exact tracks_empty
  | issue _ ih => simpa [Event.apply, Event.dropped?] using ih.issue
  | drop _ hn hd ih => simpa [Event.apply, Event.dropped?] using ih.release hn hd

section Consequences

variable {s : Sequencer} {i : Nat} {d : List Nat}

/-- Every ticket below the one served was dropped. -/
theorem Tracks.dropped_below (h : s.Tracks i d) {m : Nat} (hm : m < s.serving) : m ∈ d :=
  (h.finished_iff m).1 (.inl hm)

theorem Tracks.serving_not_dropped (h : s.Tracks i d) : s.serving ∉ d :=
  fun hd => h.valid.not_finished_serving ((h.finished_iff _).2 hd)

/-- The ticket served is never past the next number: that one was not dropped. -/
theorem Tracks.serving_le (h : s.Tracks i d) : s.serving ≤ i := by
  refine Nat.le_of_not_lt fun hlt => ?_
  have hi : i ∈ d := h.dropped_below hlt
  exact Nat.lt_irrefl i (h.dropped_lt i hi)

theorem Tracks.serving_eq (h : s.Tracks i d) : s.serving = lowestUndropped i d :=
  (lowestUndropped_eq h.serving_le (fun _ => h.dropped_below) fun _ => h.serving_not_dropped).symm

theorem Tracks.mem_finished_iff (h : s.Tracks i d) (m : Nat) :
    m ∈ s.finished ↔ m ∈ d ∧ s.serving < m := by
  constructor
  · intro hm
    exact ⟨(h.finished_iff m).1 (.inr hm), h.finished_above m hm⟩
  · rintro ⟨hd, hlt⟩
    rcases (h.finished_iff m).2 hd with hm | hm
    · exact absurd hm (Nat.lt_asymm hlt)
    · exact hm

/-- A ticket's turn comes only once every lower ticket was dropped. -/
theorem Tracks.dropped_of_isTurn (h : s.Tracks i d) {n : Nat} (hn : s.isTurn n = true)
    {m : Nat} (hm : m < n) : m ∈ d := by
  have hserving : s.serving = n := (isTurn_iff s n).1 hn
  exact h.dropped_below (hserving ▸ hm)

end Consequences

/-- After any history that drops each ticket at most once, and only once issued: the tickets
issued are those below the next number, the ticket served is the lowest one issued and not
dropped (the next number once every ticket was dropped), the finished tickets kept are the
dropped ones above it, and a ticket's turn comes only once every lower ticket was dropped. -/
theorem served_lowest_undropped {es : List Event} (h : Legal es) :
    (replay es).next = issuedIn es ∧
    (replay es).serving = lowestUndropped (issuedIn es) (droppedIn es) ∧
    (∀ m, m ∈ (replay es).finished ↔ m ∈ droppedIn es ∧ (replay es).serving < m) ∧
    ∀ n, (replay es).isTurn n = true → ∀ m < n, m ∈ droppedIn es := by
  have ht := tracks_replay h
  exact ⟨ht.next_eq, ht.serving_eq, ht.mem_finished_iff, fun _ hn _ => ht.dropped_of_isTurn hn⟩

/-- Three tickets issued, the second dropped and then the first: the third is served, and
nothing is kept finished above it. -/
theorem abandoned_ticket_skipped :
    let es := [Event.issue, .issue, .issue, .drop 1, .drop 0]
    Legal es ∧
    ((replay es).next = issuedIn es ∧
      (replay es).serving = lowestUndropped (issuedIn es) (droppedIn es) ∧
      (∀ m, m ∈ (replay es).finished ↔ m ∈ droppedIn es ∧ (replay es).serving < m) ∧
      ∀ n, (replay es).isTurn n = true → ∀ m < n, m ∈ droppedIn es) := by
  have hl : Legal [Event.issue, .issue, .issue, .drop 1, .drop 0] :=
    .drop (.drop (.issue (.issue (.issue .nil))) (by decide) (by decide)) (by decide) (by decide)
  exact ⟨hl, served_lowest_undropped hl⟩

end TxnCoord.Transaction.Sequencer
