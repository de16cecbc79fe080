import TxnCoord.Proofs.World.Steps
/-!
# The laws of the ticket sequencer

A sequencer serves its tickets in the order they were issued. `serving` is the lowest
ticket that has not finished, and the finished tickets above it are kept in increasing
order (`Sequencer.Valid`). Finishing a ticket finishes exactly that one and moves `serving`
past the finished tickets that follow it without a gap (`Sequencer.release_finished_iff`);
issuing one finishes nothing. So the books only move on (`Sequencer.Advances`): the next
number and the finished tickets never go back, and neither does the ticket served.

A ticket that has not finished is served as soon as every lower ticket has finished
(`Sequencer.Valid.serving_eq_of_finished_below`). A ticket is finished whether its request
ran or was given up, and the scheduler gives up the tickets of a dropped fiber when it
releases what the fiber's owner held (`World.finished_releaseOwner`): a request that never
went out holds up none of the ones after it.

    (∀ m < k, s.Finished m) → ¬ s.Finished k → s.serving = k
                                            (Sequencer.Valid.serving_eq_of_finished_below)
-/

namespace TxnCoord

namespace Transaction.Sequencer

/-- A ticket has finished: it lies below the one served, or finished above it. -/
def Finished (s : Sequencer) (n : Nat) : Prop := n < s.serving ∨ n ∈ s.finished

instance (s : Sequencer) (n : Nat) : Decidable (s.Finished n) :=
  inferInstanceAs (Decidable (_ ∨ _))

/-- The books of a sequencer are in order: the finished tickets above the one served are
kept increasing, and the one served has not finished. -/
structure Valid (s : Sequencer) : Prop where
  sorted : s.finished.Pairwise (· < ·)
  serving_not_mem : s.serving ∉ s.finished

instance (s : Sequencer) : Decidable s.Valid :=
  decidable_of_iff (s.finished.Pairwise (· < ·) ∧ s.serving ∉ s.finished)
    ⟨fun h => ⟨h.1, h.2⟩, fun h => ⟨h.1, h.2⟩⟩

theorem valid_empty : ({} : Sequencer).Valid := ⟨.nil, List.not_mem_nil⟩

theorem isTurn_iff (s : Sequencer) (n : Nat) : s.isTurn n = true ↔ s.serving = n := by
  simp [isTurn]

theorem pairwise_insertSorted (n : Nat) {xs : List Nat} (h : xs.Pairwise (· < ·)) :
    (insertSorted n xs).Pairwise (· < ·) := by
  induction xs with
  | nil => exact List.pairwise_singleton _ _
  | cons x rest ih =>
    obtain ⟨hx, hrest⟩ := List.pairwise_cons.1 h
    simp only [insertSorted]
    split
    next hnx =>
      refine List.pairwise_cons.2 ⟨fun y hy => ?_, h⟩
      rcases List.mem_cons.1 hy with rfl | hy
      · exact hnx
      · exact Nat.lt_trans hnx (hx y hy)
    next hnx =>
      split
      · exact h
      next hne =>
        refine List.pairwise_cons.2 ⟨fun y hy => ?_, ih hrest⟩
        rcases (mem_insertSorted n y rest).1 hy with rfl | hy
        · omega
        · exact hx y hy

/-- Moving past finished tickets keeps which tickets have finished, and stops at the first
one that has not. -/
theorem advance_spec (serving : Nat) (finished : List Nat) (h : finished.Pairwise (· < ·)) :
    (advance serving finished).1 ∉ (advance serving finished).2 ∧
    (advance serving finished).2.Pairwise (· < ·) ∧
    ∀ m, (m < (advance serving finished).1 ∨ m ∈ (advance serving finished).2) ↔
      (m < serving ∨ m ∈ finished) := by
  fun_induction advance serving finished with
  | case1 sv fin hmem _ ih =>
    have hnd : fin.Nodup := h.imp Nat.ne_of_lt
    obtain ⟨h₁, h₂, h₃⟩ := ih (h.sublist (List.erase_sublist ..))
    refine ⟨h₁, h₂, fun m => ?_⟩
    -- the ticket moved past leaves the list and joins those below the one served
    rw [h₃, hnd.mem_erase_iff]
    constructor
    · rintro (hm | ⟨-, hm⟩)
      · by_cases hms : m = sv
        · exact .inr (hms ▸ hmem)
        · exact .inl (by omega)
      · exact .inr hm
    · rintro (hm | hm)
      · exact .inl (by omega)
      · by_cases hms : m = sv
        · exact .inl (by omega)
        · exact .inr ⟨hms, hm⟩
  | case2 sv fin hmem => exact ⟨hmem, h, fun _ => Iff.rfl⟩

section Laws

variable {s : Sequencer}

theorem Valid.release (hs : s.Valid) (n : Nat) : (s.release n).Valid := by
  obtain ⟨h₁, h₂, -⟩ := advance_spec s.serving (insertSorted n s.finished)
    (pairwise_insertSorted n hs.sorted)
  exact ⟨h₂, h₁⟩

/-- Finishing a ticket finishes exactly that ticket. -/
theorem release_finished_iff (hs : s.Valid) (n m : Nat) :
    (s.release n).Finished m ↔ s.Finished m ∨ m = n := by
  have h₃ := (advance_spec s.serving (insertSorted n s.finished)
    (pairwise_insertSorted n hs.sorted)).2.2 m
  simp only [Finished, Sequencer.release]
  rw [h₃, mem_insertSorted]
  constructor
  · rintro (hm | rfl | hm)
    · exact .inl (.inl hm)
    · exact .inr rfl
    · exact .inl (.inr hm)
  · rintro ((hm | hm) | rfl)
    · exact .inl hm
    · exact .inr (.inr hm)
    · exact .inr (.inl rfl)

/-- The ticket served is the lowest that has not finished. -/
theorem Valid.not_finished_serving (hs : s.Valid) : ¬ s.Finished s.serving := by
  rintro (h | h)
  · exact Nat.lt_irrefl _ h
  · exact hs.serving_not_mem h

/-- Once every ticket below `k` has finished, ticket `k` or a later one is served. -/
theorem Valid.le_serving (hs : s.Valid) {k : Nat} (hk : ∀ m, m < k → s.Finished m) :
    k ≤ s.serving :=
  Nat.le_of_not_lt fun hlt => hs.not_finished_serving (hk s.serving hlt)

/-- A ticket that has not finished is served as soon as every lower one has finished. -/
theorem Valid.serving_eq_of_finished_below (hs : s.Valid) {k : Nat}
    (hk : ∀ m, m < k → s.Finished m) (hnk : ¬ s.Finished k) : s.serving = k := by
  have hle := hs.le_serving hk
  have hge : s.serving ≤ k := Nat.le_of_not_lt fun hlt => hnk (.inl hlt)
  omega

end Laws

/-- How the books of a sequencer may move on: they stay in order, the next number never
goes back, and a finished ticket stays finished. -/
structure Advances (s s' : Sequencer) : Prop where
  valid : s'.Valid
  next_le : s.next ≤ s'.next
  finished : ∀ m, s.Finished m → s'.Finished m

namespace Advances

variable {a b c : Sequencer}

theorem refl (ha : a.Valid) : a.Advances a := ⟨ha, Nat.le_refl _, fun _ h => h⟩

theorem trans (h₁ : a.Advances b) (h₂ : b.Advances c) : a.Advances c :=
  ⟨h₂.valid, Nat.le_trans h₁.next_le h₂.next_le, fun m h => h₂.finished m (h₁.finished m h)⟩

/-- The ticket served never goes back: every ticket below it stays finished. -/
theorem serving_le (h : a.Advances b) : a.serving ≤ b.serving :=
  h.valid.le_serving fun m hm => h.finished m (.inl hm)

end Advances

theorem advances_release {s : Sequencer} (hs : s.Valid) (n : Nat) : s.Advances (s.release n) :=
  ⟨hs.release n, Nat.le_refl _, fun m hm => (release_finished_iff hs n m).2 (.inl hm)⟩

theorem advances_issue {s : Sequencer} (hs : s.Valid) : s.Advances s.issue.2 :=
  ⟨⟨hs.sorted, hs.serving_not_mem⟩, Nat.le_succ _, fun _ h => h⟩

end Transaction.Sequencer

namespace World

open Transaction

theorem tickets_releaseTicket (w : World) (h n i : Nat) :
    ((w.releaseTicket h n).handle i).tickets =
      if h = i ∧ i < w.handles.size then (w.handle i).tickets.release n
      else (w.handle i).tickets := by
  show ((w.modifyHandle h _).handle i).tickets = _
  rw [handle_modifyHandle]
  split <;> rfl

theorem size_give (w : World) (x : Hold) : (w.give x).handles.size = w.handles.size := by
  cases x with
  | pending h => exact Array.size_modify ..
  | ticket h n => exact Array.size_modify ..
  | lock m => exact congrArg Array.size (handles_unlock w m)
  | unitRef u => exact congrArg Array.size (handles_letGoUnit w u)

/-- Giving a resource back moves every sequencer's books on. -/
theorem advances_give (w : World) (i : Nat) (hv : (w.handle i).tickets.Valid) (x : Hold) :
    (w.handle i).tickets.Advances ((w.give x).handle i).tickets := by
  cases x with
  | pending h =>
    have he : ((w.give (.pending h)).handle i).tickets = (w.handle i).tickets :=
      (handle_rel_modifyHandle (fun a b => b.tickets = a.tickets) (fun _ => rfl) w h _ rfl i)
    rw [he]
    exact Sequencer.Advances.refl hv
  | ticket h n =>
    show (w.handle i).tickets.Advances ((w.releaseTicket h n).handle i).tickets
    rw [tickets_releaseTicket]
    split
    · exact Sequencer.advances_release hv n
    · exact Sequencer.Advances.refl hv
  | lock m =>
    show (w.handle i).tickets.Advances ((w.unlock m).handles[i]?.getD default).tickets
    rw [handles_unlock]
    exact Sequencer.Advances.refl hv
  | unitRef u =>
    show (w.handle i).tickets.Advances ((w.letGoUnit u).handles[i]?.getD default).tickets
    rw [handles_letGoUnit]
    exact Sequencer.Advances.refl hv

/-- Giving back a list of resources, in order, moves every sequencer's books on and
finishes every ticket on the list. -/
theorem advances_giveAll (i : Nat) (xs : List (Nat × Hold)) :
    ∀ w : World, (w.handle i).tickets.Valid →
      (w.handle i).tickets.Advances ((xs.foldl (fun w e => w.give e.2) w).handle i).tickets ∧
      ∀ o n, i < w.handles.size → (o, Hold.ticket i n) ∈ xs →
        ((xs.foldl (fun w e => w.give e.2) w).handle i).tickets.Finished n := by
  induction xs with
  | nil => exact fun w hv => ⟨Sequencer.Advances.refl hv, fun _ _ _ hx => nomatch hx⟩
  | cons x rest ih =>
    intro w hv
    have hx := w.advances_give i hv x.2
    obtain ⟨hrest, hfin⟩ := ih (w.give x.2) hx.valid
    refine ⟨hx.trans hrest, fun o n hi hmem => ?_⟩
    rcases List.mem_cons.1 hmem with rfl | hmem
    · -- the ticket given back here stays finished while the rest is given back
      refine hrest.finished n ?_
      show ((w.releaseTicket i n).handle i).tickets.Finished n
      rw [tickets_releaseTicket, if_pos ⟨rfl, hi⟩]
      exact (Sequencer.release_finished_iff hv n n).2 (.inr rfl)
    · exact hfin o n ((w.size_give x.2).symm ▸ hi) hmem

/-- Releasing what an owner held moves every sequencer's books on. -/
theorem advances_releaseOwner (w : World) (i : Nat) (hv : (w.handle i).tickets.Valid) (o : Nat) :
    (w.handle i).tickets.Advances ((w.releaseOwner o).handle i).tickets :=
  (advances_giveAll i _ { w with holds := w.holds.filter (·.1 != o) } hv).1

/-- Releasing what an owner held finishes every ticket it held, so none of them holds up a
later request. -/
theorem finished_releaseOwner (w : World) {o h n : Nat} (hv : (w.handle h).tickets.Valid)
    (hh : h < w.handles.size) (hn : (o, Hold.ticket h n) ∈ w.holds) :
    ((w.releaseOwner o).handle h).tickets.Finished n := by
  have hmem : (o, Hold.ticket h n) ∈ (w.holds.filter (·.1 == o)).reverse := by
    simp [hn]
  exact (advances_giveAll h _ { w with holds := w.holds.filter (·.1 != o) } hv).2 o n hh hmem

/-- The turn of a ticket comes once every lower ticket has finished, whether its request ran
or was given up. -/
theorem host_turn_of_finished_below (w : World) {h k : Nat} (hv : (w.handle h).tickets.Valid)
    (hk : ∀ m, m < k → (w.handle h).tickets.Finished m) (hnk : ¬ (w.handle h).tickets.Finished k) :
    World.host.holds (.turn h k) w = true :=
  (Sequencer.isTurn_iff _ k).2 (hv.serving_eq_of_finished_below hk hnk)

end World

end TxnCoord
