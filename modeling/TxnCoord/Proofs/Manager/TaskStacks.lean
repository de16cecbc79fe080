import TxnCoord.Proofs.Manager.Footprint
import TxnCoord.Proofs.Fiber.Alone
import TxnCoord.Simulation.Session
/-!
# Each task its own stack

A manager keeps a stack of scopes for every task that uses it, made on the task's first use
and listed under the task in `byTask`, and one detached stack for code outside any task
(task 0). Code can also run inside a block with a stack installed for a manager
(`Step.withContext`); installed stacks are kept per task, innermost first.

* The stack the running code has for manager `m` (`World.stackOf`) is the one installed
  around it for `m`, if any, whatever the task; else, outside any task, the detached stack;
  else the task's own, once made. `contextOf m` gives that stack, and for a task that has
  none yet makes a new, empty one that is its stack from then on (`contextOf_alone`).
* `World.TasksApart m` says that no two tasks have the same stack, none has the detached one,
  and all were made. `World.KeepsTasks m` says how the stacks may change: the detached stack
  stays, and stacks are only added for tasks, never dropped. Every call of `contextOf`, every
  block whose code keeps to that and the scheduler keep to it, so every run does
  (`taskRules`), and each session starts with its stacks apart.
* Installing a stack for `m` changes what the block finds for `m` only, in the running task
  only; a task started inside starts inside the innermost installed map, and leaving the block
  gives every task back what was installed before.

    s.stackOf m = some c → KeepsTasks m s s' → … → s'.stackOf m = some c
    TasksApart m s → s.taskStack m t₁ = some c → s.taskStack m t₂ = some c → t₁ = t₂
-/

namespace TxnCoord

namespace World

/-! ## A task's own stack -/

/-- The stack that manager `m` made for task `t`, if it made one. -/
def taskStack (w : World) (m t : Nat) : Option Nat := (w.manager m).byTask.lookup t

/-- Manager `m` keeps its stacks apart: no two tasks share a stack, no task has the detached
stack, and every stack it names has been made. -/
structure TasksApart (m : Nat) (w : World) : Prop where
  tasks : ∀ t₁ t₂ c, w.taskStack m t₁ = some c → w.taskStack m t₂ = some c → t₁ = t₂
  detached : ∀ t c, w.taskStack m t = some c → c ≠ (w.manager m).detached
  made_detached : (w.manager m).detached < w.contexts.size
  made : ∀ t c, w.taskStack m t = some c → c < w.contexts.size

/-- How manager `m`'s stacks may change: the detached stack stays, stacks for tasks are only
added, never dropped, and kept apart. -/
structure KeepsTasks (m : Nat) (s s' : World) : Prop where
  detached : (s'.manager m).detached = (s.manager m).detached
  grows : (s.manager m).byTask <+: (s'.manager m).byTask
  apart : TasksApart m s → TasksApart m s'

namespace KeepsTasks

variable {m : Nat}

theorem refl (s : World) : KeepsTasks m s s := ⟨rfl, List.prefix_refl _, id⟩

theorem trans {a b c : World} (h₁ : KeepsTasks m a b) (h₂ : KeepsTasks m b c) : KeepsTasks m a c :=
  ⟨h₂.detached.trans h₁.detached, h₁.grows.trans h₂.grows, h₂.apart ∘ h₁.apart⟩

/-- A task keeps the stack it was given. -/
theorem taskStack {s s' : World} (hk : KeepsTasks m s s') {t c : Nat} (ht : s.taskStack m t = some c) :
    s'.taskStack m t = some c := by
  obtain ⟨more, hmore⟩ := hk.grows
  unfold World.taskStack at ht ⊢
  rw [← hmore, List.lookup_append, ht]
  rfl

end KeepsTasks

/-- A change that keeps manager `m`'s detached stack and its stacks for tasks, and drops no
stack, keeps its stacks. -/
theorem keepsTasks_of_manager {m : Nat} {s s' : World}
    (hd : (s'.manager m).detached = (s.manager m).detached)
    (hb : (s'.manager m).byTask = (s.manager m).byTask)
    (hc : s.contexts.size ≤ s'.contexts.size) : KeepsTasks m s s' where
  detached := hd
  grows := hb ▸ List.prefix_refl _
  apart ha := by
    have hts : ∀ t, s'.taskStack m t = s.taskStack m t := fun t => by
      unfold World.taskStack
      rw [hb]
    refine ⟨fun t₁ t₂ c h₁ h₂ => ha.tasks t₁ t₂ c ((hts t₁) ▸ h₁) ((hts t₂) ▸ h₂),
      fun t c h => hd ▸ ha.detached t c ((hts t) ▸ h), ?_, fun t c h => ?_⟩
    · rw [hd]
      exact Nat.lt_of_lt_of_le ha.made_detached hc
    · exact Nat.lt_of_lt_of_le (ha.made t c ((hts t) ▸ h)) hc

/-- A change that touches neither the managers nor the stacks keeps every manager's stacks. -/
theorem keepsTasks_of_same {m : Nat} {s s' : World} (hm : s'.managers = s.managers)
    (hc : s'.contexts = s.contexts) : KeepsTasks m s s' :=
  have hman : s'.manager m = s.manager m := by
    unfold World.manager
    rw [hm]
  keepsTasks_of_manager (by rw [hman]) (by rw [hman]) (Nat.le_of_eq (by rw [hc]))

theorem manager_modifyManager (w : World) (i j : Nat) (f : Manager → Manager) :
    (w.modifyManager i f).manager j =
      if i = j ∧ j < w.managers.size then f (w.manager j) else w.manager j := by
  simp only [World.manager, World.modifyManager, Array.getElem?_modify]
  by_cases hij : i = j
  · subst hij
    by_cases hs : i < w.managers.size
    · simp [hs]
    · simp [hs]
  · simp [hij]

/-- Looking up a task in a map with one more entry at the end: the old entry if there was one,
else the new one if it is for this task. -/
theorem lookup_concat_eq_some {l : List (Nat × Nat)} {t x c c' : Nat} :
    (l ++ [(t, c')]).lookup x = some c ↔ l.lookup x = some c ∨ (l.lookup x = none ∧ x = t ∧ c = c') := by
  rw [List.lookup_append]
  cases hl : l.lookup x with
  | some c₀ => simp
  | none =>
    by_cases hx : x = t
    · subst hx
      simp [eq_comm]
    · have hne : (x == t) = false := beq_false_of_ne hx
      simp [List.lookup_cons, hne, hx]

/-- Making a stack for a task: a new stack, after every other, goes to the task, whose lookup
finds it only if it had none. -/
theorem keepsTasks_first (s : World) (m t : Nat) :
    KeepsTasks m s ((s.newContext.2).modifyManager m fun mg =>
      { mg with byTask := mg.byTask ++ [(t, s.contexts.size)] }) := by
  have hsize : ((s.newContext.2).modifyManager m fun mg =>
      { mg with byTask := mg.byTask ++ [(t, s.contexts.size)] }).contexts.size = s.contexts.size + 1 := by
    simp [World.newContext, World.modifyManager]
  by_cases hm : m < s.managers.size
  · have hman : ((s.newContext.2).modifyManager m fun mg =>
        { mg with byTask := mg.byTask ++ [(t, s.contexts.size)] }).manager m =
          { s.manager m with byTask := (s.manager m).byTask ++ [(t, s.contexts.size)] } := by
      rw [World.manager_modifyManager, if_pos ⟨rfl, hm⟩]
      rfl
    have hts : ∀ x c, World.taskStack ((s.newContext.2).modifyManager m fun mg =>
        { mg with byTask := mg.byTask ++ [(t, s.contexts.size)] }) m x = some c ↔
          s.taskStack m x = some c ∨ (s.taskStack m x = none ∧ x = t ∧ c = s.contexts.size) := by
      intro x c
      unfold World.taskStack
      rw [hman]
      exact lookup_concat_eq_some
    refine ⟨by rw [hman], by rw [hman]; exact List.prefix_append _ _, fun ha => ?_⟩
    refine ⟨fun t₁ t₂ c h₁ h₂ => ?_, fun x c h => ?_, ?_, fun x c h => ?_⟩
    · -- an old stack was made before the new one, so it is not the new one
      rcases (hts t₁ c).1 h₁ with h₁ | ⟨-, ht₁, hc₁⟩ <;> rcases (hts t₂ c).1 h₂ with h₂ | ⟨-, ht₂, hc₂⟩
      · exact ha.tasks t₁ t₂ c h₁ h₂
      · have := ha.made t₁ c h₁
        omega
      · have := ha.made t₂ c h₂
        omega
      · exact ht₁.trans ht₂.symm
    · rw [hman]
      rcases (hts x c).1 h with h | ⟨-, -, hc⟩
      · exact ha.detached x c h
      · rw [hc]
        exact Nat.ne_of_gt ha.made_detached
    · rw [hman, hsize]
      exact Nat.lt_succ_of_lt ha.made_detached
    · rw [hsize]
      rcases (hts x c).1 h with h | ⟨-, -, hc⟩
      · exact Nat.lt_succ_of_lt (ha.made x c h)
      · rw [hc]
        exact Nat.lt_succ_self _
  · -- a manager that does not exist is not changed
    have hman : ((s.newContext.2).modifyManager m fun mg =>
        { mg with byTask := mg.byTask ++ [(t, s.contexts.size)] }).manager m = s.manager m := by
      rw [World.manager_modifyManager, if_neg fun h => hm h.2]
      rfl
    exact keepsTasks_of_manager (by rw [hman]) (by rw [hman]) (by rw [hsize]; exact Nat.le_succ _)

/-- A task without a stack has the new one once it is made. -/
theorem taskStack_first (s : World) {m : Nat} (hm : m < s.managers.size) {t : Nat}
    (h : s.taskStack m t = none) :
    ((s.newContext.2).modifyManager m fun mg =>
      { mg with byTask := mg.byTask ++ [(t, s.contexts.size)] }).taskStack m t = some s.contexts.size := by
  unfold World.taskStack
  rw [World.manager_modifyManager, if_pos ⟨rfl, hm⟩]
  exact lookup_concat_eq_some.2 (.inr ⟨h, rfl, rfl⟩)

/-- Making a stack for a task for one manager leaves every other manager's stacks. -/
theorem keepsTasks_first_other (s : World) {m m' : Nat} (hne : m ≠ m') (t : Nat) :
    KeepsTasks m' s ((s.newContext.2).modifyManager m fun mg =>
      { mg with byTask := mg.byTask ++ [(t, s.contexts.size)] }) := by
  have hman : ((s.newContext.2).modifyManager m fun mg =>
      { mg with byTask := mg.byTask ++ [(t, s.contexts.size)] }).manager m' = s.manager m' := by
    rw [World.manager_modifyManager, if_neg fun h => hne h.1]
    rfl
  refine keepsTasks_of_manager (by rw [hman]) (by rw [hman]) ?_
  simp [World.newContext, World.modifyManager]

/-- A new stack is empty. -/
theorem context_newContext (w : World) : (w.newContext.2.context w.contexts.size).records = [] := by
  simp [World.newContext, World.context]

/-- Giving a resource back touches neither a manager nor a stack. -/
theorem give_books (w : World) (x : Hold) :
    (w.give x).managers = w.managers ∧ (w.give x).contexts = w.contexts := by
  cases x with
  | lock m =>
    -- handing the lock on or freeing it changes the lock, the wakes and the holds
    show (w.unlock m).managers = w.managers ∧ (w.unlock m).contexts = w.contexts
    unfold World.unlock
    constructor <;> split <;> rfl
  | unitRef u => cases u <;> exact ⟨rfl, rfl⟩
  | _ => exact ⟨rfl, rfl⟩

/-! ## The stack the running code has -/

/-- The stack installed for manager `m` around the code that task `t` runs, if any. -/
def installedFor (w : World) (t m : Nat) : Option Nat := (w.overrideMap t).bind (·.lookup m)

/-- The stack that manager `m` uses for the running code, if it has one yet: the one installed
around the code, else outside any task the detached stack, else the task's own. -/
def stackOf (w : World) (m : Nat) : Option Nat :=
  (w.installedFor w.task m).or
    (if w.task = 0 then some (w.manager m).detached else w.taskStack m w.task)

@[simp] theorem stackOf_wakes (w : World) (l : List Nat) (m : Nat) :
    ({ w with wakes := l } : World).stackOf m = w.stackOf m := rfl

theorem stackOf_installed {w : World} {m c : Nat} (h : w.installedFor w.task m = some c) :
    w.stackOf m = some c := by
  rw [stackOf, h, Option.some_or]

theorem stackOf_detached {w : World} {m : Nat} (h : w.installedFor w.task m = none)
    (ht : w.task = 0) : w.stackOf m = some (w.manager m).detached := by
  rw [stackOf, h, Option.none_or, if_pos ht]

theorem stackOf_task {w : World} {m : Nat} (h : w.installedFor w.task m = none)
    (ht : w.task ≠ 0) : w.stackOf m = w.taskStack m w.task := by
  rw [stackOf, h, Option.none_or, if_neg ht]

/-- The code of one task keeps the stack it has for a manager while the stacks installed around
it stay and the manager's stacks are kept. -/
theorem stackOf_of_keepsTasks {m c : Nat} {s s' : World} (hc : s.stackOf m = some c)
    (ht : s'.task = s.task) (hi : s'.installedFor s.task m = s.installedFor s.task m)
    (hk : KeepsTasks m s s') : s'.stackOf m = some c := by
  cases hs : s.installedFor s.task m with
  | some c₀ =>
    have hi' : s'.installedFor s'.task m = some c₀ := by rw [ht, hi, hs]
    rw [stackOf_installed hi']
    rw [stackOf_installed hs] at hc
    exact hc
  | none =>
    have hi' : s'.installedFor s'.task m = none := by rw [ht, hi, hs]
    by_cases h0 : s.task = 0
    · rw [stackOf_detached hi' (ht.trans h0), hk.detached]
      rw [stackOf_detached hs h0] at hc
      exact hc
    · rw [stackOf_task hi' (ht ▸ h0), ht]
      rw [stackOf_task hs h0] at hc
      exact hk.taskStack hc

/-- Two calls, at two times, from tasks that use their own stacks, that get the same stack
come from the same task. -/
theorem task_eq_of_stackOf {m c : Nat} {s₁ s₂ : World} (hk : KeepsTasks m s₁ s₂)
    (ha : TasksApart m s₂) (h₁ : s₁.installedFor s₁.task m = none)
    (h₂ : s₂.installedFor s₂.task m = none) (ht₁ : s₁.task ≠ 0) (ht₂ : s₂.task ≠ 0)
    (hc₁ : s₁.stackOf m = some c) (hc₂ : s₂.stackOf m = some c) : s₁.task = s₂.task := by
  rw [stackOf_task h₁ ht₁] at hc₁
  rw [stackOf_task h₂ ht₂] at hc₂
  exact ha.tasks _ _ c (hk.taskStack hc₁) hc₂

/-- The stack of a task is never the detached one. -/
theorem stackOf_ne_detached {m c : Nat} {s : World} (ha : TasksApart m s)
    (h : s.installedFor s.task m = none) (ht : s.task ≠ 0) (hc : s.stackOf m = some c) :
    c ≠ (s.manager m).detached := by
  rw [stackOf_task h ht] at hc
  exact ha.detached _ c hc

/-! ## Stacks installed around code -/

/-- The override maps installed around the code that task `t` runs, innermost first. -/
def installed (w : World) (t : Nat) : List (List (Nat × Nat)) :=
  ((w.overrides.find? (·.1 == t)).map (·.2)).getD []

theorem overrideMap_eq_head (w : World) (t : Nat) : w.overrideMap t = (w.installed t).head? := by
  unfold overrideMap installed
  cases w.overrides.find? (·.1 == t) <;> rfl

theorem installed_setOverrides (w : World) (t t' : Nat) (stack : List (List (Nat × Nat))) :
    (w.setOverrides t stack).installed t' = if t' = t then stack else w.installed t' := by
  unfold installed setOverrides
  by_cases h : t' = t
  · subst h
    simp
  · have hne : (t == t') = false := beq_false_of_ne (Ne.symm h)
    -- a task other than `t` finds its entry whether or not `t`'s are filtered out
    have hfind : (w.overrides.filter (·.1 != t)).find? (·.1 == t') = w.overrides.find? (·.1 == t') := by
      rw [List.find?_filter]
      congr 1
      funext x
      by_cases hx : x.1 = t'
      · simp [hx, h]
      · simp [hx]
    simp only [List.find?_cons, hne, hfind, if_neg h]

/-- Installs a stack for a manager around the code the running task runs next. -/
def enterContext (m ctx : Nat) (w : World) : World :=
  w.setOverrides w.task
    (((m, ctx) :: ((w.installed w.task).head?.getD []).filter (·.1 != m)) :: w.installed w.task)

/-- Takes the innermost installed override map of the running task off. -/
def leaveContext (w : World) : World := w.setOverrides w.task ((w.installed w.task).drop 1)

theorem lookup_filter_ne {l : List (Nat × Nat)} {m m' : Nat} (h : m' ≠ m) :
    (l.filter (·.1 != m)).lookup m' = l.lookup m' := by
  induction l with
  | nil => rfl
  | cons x rest ih =>
    obtain ⟨k, v⟩ := x
    by_cases hk : k = m
    · subst hk
      have hne : (m' == k) = false := beq_false_of_ne h
      simp [List.lookup_cons, hne, ih]
    · by_cases hk' : m' = k
      · subst hk'
        simp [hk]
      · have hne : (m' == k) = false := beq_false_of_ne hk'
        simp [List.lookup_cons, hne, hk, ih]

/-- Installing a stack for manager `m` installs it for `m` only: every other manager keeps the
stack installed for it before, if any. -/
theorem installedFor_enterContext (w : World) (m ctx m' : Nat) :
    (w.enterContext m ctx).installedFor w.task m' =
      if m' = m then some ctx else w.installedFor w.task m' := by
  unfold installedFor
  rw [overrideMap_eq_head, overrideMap_eq_head, enterContext, installed_setOverrides, if_pos rfl]
  by_cases h : m' = m
  · subst h
    simp
  · have hne : (m' == m) = false := beq_false_of_ne h
    rw [if_neg h]
    simp only [List.head?_cons, Option.bind_some, List.lookup_cons, hne, lookup_filter_ne h]
    cases (w.installed w.task).head? <;> rfl

/-- Installing a stack is seen by the running task only. -/
theorem installed_enterContext_other (w : World) (m ctx : Nat) {t : Nat} (ht : t ≠ w.task) :
    (w.enterContext m ctx).installed t = w.installed t := by
  rw [enterContext, installed_setOverrides, if_neg ht]

/-- Leaving what was entered, by the task that entered it and with nothing else installed or
taken off since, gives every task back the stacks installed for it before. -/
theorem installed_leave {w x : World} {m ctx : Nat} (hx : x.overrides = (w.enterContext m ctx).overrides)
    (ht : x.task = w.task) (t : Nat) : x.leaveContext.installed t = w.installed t := by
  have hsame : ∀ t', x.installed t' = (w.enterContext m ctx).installed t' := fun t' => by
    unfold installed
    rw [hx]
  rw [leaveContext, installed_setOverrides, ht]
  by_cases h : t = w.task
  · rw [if_pos h, h, hsame, enterContext, installed_setOverrides, if_pos rfl]
    rfl
  · rw [if_neg h, hsame, installed_enterContext_other w m ctx h]

/-- A task started from code with stacks installed around it starts inside the innermost of them. -/
theorem installed_spawned (w : World) {p c : Nat} (hc : w.installed c = []) :
    (World.host.spawned p c w).overrideMap c = w.overrideMap p := by
  simp only [World.host]
  split
  · rename_i mp hmp
    rw [overrideMap_eq_head, installed_setOverrides, if_pos rfl, hmp]
    rfl
  · rename_i hnone
    rw [hnone, overrideMap_eq_head, hc]
    rfl

/-! ## Sessions start with their stacks apart -/

/-- A manager added to the world comes with its own detached stack and no stack for a task;
the managers already there keep theirs. -/
theorem tasksApart_addManager {w : World} (p : Simulation.ManagerPlan)
    (hw : ∀ m < w.managers.size, TasksApart m w) :
    ∀ m < (Simulation.addManager w p).managers.size, TasksApart m (Simulation.addManager w p) := by
  intro m hm
  have hsize : (Simulation.addManager w p).managers.size = w.managers.size + 1 := by
    simp [Simulation.addManager, World.newContext, World.newLock]
  have hctx : (Simulation.addManager w p).contexts.size = w.contexts.size + 1 := by
    simp [Simulation.addManager, World.newContext, World.newLock]
  by_cases hold : m < w.managers.size
  · -- an old manager is as it was, and the stacks only grew
    have hman : (Simulation.addManager w p).manager m = w.manager m := by
      simp [Simulation.addManager, World.newContext, World.newLock, World.manager,
        Array.getElem?_push, Nat.ne_of_lt hold]
    exact (keepsTasks_of_manager (by rw [hman]) (by rw [hman]) (by rw [hctx]; exact Nat.le_succ _)).apart
      (hw m hold)
  · have hnew : m = w.managers.size := by omega
    subst hnew
    have hman : ((Simulation.addManager w p).manager w.managers.size).detached = w.contexts.size ∧
        ((Simulation.addManager w p).manager w.managers.size).byTask = [] := by
      simp [Simulation.addManager, World.newContext, World.newLock, World.manager]
    have hnone : ∀ t, (Simulation.addManager w p).taskStack w.managers.size t = none := fun t => by
      unfold taskStack
      rw [hman.2]
      rfl
    refine ⟨fun t₁ _ c h₁ _ => ?_, fun t c h => ?_, ?_, fun t c h => ?_⟩
    · rw [hnone t₁] at h₁
      cases h₁
    · rw [hnone t] at h
      cases h
    · rw [hman.1, hctx]
      exact Nat.lt_succ_self _
    · rw [hnone t] at h
      cases h

/-- Every manager of a session's world starts with its stacks apart. -/
theorem tasksApart_addManagers (plans : List Simulation.ManagerPlan) :
    ∀ (w : World), (∀ m < w.managers.size, TasksApart m w) →
      ∀ m < (plans.foldl Simulation.addManager w).managers.size,
        TasksApart m (plans.foldl Simulation.addManager w) := by
  induction plans with
  | nil => exact fun _ hw => hw
  | cons p rest ih => exact fun w hw => ih _ (tasksApart_addManager p hw)

end World

namespace Step

/-- Code run with a stack installed for a manager: the stack is installed, the code runs, and
the innermost installed map is taken off again. -/
theorem withContext_eq {α : Type} (m ctx : Nat) (x : Step α) :
    Step.withContext m ctx x =
      (do Step.change (World.enterContext m ctx); let a ← x; Step.change World.leaveContext; pure a) :=
  rfl

end Step

/-- Every step keeps manager `m`'s stacks apart and drops none of them, and so does whatever
other tasks do and the scheduler's bookkeeping. -/
def taskRules (m : Nat) : Rules World Cond :=
  ⟨World.KeepsTasks m, World.KeepsTasks m, World.KeepsTasks m, fun _ _ => True⟩

theorem taskRules_lawful (m : Nat) : (taskRules m).Lawful where
  rely_refl := World.KeepsTasks.refl
  rely_trans _ _ _ := World.KeepsTasks.trans
  sched_refl := World.KeepsTasks.refl
  sched_trans _ _ _ := World.KeepsTasks.trans
  guar_refl := World.KeepsTasks.refl
  sched_rely _ _ h := h
  guar_rely _ _ h := h

/-- The scheduler's bookkeeping, giving back what an owner held included, touches neither a
manager nor a stack. -/
theorem World.host_keeps_taskRules (m : Nat) : World.host.Keeps (taskRules m) where
  listen c t s := by
    cases c with
    | turn h n => exact World.keepsTasks_of_same rfl rfl
    | granted l o => exact World.keepsTasks_of_same rfl rfl
  forget t s := World.keepsTasks_of_same rfl rfl
  release o s :=
    have hbooks := World.rel_releaseOwner (fun s s' => s'.managers = s.managers ∧ s'.contexts = s.contexts)
      (fun _ _ => ⟨rfl, rfl⟩) (fun _ _ _ h₁ h₂ => ⟨h₂.1.trans h₁.1, h₂.2.trans h₁.2⟩)
      World.give_books s o
    World.keepsTasks_of_same hbooks.1 hbooks.2
  takeWakes s := World.keepsTasks_of_same rfl rfl
  fresh s := World.keepsTasks_of_same rfl rfl
  enter t o n s := World.keepsTasks_of_same rfl rfl
  spawned p c s := by
    simp only [World.host]
    split <;> exact World.keepsTasks_of_same rfl rfl
  holds _ _ _ := trivial

namespace Manager

/-- Finding the stack of the running code keeps every manager's stacks apart: the only stack
it makes is new, and goes to a task that had none. -/
theorem contextOf_keepsTasks (m m' : Nat) : KeepsFrame (World.KeepsTasks m') (contextOf m) := by
  unfold contextOf
  refine KeepsFrame.bind KeepsFrame.read fun w => ?_
  split
  · exact KeepsFrame.pure _
  · split
    · exact KeepsFrame.pure _
    · split
      · exact KeepsFrame.pure _
      · refine KeepsFrame.modifyGet fun s => ?_
        by_cases hm : m = m'
        · subst hm
          exact World.keepsTasks_first s m s.task
        · exact World.keepsTasks_first_other s hm s.task

variable {t : Nat}

/-- Finding the stack of the running code, in a world that has manager `m`, runs at once and
gives the stack the code has for `m`, which it has from then on; where the code has none yet,
it is a task that gets a new, empty stack. No other stack, installed stack or task changes. -/
theorem contextOf_alone {m : Nat} {s : World} (hm : m < s.managers.size) :
    Alone World.host t (fun a => a.state = s) (contextOf m) fun c a =>
      a.state.stackOf m = some c ∧ a.state.task = s.task ∧ a.state.overrides = s.overrides ∧
      (∀ m', World.KeepsTasks m' s a.state) ∧
      (s.stackOf m = some c ∨
        (s.stackOf m = none ∧ c = s.contexts.size ∧ (a.state.context c).records = [])) := by
  unfold contextOf
  refine Alone.bind (Alone.get_world (· = s)) fun w => Alone.of_fact fun hw => ?_
  subst hw
  -- a read that makes nothing leaves the world as it was, wakes apart
  have hsame : ∀ c, w.stackOf m = some c → Alone World.host t (fun a => a.state = { w with wakes := [] })
      (Pure.pure c : Step Nat) fun c' a =>
        a.state.stackOf m = some c' ∧ a.state.task = w.task ∧ a.state.overrides = w.overrides ∧
        (∀ m', World.KeepsTasks m' w a.state) ∧
        (w.stackOf m = some c' ∨
          (w.stackOf m = none ∧ c' = w.contexts.size ∧ (a.state.context c').records = [])) :=
    fun c hc => Alone.pure_of fun a ha => by
      rw [ha]
      exact ⟨hc, rfl, rfl, fun _ => World.keepsTasks_of_same rfl rfl, .inl hc⟩
  split
  · rename_i c hc
    exact hsame c (World.stackOf_installed hc)
  · rename_i hnone
    split
    · rename_i h0
      exact hsame _ (World.stackOf_detached hnone (beq_iff_eq.1 h0))
    · rename_i h0
      have ht : w.task ≠ 0 := fun h => h0 (beq_iff_eq.2 h)
      split
      · rename_i c hc
        exact hsame c ((World.stackOf_task hnone ht).trans hc)
      · rename_i hfirst
        refine Alone.modifyGet_world (W := (· = { w with wakes := [] })) fun s hs a ha => ?_
        subst hs
        rw [ha]
        refine ⟨?_, rfl, rfl, fun m' => ?_, .inr ⟨?_, rfl, World.context_newContext _⟩⟩
        · rw [World.stackOf_wakes]
          refine Eq.trans (World.stackOf_task ?_ ?_) ?_
          · exact hnone
          · exact ht
          · exact World.taskStack_first { w with wakes := [] } hm hfirst
        · -- the new stack goes to manager `m`; every other manager is left as it was
          have hmade : World.KeepsTasks m' { w with wakes := [] }
              (({ w with wakes := [] } : World).newContext.2.modifyManager m fun mg =>
                { mg with byTask := mg.byTask ++ [(w.task, w.contexts.size)] }) := by
            by_cases hmm : m = m'
            · subst hmm
              exact World.keepsTasks_first _ m w.task
            · exact World.keepsTasks_first_other _ hmm w.task
          have hread : World.KeepsTasks m' w { w with wakes := [] } := World.keepsTasks_of_same rfl rfl
          refine (hread.trans hmade).trans ?_
          exact World.keepsTasks_of_same rfl rfl
        · rw [World.stackOf_task hnone ht]
          exact hfirst
/-- Inside a block with a stack installed for manager `m`, the code finds that stack for `m`,
whatever task runs it, and for every other manager the stack it had outside; leaving the block
gives every task back the stacks installed for it before. -/
theorem withContext_contextOf_alone {m ctx m' : Nat} {s : World} (hm : m' < s.managers.size) :
    Alone World.host t (fun a => a.state = s) (Step.withContext m ctx (contextOf m')) fun c a =>
      (m' = m → c = ctx) ∧ (m' ≠ m → ∀ c₀, s.stackOf m' = some c₀ → c = c₀) ∧
      ∀ t', a.state.installed t' = s.installed t' := by
  rw [Step.withContext_eq]
  refine Alone.bind (Alone.change_at (Q := fun _ a => a.state = { s.enterContext m ctx with wakes := [] })
    fun a ha => ha) fun _ => ?_
  -- what the code finds inside the block, and where the installed stacks stand then
  have hinside : Alone World.host t (fun a => a.state = { s.enterContext m ctx with wakes := [] })
      (contextOf m') fun c a =>
        ((m' = m → c = ctx) ∧ (m' ≠ m → ∀ c₀, s.stackOf m' = some c₀ → c = c₀)) ∧
        a.state.overrides = (s.enterContext m ctx).overrides ∧ a.state.task = s.task := by
    refine (contextOf_alone (s := { s.enterContext m ctx with wakes := [] }) hm).post
      fun c a ⟨_, htask, hover, _, hfound⟩ => ⟨⟨fun heq => ?_, fun hne c₀ hc₀ => ?_⟩, hover, htask⟩
    · -- the installed stack is the one the code has for `m`
      subst heq
      have hin : ({ s.enterContext m' ctx with wakes := [] } : World).stackOf m' = some ctx :=
        World.stackOf_installed ((World.installedFor_enterContext s m' ctx m').trans (if_pos rfl))
      rcases hfound with hc | ⟨hnone, -⟩
      · exact Option.some.inj (hc.symm.trans hin)
      · rw [hin] at hnone
        cases hnone
    · -- any other manager's stack is the one the code had outside
      have hout : ({ s.enterContext m ctx with wakes := [] } : World).stackOf m' = some c₀ :=
        World.stackOf_of_keepsTasks hc₀ rfl
          ((World.installedFor_enterContext s m ctx m').trans (if_neg hne)) (World.keepsTasks_of_same rfl rfl)
      rcases hfound with hc | ⟨hnone, -⟩
      · exact Option.some.inj (hc.symm.trans hout)
      · rw [hout] at hnone
        cases hnone
  refine Alone.bind hinside fun c => ?_
  refine (Alone.of_fact fun hc => ?_).pre fun a ha => ⟨ha.1, ha.2⟩
  refine Alone.bind (Alone.change_world (W := fun x => x.overrides = (s.enterContext m ctx).overrides ∧
      x.task = s.task) fun x hx a ha => ?_) fun _ => Alone.pure_of fun a ha => ha
  refine ⟨hc.1, hc.2, fun t' => ?_⟩
  rw [ha]
  exact World.installed_leave hx.1 hx.2 t'

/-- A block with a stack installed keeps the stacks of every manager apart when its code does:
installing and taking off touch no manager. -/
theorem withContext_keepsTasks {α : Type} (m ctx m' : Nat) {x : Step α}
    (hx : KeepsFrame (World.KeepsTasks m') x) :
    KeepsFrame (World.KeepsTasks m') (Step.withContext m ctx x) := by
  rw [Step.withContext_eq]
  refine KeepsFrame.bind (KeepsFrame.change fun _ => World.keepsTasks_of_same rfl rfl) fun _ => ?_
  refine KeepsFrame.bind hx fun a => ?_
  exact KeepsFrame.bind (KeepsFrame.change fun _ => World.keepsTasks_of_same rfl rfl) fun _ =>
    KeepsFrame.pure a

end Manager

/-- Every run of tasks that keep to the rules keeps manager `m`'s stacks apart, and every stack
made for a task is still that task's at the end. -/
theorem taskRules_loop (m fuel : Nat) (a : Agenda World Cond) (ha : Agenda.Sound (taskRules m) a)
    (hs : World.TasksApart m a.state) :
    Agenda.Sound (taskRules m) (Agenda.loop World.host fuel a) ∧
      World.TasksApart m (Agenda.loop World.host fuel a).state ∧
      World.KeepsTasks m a.state (Agenda.loop World.host fuel a).state :=
  have hrun := Agenda.loop_sound (taskRules_lawful m) (World.host_keeps_taskRules m) fuel a ha
  ⟨hrun.1, hrun.2.apart hs, hrun.2⟩

open World (KeepsTasks TasksApart)

end TxnCoord
