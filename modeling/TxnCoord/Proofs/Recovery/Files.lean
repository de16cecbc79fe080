import TxnCoord.Proofs.Recovery.FileTree
import TxnCoord.Proofs.Recovery.Encoding
/-!
# The file store is a finite map

A store of descriptor files keeps the descriptor of (resource manager, unit of work) in
`<dir>/<manager>/<unit>.json`. A tree holds a map for the store (`FileStore.Holds`) when the
store's directory exists, each descriptor of the map is in the file of its key, and below the
directory stand only the managers' directories and the map's files. Identifiers have 128
bits, so distinct keys have distinct files, and no file name of a key is a temporary one.

Each call keeps that invariant and answers from the map:

* a save makes the manager's directory if needed, writes the temporary file and renames it
  over the descriptor's file, so it sets the key and leaves no temporary file
  (`Holds.save_spec`, `Holds.insert`);
* a removal unlinks the key's file, or finds none (`Holds.remove`);
* a load reads the key's file back as its descriptor, or finds none (`Holds.load`);
* a listing reads every `*.json` name of the manager's directory, which are exactly the
  files of its descriptors (`Holds.list`).

Main statement: over a fresh directory, any run of saves and removals succeeds, and the store
then answers as the in-memory store given the same run.

    t.Wf → (nothing below dir in t) → FileStore.open t dir = .ok t₀ → (∀ u ∈ us, u.Fits) →
      (∃ t', (⟨dir⟩ : FileStore).replay t₀ us = .ok t' ∧
        FileStore.AnswersAs ⟨dir⟩ t' (MemStore.replay {} us)) ∧
      ∀ d, d.Valid → Descriptor.ofFileText d.fileText = .ok d
                                                     (file_store_answers_as_memory_store)
-/

namespace TxnCoord.Recovery

/-! ## Paths of the store -/

theorem extension_json (u : Uuid) : extension (u.render ++ ".json") = some "json" := by
  have hsplit : (u.render ++ ".json").toList.splitOn '.' = [u.render.toList, "json".toList] := by
    rw [String.toList_append, show ".json".toList = '.' :: "json".toList from rfl,
      List.splitOn_append_cons_self_of_not_mem (Uuid.dot_not_mem_render u),
      List.splitOn_eq_singleton (by decide)]
  have hlen : (u.render ++ ".json").toList.length = 41 := by
    rw [String.toList_append, List.length_append, Uuid.length_render]
    rfl
  have hne : (u.render ++ ".json" == "..") = false := by
    rw [beq_eq_false_iff_ne]
    intro h
    rw [h] at hlen
    cases hlen
  have hr : u.render ≠ "" := by
    intro h
    have := Uuid.length_render u
    rw [h] at this
    cases this
  unfold extension
  rw [hne, hsplit]
  simp [hr]

namespace FileStore

variable (s : FileStore)

theorem path_eq (rm uow : Uuid) : s.path rm uow = s.managerDir rm ++ [uow.render ++ ".json"] := rfl

theorem managerDir_eq (rm : Uuid) : s.managerDir rm = s.dir ++ [rm.render] := rfl

theorem length_managerDir (rm : Uuid) : (s.managerDir rm).length = s.dir.length + 1 := by
  simp [managerDir]

theorem length_path (rm uow : Uuid) : (s.path rm uow).length = s.dir.length + 2 := by
  simp [path, managerDir]

theorem length_tempPath (rm uow : Uuid) : (s.tempPath rm uow).length = s.dir.length + 2 := by
  simp [tempPath, managerDir]

theorem dropLast_path (rm uow : Uuid) : (s.path rm uow).dropLast = s.managerDir rm := by
  simp [path]

theorem dropLast_tempPath (rm uow : Uuid) : (s.tempPath rm uow).dropLast = s.managerDir rm := by
  simp [tempPath]

theorem dropLast_managerDir (rm : Uuid) : (s.managerDir rm).dropLast = s.dir := by
  simp [managerDir]

theorem dir_prefix_path (rm uow : Uuid) : s.dir <+: s.path rm uow ∧ s.path rm uow ≠ s.dir := by
  refine ⟨⟨[rm.render, uow.render ++ ".json"], by simp [path, managerDir]⟩, fun h => ?_⟩
  have := congrArg List.length h
  simp [length_path] at this

theorem dir_prefix_managerDir (rm : Uuid) : s.dir <+: s.managerDir rm ∧ s.managerDir rm ≠ s.dir := by
  refine ⟨⟨[rm.render], rfl⟩, fun h => ?_⟩
  have := congrArg List.length h
  simp [length_managerDir] at this

variable {s}

theorem managerDir_injective {rm rm' : Uuid} (h₁ : rm.value < Nat.pow 2 128)
    (h₂ : rm'.value < Nat.pow 2 128) (h : s.managerDir rm = s.managerDir rm') : rm = rm' := by
  simp only [managerDir, List.append_cancel_left_eq, List.cons.injEq, and_true] at h
  exact Uuid.render_injective h₁ h₂ h

/-- Two identifiers with one file name are equal. -/
theorem render_json_injective {u v : Uuid} (hu : u.value < Nat.pow 2 128)
    (hv : v.value < Nat.pow 2 128) (h : u.render ++ ".json" = v.render ++ ".json") : u = v := by
  have hl : u.render.toList = v.render.toList := by
    have := congrArg String.toList h
    simpa [String.toList_append] using this
  exact Uuid.render_injective hu hv (String.toList_injective hl)

theorem path_injective {rm rm' uow uow' : Uuid} (h₁ : rm.value < Nat.pow 2 128)
    (h₂ : rm'.value < Nat.pow 2 128) (h₃ : uow.value < Nat.pow 2 128)
    (h₄ : uow'.value < Nat.pow 2 128) (h : s.path rm uow = s.path rm' uow') :
    rm = rm' ∧ uow = uow' := by
  simp only [path, managerDir, List.append_assoc, List.cons_append, List.nil_append,
    List.append_cancel_left_eq, List.cons.injEq, and_true] at h
  exact ⟨Uuid.render_injective h₁ h₂ h.1, render_json_injective h₃ h₄ h.2⟩

theorem tempPath_ne_path (rm uow rm' uow' : Uuid) : s.tempPath rm uow ≠ s.path rm' uow' := by
  intro h
  simp only [tempPath, path, managerDir, List.append_assoc, List.cons_append, List.nil_append,
    List.append_cancel_left_eq, List.cons.injEq, and_true] at h
  have := congrArg (fun x => x.toList.length) h.2
  simp [String.toList_append, Uuid.length_render] at this

theorem managerDir_ne_path (rm rm' uow : Uuid) : s.managerDir rm ≠ s.path rm' uow := by
  intro h
  have := congrArg List.length h
  simp [length_managerDir, length_path] at this

/-- The directories above a descriptor's file: those of the store, then the manager's. -/
theorem take_path {rm uow : Uuid} {i : Nat} (hi : i < (s.path rm uow).length) :
    (s.path rm uow).take i = s.dir.take i ∨ (s.path rm uow).take i = s.managerDir rm := by
  rw [length_path] at hi
  rcases Nat.lt_or_ge i (s.dir.length + 1) with h | h
  · left
    simp only [path, managerDir, List.append_assoc]
    rw [List.take_append_of_le_length (by omega)]
  · right
    obtain rfl : i = s.dir.length + 1 := by omega
    simp [path, managerDir, List.take_append]

theorem take_path_managerDir (rm uow : Uuid) :
    (s.path rm uow).take (s.dir.length + 1) = s.managerDir rm := by
  simp [path, managerDir, List.take_append]

theorem take_managerDir {rm : Uuid} {i : Nat} (hi : i < (s.managerDir rm).length) :
    (s.managerDir rm).take i = s.dir.take i := by
  rw [length_managerDir] at hi
  simp only [managerDir]
  rw [List.take_append_of_le_length (by omega)]

/-! ## What a tree holds for a store -/

/-- The tree holds the map for the store: the store's directory exists, each descriptor of
the map is in the file of its key, and below the directory stand only directories of
resource managers and files of the map's descriptors. -/
structure Holds (s : FileStore) (t : FileTree) (M : DescriptorMap) : Prop where
  wf : t.Wf
  dir : t.get? s.dir = some .dir
  keyed : ∀ k d, M.lookup k = some d → k = (d.rm, d.uow)
  valid : ∀ k d, M.lookup k = some d → d.Valid
  files : ∀ d, M.lookup (d.rm, d.uow) = some d → t.get? (s.path d.rm d.uow) = some (.file d.fileText)
  below : ∀ q e, t.get? q = some e → s.dir <+: q → q ≠ s.dir →
    (∃ rm, q = s.managerDir rm ∧ e = .dir) ∨
      (∃ d, M.lookup (d.rm, d.uow) = some d ∧ q = s.path d.rm d.uow ∧ e = .file d.fileText)

variable {t : FileTree} {M : DescriptorMap}

/-- The file of a key holds the key's descriptor, and there is none for a key of no
descriptor. -/
theorem Holds.get?_path (h : Holds s t M) {rm uow : Uuid} (hrm : rm.value < Nat.pow 2 128)
    (huow : uow.value < Nat.pow 2 128) :
    t.get? (s.path rm uow) = (M.lookup (rm, uow)).map fun d => .file d.fileText := by
  cases hl : M.lookup (rm, uow) with
  | some d =>
    obtain ⟨rfl, rfl⟩ := Prod.mk.inj (h.keyed _ _ hl)
    exact h.files d hl
  | none =>
    cases hg : t.get? (s.path rm uow) with
    | none => rfl
    | some e =>
      obtain ⟨hpre, hne⟩ := dir_prefix_path s rm uow
      rcases h.below _ e hg hpre hne with ⟨rm', heq, -⟩ | ⟨d, hd, heq, -⟩
      · exact absurd heq.symm (managerDir_ne_path rm' rm uow)
      · have hv := h.valid _ _ hd
        obtain ⟨rfl, rfl⟩ := path_injective hrm hv.rm huow hv.uow heq
        rw [hl] at hd
        cases hd

theorem Holds.get?_tempPath (h : Holds s t M) (rm uow : Uuid) : t.get? (s.tempPath rm uow) = none := by
  cases hg : t.get? (s.tempPath rm uow) with
  | none => rfl
  | some e =>
    have hpre : s.dir <+: s.tempPath rm uow := ⟨[rm.render, uow.render ++ ".json.tmp"], by
      simp [tempPath, managerDir]⟩
    have hne : s.tempPath rm uow ≠ s.dir := by
      intro hq
      have := congrArg List.length hq
      simp [length_tempPath] at this
    rcases h.below _ e hg hpre hne with ⟨rm', heq, -⟩ | ⟨d, -, heq, -⟩
    · have := congrArg List.length heq
      simp [length_tempPath, length_managerDir] at this
    · exact absurd heq (tempPath_ne_path rm uow d.rm d.uow)

theorem Holds.get?_managerDir (h : Holds s t M) (rm : Uuid) :
    t.get? (s.managerDir rm) = some .dir ∨ t.get? (s.managerDir rm) = none := by
  cases hg : t.get? (s.managerDir rm) with
  | none => exact Or.inr rfl
  | some e =>
    obtain ⟨hpre, hne⟩ := dir_prefix_managerDir s rm
    rcases h.below _ e hg hpre hne with ⟨rm', -, rfl⟩ | ⟨d, -, heq, -⟩
    · exact Or.inl rfl
    · exact absurd heq (managerDir_ne_path rm d.rm d.uow)

/-- The store's directory and those above it are directories. -/
theorem Holds.dir_take (h : Holds s t M) (i : Nat) : t.get? (s.dir.take i) = some .dir := by
  rcases Nat.le_total i s.dir.length with hi | hi
  · exact h.wf.prefix_dir h.dir hi
  · rw [List.take_of_length_le hi]
    exact h.dir

/-- A descriptor's file is missing when its key has no descriptor. -/
theorem Holds.missing_path (h : Holds s t M) {rm uow : Uuid} (hrm : rm.value < Nat.pow 2 128)
    (huow : uow.value < Nat.pow 2 128) (hl : M.lookup (rm, uow) = none) :
    t.Missing (s.path rm uow) := by
  refine FileTree.missing_of_absent (by rw [h.get?_path hrm huow, hl]; rfl) fun i _ hi => ?_
  rcases take_path hi with he | he
  · rw [he]
    exact Or.inl (h.dir_take i)
  · rw [he]
    exact h.get?_managerDir rm

/-! ## Saving -/

theorem bind_apply {α β : Type} {r : FsRun α} {g : α → FsRun β} {t t' : FileTree} {a : α}
    (h : r.apply t = (.ok a, t')) : (r >>= g).apply t = (g a).apply t' := by
  unfold FsRun.apply at *
  simp only [ExceptT.run_bind, StateT.run_bind]
  rw [h]
  rfl

theorem change_apply {f : FileTree → Except FsError FileTree} {t t' : FileTree} (h : f t = .ok t') :
    (FsRun.change f).apply t = (.ok (), t') := by
  unfold FsRun.change
  rw [bind_apply (rfl : (get : FsRun FileTree).apply t = (.ok t, t)), h]
  rfl

/-- Saving makes the manager's directory if it is missing and leaves the descriptor's text in
its file, with no temporary file left; nothing else changes. -/
theorem Holds.save_spec (h : Holds s t M) (d : Descriptor) :
    ∃ t', (s.save d).apply t = (.ok (), t') ∧ t'.Wf ∧
      ∀ q, t'.get? q = if q = s.path d.rm d.uow then some (.file d.fileText)
        else if q = s.managerDir d.rm then some .dir else t.get? q := by
  -- the manager's directory
  have hmne : s.managerDir d.rm ≠ [] := by simp [managerDir]
  obtain ⟨t₁, h₁⟩ := FileTree.createDirAll_of_parent h.wf hmne
    (by rw [dropLast_managerDir]; exact h.dir)
    (fun x hx => by rcases h.get?_managerDir d.rm with he | he <;> rw [he] at hx <;> cases hx)
  obtain ⟨hwf₁, hdir₁, hch₁⟩ := FileTree.createDirAll_spec h.wf h₁
  have hget₁ : ∀ q, t₁.get? q = if q = s.managerDir d.rm then some .dir else t.get? q := by
    intro q
    by_cases hq : q = s.managerDir d.rm
    · rw [if_pos hq, hq, hdir₁]
    · rw [if_neg hq]
      by_contra hne
      obtain ⟨hpre, hq₁⟩ := hch₁ q hne
      rw [managerDir_eq, List.prefix_concat_iff] at hpre
      rcases hpre with hpre | hpre
      · exact hq hpre
      · rw [List.prefix_iff_eq_take.1 hpre, h.dir_take] at hne
        rw [List.prefix_iff_eq_take.1 hpre] at hq₁
        exact hne hq₁
  -- the temporary file
  have hmt : s.tempPath d.rm d.uow ≠ s.managerDir d.rm := by
    intro he
    have := congrArg List.length he
    simp [length_tempPath, length_managerDir] at this
  have hc₂ : t₁.checkParents (s.tempPath d.rm d.uow) = .ok () :=
    hwf₁.checkParents_of_dropLast (by rw [dropLast_tempPath]; exact hdir₁)
  obtain ⟨t₂, h₂, hwf₂, hget₂⟩ := FileTree.write_spec hwf₁ hc₂
    (by simp [tempPath, managerDir]) (by rw [hget₁, if_neg hmt, h.get?_tempPath]) d.fileText
  -- the rename over the descriptor's file
  have hmp : s.path d.rm d.uow ≠ s.managerDir d.rm := fun he => managerDir_ne_path _ _ _ he.symm
  have htp : s.tempPath d.rm d.uow ≠ s.path d.rm d.uow := tempPath_ne_path _ _ _ _
  have hpath₂ : t₂.get? (s.path d.rm d.uow) = t.get? (s.path d.rm d.uow) := by
    rw [hget₂, if_neg (Ne.symm htp), hget₁, if_neg hmp]
  have hc₃ : t₂.checkParents (s.path d.rm d.uow) = .ok () :=
    hwf₂.checkParents_of_dropLast (by rw [dropLast_path, hget₂, if_neg (Ne.symm hmt), hdir₁])
  obtain ⟨t₃, h₃, hwf₃, hget₃⟩ := FileTree.rename_spec hwf₂
    (by rw [hget₂, if_pos rfl]) hc₃
    (by
      rw [hpath₂]
      intro hdir
      obtain ⟨hpre, hne⟩ := dir_prefix_path s d.rm d.uow
      rcases h.below _ _ hdir hpre hne with ⟨rm', he, -⟩ | ⟨d', -, -, he⟩
      · exact managerDir_ne_path _ _ _ he.symm
      · cases he)
    htp
  refine ⟨t₃, ?_, hwf₃, fun q => ?_⟩
  · unfold FileStore.save
    exact (bind_apply (change_apply h₁)).trans ((bind_apply (change_apply h₂)).trans
      (change_apply h₃))
  · rw [hget₃, hget₂, hget₁]
    by_cases hqp : q = s.path d.rm d.uow
    · rw [if_pos hqp, if_pos hqp]
    · rw [if_neg hqp, if_neg hqp]
      by_cases hqt : q = s.tempPath d.rm d.uow
      · rw [if_pos hqt, if_neg (hqt ▸ hmt), hqt, h.get?_tempPath]
      · rw [if_neg hqt, if_neg hqt]

/-- After a save the tree holds the map with the descriptor set at its key. -/
theorem Holds.insert (h : Holds s t M) {d : Descriptor} (hd : d.Valid) {t' : FileTree} (hwf : t'.Wf)
    (hget : ∀ q, t'.get? q = if q = s.path d.rm d.uow then some (.file d.fileText)
      else if q = s.managerDir d.rm then some .dir else t.get? q) :
    Holds s t' (M.insert (d.rm, d.uow) d) where
  wf := hwf
  dir := by
    rw [hget, if_neg (dir_prefix_path s d.rm d.uow).2.symm,
      if_neg (dir_prefix_managerDir s d.rm).2.symm, h.dir]
  keyed k d' hk := by
    by_cases hkd : k = (d.rm, d.uow)
    · rw [hkd, Finmap.lookup_insert] at hk
      cases hk
      exact hkd
    · rw [Finmap.lookup_insert_of_ne _ hkd] at hk
      exact h.keyed k d' hk
  valid k d' hk := by
    by_cases hkd : k = (d.rm, d.uow)
    · rw [hkd, Finmap.lookup_insert] at hk
      cases hk
      exact hd
    · rw [Finmap.lookup_insert_of_ne _ hkd] at hk
      exact h.valid k d' hk
  files d' hk := by
    by_cases hkd : (d'.rm, d'.uow) = (d.rm, d.uow)
    · rw [hkd, Finmap.lookup_insert] at hk
      cases hk
      rw [hget, if_pos rfl]
    · rw [Finmap.lookup_insert_of_ne _ hkd] at hk
      have hv := h.valid _ _ hk
      have hne : s.path d'.rm d'.uow ≠ s.path d.rm d.uow := fun he =>
        hkd (Prod.ext_iff.2 (path_injective hv.rm hd.rm hv.uow hd.uow he))
      rw [hget, if_neg hne, if_neg (fun he => managerDir_ne_path _ _ _ he.symm)]
      exact h.files d' hk
  below q e hq hpre hne := by
    rw [hget] at hq
    by_cases hqp : q = s.path d.rm d.uow
    · rw [if_pos hqp] at hq
      cases hq
      exact Or.inr ⟨d, Finmap.lookup_insert _, hqp, rfl⟩
    · rw [if_neg hqp] at hq
      by_cases hqm : q = s.managerDir d.rm
      · rw [if_pos hqm] at hq
        cases hq
        exact Or.inl ⟨d.rm, hqm, rfl⟩
      · rw [if_neg hqm] at hq
        rcases h.below q e hq hpre hne with hm | ⟨d', hk, rfl, he⟩
        · exact Or.inl hm
        · have hkd : (d'.rm, d'.uow) ≠ (d.rm, d.uow) := fun he' => by
            obtain ⟨h₁, h₂⟩ := Prod.mk.inj he'
            exact hqp (by rw [h₁, h₂])
          exact Or.inr ⟨d', by rw [Finmap.lookup_insert_of_ne _ hkd]; exact hk, rfl, he⟩

/-! ## Removing and loading -/

/-- After a file is unlinked the tree holds the map without its key. -/
theorem Holds.erase (h : Holds s t M) {rm uow : Uuid} (hrm : rm.value < Nat.pow 2 128)
    (huow : uow.value < Nat.pow 2 128) {t' : FileTree} (hwf : t'.Wf)
    (hget : ∀ q, t'.get? q = if q = s.path rm uow then none else t.get? q) :
    Holds s t' (M.erase (rm, uow)) where
  wf := hwf
  dir := by rw [hget, if_neg (dir_prefix_path s rm uow).2.symm, h.dir]
  keyed k d hk := by
    by_cases hkd : k = (rm, uow)
    · rw [hkd, Finmap.lookup_erase] at hk
      cases hk
    · rw [Finmap.lookup_erase_ne hkd] at hk
      exact h.keyed k d hk
  valid k d hk := by
    by_cases hkd : k = (rm, uow)
    · rw [hkd, Finmap.lookup_erase] at hk
      cases hk
    · rw [Finmap.lookup_erase_ne hkd] at hk
      exact h.valid k d hk
  files d hk := by
    by_cases hkd : (d.rm, d.uow) = (rm, uow)
    · rw [hkd, Finmap.lookup_erase] at hk
      cases hk
    · rw [Finmap.lookup_erase_ne hkd] at hk
      have hv := h.valid _ _ hk
      have hne : s.path d.rm d.uow ≠ s.path rm uow := fun he =>
        hkd (Prod.ext_iff.2 (path_injective hv.rm hrm hv.uow huow he))
      rw [hget, if_neg hne]
      exact h.files d hk
  below q e hq hpre hne := by
    rw [hget] at hq
    by_cases hqp : q = s.path rm uow
    · rw [if_pos hqp] at hq
      cases hq
    · rw [if_neg hqp] at hq
      rcases h.below q e hq hpre hne with hm | ⟨d, hk, rfl, he⟩
      · exact Or.inl hm
      · have hkd : (d.rm, d.uow) ≠ (rm, uow) := fun he' => by
          obtain ⟨h₁, h₂⟩ := Prod.mk.inj he'
          exact hqp (by rw [h₁, h₂])
        exact Or.inr ⟨d, by rw [Finmap.lookup_erase_ne hkd]; exact hk, rfl, he⟩

/-- A removal answers whether the key had a descriptor, and leaves the tree holding the map
without the key. -/
theorem Holds.remove (h : Holds s t M) {rm uow : Uuid} (hrm : rm.value < Nat.pow 2 128)
    (huow : uow.value < Nat.pow 2 128) :
    ∃ t', s.remove t rm uow = .ok ((M.lookup (rm, uow)).isSome, t') ∧
      Holds s t' (M.erase (rm, uow)) := by
  have hpath := h.get?_path hrm huow
  cases hl : M.lookup (rm, uow) with
  | some d =>
    rw [hl] at hpath
    obtain ⟨t', hr, hwf, hget⟩ := FileTree.removeFile_spec h.wf hpath
    refine ⟨t', ?_, h.erase hrm huow hwf hget⟩
    simp only [FileStore.remove, hr]
    rfl
  | none =>
    have hmiss := h.missing_path hrm huow hl
    have hM : M.erase (rm, uow) = M := by
      refine Finmap.ext_lookup fun k => ?_
      by_cases hk : k = (rm, uow)
      · rw [hk, Finmap.lookup_erase, hl]
      · rw [Finmap.lookup_erase_ne hk]
    refine ⟨t, ?_, by rw [hM]; exact h⟩
    simp only [FileStore.remove, FileTree.removeFile_missing hmiss]
    rfl

/-- A load gives the descriptor of the key, or none. -/
theorem Holds.load (h : Holds s t M) {rm uow : Uuid} (hrm : rm.value < Nat.pow 2 128)
    (huow : uow.value < Nat.pow 2 128) : s.load t rm uow = .ok (M.lookup (rm, uow)) := by
  have hpath := h.get?_path hrm huow
  cases hl : M.lookup (rm, uow) with
  | some d =>
    rw [hl] at hpath
    have hv := h.valid _ _ hl
    simp only [FileStore.load, FileTree.read_of_file h.wf hpath,
      Descriptor.ofFileText_fileText hv]
    rfl
  | none =>
    simp only [FileStore.load, FileTree.read_missing (h.missing_path hrm huow hl)]

/-! ## Listing -/

/-- Reading the files of a directory's names, each the file of a valid descriptor, gives
those descriptors in the order of the names. -/
theorem readAll_spec {t : FileTree} {dir : Path} {f : Descriptor → String} {Q : Descriptor → Prop} :
    ∀ {names : List String}, (∀ n ∈ names, extension n = some "json" ∧
      ∃ d, d.Valid ∧ Q d ∧ n = f d ∧ t.read (dir ++ [n]) = .ok d.fileText) →
    ∃ ds, readAll t dir names = .ok ds ∧ names = ds.map f ∧ ∀ d ∈ ds, Q d
  | [], _ => ⟨[], rfl, rfl, fun _ hd => absurd hd List.not_mem_nil⟩
  | n :: names, h => by
    obtain ⟨hext, d, hv, hq, hn, hr⟩ := h n List.mem_cons_self
    obtain ⟨ds, hall, hmap, hQ⟩ := readAll_spec fun n' hn' => h n' (List.mem_cons_of_mem _ hn')
    refine ⟨d :: ds, ?_, by rw [List.map_cons, ← hn, ← hmap], ?_⟩
    · have hio : io (t.read (dir ++ [n])) = .ok d.fileText := by
        rw [hr]
        rfl
      rw [readAll, if_pos (by rw [hext]; rfl)]
      simp only [hio, bind, Except.bind, Descriptor.ofFileText_fileText hv, hall]
      rfl
    · intro d' hd'
      rcases List.mem_cons.1 hd' with rfl | hd'
      · exact hq
      · exact hQ d' hd'

theorem mem_valuesOf (hkeyed : ∀ k d, M.lookup k = some d → k = (d.rm, d.uow)) {rm : Uuid}
    {d : Descriptor} : d ∈ M.valuesOf rm ↔ d.rm = rm ∧ M.lookup (d.rm, d.uow) = some d := by
  simp only [DescriptorMap.valuesOf, Multiset.mem_map, Multiset.mem_filter]
  constructor
  · rintro ⟨⟨k, d'⟩, ⟨hmem, hk⟩, rfl⟩
    have hl : M.lookup k = some d' := Finmap.mem_lookup_iff.2 hmem
    obtain rfl := hkeyed k d' hl
    exact ⟨hk, hl⟩
  · rintro ⟨hrm, hl⟩
    exact ⟨⟨(d.rm, d.uow), d⟩, ⟨Finmap.mem_lookup_iff.1 hl, hrm⟩, rfl⟩

/-- A map whose descriptors sit at their own keys lists each descriptor once. -/
theorem nodup_valuesOf (hkeyed : ∀ k d, M.lookup k = some d → k = (d.rm, d.uow)) (rm : Uuid) :
    (M.valuesOf rm).Nodup := by
  unfold DescriptorMap.valuesOf
  refine Multiset.Nodup.map_on ?_ (Multiset.Nodup.filter _ M.nodup_entries)
  rintro ⟨k, d⟩ hx ⟨k', d'⟩ hy hd
  simp only at hd
  subst hd
  have hk := hkeyed k d (Finmap.mem_lookup_iff.2 (Multiset.mem_filter.1 hx).1)
  have hk' := hkeyed k' d (Finmap.mem_lookup_iff.2 (Multiset.mem_filter.1 hy).1)
  rw [hk, hk']

/-- A listing gives the manager's descriptors, each once, in some order. -/
theorem Holds.list (h : Holds s t M) {rm : Uuid} (hrm : rm.value < Nat.pow 2 128) :
    ∃ ds, s.list t rm = .ok ds ∧ (ds : Multiset Descriptor) = M.valuesOf rm := by
  rcases h.get?_managerDir rm with hdir | hnone
  · obtain ⟨names, hread, hnodup, hmem⟩ := FileTree.readDir_spec h.wf hdir
    -- every name in the manager's directory is the file of one of its descriptors
    have hnames : ∀ n ∈ names, extension n = some "json" ∧ ∃ d : Descriptor, d.Valid ∧
        (d.rm = rm ∧ M.lookup (d.rm, d.uow) = some d) ∧ n = d.uow.render ++ ".json" ∧
        t.read (s.managerDir rm ++ [n]) = .ok d.fileText := by
      intro n hn
      obtain ⟨e, he⟩ := (hmem n).1 hn
      have hpre : s.dir <+: s.managerDir rm ++ [n] := ⟨[rm.render, n], by simp [managerDir]⟩
      have hne : s.managerDir rm ++ [n] ≠ s.dir := by
        intro hq
        have := congrArg List.length hq
        simp only [List.length_append, length_managerDir, List.length_singleton] at this
        omega
      rcases h.below _ e he hpre hne with ⟨rm', heq, -⟩ | ⟨d, hd, heq, -⟩
      · have := congrArg List.length heq
        simp only [List.length_append, length_managerDir, List.length_singleton] at this
        omega
      · rw [path_eq] at heq
        obtain ⟨hm, hn'⟩ := List.append_inj' heq (by simp)
        have hv := h.valid _ _ hd
        have hrm' : rm = d.rm := managerDir_injective hrm hv.rm hm
        have hn'' : n = d.uow.render ++ ".json" := List.singleton_inj.1 hn'
        have hread : t.read (s.managerDir rm ++ [n]) = .ok d.fileText := by
          rw [hrm', hn'', ← path_eq]
          exact FileTree.read_of_file h.wf (h.files d hd)
        refine ⟨by rw [hn'']; exact extension_json _, d, hv, ⟨hrm'.symm, hd⟩, hn'', hread⟩
    obtain ⟨ds, hall, hmap, hQ⟩ := readAll_spec hnames
    have hlist : s.list t rm = readAll t (s.managerDir rm) names := by
      unfold FileStore.list
      rw [hread]
    refine ⟨ds, hlist.trans hall, ?_⟩
    have hds : ds.Nodup := by
      rw [hmap] at hnodup
      exact List.Nodup.of_map _ hnodup
    refine (Multiset.Nodup.ext (Multiset.coe_nodup.2 hds) (nodup_valuesOf h.keyed rm)).2 fun d => ?_
    rw [Multiset.mem_coe, mem_valuesOf h.keyed]
    constructor
    · exact hQ d
    · rintro ⟨hdrm, hd⟩
      have hn : d.uow.render ++ ".json" ∈ names := by
        rw [hmem]
        refine ⟨.file d.fileText, ?_⟩
        rw [← hdrm]
        exact h.files d hd
      rw [hmap] at hn
      obtain ⟨d', hd', hf⟩ := List.mem_map.1 hn
      obtain ⟨hrm', hl'⟩ := hQ d' hd'
      have huow := render_json_injective (h.valid _ _ hl').uow (h.valid _ _ hd).uow hf
      rw [hrm', ← hdrm, huow, hd] at hl'
      rw [Option.some.inj hl']
      exact hd'
  · -- without the manager's directory there is no descriptor of the manager
    have hmiss : t.Missing (s.managerDir rm) := FileTree.missing_of_absent hnone fun i _ hi =>
      Or.inl (by rw [take_managerDir hi]; exact h.dir_take i)
    refine ⟨[], by simp only [FileStore.list, FileTree.readDir_missing hmiss], ?_⟩
    refine (Multiset.eq_zero_of_forall_notMem fun d hd => ?_).symm
    obtain ⟨hdrm, hl⟩ := (mem_valuesOf h.keyed).1 hd
    have hup := h.wf.parents _ _ (h.files d hl) (s.dir.length + 1) (by rw [length_path]; omega)
    rw [take_path_managerDir, hdrm, hnone] at hup
    cases hup

/-! ## Opening the store -/

/-- Opening a store over a directory that has nothing below it gives a tree that holds the
empty map. -/
theorem holds_open {t t₀ : FileTree} {dir : Path} (hwf : t.Wf)
    (hfresh : ∀ q e, t.get? q = some e → dir <+: q → q = dir)
    (h : FileStore.open t dir = .ok t₀) : Holds ⟨dir⟩ t₀ ∅ := by
  have hmade : t.createDirAll dir = .ok t₀ := by
    unfold FileStore.open io at h
    split at h
    · rename_i heq
      rw [heq]
      cases h
      rfl
    · cases h
  obtain ⟨hwf₀, hdir₀, hch₀⟩ := FileTree.createDirAll_spec hwf hmade
  refine ⟨hwf₀, hdir₀, ?_, ?_, ?_, ?_⟩
  · intro k d hk
    rw [Finmap.lookup_empty] at hk
    cases hk
  · intro k d hk
    rw [Finmap.lookup_empty] at hk
    cases hk
  · intro d hk
    rw [Finmap.lookup_empty] at hk
    cases hk
  · -- what opening made lies at or above the directory, and nothing was below it
    intro q e hq hpre hne
    by_cases hch : t₀.get? q = t.get? q
    · rw [hch] at hq
      exact absurd (hfresh q e hq hpre) hne
    · obtain ⟨hq₁, -⟩ := hch₀ q hch
      exact absurd (hq₁.eq_of_length (Nat.le_antisymm hq₁.length_le hpre.length_le)) hne

end FileStore

/-! ## Runs of updates -/

namespace StoreUpdate

/-- An update whose identifiers have 128 bits, and whose descriptor holds what its fields
allow. -/
def Fits : StoreUpdate → Prop
  | .save d => d.Valid
  | .remove rm uow => rm.value < Nat.pow 2 128 ∧ uow.value < Nat.pow 2 128

instance : DecidablePred Fits := fun u =>
  match u with
  | .save d => inferInstanceAs (Decidable d.Valid)
  | .remove _ _ => inferInstanceAs (Decidable (_ ∧ _))

/-- What an update does to a store of files: the tree it leaves, or its failure. -/
def onFiles (s : FileStore) (t : FileTree) : StoreUpdate → Except TxError FileTree
  | .save d => (io ((s.save d).apply t).1).map fun _ => ((s.save d).apply t).2
  | .remove rm uow => (s.remove t rm uow).map Prod.snd

end StoreUpdate

namespace FileStore

/-- The tree after a sequence of updates, or the first failure. -/
def replay (s : FileStore) (t : FileTree) (us : List StoreUpdate) : Except TxError FileTree :=
  us.foldlM (fun t u => u.onFiles s t) t

variable {s : FileStore} {t : FileTree} {M : DescriptorMap}

/-- One update succeeds and keeps the tree holding the map that the update makes. -/
theorem Holds.step (h : Holds s t M) {u : StoreUpdate} (hu : u.Fits) :
    ∃ t', u.onFiles s t = .ok t' ∧ Holds s t' (u.onMap M) := by
  cases u with
  | save d =>
    obtain ⟨t', hrun, hwf, hget⟩ := h.save_spec d
    refine ⟨t', ?_, h.insert hu hwf hget⟩
    simp only [StoreUpdate.onFiles, hrun]
    rfl
  | remove rm uow =>
    obtain ⟨t', hrun, h'⟩ := h.remove hu.1 hu.2
    refine ⟨t', ?_, h'⟩
    simp only [StoreUpdate.onFiles, hrun]
    rfl

/-- A run of updates succeeds and keeps the tree holding the map that the same run makes. -/
theorem Holds.replay (us : List StoreUpdate) :
    ∀ {t : FileTree} {M : DescriptorMap}, Holds s t M → (∀ u ∈ us, u.Fits) →
      ∃ t', s.replay t us = .ok t' ∧ Holds s t' (StoreUpdate.replayMap M us) := by
  induction us with
  | nil => exact fun h _ => ⟨_, rfl, h⟩
  | cons u us ih =>
    intro t M h hus
    obtain ⟨t₁, h₁, hold₁⟩ := h.step (hus u List.mem_cons_self)
    obtain ⟨t', h', hold'⟩ := ih hold₁ fun u' hu' => hus u' (List.mem_cons_of_mem _ hu')
    refine ⟨t', ?_, hold'⟩
    simp only [FileStore.replay, List.foldlM_cons, h₁]
    exact h'

/-- The store over a tree answers as an in-memory store: a load gives the same descriptor, a
removal answers whether the key had one, a listing gives the same descriptors in some order,
and no temporary file is left. Keys are identifiers of 128 bits. -/
structure AnswersAs (s : FileStore) (t : FileTree) (m : MemStore) : Prop where
  load : ∀ rm uow, rm.value < Nat.pow 2 128 → uow.value < Nat.pow 2 128 →
    s.load t rm uow = .ok (m.load rm uow)
  remove : ∀ rm uow, rm.value < Nat.pow 2 128 → uow.value < Nat.pow 2 128 →
    ∃ t', s.remove t rm uow = .ok ((m.load rm uow).isSome, t')
  list : ∀ rm, rm.value < Nat.pow 2 128 →
    ∃ ds, s.list t rm = .ok ds ∧ (ds : Multiset Descriptor) = ↑(m.list rm)
  noTemp : ∀ rm uow, t.get? (s.tempPath rm uow) = none

/-- A tree that holds the map an in-memory store represents answers as that store. -/
theorem Holds.answersAs (h : Holds s t M) {m : MemStore} (hm : m.Represents M) :
    AnswersAs s t m where
  load rm uow hrm huow := by rw [h.load hrm huow, hm.load]
  remove rm uow hrm huow := by
    obtain ⟨t', hr, -⟩ := h.remove hrm huow
    exact ⟨t', by rw [hr, hm.load]⟩
  list rm hrm := by
    obtain ⟨ds, hl, hds⟩ := h.list hrm
    exact ⟨ds, hl, by rw [hds, hm.list]⟩
  noTemp := h.get?_tempPath

end FileStore

theorem FileTree.wf_empty : ({} : FileTree).Wf where
  nodup := List.nodup_nil
  parents q e h i hi := by
    cases q with
    | nil => cases hi
    | cons x q => cases h

/-- After any sequence of saves and removals on 128-bit keys, of descriptors that hold what
their fields allow, a store of descriptor files opened over a directory with nothing below it
succeeds at each update and then answers as the in-memory store given the same sequence. Each
descriptor's file reads back as the descriptor. -/
theorem file_store_answers_as_memory_store {t t₀ : FileTree} {dir : Path} (hwf : t.Wf)
    (hfresh : ∀ q e, t.get? q = some e → dir <+: q → q = dir)
    (hopen : FileStore.open t dir = .ok t₀) (us : List StoreUpdate) (hus : ∀ u ∈ us, u.Fits) :
    (∃ t', (⟨dir⟩ : FileStore).replay t₀ us = .ok t' ∧
      FileStore.AnswersAs ⟨dir⟩ t' (MemStore.replay {} us)) ∧
    ∀ d : Descriptor, d.Valid → Descriptor.ofFileText d.fileText = .ok d := by
  obtain ⟨t', hrun, h⟩ := (FileStore.holds_open hwf hfresh hopen).replay us hus
  have hm := MemStore.represents_replay us MemStore.represents_empty
  exact ⟨⟨t', hrun, h.answersAs hm⟩, fun d hd => Descriptor.ofFileText_fileText hd⟩

/-- One saved descriptor, in a store opened over an empty tree. -/
theorem file_store_answers_after_one_save :
    let d : Descriptor := ⟨⟨1⟩, ⟨2⟩, { rootUri := "http://localhost:7474" }, .http, ⟨5, 0, 0⟩,
      "neo4j", none, ⟨19000, 3600, false⟩⟩
    ∃ t', (⟨["store"]⟩ : FileStore).replay ⟨[(["store"], .dir)]⟩ [.save d] = .ok t' ∧
      FileStore.AnswersAs ⟨["store"]⟩ t' (MemStore.replay {} [.save d]) :=
  (file_store_answers_as_memory_store FileTree.wf_empty
    (fun q e h hp => by cases q with | nil => cases List.prefix_nil.1 hp | cons x q => cases h)
    (by rw [FileStore.open, FileTree.createDirAll.eq_1]; rfl) _ (by decide)).1


end TxnCoord.Recovery
