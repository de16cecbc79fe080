import Mathlib.Data.List.Nodup
import TxnCoord.Proofs.Recovery.Memory
import TxnCoord.Recovery.Files
/-!
# Directory trees

What each operation of a directory tree does, seen through `get?`, the entry at each path.
A well-formed tree (`FileTree.Wf`) has one entry per path and keeps every entry below
directories, as a file system does; every operation that succeeds keeps it so.

* Making a directory, writing a new file, unlinking a file and renaming a file each change
  the entries of one or two paths and nothing else (`mkdir_spec`, `write_spec`,
  `removeFile_spec`, `rename_spec`).
* Making a path's directories leaves it a directory and adds directories only at the path
  and above it (`createDirAll_spec`).
* A directory lists the names just below it, each once (`readDir_spec`).
* A path whose directories are there or missing, but none of them a file, is missing as a
  whole when it is not there: reading, unlinking or listing it fails with "not found"
  (`Missing`).
-/

namespace TxnCoord.Recovery

/-! ## Runs of checks -/

section Checks
variable {α ε : Type}

theorem forM_eq_ok {l : List α} {f : α → Except ε Unit} :
    l.forM f = .ok () ↔ ∀ x ∈ l, f x = .ok () := by
  induction l with
  | nil => exact ⟨fun _ x hx => absurd hx List.not_mem_nil, fun _ => rfl⟩
  | cons x xs ih =>
    rw [List.forM_eq_forM, List.forM_cons, List.forall_mem_cons]
    cases hx : f x with
    | error e =>
      constructor
      · intro h
        cases h
      · intro h
        cases h.1
    | ok u => exact ⟨fun h => ⟨rfl, ih.1 h⟩, fun h => ih.2 h.2⟩

/-- Checks that each pass or fail one way fail that way, if at all. -/
theorem forM_ok_or {l : List α} {f : α → Except ε Unit} {e : ε}
    (h : ∀ x ∈ l, f x = .ok () ∨ f x = .error e) : l.forM f = .ok () ∨ l.forM f = .error e := by
  induction l with
  | nil => exact Or.inl rfl
  | cons x xs ih =>
    rw [List.forM_eq_forM, List.forM_cons]
    rcases h x List.mem_cons_self with hx | hx
    · rw [hx]
      exact ih fun y hy => h y (List.mem_cons_of_mem _ hy)
    · rw [hx]
      exact Or.inr rfl

end Checks

namespace FileTree

variable {t t' : FileTree} {p q : Path}

theorem get?_nil (t : FileTree) : t.get? [] = some .dir := rfl

theorem get?_of_ne_nil (h : q ≠ []) : t.get? q = t.entries.lookup q := by
  simp [get?, h]

theorem ne_nil_of_get?_ne_dir {e : Entry} (h : t.get? q = some e) (he : e ≠ .dir) : q ≠ [] := by
  rintro rfl
  exact he (Option.some.inj h).symm

/-- The check of one directory above a path. -/
theorem dirCheck_eq_ok (o : Option Entry) :
    (match o with
      | some .dir => (.ok () : Except FsError Unit)
      | some (.file _) => .error .notADirectory
      | none => .error .notFound) = .ok () ↔ o = some .dir := by
  rcases o with _ | _ | _ <;> simp

/-- The directories above a path are checked from the root down. -/
theorem checkParents_eq_ok :
    t.checkParents p = .ok () ↔ ∀ i, 0 < i → i < p.length → t.get? (p.take i) = some .dir := by
  unfold checkParents
  rw [forM_eq_ok]
  constructor
  · intro h i hi hlt
    obtain ⟨j, rfl⟩ : ∃ j, i = j + 1 := ⟨i - 1, by omega⟩
    exact (dirCheck_eq_ok _).1 (h _ (List.mem_map.2 ⟨j, List.mem_range.2 (by omega), rfl⟩))
  · intro h x hx
    obtain ⟨j, hj, rfl⟩ := List.mem_map.1 hx
    exact (dirCheck_eq_ok _).2 (h (j + 1) (by omega) (by simp at hj; omega))

/-- The check that a path's directories exist fails only for a missing one, when none of
them is a file. -/
theorem checkParents_ok_or_notFound
    (h : ∀ i, 0 < i → i < p.length → t.get? (p.take i) = some .dir ∨ t.get? (p.take i) = none) :
    t.checkParents p = .ok () ∨ t.checkParents p = .error .notFound := by
  unfold checkParents
  refine forM_ok_or fun x hx => ?_
  obtain ⟨j, hj, rfl⟩ := List.mem_map.1 hx
  rcases h (j + 1) (by omega) (by simp at hj; omega) with hd | hn
  · rw [hd]
    exact Or.inl rfl
  · rw [hn]
    exact Or.inr rfl

/-! ## Well-formed trees -/

/-- A tree as a file system keeps it: one entry per path, and every entry below
directories only. -/
structure Wf (t : FileTree) : Prop where
  nodup : (t.entries.map Prod.fst).Nodup
  parents : ∀ q e, t.get? q = some e → ∀ i < q.length, t.get? (q.take i) = some .dir

/-- A tree whose entries have distinct paths, whose directories stay, and whose new or
changed entries stand below directories of the old tree, is well formed. -/
theorem Wf.of_get? (hwf : t.Wf) (hnodup : (t'.entries.map Prod.fst).Nodup)
    (hdirs : ∀ r, t.get? r = some .dir → t'.get? r = some .dir)
    (hnew : ∀ q e, t'.get? q = some e →
      t.get? q = some e ∨ ∀ i < q.length, t.get? (q.take i) = some .dir) : t'.Wf where
  nodup := hnodup
  parents q e h i hi := by
    rcases hnew q e h with h' | h'
    · exact hdirs _ (hwf.parents q e h' i hi)
    · exact hdirs _ (h' i hi)

theorem Wf.checkParents (hwf : t.Wf) {e : Entry} (h : t.get? p = some e) :
    t.checkParents p = .ok () :=
  checkParents_eq_ok.2 fun i _ hi => hwf.parents p e h i hi

/-- The directories of a path that is a directory are all directories. -/
theorem Wf.prefix_dir (hwf : t.Wf) (h : t.get? p = some .dir) {i : Nat} (hi : i ≤ p.length) :
    t.get? (p.take i) = some .dir := by
  rcases Nat.lt_or_eq_of_le hi with hi | rfl
  · exact hwf.parents p _ h i hi
  · rwa [List.take_length]

theorem mem_keys_of_get? {e : Entry} (hq : q ≠ []) (h : t.get? q = some e) :
    q ∈ t.entries.map Prod.fst := by
  rw [get?_of_ne_nil hq] at h
  obtain ⟨l₁, l₂, hl, -⟩ := List.lookup_eq_some_iff.1 h
  rw [hl]
  simp

theorem not_mem_keys_of_get? (hq : q ≠ []) (h : t.get? q = none) : q ∉ t.entries.map Prod.fst := by
  rw [get?_of_ne_nil hq, List.lookup_eq_none_iff] at h
  intro hm
  obtain ⟨e, he, rfl⟩ := List.mem_map.1 hm
  simpa using h e he

/-! ## One step of each operation -/

theorem get?_append_new (hp : p ≠ []) (h : t.get? p = none) (e : Entry) (q : Path) :
    (⟨t.entries ++ [(p, e)]⟩ : FileTree).get? q = if q = p then some e else t.get? q := by
  by_cases hq : q = []
  · subst hq
    rw [if_neg (Ne.symm hp)]
    rfl
  · rw [get?_of_ne_nil hq, get?_of_ne_nil hq, List.lookup_append]
    rw [get?_of_ne_nil hp] at h
    by_cases hqp : q = p
    · subst hqp
      simp [h]
    · cases hl : t.entries.lookup q <;> simp [hqp, lookup_cons_eq]

theorem nodup_append_new (hwf : t.Wf) (hp : p ≠ []) (h : t.get? p = none) (e : Entry) :
    ((t.entries ++ [(p, e)]).map Prod.fst).Nodup := by
  rw [List.map_append, List.nodup_append]
  refine ⟨hwf.nodup, by simp, ?_⟩
  intro a ha b hb
  simp only [List.map_cons, List.map_nil, List.mem_singleton] at hb
  subst hb
  rintro rfl
  exact not_mem_keys_of_get? hp h ha

theorem mkdir_eq_ok (h : t.mkdir p = .ok t') :
    t.checkParents p = .ok () ∧ t.get? p = none ∧ t' = ⟨t.entries ++ [(p, .dir)]⟩ := by
  unfold mkdir at h
  cases hc : t.checkParents p with
  | error e =>
    rw [hc] at h
    cases h
  | ok u =>
    rw [hc] at h
    cases hg : t.get? p with
    | some x =>
      simp only [hg] at h
      cases h
    | none =>
      simp only [hg] at h
      exact ⟨rfl, rfl, (Except.ok.inj h).symm⟩

/-- Adding an entry at a new path whose directories exist keeps a tree well formed. -/
theorem Wf.append_new (hwf : t.Wf) (hc : t.checkParents p = .ok ()) (hp : p ≠ [])
    (h : t.get? p = none) (e : Entry) : (⟨t.entries ++ [(p, e)]⟩ : FileTree).Wf := by
  have hget := get?_append_new hp h e
  refine Wf.of_get? hwf (nodup_append_new hwf hp h e) ?_ ?_
  · intro r hr
    rw [hget, if_neg]
    · exact hr
    · rintro rfl
      rw [h] at hr
      cases hr
  · intro q x hq
    rw [hget] at hq
    by_cases hqp : q = p
    · subst hqp
      right
      intro i hi
      rcases Nat.eq_zero_or_pos i with rfl | hi0
      · rfl
      · exact checkParents_eq_ok.1 hc i hi0 hi
    · rw [if_neg hqp] at hq
      exact Or.inl hq

/-- Making a directory adds it and changes nothing else. -/
theorem mkdir_spec (hwf : t.Wf) (h : t.mkdir p = .ok t') :
    t'.Wf ∧ ∀ q, t'.get? q = if q = p then some .dir else t.get? q := by
  obtain ⟨hc, hg, rfl⟩ := mkdir_eq_ok h
  have hp : p ≠ [] := by
    rintro rfl
    cases hg
  exact ⟨hwf.append_new hc hp hg .dir, get?_append_new hp hg .dir⟩

/-- Writing a file at a new path adds it and changes nothing else. -/
theorem write_spec (hwf : t.Wf) (hc : t.checkParents p = .ok ()) (hp : p ≠ [])
    (h : t.get? p = none) (text : String) :
    ∃ t', t.write p text = .ok t' ∧ t'.Wf ∧
      ∀ q, t'.get? q = if q = p then some (.file text) else t.get? q := by
  refine ⟨⟨t.entries ++ [(p, .file text)]⟩, ?_, hwf.append_new hc hp h _, get?_append_new hp h _⟩
  simp only [write, hc, h]
  rfl

theorem lookup_filter_ne (l : List (Path × Entry)) (p q : Path) :
    (l.filter (·.1 != p)).lookup q = if q = p then none else l.lookup q := by
  induction l with
  | nil => simp
  | cons kx l ih =>
    obtain ⟨k, x⟩ := kx
    by_cases hk : k = p
    · subst hk
      simp only [List.filter_cons, bne_self_eq_false, Bool.false_eq_true, if_false, ih,
        lookup_cons_eq]
      by_cases hq : q = k <;> simp [hq]
    · simp only [List.filter_cons, bne_iff_ne, ne_eq, hk, not_false_eq_true, if_true,
        lookup_cons_eq, ih]
      by_cases hq : q = k
      · subst hq
        simp [hk]
      · simp [hq]

theorem get?_filter_ne (hp : p ≠ []) (q : Path) :
    (⟨t.entries.filter (·.1 != p)⟩ : FileTree).get? q = if q = p then none else t.get? q := by
  by_cases hq : q = []
  · subst hq
    rw [if_neg (Ne.symm hp)]
    rfl
  · rw [get?_of_ne_nil hq, get?_of_ne_nil hq, lookup_filter_ne]

theorem nodup_filter_ne (hwf : t.Wf) (p : Path) : ((t.entries.filter (·.1 != p)).map Prod.fst).Nodup :=
  hwf.nodup.sublist ((List.filter_sublist).map Prod.fst)

/-- Unlinking a file takes it out and changes nothing else. -/
theorem removeFile_spec (hwf : t.Wf) {x : String} (h : t.get? p = some (.file x)) :
    ∃ t', t.removeFile p = .ok t' ∧ t'.Wf ∧ ∀ q, t'.get? q = if q = p then none else t.get? q := by
  have hp : p ≠ [] := ne_nil_of_get?_ne_dir h (by simp)
  have hget : ∀ q, (⟨t.entries.filter (·.1 != p)⟩ : FileTree).get? q =
      if q = p then none else t.get? q := get?_filter_ne hp
  refine ⟨⟨t.entries.filter (·.1 != p)⟩, ?_, ?_, hget⟩
  · simp only [removeFile, hwf.checkParents h, h]
    rfl
  · refine Wf.of_get? hwf (nodup_filter_ne hwf p) ?_ ?_
    · intro r hr
      rw [hget, if_neg]
      · exact hr
      · rintro rfl
        rw [h] at hr
        cases hr
    · intro q e hq
      rw [hget] at hq
      by_cases hqp : q = p
      · rw [if_pos hqp] at hq
        cases hq
      · rw [if_neg hqp] at hq
        exact Or.inl hq

theorem lookup_rekey (l : List (Path × Entry)) {src dst : Path} (hne : src ≠ dst)
    (hd : l.lookup dst = none) (q : Path) :
    (l.map fun e => if e.1 == src then (dst, e.2) else e).lookup q =
      if q = dst then l.lookup src else if q = src then none else l.lookup q := by
  induction l with
  | nil => simp
  | cons kx l ih =>
    obtain ⟨k, x⟩ := kx
    rw [lookup_cons_eq] at hd
    have hkd : dst ≠ k := by
      intro h
      rw [if_pos h] at hd
      cases hd
    rw [if_neg hkd] at hd
    have ih := ih hd
    by_cases hk : k = src
    · subst hk
      rw [List.map_cons, if_pos (beq_self_eq_true k), lookup_cons_eq, ih, lookup_cons_eq,
        lookup_cons_eq]
      by_cases hq : q = dst <;> by_cases hqk : q = k <;> simp [hq, hqk, hne]
    · rw [List.map_cons, if_neg (by simpa using hk), lookup_cons_eq, ih, lookup_cons_eq,
        lookup_cons_eq]
      by_cases hq : q = dst <;> by_cases hqk : q = k <;>
        simp [hq, hqk, hk, Ne.symm hk, hkd, Ne.symm hkd]

theorem lookup_replace (l : List (Path × Entry)) (p q : Path) (e : Entry) :
    (l.map fun kx => if kx.1 == p then (kx.1, e) else kx).lookup q =
      if q = p then (l.lookup q).map fun _ => e else l.lookup q := by
  induction l with
  | nil => by_cases hq : q = p <;> simp [hq]
  | cons kx l ih =>
    obtain ⟨k, x⟩ := kx
    by_cases hk : k = p
    · subst hk
      rw [List.map_cons, if_pos (beq_self_eq_true k), lookup_cons_eq, ih, lookup_cons_eq]
      by_cases hq : q = k <;> simp [hq]
    · rw [List.map_cons, if_neg (by simpa using hk), lookup_cons_eq, ih, lookup_cons_eq]
      by_cases hq : q = k
      · subst hq
        simp [hk]
      · simp [hq]

/-- Renaming a file over a path that is not a directory moves its text there and changes
nothing else. -/
theorem rename_spec (hwf : t.Wf) {src dst : Path} {text : String}
    (hsrc : t.get? src = some (.file text)) (hd : t.checkParents dst = .ok ())
    (hdst : t.get? dst ≠ some .dir) (hne : src ≠ dst) :
    ∃ t', t.rename src dst = .ok t' ∧ t'.Wf ∧
      ∀ q, t'.get? q = if q = dst then some (.file text) else if q = src then none else t.get? q := by
  have hs := hwf.checkParents hsrc
  have hdne : dst ≠ [] := by
    rintro rfl
    exact hdst rfl
  have hsne : src ≠ [] := ne_nil_of_get?_ne_dir hsrc (by simp)
  -- the tree a rename leaves, by where its destination stood
  have key : ∃ t', t.rename src dst = .ok t' ∧ (t'.entries.map Prod.fst).Nodup ∧
      ∀ q, t'.get? q = if q = dst then some (.file text) else if q = src then none else t.get? q := by
    cases hg : t.get? dst with
    | none =>
      refine ⟨⟨t.entries.map fun e => if e.1 == src then (dst, e.2) else e⟩, ?_, ?_, ?_⟩
      · simp only [rename, hs, hsrc, hd, hg]
        rfl
      · have hkeys : (t.entries.map fun e => if e.1 == src then (dst, e.2) else e).map Prod.fst =
            (t.entries.map Prod.fst).map fun k => if k == src then dst else k := by
          simp only [List.map_map]
          congr 1
          funext e
          by_cases h : e.1 = src <;> simp [h]
        rw [hkeys]
        refine hwf.nodup.map_on fun a ha b hb hab => ?_
        have hdk := not_mem_keys_of_get? hdne hg
        by_cases h₁ : a = src <;> by_cases h₂ : b = src <;> simp [h₁, h₂] at hab
        · rw [h₁, h₂]
        · exact absurd (hab ▸ hb) hdk
        · exact absurd (hab ▸ ha) hdk
        · exact hab
      · intro q
        by_cases hq : q = []
        · subst hq
          rw [if_neg (Ne.symm hdne), if_neg (Ne.symm hsne)]
          rfl
        · rw [get?_of_ne_nil hq, get?_of_ne_nil hq, lookup_rekey _ hne
            (by rwa [get?_of_ne_nil hdne] at hg), ← get?_of_ne_nil hsne, hsrc]
    | some x =>
      obtain ⟨old, rfl⟩ : ∃ old, x = .file old := by
        cases x with
        | file old => exact ⟨old, rfl⟩
        | dir => exact absurd hg hdst
      refine ⟨FileTree.replace ⟨t.entries.filter (·.1 != src)⟩ dst (.file text), ?_, ?_, ?_⟩
      · simp only [rename, hs, hsrc, hd, hg]
        rfl
      · have hkeys : (FileTree.replace ⟨t.entries.filter (·.1 != src)⟩ dst (.file text)).entries.map
            Prod.fst = (t.entries.filter (·.1 != src)).map Prod.fst := by
          simp only [replace, List.map_map]
          congr 1
          funext e
          obtain ⟨q, y⟩ := e
          by_cases h : q = dst <;> simp [h]
        rw [hkeys]
        exact nodup_filter_ne hwf src
      · intro q
        have hfilter : ∀ q, (⟨t.entries.filter (·.1 != src)⟩ : FileTree).get? q =
            if q = src then none else t.get? q := get?_filter_ne hsne
        by_cases hq : q = []
        · subst hq
          rw [if_neg (Ne.symm hdne), if_neg (Ne.symm hsne)]
          rfl
        · have hrep : (FileTree.replace ⟨t.entries.filter (·.1 != src)⟩ dst (.file text)).get? q =
              if q = dst then ((⟨t.entries.filter (·.1 != src)⟩ : FileTree).get? q).map
                fun _ => .file text else (⟨t.entries.filter (·.1 != src)⟩ : FileTree).get? q := by
            rw [get?_of_ne_nil hq, get?_of_ne_nil hq]
            unfold replace
            rw [← lookup_replace]
          rw [hrep, hfilter]
          by_cases hqd : q = dst
          · subst hqd
            simp [Ne.symm hne, hg]
          · simp [hqd]
  obtain ⟨t', hrun, hnodup, hget⟩ := key
  refine ⟨t', hrun, Wf.of_get? hwf hnodup ?_ ?_, hget⟩
  · intro r hr
    have hrd : r ≠ dst := by
      rintro rfl
      exact hdst hr
    have hrs : r ≠ src := by
      rintro rfl
      rw [hsrc] at hr
      cases hr
    rw [hget, if_neg hrd, if_neg hrs]
    exact hr
  · intro q e hq
    rw [hget] at hq
    by_cases hqd : q = dst
    · subst hqd
      right
      intro i hi
      rcases Nat.eq_zero_or_pos i with rfl | hi0
      · rfl
      · exact checkParents_eq_ok.1 hd i hi0 hi
    · by_cases hqs : q = src
      · rw [if_neg hqd, if_pos hqs] at hq
        cases hq
      · rw [if_neg hqd, if_neg hqs] at hq
        exact Or.inl hq

/-- A path is missing when a directory above it is, or when the directories are there and the
path is not. -/
def Missing (t : FileTree) (p : Path) : Prop :=
  t.checkParents p = .error .notFound ∨ (t.checkParents p = .ok () ∧ t.get? p = none)

theorem read_of_file (hwf : t.Wf) {text : String} (h : t.get? p = some (.file text)) :
    t.read p = .ok text := by
  simp only [read, hwf.checkParents h, h]
  rfl

theorem read_missing (h : t.Missing p) : t.read p = .error .notFound := by
  rcases h with hc | ⟨hc, hg⟩
  · simp only [read, hc]
    rfl
  · simp only [read, hc, hg]
    rfl

theorem removeFile_missing (h : t.Missing p) : t.removeFile p = .error .notFound := by
  rcases h with hc | ⟨hc, hg⟩
  · simp only [removeFile, hc]
    rfl
  · simp only [removeFile, hc, hg]
    rfl

theorem readDir_missing (h : t.Missing p) : t.readDir p = .error .notFound := by
  rcases h with hc | ⟨hc, hg⟩
  · simp only [readDir, hc]
    rfl
  · simp only [readDir, hc, hg]
    rfl

/-- A path that is not there, none of whose directories is a file, is missing. -/
theorem missing_of_absent (h : t.get? p = none)
    (hdirs : ∀ i, 0 < i → i < p.length → t.get? (p.take i) = some .dir ∨ t.get? (p.take i) = none) :
    t.Missing p := by
  rcases checkParents_ok_or_notFound hdirs with hc | hc
  · exact Or.inr ⟨hc, h⟩
  · exact Or.inl hc

/-- The path of a directory's entry, from the entry's name. -/
theorem child_eq_some {n : String} :
    (if q.length == p.length + 1 && q.take p.length == p then q.getLast? else none) = some n ↔
      q = p ++ [n] := by
  constructor
  · intro h
    split at h
    · rename_i hq
      simp only [Bool.and_eq_true, beq_iff_eq] at hq
      obtain ⟨hlen, htake⟩ := hq
      obtain ⟨x, hx⟩ : ∃ x, q.drop p.length = [x] :=
        List.length_eq_one_iff.1 (by rw [List.length_drop]; omega)
      have hq : q = p ++ [x] := by rw [← List.take_append_drop p.length q, htake, hx]
      rw [hq, List.getLast?_concat] at h
      rw [hq, Option.some.inj h]
    · cases h
  · rintro rfl
    simp

/-- The names listed in a directory, without repeats, are those of the paths just below it. -/
theorem readDir_spec (hwf : t.Wf) (h : t.get? p = some .dir) :
    ∃ names, t.readDir p = .ok names ∧ names.Nodup ∧
      ∀ n, n ∈ names ↔ ∃ e, t.get? (p ++ [n]) = some e := by
  let child (e : Path × Entry) : Option String :=
    if e.1.length == p.length + 1 && e.1.take p.length == p then e.1.getLast? else none
  have hchild : ∀ e n, child e = some n ↔ e.1 = p ++ [n] := fun e n => child_eq_some
  refine ⟨t.entries.filterMap child, ?_, ?_, ?_⟩
  · simp only [readDir, hwf.checkParents h, h]
    rfl
  · -- two entries with one name have one path, and paths are not repeated
    have hnodup := hwf.nodup
    generalize t.entries = l at hnodup
    induction l with
    | nil => exact List.nodup_nil
    | cons e l ih =>
      rw [List.map_cons, List.nodup_cons] at hnodup
      rw [List.filterMap_cons]
      cases hc : child e with
      | none => exact ih hnodup.2
      | some n =>
        refine List.nodup_cons.2 ⟨fun hn => ?_, ih hnodup.2⟩
        obtain ⟨e', he', hc'⟩ := List.mem_filterMap.1 hn
        have hpath : e'.1 = e.1 := ((hchild e' n).1 hc').trans ((hchild e n).1 hc).symm
        exact hnodup.1 (hpath ▸ List.mem_map_of_mem he')
  · intro n
    rw [List.mem_filterMap, get?_of_ne_nil (by simp)]
    constructor
    · rintro ⟨e, he, hc⟩
      have hpath := (hchild e n).1 hc
      refine ⟨e.2, (lookup_eq_some_iff_mem hwf.nodup).2 ?_⟩
      rw [← hpath]
      exact he
    · rintro ⟨x, hx⟩
      exact ⟨(p ++ [n], x), (lookup_eq_some_iff_mem hwf.nodup).1 hx, (hchild _ n).2 rfl⟩

theorem isDir_iff : t.isDir p = true ↔ t.get? p = some .dir := by
  simp [isDir]

/-- The directories above a path exist when its parent is a directory. -/
theorem Wf.checkParents_of_dropLast (hwf : t.Wf) (h : t.get? p.dropLast = some .dir) :
    t.checkParents p = .ok () := by
  refine checkParents_eq_ok.2 fun i _ hi => ?_
  have hle : i ≤ p.dropLast.length := by
    rw [List.length_dropLast]
    omega
  have htake : p.dropLast.take i = p.take i := by
    rw [List.dropLast_eq_take, List.take_take, Nat.min_eq_left (by omega)]
  rw [← htake]
  exact hwf.prefix_dir h hle

/-- Making a path's directories succeeds when its parent is a directory and it is not a file. -/
theorem createDirAll_of_parent (hwf : t.Wf) (hp : p ≠ []) (hparent : t.get? p.dropLast = some .dir)
    (hfile : ∀ x, t.get? p ≠ some (.file x)) : ∃ t', t.createDirAll p = .ok t' := by
  have hc := hwf.checkParents_of_dropLast hparent
  rw [createDirAll.eq_1, if_neg (by simpa using hp)]
  cases hg : t.get? p with
  | none =>
    have hm : t.mkdir p = .ok ⟨t.entries ++ [(p, .dir)]⟩ := by
      simp only [mkdir, hc, hg]
      rfl
    rw [hm]
    exact ⟨_, rfl⟩
  | some x =>
    cases x with
    | file x => exact absurd hg (hfile x)
    | dir =>
      have hm : t.mkdir p = .error .alreadyExists := by
        simp only [mkdir, hc, hg]
        rfl
      rw [hm]
      simp only [isDir_iff.2 hg, if_true]
      exact ⟨_, rfl⟩

/-- Making a path's directories leaves it a directory, and changes the tree only where a
directory above it, or itself, was missing. -/
theorem createDirAll_spec (hwf : t.Wf) :
    ∀ {t'}, t.createDirAll p = .ok t' →
      t'.Wf ∧ t'.get? p = some .dir ∧ ∀ q, t'.get? q ≠ t.get? q → q <+: p ∧ t'.get? q = some .dir := by
  induction p using createDirAll.induct t with
  | case1 p hp =>
    intro t' h
    rw [createDirAll.eq_1, if_pos hp] at h
    cases h
    obtain rfl : p = [] := List.isEmpty_iff.1 hp
    exact ⟨hwf, rfl, fun q hq => absurd rfl hq⟩
  | case2 p hp t'' hm =>
    intro t' h
    rw [createDirAll.eq_1, if_neg hp, hm] at h
    cases h
    obtain ⟨hwf', hget⟩ := mkdir_spec hwf hm
    refine ⟨hwf', by simp [hget], fun q hq => ?_⟩
    rw [hget] at hq ⊢
    by_cases hqp : q = p
    · subst hqp
      exact ⟨List.prefix_refl q, if_pos rfl⟩
    · rw [if_neg hqp] at hq
      exact absurd rfl hq
  | case3 p hp hm ih =>
    intro t' h
    rw [createDirAll.eq_1, if_neg hp, hm] at h
    -- the directories above are made first, then the path itself
    cases hup : t.createDirAll p.dropLast with
    | error e =>
      rw [hup] at h
      cases h
    | ok t₁ =>
      obtain ⟨hwf₁, hdir₁, hch₁⟩ := ih hup
      have hpre : p.dropLast <+: p := List.dropLast_prefix p
      rw [hup] at h
      simp only [bind, Except.bind] at h
      cases hm₁ : t₁.mkdir p with
      | ok t₂ =>
        simp only [hm₁] at h
        cases h
        obtain ⟨hwf₂, hget⟩ := mkdir_spec hwf₁ hm₁
        refine ⟨hwf₂, by simp [hget], fun q hq => ?_⟩
        rw [hget]
        by_cases hqp : q = p
        · subst hqp
          exact ⟨List.prefix_refl q, if_pos rfl⟩
        · rw [hget, if_neg hqp] at hq
          rw [if_neg hqp]
          obtain ⟨hq₁, hq₂⟩ := hch₁ q hq
          exact ⟨hq₁.trans hpre, hq₂⟩
      | error e =>
        simp only [hm₁] at h
        by_cases hd : t₁.isDir p = true
        · rw [if_pos hd] at h
          cases h
          refine ⟨hwf₁, isDir_iff.1 hd, fun q hq => ?_⟩
          obtain ⟨hq₁, hq₂⟩ := hch₁ q hq
          exact ⟨hq₁.trans hpre, hq₂⟩
        · rw [if_neg hd] at h
          cases h
  | case4 p hp e hne hm hd =>
    intro t' h
    rw [createDirAll.eq_1, if_neg hp, hm] at h
    split at h
    · rename_i he
      cases he
    · rename_i he
      cases he
      exact absurd rfl hne
    · rw [if_pos hd] at h
      cases h
      exact ⟨hwf, isDir_iff.1 hd, fun q hq => absurd rfl hq⟩
  | case5 p hp e hne hm hd =>
    intro t' h
    rw [createDirAll.eq_1, if_neg hp, hm] at h
    split at h
    · rename_i he
      cases he
    · rename_i he
      cases he
      exact absurd rfl hne
    · rw [if_neg hd] at h
      cases h

end FileTree

end TxnCoord.Recovery
