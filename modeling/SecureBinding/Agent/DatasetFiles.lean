import SecureBinding.Agent.System

/-!
# Agent.DatasetFiles

What becomes of the files of accepted datasets.

A dataset is stored under a name that the manifest need not fix, and nothing keeps an upload or
the content of an archive from having the name of a dataset that was stored before. `Spares` and
`SparesAll` say of an operation that this does not happen. Then the file of every accepted
dataset that was not unpacked holds the data it was accepted for (`kept_data`,
`kept_downloadDatasets`).
-/

namespace SecureBinding.Agent

open Go Lib
open Agent.System (place target offeredName)

variable {env : Env} {s : Service} {f : Files} {c : DataCall} {placed : List Placed}

/-- The content of a file of the datasets directory. -/
def Files.read (f : Files) (path : GoString) : Option Bytes := f.datasets.bind fun dir => dir path

/-- The files of the datasets that were not unpacked. -/
def paths (placed : List Placed) : List GoString := placed.filterMap (·.path)

/-- The files of accepted datasets hold the data. -/
structure Kept (f : Files) (placed : List Placed) : Prop where
  read : ∀ x ∈ placed, ∀ path, x.path = some path → f.read path = some x.data
  path : ∀ x ∈ placed, x.unpacked = false → x.path ≠ none

theorem kept_nil : Kept f [] := ⟨by simp, by simp⟩

theorem Kept.exists_file {x : Placed} (h : Kept f placed)
    (hx : x ∈ placed) (hpl : x.unpacked = false) :
    ∃ dir path, f.datasets = some dir ∧ dir path = some x.data := by
  obtain ⟨path, hpath⟩ := Option.ne_none_iff_exists'.mp (h.path x hx hpl)
  obtain ⟨dir, hdir, hread⟩ := Option.bind_eq_some_iff.mp (h.read x hx path hpath)
  exact ⟨dir, path, hdir, hread⟩

/-! ### One dataset -/

/-- To store this dataset does not write to one of these files. -/
structure Spares (env : Env) (f : Files) (paths : List GoString) (getwd : Except GoString GoString)
    (decompress : Bool) (filename : GoString) (data : Bytes) : Prop where
  unzip : decompress = true → ∀ path ∈ paths,
    ((env.unzip data f.datasets).2.bind fun dir => dir path) = f.read path
  file : ∀ path, target getwd decompress filename = some path → path ∉ paths

section Store

variable {paths : List GoString} {getwd : Except GoString GoString} {disk : FileIO}
  {decompress : Bool} {filename : GoString} {data : Bytes} {unzipText closeText : GoString}

variable {path : GoString}

theorem read_writeDataset_of_ne {path' : GoString} (hne : path' ≠ path) :
    (f.writeDataset path data disk closeText).2.read path' = f.read path' := by
  unfold Files.writeDataset
  split
  · rfl
  · rfl
  rename_i dir hdir _
  split <;> simp [Files.read, hdir, Function.update_of_ne hne]

theorem read_writeDataset_self (hok : (f.writeDataset path data disk closeText).1 = none) :
    (f.writeDataset path data disk closeText).2.read path = some data := by
  unfold Files.writeDataset at hok ⊢
  cases hdir : f.datasets with
  | none => simp [hdir] at hok
  | some dir =>
    cases hcr : disk.create with
    | some err => simp [hdir, hcr] at hok
    | none =>
      cases hwr : disk.write with
      | some x => simp [hdir, hcr, hwr] at hok
      | none => simp [Files.read]

theorem read_store_of_mem (h : Spares env f paths getwd decompress filename data)
    (hmem : path ∈ paths) :
    (store env f getwd disk decompress filename data unzipText closeText).2.read path =
      f.read path := by
  unfold store
  cases decompress with
  | true => exact h.unzip rfl path hmem
  | false =>
    simp only [Bool.false_eq_true, if_false]
    split
    · rfl
    · rename_i path' hpath
      refine read_writeDataset_of_ne fun heq => ?_
      exact h.file path' (by simp [target, hpath, Except.toOption]) (heq ▸ hmem)

/-- What was stored without unpacking is in its file. -/
theorem read_store_target
    (hok : (store env f getwd disk decompress filename data unzipText closeText).1 = none) (hpath : target getwd decompress filename = some path) :
    (store env f getwd disk decompress filename data unzipText closeText).2.read path =
      some data := by
  unfold store at hok ⊢
  cases decompress with
  | true => cases hpath
  | false =>
    simp only [target] at hpath
    cases heq : datasetFilePath getwd filename with
    | error err => simp [heq] at hok
    | ok path' =>
      simp only [heq] at hok
      obtain rfl : path' = path := by simpa [heq, Except.toOption] using hpath
      exact read_writeDataset_self hok

theorem target_ne_none
    (hok : (store env f getwd disk decompress filename data unzipText closeText).1 = none)
    (hpl : decompress = false) : target getwd decompress filename ≠ none := by
  subst hpl
  unfold store at hok
  simp only [Bool.false_eq_true, if_false] at hok
  split at hok
  · cases hok
  · rename_i path heq
    simp [target, heq, Except.toOption]

end Store

theorem Kept.of_spares {f' : Files} (h : Kept f placed)
    (hread : ∀ path ∈ paths placed, f'.read path = f.read path) : Kept f' placed where
  read x hx path hpath := by
    rw [hread path (List.mem_filterMap.mpr ⟨x, hx, hpath⟩)]
    exact h.read x hx path hpath
  path := h.path

theorem Kept.append {x : Placed} (h : Kept f placed)
    (hread : ∀ path, x.path = some path → f.read path = some x.data)
    (hpath : x.unpacked = false → x.path ≠ none) : Kept f (placed ++ [x]) where
  read := List.forall_mem_append.mpr ⟨h.read, by simpa using hread⟩
  path := List.forall_mem_append.mpr ⟨h.path, by simpa using hpath⟩

theorem Offered.name {data : Bytes} {filename : GoString} (h : Offered s c data filename) :
    offeredName s c = filename := by
  unfold offeredName
  cases h with
  | upload h => rw [h]
  | download h => rw [h]

/-- `Data` keeps the files of accepted datasets, and those of the one it accepts. -/
theorem kept_data {o : Outcome} (h : DataResult env s f c o) (hkept : Kept f placed)
    (hspa : ∀ data filename, Offered s c data filename →
      Spares env f (paths placed) c.getwd c.decompress filename data) :
    Kept o.files (placed ++ o.consumed.map (place s (.data c))) ∧ o.files.algo = f.algo := by
  cases h with
  | @accepted d i data filename h =>
    have hspare := hspa data filename h.offered
    refine ⟨(hkept.of_spares fun path hmem => read_store_of_mem hspare hmem).append ?_ ?_,
      algo_store ..⟩
    · intro path hpath
      simp only [place, h.offered.name] at hpath
      exact read_store_target h.stored hpath
    · intro hpl
      simp only [place, h.offered.name] at hpl ⊢
      exact target_ne_none h.stored hpl
  | rejected _ hf =>
    obtain rfl | ⟨i, data, filename, hoff, rfl⟩ := hf
    · exact ⟨by simpa [Service.reject] using hkept, rfl⟩
    · refine ⟨?_, algo_store ..⟩
      simp only [Service.reject, List.map_nil, List.append_nil]
      exact hkept.of_spares fun path hmem => read_store_of_mem (hspa data filename hoff) hmem

/-! ### The datasets of a download -/

/-- The file that the action writes a dataset to, for these remote sources. -/
def remoteTarget (remote : Dataset → Option ResourceSource) (c : DataCall) (d : Dataset) :
    Option GoString :=
  if (remote d).isSome then target c.getwd d.decompress d.filename else none

/-- To download those of the datasets that have a remote source writes to none of these files,
nor to one of their files twice. -/
structure SparesAll (env : Env) (remote : Dataset → Option ResourceSource) (c : DataCall)
    (ds : List Dataset) (paths : List GoString) : Prop where
  fresh : ∀ d ∈ ds, ∀ path, remoteTarget remote c d = some path → path ∉ paths
  distinct : (ds.filterMap (remoteTarget remote c)).Nodup
  unzip : ∀ d ∈ ds, d.decompress = true → ∀ source res, remote d = some source →
    downloadAndDecryptResource c.oci source = .ok res → ∀ path,
      path ∈ paths ∨ path ∈ ds.filterMap (remoteTarget remote c) → ∀ datasets,
        ((env.unzip res.data datasets).2.bind fun dir => dir path) =
          datasets.bind fun dir => dir path

variable {remote : Dataset → Option ResourceSource}

variable {ds : List Dataset} {d : Dataset}

theorem SparesAll.init {paths : List GoString} (h : SparesAll env remote c (ds ++ [d]) paths) :
    SparesAll env remote c ds (paths ++ (remoteTarget remote c d).toList) where
  fresh d' hd' path hpath hmem := by
    obtain hmem | hmem := List.mem_append.mp hmem
    · exact h.fresh d' (List.mem_append_left _ hd') path hpath hmem
    · -- The files of two datasets of the list are different.
      have hdst := h.distinct
      rw [List.filterMap_append, List.nodup_append] at hdst
      refine hdst.2.2 path (List.mem_filterMap.mpr ⟨d', hd', hpath⟩) path ?_ rfl
      exact List.mem_filterMap.mpr ⟨d, List.mem_singleton_self d, Option.mem_toList.mp hmem⟩
  distinct := by
    have hdst := h.distinct
    rw [List.filterMap_append, List.nodup_append] at hdst
    exact hdst.1
  unzip d' hd' hpacked source res hsrc hres path hmem := by
    refine h.unzip d' (List.mem_append_left _ hd') hpacked source res hsrc hres path ?_
    rw [List.filterMap_append, List.mem_append]
    obtain hmem | hmem := hmem
    · obtain hmem | hmem := List.mem_append.mp hmem
      · exact .inl hmem
      · exact .inr (.inr (List.mem_filterMap.mpr
          ⟨d, List.mem_singleton_self d, Option.mem_toList.mp hmem⟩))
    · exact .inr (.inl hmem)

theorem SparesAll.mono {paths paths' : List GoString}
    (h : SparesAll env remote c ds paths) (hsub : ∀ path ∈ paths', path ∈ paths) :
    SparesAll env remote c ds paths' where
  fresh d hd path hpath hmem := h.fresh d hd path hpath (hsub path hmem)
  distinct := h.distinct
  unzip d hd hpacked source res hsrc hres path hmem :=
    h.unzip d hd hpacked source res hsrc hres path (hmem.imp_left (hsub path))

theorem SparesAll.spares {paths : List GoString} {source : ResourceSource} {res : DecryptedResource}
    (h : SparesAll env remote c (ds ++ [d]) paths) (hsrc : remote d = some source)
    (hres : downloadAndDecryptResource c.oci source = .ok res) :
    Spares env f paths c.getwd d.decompress d.filename res.data where
  unzip hpacked path hmem :=
    h.unzip d (List.mem_append_right _ (List.mem_singleton_self d)) hpacked source res hsrc hres
      path (.inl hmem) f.datasets
  file path hpath := h.fresh d (List.mem_append_right _ (List.mem_singleton_self d)) path
      (by rw [remoteTarget, hsrc]; exact hpath)

theorem take_succ_of_getElem? {i : Nat} (hd : s.pending[i]? = some d) :
    s.pending.take (i + 1) = s.pending.take i ++ [d] := by
  rw [List.take_add_one, hd]
  rfl

/-- The loop of the action keeps the files of accepted datasets, and those it accepts. -/
theorem kept_downloadDatasets {i : Nat} {o : Outcome} (h : DownloadResult env c s f i o)
    (hkept : Kept f placed) (hspa : SparesAll env s.computation.remoteDataset c (s.pending.take i) (paths placed)) :
    Kept o.files (placed ++ o.consumed.map (place s (.downloadDatasets c))) ∧
      o.files.algo = f.algo := by
  induction h generalizing placed with
  | done => exact ⟨by simpa using hkept, rfl⟩
  -- Neither a dataset without a source nor the end of the list is asked to spare anything.
  | @skip s f i o hskip rest ih =>
    refine ih hkept ?_
    by_cases hlt : i < s.pending.length
    · rw [take_succ_of_getElem? (List.getElem?_eq_getElem hlt)] at hspa
      exact hspa.init.mono fun path hmem => List.mem_append_left _ hmem
    · rw [List.take_of_length_le (Nat.le_succ_of_le (Nat.le_of_not_lt hlt))] at hspa
      rw [List.take_of_length_le (Nat.le_of_not_lt hlt)]
      exact hspa
  -- A failed download may have written all the same, but not over what is to be kept.
  | @failed s f f' i d source err hd hrem hload =>
    rw [take_succ_of_getElem? hd] at hspa
    simp only [Service.fail, List.map_nil, List.append_nil]
    obtain ⟨err', heq⟩ | ⟨res, hres, -, heq⟩ := downloadDataset_cases env f c d i source
    · obtain rfl : f = f' := (Prod.mk.inj (heq.symm.trans hload)).2
      exact ⟨hkept, rfl⟩
    · obtain rfl : (storeDownload env f c d i res.data).2 = f' :=
        (Prod.mk.inj (heq.symm.trans hload)).2
      exact ⟨hkept.of_spares fun path hmem => read_store_of_mem (hspa.spares hrem hres) hmem,
        algo_store ..⟩
  | @took s f f' i d source data o hd hrem hload rest ih =>
    rw [take_succ_of_getElem? hd] at hspa
    obtain ⟨err', heq⟩ | ⟨res, hres, -, heq⟩ := downloadDataset_cases env f c d i source
    · cases heq.symm.trans hload
    · obtain ⟨hok, hf'⟩ := Prod.mk.inj (heq.symm.trans hload)
      obtain rfl : (storeDownload env f c d i res.data).2 = f' := hf'
      have hstd : (storeDownload env f c d i res.data).1 = none ∧ res.data = data := by
        generalize (storeDownload env f c d i res.data).1 = err at hok
        cases err with
        | some err => cases hok
        | none => exact ⟨rfl, Except.ok.inj hok⟩
      obtain ⟨hstd, rfl⟩ := hstd
      -- The file that was written joins those to be kept, and the rest of the loop spares it too.
      have hkept' : Kept (storeDownload env f c d i res.data).2
          (placed ++ [place s (.downloadDatasets c) (d, res.data)]) :=
        (hkept.of_spares fun path hmem =>
          read_store_of_mem (hspa.spares hrem hres) hmem).append
          (fun path hpath => read_store_target hstd hpath)
          (fun hpl => target_ne_none hstd hpl)
      have hpaths : paths (placed ++ [place s (.downloadDatasets c) (d, res.data)]) =
          paths placed ++ (remoteTarget s.computation.remoteDataset c d).toList := by
        rw [paths, List.filterMap_append, remoteTarget, hrem]
        rfl
      have hrest : SparesAll env (s.consume i).computation.remoteDataset c
          ((s.consume i).pending.take i)
          (paths (placed ++ [place s (.downloadDatasets c) (d, res.data)])) := by
        rw [hpaths, pending_consume, List.take_eraseIdx_eq_take_of_le _ _ _ (Nat.le_refl i)]
        exact hspa.init
      obtain ⟨hall, halgo⟩ := ih hkept' hrest
      refine ⟨?_, halgo.trans (algo_store ..)⟩
      rw [List.append_assoc] at hall
      exact hall

end SecureBinding.Agent
