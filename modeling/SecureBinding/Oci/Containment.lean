import SecureBinding.Oci.Extract

/-!
# Oci.Containment

Where `ExtractAlgorithm` and `ExtractDataset` read and write.

The name of an entry is cleaned and checked before it is joined to the destination, so every file
that is created lies below the destination (`under_of_not_escapes`). A digest is not checked: its
first colon becomes a slash, and the rest is joined to the `blobs` directory as it is. With enough
`..` in it, the digest of a manifest or of a layer leads out of the image directory, and the file
that it leads to is read. So the functions stay in their directories exactly if all digests of the
image do (`DigestsInside`).
-/

namespace SecureBinding.Oci

open Go Go.Path

/-! ### Names of entries -/

theorem isPrefixOf_joinElements (e : GoString) (es : List GoString) :
    e.isPrefixOf (joinElements (e :: es)) = true := by
  rw [List.isPrefixOf_iff_prefix]
  cases es with
  | nil => simp [joinElements]
  | cons e' es =>
    exact List.prefix_append e _

/-- A name that passes the check leads to a place in the directory that it is joined to. -/
theorem descends_of_not_escapes {name : GoString} (h : escapes (clean name) = false) :
    Descends name := by
  rw [escapes, Bool.or_eq_false_iff] at h
  have hrel : isAbs name = false := by
    by_contra habs
    rw [Bool.not_eq_false] at habs
    have hsl := h.2
    simp [clean, habs] at hsl
  refine ⟨hrel, fun hup => ?_⟩
  obtain ⟨n, es, heq, hes⟩ := exists_cleanElements_eq hrel
  cases n with
  | zero =>
    rw [heq] at hup
    exact hes (by simpa using hup)
  | succ n =>
    rw [List.replicate_succ, List.cons_append] at heq
    have hdots := h.1
    rw [clean, hrel, heq, if_neg (by simp), if_neg (by simp), isPrefixOf_joinElements] at hdots
    cases hdots

theorem under_of_not_escapes {dest name : GoString} (h : escapes (clean name) = false) :
    Under dest (join dest (clean name)) :=
  under_join (descends_of_not_escapes h).clean (clean_ne_nil name)

/-! ### Digests -/

/-- Followed from the image directory, the path that is made of the digest leads to a place in
it. -/
def DigestInside (ociDir digest : GoString) : Prop :=
  ∃ rest, (steps (isAbs ociDir) (cleanElements ociDir).reverse
      (lit "blobs" ++ slash :: replaceFirst 0x3a slash digest)).reverse =
        cleanElements ociDir ++ rest ∧ dotDot ∉ rest

theorem under_blobPath_iff {ociDir digest : GoString} :
    Under ociDir (blobPath ociDir digest) ↔ DigestInside ociDir digest := by
  have hblobs : lit "blobs" ≠ [] := by decide
  unfold Under DigestInside blobPath
  by_cases hdir : ociDir = []
  · subst hdir
    rw [joinAll_nil_cons, joinAll_of_ne_nil hblobs, joinElements_cons_cons, isAbs_clean,
      cleanElements_clean]
    simp only [joinElements, List.intercalate_singleton]
    exact and_iff_right rfl
  · rw [joinAll_of_ne_nil hdir, joinElements_cons_cons, joinElements_cons_cons, isAbs_clean,
      cleanElements_clean, isAbs_append hdir, and_iff_right rfl]
    simp only [joinElements, List.intercalate_singleton]
    rw [cleanElements_eq, isAbs_append hdir, steps_append_slash, cleanElements_eq,
      List.reverse_reverse]

/-- All digests that the functions get to see in an image. -/
structure DigestsInside (ociDir : GoString) (tree : Tree) : Prop where
  manifest : ∀ digest, readIndex ociDir tree = .ok digest → DigestInside ociDir digest
  layers : ∀ digest layers, readIndex ociDir tree = .ok digest →
    readManifest ociDir digest tree = .ok layers → ∀ layer ∈ layers, DigestInside ociDir layer

theorem under_indexPath (ociDir : GoString) : Under ociDir (indexPath ociDir) :=
  under_join ⟨by decide, by decide⟩ (by decide)

/-! ### What is opened and created -/

/-- The paths that are new on a disk: some of `paths` opened, and some below the destination
created. -/
structure Touches (dest : GoString) (paths : List GoString) (d d' : Disk) : Prop where
  grown : d.opened ⊆ d'.opened
  opened : ∀ path ∈ d'.opened, path ∈ d.opened ∨ path ∈ paths
  created : ∀ path ∈ d'.created, path ∈ d.created ∨ Under dest path

variable {dest : GoString} {paths paths' : List GoString} {d d' d'' : Disk}

theorem Touches.refl : Touches dest paths d d := ⟨List.Subset.refl _, fun _ => .inl, fun _ => .inl⟩

theorem Touches.trans (h : Touches dest paths d d') (h' : Touches dest paths' d' d'') :
    Touches dest (paths ++ paths') d d'' := by
  refine ⟨List.Subset.trans h.grown h'.grown, fun path hpath => ?_, fun path hpath => ?_⟩
  · obtain hpath | hpath := h'.opened path hpath
    · exact (h.opened path hpath).imp_right (List.mem_append_left _)
    · exact .inr (List.mem_append_right _ hpath)
  · obtain hpath | hpath := h'.created path hpath
    · exact h.created path hpath
    · exact .inr hpath

theorem Touches.mono (h : Touches dest paths d d') (hsub : paths ⊆ paths') :
    Touches dest paths' d d' :=
  ⟨h.grown, fun path hpath => (h.opened path hpath).imp_right fun hp => hsub hp, h.created⟩

theorem touches_extractFile {e : Entry} (h : escapes (clean e.name) = false) :
    Touches dest [] d (extractFile dest d e).1 := by
  have hcreated : ∀ path ∈ d.created ++ [join dest (clean e.name)],
      path ∈ d.created ∨ Under dest path := by
    intro path hpath
    obtain hpath | hpath := List.mem_append.mp hpath
    · exact .inl hpath
    · rw [List.mem_singleton.mp hpath]
      exact .inr (under_of_not_escapes h)
  simp only [extractFile]
  split
  · exact ⟨List.Subset.refl _, fun _ => .inl, fun _ => .inl⟩
  · split
    · exact ⟨List.Subset.refl _, fun _ => .inl, hcreated⟩
    · exact ⟨List.Subset.refl _, fun _ => .inl, hcreated⟩

variable {σ : Type} {c : Collector σ} {env : Env}

variable {acc : σ} {layerPath : GoString} {digests : List GoString}

theorem touches_extractEntries {err : Option GoString} {es : List Entry} :
    Touches dest [] d (extractEntries c dest err d acc es).1 := by
  induction es generalizing d acc with
  | nil => exact .refl
  | cons e es ih =>
    rw [extractEntries]
    split
    · exact ih
    · split
      · exact ih
      · rename_i hwanted
        rw [not_or, Bool.not_eq_true (escapes _)] at hwanted
        have hfile : Touches dest [] d (extractFile dest d e).1 := touches_extractFile hwanted.2
        split
        · rename_i hext
          rw [hext] at hfile
          exact hfile
        · rename_i hext
          rw [hext] at hfile
          exact hfile.trans ih

theorem touches_extractLayer :
    Touches dest [layerPath] d (extractLayer c dest env layerPath d acc).1 := by
  have hopen : ∀ layers, Touches dest [layerPath] d
      { d with opened := d.opened ++ [layerPath], layers } :=
    fun _ => ⟨List.subset_append_left _ _, fun _ => List.mem_append.mp, fun _ => .inl⟩
  simp only [extractLayer]
  split
  · exact hopen _
  · exact (hopen _).trans touches_extractEntries

theorem mem_opened_extractLayer :
    layerPath ∈ (extractLayer c dest env layerPath d acc).1.opened := by
  simp only [extractLayer]
  split
  · simp
  · exact touches_extractEntries.grown (by simp)

theorem Touches.warn {warnings : List (GoString × LayerError)} (h : Touches dest paths d d') :
    Touches dest paths d { d' with warnings } := ⟨h.grown, h.opened, h.created⟩

theorem touches_extractLayerDataFiles :
    Touches dest [layerPath] d (extractLayerDataFiles env layerPath dest d).1 ∧
      layerPath ∈ (extractLayerDataFiles env layerPath dest d).1.opened := by
  have h : Touches dest [layerPath] d (extractLayer (dataFiles env) dest env layerPath d []).1 ∧
      layerPath ∈ (extractLayer (dataFiles env) dest env layerPath d []).1.opened :=
    ⟨touches_extractLayer, mem_opened_extractLayer⟩
  unfold extractLayerDataFiles
  split <;> simpa [*] using h

theorem touches_extractDatasetLayers {ociDir : GoString} {files : List GoString} :
    Touches dest (digests.map (blobPath ociDir)) d
        (extractDatasetLayers env ociDir dest d files digests).1 ∧
      ∀ digest ∈ digests,
        blobPath ociDir digest ∈ (extractDatasetLayers env ociDir dest d files digests).1.opened := by
  induction digests generalizing d files with
  | nil => exact ⟨.refl, by simp⟩
  | cons digest digests ih =>
    have hnext : ∀ {d' : Disk} {files' : List GoString},
        Touches dest [blobPath ociDir digest] d d' → blobPath ociDir digest ∈ d'.opened →
        Touches dest ((digest :: digests).map (blobPath ociDir)) d
            (extractDatasetLayers env ociDir dest d' files' digests).1 ∧
          ∀ digest' ∈ digest :: digests, blobPath ociDir digest' ∈
            (extractDatasetLayers env ociDir dest d' files' digests).1.opened := by
      intro d' files' hlay hmem
      refine ⟨hlay.trans ih.1, fun digest' hdig => ?_⟩
      obtain rfl | hdig := List.mem_cons.mp hdig
      · exact ih.1.grown hmem
      · exact ih.2 digest' hdig
    obtain ⟨hlay, hmem⟩ : _ ∧ _ :=
      @touches_extractLayerDataFiles dest d env (blobPath ociDir digest)
    rw [extractDatasetLayers]
    split
    · rename_i hext
      rw [hext] at hlay hmem
      exact hnext hlay.warn hmem
    · rename_i hext
      rw [hext] at hlay hmem
      exact hnext hlay hmem

theorem touches_extractAlgorithmLayers {ociDir algoType : GoString} {f : Found} :
    Touches dest (digests.map (blobPath ociDir)) d
      (extractAlgorithmLayers env ociDir dest algoType d f digests).1 := by
  induction digests generalizing d f with
  | nil => exact .refl
  | cons digest digests ih =>
    have hlay : Touches dest [blobPath ociDir digest] d
        (extractLayerAndFindAlgorithm env (blobPath ociDir digest) dest algoType d).1 := by
      unfold extractLayerAndFindAlgorithm
      have h : Touches dest [blobPath ociDir digest] d
          (extractLayer (algorithmFiles env algoType) dest env (blobPath ociDir digest) d {}).1 :=
        touches_extractLayer
      split <;> simpa [*] using h
    rw [extractAlgorithmLayers]
    split
    · rename_i hext
      rw [hext] at hlay
      exact hlay.warn.trans ih
    · rename_i hext
      rw [hext] at hlay
      dsimp only
      split
      · exact hlay.mono (by simp)
      · exact hlay.trans ih

/-! ### Staying inside -/

/-- Everything that was opened for reading lies in the image directory, and everything that was
created lies in the destination. -/
structure Contained (ociDir dest : GoString) (d : Disk) : Prop where
  opened : ∀ path ∈ d.opened, Under ociDir path
  created : ∀ path ∈ d.created, Under dest path

variable {ociDir algoType : GoString} {tree : Tree}

theorem Touches.contained (h : Touches dest paths d d') (hd : Contained ociDir dest d)
    (hpaths : ∀ path ∈ paths, Under ociDir path) : Contained ociDir dest d' where
  opened path hpath := (h.opened path hpath).elim (hd.opened path) (hpaths path)
  created path hpath := (h.created path hpath).elim (hd.created path) id

theorem contained_findLayers (h : DigestsInside ociDir tree) :
    Contained ociDir dest (findLayers ociDir { tree }).1 := by
  simp only [findLayers]
  split
  · refine ⟨fun path hpath => ?_, by simp⟩
    obtain rfl : path = indexPath ociDir := by simpa using hpath
    exact under_indexPath ociDir
  · rename_i digest hidx
    refine ⟨fun path hpath => ?_, by simp⟩
    obtain rfl | rfl : path = indexPath ociDir ∨ path = blobPath ociDir digest := by
      simpa using hpath
    · exact under_indexPath ociDir
    · exact under_blobPath_iff.mpr (h.manifest digest hidx)

theorem findLayers_eq_ok (h : findLayers ociDir { tree } = (d, .ok digests)) :
    ∃ digest, readIndex ociDir tree = .ok digest ∧ readManifest ociDir digest tree = .ok digests := by
  simp only [findLayers] at h
  split at h
  · simp at h
  · rename_i digest hidx
    rw [Prod.mk.injEq] at h
    exact ⟨digest, hidx, h.2⟩

theorem under_of_mem_digests (h : DigestsInside ociDir tree)
    (hfind : findLayers ociDir { tree } = (d, .ok digests)) :
    ∀ path ∈ digests.reverse.map (blobPath ociDir), Under ociDir path := by
  obtain ⟨digest, hidx, hman⟩ := findLayers_eq_ok hfind
  intro path hpath
  obtain ⟨layer, hlay, rfl⟩ := List.mem_map.mp hpath
  exact under_blobPath_iff.mpr
    (h.layers digest digests hidx hman layer (List.mem_reverse.mp hlay))

theorem extractDataset_disk (h : findLayers ociDir d = (d', .ok digests)) :
    (extractDataset env ociDir dest d).1 =
      (extractDatasetLayers env ociDir dest d' [] digests.reverse).1 := by
  simp only [extractDataset, h]
  cases extractDatasetLayers env ociDir dest d' [] digests.reverse with
  | mk d'' files => cases files <;> rfl

theorem extractAlgorithm_disk (h : findLayers ociDir d = (d', .ok digests)) :
    (extractAlgorithm env ociDir dest algoType d).1 =
      (extractAlgorithmLayers env ociDir dest algoType d' {} digests.reverse).1 := by
  simp only [extractAlgorithm, h]
  split <;> rfl

theorem contained_extractDataset (h : DigestsInside ociDir tree) :
    Contained ociDir dest (extractDataset env ociDir dest { tree }).1 := by
  have hfind : Contained ociDir dest (findLayers ociDir { tree }).1 := contained_findLayers h
  cases heq : findLayers ociDir { tree } with
  | mk d res =>
    rw [heq] at hfind
    cases res with
    | error err =>
      simp only [extractDataset, heq]
      exact hfind
    | ok digests =>
      rw [extractDataset_disk heq]
      exact touches_extractDatasetLayers.1.contained hfind (under_of_mem_digests h heq)

theorem contained_extractAlgorithm (h : DigestsInside ociDir tree) :
    Contained ociDir dest (extractAlgorithm env ociDir dest algoType { tree }).1 := by
  have hfind : Contained ociDir dest (findLayers ociDir { tree }).1 := contained_findLayers h
  cases heq : findLayers ociDir { tree } with
  | mk d res =>
    rw [heq] at hfind
    cases res with
    | error err =>
      simp only [extractAlgorithm, heq]
      exact hfind
    | ok digests =>
      rw [extractAlgorithm_disk heq]
      exact touches_extractAlgorithmLayers.contained hfind (under_of_mem_digests h heq)

theorem findLayers_of_readIndex {digest : GoString} (h : readIndex ociDir tree = .ok digest) :
    findLayers ociDir { tree } = ({ tree, opened := [indexPath ociDir, blobPath ociDir digest] },
        readManifest ociDir digest tree) := by
  simp [findLayers, h]

/-- Everything that is found in the metadata is opened. -/
theorem digestsInside_of_contained
    (h : Contained ociDir dest (extractDataset env ociDir dest { tree }).1) :
    DigestsInside ociDir tree := by
  refine ⟨fun digest hidx => ?_, fun digest layers hidx hman layer hlay => ?_⟩
  · have hfind := findLayers_of_readIndex hidx
    refine under_blobPath_iff.mp (h.opened _ ?_)
    cases hman : readManifest ociDir digest tree with
    | error err => simp [extractDataset, hfind, hman]
    | ok digests =>
      rw [hman] at hfind
      rw [extractDataset_disk hfind]
      exact touches_extractDatasetLayers.1.grown (by simp)
  · have hfind := findLayers_of_readIndex hidx
    rw [hman] at hfind
    refine under_blobPath_iff.mp (h.opened _ ?_)
    rw [extractDataset_disk hfind]
    exact touches_extractDatasetLayers.2 layer (List.mem_reverse.mpr hlay)

/-- Both functions stay in their directories exactly if the digests of the image do. -/
theorem contained_iff_digestsInside (env : Env) (ociDir dest : GoString) (tree : Tree) :
    ((∀ algoType, Contained ociDir dest (extractAlgorithm env ociDir dest algoType { tree }).1) ∧
        Contained ociDir dest (extractDataset env ociDir dest { tree }).1) ↔
      DigestsInside ociDir tree := by
  constructor
  · intro h
    exact digestsInside_of_contained h.2
  · intro h
    exact ⟨fun _ => contained_extractAlgorithm h, contained_extractDataset h⟩

/-- Reading is another matter, but no file is written outside of the destination, whatever the
image and its layers are and wherever the extraction fails. -/
theorem created_inside_destination (env : Env) (ociDir dest : GoString) (tree : Tree) :
    (∀ algoType, ∀ path ∈ (extractAlgorithm env ociDir dest algoType { tree }).1.created,
        Under dest path) ∧
      ∀ path ∈ (extractDataset env ociDir dest { tree }).1.created, Under dest path := by
  -- Nothing has been created when the layers are known.
  have hnone : ∀ path, path ∉ (findLayers ociDir { tree }).1.created := by
    simp only [findLayers]
    split <;> simp
  cases heq : findLayers ociDir { tree } with
  | mk d res =>
    rw [heq] at hnone
    cases res with
    | error err => simp [extractAlgorithm, extractDataset, heq, hnone]
    | ok digests =>
      refine ⟨fun algoType path hpath => ?_, fun path hpath => ?_⟩
      · rw [extractAlgorithm_disk heq] at hpath
        exact (touches_extractAlgorithmLayers.created path hpath).resolve_left (hnone path)
      · rw [extractDataset_disk heq] at hpath
        exact (touches_extractDatasetLayers.1.created path hpath).resolve_left (hnone path)

/-- An image whose manifest is somewhere else. -/
def escapingTree : Tree where
  cwd := []
  nodes := [([lit "image"], .dir), ([lit "image", lit "index.json"],
        .file (lit "\x7b\"manifests\":[\x7b\"digest\":\"../../etc/passwd\"\x7d]\x7d")),
      ([lit "etc"], .dir), ([lit "etc", lit "passwd"], .file (lit "root:x:0:0"))]

/-- No layer can be decoded. -/
def brokenEnv : Env where
  decode _ := .error (lit "gzip: invalid header")
  unicodeLower := id

theorem digest_leads_out :
    ∃ path ∈ (extractDataset brokenEnv (lit "/image") (lit "/out") { tree := escapingTree }).1.opened,
      ¬Under (lit "/image") path := by
  refine ⟨lit "/etc/passwd", by decide +kernel, fun h => ?_⟩
  obtain ⟨-, rest, heq, -⟩ := h
  have hhead := congrArg List.head? heq
  rw [show cleanElements (lit "/image") = [lit "image"] by decide, List.singleton_append,
    List.head?_cons] at hhead
  exact absurd hhead (by decide)

end SecureBinding.Oci
