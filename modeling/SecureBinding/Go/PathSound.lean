import SecureBinding.Go.Path

/-!
# Go.PathSound

Cleaning and joining paths, in terms of their elements.

Following a path from a directory is a walk over its elements (`steps`), with the elements of
the directory on a stack. Cleaning a path does not change where it leads (`steps_clean`), from
any directory; so the elements of a joined path are those of the first part followed by a walk
over the second (`cleanElements_join`).
-/

namespace SecureBinding.Go.Path

/-- Where the elements of a path lead, `out` being the elements so far, the last one first. -/
def steps (rooted : Bool) (out : List GoString) (path : GoString) : List GoString :=
  (split slash path).foldl (cleanElement rooted) out

/-- The elements of the absolute path that a path stands for in a working directory. -/
def resolve (cwd : List GoString) (path : GoString) : List GoString :=
  (steps true (if isAbs path then [] else cwd.reverse) path).reverse

theorem cleanElements_eq (path : GoString) :
    cleanElements path = (steps (isAbs path) [] path).reverse := rfl

theorem split_append_slash (a b : GoString) :
    split slash (a ++ slash :: b) = split slash a ++ split slash b :=
  List.splitOnP_append_cons a b (beq_self_eq_true slash)

variable {e path a : GoString} {r : Bool} {out es st : List GoString}

theorem slash_notMem_of_mem_split {p : GoString} (h : e ∈ split slash p) : slash ∉ e := by
  induction p generalizing e with
  | nil =>
    obtain rfl : e = [] := by simpa [split] using h
    simp
  | cons a p ih =>
    rw [split, List.splitOn, List.splitOnP_cons_eq_if_modifyHead] at h
    split at h
    · rcases List.mem_cons.mp h with rfl | h
      · simp
      · exact ih h
    · rename_i ha
      cases hs : p.splitOnP (· == slash) with
      | nil => simp [hs] at h
      | cons e' es =>
        have ih' : ∀ e ∈ e' :: es, slash ∉ e := fun e he =>
          ih (by rw [split, List.splitOn, hs]; exact he)
        rw [hs, List.modifyHead_cons] at h
        rcases List.mem_cons.mp h with rfl | h
        · simp only [List.mem_cons, not_or]
          refine ⟨?_, ih' e' (by simp)⟩
          intro heq
          simp [← heq] at ha
        · exact ih' e (by simp [h])

/-- An element of a cleaned path. -/
structure IsElement (e : GoString) : Prop where
  ne_nil : e ≠ []
  ne_dot : e ≠ dot
  noSlash : slash ∉ e

/-- The elements of a cleaned path; above the root there is nothing. -/
structure IsClean (rooted : Bool) (out : List GoString) : Prop where
  each : ∀ e ∈ out, IsElement e
  below : rooted = true → dotDot ∉ out

theorem cleanElement_skip (h : e = [] ∨ e = dot) : cleanElement r out e = out := if_pos h

theorem cleanElement_push (h : IsElement e)
    (hup : e ≠ dotDot) : cleanElement r out e = e :: out := by
  simp [cleanElement.eq_def, h.ne_nil, h.ne_dot, hup]

theorem cleanElement_up (h : e ≠ dotDot) : cleanElement r (e :: out) dotDot = out := by
  have hskip : ¬(dotDot = [] ∨ dotDot = dot) := by decide
  simp [cleanElement.eq_def, hskip, h]

theorem isElement_dotDot : IsElement dotDot := ⟨by decide, by decide, by decide⟩

theorem isClean_nil (r : Bool) : IsClean r [] := ⟨by simp, by simp⟩

theorem IsClean.cleanElement
    (h : IsClean r out) (he : slash ∉ e) : IsClean r (cleanElement r out e) := by
  by_cases hskip : e = [] ∨ e = dot
  · rwa [cleanElement_skip hskip]
  rw [not_or] at hskip
  have helem : IsElement e := ⟨hskip.1, hskip.2, he⟩
  by_cases hup : e = dotDot
  · subst hup
    cases out with
    | nil =>
      cases r with
      | true => exact isClean_nil true
      | false =>
        refine ⟨fun e he => ?_, by simp⟩
        obtain rfl : e = dotDot := by simpa [Path.cleanElement, dotDot, dot] using he
        exact isElement_dotDot
    | cons last rest =>
      by_cases hlast : last = dotDot
      · subst hlast
        have hr : r = false := by
          cases r with
          | false => rfl
          | true => exact absurd (h.below rfl) (by simp)
        subst hr
        refine ⟨fun e he => ?_, by simp⟩
        have he' : e = dotDot ∨ e ∈ dotDot :: rest := by
          simpa [Path.cleanElement, dotDot, dot] using he
        rcases he' with rfl | he'
        · exact isElement_dotDot
        · exact h.each e he'
      · rw [cleanElement_up hlast]
        exact ⟨fun e he => h.each e (by simp [he]), fun hr hmem => h.below hr (by simp [hmem])⟩
  · rw [cleanElement_push helem hup]
    refine ⟨fun e' he' => ?_, fun hr hmem => ?_⟩
    · rcases List.mem_cons.mp he' with rfl | he'
      · exact helem
      · exact h.each e' he'
    · rcases List.mem_cons.mp hmem with heq | hmem
      · exact hup heq.symm
      · exact h.below hr hmem

theorem IsClean.foldl (hes : ∀ e ∈ es, slash ∉ e) (h : IsClean r out) :
    IsClean r (es.foldl (Path.cleanElement r) out) := by
  induction es generalizing out with
  | nil => exact h
  | cons e es ih =>
    exact ih (fun e' he' => hes e' (by simp [he'])) (h.cleanElement (hes e (by simp)))

theorem IsClean.steps (h : IsClean r out) (path : GoString) : IsClean r (steps r out path) :=
  h.foldl fun _ he => slash_notMem_of_mem_split he

/-! ### Cleaning -/

/-- Walking over the elements of a cleaned path leads where the path itself leads: what
`cleanElement` drops is undone by the element that drops it. -/
theorem foldl_cleanElement_reverse (hout : IsClean false out) :
    (cleanElement false out e).reverse.foldl (cleanElement r) st =
      cleanElement r (out.reverse.foldl (cleanElement r) st) e := by
  by_cases hskip : e = [] ∨ e = dot
  · rw [cleanElement_skip hskip, cleanElement_skip hskip]
  have hpush : (e :: out).reverse.foldl (cleanElement r) st =
      cleanElement r (out.reverse.foldl (cleanElement r) st) e := by
    rw [List.reverse_cons, List.foldl_append]
    rfl
  by_cases hup : e = dotDot
  · subst hup
    cases out with
    | nil => rfl
    | cons last rest =>
      by_cases hlast : last = dotDot
      · subst hlast
        exact hpush
      · rw [cleanElement_up hlast, List.reverse_cons, List.foldl_append]
        show _ = cleanElement r (cleanElement r _ last) dotDot
        rw [cleanElement_push (hout.each last (by simp)) hlast, cleanElement_up hlast]
  · have hclean : cleanElement false out e = e :: out := by
      simp [cleanElement.eq_def, hskip, hup]
    rw [hclean, hpush]

theorem foldl_reverse_foldl (hes : ∀ e ∈ es, slash ∉ e) (hout : IsClean false out) :
    (es.foldl (cleanElement false) out).reverse.foldl (cleanElement r) st =
      es.foldl (cleanElement r) (out.reverse.foldl (cleanElement r) st) := by
  induction es generalizing out with
  | nil => rfl
  | cons e es ih =>
    rw [List.foldl_cons, List.foldl_cons,
      ih (fun e' he' => hes e' (by simp [he'])) (hout.cleanElement (hes e (by simp))),
      foldl_cleanElement_reverse hout]

/-- Below the root, a clean list of elements is walked as it is. -/
theorem foldl_reverse_of_isClean (hout : IsClean true out) :
    out.reverse.foldl (cleanElement r) st = out ++ st := by
  induction out with
  | nil => rfl
  | cons e out ih =>
    have hrest : IsClean true out :=
      ⟨fun e' he' => hout.each e' (by simp [he']), fun _ h => hout.below rfl (by simp [h])⟩
    have hup : e ≠ dotDot := fun h => hout.below rfl (by simp [h])
    rw [List.reverse_cons, List.foldl_append, ih hrest]
    exact cleanElement_push (hout.each e (by simp)) hup

theorem split_joinElements (hne : es ≠ []) (h : ∀ e ∈ es, slash ∉ e) :
    split slash (joinElements es) = es :=
  List.splitOn_intercalate slash h hne

/-- The elements of a cleaned path are walked over as the path is. -/
theorem foldl_split_joinElements (h : ∀ e ∈ es, slash ∉ e) :
    (split slash (joinElements es)).foldl (cleanElement r) st = es.foldl (cleanElement r) st := by
  by_cases hne : es = []
  · subst hne
    rfl
  · rw [split_joinElements hne h]

theorem isClean_cleanElements (path : GoString) :
    IsClean (isAbs path) (steps (isAbs path) [] path) := (isClean_nil _).steps path

theorem slash_notMem_cleanElements (h : e ∈ cleanElements path) : slash ∉ e :=
  ((isClean_cleanElements path).each e (List.mem_reverse.mp h)).noSlash

theorem isAbs_joinElements (h : ∀ e ∈ es, IsElement e) : isAbs (joinElements es) = false := by
  cases es with
  | nil => rfl
  | cons e es =>
    have he := h e (by simp)
    cases e with
    | nil => exact absurd rfl he.ne_nil
    | cons a e =>
      have ha : a ≠ slash := fun heq => he.noSlash (by simp [heq])
      cases es <;> simpa [isAbs, joinElements] using ha

theorem isAbs_clean (path : GoString) : isAbs (clean path) = isAbs path := by
  unfold clean
  split
  · rename_i h
    rw [h]
    rfl
  · rename_i h
    rw [Bool.not_eq_true] at h
    rw [h]
    split
    · rfl
    · refine isAbs_joinElements fun e he => ?_
      exact (isClean_cleanElements path).each e (List.mem_reverse.mp he)

/-- Walking over a relative path is walking over its elements. -/
theorem foldl_cleanElements (h : isAbs path = false) (r : Bool)
    (st : List GoString) : (cleanElements path).foldl (cleanElement r) st = steps r st path := by
  rw [cleanElements_eq, h]
  exact foldl_reverse_foldl (fun _ he => slash_notMem_of_mem_split he) (isClean_nil false)

/-- A relative path leads where its cleaned form leads, from everywhere. -/
theorem steps_clean (h : isAbs path = false) (r : Bool) (st : List GoString) :
    steps r st (clean path) = steps r st path := by
  have hwalk := foldl_cleanElements h r st
  rw [clean, if_neg (by simp [h])]
  split
  · rename_i hnil
    rw [hnil] at hwalk
    exact hwalk
  · rw [← hwalk]
    exact foldl_split_joinElements fun _ he => slash_notMem_cleanElements he

/-- An absolute path leads where its cleaned form leads. -/
theorem steps_clean_of_isAbs (h : isAbs path = true) :
    steps true [] (clean path) = steps true [] path := by
  have hclean := isClean_cleanElements path
  rw [h] at hclean
  have hwalk : (cleanElements path).foldl (cleanElement true) [] = steps true [] path := by
    rw [cleanElements_eq, h, foldl_reverse_of_isClean hclean, List.append_nil]
  rw [clean, if_pos h, ← hwalk]
  exact foldl_split_joinElements fun _ he => slash_notMem_cleanElements he

@[simp] theorem cleanElements_clean (path : GoString) :
    cleanElements (clean path) = cleanElements path := by
  rw [cleanElements_eq, cleanElements_eq, isAbs_clean]
  cases h : isAbs path with
  | true => rw [steps_clean_of_isAbs h]
  | false => rw [steps_clean h]

/-! ### Joining -/

theorem isAbs_append (ha : a ≠ []) (b : GoString) : isAbs (a ++ b) = isAbs a := by
  cases a with
  | nil => exact absurd rfl ha
  | cons c a => rfl

theorem steps_append_slash (r : Bool) (st : List GoString) (a b : GoString) :
    steps r st (a ++ slash :: b) = steps r (steps r st a) b := by
  rw [steps, split_append_slash, List.foldl_append]
  rfl

theorem isAbs_join (ha : a ≠ []) (b : GoString) : isAbs (join a b) = isAbs a := by
  rw [join, if_neg ha, isAbs_clean, isAbs_append ha]

/-- The second part is followed from where the first one leads. -/
theorem cleanElements_join (ha : a ≠ []) (b : GoString) :
    cleanElements (join a b) = (steps (isAbs a) (cleanElements a).reverse b).reverse := by
  rw [join, if_neg ha, cleanElements_clean, cleanElements_eq, isAbs_append ha,
    steps_append_slash, cleanElements_eq, List.reverse_reverse]

theorem join_nil {b : GoString} (hb : b ≠ []) : join [] b = clean b := by
  rw [join, if_pos rfl, if_neg hb]

theorem joinElements_cons_cons (e e' : GoString) (es : List GoString) :
    joinElements (e :: e' :: es) = e ++ slash :: joinElements (e' :: es) := by
  simp [joinElements]

theorem joinAll_of_ne_nil (ha : a ≠ []) (es : List GoString) :
    joinAll (a :: es) = clean (joinElements (a :: es)) := by
  have hdrop : (a :: es).dropWhile (· == []) = a :: es :=
    List.dropWhile_cons_of_neg (by simpa using ha)
  rw [joinAll, hdrop]
  rfl

theorem joinAll_nil_cons (es : List GoString) : joinAll ([] :: es) = joinAll es := by
  rfl

/-! ### Going up -/

/-- Below the start of a relative path there is no way up: `..` stands in front of its cleaned
form only. -/
theorem exists_cleanElements_eq (h : isAbs path = false) :
    ∃ n es, cleanElements path = List.replicate n dotDot ++ es ∧ dotDot ∉ es := by
  have hfold : ∀ (parts : List GoString) (n : Nat) (es : List GoString), dotDot ∉ es →
      ∃ n' es', parts.foldl (cleanElement false) (es ++ List.replicate n dotDot) =
        es' ++ List.replicate n' dotDot ∧ dotDot ∉ es' := by
    intro parts
    induction parts with
    | nil => exact fun n es hes => ⟨n, es, rfl, hes⟩
    | cons e parts ih =>
      intro n es hes
      rw [List.foldl_cons]
      by_cases hskip : e = [] ∨ e = dot
      · rw [cleanElement_skip hskip]
        exact ih n es hes
      by_cases hup : e = dotDot
      · subst hup
        cases es with
        | nil =>
          -- Nothing is left to undo.
          have hgrow : cleanElement false ([] ++ List.replicate n dotDot) dotDot =
              [] ++ List.replicate (n + 1) dotDot := by
            cases n with
            | zero => rfl
            | succ n => simp [cleanElement.eq_def, hskip, List.replicate_succ]
          rw [hgrow]
          exact ih (n + 1) [] (by simp)
        | cons last es =>
          rw [List.mem_cons, not_or] at hes
          rw [List.cons_append, cleanElement_up (Ne.symm hes.1)]
          exact ih n es hes.2
      · have hpush : cleanElement false (es ++ List.replicate n dotDot) e =
            (e :: es) ++ List.replicate n dotDot := by
          simp [cleanElement.eq_def, hskip, hup]
        rw [hpush]
        exact ih n (e :: es) (by simp [hes, Ne.symm hup])
  obtain ⟨n, es, heq, hes⟩ := hfold (split slash path) 0 [] (by simp)
  refine ⟨n, es.reverse, ?_, by simpa using hes⟩
  rw [cleanElements_eq, h, steps]
  rw [List.replicate_zero, List.append_nil] at heq
  rw [heq, List.reverse_append, List.reverse_replicate]

/-- A path that leads from a directory to a place in it. -/
structure Descends (path : GoString) : Prop where
  relative : isAbs path = false
  down : dotDot ∉ cleanElements path

theorem Descends.steps (h : Descends path) (r : Bool) (st : List GoString) :
    steps r st path = (cleanElements path).reverse ++ st := by
  have hclean : IsClean true (cleanElements path).reverse := by
    have heach := (isClean_cleanElements path).each
    refine ⟨fun e he => heach e ?_, fun _ hmem => h.down (List.mem_reverse.mp hmem)⟩
    rwa [cleanElements_eq, List.reverse_reverse] at he
  rw [← foldl_cleanElements h.relative, ← foldl_reverse_of_isClean hclean, List.reverse_reverse]

theorem clean_ne_nil (path : GoString) : clean path ≠ [] := by
  unfold clean
  split
  · simp
  · split
    · decide
    · rename_i hne
      intro hnil
      have hspl := split_joinElements hne fun e he => slash_notMem_cleanElements he
      rw [hnil] at hspl
      have hmem : [] ∈ cleanElements path := by rw [← hspl]; simp [split]
      exact ((isClean_cleanElements path).each [] (List.mem_reverse.mp hmem)).ne_nil rfl

/-- A path lies in a directory, as far as its text says. -/
def Under (dir path : GoString) : Prop :=
  isAbs path = isAbs dir ∧ ∃ rest, cleanElements path = cleanElements dir ++ rest ∧ dotDot ∉ rest

theorem Descends.clean (h : Descends path) : Descends (clean path) :=
  ⟨(isAbs_clean path).trans h.relative, by rw [cleanElements_clean]; exact h.down⟩

theorem cleanElements_join_of_descends (dir : GoString) (h : Descends path)
    (hne : path ≠ []) : cleanElements (join dir path) = cleanElements dir ++ cleanElements path := by
  by_cases hdir : dir = []
  · subst hdir
    rw [join_nil hne, cleanElements_clean]
    rfl
  · rw [cleanElements_join hdir, h.steps, List.reverse_append, List.reverse_reverse,
      List.reverse_reverse]

theorem under_join {dir : GoString} (h : Descends path) (hne : path ≠ []) :
    Under dir (join dir path) := by
  refine ⟨?_, cleanElements path, cleanElements_join_of_descends dir h hne, h.down⟩
  by_cases hdir : dir = []
  · subst hdir
    rw [join_nil hne, isAbs_clean]
    exact h.relative
  · exact isAbs_join hdir path

end SecureBinding.Go.Path
