import Mathlib.Data.List.Basic
import Rhc.Go.Strings
/-
  Rhc.Go.Filepath — `filepath.Clean` and `filepath.Join` on Unix.
  ──────────────────────────────────────
  **Joining a directory with a file name only appends the name.**

  `findDropInFiles` builds each candidate path as `filepath.Join(DropInDir, name)`,
  and `Join` cleans its result lexically.  `clean` follows the four rules of
  `Clean`'s documentation on the `/`-separated elements of the path:

    1. repeated separators collapse (empty elements vanish),
    2. each `.` element is dropped,
    3. each inner `..` removes the element before it,
    4. a `..` at the start of a rooted path is dropped;

  an empty result becomes `.`.

  Main results:
    * `join_pathElem` — for every spelling of the directory (trailing slash, `.`,
      relative, `..` components) there is ONE prefix `joinPrefix dir` with
      `join dir name = joinPrefix dir ++ name` for every directory-entry name.  With
      `lt_append_left` this gives `lt_join_join`: comparing joined paths is comparing
      names.
    * `joinAll_eq_join_join`, `joinPrefix_join` — a three-element `Join` is two
      two-element ones, and each join extends the prefix by the name and `/`.  Both
      rest on re-cleaning: what `Clean` keeps has one shape (`CleanKept`: names, then
      the `..` that climb out of the start), every step of its scan keeps that shape,
      and scanning a rendered shape gives it back (`cleanElems_render`).
-/

namespace Rhc.Go

/-- The Unix path separator `/`. -/
def separator : UInt8 := 47

/-- The element `.`. -/
def dot : GoString := [46]

/-- The element `..`. -/
def dotDot : GoString := [46, 46]

/-- A name a directory listing can hold: non-empty, no separator, neither `.` nor `..`. -/
def IsPathElem (n : GoString) : Prop := n ≠ [] ∧ separator ∉ n ∧ n ≠ dot ∧ n ≠ dotDot

instance (n : GoString) : Decidable (IsPathElem n) :=
  inferInstanceAs (Decidable (_ ∧ _ ∧ _ ∧ _))

/-! ## §1. `Clean`, element by element. -/

/-- One element of `Clean`'s scan over the elements kept so far (innermost first). -/
def cleanStep (rooted : Bool) (kept : List GoString) (e : GoString) : List GoString :=
  if e = [] ∨ e = dot then kept
  else if e = dotDot then
    match kept with
    | k :: rest => if k = dotDot then dotDot :: kept else rest
    | [] => if rooted then [] else [dotDot]
  else e :: kept

/-- The elements `Clean` keeps, innermost first. -/
def cleanElems (rooted : Bool) (p : GoString) : List GoString :=
  (p.splitOn separator).foldl (cleanStep rooted) []

/-- How `Clean` writes the kept elements back: joined by `/`, a leading `/` when the
    path is rooted, and `.` when nothing is left. -/
def render (rooted : Bool) (kept : List GoString) : GoString :=
  let body := [separator].intercalate kept.reverse
  let out := if rooted then separator :: body else body
  if out = [] then dot else out

/-- `filepath.Clean`. -/
def clean (p : GoString) : GoString :=
  let rooted := p.head? = some separator
  render rooted (cleanElems rooted p)

/-- `filepath.Join(elem...)`: the elements from the first non-empty one on, joined by
    `/` and cleaned; `""` when all are empty. -/
def joinAll : List GoString → GoString
  | [] => []
  | e :: es => if e ≠ [] then clean ([separator].intercalate (e :: es)) else joinAll es

/-- `filepath.Join(dir, name)`. -/
def join (dir name : GoString) : GoString := joinAll [dir, name]

theorem join_eq (dir name : GoString) :
    join dir name = if dir ≠ [] then clean (dir ++ separator :: name)
      else if name ≠ [] then clean name else [] := by
  by_cases hd : dir = [] <;> by_cases hn : name = [] <;>
    simp [join, joinAll, hd, hn, List.intercalate, List.intersperse_cons_cons,
      List.intersperse_singleton]

/-! ## §2. Splitting and rendering around a last element. -/

theorem splitOn_append_separator (xs ys : GoString) :
    (xs ++ separator :: ys).splitOn separator =
      xs.splitOn separator ++ ys.splitOn separator := by
  induction xs with
  | nil => simp [List.splitOn, List.splitOnP_cons]
  | cons x xs ih =>
    simp only [List.splitOn, List.cons_append, List.splitOnP_cons] at ih ⊢
    split
    · simp [ih]
    · rw [ih]
      obtain ⟨h, t, he⟩ := List.exists_cons_of_ne_nil (List.splitOnP_ne_nil
        (fun b => b == separator) xs)
      simp [he]

theorem splitOn_pathElem {n : GoString} (hn : IsPathElem n) : n.splitOn separator = [n] :=
  List.splitOnP_eq_single _ _ fun x hx hsep => hn.2.1 (by simpa using (beq_iff_eq.mp hsep) ▸ hx)

theorem cleanStep_pathElem (rooted : Bool) (kept : List GoString) {n : GoString}
    (hn : IsPathElem n) : cleanStep rooted kept n = n :: kept := by
  simp [cleanStep, hn.1, hn.2.2.1, hn.2.2.2]

theorem intercalate_concat (sep : GoString) (xs : List GoString) (n : GoString) :
    sep.intercalate (xs ++ [n]) = if xs = [] then n else sep.intercalate xs ++ sep ++ n := by
  induction xs with
  | nil => simp [List.intercalate, List.intersperse_singleton]
  | cons x xs ih =>
    cases xs with
    | nil => simp [List.intercalate, List.intersperse_cons_cons, List.intersperse_singleton]
    | cons y ys => simp_all [List.intercalate, List.intersperse_cons_cons]

/-! ## §3. The join prefix. -/

/-- What `render` writes before a last element: the kept elements and one separator, or
    nothing (just `/` for a rooted path) when no element is kept. -/
def renderPrefix (rooted : Bool) (kept : List GoString) : GoString :=
  if kept = [] then (if rooted then [separator] else [])
  else (if rooted then separator :: [separator].intercalate kept.reverse
    else [separator].intercalate kept.reverse) ++ [separator]

/-- What `Join` puts before a name: the cleaned directory and one separator, or nothing
    when the directory cleans to `.`, or just `/` for the root. -/
def joinPrefix (dir : GoString) : GoString :=
  if dir = [] then []
  else
    let rooted := dir.head? = some separator
    renderPrefix rooted (cleanElems rooted dir)

theorem render_cons_pathElem (rooted : Bool) (kept : List GoString) {n : GoString}
    (hn : IsPathElem n) : render rooted (n :: kept) = renderPrefix rooted kept ++ n := by
  simp only [render, renderPrefix, List.reverse_cons, intercalate_concat]
  by_cases hk : kept = [] <;> cases rooted <;> simp [hk, hn.1]

theorem cleanElems_append_pathElem (rooted : Bool) (dir : GoString) {n : GoString}
    (hn : IsPathElem n) :
    cleanElems rooted (dir ++ separator :: n) = n :: cleanElems rooted dir := by
  simp [cleanElems, splitOn_append_separator, splitOn_pathElem hn, cleanStep_pathElem _ _ hn]

theorem clean_pathElem {n : GoString} (hn : IsPathElem n) : clean n = n := by
  have hroot : n.head? ≠ some separator := fun h => hn.2.1 (List.mem_of_mem_head? h)
  have hkept : cleanElems false n = [n] := by
    simp [cleanElems, splitOn_pathElem hn, cleanStep_pathElem _ _ hn]
  simp only [clean, hroot, decide_False, hkept, render_cons_pathElem _ _ hn]
  rfl

/-- **`Join` appends the name to a prefix fixed by the directory.** -/
theorem join_pathElem (dir : GoString) {n : GoString} (hn : IsPathElem n) :
    join dir n = joinPrefix dir ++ n := by
  by_cases hd : dir = []
  · simp [join_eq, joinPrefix, hd, hn.1, clean_pathElem hn]
  · obtain ⟨d, ds, rfl⟩ := List.exists_cons_of_ne_nil hd
    simp only [join_eq, joinPrefix, clean, ne_eq, hd, not_false_eq_true, if_true, if_false,
      List.cons_append, List.head?_cons]
    rw [← List.cons_append, cleanElems_append_pathElem _ _ hn, render_cons_pathElem _ _ hn]

/-- Joined paths under one directory compare as their names do. -/
theorem lt_join_join (dir : GoString) {a b : GoString} (ha : IsPathElem a)
    (hb : IsPathElem b) : GoString.lt (join dir a) (join dir b) = GoString.lt a b := by
  rw [join_pathElem dir ha, join_pathElem dir hb, GoString.lt_append_left]

/-! ## §4. Re-cleaning what `Clean` wrote. -/

theorem separator_not_mem_of_mem_splitOn {p e : GoString} (h : e ∈ p.splitOn separator) :
    separator ∉ e := by
  induction p generalizing e with
  | nil => simp_all [List.splitOn, List.splitOnP_nil]
  | cons x xs ih =>
    simp only [List.splitOn, List.splitOnP_cons] at h ih
    split at h
    · rcases List.mem_cons.mp h with rfl | h
      · exact List.not_mem_nil _
      · exact ih h
    · obtain ⟨hd, tl, he⟩ := List.exists_cons_of_ne_nil
        (List.splitOnP_ne_nil (fun b => b == separator) xs)
      rw [he, List.modifyHead_cons] at h
      rcases List.mem_cons.mp h with rfl | h
      · rintro (_ | ⟨_, hm⟩)
        · simp_all
        · exact ih (he ▸ List.mem_cons_self _ _) hm
      · exact ih (he ▸ List.mem_cons_of_mem _ h)

/-- What `Clean` keeps, innermost first: names, then the `..` elements that climb out of
    the start of the path, none of them on a rooted path. -/
def CleanKept (rooted : Bool) (kept : List GoString) : Prop :=
  ∃ names m, kept = names ++ List.replicate m dotDot ∧ (∀ n ∈ names, IsPathElem n) ∧
    (rooted = true → m = 0)

theorem cleanKept_nil (rooted : Bool) : CleanKept rooted [] := ⟨[], 0, rfl, by simp, fun _ => rfl⟩

theorem dotDot_not_pathElem : ¬ IsPathElem dotDot := fun h => h.2.2.2 rfl

theorem cleanStep_cleanKept {rooted : Bool} {kept : List GoString} {e : GoString}
    (hk : CleanKept rooted kept) (he : separator ∉ e) :
    CleanKept rooted (cleanStep rooted kept e) := by
  obtain ⟨names, m, rfl, hnames, hroot⟩ := hk
  unfold cleanStep
  by_cases h₁ : e = [] ∨ e = dot
  · rw [if_pos h₁]; exact ⟨names, m, rfl, hnames, hroot⟩
  by_cases h₂ : e = dotDot
  · rw [if_neg h₁, if_pos h₂]
    match names, m with
    | n :: ns, m =>
      have hn : n ≠ dotDot := fun h =>
        dotDot_not_pathElem (h ▸ hnames n (List.mem_cons_self _ _))
      simp only [List.cons_append, if_neg hn]
      exact ⟨ns, m, rfl, fun x hx => hnames x (List.mem_cons_of_mem _ hx), hroot⟩
    | [], 0 =>
      cases rooted
      · exact ⟨[], 1, rfl, by simp, by simp⟩
      · exact cleanKept_nil true
    | [], m + 1 =>
      simp only [List.nil_append, List.replicate_succ, if_true]
      exact ⟨[], m + 2, rfl, by simp, fun h => absurd (hroot h) (Nat.succ_ne_zero _)⟩
  · rw [if_neg h₁, if_neg h₂]
    refine ⟨e :: names, m, rfl, ?_, hroot⟩
    simp only [List.mem_cons, forall_eq_or_imp]
    exact ⟨⟨fun h => h₁ (.inl h), he, fun h => h₁ (.inr h), h₂⟩, hnames⟩

theorem foldl_cleanStep_cleanKept {rooted : Bool} :
    ∀ {es : List GoString} {kept : List GoString}, (∀ e ∈ es, separator ∉ e) →
      CleanKept rooted kept → CleanKept rooted (es.foldl (cleanStep rooted) kept)
  | [], _, _, hk => hk
  | e :: es, _, hes, hk =>
    @foldl_cleanStep_cleanKept rooted es _ (fun x hx => hes x (List.mem_cons_of_mem _ hx))
      (cleanStep_cleanKept hk (hes e (List.mem_cons_self _ _)))

theorem cleanElems_cleanKept (rooted : Bool) (p : GoString) :
    CleanKept rooted (cleanElems rooted p) :=
  foldl_cleanStep_cleanKept (fun _ => separator_not_mem_of_mem_splitOn) (cleanKept_nil rooted)

theorem CleanKept.mem {rooted : Bool} {kept : List GoString} (hk : CleanKept rooted kept)
    {e : GoString} (he : e ∈ kept) : e ≠ [] ∧ separator ∉ e := by
  obtain ⟨names, m, rfl, hnames, -⟩ := hk
  rcases List.mem_append.mp he with he | he
  · exact ⟨(hnames e he).1, (hnames e he).2.1⟩
  · rw [List.eq_of_mem_replicate he]; decide

theorem foldl_cleanStep_dotDots (k m : Nat) :
    (List.replicate m dotDot).foldl (cleanStep false) (List.replicate k dotDot) =
      List.replicate (k + m) dotDot := by
  induction m generalizing k with
  | zero => rfl
  | succ m ih =>
    have hstep : cleanStep false (List.replicate k dotDot) dotDot = List.replicate (k + 1) dotDot := by
      cases k <;> rfl
    rw [List.replicate_succ, List.foldl_cons, hstep, ih, Nat.add_right_comm, Nat.add_assoc]

theorem foldl_cleanStep_names (rooted : Bool) {names : List GoString}
    (hnames : ∀ n ∈ names, IsPathElem n) (acc : List GoString) :
    names.reverse.foldl (cleanStep rooted) acc = names ++ acc := by
  rw [List.foldl_reverse]
  induction names with
  | nil => rfl
  | cons n ns ih =>
    rw [List.foldr_cons, ih fun x hx => hnames x (List.mem_cons_of_mem _ hx),
      cleanStep_pathElem _ _ (hnames n (List.mem_cons_self _ _)), List.cons_append]

/-- Scanning the kept elements outermost first rebuilds them. -/
theorem foldl_cleanStep_reverse {rooted : Bool} {kept : List GoString}
    (hk : CleanKept rooted kept) : kept.reverse.foldl (cleanStep rooted) [] = kept := by
  obtain ⟨names, m, rfl, hnames, hroot⟩ := hk
  have hdots : (List.replicate m dotDot).foldl (cleanStep rooted) [] = List.replicate m dotDot := by
    cases rooted
    · simpa using foldl_cleanStep_dotDots 0 m
    · rw [hroot rfl]; rfl
  rw [List.reverse_append, List.reverse_replicate, List.foldl_append, hdots,
    foldl_cleanStep_names rooted hnames]

theorem intercalate_cons_eq_append (sep e : GoString) (es : List GoString) :
    ∃ t, sep.intercalate (e :: es) = e ++ t := by
  cases es with
  | nil => exact ⟨[], by simp [List.intercalate]⟩
  | cons e' es => exact ⟨sep ++ sep.intercalate (e' :: es), by
      simp [List.intercalate, List.intersperse_cons_cons]⟩

theorem splitOn_separator_cons (xs : GoString) :
    (separator :: xs).splitOn separator = [] :: xs.splitOn separator := by
  simp [List.splitOn, List.splitOnP_cons]

/-- The body `Clean` writes for kept elements, split at the separators, gives them back. -/
theorem splitOn_render_body {rooted : Bool} {kept : List GoString} (hk : CleanKept rooted kept)
    (hne : kept ≠ []) :
    ([separator].intercalate kept.reverse).splitOn separator = kept.reverse ∧
      ∃ e t, e ≠ [] ∧ separator ∉ e ∧ [separator].intercalate kept.reverse = e ++ t := by
  obtain ⟨e, es, hrev⟩ := List.exists_cons_of_ne_nil (List.reverse_ne_nil_iff.mpr hne)
  have hmem : ∀ x ∈ kept.reverse, x ≠ [] ∧ separator ∉ x :=
    fun x hx => hk.mem (List.mem_reverse.mp hx)
  obtain ⟨t, ht⟩ := intercalate_cons_eq_append [separator] e es
  have he := hmem e (hrev ▸ List.mem_cons_self e es)
  exact ⟨List.splitOn_intercalate kept.reverse separator (fun x hx => (hmem x hx).2) (hrev ▸ List.cons_ne_nil e es),
    e, t, he.1, he.2, hrev ▸ ht⟩

/-- **Re-cleaning what `Clean` wrote keeps the same elements.** -/
theorem cleanElems_render {rooted : Bool} {kept : List GoString} (hk : CleanKept rooted kept) :
    cleanElems rooted (render rooted kept) = kept := by
  by_cases hnil : kept = []
  · subst hnil; cases rooted <;> rfl
  obtain ⟨hsplit, e, t, he, -, hbody⟩ := splitOn_render_body hk hnil
  cases rooted
  · have hne : [separator].intercalate kept.reverse ≠ [] := by simp [hbody, he]
    simp only [render, cleanElems, hne, if_false, Bool.false_eq_true, hsplit,
      foldl_cleanStep_reverse hk]
  · simp only [render, cleanElems, if_true, List.cons_ne_nil, if_false, splitOn_separator_cons,
      hsplit, List.foldl_cons]
    exact foldl_cleanStep_reverse hk

/-- A cleaned path is rooted exactly when the path it came from was. -/
theorem render_rooted {rooted : Bool} {kept : List GoString} (hk : CleanKept rooted kept) :
    decide ((render rooted kept).head? = some separator) = rooted := by
  by_cases hnil : kept = []
  · subst hnil; cases rooted <;> rfl
  obtain ⟨-, e, t, he, hsep, hbody⟩ := splitOn_render_body hk hnil
  cases rooted
  · obtain ⟨x, xs, rfl⟩ := List.exists_cons_of_ne_nil he
    have hx : x ≠ separator := fun h => hsep (h ▸ List.mem_cons_self x xs)
    simp [render, hbody, hx]
  · simp [render]

/-! ## §5. Joins of joins. -/

theorem CleanKept.cons {rooted : Bool} {kept : List GoString} (hk : CleanKept rooted kept)
    {n : GoString} (hn : IsPathElem n) : CleanKept rooted (n :: kept) := by
  obtain ⟨names, m, rfl, hnames, hroot⟩ := hk
  exact ⟨n :: names, m, rfl, by simpa [hn] using hnames, hroot⟩

theorem renderPrefix_cons (rooted : Bool) (kept : List GoString) (n : GoString) :
    renderPrefix rooted (n :: kept) = renderPrefix rooted kept ++ n ++ [separator] := by
  by_cases hk : kept = []
  · subst hk; cases rooted <;> simp [renderPrefix, List.intercalate]
  · have hr : kept.reverse ≠ [] := List.reverse_ne_nil_iff.mpr hk
    cases rooted <;> simp [renderPrefix, hk, hr, intercalate_concat]

/-- The rootedness `Clean` reads off a path. -/
def isRooted (p : GoString) : Bool := decide (p.head? = some separator)

theorem isRooted_pathElem {n : GoString} (hn : IsPathElem n) : isRooted n = false :=
  decide_eq_false fun h => hn.2.1 (List.mem_of_mem_head? h)

theorem cleanElems_pathElem (rooted : Bool) {n : GoString} (hn : IsPathElem n) :
    cleanElems rooted n = [n] := by
  simp [cleanElems, splitOn_pathElem hn, cleanStep_pathElem _ _ hn]

theorem joinPrefix_eq (dir : GoString) :
    joinPrefix dir = renderPrefix (isRooted dir) (cleanElems (isRooted dir) dir) := by
  cases dir with
  | nil => rfl
  | cons d ds => simp [joinPrefix, isRooted]

/-- `Join` of a directory and a name, as `Clean` writes it: the name pushed on the
    directory's kept elements. -/
theorem join_eq_render (dir : GoString) {n : GoString} (hn : IsPathElem n) :
    join dir n = render (isRooted dir) (n :: cleanElems (isRooted dir) dir) := by
  cases dir with
  | nil => rw [join_eq, if_neg (by simp), if_pos hn.1, clean_pathElem hn, render_cons_pathElem _ _ hn]; rfl
  | cons d ds =>
    simp only [join_eq, clean, ne_eq, List.cons_ne_nil, not_false_eq_true, if_true, isRooted,
      List.cons_append, List.head?_cons]
    rw [← List.cons_append, cleanElems_append_pathElem _ _ hn]

theorem joinPrefix_render {rooted : Bool} {kept : List GoString} (hk : CleanKept rooted kept) :
    joinPrefix (render rooted kept) = renderPrefix rooted kept := by
  rw [joinPrefix_eq, isRooted, render_rooted hk, cleanElems_render hk]

/-- **The prefix after a join**: joining a name extends the prefix by the name and one
    separator. -/
theorem joinPrefix_join (dir : GoString) {n : GoString} (hn : IsPathElem n) :
    joinPrefix (join dir n) = joinPrefix dir ++ n ++ [separator] := by
  rw [join_eq_render dir hn, joinPrefix_render ((cleanElems_cleanKept _ dir).cons hn),
    renderPrefix_cons, joinPrefix_eq]

/-- **`Join(dir, a, b)` is `Join(Join(dir, a), b)`** for names `a` and `b`. -/
theorem joinAll_eq_join_join (dir : GoString) {a b : GoString} (ha : IsPathElem a)
    (hb : IsPathElem b) : joinAll [dir, a, b] = join (join dir a) b := by
  have hk := (cleanElems_cleanKept (isRooted dir) dir).cons ha
  rw [join_eq_render (join dir a) hb, join_eq_render dir ha, isRooted, render_rooted hk,
    cleanElems_render hk]
  cases dir with
  | nil =>
    show join a b = _
    rw [join_eq_render a hb, isRooted_pathElem ha, cleanElems_pathElem _ ha]
    rfl
  | cons d ds =>
    have hcat : [separator].intercalate [d :: ds, a, b] =
        ((d :: ds) ++ separator :: a) ++ separator :: b := by
      simp [List.intercalate, List.intersperse_cons_cons]
    rw [joinAll, if_pos (List.cons_ne_nil d ds), hcat, clean, cleanElems_append_pathElem _ _ hb,
      cleanElems_append_pathElem _ _ ha]
    rfl

end Rhc.Go
