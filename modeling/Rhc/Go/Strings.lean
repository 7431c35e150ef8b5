import Mathlib.Data.List.Sort
/-
  Rhc.Go.Strings — Go strings as the configuration engine compares them.
  ──────────────────────────────────────
  **A Go `string` is a byte sequence, and `<` on it is byte-wise lexicographic.**

  `findDropInFiles` orders the drop-in paths with `sort.Strings`, that is with
  Go's built-in `<` on strings (the runtime's `cmpstring`: the first differing
  byte decides, else the shorter string comes first).  File names are arbitrary
  bytes, so a Go string is modelled as `List UInt8`, not as a Lean `String`.

  Main results:
    * `lt_irrefl`, `lt_trans`, `lt_trichotomy` — `GoString.lt` is a strict
      total order.
    * `lt_append_left` — a common prefix never changes a comparison.
    * `sortStrings_map` — `sort.Strings` commutes with every map that keeps the
      order of the listed strings; this is what lets the drop-in paths be
      sorted by file name although the code sorts whole paths.
-/

namespace Rhc.Go

/-- A Go `string`: its bytes. -/
abbrev GoString := List UInt8

/-- The UTF-8 bytes of a string constant, as Go stores it. -/
def utf8 (s : String) : GoString := s.toList.flatMap String.utf8EncodeChar

namespace GoString

/-! ## §1. Go's `<` on strings. -/

/-- Go's `a < b` on strings: byte-wise lexicographic, a proper prefix first. -/
def lt : GoString → GoString → Bool
  | [], [] => false
  | [], _ :: _ => true
  | _ :: _, [] => false
  | a :: as, b :: bs => a.toNat < b.toNat || (a = b && lt as bs)

/-- Go's `a <= b` on strings. -/
def le (a b : GoString) : Bool := !lt b a

@[simp] theorem lt_nil_right (a : GoString) : lt a [] = false := by
  cases a <;> rfl

@[simp] theorem lt_nil_cons (b : UInt8) (bs : GoString) : lt [] (b :: bs) = true := rfl

@[simp] theorem lt_cons_cons (a b : UInt8) (as bs : GoString) :
    lt (a :: as) (b :: bs) = (a.toNat < b.toNat || (a = b && lt as bs)) := rfl

theorem lt_irrefl (a : GoString) : lt a a = false := by
  induction a with
  | nil => rfl
  | cons x xs ih => simp [ih]

theorem lt_trans {a b c : GoString} (hab : lt a b) (hbc : lt b c) : lt a c := by
  induction a generalizing b c with
  | nil => cases b <;> cases c <;> simp_all
  | cons x xs ih =>
    cases b with
    | nil => simp at hab
    | cons y ys =>
      cases c with
      | nil => simp at hbc
      | cons z zs =>
        simp only [lt_cons_cons, Bool.or_eq_true, decide_eq_true_eq, Bool.and_eq_true] at *
        rcases hab with hxy | ⟨rfl, hab⟩ <;> rcases hbc with hyz | ⟨rfl, hbc⟩
        · exact .inl (by omega)
        · exact .inl hxy
        · exact .inl hyz
        · exact .inr ⟨rfl, ih hab hbc⟩

theorem lt_trichotomy (a b : GoString) : lt a b ∨ a = b ∨ lt b a := by
  induction a generalizing b with
  | nil => cases b <;> simp
  | cons x xs ih =>
    cases b with
    | nil => simp
    | cons y ys =>
      simp only [lt_cons_cons, Bool.or_eq_true, decide_eq_true_eq, Bool.and_eq_true,
        List.cons.injEq]
      by_cases hxy : x = y
      · subst hxy
        rcases ih ys with h | h | h <;> simp [h]
      · have hne : x.toNat ≠ y.toNat := fun h => hxy (UInt8.toNat.inj h)
        rcases Nat.lt_or_gt_of_ne hne with h | h <;> simp [h, hxy]

theorem lt_asymm {a b : GoString} (hab : lt a b) : lt b a = false := by
  cases h : lt b a
  · rfl
  · simpa [lt_irrefl] using lt_trans hab h

/-- A common prefix never changes a comparison. -/
@[simp] theorem lt_append_left (p a b : GoString) : lt (p ++ a) (p ++ b) = lt a b := by
  induction p with
  | nil => rfl
  | cons x xs ih => simp [ih]

theorem le_trans {a b c : GoString} (hab : le a b) (hbc : le b c) : le a c := by
  simp only [le, Bool.not_eq_true'] at *
  rcases lt_trichotomy a c with h | rfl | h
  · exact lt_asymm h
  · exact lt_irrefl a
  · rcases lt_trichotomy b c with h' | rfl | h'
    · simp [lt_trans h' h] at hab
    · simp [h] at hab
    · simp [h'] at hbc

theorem le_total (a b : GoString) : (le a b || le b a) = true := by
  rcases lt_trichotomy a b with h | rfl | h
  · simp [le, lt_asymm h]
  · simp [le, lt_irrefl]
  · simp [le, lt_asymm h]

theorem le_antisymm {a b : GoString} (hab : le a b) (hba : le b a) : a = b := by
  simp only [le, Bool.not_eq_true'] at *
  rcases lt_trichotomy a b with h | h | h <;> simp_all

/-- On distinct strings `<=` is `<`. -/
theorem lt_of_le_of_ne {a b : GoString} (hab : le a b) (hne : a ≠ b) : lt a b := by
  simp only [le, Bool.not_eq_true'] at hab
  rcases lt_trichotomy a b with h | h | h <;> simp_all

/-! ## §2. `sort.Strings`. -/

/-- Go's `<=` on strings, as a relation. -/
def Le (a b : GoString) : Prop := le a b = true

instance : DecidableRel Le := fun a b => inferInstanceAs (Decidable (le a b = true))
instance : IsTrans GoString Le := ⟨fun _ _ _ => le_trans⟩
instance : IsTotal GoString Le := ⟨fun a b => by simpa [Le] using le_total a b⟩
instance : IsAntisymm GoString Le := ⟨fun _ _ => le_antisymm⟩

/-- `sort.Strings`: ascending under Go's `<`.  The library sort is not stable, but
    strings that compare equal are identical, so every correct sort returns this list. -/
def sortStrings (xs : List GoString) : List GoString := xs.insertionSort Le

theorem sortStrings_perm (xs : List GoString) : (sortStrings xs).Perm xs :=
  List.perm_insertionSort Le xs

theorem sortStrings_sorted (xs : List GoString) : (sortStrings xs).Sorted Le :=
  List.sorted_insertionSort Le xs

/-- A sorted permutation of `xs` is `sortStrings xs`: the result does not depend on
    the sorting algorithm. -/
theorem eq_sortStrings {xs ys : List GoString} (hp : ys.Perm xs) (hs : ys.Sorted Le) :
    ys = sortStrings xs :=
  List.eq_of_perm_of_sorted (hp.trans (sortStrings_perm xs).symm) hs (sortStrings_sorted xs)

/-- `sort.Strings` of two orders of the same strings is one list. -/
theorem sortStrings_eq_of_perm {xs ys : List GoString} (h : xs.Perm ys) :
    sortStrings xs = sortStrings ys :=
  eq_sortStrings ((sortStrings_perm xs).trans h) (sortStrings_sorted xs)

/-- On distinct strings the sorted order is strict. -/
theorem sortStrings_strict {xs : List GoString} (h : xs.Nodup) :
    (sortStrings xs).Pairwise (fun a b => lt a b) := by
  have hnd : (sortStrings xs).Nodup := (sortStrings_perm xs).nodup_iff.mpr h
  exact ((sortStrings_sorted xs).and hnd).imp fun ⟨hle, hne⟩ => lt_of_le_of_ne hle hne

/-- **Sorting commutes with an order-preserving map.**  If `f` keeps every comparison
    between the listed strings, sorting the images is mapping the sorted list. -/
theorem sortStrings_map (f : GoString → GoString) {xs : List GoString}
    (hf : ∀ a ∈ xs, ∀ b ∈ xs, lt (f a) (f b) = lt a b) :
    sortStrings (xs.map f) = (sortStrings xs).map f := by
  symm
  apply eq_sortStrings ((sortStrings_perm xs).map f)
  rw [List.Sorted, List.pairwise_map]
  have hmem : ∀ a ∈ sortStrings xs, a ∈ xs := fun a ha => (sortStrings_perm xs).subset ha
  refine (List.Pairwise.and_mem.mp (sortStrings_sorted xs)).imp ?_
  rintro a b ⟨ha, hb, hab⟩
  simpa [Le, le, hf b (hmem b hb) a (hmem a ha)] using hab

end GoString

end Rhc.Go
