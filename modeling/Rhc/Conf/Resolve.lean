import Rhc.Conf.Config
/-
  Rhc.Conf.Resolve — what resolution is FOR: the last layer that says a key wins.
  ──────────────────────────────────────
  **The abstract model of the engine, and the refinement the code satisfies.**

  The merge rule is stated per key, over the whole list of layers: the resolved
  value of a key is the value of the LAST layer that specifies it, and the
  starting value when none does.  `resolve` says exactly that, with no fold
  and no mutation; `foldl_update_eq_resolve` shows that folding `Update` over the
  layers, as `Read` does, computes it.

  The log level follows the same rule, with "specifies" read as the code reads it:
  a layer specifies a level only with one of the four exact names.

  Main results:
    * `foldl_update_eq_resolve` — the fold of `Update` refines `resolve`.
    * `update_of_complete` — a layer that specifies every key, with a known level,
      overwrites whatever came before it.
-/

namespace Rhc.Conf

open Rhc.Slog

/-! ## §1. The last layer that specifies a key. -/

/-- The value of the last layer that specifies a key, if one does. -/
def lastSpecified {α : Type} : List (Option α) → Option α
  | [] => none
  | o :: os => (lastSpecified os).or o

theorem getD_lastSpecified_cons {α : Type} (o : Option α) (os : List (Option α)) (d : α) :
    (lastSpecified (o :: os)).getD d = (lastSpecified os).getD (o.getD d) := by
  cases h : lastSpecified os <;> cases o <;> simp [lastSpecified, h]

/-! ## §2. The resolved value, key by key. -/

/-- What the merge rule resolves `layers` to, over the starting value `base`. -/
def resolve (base : Config) (layers : List ConfigDTO) : Config where
  caDir := (lastSpecified (layers.map (·.caDir))).getD base.caDir
  certFile := (lastSpecified (layers.map (·.certFile))).getD base.certFile
  keyFile := (lastSpecified (layers.map (·.keyFile))).getD base.keyFile
  logLevel := (lastSpecified (layers.map (·.level))).getD base.logLevel

@[simp] theorem resolve_nil (base : Config) : resolve base [] = base := rfl

theorem resolve_cons (base : Config) (dto : ConfigDTO) (layers : List ConfigDTO) :
    resolve base (dto :: layers) = resolve (base.update dto) layers := by
  simp [resolve, getD_lastSpecified_cons]

/-- **Refinement.**  Folding `Update` over the layers computes the merge rule. -/
theorem foldl_update_eq_resolve (base : Config) (layers : List ConfigDTO) :
    layers.foldl Config.update base = resolve base layers := by
  induction layers generalizing base with
  | nil => rfl
  | cons dto layers ih => rw [List.foldl_cons, ih, resolve_cons]

/-! ## §3. Complete layers. -/

/-- A layer that specifies every key, with a level `Update` knows. -/
def ConfigDTO.Complete (dto : ConfigDTO) : Prop :=
  dto.certFile.isSome ∧ dto.keyFile.isSome ∧ dto.level.isSome ∧ dto.caDir.isSome

instance (dto : ConfigDTO) : Decidable dto.Complete :=
  inferInstanceAs (Decidable (_ ∧ _ ∧ _ ∧ _))

/-- A complete layer overwrites whatever came before it. -/
theorem update_of_complete {dto : ConfigDTO} (h : dto.Complete) (c c' : Config) :
    c.update dto = c'.update dto := by
  simp only [ConfigDTO.Complete, Option.isSome_iff_exists] at h
  obtain ⟨⟨a, ha⟩, ⟨b, hb⟩, ⟨l, hl⟩, ⟨d, hd⟩⟩ := h
  simp [update_eq, ha, hb, hl, hd]

end Rhc.Conf
