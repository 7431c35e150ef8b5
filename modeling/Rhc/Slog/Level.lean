import Mathlib.Data.Int.Defs
/-
  Rhc.Slog.Level — `log/slog`'s `Level` and `(*Level).UnmarshalText`.
  ──────────────────────────────────────
  **A level is a Go `int`; its text form is a name in any case with an optional offset.**

  Both readers of the configuration end in a `slog.Level`: `conf.(*Config).Update`
  switches on the four exact names, while the command line's `beforeAction` calls
  `UnmarshalText`, which accepts `debug`, `Info`, `ERROR+4`, `warn-1`, ... .  The
  offset is read by `strconv.Atoi` and added in 64-bit `int` arithmetic, so the sum
  wraps (`wrapInt`).

  `toUpperRune` is `unicode.ToUpper` on every rune whose upper case is an ASCII
  letter: `a`–`z`, the dotless i U+0131 and the long s U+017F.  Other runes are left as they
  are; Go may map them to other non-ASCII runes, and a name holding a non-ASCII rune
  matches no level either way.
-/

namespace Rhc.Slog

/-- `slog.Level`: a Go `int`. -/
abbrev Level := Int

/-- `slog.LevelDebug`. -/
def levelDebug : Level := -4
/-- `slog.LevelInfo`, also the zero value. -/
def levelInfo : Level := 0
/-- `slog.LevelWarn`. -/
def levelWarn : Level := 4
/-- `slog.LevelError`. -/
def levelError : Level := 8

/-! ## §1. The pieces of `UnmarshalText`. -/

/-- Go's `int`, 64 bits: `x` wrapped into `[-2^63, 2^63)` (`Int.bmod` by `2^64`). -/
def wrapInt (x : Int) : Int := Int.bmod x 18446744073709551616

/-- The value of a run of ASCII digits after `acc`; `none` at a non-digit. -/
def digitsValue : List Char → Nat → Option Nat
  | [], acc => some acc
  | c :: cs, acc =>
    if c.isDigit then digitsValue cs (10 * acc + (c.toNat - '0'.toNat)) else none

/-- `strconv.Atoi`: an optional sign, at least one ASCII digit, and a value that fits
    in a 64-bit `int`. -/
def atoi (s : List Char) : Option Int :=
  let (neg, ds) : Bool × List Char :=
    match s with
    | '+' :: ds => (false, ds)
    | '-' :: ds => (true, ds)
    | ds => (false, ds)
  if ds = [] then none
  else (digitsValue ds 0).bind fun n =>
    let v : Int := if neg then -n else n
    if -9223372036854775808 ≤ v ∧ v ≤ 9223372036854775807 then some v else none

/-- `strings.IndexAny(s, "+-")` as a split: the text before the first sign, and the
    rest (empty when there is no sign). -/
def splitAtSign : List Char → List Char × List Char
  | [] => ([], [])
  | c :: cs =>
    if c = '+' ∨ c = '-' then ([], c :: cs)
    else ((c :: (splitAtSign cs).1), (splitAtSign cs).2)

/-- `unicode.ToUpper` on the runes whose upper case is an ASCII letter. -/
def toUpperRune (c : Char) : Char :=
  if c = '\u0131' then 'I' else if c = '\u017F' then 'S' else c.toUpper

/-- The `switch strings.ToUpper(name)` of `(*Level).parse`. -/
def nameLevel (name : List Char) : Option Level :=
  match String.mk (name.map toUpperRune) with
  | "DEBUG" => some levelDebug
  | "INFO" => some levelInfo
  | "WARN" => some levelWarn
  | "ERROR" => some levelError
  | _ => none

/-- `(*Level).UnmarshalText`: `none` is the returned error. -/
def unmarshalText (s : String) : Option Level :=
  let (name, rest) := splitAtSign s.toList
  let offset := if rest = [] then some 0 else atoi rest
  offset.bind fun off => (nameLevel name).map fun l => wrapInt (l + off)

end Rhc.Slog
