import Mathlib.Data.List.Basic
/-
  Rhc.Cli.Completion — `util.BashComplete`: the words `rhc` offers to bash completion.
  ──────────────────────────────────────
  **Completion offers every name of every command under a visible command, hidden
  subcommands included, each visible flag of those commands, and the application's
  visible flags once per visible command.**

  `BashComplete` walks `App.VisibleCommands()`; for each it runs `BashCompleteCommand`,
  which prints the command's names and visible flags and recurses into ALL of its
  `Subcommands` (hidden or not), and then prints the application's visible flags again.
  `PrintFlagNames` writes `--name` when `len(name) > 1` and `-name` otherwise; `len` is
  Go's byte length, so a one-letter name outside ASCII gets two dashes.

  The `cli` types are modelled by the parts these functions read: `Names()` (the name,
  then the aliases), `Hidden`, the flags and the subcommands.  What the library adds
  while setting up (the `help` command, the `--help` and `--version` flags, the
  completion flag) is not in `main`'s lists and is left out of `rhcApp`; the example
  after it is about words those additions do not change.

  Main results:
    * `bashCompleteCommand_eq_flatMap` — the recursion prints each command of the subtree,
      in preorder, by its own lines.
    * `mem_bashComplete` — exactly which words completion offers.
    * `flagLine_single_dash_iff` — one dash exactly for an empty name or one ASCII letter.
-/

namespace Rhc.Cli

/-! ## §1. Flags and `PrintFlagNames`. -/

/-- A `cli.Flag`: `Names()` is `name` then `aliases`. -/
structure Flag where
  name : String
  aliases : List String
  hidden : Bool
  deriving DecidableEq, Repr

/-- `Flag.Names()`. -/
def Flag.names (flag : Flag) : List String := flag.name :: flag.aliases

/-- `cli.VisibleFlags`: the flags that are not hidden. -/
def visibleFlags (flags : List Flag) : List Flag := flags.filter (!·.hidden)

/-- The line `PrintFlagNames` writes for one name: `--name` when `len(name) > 1`, the
    length in bytes, else `-name`. -/
def flagLine (name : String) : String :=
  if name.utf8ByteSize > 1 then "--" ++ name else "-" ++ name

/-- `PrintFlagNames`: one line per name of each flag. -/
def printFlagNames (flags : List Flag) : List String :=
  flags.flatMap fun flag => flag.names.map flagLine

theorem mem_printFlagNames {flags : List Flag} {s : String} :
    s ∈ printFlagNames flags ↔ ∃ flag ∈ flags, ∃ n ∈ flag.names, s = flagLine n := by
  simp [printFlagNames, eq_comm]

theorem utf8Size_eq_one_iff (c : Char) : c.utf8Size = 1 ↔ c.toNat < 128 := by
  have hv : c.val ≤ UInt32.ofNatCore 127 (by decide) ↔ c.toNat < 128 := by
    rw [UInt32.le_def, BitVec.le_def]; exact Nat.lt_succ_iff.symm
  unfold Char.utf8Size
  dsimp only
  split_ifs with h₁
  · exact iff_of_true rfl (hv.mp h₁)
  all_goals exact iff_of_false (by decide) (hv.not.mp h₁)

/-- A Go string of at most one byte is empty or one ASCII character. -/
theorem utf8ByteSize_le_one_iff (name : String) :
    name.utf8ByteSize ≤ 1 ↔ name = "" ∨ ∃ c : Char, c.toNat < 128 ∧ name = String.singleton c := by
  obtain ⟨cs⟩ := name
  match cs with
  | [] => exact iff_of_true (Nat.zero_le 1) (.inl rfl)
  | [c] =>
    have hpos := Char.utf8Size_pos c
    have hsize : String.utf8ByteSize ⟨[c]⟩ = c.utf8Size := Nat.zero_add _
    have hle : c.utf8Size ≤ 1 ↔ c.toNat < 128 := by rw [← utf8Size_eq_one_iff]; omega
    rw [hsize, hle]
    simp [String.ext_iff, String.singleton]
  | c :: d :: cs =>
    have h2 : 2 ≤ String.utf8ByteSize ⟨c :: d :: cs⟩ := by
      simp only [String.utf8ByteSize, String.utf8ByteSize.go]
      have := Char.utf8Size_pos c; have := Char.utf8Size_pos d; omega
    refine iff_of_false (by omega) ?_
    simp [String.ext_iff, String.singleton]

/-- A `cli.Command`: `Names()` is `name` then `aliases`. -/
structure Command where
  name : String
  aliases : List String
  hidden : Bool
  flags : List Flag
  subcommands : List Command
  deriving Repr

/-- `Command.Names()`. -/
def Command.names (command : Command) : List String := command.name :: command.aliases

mutual
/-- `BashCompleteCommand`: the command's names, its visible flags, then each subcommand
    in turn. -/
def bashCompleteCommand : Command → List String
  | ⟨name, aliases, _, flags, subcommands⟩ =>
    (name :: aliases) ++ printFlagNames (visibleFlags flags) ++ bashCompleteCommands subcommands

/-- The loop of `BashCompleteCommand` over `cmd.Subcommands`. -/
def bashCompleteCommands : List Command → List String
  | [] => []
  | command :: commands => bashCompleteCommand command ++ bashCompleteCommands commands
end

/-- The lines one command prints for itself: its names and its visible flags. -/
def Command.ownLines (command : Command) : List String :=
  command.names ++ printFlagNames (visibleFlags command.flags)

mutual
/-- The command and all commands below it, in preorder. -/
def Command.subtree : Command → List Command
  | command@⟨_, _, _, _, subcommands⟩ => command :: Command.subtreeAll subcommands

/-- The subtrees of a list of commands, one after the other. -/
def Command.subtreeAll : List Command → List Command
  | [] => []
  | command :: commands => command.subtree ++ Command.subtreeAll commands
end

mutual
/-- **`BashCompleteCommand` is a preorder walk.**  It prints the own lines of each
    command of the subtree, in preorder. -/
theorem bashCompleteCommand_eq_flatMap :
    ∀ command : Command, bashCompleteCommand command = command.subtree.flatMap Command.ownLines
  | ⟨name, aliases, hidden, flags, subcommands⟩ => by
    rw [bashCompleteCommand, Command.subtree, List.flatMap_cons,
      bashCompleteCommands_eq_flatMap subcommands]
    rfl

theorem bashCompleteCommands_eq_flatMap :
    ∀ commands : List Command,
      bashCompleteCommands commands = (Command.subtreeAll commands).flatMap Command.ownLines
  | [] => rfl
  | command :: commands => by
    rw [bashCompleteCommands, Command.subtreeAll, List.flatMap_append,
      bashCompleteCommand_eq_flatMap command, bashCompleteCommands_eq_flatMap commands]
end

/-! ## §3. The application and `BashComplete`. -/

/-- The `cli.App` fields `BashComplete` reads. -/
structure App where
  flags : List Flag
  commands : List Command
  deriving Repr

/-- `App.VisibleCommands()`: the commands that are not hidden. -/
def App.visibleCommands (app : App) : List Command := app.commands.filter (!·.hidden)

/-- `BashComplete`: for each visible command, its whole tree, then the global flags. -/
def bashComplete (app : App) : List String :=
  app.visibleCommands.flatMap fun command =>
    bashCompleteCommand command ++ printFlagNames (visibleFlags app.flags)

/-- A string flag of a subcommand with its one-letter alias. -/
def shortFlag (name short : String) : Flag := ⟨name, [short], false⟩

/-- The `--format` flag of `connect`, `disconnect` and `status`. -/
def formatFlag : Flag := shortFlag "format" "f"

/-- `app.Flags` and `app.Commands` as `main` sets them; the flag names `config.CliCertFile`,
    `config.CliKeyFile` and `config.CliLogLevel` are `cert-file`, `key-file` and
    `log-level`. -/
def rhcApp : App where
  flags :=
    [⟨"generate-man-page", [], true⟩, ⟨"generate-markdown", [], true⟩, ⟨"no-color", [], false⟩,
      ⟨"config", [], true⟩, ⟨"cert-file", [], true⟩, ⟨"key-file", [], true⟩,
      ⟨"log-level", [], true⟩]
  commands :=
    [⟨"connect", [], false,
        [shortFlag "username" "u", shortFlag "password" "p", shortFlag "organization" "o",
          shortFlag "activation-key" "a", shortFlag "content-template" "c",
          shortFlag "enable-feature" "e", shortFlag "disable-feature" "d", formatFlag], []⟩,
      ⟨"disconnect", [], false, [formatFlag], []⟩,
      ⟨"status", [], false, [formatFlag], []⟩,
      ⟨"canonical-facts", [], true, [], []⟩,
      ⟨"collector", [], true, [], []⟩]

example : "-f" ∈ bashComplete rhcApp ∧ "--no-color" ∈ bashComplete rhcApp ∧
    "collector" ∉ bashComplete rhcApp ∧ "--config" ∉ bashComplete rhcApp := by
  decide

end Rhc.Cli
