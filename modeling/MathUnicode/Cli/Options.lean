/-!
# What a call of the program asks for

The program is called as

    latex-input [OPTIONS] [EXPRESSIONS]... [COMMAND]

with the options `-m`/`--math`, `--unicode-data PATH`, `--strict`, `--report PATH`,
`-v`/`--verbose`, `-V`/`--version` and `-h`/`--help`, and the commands `symbols [PREFIX]`,
`parse EXPRESSION`, `info` and `help`.  An argument library reads the arguments into a
`Request`; the program only acts on it.
-/

namespace MathUnicode.Cli

/-- The commands that replace converting expressions. -/
inductive Command
  /-- Lists the catalog's symbols whose names start with the given text. -/
  | symbols (start : Option String)
  /-- Prints the outline of one expression. -/
  | outline (expression : String)
  /-- Prints the entry counts of the tables. -/
  | info
  deriving DecidableEq, Repr, Inhabited

/-- What the arguments ask for, besides a command. -/
structure Options where
  /-- Start in math mode. -/
  math : Bool := false
  /-- Read the tables from this database file instead of the bundled one. -/
  unicodeData : Option String := none
  /-- Report errors instead of the failure mark, and fail at the end. -/
  strict : Bool := false
  /-- Write a report of all conversions to this file. -/
  report : Option String := none
  /-- Log diagnostics. -/
  verbose : Bool := false
  /-- The command, if one is given. -/
  command : Option Command := none
  /-- The expressions to convert, in order. -/
  expressions : List String := []
  deriving DecidableEq, Repr, Inhabited

/-- What a call of the program asks for. -/
inductive Request
  /-- Print the version. -/
  | version
  /-- Print this help text, which the argument library writes. -/
  | help (text : String)
  /-- Run with these options. -/
  | run (options : Options)
  deriving DecidableEq, Repr, Inhabited

end MathUnicode.Cli
