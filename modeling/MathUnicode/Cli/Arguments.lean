import MathUnicode.Cli.Options

/-!
# Reading the command line

The program reads its arguments with an argument library, which also writes the help text
and the messages of usage errors.  The program's logic takes that reading as a parameter
(`Cli.Libraries`); this module is the reading the program runs with, following the
library's conventions for the arguments the program takes.

Options may stand anywhere before a command, short flags may be grouped (`-mv`), and an
option's value is either the next argument or follows `=`.  After `--` every argument
is an expression.  A command name is taken as a command except right after an
expression, where it is one more expression.  Each option may be given once.
-/

namespace MathUnicode.Cli

/-- Why the arguments cannot be read. -/
inductive UsageError
  /-- An argument that fits nowhere. -/
  | unexpected (argument : String)
  /-- An option without its value. -/
  | missingValue (option : String)
  /-- An option given twice. -/
  | repeated (option : String)
  /-- A command without its required argument. -/
  | missingArgument (name : String)
  deriving DecidableEq, Repr, Inhabited

/-- The usage line of the program. -/
def usageLine : String :=
  "Usage: latex-input [OPTIONS] [EXPRESSIONS]... [COMMAND]"

/-- The text printed for a usage error. -/
def UsageError.message : UsageError → String
  | .unexpected a => s!"error: unexpected argument '{a}' found\n\n{usageLine}\n\nFor more information, try '--help'.\n"
  | .missingValue o => s!"error: a value is required for '{o}' but none was supplied\n\nFor more information, try '--help'.\n"
  | .repeated o => s!"error: the argument '{o}' cannot be used multiple times\n\n{usageLine}\n\nFor more information, try '--help'.\n"
  | .missingArgument n => s!"error: the following required arguments were not provided:\n  {n}\n\nFor more information, try '--help'.\n"

/-- The help text. -/
def helpText : String :=
  "Convert LaTeX-like markup into precomposed Unicode text\n\n" ++ usageLine ++ "\n\n" ++
  "Commands:\n" ++
  "  symbols  List the named symbols\n" ++
  "  parse    Print the syntax tree of an expression\n" ++
  "  info     Show table statistics\n" ++
  "  help     Print this message or the help of the given subcommand(s)\n\n" ++
  "Arguments:\n" ++
  "  [EXPRESSIONS]...  Expressions to convert (reads one per line from stdin if none given)\n\n" ++
  "Options:\n" ++
  "  -m, --math                         Math mode: letters default to italic\n" ++
  "      --unicode-data <UNICODE_DATA>  Build tables from this UnicodeData.txt instead of the bundled snapshot\n" ++
  "      --strict                       Print conversion errors instead of the failure sentinel and exit with status 1\n" ++
  "      --report <REPORT>              Write a JSON report of outputs, errors and fallback warnings to this path\n" ++
  "  -v, --verbose                      Log diagnostics to stderr\n" ++
  "  -h, --help                         Print help\n" ++
  "  -V, --version                      Print version\n"

/-- Whether an argument looks like an option rather than a value. -/
def isOptionLike (a : String) : Bool :=
  a.startsWith "-" && a != "-"

/-- Reads the arguments that follow a command name: at most `room` values, none of them
options unless after `--`. -/
def commandValues (room : Nat) : Bool → List String → List String → Except UsageError (Option (List String))
  | _, acc, [] => .ok (some acc)
  | false, acc, "--" :: rest => commandValues room true acc rest
  | false, _, "-h" :: _ => .ok none
  | false, _, "--help" :: _ => .ok none
  | trailing, acc, a :: rest =>
    if !trailing && isOptionLike a then .error (.unexpected a)
    else if acc.length < room then commandValues room trailing (acc ++ [a]) rest
    else .error (.unexpected a)

/-- Reads a command and the arguments after its name: `none` asks for the help text, and
`some none` says that the name is no command. -/
def readCommand (name : String) (rest : List String) :
    Except UsageError (Option (Option Command)) := do
  match name with
  | "symbols" =>
    match ← commandValues 1 false [] rest with
    | none => pure none
    | some vs => pure (some (some (.symbols vs.head?)))
  | "parse" =>
    match ← commandValues 1 false [] rest with
    | none => pure none
    | some [e] => pure (some (some (.outline e)))
    | some _ => throw (.missingArgument "<EXPRESSION>")
  | "info" =>
    match ← commandValues 0 false [] rest with
    | none => pure none
    | some _ => pure (some (some .info))
  | "help" => pure none
  | _ => pure (some none)

/-- Sets a flag, refusing a second one. -/
def setFlag (o : Options) (name : String) : Except UsageError Options :=
  match name with
  | "math" => if o.math then .error (.repeated "--math") else .ok { o with math := true }
  | "strict" => if o.strict then .error (.repeated "--strict") else .ok { o with strict := true }
  | "verbose" =>
    if o.verbose then .error (.repeated "--verbose") else .ok { o with verbose := true }
  | other => .error (.unexpected ("--" ++ other))

/-- Sets an option's value, refusing a second one. -/
def setValue (o : Options) (name value : String) : Except UsageError Options :=
  match name with
  | "unicode-data" =>
    if o.unicodeData.isSome then .error (.repeated "--unicode-data <UNICODE_DATA>")
    else .ok { o with unicodeData := some value }
  | "report" =>
    if o.report.isSome then .error (.repeated "--report <REPORT>")
    else .ok { o with report := some value }
  | other => .error (.unexpected ("--" ++ other))

/-- Whether the long option takes a value. -/
def takesValue (name : String) : Bool :=
  name == "unicode-data" || name == "report"

/-- Reads a group of short flags such as `-mv`; a flag that answers at once (the version
or the help) ends reading. -/
def readShort (o : Options) : List Char → Except UsageError (Options ⊕ Request)
  | [] => .ok (.inl o)
  | 'V' :: _ => .ok (.inr .version)
  | 'h' :: _ => .ok (.inr (.help helpText))
  | 'm' :: cs => do readShort (← setFlag o "math") cs
  | 'v' :: cs => do readShort (← setFlag o "verbose") cs
  | c :: _ => .error (.unexpected ("-" ++ String.singleton c))

/-- Reads the arguments; `afterValue` tells whether the previous argument was an
expression, and `trailing` whether `--` was seen. -/
def readArgs (o : Options) (afterValue trailing : Bool) : List String → Except UsageError Request
  | [] => .ok (.run o)
  | a :: rest =>
    if trailing then
      readArgs { o with expressions := o.expressions ++ [a] } true true rest
    else if a == "--" then
      readArgs o afterValue true rest
    else if a == "--version" then .ok .version
    else if a == "--help" then .ok (.help helpText)
    else if a.startsWith "--" then
      let body := (a.drop 2).toString
      match body.splitOn "=" with
      | [name] =>
        if takesValue name then
          match rest with
          | v :: rest' =>
            if isOptionLike v then .error (.missingValue ("--" ++ name))
            else do readArgs (← setValue o name v) false false rest'
          | [] => .error (.missingValue ("--" ++ name))
        else do readArgs (← setFlag o name) false false rest
      | name :: vs =>
        if takesValue name then do readArgs (← setValue o name ("=".intercalate vs)) false false rest
        else .error (.unexpected a)
      | [] => .error (.unexpected a)
    else if isOptionLike a then
      match readShort o (a.drop 1).toString.toList with
      | .error e => .error e
      | .ok (.inr r) => .ok r
      | .ok (.inl o) => readArgs o false false rest
    else if afterValue then
      readArgs { o with expressions := o.expressions ++ [a] } true false rest
    else
      match readCommand a rest with
      | .error e => .error e
      | .ok none => .ok (.help helpText)
      | .ok (some (some k)) => .ok (.run { o with command := some k })
      | .ok (some none) => readArgs { o with expressions := o.expressions ++ [a] } true false rest

/-- Reads the program's arguments; a usage error becomes the text printed for it. -/
def Request.ofArgs (args : List String) : Except String Request :=
  (readArgs {} false false args).mapError UsageError.message

end MathUnicode.Cli
