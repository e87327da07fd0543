import SourceLocator.Command.Switch

/-!
# Help pages

What the program shows when it is asked for help: a page about itself, and one about each
command.
-/

namespace SourceLocator.Command

/-- The page about the program. -/
def programPage : List String :=
  ["                                                                                ",
   " Usage: android-reverser [OPTIONS] COMMAND [ARGS]...                            ",
   "                                                                                ",
   " Android reverser CLI: locate R files and package sources in decompiled code.   ",
   "                                                                                ",
   "╭─ Options ────────────────────────────────────────────────────────────────────╮",
   "│ --verbose             -v      <bool>  Log debug output.                      │",
   "│ --install-completion          <bool>  Install completion for the current     │",
   "│                                       shell.                                 │",
   "│ --show-completion             <bool>  Show completion for the current shell, │",
   "│                                       to copy it or customize the            │",
   "│                                       installation.                          │",
   "│ --help                -h      <bool>  Show this message and exit.            │",
   "╰──────────────────────────────────────────────────────────────────────────────╯",
   "╭─ Commands ───────────────────────────────────────────────────────────────────╮",
   "│ locate  List the R files (or all source files) of a package.                 │",
   "│ check   Report whether a source file declares a package.                     │",
   "╰──────────────────────────────────────────────────────────────────────────────╯"]

/-- The page about the command that lists files. -/
def locatePage : List String :=
  ["                                                                                ",
   " Usage: android-reverser locate [OPTIONS]                                       ",
   "                                                                                ",
   " List the R files (or all source files) of a package.                           ",
   "                                                                                ",
   "╭─ Options ────────────────────────────────────────────────────────────────────╮",
   "│ *  --src                                        <path>  Directory containing │",
   "│                                                         source code.         │",
   "│                                                         [required]           │",
   "│ *  --pkg                                        <str>   Package name of      │",
   "│                                                         R.java file(s) to    │",
   "│                                                         reverse.             │",
   "│                                                         [required]           │",
   "│    --all                                        <bool>  List every source    │",
   "│                                                         file in the package, │",
   "│                                                         not only R files.    │",
   "│    --exact                                      <bool>  Require the declared │",
   "│                                                         package to equal     │",
   "│                                                         --pkg.               │",
   "│    --follow-symlinks      --no-follow-symli…    <bool>  Descend into         │",
   "│                                                         symlinked            │",
   "│                                                         directories.         │",
   "│                                                         [default:            │",
   "│                                                         no-follow-symlinks]  │",
   "│    --help             -h                        <bool>  Show this message    │",
   "│                                                         and exit.            │",
   "╰──────────────────────────────────────────────────────────────────────────────╯"]

/-- The page about the command that tests a file. -/
def checkPage : List String :=
  ["                                                                                ",
   " Usage: android-reverser check [OPTIONS] \x7bfile\x7d                                 ",
   "                                                                                ",
   " Report whether a source file declares a package.                               ",
   "                                                                                ",
   "╭─ Arguments ──────────────────────────────────────────────────────────────────╮",
   "│ *    file      <path>  Source file to inspect. [required]                    │",
   "╰──────────────────────────────────────────────────────────────────────────────╯",
   "╭─ Options ────────────────────────────────────────────────────────────────────╮",
   "│ *  --pkg            <str>   Package name to test for. [required]             │",
   "│    --exact          <bool>  Require the declared package to equal --pkg.     │",
   "│    --help   -h      <bool>  Show this message and exit.                      │",
   "╰──────────────────────────────────────────────────────────────────────────────╯"]

/-- The page about the program or a command. -/
def page : Option Verb → List String
  | none => programPage
  | some .locate => locatePage
  | some .check => checkPage

end SourceLocator.Command
