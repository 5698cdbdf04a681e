import RichText.CommandLine.Grammar

/-!
The pages of the command line: the usage and the help of the program and of its command.
-/

set_option autoImplicit false
set_option relaxedAutoImplicit false

namespace RichText.CommandLine

inductive Page
  | program
  | build
  deriving DecidableEq, Repr

namespace Page

def name : Page → String
  | .program => "resumedoc"
  | .build => "resumedoc build"

def usage : Page → String
  | .program => "usage: resumedoc [-h] [--version] \x7bbuild\x7d ...\n"
  | .build =>
    "usage: resumedoc build [-h] [--no-pdf] [-o DIR] [-f \x7blatex,markdown\x7d]\n"
    ++ "                       [--log-level \x7bDEBUG,INFO,WARNING,ERROR\x7d]\n"
    ++ "                       [--log-file PATH] [-v] [--trace]\n"
    ++ "                       resume-path\n"

def details : Page → String
  | .program =>
    "Render rich document trees from resume data to Markdown and LaTeX\n\n"
    ++ "positional arguments:\n"
    ++ "  \x7bbuild\x7d\n"
    ++ "    build     build a document tree to LaTeX (and PDF) or Markdown\n\n"
    ++ "options:\n"
    ++ "  -h, --help  show this help message and exit\n"
    ++ "  --version   show program's version number and exit\n"
  | .build =>
    "positional arguments:\n"
    ++ "  resume-path           the tree file path (.json, .yaml or .yml)\n\n"
    ++ "options:\n"
    ++ "  -h, --help            show this help message and exit\n"
    ++ "  --no-pdf              only generate the TeX file without compiling a PDF\n"
    ++ "  -o DIR, --output DIR  output directory for generated files\n"
    ++ "  -f \x7blatex,markdown\x7d, --format \x7blatex,markdown\x7d\n"
    ++ "                        output format (default: latex)\n\n"
    ++ "logging:\n"
    ++ "  --log-level \x7bDEBUG,INFO,WARNING,ERROR\x7d\n"
    ++ "                        logging level (default: WARNING)\n"
    ++ "  --log-file PATH       also write log records to this file\n"
    ++ "  -v, --verbose         shortcut for --log-level DEBUG\n"
    ++ "  --trace               debug logging with timestamps and logger names\n"

def help (p : Page) : String := s!"{p.usage}\n{p.details}"

def errorText (p : Page) (e : UsageError) : String :=
  s!"{p.usage}{p.name}: error: {e.message}\n"

end Page

def versionText : String := "resumedoc 0.1.0\n"

end RichText.CommandLine
