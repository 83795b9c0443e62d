/-!
# Usage and help pages

The texts that explain the command and its subcommands, laid out for 80 columns.
-/

namespace ContractRisk.CommandLine

structure Page where
  program : String
  usage : String
  /-- what the help says below the usage -/
  details : String

namespace Page

def help (p : Page) : String := p.usage ++ "\n" ++ p.details

/-- the usage with a complaint below it -/
def complaint (p : Page) (message : String) : String :=
  p.usage ++ p.program ++ ": error: " ++ message ++ "\n"

def severities : String := "\x7blow,medium,high,critical\x7d"

def categories : String :=
  "\x7bhoneypot,rug_pull,phishing,mint_abuse,liquidity_manipulation,social_engineering," ++
    "code_vulnerability\x7d"

def formats : String := "\x7btable,json\x7d"

def commands : String := "\x7bscan,patterns,stats,config\x7d"

/-- the line about help where other switches are explained in column 24 -/
def helpLine : String := "  -h, --help            show this help message and exit\n"

def main : Page where
  program := "threatscan"
  usage := "usage: threatscan [-h] [--version] [--quiet] " ++ commands ++ " ...\n"
  details := "threatscan — contract threat pattern detection and risk scoring\n" ++
    "\n" ++
    "positional arguments:\n" ++
    "  " ++ commands ++ "\n" ++
    "    scan                Scan a contract analysis bundle\n" ++
    "    patterns            List registered threat patterns\n" ++
    "    stats               Show detection statistics\n" ++
    "    config              Show current configuration\n" ++
    "\n" ++
    "options:\n" ++ helpLine ++
    "  --version             Print version and exit\n" ++
    "  --quiet, -q           Minimal output\n"

def scan : Page where
  program := "threatscan scan"
  usage := "usage: threatscan scan [-h] [--severity " ++ severities ++ "]\n" ++
    "                       [--format " ++ formats ++ "] [--max-findings MAX_FINDINGS]\n" ++
    "                       [--timeout TIMEOUT] [--no-detectors]\n" ++
    "                       [--patterns PATTERNS]\n" ++
    "                       bundle\n"
  details := "positional arguments:\n" ++
    "  bundle                Path to a bundle JSON file, or - for stdin\n" ++
    "\n" ++
    "options:\n" ++ helpLine ++
    "  --severity " ++ severities ++ "\n" ++
    "                        Minimum severity to report\n" ++
    "  --format " ++ formats ++ ", -f " ++ formats ++ "\n" ++
    "                        Output format (default: table)\n" ++
    "  --max-findings MAX_FINDINGS\n" ++
    "                        Limit findings shown (0=all)\n" ++
    "  --timeout TIMEOUT     Per-detector timeout in seconds\n" ++
    "  --no-detectors        Run rule patterns only\n" ++
    "  --patterns PATTERNS   YAML file with additional rule patterns\n"

def patterns : Page where
  program := "threatscan patterns"
  usage := "usage: threatscan patterns [-h]\n" ++
    "                           [--category " ++ categories ++ "]\n" ++
    "                           [--severity " ++ severities ++ "]\n"
  details := "options:\n" ++ helpLine ++
    "  --category " ++ categories ++ "\n" ++
    "                        Only this category\n" ++
    "  --severity " ++ severities ++ "\n" ++
    "                        Only this severity\n"

/-- a command without arguments of its own -/
def bare (command : String) : Page where
  program := "threatscan " ++ command
  usage := "usage: threatscan " ++ command ++ " [-h]\n"
  details := "options:\n  -h, --help  show this help message and exit\n"

end Page

end ContractRisk.CommandLine
