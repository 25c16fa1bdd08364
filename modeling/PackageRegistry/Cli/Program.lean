import PackageRegistry.Cli.Spec
/-!
# The commands of `gopx`

The command tree with the help text of every command and option. Help texts keep the marker
`\b` before blocks printed as written.
-/

namespace PackageRegistry.Cli

def programVersion : String := "0.1.0"

/-- The line `--version` prints. -/
def versionLine : String := "gopx, version " ++ programVersion

/-! ## The top group -/

def topOptions : List OptionSpec :=
  [{ dest := "config", names := ["--config", "-c"], kind := .value .path,
     help := "Path to config file (default: ~/.config/gopx/config.toml)" },
   { dest := "database_url", names := ["--database", "-d"], kind := .value .text,
     help := "SQLAlchemy URL of the registry database (overrides config)" },
   { dest := "no_color", names := ["--no-color"], kind := .flag,
     help := "Disable colored output" },
   { dest := "verbose", names := ["--verbose", "-v"], kind := .flag,
     help := "Enable verbose output" },
   { dest := "debug", names := ["--debug"], kind := .flag,
     help := "Enable debug output (implies --verbose)" },
   { dest := "quiet", names := ["--quiet", "-q"], kind := .flag,
     help := "Suppress non-error output" },
   { dest := "pager", names := ["--pager"], kind := .switch ["--no-pager"],
     help := "Force pager on/off (default: auto-detect)" },
   { dest := "version", names := ["--version"], kind := .version,
     help := "Show the version and exit." }]

def topHelp : String :=
  "gopx: Search and inspect a Go package registry.\n\n" ++
  "Queries use the registry search syntax: free words plus\n" ++
  "``key:value`` qualifiers such as ``in:name,desc``, ``downloads:>=1000``\n" ++
  "or ``created:2020-01-01..2020-12-31``.\n\n" ++
  "Configuration is loaded from ~/.config/gopx/config.toml by default.\n" ++
  "Use --config to specify an alternative configuration file.\n\n" ++
  "Examples:\n\n" ++
  "    # Most downloaded packages mentioning websocket\n" ++
  "    gopx search packages websocket --sort downloads --order desc\n\n" ++
  "    # Show the SQL a query compiles to\n" ++
  "    gopx search users \"location:berlin packages:>5\" --format sql"

def helpCommand : CommandSpec :=
  { name := "help", help := "Show help for a command.",
    arguments := [{ dest := "command", variadic := true }] }

/-! ## Searching -/

/-- The orders a search accepts. -/
def sortOrders : List String := ["asc", "desc"]

def outputFormats : List String := ["table", "json", "sql"]

def searchOptions : List OptionSpec :=
  [{ dest := "sort", names := ["--sort", "-s"], kind := .value .text,
     help := "Comma-separated sort keys; unknown keys are ignored" },
   { dest := "order", names := ["--order", "-o"], kind := .value (.choice sortOrders true),
     help := "Sort direction (default: ASC)" },
   { dest := "page", names := ["--page", "-p"], kind := .value .text,
     help := "Page number, starting at 1" },
   { dest := "per_page", names := ["--per-page", "-n"], kind := .value .text,
     help := "Results per page (clamped to the configured maximum)" },
   { dest := "output_format", names := ["--format", "-f"],
     kind := .value (.choice outputFormats false),
     help := "Output format (default: table); sql prints the compiled query only" }]

def searchPackagesCommand : CommandSpec :=
  { name := "packages",
    help := "Search packages.\n\n\x08\nExamples:\n" ++
      "  gopx search packages websocket\n" ++
      "  gopx search packages \"router in:name,tag downloads:>=100\" --sort downloads -o desc\n" ++
      "  gopx search packages owner:alice --format json",
    options := searchOptions, arguments := [{ dest := "query", variadic := true }] }

def searchUsersCommand : CommandSpec :=
  { name := "users",
    help := "Search users.\n\n\x08\nExamples:\n" ++
      "  gopx search users alice\n" ++
      "  gopx search users \"location:berlin packages:>=3\" --sort packages -o desc",
    options := searchOptions, arguments := [{ dest := "query", variadic := true }] }

def searchHelp : String :=
  "Search packages or users.\n\n" ++
  "QUERY is free text plus ``key:value`` qualifiers. Multiple arguments\n" ++
  "are joined with spaces; ``+`` inside a value stands for a space.\n\n" ++
  "\x08\nPackage qualifiers:\n" ++
  "  in:name,desc,tag   fields the free text is matched against\n" ++
  "  downloads:>=1000   download count\n" ++
  "  created:2020-01-01..2020-12-31\n" ++
  "  updated:>2021-06-01\n" ++
  "  owner:alice        exact owner username\n\n" ++
  "\x08\nUser qualifiers:\n" ++
  "  in:username,name,email\n" ++
  "  packages:>5        number of owned packages\n" ++
  "  location:new+york  any of the words\n" ++
  "  joined:<2019-01-01"

def searchGroup : GroupSpec :=
  { spec := { name := "search", help := searchHelp },
    commands := [searchPackagesCommand, searchUsersCommand] }

/-! ## Packages -/

/-- The `--json` switch of the package commands. -/
def jsonOption : OptionSpec :=
  { dest := "as_json", names := ["--json"], kind := .flag, help := "Print JSON instead of a table" }

def nameArgument : ArgumentSpec := { dest := "name" }

def showCommand : CommandSpec :=
  { name := "show", help := "Show metadata of package NAME.", options := [jsonOption],
    arguments := [nameArgument] }

def versionsCommand : CommandSpec :=
  { name := "versions", help := "List released versions of package NAME, oldest first.",
    options := [jsonOption], arguments := [nameArgument] }

def readmeCommand : CommandSpec :=
  { name := "readme", help := "Print the README of package NAME.",
    options :=
      [{ dest := "version", names := ["--version", "-V"], kind := .value .text,
         help := "Version (default: latest)" },
       { dest := "raw", names := ["--raw"], kind := .flag, help := "Print the README source" },
       jsonOption],
    arguments := [nameArgument] }

def downloadsCommand : CommandSpec :=
  { name := "downloads", help := "Show download counts, for NAMES or for every package.",
    options := [jsonOption], arguments := [{ dest := "names", variadic := true }] }

def registerCommand : CommandSpec :=
  { name := "register",
    help := "Upload TARBALL as the payload of package NAME to the VCS registry.\n\n" ++
      "The package and version must already be known to the registry\n" ++
      "database; the owner recorded there is sent along.\n\n" ++
      "\x08\n  gopx package register websocket websocket-1.2.0.tar.gz -V 1.2.0",
    options :=
      [{ dest := "version", names := ["--version", "-V"], kind := .value .text,
         help := "Version to upload (default: latest)" },
       { dest := "private", names := ["--private"], kind := .flag,
         help := "Register as a private package" }],
    arguments := [nameArgument, { dest := "tarball", kind := .inputFile }] }

def deleteCommand : CommandSpec :=
  { name := "delete", help := "Remove the payloads of package NAME from the VCS registry.",
    arguments := [nameArgument] }

def packageGroup : GroupSpec :=
  { spec := { name := "package", help := "Show registry packages and manage their VCS payloads." },
    commands := [showCommand, versionsCommand, readmeCommand, downloadsCommand, registerCommand,
      deleteCommand] }

/-! ## Accounts and setup -/

def whoamiCommand : CommandSpec :=
  { name := "whoami",
    help := "Show the user an Authorization header belongs to.\n\n" ++
      "\x08\n  gopx whoami --auth \"APIKey 0123abcd\"",
    options :=
      [{ dest := "header", names := ["--auth", "-a"], kind := .value .text, required := true,
         help := "Authorization header value, e.g. 'Basic <base64>' or 'APIKey <key>'" },
       { dest := "as_json", names := ["--json"], kind := .flag, help := "Print JSON" }] }

/-- `init-db`. -/
def initDbCommand : CommandSpec :=
  { name := "init-db",
    help := "Create missing registry tables.\n\n" ++
      "Existing tables and their rows are left alone, so running this\n" ++
      "against an initialized database is harmless.\n\n" ++
      "\x08\n  gopx --database sqlite:///registry.db init-db" }

/-- `init-config`. -/
def initConfigCommand : CommandSpec :=
  { name := "init-config",
    help := "Create a new configuration file with default settings.\n\n" ++
      "The file holds the VCS registry auth key, so it is created readable\n" ++
      "by its owner only.\n\n" ++
      "\x08\n  # Create config at default location\n  gopx init-config\n\n" ++
      "\x08\n  # Create config at custom location, replacing an existing one\n" ++
      "  gopx init-config --output ./gopx.toml --force",
    options :=
      [{ dest := "force", names := ["--force", "-f"], kind := .flag,
         help := "Overwrite existing config file" },
       { dest := "output", names := ["--output", "-o"], kind := .value .path,
         help := "Output path for config file (default: ~/.config/gopx/config.toml)" }] }

def program : Program :=
  { spec := { name := "cli", help := topHelp, options := topOptions },
    entries := [.command helpCommand, .command initConfigCommand, .command initDbCommand,
      .group packageGroup, .group searchGroup, .command whoamiCommand] }

end PackageRegistry.Cli
