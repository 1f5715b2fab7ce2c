/-!
# An example of settings

A settings document that says what the defaults are.
-/

namespace Groundplan.Settings

/-- The lines of the example. -/
def exampleLines : List String :=
  ["# iac-canon configuration file",
    "",
    "# Scanning options",
    "scan:",
    "  # Patterns to exclude from scanning (glob patterns)",
    "  exclude_patterns:",
    "    - \"**/.terraform/**\"",
    "",
    "  # Record failing files and keep going instead of aborting the scan",
    "  continue_on_error: true",
    "",
    "  # Maximum depth for recursive directory scanning",
    "  max_depth: 100",
    "",
    "# Conversion options",
    "conversion:",
    "  # Documents nesting deeper than this are rejected",
    "  max_nesting_depth: 64",
    "",
    "# Dialect selection",
    "dialect:",
    "  name: terraform",
    "  # Registry default when unset (can use environment variable)",
    "  # version: $\x7bIAC_DIALECT_VERSION\x7d",
    "",
    "# Output options",
    "output:",
    "  # Use colored output in terminal",
    "  colored: true",
    "",
    "  # Pretty-print JSON output",
    "  pretty: true"]

/-- The text of the example. -/
def exampleText : String := String.join (exampleLines.map (· ++ "\n"))

end Groundplan.Settings
