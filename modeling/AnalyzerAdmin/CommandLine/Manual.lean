import AnalyzerAdmin.CommandLine.Invocation

/-!
# Texts of the command line

The name and version of the program, its help, and what it says of arguments that it refuses.
-/

namespace AnalyzerAdmin.CommandLine

def programName : String := "perf-analyzer-client"

def versionText : String := programName ++ " 0.1.0"

def usageText : String := "Usage: " ++ programName ++ " [OPTIONS] [COMMAND]"

def commandHelp : List (String × String) :=
  [("verify", "Print root info, nodes and plugins, then check them against the expected topology"),
    ("get_state", "Print the cluster state followed by the node state"),
    ("enable_metrics",
      "Enable the performance analyzer cluster-wide and print the resulting states"),
    ("get_metrics", "Fetch current latency and CPU metrics from the metrics port"),
    ("enable_batch", "Enable batch metrics cluster-wide and print the resulting states"),
    ("get_batch", "Fetch batch metrics for the last three minutes"),
    ("reset", "Disable the performance analyzer at cluster and node scope"),
    (helpName, "Print this message or the help of the given subcommand(s)")]

def optionHelp : List (String × String) :=
  [(Opt.scheme.label, "Protocol used to reach the cluster"),
    (Opt.host.label, "Hostname of the node to talk to"),
    (Opt.port.label, "REST port of the node"),
    (Opt.metricsPort.label, "Port the performance analyzer serves metrics on"),
    (Opt.timeout.label, "Per-request timeout in milliseconds"),
    (Opt.expectedVersion.label, "Version the cluster must report for `verify` to pass"),
    (Opt.expectedNode.label, "Node expected in the cluster. Repeat for each node; " ++
      "defaults to the two-node test cluster"),
    (Opt.settle.label, "Delay between a toggle and the read that reports it, in milliseconds"),
    ("--poll", "Poll every `--settle-ms` until the toggle is visible instead of sleeping once"),
    (Opt.pollTimeout.label, "Give up polling after this many milliseconds"),
    ("-h, --help", "Print help"),
    ("-V, --version", "Print version")]

def table (rows : List (String × String)) : String :=
  let width := (rows.map fun row => row.1.length).foldl max 0
  String.join (rows.map fun row =>
    "  " ++ row.1 ++ String.ofList (List.replicate (width - row.1.length + 2) ' ') ++
      row.2 ++ "\n")

def helpText : String :=
  usageText ++ "\n\nCommands:\n" ++ table commandHelp ++ "\nOptions:\n" ++ table optionHelp

def Stop.complaint : Stop → String
  | .help => ""
  | .version => ""
  | .unknownArgument arg => "unexpected argument '" ++ arg ++ "' found"
  | .unknownCommand name => "unrecognized subcommand '" ++ name ++ "'"
  | .missingValue label => "a value is required for '" ++ label ++ "' but none was supplied"
  | .repeated label => "the argument '" ++ label ++ "' cannot be used multiple times"
  | .excessValue label value =>
    "unexpected value '" ++ value ++ "' for '" ++ label ++ "' found; no more were expected"
  | .badValue label value fault =>
    "invalid value '" ++ value ++ "' for '" ++ label ++ "': " ++ fault.message

def Stop.render (stop : Stop) : String :=
  "error: " ++ stop.complaint ++ "\n\n" ++ usageText ++
    "\n\nFor more information, try '--help'.\n"

end AnalyzerAdmin.CommandLine
