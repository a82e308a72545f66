/-!
# Help

What is printed for `--help`, for `-h` and for `--version`.
-/

namespace DeviceGateway.Cli

def version : String := "mqttgate 0.0.0-dev"

/-- An option in the help: how it is written, what it is for, and what the long help adds. -/
structure HelpEntry where
  usage : String
  purpose : String
  longPurpose : String := purpose
  more : List String := []
  deriving Repr

def helpEntries : List HelpEntry :=
  [{ usage := "  -c, --config <CONFIG>", purpose := "Configuration file path (TOML format)" },
    { usage := "  -b, --bind <BIND>", purpose := "TCP bind address" },
    { usage := "      --accept-threads <ACCEPT_THREADS>"
      purpose := "Concurrent accept tasks (1-5)" },
    { usage := "      --io-threads <IO_THREADS>"
      purpose := "I/O worker threads (0 = auto, at most 100)" },
    { usage := "      --idle-timeout <IDLE_TIMEOUT>"
      purpose := "Close connections idle for this long (e.g. 90s, 5m)" },
    { usage := "      --max-packet-size <MAX_PACKET_SIZE>"
      purpose := "Maximum packet size in bytes" },
    { usage := "      --max-queued-messages <MAX_QUEUED_MESSAGES>"
      purpose := "Capacity of the inbound message queue" },
    { usage := "      --charset <CHARSET>"
      purpose := "Payload charset (UTF-8, ISO-8859-1, US-ASCII)" },
    { usage := "  -l, --log-level <LOG_LEVEL>"
      purpose := "Log level (error, warn, info, debug, trace) " ++
        "[possible values: error, warn, info, debug, trace]"
      longPurpose := "Log level (error, warn, info, debug, trace)"
      more := ["", "Possible values:", "- error: Only errors", "- warn:  Warnings and errors",
        "- info:  Informational messages", "- debug: Debug messages",
        "- trace: Trace messages (very verbose)"] },
    { usage := "  -h, --help", purpose := "Print help (see more with '--help')"
      longPurpose := "Print help (see a summary with '-h')" },
    { usage := "  -V, --version", purpose := "Print version" }]

/-- A text in the column of purposes. -/
def indented (s : String) : String := if s = "" then "" else "          " ++ s

def helpLines (long : Bool) : List String :=
  let entry (e : HelpEntry) : List String :=
    if long then e.usage :: (e.longPurpose :: e.more).map indented
    else [e.usage, indented e.purpose]
  ["Point-to-point MQTT v3.1.1 device gateway", "", "Usage: mqttgate [OPTIONS]", "", "Options:"] ++
    if long then [""].intercalate (helpEntries.map entry) else helpEntries.flatMap entry

end DeviceGateway.Cli
