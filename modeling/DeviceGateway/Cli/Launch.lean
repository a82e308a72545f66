import DeviceGateway.Cli.Help
import DeviceGateway.Cli.Options
import DeviceGateway.Config.Load
import DeviceGateway.Credentials
import DeviceGateway.Startup

/-!
# Launching

From arguments to a gateway that is about to run. `Launch.ofOptions?` puts the options over the
configuration; `Launch.log` is what is logged before the gateway starts. `Start.ofArguments` is what
the program comes to: a gateway that can run, or what is printed instead.
-/

namespace DeviceGateway.Cli

/-! ### Which lines are shown -/

/-- The part of the log that one entry of a filter is about, by the beginning of the target. -/
structure Directive where
  target : String
  /-- the least severe level that is shown; none shows nothing -/
  level : Option Level
  deriving DecidableEq, Repr

inductive LogFilter
  | level (l : Level)
  | directives (ds : List Directive)
  deriving DecidableEq, Repr

namespace LogFilter

/-- The target of every line of this program. -/
def target : String := "mqttgate"

/-- A level in a directive, by word or number. -/
def level? (s : String) : Option (Option Level) :=
  let s := s.toLower
  if s = "off" ∨ s = "0" then some none
  else (Level.all.find? fun l => l.word = s ∨ toString (l.rank + 1) = s).map some

def isTarget (s : String) : Bool :=
  s ≠ "" && s.toList.all fun c => c.isAlphanum || [':', '_', '-'].contains c

/-- An entry is a level, or the beginning of a target, with a level behind `=` if not everything
is to be shown. -/
def directive? (s : String) : Option Directive :=
  match level? s, Request.splitValue s.toList with
  | some l, _ => some ⟨"", l⟩
  | none, (name, none) => if isTarget s then some ⟨String.ofList name, some .trace⟩ else none
  | none, (name, some l) =>
    if isTarget (String.ofList name) then
      (if l = "" then some (some .trace) else level? l).map (⟨String.ofList name, ·⟩)
    else none

/-- The entries of a filter, with commas between them. A filter without entries shows errors. -/
def ofText? (s : String) : Option LogFilter := do
  match ← (PasswordHash.splitAt ',' s.toList).filter (· ≠ []) |>.mapM fun cs =>
      directive? (String.ofList cs) with
  | [] => return directives [⟨"", some .error⟩]
  | ds => return directives ds

/-- Whether a line is shown; of the entries that are about it the longest decides, and of several
the last. -/
def shows (f : LogFilter) (l : Level) : Bool :=
  match f with
  | level m => m.shows l
  | directives ds =>
    let about := ds.filter fun d => d.target.toList.isPrefixOf target.toList
    let best := about.foldl (fun best d =>
      match best with
      | some b => if d.target.length < b.target.length then some b else some d
      | none => some d) (none : Option Directive)
    match best.bind (·.level) with
    | some m => m.shows l
    | none => false

/-- A line as it is shown. Where a filter chooses, the target is shown too. -/
def line (f : LogFilter) (l : Level) (text : String) : String :=
  match f with
  | level _ => s!"{l.name} {text}"
  | directives _ => s!"{l.name} {target}: {text}"

end LogFilter

/-! ### What is launched -/

structure Launch where
  settings : Settings
  credentials : Credentials
  configFile : Option String
  filter : LogFilter

namespace Launch

/-- The level that a configuration names, and a warning level where it names none. -/
def configLevel (c : Config) : Level := (Level.ofWord? c.log.level.toLower).getD .warn

/-- How the log is filtered. A level among the options goes before a filter in the configuration. -/
def filter? (c : Config) (o : Options) : Option LogFilter :=
  match c.log.filter, o.level with
  | some f, none => LogFilter.ofText? f
  | _, some l => some (.level l)
  | none, none => some (.level (configLevel c))

/-- The settings of the configuration with those of the options in their place. -/
def settingsOf (parallelism : Nat) (c : Config) (o : Options) : Settings :=
  ((c.settings parallelism).override o.overrides).normalized parallelism

def ofOptions? (parallelism : Nat) (c : Config) (o : Options) : Option Launch :=
  (filter? c o).map fun filter =>
    ⟨settingsOf parallelism c o, .ofAuth c.auth, o.configFile, filter⟩

/-- What is said before the gateway starts. -/
def announcement (l : Launch) : List String :=
  let s := l.settings
  (l.configFile.map fun path => s!"Loaded configuration from {Quoted.text path}").toList ++
    ["Starting mqttgate", s!"  Bind address: {s.address.text}",
      s!"  Accept threads: {s.acceptThreads}", s!"  I/O threads: {s.ioThreads}",
      s!"  Idle timeout: {s.idleTimeout.text}", s!"  Max packet size: {s.maxPacketSize} bytes",
      s!"  Queue capacity: {s.queueCapacity}", s!"  Charset: {s.charset.name}",
      if l.credentials.enabled then
        s!"  Authentication: enabled ({l.credentials.userCount} users configured)"
      else "  Authentication: disabled"]

/-- The lines of the log before the gateway starts. -/
def log (l : Launch) : List String :=
  if l.filter.shows .info then l.announcement.map (l.filter.line .info) else []

end Launch

/-! ### The program up to the running gateway -/

/-- Why the program ends without having run a gateway. -/
inductive Failure
  | misused
  | configuration (e : Config.Error)
  | filter
  | start (e : StartError)
  deriving DecidableEq, Repr

namespace Failure

def exitCode : Failure → UInt8
  | misused => 2
  | _ => 1

/-- What is printed about it, without the end of a line. -/
def message : Failure → String
  | misused => "error: wrong arguments\n\nFor more information, try '--help'."
  | configuration e => s!"Error loading configuration: {e.message}"
  | filter => "Error: the log filter cannot be read"
  | start e => s!"Error: {e.message}"

end Failure

/-- What the program prints and returns. -/
structure Report where
  stdout : List String := []
  log : List String := []
  failure : Option Failure := none

def Report.exitCode (r : Report) : UInt8 := (r.failure.map (·.exitCode)).getD 0

/-- What the program comes to: a report, or a gateway that can run. -/
inductive Start
  | over (r : Report)
  | running (l : Launch) (tls : Option TlsMaterial)

namespace Start

/-- What the arguments and the configuration ask for; without that, a report. -/
def launch? (parallelism : Nat) (env : Config.Environment)
    (source : Option String → Config.Source) (args : List String) : Except Report Launch :=
  match Request.ofArguments args with
  | .misused => .error { failure := some .misused }
  | .help long => .error { stdout := helpLines long }
  | .version => .error { stdout := [version] }
  | .run o =>
    match Config.load env (source o.configFile) with
    | .error e => .error { failure := some (.configuration e) }
    | .ok c =>
      match Launch.ofOptions? parallelism c o with
      | none => .error { failure := some .filter }
      | some l => .ok l

def ofLaunch (host : Host) (l : Launch) : Start :=
  match host.prepare l.settings with
  | .ok tls => .running l tls
  | .error e => .over { log := l.log, failure := some (.start e) }

def ofArguments (host : Host) (env : Config.Environment) (source : Option String → Config.Source)
    (args : List String) : Start :=
  match launch? host.parallelism env source args with
  | .ok l => ofLaunch host l
  | .error r => .over r

end Start

end DeviceGateway.Cli
