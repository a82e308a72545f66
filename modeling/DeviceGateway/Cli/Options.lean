import DeviceGateway.Log
import DeviceGateway.Settings

/-!
# Options of the command line

An option has a long name and may have a short one; its value follows as the next argument or behind
`=`. No option may be there twice. `Request.ofArguments` says what the arguments ask for, as far as
they are read in order: a request for help wins over what is wrong behind it.
-/

namespace DeviceGateway.Cli

/-- What the options say. -/
structure Options where
  configFile : Option String := none
  overrides : Settings.Overrides := {}
  level : Option Level := none
  deriving DecidableEq, Repr

inductive Key
  | config
  | bind
  | acceptThreads
  | ioThreads
  | idleTimeout
  | maxPacketSize
  | maxQueuedMessages
  | charset
  | logLevel
  deriving DecidableEq, Repr

namespace Key

def all : List Key :=
  [config, bind, acceptThreads, ioThreads, idleTimeout, maxPacketSize, maxQueuedMessages, charset,
    logLevel]

def long : Key → String
  | config => "config"
  | bind => "bind"
  | acceptThreads => "accept-threads"
  | ioThreads => "io-threads"
  | idleTimeout => "idle-timeout"
  | maxPacketSize => "max-packet-size"
  | maxQueuedMessages => "max-queued-messages"
  | charset => "charset"
  | logLevel => "log-level"

def short? : Key → Option Char
  | config => some 'c'
  | bind => some 'b'
  | logLevel => some 'l'
  | _ => none

/-- Where an option is put that is not the file or the level. -/
def override? (k : Key) (value : String) (o : Settings.Overrides) : Option Settings.Overrides :=
  let count := Digits.natural? UInt64.size value.toList
  match k with
  | bind => (SocketAddress.ofText? value).map fun a => { o with address := some a }
  | acceptThreads => count.map fun n => { o with acceptThreads := some n }
  | ioThreads => count.map fun n => { o with ioThreads := some n }
  | idleTimeout => (Duration.ofText? value).map fun d => { o with idleTimeout := some d }
  | maxPacketSize => count.map fun n => { o with maxPacketSize := some n }
  | maxQueuedMessages => count.map fun n => { o with queueCapacity := some n }
  | charset => (Charset.ofName? value).map fun c => { o with charset := some c }
  | config | logLevel => some o

/-- The options with one more, if its value is one. -/
def set? (k : Key) (value : String) (o : Options) : Option Options :=
  match k with
  | config => if value = "" then none else some { o with configFile := some value }
  | logLevel => (Level.ofWord? value).map fun l => { o with level := some l }
  | k => (k.override? value o.overrides).map fun v => { o with overrides := v }

end Key

/-- What the arguments ask for. -/
inductive Request
  | help (long : Bool)
  | version
  | run (o : Options)
  /-- the arguments are wrong -/
  | misused
  deriving DecidableEq, Repr

namespace Request

/-- Whether an argument cannot be the value of the option before it. -/
def isFlag (arg : String) : Bool :=
  match arg.toList with
  | '-' :: _ :: _ => true
  | _ => false

/-- An argument that begins with a hyphen. -/
inductive Flag
  | help (long : Bool)
  | version
  /-- an option, with its value if that is in the same argument -/
  | option (k : Key) (value : Option String)
  | unknown

/-- The text behind the first `=`, and what is before it. -/
def splitValue (cs : List Char) : List Char × Option String :=
  match cs.dropWhile (· ≠ '=') with
  | [] => (cs, none)
  | _ :: value => (cs.takeWhile (· ≠ '='), some (String.ofList value))

/-- The flag of an argument behind two hyphens. -/
def longFlag (cs : List Char) : Flag :=
  let (name, value) := splitValue cs
  match String.ofList name, value with
  | "help", none => .help true
  | "version", none => .version
  | name, value =>
    match Key.all.find? (·.long = name) with
    | some k => .option k value
    | none => .unknown

/-- The flag of an argument behind one hyphen. -/
def shortFlag (c : Char) (cs : List Char) : Flag :=
  if c = 'h' then .help false
  else if c = 'V' then .version
  else
    match Key.all.find? (·.short? = some c), cs with
    | some k, [] => .option k none
    | some k, '=' :: value | some k, value => .option k (some (String.ofList value))
    | none, _ => .unknown

def flag (arg : String) : Flag :=
  match arg.toList with
  | '-' :: '-' :: cs => longFlag cs
  | '-' :: c :: cs => shortFlag c cs
  | _ => .unknown

/-- Adds an option that was not there before. -/
def addOption (seen : List Key) (k : Key) (value : String) (o : Options) : Option Options :=
  if seen.contains k then none else k.set? value o

/-- Reads arguments, behind the options `o`. -/
def read (seen : List Key) (o : Options) : List String → Request
  | [] => .run o
  | ["--"] => .run o
  | arg :: rest =>
    match flag arg with
    | .help long => .help long
    | .version => .version
    | .unknown => .misused
    | .option k (some value) =>
      match addOption seen k value o with
      | some o => read (k :: seen) o rest
      | none => .misused
    | .option k none =>
      match rest with
      | [] => .misused
      | value :: rest =>
        match if isFlag value then none else addOption seen k value o with
        | some o => read (k :: seen) o rest
        | none => .misused

def ofArguments (args : List String) : Request := read [] {} args

end Request

end DeviceGateway.Cli
