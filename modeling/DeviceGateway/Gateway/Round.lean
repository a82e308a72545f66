import DeviceGateway.Gateway.Turn

/-!
# Rounds

In a round the connections take turns: first those to which something happened, then every open
connection, which looks at its writer and at the clock. `Gateway.round` says what each of them did.
-/

namespace DeviceGateway

/-- The end of a connection, with the identity of its device. -/
structure Departure where
  identity : Option String
  ending : Ending

/-- What a connection did in a round. -/
structure Activity where
  written : Bytes := []
  departure : Option Departure := none

/-- What the connections did that did anything. -/
abbrev Activities := Index ConnectionId Activity

namespace Activities

/-- Adds what a connection did last. -/
def add (as : Activities) (c : ConnectionId) (a : Activity) : Activities :=
  if a.written.isEmpty && a.departure.isNone then as
  else
    let before := (as.get? c).getD {}
    as.insert c ⟨before.written ++ a.written, before.departure <|> a.departure⟩

def append (as bs : Activities) : Activities := bs.entries.foldl (fun as e => as.add e.1 e.2) as

/-- In the order in which the connections were accepted. -/
def inOrder (as : Activities) : List (ConnectionId × Activity) :=
  as.entries.mergeSort fun a b => a.1.raw ≤ b.1.raw

end Activities

def Turn.activity {ε : Type} (t : Turn ε) : Activity :=
  ⟨t.written, t.ended.map fun ending => ⟨t.identity, ending⟩⟩

namespace Gateway

variable {ε : Type} (svc : Service ε) (failure : ConnectionId → Option String) (now : Duration)

/-- Lets connections take turns, each with what happened to it. -/
def takeTurns : List (ConnectionId × Signal) → Gateway ε → Activities × Gateway ε :=
  fun signals g => signals.foldl (fun (as, g) (c, signal) =>
    let t := g.turn svc (failure c) now c signal
    (as.add c t.activity, t.gateway)) (∅, g)

/-- A round; `failure` says to which connections writing fails. -/
def round (signals : List (ConnectionId × Signal)) (g : Gateway ε) : Activities × Gateway ε :=
  g.takeTurns svc failure now
    (signals ++ g.live.flatMap fun c => [(c, .writer), (c, .clock)])

end Gateway

end DeviceGateway
