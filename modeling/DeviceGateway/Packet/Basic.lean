import DeviceGateway.Bytes

/-!
# Packets

The fourteen packets of MQTT 3.1.1 and the numbers in them. `QoS`, `ProtocolLevel`,
`ConnectReturnCode`, `SubAckReturnCode` and `PacketType` each have a reading of an octet,
`ofOctet?`, and a writing, `octet`; `ofOctet?_octet` says that the reading undoes the writing.
-/

namespace DeviceGateway

/-- The protocol level in CONNECT. Level 3 has the protocol name of MQTT 3.1. -/
inductive ProtocolLevel
  | v31
  | v311
  deriving DecidableEq, Repr, Inhabited

namespace ProtocolLevel

def octet : ProtocolLevel → UInt8
  | v31 => 3
  | v311 => 4

def ofOctet? (b : UInt8) : Option ProtocolLevel :=
  if b = 3 then some v31 else if b = 4 then some v311 else none

/-- The protocol name that must come with a level. -/
def protocolName : ProtocolLevel → String
  | v31 => "MQIsdp"
  | v311 => "MQTT"

/-- The level as log lines show it. -/
def label : ProtocolLevel → String
  | v31 => "V31"
  | v311 => "V311"

theorem ofOctet?_octet (l : ProtocolLevel) : ofOctet? l.octet = some l := by cases l <;> rfl

end ProtocolLevel

/-- Quality of service. -/
inductive QoS
  | atMostOnce
  | atLeastOnce
  | exactlyOnce
  deriving DecidableEq, Repr, Inhabited

namespace QoS

def octet : QoS → UInt8
  | atMostOnce => 0
  | atLeastOnce => 1
  | exactlyOnce => 2

def ofOctet? (b : UInt8) : Option QoS :=
  if b = 0 then some atMostOnce
  else if b = 1 then some atLeastOnce
  else if b = 2 then some exactlyOnce
  else none

/-- The level as log lines show it. -/
def label : QoS → String
  | atMostOnce => "AtMostOnce"
  | atLeastOnce => "AtLeastOnce"
  | exactlyOnce => "ExactlyOnce"

theorem ofOctet?_octet (q : QoS) : ofOctet? q.octet = some q := by cases q <;> rfl

theorem octet_of_ofOctet? {b : UInt8} {q : QoS} (h : ofOctet? b = some q) : q.octet = b := by
  unfold ofOctet? at h
  repeat' split at h
  all_goals simp_all
  all_goals subst h; rfl

end QoS

/-- The return code of CONNACK. -/
inductive ConnectReturnCode
  | accepted
  | unacceptableProtocolVersion
  | identifierRejected
  | serverUnavailable
  | badUserNameOrPassword
  | notAuthorized
  deriving DecidableEq, Repr, Inhabited

namespace ConnectReturnCode

def octet : ConnectReturnCode → UInt8
  | accepted => 0
  | unacceptableProtocolVersion => 1
  | identifierRejected => 2
  | serverUnavailable => 3
  | badUserNameOrPassword => 4
  | notAuthorized => 5

def ofOctet? (b : UInt8) : Option ConnectReturnCode :=
  if b = 0 then some accepted
  else if b = 1 then some unacceptableProtocolVersion
  else if b = 2 then some identifierRejected
  else if b = 3 then some serverUnavailable
  else if b = 4 then some badUserNameOrPassword
  else if b = 5 then some notAuthorized
  else none

theorem ofOctet?_octet (c : ConnectReturnCode) : ofOctet? c.octet = some c := by cases c <;> rfl

end ConnectReturnCode

/-- The return code of SUBACK for one filter. -/
inductive SubAckReturnCode
  | granted (qos : QoS)
  | failure
  deriving DecidableEq, Repr, Inhabited

namespace SubAckReturnCode

def octet : SubAckReturnCode → UInt8
  | granted qos => qos.octet
  | failure => 0x80

def ofOctet? (b : UInt8) : Option SubAckReturnCode :=
  if b = 0x80 then some failure else (QoS.ofOctet? b).map granted

theorem ofOctet?_octet (c : SubAckReturnCode) : ofOctet? c.octet = some c := by
  cases c with
  | granted qos => cases qos <;> rfl
  | failure => rfl

end SubAckReturnCode

/-- The kinds of packet. -/
inductive PacketType
  | connect
  | connAck
  | publish
  | pubAck
  | pubRec
  | pubRel
  | pubComp
  | subscribe
  | subAck
  | unsubscribe
  | unsubAck
  | pingReq
  | pingResp
  | disconnect
  deriving DecidableEq, Repr, Inhabited

namespace PacketType

/-- The number of a kind, which is the upper half of the first octet. -/
def octet : PacketType → UInt8
  | connect => 1
  | connAck => 2
  | publish => 3
  | pubAck => 4
  | pubRec => 5
  | pubRel => 6
  | pubComp => 7
  | subscribe => 8
  | subAck => 9
  | unsubscribe => 10
  | unsubAck => 11
  | pingReq => 12
  | pingResp => 13
  | disconnect => 14

/-- All kinds, in the order of their numbers. -/
def all : List PacketType :=
  [connect, connAck, publish, pubAck, pubRec, pubRel, pubComp, subscribe, subAck, unsubscribe,
    unsubAck, pingReq, pingResp, disconnect]

def ofOctet? (b : UInt8) : Option PacketType := all.find? (·.octet = b)

/-- The name of a kind in log lines. -/
def name : PacketType → String
  | connect => "CONNECT"
  | connAck => "CONNACK"
  | publish => "PUBLISH"
  | pubAck => "PUBACK"
  | pubRec => "PUBREC"
  | pubRel => "PUBREL"
  | pubComp => "PUBCOMP"
  | subscribe => "SUBSCRIBE"
  | subAck => "SUBACK"
  | unsubscribe => "UNSUBSCRIBE"
  | unsubAck => "UNSUBACK"
  | pingReq => "PINGREQ"
  | pingResp => "PINGRESP"
  | disconnect => "DISCONNECT"

theorem ofOctet?_octet (t : PacketType) : ofOctet? t.octet = some t := by cases t <;> rfl

end PacketType

/-- The will of a client: carried in CONNECT, never published. -/
structure Will where
  topic : String
  payload : Bytes
  qos : QoS
  retain : Bool
  deriving DecidableEq, Repr

structure Connect where
  level : ProtocolLevel := .v311
  clientId : String := ""
  cleanSession : Bool := true
  keepAlive : UInt16 := 60
  username : Option String := none
  password : Option Bytes := none
  will : Option Will := none
  deriving DecidableEq, Repr

structure Publish where
  dup : Bool := false
  qos : QoS := .atMostOnce
  retain : Bool := false
  topic : String := ""
  packetId : Option UInt16 := none
  payload : Bytes := []
  deriving DecidableEq, Repr

/-- A topic filter with the quality of service asked for it. -/
structure Subscription where
  filter : String
  qos : QoS
  deriving DecidableEq, Repr

inductive Packet
  | connect (c : Connect)
  | connAck (sessionPresent : Bool) (code : ConnectReturnCode)
  | publish (p : Publish)
  | pubAck (id : UInt16)
  | pubRec (id : UInt16)
  | pubRel (id : UInt16)
  | pubComp (id : UInt16)
  | subscribe (id : UInt16) (subscriptions : List Subscription)
  | subAck (id : UInt16) (codes : List SubAckReturnCode)
  | unsubscribe (id : UInt16) (filters : List String)
  | unsubAck (id : UInt16)
  | pingReq
  | pingResp
  | disconnect
  deriving DecidableEq, Repr

namespace Packet

def type : Packet → PacketType
  | connect _ => .connect
  | connAck _ _ => .connAck
  | publish _ => .publish
  | pubAck _ => .pubAck
  | pubRec _ => .pubRec
  | pubRel _ => .pubRel
  | pubComp _ => .pubComp
  | subscribe _ _ => .subscribe
  | subAck _ _ => .subAck
  | unsubscribe _ _ => .unsubscribe
  | unsubAck _ => .unsubAck
  | pingReq => .pingReq
  | pingResp => .pingResp
  | disconnect => .disconnect

def name (p : Packet) : String := p.type.name

end Packet

end DeviceGateway
