/-!
# What can be wrong with a packet

`DecodeError` is the cause for which received octets are no packet, `EncodeError` the cause for
which a packet cannot be written. Each has one `message`.
-/

namespace DeviceGateway

/-- A rule of the packet format that a complete packet breaks. -/
inductive Malformation
  | truncated
  | nullCharacter
  | trailingConnect
  | connackLength
  | connackReturnCode
  | dupWithoutQoS
  | topicWildcard
  | zeroPacketId
  | emptyFilter
  | requestedQoSBits
  | noSubscription
  | subackReturnCode
  | noFilter
  | packetIdLength
  | unexpectedPayload
  deriving DecidableEq, Repr

namespace Malformation

def message : Malformation → String
  | truncated => "truncated packet"
  | nullCharacter => "string contains null character"
  | trailingConnect => "trailing bytes after CONNECT payload"
  | connackLength => "CONNACK must be 2 bytes"
  | connackReturnCode => "unknown CONNACK return code"
  | dupWithoutQoS => "DUP must be 0 for QoS 0"
  | topicWildcard => "topic contains wildcard"
  | zeroPacketId => "packet id cannot be 0"
  | emptyFilter => "topic filter cannot be empty"
  | requestedQoSBits => "reserved bits set in requested QoS"
  | noSubscription => "SUBSCRIBE must have at least one topic"
  | subackReturnCode => "unknown SUBACK return code"
  | noFilter => "UNSUBSCRIBE must have at least one topic"
  | packetIdLength => "expected a 2 byte packet id"
  | unexpectedPayload => "unexpected payload"

end Malformation

/-- Why octets are not a packet. -/
inductive DecodeError
  | insufficientData
  | invalidPacketType (nibble : UInt8)
  | invalidRemainingLength
  | invalidProtocolName
  | invalidProtocolVersion (level : UInt8)
  | invalidQoS (bits : UInt8)
  | invalidUtf8
  | invalidFlags
  | malformed (rule : Malformation)
  | packetTooLarge
  deriving DecidableEq, Repr

namespace DecodeError

def message : DecodeError → String
  | insufficientData => "insufficient data in buffer"
  | invalidPacketType t => s!"invalid packet type: {t}"
  | invalidRemainingLength => "invalid remaining length encoding"
  | invalidProtocolName => "invalid protocol name"
  | invalidProtocolVersion v => s!"invalid protocol version: {v}"
  | invalidQoS q => s!"invalid QoS value: {q}"
  | invalidUtf8 => "invalid UTF-8 string"
  | invalidFlags => "invalid packet flags"
  | malformed rule => s!"malformed packet: {rule.message}"
  | packetTooLarge => "packet too large"

end DecodeError

/-- Why a packet cannot be written. -/
inductive EncodeError
  /-- the remaining length does not fit in four octets -/
  | packetTooLarge
  /-- a string or binary field is longer than 65535 octets -/
  | stringTooLong
  /-- a PUBLISH above QoS 0 has no packet identifier -/
  | missingPacketId
  deriving DecidableEq, Repr

namespace EncodeError

def message : EncodeError → String
  | packetTooLarge => "packet too large"
  | stringTooLong => "string too long"
  | missingPacketId => "missing packet identifier"

end EncodeError

/-- What ends the conversation with a peer that does not keep to the protocol. -/
inductive ProtocolError
  | decode (e : DecodeError)
  | encode (e : EncodeError)
  | violation (what : String)
  | notAuthorized
  deriving DecidableEq, Repr

namespace ProtocolError

def message : ProtocolError → String
  | decode e => s!"decode error: {e.message}"
  | encode e => s!"encode error: {e.message}"
  | violation what => s!"protocol violation: {what}"
  | notAuthorized => "not authorized"

end ProtocolError

end DeviceGateway
