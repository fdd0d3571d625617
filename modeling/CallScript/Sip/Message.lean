import CallScript.Media.Profile
import CallScript.Text

/-!
# SIP messages

The messages that a caller sends.  Names between square brackets are filled in by whoever plays
the script; the caller's identity is filled in here, and the offer in an INVITE names the payload
types of the capture.
-/

namespace CallScript
namespace Sip

/-- A message of the given lines: every line ends with a line feed, and a blank line comes first. -/
def ofLines (lines : List Text) : Text :=
  .char '\n' :: Text.join (lines.map (· ++ [.char '\n']))

/-- The lines of the session description in an INVITE. -/
def offerLines : List Text :=
  let audio := toString Media.audioType
  let event := toString Media.eventType
  let rate := toString Media.clockRate
  [ "v=0",
    "o=user1 53655765 2353687637 IN IP[local_ip_type] [local_ip]",
    "s=-",
    "c=IN IP[media_ip_type] [media_ip]",
    "t=0 0",
    "m=audio [media_port] RTP/AVP " ++ audio,
    "a=rtpmap:" ++ audio ++ " PCMU/" ++ rate,
    "a=rtpmap:" ++ event ++ " telephone-event/" ++ rate,
    "a=fmtp:" ++ event ++ " 0-15" ]

/-- The lines of an INVITE from a caller. -/
def inviteLines (caller : Text) : List Text :=
  ([ "INVITE sip:[service]@[remote_ip]:[remote_port] SIP/2.0",
    "Via: SIP/2.0/[transport] [local_ip]:[local_port];branch=[branch]",
    "From: sipp <sip:" ++ caller ++ "@[local_ip]>;tag=[call_number]",
    "To: <sip:[service]@[remote_ip]:[remote_port]>",
    "Call-ID: [call_id]",
    "CSeq: [cseq] INVITE",
    "Contact: sip:" ++ caller ++ "@[local_ip]:[local_port]",
    "Max-Forwards: 100",
    "Content-Type: application/sdp",
    "Content-Length: [len]",
    "" ] : List Text) ++ offerLines

/-- The lines of the ACK that a caller answers a final response with. -/
def ackLines (caller : Text) : List Text :=
  [ "ACK [next_url] SIP/2.0",
    "Via: SIP/2.0/[transport] [local_ip]:[local_port];branch=[branch]",
    "From: <sip:" ++ caller ++ "@[local_ip]>;tag=[call_number]",
    "[last_To:]",
    "[routes]",
    "Call-ID: [call_id]",
    "CSeq: [cseq] ACK",
    "Contact: sip:" ++ caller ++ "@[local_ip]:[local_port]",
    "Max-Forwards: 100",
    "Content-Length: 0" ]

/-- The lines of a BYE. -/
def byeLines : List Text :=
  [ "BYE sip:[service]@[remote_ip]:[remote_port] SIP/2.0",
    "[last_Via:]",
    "[last_From:]",
    "[last_To:]",
    "[last_Call-ID]",
    "CSeq: [cseq] BYE",
    "Contact: <sip:[local_ip]:[local_port];transport=[transport]>",
    "Max-Forwards: 100",
    "Content-Length: 0" ]

/-- The lines of the response that confirms a BYE. -/
def okToByeLines : List Text :=
  [ "SIP/2.0 200 OK",
    "[last_Via:]",
    "[last_From:]",
    "[last_To:]",
    "[routes]",
    "[last_Call-ID:]",
    "[last_CSeq:]",
    "Contact: <sip:[local_ip]:[local_port];transport=[transport]>",
    "Max-Forwards: 100",
    "Content-Length: 0" ]

/-- An INVITE from a caller. -/
def invite (caller : Text) : Text :=
  ofLines (inviteLines caller)

/-- An ACK from a caller. -/
def ack (caller : Text) : Text :=
  ofLines (ackLines caller)

/-- A BYE. -/
def bye : Text :=
  ofLines byeLines

/-- The confirmation of a BYE. -/
def okToBye : Text :=
  ofLines okToByeLines

end Sip
end CallScript
