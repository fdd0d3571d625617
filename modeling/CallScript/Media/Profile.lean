/-!
# Media profiles

The fixed parameters of a capture: the clock rate, the length of a packet, the payload types, and
the length and volume of a tone.
-/

namespace CallScript
namespace Media

/-- The clock rate of telephone audio, in samples per second. -/
def clockRate : Int := 8000

/-- The payload type of mu-law audio. -/
def audioType : Int := 0

/-- The payload type of telephone events, as the offer in an INVITE announces it. -/
def eventType : Int := 101

/-- The parameters of a capture. -/
structure Profile where
  sampleRate : Int
  packetMs : Int
  audioPayloadType : Int
  eventPayloadType : Int
  toneMs : Int
  volume : Int
  deriving Repr, DecidableEq

namespace Profile

/-- The profile that is used where nothing else is asked for. -/
def standard : Profile where
  sampleRate := clockRate
  packetMs := 20
  audioPayloadType := audioType
  eventPayloadType := eventType
  toneMs := 250
  volume := 10

/-- The number of whole samples in a number of milliseconds. -/
def samplesFor (p : Profile) (milliseconds : Int) : Int :=
  Int.fdiv (p.sampleRate * milliseconds) 1000

/-- The number of samples in a full packet. -/
def frameSamples (p : Profile) : Int :=
  p.samplesFor p.packetMs

/-- The number of samples in a tone. -/
def toneSamples (p : Profile) : Int :=
  p.samplesFor p.toneMs

end Profile
end Media
end CallScript
