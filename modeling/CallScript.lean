import CallScript.Main
import CallScript.Fault.Family
import CallScript.Disk.Tree
import CallScript.Proofs.Capture.Tiling
import CallScript.Proofs.Capture.Dissection
import CallScript.Proofs.Capture.Tones
import CallScript.Proofs.Capture.Talkspurts
import CallScript.Proofs.Scenario.Alignment
import CallScript.Proofs.Scenario.Dialling
import CallScript.Proofs.Scenario.Delivery
import CallScript.Proofs.Scenario.Retrying
import CallScript.Proofs.Scenario.Atomicity
import CallScript.Proofs.Scenario.Extent
import CallScript.Proofs.Scenario.Offering
import CallScript.Proofs.Manifest.Faults
import CallScript.Proofs.Manifest.Simulation
import CallScript.Proofs.Script.Determination
import CallScript.Proofs.Scenario.Playback
import CallScript.Proofs.Scenario.Closing
import CallScript.Proofs.Scenario.Refusals
import CallScript.Proofs.Manifest.Grammar
import CallScript.Proofs.Capture.Composition
import CallScript.Proofs.Sip.Structure
import CallScript.Proofs.Scenario.Legality
import CallScript.Proofs.Capture.Headers
import CallScript.Proofs.Capture.Loops
import CallScript.Proofs.Rtp.Numbering
import CallScript.Proofs.Rtp.Payload
import CallScript.Proofs.Manifest.Spellings
import CallScript.Proofs.Endpoint
import CallScript.Proofs.Scenario.Stems
import CallScript.Proofs.CommandLine.Order
import CallScript.Proofs.MuLaw.Companding
