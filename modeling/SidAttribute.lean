import SidAttribute.Log.Template
import SidAttribute.Main
import SidAttribute.Wire.Cursor
import SidAttribute.Tree.Step
import SidAttribute.Proofs.Payload
import SidAttribute.Proofs.Wire.Admissible
import SidAttribute.Proofs.Level
import SidAttribute.Proofs.Description
import SidAttribute.Proofs.RoundTrip
import SidAttribute.Proofs.Strict
import SidAttribute.Proofs.Containment
import SidAttribute.Proofs.Visits
import SidAttribute.Proofs.Keyed
import SidAttribute.Proofs.Truncation
import SidAttribute.Proofs.WellFormed
import SidAttribute.Proofs.Diagnostics
import SidAttribute.Proofs.Damage
import SidAttribute.Proofs.Bound
import SidAttribute.Proofs.Tree.Measure
import SidAttribute.Proofs.Kind
import SidAttribute.Proofs.Nesting
import SidAttribute.Proofs.Turns
import SidAttribute.Proofs.Conformance
import SidAttribute.Proofs.Entry
import SidAttribute.Proofs.Transparency
import SidAttribute.Proofs.Registration
import SidAttribute.Proofs.Config.IniText
import SidAttribute.Proofs.Config.Loading
import SidAttribute.Proofs.Rendering
import SidAttribute.Proofs.Logged
import SidAttribute.Proofs.Noted
import SidAttribute.Proofs.Neutral
import SidAttribute.Proofs.Config.Loaded
import SidAttribute.Proofs.Config.ReadBack
import SidAttribute.Proofs.Config.Snapshot
import SidAttribute.Proofs.Config.Assignments
import SidAttribute.Proofs.Log.Setup
import SidAttribute.Proofs.Log.Written
import SidAttribute.Proofs.Command.Payloads
import SidAttribute.Proofs.LastStructure
import SidAttribute.Proofs.Sid.AddressText
import SidAttribute.Proofs.Config.InstallRoot
import SidAttribute.Proofs.Log.Destination
import SidAttribute.Proofs.Idle
import SidAttribute.Proofs.Log.Latest
import SidAttribute.Proofs.Text.Hexadecimal
import SidAttribute.Proofs.Wire.Positions
import SidAttribute.Proofs.Wire.Positional
import SidAttribute.Proofs.LabelRanges
import SidAttribute.Proofs.Tree.History
