import InfraSynth.Block.Write
import InfraSynth.Files.Tree
import InfraSynth.Main
import InfraSynth.Proofs.Aws.Kept
import InfraSynth.Proofs.Aws.Policy
import InfraSynth.Proofs.Aws.WebAcl.Capacity
import InfraSynth.Proofs.Aws.WebAcl.Summary
import InfraSynth.Proofs.Aws.Written
import InfraSynth.Proofs.Synthesizer.Run
import InfraSynth.Proofs.Template.Synthesis
import InfraSynth.Proofs.Aws.Cidr
import InfraSynth.Proofs.Aws.SecurityGroup.Exposure
import InfraSynth.Proofs.Aws.SecurityGroup.Protocol
import InfraSynth.Proofs.Synthesizer.InPlace
import InfraSynth.Proofs.Json.KeyOrder
import InfraSynth.Proofs.Synthesizer.Order
import InfraSynth.Proofs.Command.Agreement
import InfraSynth.Proofs.Files.Tree
import InfraSynth.Proofs.Files.Disk
import InfraSynth.Proofs.Command.Writing
import InfraSynth.Proofs.Command.Again
import InfraSynth.Proofs.Json.Reordered
import InfraSynth.Proofs.Decode.Reordered
import InfraSynth.Proofs.Aws.Blind
import InfraSynth.Proofs.Aws.PolicyOrder
import InfraSynth.Proofs.Aws.Reordered
import InfraSynth.Proofs.Aws.Cidr.Addresses
import InfraSynth.Proofs.Aws.Cidr.Notation
import InfraSynth.Proofs.Synthesizer.References
import InfraSynth.Proofs.Command.Failing
import InfraSynth.Proofs.Command.ExitCode
import InfraSynth.Proofs.Aws.MetricAlarm
import InfraSynth.Proofs.Aws.Rewired
import InfraSynth.Proofs.Aws.TargetGroup
import InfraSynth.Proofs.Aws.TargetGroup.HealthCheck
import InfraSynth.Proofs.Aws.Policy.Grants
import InfraSynth.Proofs.Aws.AddressCount
import InfraSynth.Proofs.Aws.Zone
import InfraSynth.Proofs.Aws.Policy.Placement
import InfraSynth.Proofs.Aws.Policy.Trust
import InfraSynth.Proofs.Aws.Digits
import InfraSynth.Proofs.Template.ReadBack
import InfraSynth.Proofs.Aws.Statement.Address
import InfraSynth.Proofs.Block
import InfraSynth.Proofs.Check.Repeated
