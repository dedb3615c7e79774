import ReplicaKV.Script
import ReplicaKV.Settings.Load
import ReplicaKV.Simulation
import ReplicaKV.Proofs.Frame.Format
import ReplicaKV.Proofs.Frame.Pieces
import ReplicaKV.Proofs.Frame.Cut
import ReplicaKV.Proofs.Frame.Spelling
import ReplicaKV.Proofs.Frame.Grammar
import ReplicaKV.Proofs.Checksum
import ReplicaKV.Proofs.Frame.Corruption
import ReplicaKV.Proofs.Request.RoundTrip
import ReplicaKV.Proofs.Request.SelfDelimiting
import ReplicaKV.Proofs.Request.Canonical
import ReplicaKV.Proofs.Reply.RoundTrip
import ReplicaKV.Proofs.Reply.SelfDelimiting
import ReplicaKV.Proofs.Prologue
import ReplicaKV.Proofs.HostileInput
import ReplicaKV.Proofs.Settings
import ReplicaKV.Proofs.Seconds
import ReplicaKV.Proofs.Configurations
import ReplicaKV.Proofs.Network.Record
import ReplicaKV.Proofs.Network.Trace
import ReplicaKV.Proofs.Network.Survey
import ReplicaKV.Proofs.Network.Failures
import ReplicaKV.Proofs.Configured
import ReplicaKV.Proofs.Arguments
import ReplicaKV.Proofs.MasterCache
import ReplicaKV.Proofs.DirtyReads
import ReplicaKV.Proofs.Cluster.Standing
import ReplicaKV.Proofs.Cluster.Steady
import ReplicaKV.Proofs.Updates
import ReplicaKV.Proofs.Cluster.Answers
import ReplicaKV.Proofs.Cluster.Exchange
import ReplicaKV.Proofs.Cluster.Discovery
import ReplicaKV.Proofs.Cluster.Probes
import ReplicaKV.Proofs.Cluster.Writes
import ReplicaKV.Proofs.Simulation
import ReplicaKV.Proofs.AtMostOnce
import ReplicaKV.Proofs.Cluster.Gate
import ReplicaKV.Proofs.Handshake
import ReplicaKV.Proofs.Pipelining
import ReplicaKV.Proofs.Replicas
import ReplicaKV.Proofs.Cluster.Actions
import ReplicaKV.Proofs.Statistics
import ReplicaKV.Proofs.Sequences
import ReplicaKV.Proofs.Connections
import ReplicaKV.Proofs.Failover
import ReplicaKV.Proofs.Attempts
import ReplicaKV.Proofs.Retrying
import ReplicaKV.Proofs.Returning
import ReplicaKV.Proofs.MasterLoss
import ReplicaKV.Proofs.InStep
import ReplicaKV.Proofs.SharedMap.Spec
import ReplicaKV.Proofs.Ranges
import ReplicaKV.Proofs.Paging
import ReplicaKV.Proofs.SharedMap.Master
import ReplicaKV.Proofs.SharedMap.Serving
import ReplicaKV.Proofs.SharedMap.Refinement
