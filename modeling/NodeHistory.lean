import NodeHistory.Main
import NodeHistory.Timeline.Store
import NodeHistory.Proofs.Node.StoredOrder
import NodeHistory.Proofs.Node.DeliveryOrder
import NodeHistory.Proofs.Node.Queues
import NodeHistory.Proofs.Node.Session
import NodeHistory.Proofs.Node.Foremost
import NodeHistory.Proofs.Node.Chronology
import NodeHistory.Proofs.Node.Rotation
import NodeHistory.Proofs.Node.Redelivery
import NodeHistory.Proofs.Timeline.RepeatRuns
import NodeHistory.Proofs.Timeline.FoldedSpan
import NodeHistory.Proofs.Node.Sightings
import NodeHistory.Proofs.Node.Gathering
import NodeHistory.Proofs.Node.Grouping
import NodeHistory.Proofs.Timeline.FoldedCounts
import NodeHistory.Proofs.Timeline.Joining
import NodeHistory.Proofs.Timeline.Seam
import NodeHistory.Proofs.Timeline.Contents
import NodeHistory.Proofs.Timeline.Sharing
import NodeHistory.Proofs.Timeline.Recall
import NodeHistory.Proofs.Timeline.Exchange
import NodeHistory.Proofs.Node.Turns
import NodeHistory.Proofs.Node.RoundRobin
import NodeHistory.Proofs.Node.Inheritance
import NodeHistory.Proofs.Timeline.Attempts
import NodeHistory.Proofs.Date.Escaping
import NodeHistory.Proofs.Segment.OddLines
import NodeHistory.Proofs.Segment.Noise
import NodeHistory.Proofs.Timeline.Cuts
import NodeHistory.Proofs.Node.Lineage
import NodeHistory.Proofs.Node.Hindsight
import NodeHistory.Proofs.Date.Moments
