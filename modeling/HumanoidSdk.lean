import HumanoidSdk.Foundation.Run
import HumanoidSdk.Mock.Protocol
import HumanoidSdk.Foundation.Ledger
import HumanoidSdk.Mock.ProtocolStep
import HumanoidSdk.Mock.ProtocolInvariant
import HumanoidSdk.Foundation.Mailbox
import HumanoidSdk.Mock.CommandAccount
import HumanoidSdk.Mock.Retransmission
import HumanoidSdk.Controller.Validate
import HumanoidSdk.Foundation.Pool
import HumanoidSdk.Message.Control
import HumanoidSdk.Controller.State
import HumanoidSdk.Controller.Program
import HumanoidSdk.Controller.ProgramStep
import HumanoidSdk.Controller.Handshake
import HumanoidSdk.Controller.Retry
import HumanoidSdk.Controller.Release
import HumanoidSdk.Controller.ExitEvidence
import HumanoidSdk.Controller.Sequence
import HumanoidSdk.Controller.Abandon
import HumanoidSdk.Controller.LeaseFlow
import HumanoidSdk.Controller.EntrySafety
import HumanoidSdk.System.HandOver
import HumanoidSdk.Controller.Output
import HumanoidSdk.Controller.Ownership
import HumanoidSdk.Message.Wire
import HumanoidSdk.System.Fleet
import HumanoidSdk.System.Isolation
import HumanoidSdk.System.Exchange
import HumanoidSdk.System.Link
import HumanoidSdk.System.Entry
import HumanoidSdk.Joy.History
import HumanoidSdk.Foundation.Monitor
import HumanoidSdk.Pull.Transport
import HumanoidSdk.Pull.Views
import HumanoidSdk.Foundation.Rounding
import HumanoidSdk.Message.Encoder
import HumanoidSdk.Controller.Encoding
import HumanoidSdk.EndEffector.Client
import HumanoidSdk.EndEffector.Hand
import HumanoidSdk.EndEffector.Gripper
import HumanoidSdk.EndEffector.Transition
import HumanoidSdk.EndEffector.Account
import HumanoidSdk.Foundation.Precondition
import HumanoidSdk.EndEffector.Publication
import HumanoidSdk.EndEffector.Target
import HumanoidSdk.EndEffector.Established
import HumanoidSdk.EndEffector.CommandLaw
import HumanoidSdk.EndEffector.Memory
import HumanoidSdk.EndEffector.Provenance
import HumanoidSdk.EndEffector.Failure
import HumanoidSdk.EndEffector.HandFeedback
import HumanoidSdk.Foundation.Newest
import HumanoidSdk.Controller.CacheOrder
import HumanoidSdk.Mock.Watchdog
import HumanoidSdk.Mock.Context
import HumanoidSdk.Mock.DueCommand
import HumanoidSdk.Foundation.Outcome
import HumanoidSdk.Foundation.Permuted
import HumanoidSdk.Foundation.Bytes
import HumanoidSdk.Codec.MotorState
import HumanoidSdk.Codec.MotorPlan
import HumanoidSdk.Codec.MotorDecoding
import HumanoidSdk.Message.BodyState
import HumanoidSdk.Codec.BodyVector
import HumanoidSdk.Capture.Live
import HumanoidSdk.Capture.Books
import HumanoidSdk.Codec.BodyDecoding
import HumanoidSdk.Foundation.Table
import HumanoidSdk.Feedback.StateDecoder
import HumanoidSdk.Feedback.Materialize
import HumanoidSdk.Policy.Contract
import HumanoidSdk.Value.Arithmetic
import HumanoidSdk.Policy.Motion
import HumanoidSdk.Policy.Roster
import HumanoidSdk.Policy.Feedback
import HumanoidSdk.Policy.Tracking
import HumanoidSdk.Foundation.Window
import HumanoidSdk.Policy.Teleop
import HumanoidSdk.Feedback.Frame
import HumanoidSdk.Policy.Alike
import HumanoidSdk.Policy.ContractLaws
import HumanoidSdk.Policy.Observation
import HumanoidSdk.Policy.Placement
import HumanoidSdk.Policy.Construction
import HumanoidSdk.Policy.Equivariance
import HumanoidSdk.Capture.Conservation
import HumanoidSdk.Foundation.Approach
import HumanoidSdk.Demo.JoyCommand
import HumanoidSdk.Foundation.Clocked
import HumanoidSdk.Demo.Body
import HumanoidSdk.Demo.Stationary
import HumanoidSdk.Foundation.Outstanding
import HumanoidSdk.Demo.HandMotion
import HumanoidSdk.Demo.HandTrajectory
import HumanoidSdk.Demo.HandStep
import HumanoidSdk.Demo.HandSession
import HumanoidSdk.Demo.GripperGuard
import HumanoidSdk.Demo.GripperTimeout
import HumanoidSdk.Demo.HandTimeout
import HumanoidSdk.Demo.EchoTimeout
import HumanoidSdk.Demo.Recorder
import HumanoidSdk.Demo.RecorderBooks
import HumanoidSdk.Demo.LiveControl
import HumanoidSdk.Demo.RunCycles
import HumanoidSdk.Foundation.Tenure
import HumanoidSdk.Demo.LiveLoops
import HumanoidSdk.Foundation.Slew
import HumanoidSdk.Demo.ExternalMotion
import HumanoidSdk.Demo.ExternalRun
import HumanoidSdk.Demo.ExternalStep
import HumanoidSdk.Demo.ExternalTravel
import HumanoidSdk.Foundation.Streak
import HumanoidSdk.Demo.ExternalLaws
import HumanoidSdk.Foundation.Waiting
import HumanoidSdk.Feedback.Source
import HumanoidSdk.EndEffector.Waiters
import HumanoidSdk.Controller.Waiters
import HumanoidSdk.System.Waiters
import HumanoidSdk.Foundation.Document
import HumanoidSdk.Capture.Sanitize
import HumanoidSdk.Foundation.BufferedStream
import HumanoidSdk.Capture.Export
import HumanoidSdk.Capture.ExportRows
import HumanoidSdk.Capture.ExportLaws
import HumanoidSdk.Foundation.Script
import HumanoidSdk.Foundation.Custody
import HumanoidSdk.Demo.Mains
import HumanoidSdk.Demo.StandPose
import HumanoidSdk.Demo.GripperTask
