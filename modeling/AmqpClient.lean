import AmqpClient.Buffer.Execution
import AmqpClient.Config.Loading
import AmqpClient.Sasl.Handshake
import AmqpClient.Sasl.Scripted
import AmqpClient.Buffer.Machine
import AmqpClient.Buffer.InPlace
import AmqpClient.Proofs.ViewAccess
import AmqpClient.Proofs.WorkspaceInvariant
import AmqpClient.Proofs.WorkspaceRun
import AmqpClient.Proofs.MachineExecution
import AmqpClient.Proofs.MemorySplice
import AmqpClient.Proofs.RoundTrip
import AmqpClient.Proofs.InPlaceExecution
import AmqpClient.Proofs.FailureAtomicity
import AmqpClient.Proofs.BulkTransfer
import AmqpClient.Proofs.SelectionRule
import AmqpClient.Proofs.MechanismConduct
import AmqpClient.Proofs.HandshakeProtocol
import AmqpClient.Proofs.MechanismNames
import AmqpClient.Proofs.Utf8RoundTrip
import AmqpClient.Proofs.PlainResponse
import AmqpClient.Proofs.StepFrame
import AmqpClient.Proofs.Correspondence
import AmqpClient.Proofs.CorrespondingRuns
import AmqpClient.Proofs.PlacementIndependence
import AmqpClient.Proofs.Confinement
import AmqpClient.Proofs.PasswordSecrecy
import AmqpClient.Proofs.ReadStream
import AmqpClient.Proofs.BoundsFaults
import AmqpClient.Proofs.SharedWindows
import AmqpClient.Proofs.Forwarding
import AmqpClient.Proofs.ReaderEquality
import AmqpClient.Proofs.StepLocality
import AmqpClient.Proofs.Commutation
import AmqpClient.Proofs.MarkHistory
import AmqpClient.Proofs.Utf8Decoding
import AmqpClient.Proofs.TextReading
import AmqpClient.Proofs.UsualMechanisms
import AmqpClient.Proofs.NoDowngrade
import AmqpClient.Proofs.NameOrder
import AmqpClient.Proofs.Restrictions
import AmqpClient.Proofs.ChosenMechanism
import AmqpClient.Proofs.RegistrationHistory
import AmqpClient.Proofs.Utf8Failures
import AmqpClient.Proofs.AsciiDecoding
import AmqpClient.Proofs.QuotedText
import AmqpClient.Proofs.ValidSettings
