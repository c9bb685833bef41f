import Sealing.Json.Reader
import Sealing.LittleEndian.Lemmas
import Sealing.Main
import Sealing.Proofs.CommandLine.Inputs
import Sealing.Proofs.Storage
import Sealing.Proofs.SealedFile
import Sealing.Proofs.CommandLine.FreshOutput
import Sealing.Proofs.Kdf.Derive
import Sealing.Proofs.Envelope.Header
import Sealing.Proofs.SealedFile.Derivations
import Sealing.Proofs.SealedFile.Refusals
import Sealing.Proofs.SealedFile.InvalidInput
import Sealing.Proofs.Program.Calls
import Sealing.Proofs.CommandLine.Steps
import Sealing.Proofs.Storage.Saved
import Sealing.Proofs.CommandLine.RoundTrip
import Sealing.Program.Concurrent
import Sealing.Program.Faults
import Sealing.Proofs.Program.Concurrent
import Sealing.Proofs.Program.Faults
import Sealing.Proofs.FileSystem.Overlay
import Sealing.Proofs.FileSystem.Directory
import Sealing.Proofs.FileSystem.Extends
import Sealing.Proofs.Storage.Protocol
import Sealing.Proofs.Storage.Atomic
import Sealing.Proofs.Storage.Ends
import Sealing.Proofs.Storage.Changes
import Sealing.Proofs.CommandLine.Authentic
import Sealing.Proofs.Message.Detached
import Sealing.Proofs.SealedFile.DerivedKey
import Sealing.Proofs.SealedFile.Observations
import Sealing.Proofs.Storage.Taken
import Sealing.Proofs.CommandLine.Writers
import Sealing.Proofs.Kdf.Parameters
import Sealing.Proofs.Kdf.Salt
import Sealing.Proofs.CommandLine.Password
import Sealing.Proofs.Envelope.Bounds
import Sealing.Proofs.FileSystem.Join
import Sealing.Proofs.Json.Choice
import Sealing.Proofs.Kdf.Names
import Sealing.Proofs.Storage.Temporary
import Sealing.Proofs.CommandLine.Inspect
