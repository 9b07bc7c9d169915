import Ev2Reader.Aes.Cipher
import Ev2Reader.Aes.Diffusion
import Ev2Reader.Aes.Substitution
import Ev2Reader.Apdu.Command
import Ev2Reader.Apdu.Response
import Ev2Reader.Apdu.Status
import Ev2Reader.AuthenticationCode
import Ev2Reader.Block
import Ev2Reader.BlockCipher
import Ev2Reader.Bytes
import Ev2Reader.Channel.Basic
import Ev2Reader.Channel.Frame
import Ev2Reader.Check
import Ev2Reader.Checksum
import Ev2Reader.Cryptogram
import Ev2Reader.Fault
import Ev2Reader.File.Access
import Ev2Reader.File.Defect
import Ev2Reader.File.DynamicMessaging
import Ev2Reader.File.Settings
import Ev2Reader.Handshake
import Ev2Reader.Key
import Ev2Reader.KeyNumber
import Ev2Reader.Mode.Chaining
import Ev2Reader.Mode.Cmac
import Ev2Reader.Mode.Padding
import Ev2Reader.Notice
import Ev2Reader.Procedure
import Ev2Reader.Proofs.Channel.Answer
import Ev2Reader.Proofs.Channel.Wrapping
import Ev2Reader.SecureCommand
import Ev2Reader.Session.Basic
import Ev2Reader.Session.Exchange
import Ev2Reader.Session.Operations
import Ev2Reader.Session.Transport
import Ev2Reader.SessionKeys
import Ev2Reader.Text.Hexadecimal
import Ev2Reader.Word
import Ev2Reader.Proofs.Session.Execution
import Ev2Reader.Proofs.Session.Operation
import Ev2Reader.Proofs.Channel.Peer
import Ev2Reader.Proofs.Session.Lifetime
import Ev2Reader.Proofs.Session.RoundTrip
import Ev2Reader.Proofs.Tag.Basic
import Ev2Reader.Proofs.Tag.Handshake
import Ev2Reader.Proofs.Tag.Lockstep
import Ev2Reader.Proofs.Channel.Fit
import Ev2Reader.Proofs.Handshake.Buffer
import Ev2Reader.Proofs.Handshake.Acceptance
import Ev2Reader.Proofs.Handshake.Agreement
import Ev2Reader.Proofs.Session.Failure
import Ev2Reader.Proofs.Session.Writing
import Ev2Reader.Proofs.Session.Discipline
import Ev2Reader.Proofs.Session.CallerFault
import Ev2Reader.Proofs.Cryptogram.Format
import Ev2Reader.Proofs.File.Reading
import Ev2Reader.Proofs.Session.Frames
import Ev2Reader.Proofs.Session.Chaining
import Ev2Reader.Proofs.Session.Unauthenticated
import Ev2Reader.Proofs.Channel.Action
import Ev2Reader.Proofs.Channel.Message
import Ev2Reader.Proofs.Tag.File
import Ev2Reader.Proofs.Tag.ReadBack
import Ev2Reader.Proofs.Session.Visible
import Ev2Reader.Proofs.Session.Secrecy
import Ev2Reader.Proofs.Channel.Classification
import Ev2Reader.Proofs.Session.Pieces
import Ev2Reader.Proofs.File.Admission
import Ev2Reader.Proofs.SessionKeys.Separation
import Ev2Reader.Proofs.Channel.Provisioning
import Ev2Reader.Proofs.Session.KeyChange
import Ev2Reader.Proofs.Mode.Cmac
import Ev2Reader.Proofs.AuthenticationCode.Binding
import Ev2Reader.Proofs.SessionKeys.Nonces
import Ev2Reader.Proofs.Apdu.Reading
