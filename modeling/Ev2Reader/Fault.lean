import Ev2Reader.Apdu.Status
import Ev2Reader.File.Defect

/-!
# Faults

Everything that can go wrong between the reader and the tag, apart from the transport
between them, with its text. A fault is **session-fatal** if after it the reader and the
tag may disagree about keys or counter, so that their channel has to be given up.
-/

namespace Ev2Reader

/-- How an answer of the tag can break the sequence of messages. -/
inductive Violation where
  /-- The status word is not the one that is required here. -/
  | unexpectedStatus (status : StatusWord)
  /-- The data has a length that cannot occur here. -/
  | responseLength (received : Nat)
  /-- Decrypted data does not end in padding. -/
  | padding
deriving DecidableEq

/-- The text of a violation. -/
def Violation.text : Violation → String
  | unexpectedStatus status => "unexpected status " ++ status.text
  | responseLength received =>
    "response of " ++ toString received ++ " bytes has an invalid length"
  | padding => "malformed padding in decrypted response"

/-- What can go wrong. -/
inductive Fault where
  /-- The tag broke the sequence of messages. -/
  | protocolViolation (violation : Violation)
  /-- The tag does not hold the authentication key. -/
  | authenticationFailure
  /-- The authentication code of an answer is wrong. -/
  | integrityFailure
  /-- The command counter has no next value. -/
  | counterExhausted
  /-- The channel was given up before. -/
  | channelClosed
  /-- The data of a command does not fit its message. -/
  | payloadTooLarge (largest : Nat)
  /-- A byte string or a range has the wrong length. -/
  | invalidLength (expected received : Nat)
  /-- The application has no key of this number. -/
  | invalidKeyNumber (number : KeyNumber)
  /-- File settings cannot be written. -/
  | invalidFileSettings (defect : Defect)
deriving DecidableEq

namespace Fault

/-- The text of a fault, a sentence. -/
def text : Fault → String
  | protocolViolation violation => "Protocol violation: " ++ violation.text ++ "."
  | authenticationFailure =>
    "Tag returned the wrong RndA', it does not hold the authentication key."
  | integrityFailure => "Response MAC mismatch."
  | counterExhausted => "Command counter exhausted, a new authentication is required."
  | channelClosed => "Secure channel is closed."
  | payloadTooLarge largest => "Command data exceeds " ++ toString largest ++ " bytes."
  | invalidLength expected received =>
    "Expected " ++ toString expected ++ " bytes, received " ++ toString received ++ " bytes."
  | invalidKeyNumber number => "Key number " ++ toString number.toNat ++ " does not exist."
  | invalidFileSettings defect => "Invalid file settings: " ++ defect.text ++ "."

/-- The violation behind a fault, if there is one. -/
def cause? : Fault → Option Violation
  | protocolViolation violation => some violation
  | _ => none

/-- Whether the channel has to be given up. -/
def isSessionFatal : Fault → Bool
  | protocolViolation _ | authenticationFailure | integrityFailure | counterExhausted
  | channelClosed => true
  | payloadTooLarge _ | invalidLength _ _ | invalidKeyNumber _ | invalidFileSettings _ => false

end Fault

end Ev2Reader
