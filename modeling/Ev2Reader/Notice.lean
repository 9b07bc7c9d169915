import Ev2Reader.Fault

/-!
# Notices

What the reader notes down about a session while it runs. Notices name instructions, key
numbers, counters, status words and lengths, and no other content of a message.
-/

namespace Ev2Reader

/-- How the data of a secure command is protected. -/
inductive Protection where
  /-- By an authentication code. -/
  | mac
  /-- By encryption and an authentication code. -/
  | full
deriving DecidableEq

/-- The name of a protection. -/
def Protection.name : Protection → String
  | mac => "Mac"
  | full => "Full"

/-- How important a notice is. -/
inductive Notice.Level where
  /-- For following every step. -/
  | trace
  /-- For finding the cause of a problem. -/
  | debug
  /-- Something that should not happen. -/
  | warn
deriving DecidableEq

/-- Something that the reader notes down. -/
inductive Notice where
  /-- The application was selected, or not. -/
  | selectionAnswered (status : StatusWord)
  /-- The tag answered the request for a challenge. -/
  | challengeAnswered (key : KeyNumber) (status : StatusWord)
  /-- The tag answered the reader's proof. -/
  | confirmationAnswered (status : StatusWord)
  /-- The tag does not hold the key. -/
  | proofFailed (key : KeyNumber)
  /-- A session begins. -/
  | authenticated (key : KeyNumber)
  /-- A command was protected. -/
  | commandProtected (ins : UInt8) (protection : Protection) (counter : UInt16)
  /-- How much data a protected command carries. -/
  | commandLength (ins : UInt8) (length : Nat)
  /-- The tag answered a secure command. -/
  | commandAnswered (status : StatusWord)
  /-- The tag answered a command that ends the session. -/
  | sessionEndAnswered (status : StatusWord)
  /-- The command counter has a new value. -/
  | counterAdvanced (counter : UInt16)
  /-- The authentication code of an answer is wrong. -/
  | codeMismatch (counter : UInt16)
  /-- The channel is given up. -/
  | channelClosing (counter : UInt16)
  /-- A command could not be protected. -/
  | commandNotSent (ins : UInt8) (fault : Fault)
  /-- A command could not be exchanged. -/
  | exchangeFailed (ins : UInt8)
  /-- An answer came in several frames. -/
  | framesCollected (frames : Nat)
deriving DecidableEq

namespace Notice

/-- The name of a level. -/
def Level.name : Level → String
  | trace => "TRACE"
  | debug => "DEBUG"
  | warn => "WARN"

/-- How important a notice is. -/
def level : Notice → Level
  | commandLength .. | counterAdvanced .. | framesCollected .. => .trace
  | proofFailed .. | codeMismatch .. => .warn
  | _ => .debug

/-- The text of a notice. -/
def text : Notice → String
  | selectionAnswered status => "Select application answered with " ++ status.text ++ "."
  | challengeAnswered key status =>
    "AuthenticateEV2First key " ++ toString key.toNat ++ " answered with " ++ status.text ++ "."
  | confirmationAnswered status =>
    "AuthenticateEV2First additional frame answered with " ++ status.text ++ "."
  | proofFailed key =>
    "Tag failed to prove key " ++ toString key.toNat ++ " during AuthenticateEV2First."
  | authenticated key => "Authenticated with key " ++ toString key.toNat ++ "."
  | commandProtected ins protection counter =>
    "Secure command " ++ Hexadecimal.upper [ins] ++ " (" ++ protection.name ++
      ") at command counter " ++ toString counter.toNat ++ "."
  | commandLength ins length =>
    "Secure command " ++ Hexadecimal.upper [ins] ++ " carries " ++ toString length ++
      " data bytes."
  | commandAnswered status => "Secure command answered with " ++ status.text ++ "."
  | sessionEndAnswered status => "Session ending command answered with " ++ status.text ++ "."
  | counterAdvanced counter => "Command counter advanced to " ++ toString counter.toNat ++ "."
  | codeMismatch counter =>
    "Response MAC mismatch at command counter " ++ toString counter.toNat ++
      ", closing channel."
  | channelClosing counter =>
    "Closing secure channel at command counter " ++ toString counter.toNat ++ "."
  | commandNotSent ins fault =>
    "Command " ++ Hexadecimal.upper [ins] ++ " not sent, dropping channel: " ++ fault.text
  | exchangeFailed ins =>
    "Exchange failed during command " ++ Hexadecimal.upper [ins] ++ ", dropping channel."
  | framesCollected frames => "Collected " ++ toString frames ++ " response frames."

end Notice

end Ev2Reader
