import ModalKeys.Config

/-! Why a program that embeds a session can fail. -/
namespace ModalKeys

inductive Failure where
  | config (e : ConfigError)
  /-- A host message could not be read. -/
  | badMessage (detail : String)
  /-- The session that an event was sent to has ended. -/
  | sessionClosed
  deriving DecidableEq, Repr

def Failure.message : Failure → String
  | config e => "Config error: " ++ e.message
  | badMessage detail => "Message error: " ++ detail
  | sessionClosed => "Session closed"

end ModalKeys
