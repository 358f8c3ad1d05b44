import ModalKeys.Main
import ModalKeys.Session.Inbox
import ModalKeys.Proofs.Grammar.Phrase
import ModalKeys.Proofs.Machine.Destruction
import ModalKeys.Proofs.Machine.Disposition
import ModalKeys.Proofs.Machine.Timing
import ModalKeys.Proofs.Machine.Forgetting
import ModalKeys.Proofs.Machine.Clipboard
import ModalKeys.Proofs.Machine.WayOut
import ModalKeys.Proofs.Machine.Announcement
import ModalKeys.Proofs.Loop.Synchronous
import ModalKeys.Proofs.Loop.Settlement
import ModalKeys.Proofs.Loop.Noise
import ModalKeys.Proofs.Editor.Selection
import ModalKeys.Proofs.Machine.MissingEditor
import ModalKeys.Proofs.Replay.Tokens
import ModalKeys.Proofs.Message
import ModalKeys.Proofs.Machine.Staleness
import ModalKeys.Proofs.Machine.Healing
import ModalKeys.Proofs.Text.Numeral
import ModalKeys.Proofs.Text.Quoted
import ModalKeys.Proofs.Toml.Scalar
import ModalKeys.Proofs.Toml.Line
import ModalKeys.Proofs.Text.Yields
import ModalKeys.Proofs.Toml.Entries
import ModalKeys.Proofs.Toml.Range
import ModalKeys.Proofs.Config
import ModalKeys.Proofs.Message.Members
import ModalKeys.Proofs.Names
import ModalKeys.Proofs.Key.Stroke
import ModalKeys.Proofs.Timer.History
