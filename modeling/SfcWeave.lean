import SfcWeave.Main
import SfcWeave.Command.Schedule
import SfcWeave.Proofs.Weaving.Reread
import SfcWeave.Proofs.Weaving.AllOrNothing
import SfcWeave.Proofs.Weaving.Recording
import SfcWeave.Proofs.Weaving.Calls
import SfcWeave.Proofs.Document.Reprint
import SfcWeave.Proofs.Script.Literal
import SfcWeave.Proofs.Weaving.Once
import SfcWeave.Proofs.Command.Schedule
import SfcWeave.Proofs.Command.Sequence
import SfcWeave.Proofs.Json.Printer
import SfcWeave.Proofs.Node.Message
import SfcWeave.Proofs.Node.Dialogue
import SfcWeave.Proofs.Files.Path
import SfcWeave.Proofs.Files.Tree
import SfcWeave.Proofs.Files.Discovery
import SfcWeave.Proofs.Command.Delivery
import SfcWeave.Proofs.Command.Collision
import SfcWeave.Proofs.Document.Position
import SfcWeave.Proofs.Text.LineIndex
import SfcWeave.Proofs.Command.Location
import SfcWeave.Proofs.Command.Blame
import SfcWeave.Proofs.Command.Repeat
import SfcWeave.Proofs.Document.Markup
import SfcWeave.Proofs.Document.Spelling
import SfcWeave.Proofs.Component.Target
import SfcWeave.Proofs.Script.Lexing
import SfcWeave.Proofs.Script.Reading
import SfcWeave.Proofs.Script.Signature
import SfcWeave.Proofs.Component.Declaration
import SfcWeave.Proofs.Component.Registration
import SfcWeave.Proofs.Weaving.Unwrapping
import SfcWeave.Proofs.Text.CommonIndent
import SfcWeave.Proofs.Command.Reading
import SfcWeave.Proofs.Text.Splice
import SfcWeave.Proofs.Text.LineCount
import SfcWeave.Proofs.Json.Reading
import SfcWeave.Proofs.Node.Framing
import SfcWeave.Proofs.Files.Finding
import SfcWeave.Proofs.Document.TokenStream
import SfcWeave.Proofs.Component.Tag
