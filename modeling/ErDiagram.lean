import ErDiagram.Main
import ErDiagram.Reading.Session
import ErDiagram.Proofs.Collection
import ErDiagram.Proofs.Reading.Result
import ErDiagram.Proofs.Reading.CleanRun
import ErDiagram.Proofs.Diagram.OptionMap
import ErDiagram.Proofs.Reading.Block
import ErDiagram.Proofs.Reading.Document
import ErDiagram.Proofs.Diagram.Id
import ErDiagram.Proofs.Diagram.Inference
import ErDiagram.Proofs.Reading.OptionList
import ErDiagram.Proofs.Reading.Run
import ErDiagram.Proofs.Reading.WellFormed
import ErDiagram.Proofs.Reading.Dependency
import ErDiagram.Proofs.Text.Blank
import ErDiagram.Proofs.Notation.Quoting
import ErDiagram.Proofs.Notation.Field
import ErDiagram.Proofs.Number.Numeral
import ErDiagram.Proofs.Writing.Option
import ErDiagram.Proofs.Writing.OptionList
import ErDiagram.Proofs.Writing.Part
import ErDiagram.Proofs.Writing.Line
import ErDiagram.Proofs.Writing.Attribute
import ErDiagram.Proofs.Writing.Document
import ErDiagram.Proofs.Writing.RoundTrip
import ErDiagram.Proofs.Notation.Row
import ErDiagram.Proofs.Notation.Group
import ErDiagram.Proofs.Notation.Line
import ErDiagram.Proofs.Reading.Bracketed
import ErDiagram.Proofs.Reading.Fault
import ErDiagram.Proofs.Reading.ReportedRun
import ErDiagram.Proofs.Reading.Agreement
import ErDiagram.Proofs.Reading.Closing
import ErDiagram.Proofs.Message.English
import ErDiagram.Proofs.Reading.Blocks
import ErDiagram.Proofs.Reading.Staged
import ErDiagram.Proofs.Reading.Spelling
import ErDiagram.Proofs.Reading.Total
import ErDiagram.Proofs.Dot.Scan
import ErDiagram.Proofs.Dot.Escape
import ErDiagram.Proofs.Dot.Label
import ErDiagram.Proofs.Dot.Lines
import ErDiagram.Proofs.Dot.Statement
import ErDiagram.Proofs.Reading.Alike
import ErDiagram.Proofs.Reading.Layout
import ErDiagram.Proofs.Diagram.Order
import ErDiagram.Proofs.Reading.Unit
import ErDiagram.Proofs.Reading.Order
import ErDiagram.Proofs.Message.Setting
import ErDiagram.Proofs.Value.Check
import ErDiagram.Proofs.Message.Document
import ErDiagram.Proofs.Reading.Judge
import ErDiagram.Proofs.Message.Alternative
import ErDiagram.Proofs.Diagram.Stable
import ErDiagram.Proofs.Notation.Decomposition
import ErDiagram.Proofs.Dot.Drawing
import ErDiagram.Proofs.Reading.Grammar
import ErDiagram.Proofs.Diagram.Frame
import ErDiagram.Proofs.Reading.Partition
import ErDiagram.Proofs.Notation.Capitals
import ErDiagram.Proofs.Notation.Pieces
import ErDiagram.Proofs.Reading.ListedOption
import ErDiagram.Proofs.Reading.OptionMarks
import ErDiagram.Proofs.Reading.OptionOrder
import ErDiagram.Proofs.Diagram.Overlay
import ErDiagram.Proofs.Dot.Record
import ErDiagram.Proofs.Reading.GlobalOption
import ErDiagram.Proofs.Reading.Issue
import ErDiagram.Proofs.Reading.Fresh
import ErDiagram.Proofs.Reading.Session
import ErDiagram.Proofs.Notation.Search
import ErDiagram.Proofs.Dot.Encoding
