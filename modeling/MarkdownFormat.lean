import MarkdownFormat.Document.Outline
import MarkdownFormat.Main
import MarkdownFormat.Proofs.CommandLine.Outcome
import MarkdownFormat.Proofs.Config.Settings
import MarkdownFormat.Proofs.Document.Tour
import MarkdownFormat.Proofs.Event.CheckedAssembly
import MarkdownFormat.Proofs.Event.HeadingLines
import MarkdownFormat.Proofs.Event.LineBreaks
import MarkdownFormat.Proofs.Render.Balance
import MarkdownFormat.Proofs.Render.BulletRule
import MarkdownFormat.Proofs.Render.Chaining
import MarkdownFormat.Proofs.Render.CodeFence
import MarkdownFormat.Proofs.Render.CodeSpanContent
import MarkdownFormat.Proofs.Render.Concatenation
import MarkdownFormat.Proofs.Render.DelimitedTarget
import MarkdownFormat.Proofs.Render.EmphasisMarks
import MarkdownFormat.Proofs.Render.FinalLines
import MarkdownFormat.Proofs.Render.IndentedCode
import MarkdownFormat.Proofs.Render.ItemLines
import MarkdownFormat.Proofs.Render.ItemPrefix
import MarkdownFormat.Proofs.Render.LastLine
import MarkdownFormat.Proofs.Render.MarkedRules
import MarkdownFormat.Proofs.Render.Separation
import MarkdownFormat.Proofs.Render.SetextHeading
import MarkdownFormat.Proofs.Render.SplitText
import MarkdownFormat.Proofs.Render.TextOutput
import MarkdownFormat.Proofs.Render.Unwrap
import MarkdownFormat.Proofs.Writer.Failure
import MarkdownFormat.Proofs.Writer.Stream
