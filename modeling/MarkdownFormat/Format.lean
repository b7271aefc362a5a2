/-
# Formatting

Formatting reads Markdown into a document and writes the document back in the
configured style.
-/

import MarkdownFormat.Event.Assembly
import MarkdownFormat.Reader.Markdown
import MarkdownFormat.Render.Renderer

namespace MarkdownFormat

/-- The document of a Markdown text. -/
def Document.ofMarkdown (source : Bytes) (strikethrough : Bool) : Document :=
  (Assembly.ofEvents source (Markdown.events source strikethrough)).document

/-- A Markdown text in the configured style. -/
def format (config : Config) (strikethrough : Bool) (source : Bytes) :
    Except RenderFault String :=
  ((Renderer.forMarkdown config strikethrough).renderText source
    (Document.ofMarkdown source strikethrough)).1

end MarkdownFormat
