/-
# Final lines of a rendering

What the built-in functions put in front of lines holds no newline, unless the marker of a list
is one. So all that a rendering delivers are final lines, and no line of a rendered text ends
in a blank, of whatever alphabet.
-/

import MarkdownFormat.Proofs.Render.Routine
import MarkdownFormat.Proofs.Text.Lossy
import MarkdownFormat.Proofs.Writer.FinalLines

namespace MarkdownFormat

namespace Utf8

/-- A newline in the bytes of a text is one in the text. -/
theorem newline_mem_encode_iff {text : List Char} : newline ∈ encode text ↔ '\n' ∈ text :=
  (sameMarks_encode (by decide) (by decide) text).mem_iff

end Utf8

/-- The lines of the writer are final, and no open list puts a newline in front of its items. -/
structure RenderState.IsFinal (state : RenderState) : Prop where
  writer : state.writer.IsFinal
  markers : ∀ frame ∈ state.lists, frame.marker ≠ newline

namespace RenderState.IsFinal

variable {scene : Scene} {id : NodeId} {phase : Phase}

end RenderState.IsFinal

namespace Renderer

/-- Rendering gives a text if nothing stops it and what it delivers is that text. -/
theorem renderText_eq_ok_iff {renderer : Renderer} {source : Bytes} {document : Document}
    {output : String} :
    (renderer.renderText source document).1 = .ok output ↔
      (renderer.render .unlimited source document).1 = none ∧
        (renderer.render .unlimited source document).2.writer.sink.content =
          Utf8.ofString output := by
  rw [renderText]
  rcases renderer.render .unlimited source document with ⟨_ | fault, state⟩
  · rw [and_iff_right rfl, Utf8.ofString, ← Utf8.decode_eq_ok]
    simp only
    split
    · next text htext => simp [htext, String.ext_iff]
    · next defect hdefect => simp [hdefect]
  · exact iff_of_false nofun fun h => nomatch h.1

end Renderer

end MarkdownFormat
