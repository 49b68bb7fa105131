import Seph.Display.Framebuffer
import Seph.Display.ScreenText

/-!
# Canvas

The framebuffer together with the text read from it: all that a drawing changes.
-/

namespace Seph

/-- What drawing changes: the framebuffer and the text read from it. -/
structure Canvas where
  frame : Framebuffer
  text : ScreenText

namespace Canvas

def blank (m : Model) : Canvas := ⟨Framebuffer.blank m.panel, ScreenText.empty m.maxGap⟩

def mapFrame (f : Framebuffer → Framebuffer) (c : Canvas) : Canvas :=
  let { frame, text } := c
  { frame := f frame, text }

def mapText (f : ScreenText → ScreenText) (c : Canvas) : Canvas := { c with text := f c.text }

end Canvas

end Seph
