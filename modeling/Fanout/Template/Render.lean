/-
  Fanout.Template.Render
  ──────────────────────
  **From a template to a body.**

  The placeholders are filled first; the spans of the result are resolved
  afterwards, so that an expression can be made of placeholders.
-/
import Fanout.Template.Placeholder
import Fanout.Template.Span

namespace Fanout.Template

/-- The body that a template gives; its first line is the line `firstLine` of its file. -/
def render (template : String) (firstLine : Nat) (b : Bindings) : Except RenderError String :=
  (substitute template firstLine b).map fun text => resolveSpans text b

end Fanout.Template
