import Scaffold.Declaration
import Scaffold.Layout
import Scaffold.Render.Container

/-!
# Rendering

`source` gives the source of a declaration as it is put together, and `formatted` the same source
after a layout pass, which runs once over the whole.
-/

namespace Scaffold.Render

/-- The source of a declaration, loosely laid out. -/
def source (settings : RenderSettings) : Declaration → Except Error String
  | .field value => field value
  | .property value => property value
  | .constructor value => constructor value
  | .enumMember value => enumMember value
  | .enumeration value => enumeration settings value
  | .class value => «class» value
  | .struct value => struct value
  | .interface value => interface value
  | .namespace value => «namespace» settings value
  | .accessor value => .error (.notRenderable (Declaration.accessor value).label)
  | .parameter value => .error (.notRenderable (Declaration.parameter value).label)

/-- The source of a declaration after the given pass over the whole. -/
def sourceWith (settings : RenderSettings) (pass : String → String) (declaration : Declaration) :
    Except Error String :=
  (source settings declaration).map pass

def formatted (settings : Settings) (declaration : Declaration) : Except Error String :=
  sourceWith settings.render (Layout.format settings.layout) declaration

end Scaffold.Render
