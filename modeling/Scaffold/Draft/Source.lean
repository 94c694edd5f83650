import Scaffold.Draft.Build
import Scaffold.Render
import Scaffold.Settings.Environment

/-!
# Source of drafts

The source of a draft is the source of what it is built into, under the settings that the
environment gives. A failing build is reported before unusable settings.
-/

namespace Scaffold

/-- The source of a declaration under the settings that the environment gives. -/
def Environment.source (env : Environment) (formatted : Bool) (declaration : Declaration) :
    Except Failure String := do
  let settings ← env.settings
  let text :=
    if formatted then Render.formatted settings declaration
    else Render.source settings.render declaration
  text.mapError .error

/-- The source of a draft, and the workspace that building it leaves behind. -/
def Workspace.source (workspace : Workspace) (env : Environment) (formatted : Bool)
    {kind : DraftKind} (ref : Ref kind) : Except Failure String × Workspace :=
  match workspace.build ref with
  | (.ok value, after) => (env.source formatted (kind.declare value), after)
  | (.error error, after) => (.error (.error error), after)

end Scaffold
