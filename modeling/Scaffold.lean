import Scaffold.Console.Panel
import Scaffold.Proofs.Declaration.Change
import Scaffold.Proofs.Draft.Bulk
import Scaffold.Proofs.Draft.Introspection
import Scaffold.Proofs.Draft.NameList
import Scaffold.Proofs.Draft.Numbering
import Scaffold.Proofs.Layout.Incidental
import Scaffold.Proofs.Render.Accessors
import Scaffold.Proofs.Render.Container
import Scaffold.Proofs.Render.DefaultValue
import Scaffold.Proofs.Render.Faithful
import Scaffold.Proofs.Render.Nesting
import Scaffold.Proofs.Render.Requirement
import Scaffold.Proofs.Render.Summary
import Scaffold.Proofs.Settings.Environment
