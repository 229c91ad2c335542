import LuaIndex.Library.Yaml.Document
import LuaIndex.Library.Table.Drawn

namespace LuaIndex

/-- A host on a plain disk, with libraries that do what has been seen of them. Settings that are nested to
more than so many `levels` are too much for it, and its log is a line for each notice. -/
def Host.standard (levels : Nat) : Host where
  toDisk := .plain
  data := Yaml.read levels
  table rows := (ModuleTable.render rows).mapError Markup.Error.failure
  log _ _ notices := Notice.lines notices

end LuaIndex
