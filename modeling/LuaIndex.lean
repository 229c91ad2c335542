import LuaIndex.Main
import LuaIndex.ToolServer
import LuaIndex.Watcher
import LuaIndex.Proofs.Text.Places
import LuaIndex.Proofs.Edit.Acceptance
import LuaIndex.Proofs.Edit.Splicing
import LuaIndex.Proofs.Edit.Offsets
import LuaIndex.Proofs.Source.Patterns
import LuaIndex.Proofs.Conversion.Document
import LuaIndex.Proofs.Conversion.LineByLine
import LuaIndex.Proofs.Conversion.Declarations
import LuaIndex.Proofs.Conversion.Replaced
import LuaIndex.Proofs.Discovery.Found
import LuaIndex.Proofs.Registry.Coverage
import LuaIndex.Proofs.Registry.Readings
import LuaIndex.Proofs.Registry.Tables
import LuaIndex.Proofs.Cursor.Definition
import LuaIndex.Proofs.Source.LineBreaks
import LuaIndex.Proofs.Conversion.Exported
import LuaIndex.Proofs.Conversion.DefinedNames
import LuaIndex.Proofs.Conversion.Naming
import LuaIndex.Proofs.Discovery.Listed
import LuaIndex.Proofs.Watcher.Tracked
import LuaIndex.Proofs.Json.Reading
import LuaIndex.Proofs.Module.Places
import LuaIndex.Proofs.Command.Names
import LuaIndex.Proofs.ToolServer.Names
import LuaIndex.Proofs.Registry.Failures
import LuaIndex.Proofs.Watcher.Events
import LuaIndex.Proofs.Conversion.InPlace
import LuaIndex.Proofs.FileTree.Limits
import LuaIndex.Proofs.Command.Endings
import LuaIndex.Proofs.Edit.Outcome
import LuaIndex.Proofs.Edit.Building
import LuaIndex.Proofs.Conversion.Placement
import LuaIndex.Proofs.Edit.AcceptanceOrder
import LuaIndex.Proofs.Table.Filled
import LuaIndex.Proofs.Module.Comments
import LuaIndex.Proofs.Module.Definitions
import LuaIndex.Proofs.Conversion.Qualified
import LuaIndex.Proofs.Source.LongestCalls
import LuaIndex.Proofs.Source.Grammars
import LuaIndex.Proofs.Source.Tags
import LuaIndex.Proofs.Module.Entries
import LuaIndex.Proofs.Text.Order
import LuaIndex.Proofs.FileTree.WellFormed
import LuaIndex.Proofs.Discovery.Search
import LuaIndex.Proofs.Discovery.FirstMet
import LuaIndex.Proofs.Registry.BulkLoad
import LuaIndex.Proofs.Command.Lookup
import LuaIndex.Proofs.Cursor.Reference
import LuaIndex.Proofs.Cursor.Completion
import LuaIndex.Proofs.Conversion.Indexed
import LuaIndex.Proofs.Edit.Points
