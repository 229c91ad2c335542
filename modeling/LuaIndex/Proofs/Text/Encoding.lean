import LuaIndex.Text.Utf8
import Mathlib.Data.List.Basic

namespace LuaIndex.Utf8

end LuaIndex.Utf8
