import LuaIndex.Proofs.Discovery.Listed
import LuaIndex.Proofs.Module.Definitions
import LuaIndex.Proofs.Registry.Readings
import LuaIndex.Proofs.Table.Filled
import LuaIndex.Proofs.Text.Places

namespace LuaIndex

theorem Utf8.length_decodeFrom_le {position skip : Nat} {bytes : List UInt8} {t : Text}
    (h : decodeFrom position skip bytes = .ok t) : t.length ≤ bytes.length := by
  induction bytes generalizing position skip t with
  | nil =>
    obtain rfl := Except.ok.inj h
    exact Nat.le_refl 0
  | cons b bytes ih =>
    cases skip with
    | succ n =>
      have hlength := ih h
      rw [List.length_cons]
      omega
    | zero =>
      simp only [decodeFrom] at h
      split at h
      case h_1 => cases h
      case h_2 count lo hi value hlead =>
        split at h
        case h_1 => cases h
        case h_2 v hfollow =>
          split at h
          case h_1 => cases h
          case h_2 u hu =>
            obtain rfl := Except.ok.inj h
            have hlength := ih hu
            rw [List.length_cons, List.length_cons]
            omega

theorem Text.length_plainNewlines_le (t : Text) : (plainNewlines t).length ≤ t.length := by
  fun_induction plainNewlines t with
  | case1 => exact Nat.le_refl 0
  | case2 rest ih =>
    simp only [List.length_cons]
    omega
  | case3 c rest hfeed ih =>
    simp only [List.length_cons]
    omega

theorem Text.length_le_length_lead (ls : List Text) : ls.length ≤ (lead ls).length := by
  induction ls with
  | nil => exact Nat.le_refl 0
  | cons l ls ih =>
    simp only [lead, List.flatMap_cons, List.length_append, List.length_cons] at ih ⊢
    omega

/-- A line and the lines before it are part of the text. -/
theorem Text.add_length_le_of_lines {t l : Text} {i : Nat} (h : (lines t)[i]? = some l) :
    i + l.length ≤ t.length := by
  obtain ⟨pre, post, hsplit, rfl⟩ := exists_append_of_getElem? h
  obtain ⟨rest, ht⟩ := exists_eq_lead_append hsplit
  have hbefore := length_le_length_lead pre
  rw [ht, List.length_append, List.length_append]
  omega

/-- The number of bytes in a node. -/
def Node.size : Node → Nat
  | .directory => 0
  | .file bytes => bytes.length

namespace FileTree

/-- Every file of the tree has fewer bytes than the limit. -/
def FilesBelow (t : FileTree) (limit : Nat) : Prop :=
  ∀ e ∈ t.nodes, e.2.size < limit

variable {t : FileTree} {limit : Nat}

/-- A walk from a directory ends at a directory or at a node of the tree. -/
theorem size_lt_of_walk (ht : t.FilesBelow limit) {place place' names : List Text}
    {node node' : Node} (hnode : node.size < limit)
    (h : t.walk place node names = .ok (place', node')) : node'.size < limit := by
  have hroot : Node.directory.size < limit := Nat.zero_lt_of_lt hnode
  induction names generalizing place node with
  | nil =>
    obtain ⟨-, rfl⟩ := Prod.mk.inj (Except.ok.inj h)
    exact hnode
  | cons n names ih =>
    cases node with
    | file bytes => cases h
    | directory =>
      simp only [walk] at h
      split at h
      case isTrue => exact ih hroot h
      case isFalse =>
        split at h
        case isTrue => cases h
        case isFalse =>
          split at h
          case h_1 => cases h
          case h_2 m hm => exact ih (ht _ (mem_nodes_of_node? (by simp) hm)) h

theorem length_readText_lt (ht : t.FilesBelow limit) (hlimit : 0 < limit) {p : Path} {source : Text}
    (h : t.readText p = .ok source) : source.length < limit := by
  unfold readText readRaw readBytes at h
  cases hl : t.locate p with
  | error e => simp [hl] at h
  | ok found =>
    obtain ⟨place, node⟩ := found
    cases node with
    | directory => simp [hl] at h
    | file bytes =>
      cases hd : Utf8.decode bytes with
      | error e => simp [hl, hd] at h
      | ok text =>
        have hsource : Text.plainNewlines text = source := by simpa [hl, hd] using h
        have hroot : Node.directory.size < limit := hlimit
        have hbytes : bytes.length < limit := size_lt_of_walk ht hroot (walk_of_locate hl)
        have htext := Utf8.length_decodeFrom_le hd
        have hplain := Text.length_plainNewlines_le text
        rw [hsource] at hplain
        omega

end FileTree

/-- The ends of the range count lines and characters from zero on and stay below the limit. -/
def Range.Below (r : Range) (limit : Nat) : Prop :=
  ∀ p ∈ [r.start, r.stop],
    (0 ≤ p.line ∧ p.line < limit) ∧ (0 ≤ p.character ∧ p.character < limit)

theorem Range.Covers.below {r : Range} {source w : Text} {limit : Nat} (h : r.Covers source w)
    (hsource : source.length < limit) : r.Below limit := by
  obtain ⟨line, before, after, hline, rfl⟩ := h
  have hlength := Text.add_length_le_of_lines hline
  simp only [List.length_append] at hlength
  simp only [Range.Below, Range.onLine, List.forall_mem_cons, List.not_mem_nil]
  refine ⟨⟨?_, ?_⟩, ⟨?_, ?_⟩, by simp⟩ <;> omega

namespace ModuleInfo

theorem nodup_params_of_mem_functionsFrom {limit k : Nat} {path : Text} {above ls : List Text}
    {f : FunctionInfo} (h : f ∈ functionsFrom limit path k above ls) : f.params.keys.Nodup := by
  induction ls generalizing k above with
  | nil => cases h
  | cons l ls ih =>
    simp only [functionsFrom] at h
    cases hd : Definition.find? l with
    | none =>
      rw [hd] at h
      exact ih h
    | some span =>
      rw [hd] at h
      rcases List.mem_cons.mp h with rfl | h
      · exact Table.nodup_keys_ofList _
      · exact ih h

theorem nodup_params_of_scan? {lookback : Lookback} {path source : Text} {m : ModuleInfo}
    (h : scan? lookback path source = some m) {name : Text} {f : FunctionInfo}
    (hf : (name, f) ∈ m.functions) : f.params.keys.Nodup := by
  obtain ⟨declared, -, rfl⟩ := Option.map_eq_some_iff.mp h
  obtain ⟨g, hg, he⟩ := List.mem_map.mp (Table.mem_of_mem_ofList hf)
  obtain ⟨-, rfl⟩ := Prod.mk.inj he
  exact nodup_params_of_mem_functionsFrom hg

end ModuleInfo

/-- Whatever a registry has read, its functions lie within the size of the files, and each of their
parameters has one entry. -/
theorem Registry.function_below {settings : Settings} {calls : List (FileTree × Call)} {limit : Nat}
    (hlimit : 0 < limit) (hcalls : ∀ x ∈ calls, x.1.FilesBelow limit) {name key : Text} {m : ModuleInfo}
    (hm : ((empty settings).run calls).modules.get? name = some m) {f : FunctionInfo}
    (hf : m.functions.get? key = some f) :
    f.location.range.Below limit ∧ f.params.keys.Nodup := by
  obtain ⟨source, ⟨before, t, c, after, rfl, -, hread, -⟩, hscan⟩ := exists_lastRead hm
  have hmem := Table.mem_of_get? hf
  have hsource := FileTree.length_readText_lt (hcalls (t, c) (by simp)) hlimit hread
  exact ⟨(ModuleInfo.function_of_scan? hscan hmem).2.2.below hsource,
    ModuleInfo.nodup_params_of_scan? hscan hmem⟩

end LuaIndex
