import LuaIndex.Proofs.Registry.History

namespace LuaIndex.Registry

/-- The files that a call tries to read. -/
def Call.reads (settings : Settings) (t : FileTree) : Call → List Text
  | .load directories =>
    match (Discovery.findAll t settings.suffixes [] directories).2 with
    | .error _ => []
    | .ok ps => ps.map Path.text
  | .update file => [file]
  | .change file =>
    match t.exists? (.ofText file) with
    | .ok true => [file]
    | _ => []
  | .delete _ => []
  | .clear => []

/-- The text is the one that the last successful reading of the file gave. -/
def LastRead (settings : Settings) (calls : List (FileTree × Call)) (file source : Text) : Prop :=
  ∃ before t c after, calls = before ++ (t, c) :: after ∧
    file ∈ c.reads settings t ∧ t.readText (.ofText file) = .ok source ∧
    ∀ x ∈ after, file ∈ x.2.reads settings x.1 → ∀ s, x.1.readText (.ofText file) ≠ .ok s

theorem mem_reading {lookback : Lookback} {t : FileTree} {file : Text} {e : Event} :
    e ∈ reading lookback t file ↔ ∃ source, t.readText (.ofText file) = .ok source ∧
      e = .scan file (ModuleInfo.scan? lookback file source) := by
  unfold reading
  cases t.readText (.ofText file) <;> simp

/-- The scans that happen in a call are those of the files that it reads with success. -/
theorem scan_mem_events_iff {settings : Settings} {t : FileTree} {c : Call} {file : Text}
    {found : Option ModuleInfo} :
    .scan file found ∈ c.events settings t ↔
      file ∈ c.reads settings t ∧ ∃ source, t.readText (.ofText file) = .ok source ∧
        found = ModuleInfo.scan? settings.lookback file source := by
  have hone : ∀ f, .scan file found ∈ reading settings.lookback t f ↔
      file = f ∧ ∃ source, t.readText (.ofText file) = .ok source ∧
        found = ModuleInfo.scan? settings.lookback file source := by
    intro f
    rw [mem_reading]
    constructor
    · rintro ⟨source, hs, he⟩
      obtain ⟨rfl, rfl⟩ := Event.scan.inj he
      exact ⟨rfl, source, hs, rfl⟩
    · rintro ⟨rfl, source, hs, rfl⟩
      exact ⟨source, hs, rfl⟩
  cases c with
  | update f => simp only [Call.events, Call.reads, hone, List.mem_singleton]
  | delete f => simp [Call.events, Call.reads]
  | clear => simp [Call.events, Call.reads]
  | change f =>
    simp only [Call.events, Call.reads]
    cases t.exists? (.ofText f) with
    | error e => simp
    | ok there =>
      cases there with
      | false => simp
      | true => simp only [hone, List.mem_singleton]
  | load directories =>
    simp only [Call.events, Call.reads]
    cases (Discovery.findAll t settings.suffixes [] directories).2 with
    | error e => simp
    | ok ps =>
      simp only [List.mem_flatMap, hone]
      constructor
      · rintro ⟨f, hf, rfl, hs⟩
        exact ⟨hf, hs⟩
      · rintro ⟨hf, hs⟩
        exact ⟨file, hf, rfl, hs⟩

theorem since_append {P Q : Event → Prop} {h es : List Event} :
    Since P Q (h ++ es) ↔ Since P Q es ∨ (Since P Q h ∧ ∀ e ∈ es, Q e) := by
  induction es using List.reverseRecOn with
  | nil => simp [not_since_nil]
  | append_singleton es e ih =>
    rw [← List.append_assoc, since_concat, since_concat, ih, List.forall_mem_append,
      List.forall_mem_singleton]
    tauto

theorem history_concat (settings : Settings) (calls : List (FileTree × Call)) (t : FileTree)
    (c : Call) : history settings (calls ++ [(t, c)]) = history settings calls ++ c.events settings t := by
  simp [history]

/-- If a file has neither been read nor deleted since it was scanned, the text scanned then is the one
read last. -/
theorem exists_lastRead_of_since {settings : Settings} {calls : List (FileTree × Call)} {file : Text}
    {found : Option ModuleInfo}
    (h : Since (· = .scan file found) (fun e => ¬ e.Concerns file) (history settings calls)) :
    ∃ source, LastRead settings calls file source ∧
      found = ModuleInfo.scan? settings.lookback file source := by
  induction calls using List.reverseRecOn with
  | nil => exact absurd h not_since_nil
  | append_singleton calls x ih =>
    obtain ⟨t, c⟩ := x
    rw [history_concat, since_append] at h
    rcases h with ⟨before, e, after, hsplit, rfl, -⟩ | ⟨hold, hquiet⟩
    · have hmem : .scan file found ∈ c.events settings t := by
        rw [hsplit]
        simp
      obtain ⟨hreads, source, hs, hfound⟩ := scan_mem_events_iff.mp hmem
      exact ⟨source, ⟨calls, t, c, [], rfl, hreads, hs, by simp⟩, hfound⟩
    · obtain ⟨source, ⟨before, t', c', after, rfl, hreads, hs, hafter⟩, hfound⟩ := ih hold
      refine ⟨source, ⟨before, t', c', after ++ [(t, c)], by simp, hreads, hs, ?_⟩, hfound⟩
      rw [List.forall_mem_append, List.forall_mem_singleton]
      refine ⟨hafter, fun hread s hok => ?_⟩
      exact hquiet _ (scan_mem_events_iff.mpr ⟨hread, s, hok, rfl⟩) rfl

/-- Every module of a registry is what a scan finds in the text read last from its file. -/
theorem exists_lastRead {settings : Settings} {calls : List (FileTree × Call)} {name : Text}
    {m : ModuleInfo} (h : ((empty settings).run calls).modules.get? name = some m) :
    ∃ source, LastRead settings calls m.path source ∧
      ModuleInfo.scan? settings.lookback m.path source = some m := by
  have hholds := (((recorded_empty settings).run calls).modules name m).mp h
  obtain ⟨source, hlast, hfound⟩ :=
    exists_lastRead_of_since (hholds.2.imp (fun _ he => he) fun _ he => he.2.2)
  exact ⟨source, hlast, hfound.symm⟩

end LuaIndex.Registry
