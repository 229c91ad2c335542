import LuaIndex.Proofs.Module.Definitions
import LuaIndex.Proofs.Registry.Coverage
import LuaIndex.Proofs.Registry.Readings
import LuaIndex.Proofs.Text.Order

namespace LuaIndex

namespace Registry

/-- What is in the tables of one registry is in those of the other. -/
def SameTables (r r' : Registry) : Prop :=
  r.modules = r'.modules ∧ r.owners = r'.owners

variable {r r' : Registry} {t : FileTree}

theorem SameTables.trans {r'' : Registry} (h : SameTables r r') (h' : SameTables r' r'') :
    SameTables r r'' :=
  ⟨h.1.trans h'.1, h.2.trans h'.2⟩

theorem SameTables.forget (h : SameTables r r') (file : Text) :
    SameTables (r.forget file) (r'.forget file) := by
  obtain ⟨hm, ho⟩ := h
  unfold Registry.forget
  rw [hm, ho]
  cases r'.owners.get? file with
  | none => exact ⟨hm, ho⟩
  | some name => exact ⟨rfl, rfl⟩

theorem SameTables.occur (h : SameTables r r') (e : Event) :
    SameTables (r.occur e) (r'.occur e) := by
  match e with
  | .clear => exact ⟨rfl, rfl⟩
  | .delete file =>
    have hf := h.forget file
    simpa only [Registry.occur, SameTables, delete_tables] using hf
  | .scan file none => exact h.forget file
  | .scan file (some m) =>
    obtain ⟨hm, ho⟩ := h.forget file
    simp only [Registry.occur, SameTables, enter, hm, ho, and_self]

theorem SameTables.foldl_occur (h : SameTables r r') (es : List Event) :
    SameTables (es.foldl Registry.occur r) (es.foldl Registry.occur r') := by
  induction es generalizing r r' with
  | nil => exact h
  | cons e es ih => exact ih (h.occur e)

theorem update_sameTables (h : SameTables r r') (hs : r.settings = r'.settings) (file : Text) :
    SameTables (r.update t file).registry
      ((reading r'.settings.lookback t file).foldl occur r') := by
  rw [update_registry, hs]
  exact h.foldl_occur _

theorem scanAll_sameTables {files : List Text}
    (hread : ∀ f ∈ files, t.readText (.ofText f) ≠ .error .nullCharacter)
    (h : SameTables r r') (hs : r.settings = r'.settings) :
    SameTables (r.scanAll t files).registry
      ((files.flatMap (reading r'.settings.lookback t)).foldl occur r') := by
  induction files generalizing r r' with
  | nil => exact h
  | cons file rest ih =>
    obtain ⟨p, hp⟩ := scanAll_cons (hread file List.mem_cons_self) r rest
    have hfirst := update_sameTables (t := t) h hs file
    have hsettings : (r.update t file).registry.settings =
        ((reading r'.settings.lookback t file).foldl occur r').settings := by
      rw [update_settings, foldl_occur_settings, hs]
    have hrest := ih (fun f hf => hread f (List.mem_cons_of_mem file hf))
      (r := { (r.update t file).registry with progress := p }) hfirst hsettings
    rw [foldl_occur_settings] at hrest
    rw [hp, List.flatMap_cons, List.foldl_append]
    exact hrest

/-- A call does to the tables what the events in it do. -/
theorem call_sameTables (t : FileTree) (r : Registry) (c : Call) :
    SameTables (r.call t c) ((c.events r.settings t).foldl occur r) := by
  cases c with
  | update file => exact update_sameTables ⟨rfl, rfl⟩ rfl file
  | delete file => exact ⟨rfl, rfl⟩
  | clear => exact ⟨rfl, rfl⟩
  | change file =>
    rcases change_cases t r file with ⟨hcall, hev, -⟩ | ⟨hcall, hev⟩ | ⟨hcall, hev⟩
    · rw [hcall, hev]
      exact ⟨rfl, rfl⟩
    · rw [hcall, hev]
      exact ⟨rfl, rfl⟩
    · rw [hcall, hev]
      obtain ⟨fs, hfs⟩ := follow_eq r file
      rw [hfs]
      have hfiles : SameTables { r with files := fs } r := ⟨rfl, rfl⟩
      exact update_sameTables hfiles rfl file
  | load directories =>
    rcases load_cases t r directories with ⟨hcall, hev⟩ | ⟨files, p, hread, hcall, hev⟩
    · rw [hcall, hev]
      exact ⟨rfl, rfl⟩
    · obtain ⟨fs, hfs⟩ := foldl_follow_eq files { r with progress := p }
      rw [hcall, hev, hfs]
      have hfollowed : SameTables { r with progress := p, files := fs } r := ⟨rfl, rfl⟩
      exact scanAll_sameTables hread hfollowed rfl

/-- The tables after a run are the replay of its history. -/
theorem run_sameTables (r : Registry) (calls : List (FileTree × Call)) :
    SameTables (r.run calls) ((history r.settings calls).foldl occur r) := by
  induction calls generalizing r with
  | nil => exact ⟨rfl, rfl⟩
  | cons c calls ih =>
    have hrest := ih (r.call c.1 c.2)
    rw [call_settings] at hrest
    have hfirst := (call_sameTables c.1 r c.2).foldl_occur (history r.settings calls)
    have hall := hrest.trans hfirst
    rw [← List.foldl_append] at hall
    simpa [run, history] using hall

theorem nodup_forget (h : r.modules.keys.Nodup) (file : Text) :
    (r.forget file).modules.keys.Nodup := by
  unfold forget
  cases r.owners.get? file with
  | none => exact h
  | some name =>
    dsimp only
    split
    case h_1 m _ =>
      split
      case isTrue => exact Table.nodup_keys_erase h name
      case isFalse => exact h
    case h_2 => exact h

theorem nodup_occur (h : r.modules.keys.Nodup) (e : Event) :
    (r.occur e).modules.keys.Nodup := by
  match e with
  | .clear => exact List.nodup_nil
  | .delete file =>
    rw [occur, (delete_tables r file).1]
    exact nodup_forget h file
  | .scan file none => exact nodup_forget h file
  | .scan file (some m) => exact Table.nodup_keys_put (nodup_forget h file) _ m

/-- No name has two modules. -/
theorem nodup_run (settings : Settings) (calls : List (FileTree × Call)) :
    ((empty settings).run calls).modules.keys.Nodup := by
  rw [(run_sameTables (empty settings) calls).1]
  exact List.foldlRecOn (motive := fun r : Registry => r.modules.keys.Nodup) _ _ List.nodup_nil
    fun r h e _ => nodup_occur h e

/-- Every file that owns a name is followed. -/
def OwnersFollowed (r : Registry) : Prop :=
  ∀ file ∈ r.owners.keys, file ∈ r.files

theorem mem_owners_forget {file other : Text} :
    file ∈ (r.forget other).owners.keys ↔ file ∈ r.owners.keys ∧ file ≠ other := by
  simp only [Table.mem_keys_iff, get?_forget_owners]
  by_cases he : other = file
  · simp [he]
  · simp [he, Ne.symm he]

theorem mem_owners_occur {e : Event} {file : Text} (h : file ∈ (r.occur e).owners.keys) :
    e.Concerns file ∨ file ∈ r.owners.keys := by
  match e with
  | .clear => cases h
  | .delete f =>
    rw [occur, (delete_tables r f).2] at h
    exact Or.inr (mem_owners_forget.mp h).1
  | .scan f none => exact Or.inr (mem_owners_forget.mp h).1
  | .scan f (some m) =>
    obtain ⟨entry, he, rfl⟩ := List.mem_map.mp h
    rcases Table.mem_put he with rfl | he
    · exact Or.inl rfl
    · exact Or.inr (mem_owners_forget.mp (List.mem_map_of_mem he)).1

/-- Only a file that is read comes to own a name. -/
theorem mem_owners_foldl_occur {es : List Event} {file : Text}
    (h : file ∈ (es.foldl occur r).owners.keys) :
    (∃ e ∈ es, e.Concerns file) ∨ file ∈ r.owners.keys := by
  induction es generalizing r with
  | nil => exact Or.inr h
  | cons e es ih =>
    rcases ih h with ⟨x, hx, hc⟩ | h
    · exact Or.inl ⟨x, List.mem_cons_of_mem e hx, hc⟩
    · rcases mem_owners_occur h with hc | h
      · exact Or.inl ⟨e, List.mem_cons_self, hc⟩
      · exact Or.inr h

theorem eq_of_concerns_reading {lookback : Lookback} {file other : Text} {e : Event}
    (he : e ∈ reading lookback t other) (hc : e.Concerns file) : file = other := by
  obtain ⟨source, -, rfl⟩ := mem_reading.mp he
  exact Eq.symm hc

theorem OwnersFollowed.delete (h : OwnersFollowed r) (file : Text) :
    OwnersFollowed (r.delete file) := by
  intro other hmem
  rw [(delete_tables r file).2, mem_owners_forget] at hmem
  exact mem_delete_files.mpr ⟨h other hmem.1, hmem.2⟩

/-- Owners stay followed if the files that are read are followed too. -/
theorem OwnersFollowed.of_sameTables (h : OwnersFollowed r) {es : List Event}
    (ht : SameTables r' (es.foldl occur r))
    (hfiles : ∀ file, (file ∈ r.files ∨ ∃ e ∈ es, e.Concerns file) → file ∈ r'.files) :
    OwnersFollowed r' := by
  intro file hmem
  rw [ht.2] at hmem
  rcases mem_owners_foldl_occur hmem with hread | hold
  · exact hfiles file (Or.inr hread)
  · exact hfiles file (Or.inl (h file hold))

/-- A call other than an update follows every file that comes to own a name. -/
theorem OwnersFollowed.call (h : OwnersFollowed r) {c : Call} (hc : ∀ file, c ≠ .update file) :
    OwnersFollowed (r.call t c) := by
  cases c with
  | update file => exact absurd rfl (hc file)
  | delete file => exact h.delete file
  | clear =>
    intro file hmem
    cases hmem
  | change file =>
    rcases change_cases t r file with ⟨hcall, -, -⟩ | ⟨hcall, -⟩ | ⟨hcall, hev⟩
    · rw [hcall]
      exact h
    · rw [hcall]
      exact h.delete file
    · refine h.of_sameTables (call_sameTables t r (.change file)) fun other hother => ?_
      rw [hcall, update_files, mem_follow_files]
      refine hother.imp id ?_
      rintro ⟨e, he, hcon⟩
      rw [hev] at he
      exact eq_of_concerns_reading he hcon
  | load directories =>
    rcases load_cases t r directories with ⟨hcall, -⟩ | ⟨files, p, hread, hcall, hev⟩
    · rw [hcall]
      exact h
    · refine h.of_sameTables (call_sameTables t r (.load directories)) fun other hother => ?_
      rw [hcall, scanAll_files hread, mem_foldl_follow_files]
      refine hother.imp id ?_
      rintro ⟨e, he, hcon⟩
      rw [hev] at he
      obtain ⟨f, hf, he⟩ := List.mem_flatMap.mp he
      rwa [eq_of_concerns_reading he hcon]

theorem OwnersFollowed.run (h : OwnersFollowed r) {calls : List (FileTree × Call)}
    (hc : ∀ c ∈ calls, ∀ file, c.2 ≠ .update file) : OwnersFollowed (r.run calls) := by
  induction calls generalizing r with
  | nil => exact h
  | cons c calls ih =>
    have hfirst := h.call (t := c.1) (hc c List.mem_cons_self)
    exact ih hfirst fun x hx => hc x (List.mem_cons_of_mem c hx)

/-- The tables of a registry agree: each module stands under its own name in lower case, its file owns
this name and no other, its functions lie in that file, and the modules are listed once each in the
order of these names. -/
structure Coherent (r : Registry) : Prop where
  nodup : r.modules.keys.Nodup
  name : ∀ e ∈ r.modules, e.1 = Text.lower e.2.name
  owner : ∀ e ∈ r.modules, r.owners.get? e.2.path = some e.1
  functions : ∀ e ∈ r.modules, ∀ f ∈ e.2.functions, f.2.location.path = e.2.path
  single : ∀ e ∈ r.modules, ∀ e' ∈ r.modules, e.2.path = e'.2.path → e = e'
  listed : r.sortedModules.Perm r.modules.values
  sorted : (r.sortedModules.map fun m => Text.lower m.name).Pairwise Text.Precedes

/-- Modules under their own, different names are listed in strictly increasing order of these. -/
theorem sortedModules_pairwise (hn : r.modules.keys.Nodup)
    (hname : ∀ e ∈ r.modules, e.1 = Text.lower e.2.name) :
    (r.sortedModules.map fun m => Text.lower m.name).Pairwise Text.Precedes := by
  let le : Text × ModuleInfo → Text × ModuleInfo → Bool := fun a b => Text.le a.1 b.1
  have hperm : (r.modules.mergeSort le).Perm r.modules := List.mergeSort_perm _ _
  have hsorted : (r.modules.mergeSort le).Pairwise fun a b => le a b = true := by
    refine List.pairwise_mergeSort ?_ ?_ _
    · exact fun a b c => Text.le_trans
    · exact fun a b => Text.le_total a.1 b.1
  have hkeys : (r.modules.mergeSort le).Pairwise fun a b => a.1 ≠ b.1 :=
    List.pairwise_map.mp ((hperm.map Prod.fst).nodup_iff.mpr hn)
  rw [sortedModules, List.map_map, List.pairwise_map]
  refine (hsorted.and hkeys).imp_of_mem fun {a b} ha hb hab => ?_
  have hlt : Text.Precedes a.1 b.1 := (Text.le_iff.mp hab.1).resolve_left hab.2
  rwa [hname a (hperm.mem_iff.mp ha), hname b (hperm.mem_iff.mp hb)] at hlt

theorem coherent_run (settings : Settings) (calls : List (FileTree × Call)) :
    Coherent ((empty settings).run calls) := by
  have hrecord := (recorded_empty settings).run calls
  have hnodup := nodup_run settings calls
  have hget : ∀ e ∈ ((empty settings).run calls).modules,
      ((empty settings).run calls).modules.get? e.1 = some e.2 :=
    fun e he => (Table.get?_eq_some_iff_mem hnodup).mpr he
  have hname : ∀ e ∈ ((empty settings).run calls).modules, e.1 = Text.lower e.2.name :=
    fun e he => ((hrecord.modules e.1 e.2).mp (hget e he)).1.symm
  have howner : ∀ e ∈ ((empty settings).run calls).modules,
      ((empty settings).run calls).owners.get? e.2.path = some e.1 :=
    fun e he => hrecord.owner (hget e he)
  refine ⟨hnodup, hname, howner, ?_, ?_, ?_, sortedModules_pairwise hnodup hname⟩
  · intro e he f hf
    obtain ⟨source, -, hscan⟩ := exists_lastRead (hget e he)
    exact (ModuleInfo.function_of_scan? hscan hf).2.1
  · intro e he e' he' hpath
    have hkey : e.1 = e'.1 := by
      have ho := howner e he
      rw [hpath, howner e' he'] at ho
      exact (Option.some.inj ho).symm
    have hmod := hget e he
    rw [hkey, hget e' he'] at hmod
    exact Prod.ext hkey (Option.some.inj hmod).symm
  · exact (List.mergeSort_perm _ _).map Prod.snd

/-- A module is found under every name that is its own in lower case. -/
theorem Coherent.module?_eq_some_iff {r : Registry} (hr : r.Coherent) {name : Text} {m : ModuleInfo} :
    r.module? name = some m ↔ m ∈ r.sortedModules ∧ Text.lower m.name = Text.lower name := by
  rw [module?, Table.get?_eq_some_iff_mem hr.nodup, hr.listed.mem_iff, Table.values, List.mem_map]
  constructor
  · intro h
    exact ⟨⟨_, h, rfl⟩, (hr.name _ h).symm⟩
  · intro h
    obtain ⟨⟨⟨key, m'⟩, he, rfl⟩, hname⟩ := h
    rw [← hname, ← hr.name _ he]
    exact he

/-- After every run the tables agree, and if files are updated only by loads and changes, every file that
owns a name is followed. -/
theorem tables_agree_run (settings : Settings) (calls : List (FileTree × Call)) :
    Coherent ((empty settings).run calls) ∧
      ((∀ c ∈ calls, ∀ file, c.2 ≠ .update file) →
        ∀ file ∈ ((empty settings).run calls).owners.keys,
          file ∈ ((empty settings).run calls).files) := by
  refine ⟨coherent_run settings calls, fun hc => OwnersFollowed.run ?_ hc⟩
  intro file hmem
  cases hmem

end Registry

end LuaIndex
