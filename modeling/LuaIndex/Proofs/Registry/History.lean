import LuaIndex.Registry
import LuaIndex.Proofs.Discovery.Found
import Mathlib.Data.List.Induction

namespace LuaIndex.Registry

/-- The calls that change the modules of a registry. -/
inductive Call where
  | load (directories : List Path)
  | update (file : Text)
  | change (file : Text)
  | delete (file : Text)
  | clear
deriving DecidableEq

/-- The registry after a call, whether it failed or not. -/
def call (t : FileTree) (r : Registry) : Call → Registry
  | .load directories => (r.loadAll t directories).registry
  | .update file => (r.update t file).registry
  | .change file => (r.change t file).registry
  | .delete file => r.delete file
  | .clear => r.clear

/-- The registry after calls, each with the files as they are when it is made. -/
def run (r : Registry) (calls : List (FileTree × Call)) : Registry :=
  calls.foldl (fun r c => r.call c.1 c.2) r

/-- What happens to a registry: a file is read and declares a module or none, a file is deleted, or
everything is forgotten. -/
inductive Event where
  | scan (file : Text) (found : Option ModuleInfo)
  | delete (file : Text)
  | clear
deriving DecidableEq

/-- A file is read; if it cannot be, nothing happens. -/
def reading (lookback : Lookback) (t : FileTree) (file : Text) : List Event :=
  match t.readText (.ofText file) with
  | .error _ => []
  | .ok source => [.scan file (ModuleInfo.scan? lookback file source)]

/-- What happens in a call. -/
def Call.events (settings : Settings) (t : FileTree) : Call → List Event
  | .load directories =>
    match (Discovery.findAll t settings.suffixes [] directories).2 with
    | .error _ => []
    | .ok ps => (ps.map Path.text).flatMap (reading settings.lookback t)
  | .update file => reading settings.lookback t file
  | .change file =>
    match t.exists? (.ofText file) with
    | .error _ => []
    | .ok false => [.delete file]
    | .ok true => reading settings.lookback t file
  | .delete file => [.delete file]
  | .clear => [.clear]

def history (settings : Settings) (calls : List (FileTree × Call)) : List Event :=
  calls.flatMap fun c => c.2.events settings c.1

namespace Event

/-- A file was found to declare a module of this lower-case name. -/
def Declares (name : Text) : Event → Prop
  | scan _ (some m) => Text.lower m.name = name
  | _ => False

/-- The file was read or deleted. -/
def Concerns (file : Text) : Event → Prop
  | scan f _ => f = file
  | delete f => f = file
  | clear => False

end Event

/-- An event of the first kind happened, and after it only events of the second. -/
def Since (P Q : Event → Prop) (h : List Event) : Prop :=
  ∃ before e after, h = before ++ e :: after ∧ P e ∧ ∀ x ∈ after, Q x

/-- The module has the name: it is the one found last under this name since everything was forgotten, and
its file has neither been read nor deleted again. -/
def Holds (h : List Event) (name : Text) (m : ModuleInfo) : Prop :=
  Text.lower m.name = name ∧
    Since (· = .scan m.path (some m))
      (fun e => e ≠ .clear ∧ ¬ e.Declares name ∧ ¬ e.Concerns m.path) h

/-- The file was found to declare a module of this name when it was read last. -/
def Declared (h : List Event) (file name : Text) : Prop :=
  Since (fun e => ∃ m, e = .scan file (some m) ∧ Text.lower m.name = name)
    (fun e => e ≠ .clear ∧ ¬ e.Concerns file) h

section Since

variable {P P' Q Q' : Event → Prop} {h : List Event}

theorem since_concat {e : Event} : Since P Q (h ++ [e]) ↔ P e ∨ (Since P Q h ∧ Q e) := by
  constructor
  · rintro ⟨before, x, after, hsplit, hx, hafter⟩
    rcases List.eq_nil_or_concat after with rfl | ⟨rest, y, rfl⟩
    · obtain ⟨-, hlast⟩ := List.append_inj' hsplit rfl
      obtain rfl : e = x := (List.cons.inj hlast).1
      exact Or.inl hx
    · have hend : h ++ [e] = (before ++ x :: rest) ++ [y] := by simpa using hsplit
      obtain ⟨rfl, hlast⟩ := List.append_inj' hend rfl
      obtain rfl : e = y := (List.cons.inj hlast).1
      exact Or.inr ⟨⟨before, x, rest, rfl, hx, fun z hz => hafter z (by simp [hz])⟩,
        hafter e (by simp)⟩
  · rintro (he | ⟨⟨before, x, after, rfl, hx, hafter⟩, he⟩)
    · exact ⟨h, e, [], rfl, he, by simp⟩
    · refine ⟨before, x, after ++ [e], by simp, hx, ?_⟩
      intro z hz
      rcases List.mem_append.mp hz with hz | hz
      · exact hafter z hz
      · rwa [List.mem_singleton.mp hz]

theorem not_since_nil : ¬ Since P Q [] := by
  rintro ⟨before, e, after, hsplit, -⟩
  cases before <;> cases hsplit

theorem Since.imp (hs : Since P Q h) (hP : ∀ e, P e → P' e) (hQ : ∀ e, Q e → Q' e) :
    Since P' Q' h := by
  obtain ⟨before, e, after, hsplit, he, hafter⟩ := hs
  exact ⟨before, e, after, hsplit, hP e he, fun x hx => hQ x (hafter x hx)⟩

/-- If something of one kind happened, there is a last one of any wider kind. -/
theorem Since.last {D : Event → Prop} (hs : Since P Q h) (hD : ∀ e, P e → D e) :
    Since D (fun e => Q e ∧ ¬ D e) h := by
  induction h using List.reverseRecOn with
  | nil => exact absurd hs not_since_nil
  | append_singleton h e ih =>
    rw [since_concat] at hs ⊢
    rcases hs with he | ⟨hs, he⟩
    · exact Or.inl (hD e he)
    · by_cases hlast : D e
      · exact Or.inl hlast
      · exact Or.inr ⟨ih hs, he, hlast⟩

end Since

theorem eq_of_last {D : Event → Prop} {before before' after after' : List Event} {e e' : Event}
    (hsplit : before ++ e :: after = before' ++ e' :: after') (he : D e) (he' : D e')
    (hafter : ∀ x ∈ after, ¬ D x) (hafter' : ∀ x ∈ after', ¬ D x) : e = e' ∧ after = after' := by
  rcases List.append_eq_append_iff.mp hsplit with ⟨a, -, ha⟩ | ⟨a, -, ha⟩
  · cases a with
    | nil => exact List.cons.inj ha
    | cons x a =>
      obtain ⟨-, rfl⟩ := List.cons.inj ha
      exact absurd he' (hafter e' (by simp))
  · cases a with
    | nil => exact ⟨(List.cons.inj ha).1.symm, (List.cons.inj ha).2.symm⟩
    | cons x a =>
      obtain ⟨-, rfl⟩ := List.cons.inj ha
      exact absurd he (hafter' e (by simp))

theorem Holds.declared {h : List Event} {name : Text} {m : ModuleInfo} (hm : Holds h name m) :
    Declared h m.path name :=
  hm.2.imp (fun _ he => ⟨m, he, hm.1⟩) fun _ he => ⟨he.1, he.2.2⟩

/-- The tables of a registry say what its history says. -/
structure Recorded (r : Registry) (h : List Event) : Prop where
  modules : ∀ name m, r.modules.get? name = some m ↔ Holds h name m
  owners : ∀ file name, r.owners.get? file = some name ↔ Declared h file name

variable {r : Registry} {h : List Event}

theorem Recorded.owner (hr : Recorded r h) {name : Text} {m : ModuleInfo}
    (hm : r.modules.get? name = some m) : r.owners.get? m.path = some name :=
  (hr.owners _ _).mpr ((hr.modules _ _).mp hm).declared

theorem recorded_empty (settings : Settings) : Recorded (empty settings) [] := by
  constructor
  · intro name m
    simp [empty, Table.get?, Holds, not_since_nil]
  · intro file name
    simp [empty, Table.get?, Declared, not_since_nil]

theorem get?_forget_owners (r : Registry) (file other : Text) :
    (r.forget file).owners.get? other = if file = other then none else r.owners.get? other := by
  unfold forget
  cases ho : r.owners.get? file with
  | none =>
    by_cases he : file = other
    · rw [if_pos he, ← he, ho]
    · rw [if_neg he]
  | some name => exact Table.get?_erase r.owners file other

/-- Forgetting a file takes away the module that it holds, and no other. -/
theorem get?_forget_modules
    (howner : ∀ name m, r.modules.get? name = some m → r.owners.get? m.path = some name)
    (file name : Text) (m : ModuleInfo) :
    (r.forget file).modules.get? name = some m ↔
      r.modules.get? name = some m ∧ m.path ≠ file := by
  unfold forget
  cases ho : r.owners.get? file with
  | none =>
    refine ⟨fun hm => ⟨hm, ?_⟩, And.left⟩
    rintro rfl
    rw [howner name m hm] at ho
    cases ho
  | some held =>
    -- the only name that the file can hold is the one its owner entry tells
    have hsame : ∀ m', r.modules.get? name = some m' → m'.path = file → held = name := by
      rintro m' hm rfl
      rw [howner name m' hm] at ho
      exact (Option.some.inj ho).symm
    dsimp only
    cases hh : r.modules.get? held with
    | none =>
      refine ⟨fun hm => ⟨hm, fun hp => ?_⟩, And.left⟩
      rw [hsame m hm hp, hm] at hh
      cases hh
    | some holder =>
      dsimp only
      by_cases hp : holder.path = file
      · rw [if_pos hp, Table.get?_erase]
        by_cases hn : held = name
        · subst hn
          simp only [if_true, hh, Option.some.injEq, false_iff, reduceCtorEq]
          rintro ⟨rfl, hne⟩
          exact hne hp
        · rw [if_neg hn]
          exact ⟨fun hm => ⟨hm, fun hp' => hn (hsame m hm hp')⟩, And.left⟩
      · rw [if_neg hp]
        refine ⟨fun hm => ⟨hm, fun hp' => ?_⟩, And.left⟩
        rw [hsame m hm hp', hm] at hh
        rw [Option.some.inj hh] at hp'
        exact hp hp'

/-- The event changes the registry as the call does in which it happens. -/
def occur (r : Registry) : Event → Registry
  | .scan file none => r.forget file
  | .scan file (some m) => (r.forget file).enter file m
  | .delete file => r.delete file
  | .clear => r.clear

/-- A file that was read is the file of the module found in it. -/
def Event.Genuine : Event → Prop
  | .scan file (some m) => m.path = file
  | _ => True

theorem holds_concat {e : Event} {name : Text} {m : ModuleInfo} :
    Holds (h ++ [e]) name m ↔
      (e = .scan m.path (some m) ∧ Text.lower m.name = name) ∨
        (Holds h name m ∧ e ≠ .clear ∧ ¬ e.Declares name ∧ ¬ e.Concerns m.path) := by
  unfold Holds
  rw [since_concat]
  tauto

theorem declared_concat {e : Event} {file name : Text} :
    Declared (h ++ [e]) file name ↔
      (∃ m, e = .scan file (some m) ∧ Text.lower m.name = name) ∨
        (Declared h file name ∧ e ≠ .clear ∧ ¬ e.Concerns file) :=
  since_concat

theorem delete_tables (r : Registry) (file : Text) :
    (r.delete file).modules = (r.forget file).modules ∧
      (r.delete file).owners = (r.forget file).owners := by
  unfold delete forget
  cases r.owners.get? file <;> exact ⟨rfl, rfl⟩

/-- What happens next is recorded. -/
theorem Recorded.occur (hr : Recorded r h) {e : Event} (he : e.Genuine) :
    Recorded (r.occur e) (h ++ [e]) := by
  have hforget := get?_forget_modules fun _ _ hm => hr.owner hm
  constructor
  · intro name m
    rw [holds_concat, ← hr.modules]
    match e with
    | .clear => simp [Registry.occur, clear, empty, Table.get?]
    | .delete file =>
      simp only [Registry.occur, delete_tables, hforget, Event.Declares, Event.Concerns]
      simp [eq_comm]
    | .scan file none =>
      simp only [Registry.occur, hforget, Event.Declares, Event.Concerns]
      simp [eq_comm]
    | .scan file (some found) =>
      obtain rfl : found.path = file := he
      simp only [Registry.occur, enter, Table.get?_put, Event.Declares, Event.Concerns]
      by_cases hn : Text.lower found.name = name
      · rw [if_pos hn]
        constructor
        · intro hm
          obtain rfl := Option.some.inj hm
          exact Or.inl ⟨rfl, hn⟩
        · rintro (⟨hm, -⟩ | ⟨-, -, hnot, -⟩)
          · exact (Event.scan.inj hm).2
          · exact absurd hn hnot
      · rw [if_neg hn, hforget]
        constructor
        · rintro ⟨hm, hp⟩
          exact Or.inr ⟨hm, by simp, hn, fun hp' => hp hp'.symm⟩
        · rintro (⟨hm, hname⟩ | ⟨hm, -, -, hp⟩)
          · obtain rfl := Option.some.inj (Event.scan.inj hm).2
            exact absurd hname hn
          · exact ⟨hm, fun hp' => hp hp'.symm⟩
  · intro file name
    rw [declared_concat, ← hr.owners]
    match e with
    | .clear => simp [Registry.occur, clear, empty, Table.get?]
    | .delete f =>
      by_cases hf : f = file <;>
        simp [Registry.occur, delete_tables, get?_forget_owners, Event.Concerns, hf]
    | .scan f none =>
      by_cases hf : f = file <;> simp [Registry.occur, get?_forget_owners, Event.Concerns, hf]
    | .scan f (some found) =>
      by_cases hf : f = file <;>
        simp [Registry.occur, enter, Table.get?_put, get?_forget_owners, Event.Concerns, hf]

theorem Recorded.of_tables (hr : Recorded r h) {r' : Registry} (hm : r'.modules = r.modules)
    (ho : r'.owners = r.owners) : Recorded r' h := by
  constructor
  · rw [hm]
    exact hr.modules
  · rw [ho]
    exact hr.owners

theorem reading_genuine {lookback : Lookback} {t : FileTree} {file : Text} {e : Event}
    (he : e ∈ reading lookback t file) : e.Genuine := by
  unfold reading at he
  split at he
  case h_1 => cases he
  case h_2 source _ =>
    obtain rfl := List.mem_singleton.mp he
    cases hs : ModuleInfo.scan? lookback file source with
    | none => exact trivial
    | some m =>
      obtain ⟨name, -, rfl⟩ := Option.map_eq_some_iff.mp hs
      rfl

theorem update_registry (t : FileTree) (r : Registry) (file : Text) :
    (r.update t file).registry = (reading r.settings.lookback t file).foldl occur r := by
  unfold update reading
  cases t.readText (.ofText file) with
  | error e => cases e <;> rfl
  | ok source =>
    simp only [rescan]
    cases ModuleInfo.scan? r.settings.lookback file source <;> rfl

theorem Recorded.foldl_occur (hr : Recorded r h) {es : List Event} (he : ∀ e ∈ es, e.Genuine) :
    Recorded (es.foldl Registry.occur r) (h ++ es) := by
  induction es generalizing r h with
  | nil => simpa using hr
  | cons e es ih =>
    have hnext := ih (hr.occur (he e List.mem_cons_self)) fun x hx => he x (List.mem_cons_of_mem e hx)
    simpa using hnext

theorem Recorded.update (hr : Recorded r h) (t : FileTree) (file : Text) :
    Recorded (r.update t file).registry (h ++ reading r.settings.lookback t file) := by
  rw [update_registry]
  exact hr.foldl_occur fun e => reading_genuine

theorem forget_settings (r : Registry) (file : Text) : (r.forget file).settings = r.settings := by
  unfold forget
  cases r.owners.get? file <;> rfl

theorem occur_settings (r : Registry) (e : Event) : (r.occur e).settings = r.settings := by
  match e with
  | .clear => rfl
  | .delete file => exact forget_settings _ file
  | .scan file none => exact forget_settings r file
  | .scan file (some m) => exact forget_settings r file

theorem foldl_occur_settings (r : Registry) (es : List Event) :
    (es.foldl occur r).settings = r.settings := by
  induction es generalizing r with
  | nil => rfl
  | cons e es ih => rw [List.foldl_cons, ih, occur_settings]

theorem update_settings (t : FileTree) (r : Registry) (file : Text) :
    (r.update t file).registry.settings = r.settings := by
  rw [update_registry, foldl_occur_settings]

/-- Only a path that no file can have makes an update fail. -/
theorem exists_update_result {t : FileTree} {file : Text}
    (hread : t.readText (.ofText file) ≠ .error .nullCharacter) (r : Registry) :
    ∃ found, (r.update t file).result = .ok found := by
  unfold update
  cases hr : t.readText (.ofText file) with
  | ok source => exact ⟨_, rfl⟩
  | error e =>
    cases e with
    | nullCharacter => exact absurd hr hread
    | _ => exact ⟨none, rfl⟩

theorem scanAll_cons {t : FileTree} {file : Text}
    (hread : t.readText (.ofText file) ≠ .error .nullCharacter) (r : Registry) (rest : List Text) :
    ∃ p, (r.scanAll t (file :: rest)).registry =
      (({ (r.update t file).registry with progress := p }).scanAll t rest).registry := by
  obtain ⟨found, hf⟩ := exists_update_result hread r
  simp only [scanAll, hf]
  exact ⟨_, rfl⟩

theorem scanAll_settings {t : FileTree} {files : List Text}
    (hread : ∀ f ∈ files, t.readText (.ofText f) ≠ .error .nullCharacter) (r : Registry) :
    (r.scanAll t files).registry.settings = r.settings := by
  induction files generalizing r with
  | nil => rfl
  | cons file rest ih =>
    obtain ⟨p, hp⟩ := scanAll_cons (hread file List.mem_cons_self) r rest
    rw [hp, ih fun f hf => hread f (List.mem_cons_of_mem file hf)]
    exact update_settings t r file

theorem Recorded.scanAll {t : FileTree} {files : List Text}
    (hread : ∀ f ∈ files, t.readText (.ofText f) ≠ .error .nullCharacter) (hr : Recorded r h) :
    Recorded (r.scanAll t files).registry
      (h ++ files.flatMap (reading r.settings.lookback t)) := by
  induction files generalizing r h with
  | nil => simpa [Registry.scanAll] using hr
  | cons file rest ih =>
    obtain ⟨p, hp⟩ := scanAll_cons (hread file List.mem_cons_self) r rest
    have hnext : Recorded { (r.update t file).registry with progress := p }
        (h ++ reading r.settings.lookback t file) := (hr.update t file).of_tables rfl rfl
    have hrest := ih (fun f hf => hread f (List.mem_cons_of_mem file hf)) hnext
    rw [hp, List.flatMap_cons, ← List.append_assoc]
    simpa only [update_settings] using hrest

theorem follow_eq (r : Registry) (file : Text) :
    ∃ files, r.follow file = { r with files := files } := by
  unfold follow
  split
  case isTrue => exact ⟨r.files, rfl⟩
  case isFalse => exact ⟨_, rfl⟩

theorem foldl_follow_eq (files : List Text) (r : Registry) :
    ∃ fs, files.foldl follow r = { r with files := fs } := by
  induction files generalizing r with
  | nil => exact ⟨r.files, rfl⟩
  | cons file rest ih =>
    obtain ⟨fs, hfs⟩ := follow_eq r file
    rw [List.foldl_cons, hfs]
    exact ih _

/-- A load does nothing, or it follows files that can be named and then scans them. -/
theorem load_cases (t : FileTree) (r : Registry) (directories : List Path) :
    (r.call t (.load directories) = r ∧ Call.events r.settings t (.load directories) = []) ∨
      ∃ (files : List Text) (p : Progress),
        (∀ f ∈ files, t.readText (.ofText f) ≠ .error .nullCharacter) ∧
        r.call t (.load directories) =
          ((files.foldl follow { r with progress := p }).scanAll t files).registry ∧
        Call.events r.settings t (.load directories) =
          files.flatMap (reading r.settings.lookback t) := by
  cases hf : Discovery.findAll t r.settings.suffixes [] directories with
  | mk notices found =>
    cases found with
    | error e => exact Or.inl ⟨by simp only [call, loadAll, hf], by simp only [Call.events, hf]⟩
    | ok ps =>
      refine Or.inr ⟨ps.map Path.text, ⟨0, (ps.map Path.text).length⟩, ?_,
        by simp only [call, loadAll, hf], by simp only [Call.events, hf]⟩
      intro f hmem
      obtain ⟨p, hp, rfl⟩ := List.mem_map.mp hmem
      exact Discovery.readText_found_ne hf hp

/-- A change does nothing to a file that cannot be read, or it is a deletion, or the file is followed and
read. -/
theorem change_cases (t : FileTree) (r : Registry) (file : Text) :
    (r.call t (.change file) = r ∧ Call.events r.settings t (.change file) = [] ∧
        ∀ source, t.readText (.ofText file) ≠ .ok source) ∨
      (r.call t (.change file) = r.delete file ∧
        Call.events r.settings t (.change file) = [.delete file]) ∨
      (r.call t (.change file) = ((r.follow file).update t file).registry ∧
        Call.events r.settings t (.change file) = reading r.settings.lookback t file) := by
  simp only [call, change, Call.events]
  cases he : t.exists? (.ofText file) with
  | error e => exact Or.inl ⟨rfl, rfl, FileTree.readText_ne_ok_of_exists? he⟩
  | ok there =>
    cases there with
    | false => exact Or.inr (Or.inl ⟨rfl, rfl⟩)
    | true => exact Or.inr (Or.inr ⟨rfl, rfl⟩)

theorem call_settings (t : FileTree) (r : Registry) (c : Call) :
    (r.call t c).settings = r.settings := by
  cases c with
  | update file => exact update_settings t r file
  | delete file => exact occur_settings r (.delete file)
  | clear => rfl
  | change file =>
    obtain ⟨fs, hfs⟩ := follow_eq r file
    rcases change_cases t r file with ⟨hcall, -⟩ | ⟨hcall, -⟩ | ⟨hcall, -⟩
    · rw [hcall]
    · rw [hcall]
      exact occur_settings r (.delete file)
    · rw [hcall, update_settings, hfs]
  | load directories =>
    rcases load_cases t r directories with ⟨hcall, -⟩ | ⟨files, p, hread, hcall, -⟩
    · rw [hcall]
    · obtain ⟨fs, hfs⟩ := foldl_follow_eq files { r with progress := p }
      rw [hcall, scanAll_settings hread, hfs]

theorem run_settings (r : Registry) (calls : List (FileTree × Call)) :
    (r.run calls).settings = r.settings := by
  induction calls generalizing r with
  | nil => rfl
  | cons c calls ih => exact (ih _).trans (call_settings c.1 r c.2)

theorem Recorded.call (hr : Recorded r h) (t : FileTree) (c : Call) :
    Recorded (r.call t c) (h ++ c.events r.settings t) := by
  cases c with
  | update file => exact hr.update t file
  | delete file => exact hr.occur (e := .delete file) trivial
  | clear => exact hr.occur (e := .clear) trivial
  | change file =>
    rcases change_cases t r file with ⟨hcall, hev, -⟩ | ⟨hcall, hev⟩ | ⟨hcall, hev⟩
    · rw [hcall, hev, List.append_nil]
      exact hr
    · rw [hcall, hev]
      exact hr.occur (e := .delete file) trivial
    · rw [hcall, hev]
      obtain ⟨fs, hfs⟩ := follow_eq r file
      have hfollow : Recorded (r.follow file) h := by
        rw [hfs]
        exact hr.of_tables rfl rfl
      have hupdate := hfollow.update t file
      rwa [show (r.follow file).settings = r.settings by rw [hfs]] at hupdate
  | load directories =>
    rcases load_cases t r directories with ⟨hcall, hev⟩ | ⟨files, p, hread, hcall, hev⟩
    · rw [hcall, hev, List.append_nil]
      exact hr
    · obtain ⟨fs, hfs⟩ := foldl_follow_eq files { r with progress := p }
      rw [hcall, hev, hfs]
      exact Recorded.scanAll hread (hr.of_tables rfl rfl)

/-- A whole run is recorded. -/
theorem Recorded.run (hr : Recorded r h) (calls : List (FileTree × Call)) :
    Recorded (r.run calls) (h ++ history r.settings calls) := by
  induction calls generalizing r h with
  | nil => simpa [Registry.run, history] using hr
  | cons c calls ih =>
    have hrest := ih (hr.call c.1 c.2)
    rw [call_settings] at hrest
    simpa [Registry.run, history] using hrest

/-- Whatever calls are made and whatever the files are meanwhile, a name has a module exactly if this was
the last one found under the name since everything was forgotten, and its file has neither been read nor
deleted since; no other entry exists. All spellings of a name lead to that entry. -/
theorem get?_run_eq_some_iff_holds (settings : Settings) (calls : List (FileTree × Call))
    (name : Text) :
    (∀ m, ((empty settings).run calls).modules.get? name = some m ↔
        Holds (history settings calls) name m) ∧
      ∀ spelling, Text.lower spelling = name →
        ((empty settings).run calls).module? spelling =
          ((empty settings).run calls).modules.get? name := by
  have hrun := (recorded_empty settings).run calls
  refine ⟨hrun.modules name, ?_⟩
  rintro spelling rfl
  rfl

end LuaIndex.Registry
