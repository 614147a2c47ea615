/-
  MountControl — a client that finds its service.

  Where there are no settings files, the settings are those of the
  environment and of the command line; where somebody listens on the socket
  that they name, the service is reached.

  * `load_of_noFiles`: the settings of a client without settings files;
  * `Surroundings.connect_of_stat`: a socket with somebody behind it answers;
  * `oneMachine` has both, and a client finds its service there.
-/
import MountControl.Client.Session
import MountControl.Proofs.Host.FileTree

namespace MountControl.Config

open Host (FileTree Node Place)

/-! ## No settings files -/

/-- There are directories, links and sockets, but no files. -/
def NoFiles (tree : FileTree) : Prop :=
  ∀ place content mode, (place, Node.file content mode) ∉ tree.nodes

section
variable {env : Environment} {tree : FileTree} {cwd : Place}

theorem stat_ne_file (h : NoFiles tree) {follow : Bool} {path : List Char} {place : Place}
    {content : List UInt8} {mode : Nat} :
    tree.stat follow cwd path ≠ .ok (place, .file content mode) := by
  intro hstat
  obtain ⟨-, hnode⟩ := FileTree.stat_eq_ok.1 hstat
  rw [FileTree.node?] at hnode
  split at hnode
  · cases hnode
  · obtain ⟨⟨found, node⟩, hfound, rfl⟩ := Option.map_eq_some_iff.1 hnode
    exact h found content mode (List.mem_of_find?_eq_some hfound)

theorem loadFile_of_noFiles (h : NoFiles tree) (path : List Char) :
    loadFile tree cwd path = .ok none := by
  rw [loadFile]
  split
  next hstat => exact absurd hstat (stat_ne_file h)
  next => rfl

theorem loadFirst_of_noFiles (h : NoFiles tree) (paths : List (List Char)) :
    loadFirst tree cwd paths [] = .ok none := by
  induction paths with
  | nil => rfl
  | cons path paths ih => rw [loadFirst, loadFile_of_noFiles h, ih]

/-- Without files and flags the settings are those of the environment over the defaults. -/
theorem load_of_noFiles (h : NoFiles tree) (program : Argument) {settings : Settings}
    (hsettings : ((Value.map []).over (env.settings.over (env.defaults.value.over
      (.map [])))).asSettings env.defaults = .ok settings) :
    load [program] env tree cwd = .ok settings := by
  have hflags : FlagSettings.parse ([program].drop 1) = .ok {} := rfl
  have hfile : chooseFile none env tree cwd = .ok none := loadFirst_of_noFiles h _
  simp only [load, hflags, hfile, Option.toList_none, List.append_nil, List.cons_append,
    List.nil_append, List.foldl_cons, List.foldl_nil, hsettings]
  rfl

end

end MountControl.Config

namespace MountControl.Client

open Host (FileTree Place)

/-! ## Reaching the service -/

/-- A socket on which somebody listens answers. -/
theorem Surroundings.connect_of_stat {around : Surroundings} {path : String} {place : Place}
    {owner : Nat} (hshort : Host.checkSocketPath path.toList = .ok ())
    (hstat : around.files.stat false around.cwd path.toList = .ok (place, .socket (some owner)))
    (timeout : Nat) : around.connect (.unix path) timeout = .ok () := by
  have hconnect : around.files.connect around.cwd path.toList = .ok owner := by
    rw [FileTree.connect_of_stat hstat, hshort]
    rfl
  simp only [connect, hconnect]

/-- A machine with the socket of a service. -/
def oneMachine : Surroundings where
  env := ⟨[("XDG_RUNTIME_DIR", "/r")], 0⟩
  files := ⟨[([['r']], .directory 0o755), ([['r'], "btrmount".toList], .directory 0o755),
    ([['r'], "btrmount".toList, "btrmountd.sock".toList], .socket (some 1))]⟩
  cwd := []

theorem load_oneMachine :
    Config.load [.ofText "btrmount"] oneMachine.env oneMachine.files oneMachine.cwd =
      .ok { socket := .unix "/r/btrmount/btrmountd.sock" } := by
  refine Config.load_of_noFiles ?_ _ (by decide +kernel)
  intro place content mode
  simp [oneMachine]

theorem connect_oneMachine (timeout : Nat) :
    oneMachine.connect (.unix "/r/btrmount/btrmountd.sock") timeout = .ok () := by
  have hspells : FileTree.Spells "/r/btrmount/btrmountd.sock".toList
      [['r'], "btrmount".toList, "btrmountd.sock".toList] := by decide +kernel
  have hlocate : oneMachine.files.locate false oneMachine.cwd
      "/r/btrmount/btrmountd.sock".toList =
        .ok [['r'], "btrmount".toList, "btrmountd.sock".toList] := by
    rw [FileTree.locate_of_spells hspells, FileTree.walk_name (by decide) rfl (by nofun),
      FileTree.walk_name (by decide +kernel) rfl (by nofun)]
    exact FileTree.walk_last (by decide +kernel) rfl
  exact Surroundings.connect_of_stat (by decide +kernel)
    (FileTree.stat_eq_ok.2 ⟨hlocate, rfl⟩) timeout

end MountControl.Client
