import ComponentBuild.Host
import ComponentBuild.Text.Parts

namespace ComponentBuild

structure Classpath where
  entries : List Path
  distinct : entries.Nodup
  absolute : ∀ p ∈ entries, p.isAbsolute = true

inductive ClasspathItem
  | text (s : String)
  | path (p : Path)
  | classpath (cp : Classpath)

namespace Classpath

def separator : Char := ':'

def empty : Classpath := ⟨[], List.nodup_nil, by simp⟩

def insert (cp : Classpath) (p : Path) (hp : p.isAbsolute = true) : Classpath :=
  if h : p ∈ cp.entries then cp
  else
    { entries := cp.entries ++ [p]
      distinct := List.nodup_append.2 ⟨cp.distinct, by simp, by
        intro a ha b hb
        rw [List.mem_singleton.1 hb]
        exact fun e => h (e ▸ ha)⟩
      absolute := by
        intro q hq
        rcases List.mem_append.1 hq with hq | hq
        · exact cp.absolute q hq
        · exact List.mem_singleton.1 hq ▸ hp }

end Classpath

def ClasspathItem.paths : ClasspathItem → List Path
  | text s => (Text.parts Classpath.separator s).map Path.ofText
  | path p => [p]
  | classpath cp => cp.entries

namespace Classpath

def addPath (cp : Classpath) (host : Host) (p : Path) : Except HomeFault Classpath :=
  (p.expandHome host.home).map fun q => cp.insert (host.absolute q) (host.absolute_isAbsolute q)

def addPaths (host : Host) : Classpath → List Path → Classpath × Option HomeFault
  | cp, [] => (cp, none)
  | cp, p :: ps =>
    match cp.addPath host p with
    | .ok cp' => addPaths host cp' ps
    | .error fault => (cp, some fault)

/-- Adds an item; after a fault the paths before the one that failed stay. -/
def add (cp : Classpath) (host : Host) (item : ClasspathItem) : Classpath × Option HomeFault :=
  addPaths host cp item.paths

def ofItems (host : Host) (items : List ClasspathItem) : Except HomeFault Classpath :=
  match addPaths host empty (items.flatMap ClasspathItem.paths) with
  | (cp, none) => .ok cp
  | (_, some fault) => .error fault

def parse (host : Host) (s : String) : Except HomeFault Classpath := ofItems host [.text s]

def text (cp : Classpath) : String :=
  (String.singleton separator).intercalate (cp.entries.map Path.text)

def dependencies (host : Host) (paths : List Path) : Except FileError (List Path) :=
  paths.filterM host.isFile

theorem entries_insert (cp : Classpath) (p : Path) (hp : p.isAbsolute = true) :
    (cp.insert p hp).entries = if p ∈ cp.entries then cp.entries else cp.entries ++ [p] := by
  unfold insert
  split <;> rfl

theorem mem_insert (cp : Classpath) (p : Path) (hp : p.isAbsolute = true) :
    p ∈ (cp.insert p hp).entries := by
  rw [entries_insert]
  split <;> simp_all

end Classpath

end ComponentBuild
