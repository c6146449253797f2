import ComponentBuild.Proofs.Fallible
import ComponentBuild.Classpath.Basic
import ComponentBuild.SourceSet.Listing

namespace ComponentBuild

def Node.blanked : Node → Node
  | .file _ => .file []
  | node => node

namespace Tree

variable {t : Tree} {base : Location} {p : Path}

def blanked (t : Tree) : Tree where
  entries := t.entries.map fun e => (e.1, e.2.blanked)
  distinct := by
    rw [List.map_map]
    exact t.distinct

theorem node?_blanked (t : Tree) (loc : Location) :
    t.blanked.node? loc = (t.node? loc).map Node.blanked := by
  cases loc with
  | nil => rfl
  | cons n ns =>
    have hlookup (es : List (Location × Node)) :
        (es.map fun e => (e.1, e.2.blanked)).lookup (n :: ns) =
          (es.lookup (n :: ns)).map Node.blanked := by
      induction es with
      | nil => rfl
      | cons e es ih =>
        rw [List.map_cons, List.lookup_cons, List.lookup_cons, ih]
        cases (n :: ns) == e.1 with
        | true => rfl
        | false => rfl
    exact hlookup t.entries

@[simp] theorem names_blanked (t : Tree) (dir : Location) : t.blanked.names dir = t.names dir := by
  simp only [names, blanked, List.filterMap_map]
  rfl

@[simp] theorem height_blanked (t : Tree) : t.blanked.height = t.height := by
  simp only [height, blanked, List.foldr_map]

@[simp] theorem blanked_eq_directory {node : Option Node} :
    node.map Node.blanked = some .directory ↔ node = some .directory := by
  cases node with
  | none => simp
  | some node => cases node <;> simp [Node.blanked]

theorem asDirectory_blanked (t : Tree) (create : Bool) (loc : Location) :
    t.blanked.asDirectory create loc = t.asDirectory create loc := by
  simp only [asDirectory, node?_blanked, blanked_eq_directory]

theorem walkWith_blanked (t : Tree) (create : Bool)
    (follow : Location → List Segment → Except FileFault Location) (loc : Location)
    (segments : List Segment) :
    t.blanked.walkWith create follow loc segments = t.walkWith create follow loc segments := by
  -- For a link with a slash at its end the function itself is handed on, not its value.
  have hdirectory : t.blanked.asDirectory create = t.asDirectory create := by
    funext loc
    exact t.asDirectory_blanked create loc
  induction segments generalizing loc with
  | nil => rfl
  | cons s rest ih =>
    simp only [walkWith, node?_blanked, ih, hdirectory]
    cases t.node? loc with
    | none => rfl
    | some node =>
      cases node with
      | file content => rfl
      | link target => rfl
      | directory =>
        cases s with
        | up => rfl
        | entry n =>
          dsimp only [Option.map_some, Node.blanked]
          cases t.node? (loc ++ [n]) with
          | none => rfl
          | some node => cases node <;> rfl

theorem walk_blanked (t : Tree) (create : Bool) (links : Nat) :
    t.blanked.walk create links = t.walk create links := by
  induction links with
  | zero =>
    funext loc segments
    exact t.walkWith_blanked create _ loc segments
  | succ links ih =>
    funext loc segments
    rw [walk, walk, ih]
    exact t.walkWith_blanked create _ loc segments

@[simp] theorem locate_blanked (t : Tree) (base : Location) (p : Path) :
    t.blanked.locate base p = t.locate base p := by
  simp only [locate, locateWith, walk_blanked]

theorem find_blanked (t : Tree) (base : Location) (p : Path) :
    t.blanked.find base p = (t.find base p).map Node.blanked := by
  simp only [find, locate_blanked, node?_blanked]
  cases t.locate base p with
  | error fault => rfl
  | ok loc =>
    cases ht : t.node? loc with
    | none => simp [ht, Except.map]
    | some node => simp [ht, Except.map]

theorem ask_blanked (t : Tree) (base : Location) (p : Path) {isTrue : Node → Bool}
    (h : ∀ node : Node, isTrue node.blanked = isTrue node) :
    t.blanked.ask base p isTrue = t.ask base p isTrue := by
  rw [ask, ask, find_blanked]
  cases t.find base p with
  | ok node => simp only [Except.map, h]
  | error fault => cases fault <;> rfl

@[simp] theorem isDirectory_blanked (t : Tree) (base : Location) (p : Path) :
    t.blanked.isDirectory base p = t.isDirectory base p := by
  rw [isDirectory, isDirectory, find_blanked]
  cases t.find base p with
  | error fault => rfl
  | ok node => cases node <;> rfl

theorem leadsToDirectory_blanked (t : Tree) (dir : Path) (loc : Location) (n : Name) :
    t.blanked.leadsToDirectory dir loc n = t.leadsToDirectory dir loc n := by
  simp only [leadsToDirectory, node?_blanked, isDirectory_blanked]
  cases t.node? (loc ++ [n]) with
  | none => rfl
  | some node => cases node <;> rfl

theorem listing?_blanked (t : Tree) (dir : Path) : t.blanked.listing? dir = t.listing? dir := by
  have hleads (loc : Location) :
      t.blanked.leadsToDirectory dir loc = t.leadsToDirectory dir loc := by
    funext n
    exact t.leadsToDirectory_blanked dir loc n
  simp only [listing?, locate_blanked, node?_blanked, blanked_eq_directory, names_blanked, hleads]

theorem isLink_blanked (t : Tree) (dir : Path) (n : Name) :
    t.blanked.isLink dir n = t.isLink dir n := by
  have hentry : t.blanked.locateEntry [] dir n = t.locateEntry [] dir n := by
    simp only [locateEntry, locate_blanked, node?_blanked, ne_eq, blanked_eq_directory]
  rw [isLink, isLink, linkTarget?, linkTarget?, hentry]
  cases t.locateEntry [] dir n with
  | error fault => rfl
  | ok loc =>
    simp only [node?_blanked]
    cases t.node? loc with
    | none => rfl
    | some node => cases node <;> rfl

theorem filesBelow_blanked (t : Tree) (root : Path) (selects : List Name → Bool)
    (enters : Name → Bool) (depth : Nat) (dir : List Name) :
    t.blanked.filesBelow root selects enters depth dir =
      t.filesBelow root selects enters depth dir := by
  induction depth generalizing dir with
  | zero => rfl
  | succ depth ih => simp only [filesBelow, listing?_blanked, isLink_blanked, ih]

end Tree

namespace Host

variable {host : Host}

def blanked (host : Host) : Host := { host with tree := host.tree.blanked }

theorem exists?_blanked (host : Host) (p : Path) : host.blanked.exists? p = host.exists? p :=
  host.tree.ask_blanked _ p fun _ => rfl

theorem isFile_blanked (host : Host) (p : Path) : host.blanked.isFile p = host.isFile p := by
  apply Tree.ask_blanked
  intro node
  cases node <;> rfl

theorem isDirectory_blanked (host : Host) (p : Path) :
    host.blanked.isDirectory p = host.isDirectory p := by
  apply Tree.ask_blanked
  intro node
  cases node <;> rfl

end Host

namespace SourceSet

variable (s : SourceSet) (host : Host)

theorem root_blanked : s.root host.blanked = s.root host := by
  have hchecked (root : Path) : checkedRoot host.blanked root = checkedRoot host root := by
    simp only [checkedRoot, Host.exists?_blanked, Host.isDirectory_blanked]
  rw [root, root]
  simp only [hchecked]
  rfl

theorem collect_blanked : s.collect host.blanked = s.collect host := by
  have hnames (root : Path) (includes excludes : List Pattern) :
      s.namesBelow host.blanked.tree root includes excludes =
        s.namesBelow host.tree root includes excludes := by
    rw [namesBelow, namesBelow, Host.blanked, Tree.height_blanked, Tree.filesBelow_blanked]
  simp only [collect, located, root_blanked, hnames]

end SourceSet

theorem Classpath.dependencies_blanked (host : Host) (paths : List Path) :
    dependencies host.blanked paths = dependencies host paths := by
  apply filterM_congr
  intro p _
  exact host.isFile_blanked p

structure Host.SameNames (host host' : Host) : Prop where
  blanked : host.blanked = host'.blanked

namespace Host.SameNames

variable {host host' : Host}

theorem root (h : host.SameNames host') (s : SourceSet) : s.root host = s.root host' := by
  rw [← s.root_blanked host, h.blanked, s.root_blanked]

theorem collect (h : host.SameNames host') (s : SourceSet) : s.collect host = s.collect host' := by
  rw [← s.collect_blanked host, h.blanked, s.collect_blanked]

theorem exists?_eq (h : host.SameNames host') : host.exists? = host'.exists? := by
  funext p
  rw [← host.exists?_blanked, h.blanked, host'.exists?_blanked]

theorem dependencies (h : host.SameNames host') (paths : List Path) :
    Classpath.dependencies host paths = Classpath.dependencies host' paths := by
  rw [← Classpath.dependencies_blanked, h.blanked, Classpath.dependencies_blanked]

theorem home (h : host.SameNames host') : host.home = host'.home := by
  have hb := congrArg Host.home h.blanked
  exact hb

theorem workingPath (h : host.SameNames host') : host.workingPath = host'.workingPath := by
  have hb := congrArg Host.workingPath h.blanked
  exact hb

theorem systemPath (h : host.SameNames host') : host.systemPath = host'.systemPath := by
  have hb := congrArg Host.systemPath h.blanked
  exact hb

theorem settled (h : host.SameNames host') : host.settled = host'.settled := by
  have hb := congrArg Host.settled h.blanked
  exact hb

end Host.SameNames

end ComponentBuild
