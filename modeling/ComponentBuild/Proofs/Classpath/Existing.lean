import ComponentBuild.Classpath.Context
import ComponentBuild.Proofs.Fallible

namespace ComponentBuild

namespace Host

variable {host : Host} {p : Path}

def Answers (host : Host) (p : Path) : Prop :=
  host.tree.find host.workingDirectory p ≠ .error .tooLong

theorem ask_of_answers (h : host.Answers p) (isTrue : Node → Bool) :
    host.tree.ask host.workingDirectory p isTrue =
      .ok (match host.tree.find host.workingDirectory p with
        | .ok node => isTrue node
        | .error _ => false) := by
  unfold Tree.ask
  split
  · rename_i node hf
    rw [hf]
  · rename_i hf
    exact absurd hf h
  · rename_i fault hne hf
    rw [hf]

theorem ask_of_not_answers (h : ¬ host.Answers p) (isTrue : Node → Bool) :
    host.tree.ask host.workingDirectory p isTrue = .error ⟨.tooLong, p⟩ := by
  have hf : host.tree.find host.workingDirectory p = .error .tooLong := Classical.not_not.1 h
  rw [Tree.ask, hf]

theorem exists?_of_answers (h : host.Answers p) :
    host.exists? p = .ok (host.tree.exists? host.workingDirectory p) := by
  rw [exists?, ask_of_answers h]
  unfold Tree.exists?
  cases host.tree.find host.workingDirectory p with
  | error fault => rfl
  | ok node => rfl

theorem isDirectory_of_answers (h : host.Answers p) :
    host.isDirectory p = .ok (host.tree.isDirectory host.workingDirectory p) := by
  rw [isDirectory, ask_of_answers h]
  unfold Tree.isDirectory
  cases host.tree.find host.workingDirectory p with
  | error fault => rfl
  | ok node => cases node <;> rfl

theorem isFile_of_answers (h : host.Answers p) :
    host.isFile p = .ok (host.tree.isFile host.workingDirectory p) := by
  rw [isFile, ask_of_answers h]
  unfold Tree.isFile
  cases host.tree.find host.workingDirectory p with
  | error fault => rfl
  | ok node => cases node <;> rfl

end Host

namespace Classpath

variable {host : Host} {cp : Classpath}

def existing (cp : Classpath) (host : Host) : List Path :=
  cp.entries.filter (host.tree.exists? host.workingDirectory)

def files (cp : Classpath) (host : Host) : List Path :=
  (cp.existing host).filter (host.tree.isFile host.workingDirectory)

theorem dependencies_eq_ok (h : ∀ p ∈ cp.entries, host.Answers p) :
    dependencies host cp.entries = .ok (cp.files host) := by
  have hanswer : ∀ p ∈ cp.entries,
      host.isFile p = .ok (host.tree.isFile host.workingDirectory p) := by
    intro p hp
    exact Host.isFile_of_answers (h p hp)
  rw [dependencies, filterM_eq_ok hanswer, files, existing, List.filter_filter]
  congr 2
  funext p
  cases hf : host.tree.isFile host.workingDirectory p with
  | false => simp
  | true => simp [Tree.isFile_exists hf]

theorem dependencies_eq_error {p : Path} (hp : p ∈ cp.entries) (h : ¬ host.Answers p) :
    ∃ e, dependencies host cp.entries = .error e := by
  apply filterM_eq_error hp
  exact Host.ask_of_not_answers h _

end Classpath

namespace ClassContexts

variable {host : Host} {cp : Classpath} {cs : ClassContexts}

theorem makeLoader_eq_ok (parent : Option Nat) (h : ∀ p ∈ cp.entries, host.Answers p) :
    cs.makeLoader host cp parent = .ok (cs.make (cp.existing host) parent) := by
  have hanswer : ∀ p ∈ cp.entries,
      host.exists? p = .ok (host.tree.exists? host.workingDirectory p) := by
    intro p hp
    exact Host.exists?_of_answers (h p hp)
  rw [makeLoader, filterM_eq_ok hanswer]
  rfl

theorem get?_make (cs : ClassContexts) (locations : List Path) (parent : Option Nat) :
    (cs.make locations parent).1.get? (cs.make locations parent).2 =
      some ⟨locations, parent, false⟩ := by
  simp [make, get?]

end ClassContexts

end ComponentBuild
