import ComponentBuild.Proofs.CommandLine.Overlay
import ComponentBuild.Proofs.CommandLine.Reported
import ComponentBuild.Proofs.Step.Moved

namespace ComponentBuild.CommandLine

variable {host : Host} {w : Location} {registry : Registry} {setup : LogSetup}
  {a : GenerateArguments} {text : String}

namespace GenerateArguments

def Finds (a : GenerateArguments) (host : Host) (registry : Registry) (g : Generator) : Prop :=
  ∃ s, a.step host = .ok s ∧ s.findGenerator registry = .ok g

def only (text : String) : GenerateArguments := { empty with config := some (.text text) }

theorem overlay_only (text : String) (c : Settings) : (only text).overlay c = .ok c := by
  have hlayered : c = { c with
      classpath := c.classpath ++ [].flatMap classpathPaths
      annotationProcessors := c.annotationProcessors ++ []
      includes := c.includes ++ []
      excludes := c.excludes ++ []
      defaultExcludes := c.defaultExcludes && true } := by
    simp
  rw [overlay_eq_ok]
  refine ⟨none, [], [], rfl, rfl, rfl, hlayered⟩

theorem settingsPath_only (h : (Path.ofText text).isAbsolute = true) (host : Host) :
    (only text).settingsPath host = .ofText text := by
  have hne : text ≠ "" := by
    rintro rfl
    cases Path.isAbsolute_ofText_iff.1 h
  have hconfig : (only text).config.bind Given.nonempty? = some text := by
    have hgiven : (some text).filter (· ≠ "") = some text := by simp [hne]
    exact hgiven
  rw [settingsPath, hconfig]

theorem settings_only (h : (Path.ofText text).isAbsolute = true) (host : Host) :
    (only text).settings host =
      match Settings.load host (.ofText text) with
      | .error fault => .error (.ofSettings fault)
      | .ok c => .ok c := by
  rw [settings, settingsPath_only h]
  cases Settings.load host (.ofText text) with
  | error fault => rfl
  | ok c => simp only [overlay_only]

theorem step_only_movedTo (h : (Path.ofText text).isAbsolute = true) (host : Host) (w : Location) :
    (only text).step (host.movedTo w) = (only text).step host := by
  rw [step, step, settings_only h, settings_only h, Settings.load_movedTo h]
  cases hc : Settings.load host (.ofText text) with
  | error fault => rfl
  | ok c => simp only [Step.ofSettings_movedTo (Settings.load_anchored hc)]

theorem anchored_step_only {s : Step} (h : (Path.ofText text).isAbsolute = true)
    (hs : (only text).step host = .ok s) : s.Anchored := by
  rw [step, settings_only h] at hs
  cases hc : Settings.load host (.ofText text) with
  | error fault =>
    rw [hc] at hs
    cases hs
  | ok c =>
    simp only [hc] at hs
    cases hmade : Step.ofSettings host c none with
    | error fault =>
      rw [hmade] at hs
      cases hs
    | ok made =>
      rw [hmade] at hs
      obtain rfl := Except.ok.inj hs
      exact Step.anchored_ofSettings (Settings.load_anchored hc) hmade

end GenerateArguments

theorem word_of_isAbsolute (g : Grammar Setting) (h : (Path.ofText text).isAbsolute = true) :
    g.words [text] = .ok [(text, .operand)] := by
  have hhead := Path.isAbsolute_ofText_iff.1 h
  have hdashes : text ≠ "--" := by
    rintro rfl
    cases hhead
  have hword : g.word text = .ok .operand := by
    rw [Grammar.word, hhead]
    rfl
  rw [Grammar.words, if_neg hdashes, hword]
  rfl

theorem parse_config (h : (Path.ofText text).isAbsolute = true) :
    parse ["generate", "--config", text] = .ok ⟨false, .generate (.only text)⟩ := by
  have hword (g : Grammar Setting) : g.words ["--config", text] =
      (g.word "--config").map fun w => [("--config", w), (text, .operand)] := by
    have hdashes : "--config" ≠ "--" := by decide
    rw [Grammar.words, if_neg hdashes, word_of_isAbsolute g h]
    cases g.word "--config" with
    | error stop => rfl
    | ok w => rfl
  have hmain : mainGrammar.words ["generate", "--config", text] =
      .ok [("generate", .operand), ("--config", .unknown), (text, .operand)] := by
    have hdashes : "generate" ≠ "--" := by decide
    rw [Grammar.words, if_neg hdashes, hword]
    rfl
  have hcommand : mainGrammar.parseCommand ["generate", "--config", text] =
      .ok ⟨[], some ("generate", ["--config", text]), []⟩ := by
    rw [Grammar.parseCommand, hmain]
    rfl
  have hgenerate : generateGrammar.parse true ["--config", text] =
      .ok ⟨[.config (.text text)], none, []⟩ := by
    rw [Grammar.parse, hword]
    rfl
  simp only [parse, hcommand, bind, Except.bind, if_true, hgenerate]
  rfl

/-- A session apart from what it prints, and from whether it can print that. -/
def Session.unprinted (x : Session) : Session :=
  { x with
    output := ""
    ending := match x.ending with
      | .crashed (.report _) => .finished
      | ending => ending }

theorem unprinted_report {x : Session} (h : x.ending = .finished) (host : Host) (s : Step) :
    (x.report host s).unprinted = x.unprinted := by
  rcases x.report_cases host s with ⟨-, -, hx⟩ | ⟨-, hx⟩ | ⟨-, hx⟩
  · rw [hx]
    rfl
  · rw [hx, Session.unprinted, Session.unprinted, h]
    rfl
  · rw [hx, Session.unprinted, Session.unprinted, h]
    rfl

theorem unprinted_concluded (host : Host) (w : Location) (setup : LogSetup) (r : Run) :
    (concluded (host.movedTo w) setup r).unprinted = (concluded host setup r).unprinted := by
  unfold concluded
  split
  · rw [unprinted_report rfl, unprinted_report rfl]
  · rfl

theorem calls_generate_movedTo (h : (Path.ofText text).isAbsolute = true) :
    (generate (host.movedTo w) registry setup (.only text)).calls =
      (generate host registry setup (.only text)).calls := by
  rw [generate, generate, GenerateArguments.step_only_movedTo h]
  cases hs : (GenerateArguments.only text).step host with
  | error t => rfl
  | ok s =>
    have hanchored := GenerateArguments.anchored_step_only h hs
    simp only [calls_concluded, Step.calls_generate_movedTo hanchored]

theorem unprinted_generate_movedTo (h : (Path.ofText text).isAbsolute = true)
    (hplaceless : ∀ g, (GenerateArguments.only text).Finds host registry g → g.Placeless) :
    (generate (host.movedTo w) registry setup (.only text)).unprinted =
      (generate host registry setup (.only text)).unprinted := by
  rw [generate, generate, GenerateArguments.step_only_movedTo h]
  cases hs : (GenerateArguments.only text).step host with
  | error t => rfl
  | ok s =>
    have hanchored := GenerateArguments.anchored_step_only h hs
    have hfound : ∀ g, s.findGenerator registry = .ok g → g.Placeless := by
      intro g hg
      exact hplaceless g ⟨s, hs, hg⟩
    simp only [Step.generate_movedTo_of_placeless hanchored hfound, unprinted_concluded]

/-- An absolute path gives the same settings from every working directory, with no path in them that
depends on it. With nothing but such a path the program calls the generator in the same way, and
comes to the same in all but what it prints if the generator does. -/
theorem place_independent (host : Host) (w : Location) :
    (∀ p, p.isAbsolute = true → Settings.load (host.movedTo w) p = Settings.load host p ∧
        ∀ c, Settings.load host p = .ok c → c.Anchored) ∧
      ∀ text, (Path.ofText text).isAbsolute = true →
        parse ["generate", "--config", text] = .ok ⟨false, .generate (.only text)⟩ ∧
          ∀ registry arguments verbose, parse arguments = .ok ⟨verbose, .generate (.only text)⟩ →
            (run (host.movedTo w) registry arguments).calls = (run host registry arguments).calls ∧
              ((∀ g, (GenerateArguments.only text).Finds host registry g → g.Placeless) →
                (run (host.movedTo w) registry arguments).unprinted =
                  (run host registry arguments).unprinted) := by
  constructor
  · intro p hp
    exact ⟨Settings.load_movedTo hp, fun c hc => Settings.load_anchored hc⟩
  · intro text h
    refine ⟨parse_config h, ?_⟩
    intro registry arguments verbose hparse
    rw [run_of_parse hparse, run_of_parse hparse]
    exact ⟨calls_generate_movedTo h, unprinted_generate_movedTo h⟩

section Settled

open SourceSet Step

def settledBytes : List UInt8 :=
  Text.utf8Bytes "srcdir: src\ndestdir: out\ngenerator: gens:silent\n"

def settledHost : Host :=
  { plainHost with tree := plainTree.insert [Settings.fileName] (.file settledBytes) }

def settledArguments : List String := ["generate", "--config", "/.scrtask.yml"]

theorem placeless_silentGenerator : silentGenerator.Placeless := by
  intro request contexts host w
  rfl

theorem place_independent_settled :
    ∃ call, call.request.outputDirectory = .ofText "/out" ∧
      (run settledHost silentRegistry settledArguments).calls = [call] ∧
      (run (settledHost.movedTo [plainDirectory]) silentRegistry settledArguments).calls = [call] ∧
      (run (settledHost.movedTo [plainDirectory]) silentRegistry settledArguments).unprinted =
        (run settledHost silentRegistry settledArguments).unprinted := by
  have habs : (Path.ofText "/.scrtask.yml").isAbsolute = true := by decide
  obtain ⟨-, hprogram⟩ := place_independent settledHost [plainDirectory]
  obtain ⟨hparse, hsame⟩ := hprogram _ habs
  obtain ⟨hcalls, hunprinted⟩ := hsame silentRegistry settledArguments false hparse
  have hout : (run settledHost silentRegistry settledArguments).calls.map
      (fun call => call.request.outputDirectory) = [.ofText "/out"] := by decide +kernel
  obtain ⟨call, hcall, hdirectory⟩ := List.map_eq_singleton_iff.1 hout
  have hfields : ((GenerateArguments.only "/.scrtask.yml").step settledHost).toOption.map
      (fun s => (s.reference, s.generator.isNone)) = some (some "gens:silent", true) := by
    decide +kernel
  refine ⟨call, hdirectory, hcall, hcalls.trans hcall, ?_⟩
  apply hunprinted
  rintro g ⟨s, hs, hg⟩
  rw [hs] at hfields
  obtain ⟨hreference, hunset⟩ := Prod.mk.inj (Option.some.inj hfields)
  have hload : s.findGenerator silentRegistry = .ok silentGenerator := by
    rw [findGenerator, Option.isNone_iff_eq_none.1 hunset, hreference]
    rfl
  obtain rfl := Except.ok.inj (hload.symm.trans hg)
  exact placeless_silentGenerator

end Settled

end ComponentBuild.CommandLine
