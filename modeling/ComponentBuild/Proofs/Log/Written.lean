import ComponentBuild.Log.Setup
import ComponentBuild.Proofs.Tree.Appended

/-!
What comes of messages. A set-up of the log puts one console and at most one file in the place of all
that was there before. From then on each message that the levels of the logger and of the set-up let
through is written once to either of them, and nothing else is written anywhere.
-/

namespace ComponentBuild

namespace TaskLog

inductive Message
  | debug (text : String) (cause : Option Thrown)
  | info (text : String) (cause : Option Thrown)
  | warn (text : String) (location : Option String) (line : Int) (cause : Option Thrown)
  | error (text : String) (location : Option String) (line : Int) (cause : Option Thrown)

def record (log : TaskLog) : Message → LogRecord
  | .debug text cause => log.debug text cause
  | .info text cause => log.info text cause
  | .warn text location line cause => log.warn text location line cause
  | .error text location line cause => log.error text location line cause

theorem logger_record (log : TaskLog) (m : Message) : (log.record m).logger = log.logger := by
  cases m <;> rfl

structure IsUnderTop (log : TaskLog) : Prop where
  named : ∃ part, log.logger = loggerName part
  below : LogSetup.isBelowTop log.logger = true

theorem isUnderTop_of_part {part : String} (h : part.toList.head? ≠ some '.') :
    IsUnderTop ⟨loggerName (some part)⟩ where
  named := ⟨some part, rfl⟩
  below := by
    by_cases hempty : part = ""
    · subst hempty
      rfl
    · have hname : (loggerName (some part)).toList =
          (loggerName none).toList ++ '.' :: part.toList := by
        dsimp only [loggerName]
        rw [if_neg hempty]
        exact String.toList_append
      have hdots : part.toList.takeWhile (· == '.') = [] := by
        cases hp : part.toList with
        | nil => rfl
        | cons c cs =>
          have hc : c ≠ '.' := by simpa [hp] using h
          simp [hc]
      rw [LogSetup.isBelowTop, hname, ← String.length_toList, List.drop_left,
        List.takeWhile_cons_of_pos rfl, hdots]
      rfl

end TaskLog

inductive LogEvent
  | level (level : Level)
  | message (stamp : String) (log : TaskLog) (m : TaskLog.Message)

structure LogPhase where
  verbose : Bool
  file : Option Path
  events : List LogEvent

structure LogState where
  host : Host
  setup : LogSetup
  output : LogOutput

namespace LogState

def around (x : LogState) : Host := { x.host with tree := x.output.tree }

def setUp (x : LogState) (verbose : Bool) (file : Option Path) : LogState :=
  match LogSetup.configure x.around verbose file with
  | (setup, .ok tree) => { x with setup := setup, output := { x.output with tree := tree } }
  | (setup, .error _) => { x with setup := setup }

def next (x : LogState) : LogEvent → LogState
  | .level level =>
    match x.setup.setLevel level.text with
    | .ok setup => { x with setup := setup }
    | .error _ => x
  | .message stamp log m => { x with output := x.output.write x.setup stamp (log.record m) }

def after (x : LogState) (events : List LogEvent) : LogState := events.foldl next x

def phase (x : LogState) (p : LogPhase) : LogState := (x.setUp p.verbose p.file).after p.events

def session (x : LogState) (ps : List LogPhase) : LogState := ps.foldl phase x

def logFile (x : LogState) (verbose : Bool) (file : Option Path) : Option Path :=
  match (LogSetup.configure x.around verbose file).2 with
  | .ok _ => file.map fun p => (x.around.absolute p).normalized
  | .error _ => none

end LogState

/-- The messages whose level reaches that of the last set-up and that of the top logger, which is
`current` at first. -/
def due (threshold : Level) : Level → List LogEvent → List (String × LogRecord)
  | _, [] => []
  | _, .level level :: events => due threshold level events
  | current, .message stamp log m :: events =>
    let r := log.record m
    (if current.number ≤ r.level.number ∧ threshold.number ≤ r.level.number then [(stamp, r)]
      else []) ++ due threshold current events

/-- What a log file gets of messages: the lines that there are bytes for in UTF-8. -/
def fileBytes (lines : List (String × LogRecord)) : List UInt8 :=
  (lines.filter fun l => Text.fitsUtf8 (LogSetup.fileText l.1 l.2)).flatMap fun l =>
    Text.utf8Bytes (LogSetup.fileText l.1 l.2)

/-- The second output is the first with the lines of these messages, at the end of the console and of
the log file if there is one, and is the same in all else. -/
structure Written (x y : LogOutput) (file : Option Path) (lines : List (String × LogRecord)) :
    Prop where
  console : y.console = x.console ++ String.join (lines.map fun l => LogSetup.consoleText l.2)
  records : y.records = x.records
  named : ∀ p, file = some p → ∃ out, x.tree.GrownAt y.tree p out (fileBytes lines)
  unnamed : file = none → y.tree = x.tree

theorem fileBytes_concat (lines : List (String × LogRecord)) (stamp : String) (r : LogRecord) :
    fileBytes (lines ++ [(stamp, r)]) = fileBytes lines ++
      if Text.fitsUtf8 (LogSetup.fileText stamp r) then
        Text.utf8Bytes (LogSetup.fileText stamp r)
      else [] := by
  rw [fileBytes, List.filter_append, List.flatMap_append, fileBytes]
  by_cases hfits : Text.fitsUtf8 (LogSetup.fileText stamp r) = true
  · rw [if_pos hfits, List.filter_cons_of_pos (by exact hfits), List.filter_nil,
      List.flatMap_singleton]
  · rw [if_neg hfits, List.filter_cons_of_neg (by exact hfits), List.filter_nil, List.flatMap_nil]

theorem grownAt_put_file {y : LogOutput} {t : Tree} {p : Path} {out : Location}
    {lines : List (String × LogRecord)} (h : t.GrownAt y.tree p out (fileBytes lines))
    (stamp : String) (r : LogRecord) :
    ∃ tree, y.put stamp r (.file p) = { y with tree := tree } ∧
      t.GrownAt tree p out (fileBytes (lines ++ [(stamp, r)])) := by
  rw [fileBytes_concat]
  by_cases hfits : Text.fitsUtf8 (LogSetup.fileText stamp r) = true
  · obtain ⟨tree, ha, hgrown⟩ := h.append (Text.utf8Bytes (LogSetup.fileText stamp r))
    refine ⟨tree, ?_, ?_⟩
    · simp [LogOutput.put, hfits, ha]
    · rw [if_pos hfits]
      exact hgrown
  · refine ⟨y.tree, ?_, ?_⟩
    · simp [LogOutput.put, hfits]
    · rw [if_neg hfits, List.append_nil]
      exact h

theorem Written.put {x y : LogOutput} {file : Option Path} {lines : List (String × LogRecord)}
    (h : Written x y file lines) (stamp : String) (r : LogRecord) :
    Written x ((.console :: (file.map Sink.file).toList).foldl (fun out sink => out.put stamp r sink) y)
      file (lines ++ [(stamp, r)]) := by
  have hconsole : y.console ++ LogSetup.consoleText r = x.console ++
      String.join ((lines ++ [(stamp, r)]).map fun l => LogSetup.consoleText l.2) := by
    rw [h.console, List.map_append, String.join_append, ← String.append_assoc]
    simp
  cases file with
  | none => exact ⟨hconsole, h.records, nofun, h.unnamed⟩
  | some p =>
    obtain ⟨out, hgrown⟩ := h.named p rfl
    have hgrown' : x.tree.GrownAt (y.put stamp r .console).tree p out (fileBytes lines) := hgrown
    obtain ⟨tree, hput, hgrown''⟩ := grownAt_put_file hgrown' stamp r
    have hsinks : (Sink.console :: ((some p).map Sink.file).toList).foldl
        (fun out sink => out.put stamp r sink) y = (y.put stamp r .console).put stamp r (.file p) := rfl
    rw [hsinks, hput]
    refine ⟨hconsole, h.records, ?_, nofun⟩
    intro q hq
    obtain rfl := Option.some.inj hq
    exact ⟨out, hgrown''⟩

section Receivers

variable {threshold current level : Level} {file : Option Path} {logger : String}

def handlersOf (threshold : Level) (file : Option Path) : List Handler :=
  ⟨.console, threshold.number⟩ :: (file.map fun p => ⟨.file p, threshold.number⟩).toList

theorem setLevel_text (setup : LogSetup) (level : Level) :
    setup.setLevel level.text = .ok { setup with level := level.number } := by
  cases level <;> rfl

theorem isEnabledFor_iff {handlers : List Handler} (h : LogSetup.isBelowTop logger = true) :
    (LogSetup.mk current.number handlers).isEnabledFor logger level = true ↔
      current.number ≤ level.number := by
  have hpos : current.number ≠ 0 := by cases current <;> decide
  simp [LogSetup.isEnabledFor, LogSetup.effectiveLevel, h, hpos]

theorem receivers_eq (h : LogSetup.isBelowTop logger = true) :
    (LogSetup.mk current.number (handlersOf threshold file)).receivers logger level =
      if current.number ≤ level.number ∧ threshold.number ≤ level.number then
        .console :: (file.map Sink.file).toList
      else [] := by
  rw [LogSetup.receivers]
  by_cases hc : current.number ≤ level.number
  · rw [if_pos ((isEnabledFor_iff h).2 hc)]
    by_cases ht : threshold.number ≤ level.number
    · rw [if_pos ⟨hc, ht⟩]
      cases file <;> simp [handlersOf, ht]
    · rw [if_neg fun hboth => ht hboth.2]
      cases file <;> simp [handlersOf, ht]
  · rw [if_neg (mt (isEnabledFor_iff h).1 hc), if_neg fun hboth => hc hboth.1]

end Receivers

structure Follows (x : LogOutput) (file : Option Path) (threshold current : Level)
    (lines : List (String × LogRecord)) (y : LogState) : Prop where
  setup : y.setup = ⟨current.number, handlersOf threshold file⟩
  written : Written x y.output file lines

section Follows

variable {x : LogOutput} {y : LogState} {file : Option Path} {threshold current : Level}
  {lines : List (String × LogRecord)}

theorem configure_of_opened {host : Host} {p : Path} {tree : Tree} (verbose : Bool)
    (h : host.tree.append [] (host.absolute p).normalized [] = .ok tree) :
    LogSetup.configure host verbose (some p) =
      (⟨(LogSetup.levelOf verbose).number,
        handlersOf (LogSetup.levelOf verbose) (some (host.absolute p).normalized)⟩, .ok tree) := by
  simp only [LogSetup.configure, h]
  rfl

theorem configure_of_refused {host : Host} {p : Path} {e : FileError} (verbose : Bool)
    (h : host.tree.append [] (host.absolute p).normalized [] = .error e) :
    LogSetup.configure host verbose (some p) =
      (⟨(LogSetup.levelOf verbose).number, handlersOf (LogSetup.levelOf verbose) none⟩,
        .error e) := by
  simp only [LogSetup.configure, h]
  rfl

theorem follows_setUp (y : LogState) (verbose : Bool) (file : Option Path) :
    Follows y.output (y.logFile verbose file) (LogSetup.levelOf verbose)
      (LogSetup.levelOf verbose) [] (y.setUp verbose file) := by
  have hnothing : y.output.console = y.output.console ++ "" := String.append_empty.symm
  cases file with
  | none => exact ⟨rfl, hnothing, rfl, nofun, fun _ => rfl⟩
  | some p =>
    cases ha : y.around.tree.append [] (y.around.absolute p).normalized [] with
    | error e =>
      rw [LogState.logFile, LogState.setUp, configure_of_refused verbose ha]
      exact ⟨rfl, hnothing, rfl, nofun, fun _ => rfl⟩
    | ok tree =>
      rw [LogState.logFile, LogState.setUp, configure_of_opened verbose ha]
      refine ⟨rfl, hnothing, rfl, ?_, nofun⟩
      intro q hq
      obtain rfl := Option.some.inj hq
      exact Tree.grownAt_of_append ha

theorem Follows.level (h : Follows x file threshold current lines y) (level : Level) :
    Follows x file threshold level lines (y.next (.level level)) := by
  have hnext : y.next (.level level) = { y with setup := ⟨level.number, y.setup.handlers⟩ } := by
    rw [LogState.next, setLevel_text]
  rw [hnext]
  refine ⟨?_, h.written⟩
  rw [h.setup]

theorem Follows.message (h : Follows x file threshold current lines y) {log : TaskLog}
    (hlog : log.IsUnderTop) (stamp : String) (m : TaskLog.Message) :
    Follows x file threshold current (lines ++ due threshold current [.message stamp log m])
      (y.next (.message stamp log m)) := by
  have hbelow : LogSetup.isBelowTop (log.record m).logger = true := by
    rw [log.logger_record, hlog.below]
  refine ⟨h.setup, ?_⟩
  rw [LogState.next, LogOutput.write, if_pos hbelow, h.setup, receivers_eq hbelow, due, due,
    List.append_nil]
  split
  · exact h.written.put stamp _
  · rw [List.append_nil]
    exact h.written

theorem Follows.after (h : Follows x file threshold current lines y) {events : List LogEvent}
    (hlogs : ∀ stamp log m, .message stamp log m ∈ events → TaskLog.IsUnderTop log) :
    ∃ level, Follows x file threshold level (lines ++ due threshold current events)
      (y.after events) := by
  induction events generalizing y current lines with
  | nil =>
    refine ⟨current, ?_⟩
    rw [due, List.append_nil]
    exact h
  | cons e events ih =>
    have hlater : ∀ stamp log m, .message stamp log m ∈ events → TaskLog.IsUnderTop log := by
      intro stamp log m he
      exact hlogs stamp log m (List.mem_cons_of_mem _ he)
    cases e with
    | level level => exact ih (h.level level) hlater
    | message stamp log m =>
      have hlog := hlogs stamp log m List.mem_cons_self
      have hrest := ih (h.message hlog stamp m) hlater
      rw [due, due, List.append_nil, List.append_assoc] at hrest
      exact hrest

end Follows

/-- However often the log has been set up before, and whatever has been written: between a set-up and
the next, the console and the log file of the set-up get the line of each message that is due, once
and in order, and no other file gets anything. A set-up whose file cannot be opened has no log file,
and a log file does not get lines that are not to be had in UTF-8. -/
theorem written_once (x : LogState) (earlier : List LogPhase) (p : LogPhase)
    (hlogs : ∀ stamp log m, .message stamp log m ∈ p.events → TaskLog.IsUnderTop log) :
    Written (x.session earlier).output (x.session (earlier ++ [p])).output
      ((x.session earlier).logFile p.verbose p.file)
      (due (LogSetup.levelOf p.verbose) (LogSetup.levelOf p.verbose) p.events) := by
  have hsession : x.session (earlier ++ [p]) = (x.session earlier).phase p := by
    rw [LogState.session, LogState.session, List.foldl_append]
    rfl
  obtain ⟨level, hfollows⟩ :=
    (follows_setUp (x.session earlier) p.verbose p.file).after hlogs
  rw [hsession]
  exact hfollows.written

section Replaced

def firstName : Name := ⟨"first.log", by decide⟩

def secondName : Name := ⟨"second.log", by decide⟩

def emptyLog : LogState :=
  ⟨⟨.empty, [], ⟨.ofLocation [], []⟩, [], fun _ => true⟩, ⟨0, []⟩, ⟨"", [], .empty⟩⟩

def taskLog : TaskLog := ⟨loggerName (some "task")⟩

def firstPhase : LogPhase :=
  ⟨true, some ⟨.relative, [.entry firstName]⟩, [.message "1 " taskLog (.debug "shown" none)]⟩

def secondPhase : LogPhase :=
  ⟨false, some ⟨.relative, [.entry secondName]⟩,
    [.level .debug, .message "2 " taskLog (.debug "hidden" none),
      .message "3 " taskLog (.info "shown" none), .level .error,
      .message "4 " taskLog (.info "hidden" none),
      .message "5 " .default (.error "shown" (some "A.java") 3 none)]⟩

theorem written_once_replaced :
    (∀ stamp log m, .message stamp log m ∈ secondPhase.events → TaskLog.IsUnderTop log) ∧
      Written (emptyLog.session [firstPhase]).output
        (emptyLog.session [firstPhase, secondPhase]).output (some (.ofLocation [secondName]))
        [("3 ", ⟨.info, "scrtask.task", "shown", none⟩),
          ("5 ", ⟨.error, "scrtask.generator", "A.java [3]: shown", none⟩)] := by
  have htask : taskLog.IsUnderTop := TaskLog.isUnderTop_of_part (by decide)
  have hdefault : TaskLog.default.IsUnderTop := TaskLog.isUnderTop_of_part (by decide)
  have hlogs : ∀ stamp log m, .message stamp log m ∈ secondPhase.events →
      TaskLog.IsUnderTop log := by
    intro stamp log m h
    simp only [secondPhase, List.mem_cons, LogEvent.message.injEq, reduceCtorEq, false_or,
      List.not_mem_nil, or_false] at h
    rcases h with ⟨-, rfl, -⟩ | ⟨-, rfl, -⟩ | ⟨-, rfl, -⟩ | ⟨-, rfl, -⟩
    · exact htask
    · exact htask
    · exact htask
    · exact hdefault
  exact ⟨hlogs, written_once emptyLog [firstPhase] secondPhase hlogs⟩

def warned (text : String) : TaskLog.Message := .warn text none 0 none

def lostPhase : LogPhase :=
  ⟨false, some ⟨.relative, [.entry secondName, .entry firstName]⟩,
    [.message "1 " taskLog (warned "shown")]⟩

def halfPhase : LogPhase :=
  ⟨false, some ⟨.relative, [.entry firstName]⟩,
    [.message "1 " taskLog (warned (String.singleton (Text.ofCodePoint 0xD800)))]⟩

/-- Messages that are due and on the console, but not in the file that is named: its directory is not
there, or the message is half of a surrogate pair. -/
theorem unwritten_line :
    due .info .info lostPhase.events = [("1 ", ⟨.warning, "scrtask.task", "shown", none⟩)] ∧
      (emptyLog.session [lostPhase]).output.console = "[scrtask] WARNING shown\n" ∧
      (emptyLog.session [lostPhase]).output.tree.entries = [] ∧
      (due .info .info halfPhase.events).length = 1 ∧
      (emptyLog.session [halfPhase]).output.console =
        "[scrtask] WARNING " ++ String.singleton (Text.ofCodePoint 0xD800) ++ "\n" ∧
      (emptyLog.session [halfPhase]).output.tree.node? [firstName] = some (.file []) := by
  refine ⟨?_, ?_, ?_, ?_, ?_, ?_⟩
  · rfl
  · decide +kernel
  · decide +kernel
  · rfl
  · decide +kernel
  · decide +kernel

end Replaced

end ComponentBuild
