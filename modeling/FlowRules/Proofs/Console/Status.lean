import FlowRules.Console.Command
import FlowRules.Proofs.Console.Printing
import FlowRules.Proofs.Result
import FlowRules.Proofs.Workflow.Name

/-!
# The exit status of a run

A command line that runs a workflow ends in the status 0 or 1.  Main statement: with a renderer as it is documented it
is 0 just if the run has succeeded and all that it leaves behind can be shown, keys and values (`run_status_iff`).  So a
run that has failed is always told by the status; but a run that has succeeded is not, where the first tag of a key ends
a style (`RunLine.status_unmatched`, `success_unshown`).  The line that announces the run is never in the way, as a name
that a workflow can have holds no tag.
-/

namespace FlowRules

/-! ### What a run leaves behind -/

namespace Surroundings

variable {s : Surroundings}

/-- What a run leaves behind can be shown: each key, and the text of each value, which it has. -/
def IsShown (s : Surroundings) (output : List (String × Value)) : Prop :=
  ∀ e ∈ output, s.render.IsProper e.1 ∧ ∃ text, e.2.display = .ok text ∧ s.render.IsProper text

/-- The row for a value that a run leaves behind. -/
private def outputRow (e : String × Value) : Except Fault (List String) := do return [e.1, ← e.2.display]

private theorem exists_outputRow_iff (e : String × Value) :
    (∃ row, outputRow e = .ok row ∧ ∀ cell ∈ row, s.render.IsProper cell) ↔
      s.render.IsProper e.1 ∧ ∃ text, e.2.display = .ok text ∧ s.render.IsProper text := by
  unfold outputRow
  rcases e.2.display with f | text
  · exact ⟨nofun, nofun⟩
  · constructor
    · rintro ⟨_, ⟨⟩, hrow⟩
      obtain ⟨hkey, htext⟩ := List.forall_mem_cons.1 hrow
      exact ⟨hkey, text, rfl, List.forall_mem_singleton.1 htext⟩
    · rintro ⟨hkey, _, ⟨⟩, htext⟩
      exact ⟨_, rfl, List.forall_mem_cons.2 ⟨hkey, List.forall_mem_singleton.2 htext⟩⟩

private def outputTable (s : Surroundings) (output : List (String × Value)) : Except Fault Table := do
  s.render.table (some "Output values") ["Key", "Value"] (← output.mapM outputRow)

private theorem exists_outputTable_iff (hrender : s.render.Documented) (output : List (String × Value)) :
    (∃ table, s.outputTable output = .ok table) ↔ s.IsShown output := by
  have htitle : ∀ text ∈ some "Output values", s.render.IsProper text := by
    rintro _ ⟨⟩
    exact hrender.unended _ (by decide)
  have hcolumns : ∀ text ∈ ["Key", "Value"], s.render.IsProper text :=
    List.forall_mem_cons.2 ⟨hrender.unended _ (by decide), List.forall_mem_singleton.2 (hrender.unended _ (by decide))⟩
  have htable (rows : List (List String)) :
      (∃ table, s.render.table (some "Output values") ["Key", "Value"] rows = .ok table) ↔
        ∀ row ∈ rows, ∀ text ∈ row, s.render.IsProper text :=
    (hrender.table _ _ rows).trans ⟨fun h => h.2.2, fun h => ⟨htitle, hcolumns, h⟩⟩
  simp only [outputTable, exists_bind_iff, htable]
  rw [IsShown, ← forall₂_congr fun e _ => exists_outputRow_iff e, ← exists_mapM_and_iff]

theorem prints_printOutput (hrender : s.render.Documented) (output : List (String × Value)) :
    Shell.Prints (s.printOutput output) (s.IsShown output) := by
  unfold printOutput
  split
  · next hempty =>
    rw [List.isEmpty_iff.1 hempty]
    exact fun screen => ⟨fun _ => ⟨screen, rfl⟩, fun h => absurd (fun _ => nofun) h⟩
  · next hempty =>
    set sorted := output.mergeSort fun a b => decide (a.1 ≤ b.1) with hsorted
    have hrows : (sorted.mapM fun e => do return [e.1, ← Shell.orEscape e.2.display]) =
        (Shell.orEscape (sorted.mapM outputRow) : Shell _) := by
      rw [Shell.orEscape_mapM]
      congr 1
      funext e
      rw [outputRow, Shell.orEscape_bind]
      rfl
    have hshown : s.IsShown output ↔ s.IsShown sorted := by
      unfold IsShown
      simp only [hsorted, List.mem_mergeSort]
    have hprints := Shell.prints_orEscape (s.outputTable sorted) .table
    rw [outputTable, Shell.orEscape_bind, bind_assoc] at hprints
    rwa [hrows, hshown, ← exists_outputTable_iff hrender]

/-! ### Names that are run -/

/-- The line that announces a run. -/
def announcement (s : Surroundings) (workflow : String) : String :=
  "[bold]Running workflow: " ++ workflow ++ "[/] [dim](execution " ++ LogLine.shortExecution s.executionId ++ ")[/]"

/-- A name that is accepted has no character that a tag could begin with. -/
theorem isPlainText_of_check {name checked : String} (h : WorkflowName.check name = .ok checked) :
    Renderer.IsPlainText name := by
  have hsegment {cs : List Char} (hcs : WorkflowName.IsName cs) : ∀ c ∈ cs, Renderer.IsPlain c := by
    obtain ⟨c, ds, rfl, hc, hds⟩ := hcs.1.chars
    have hplain : ∀ d ∈ c :: ds, WorkflowName.IsPlain d ∨ d = '/' := List.forall_mem_cons.2 ⟨.inl hc, hds⟩
    intro d hd
    constructor
    · rintro rfl
      exact absurd (hplain _ hd) (by unfold WorkflowName.IsPlain; decide)
    · rintro rfl
      exact absurd (hplain _ hd) (by unfold WorkflowName.IsPlain; decide)
  by_cases hlanguage : LanguageAndNewline WorkflowName.maxLength WorkflowName.IsName name
  · rcases hlanguage with ⟨-, -, hname⟩ | ⟨front, rfl, ⟨-, -, hfront⟩, -⟩
    · exact hsegment hname
    · exact Renderer.IsPlainText.append (hsegment hfront) (by decide)
  · obtain ⟨f, hf, -⟩ := (WorkflowName.acceptsJust name).2 hlanguage
    rw [hf] at h
    cases h

/-- The pieces of the line that announces a run. -/
private def announced (name execution : String) : List Renderer.Piece :=
  [.styled "bold" ("Running workflow: " ++ name), .unstyled " ", .styled "dim" ("(execution " ++ execution ++ ")")]

private theorem announced_markup (name execution : String) :
    String.join ((announced name execution).map Renderer.Piece.markup) =
      "[bold]Running workflow: " ++ name ++ "[/] [dim](execution " ++ execution ++ ")[/]" := by
  refine String.toList_inj.1 ?_
  simp [announced, Renderer.Piece.markup]

theorem isProper_announcement (hrender : s.render.Documented) {name checked : String}
    (h : WorkflowName.check name = .ok checked) (hid : Renderer.IsPlainText s.executionId) :
    s.render.IsProper (s.announcement name) := by
  have hshort : Renderer.IsPlainText (LogLine.shortExecution s.executionId) := by
    intro c hc
    rw [LogLine.shortExecution, String.toList_ofList] at hc
    exact hid c (List.mem_of_mem_take hc)
  have hrunning : Renderer.IsPlainText ("Running workflow: " ++ name) :=
    .append (by decide) (isPlainText_of_check h)
  have hbehind : Renderer.IsPlainText ("(execution " ++ LogLine.shortExecution s.executionId ++ ")") :=
    .append (.append (by decide) hshort) (by decide)
  have hpieces : ∀ p ∈ announced name (LogLine.shortExecution s.executionId), p.IsPlain := by
    have hblank : Renderer.IsPlainText " " := by decide
    exact List.forall_mem_cons.2 ⟨⟨by decide, hrunning⟩, List.forall_mem_cons.2 ⟨hblank, List.forall_mem_singleton.2
      ⟨by decide, hbehind⟩⟩⟩
  have hproper := hrender.styled _ hpieces
  rw [announced_markup] at hproper
  exact hproper

end Surroundings

namespace Run

/-- A workflow whose name the repository refuses is not run with success. -/
theorem runNamed_refused (set : Setting) {repository : Repository} {name : String} {f : Fault}
    (hrepository : set.services.repository = some repository) (hfind : repository.find name = .error f) (w : World) :
    ((runNamed set name).run w).1.succeeded = false := by
  have hload : ∃ v, (load set name "Workflow").attempt.run w = (.error f, v) := by
    unfold load
    rw [hrepository]
    dsimp only
    rw [hfind]
    exact ⟨_, rfl⟩
  obtain ⟨v, hload⟩ := hload
  obtain ⟨u, hu⟩ := runNamed_error hload
  rw [hu]
  rfl

end Run

/-! ### Command lines that run a workflow -/

/-- A command line that runs a workflow, with what is read from it and for it before the run begins: the settings and
the screen behind them, the handlers of the plugins, the state and the flow object. -/
structure RunLine (s : Surroundings) (args : List String) where
  general : GeneralOptions
  words : List String
  rest : List String
  settings : Settings
  ready : Screen
  request : RunRequest
  registry : Registry
  loaded : Screen
  state : List (String × Value)
  flow : Value
  opened : Screen
  general_eq : Invocation.readGeneral args = .ok (general, words)
  name_eq : Invocation.readName words = .ok (.run, rest)
  settings_eq : (s.settings general).run {} = (.ok settings, ready)
  request_eq : Invocation.readCommand s.kind .run rest = .ok (.run request)
  registry_eq : (s.loadPlugins (settings.plugins ++ request.plugins)).run ready = (.ok registry, loaded)
  state_eq : StateEntry.readAll request.state = .ok state
  flow_eq : (s.readFlow request.flowObject).run loaded = (.ok flow, opened)

namespace RunLine

variable {s : Surroundings} {args : List String}

def services (line : RunLine s args) : Services where
  registry := line.registry
  repository := some (s.definitions line.settings.workflowsDirectory)
  construct := s.construct

/-- What comes of the run, and the pipeline behind it. -/
def outcome (line : RunLine s args) : RunResult × Pipeline :=
  (Pipeline.start line.services line.flow line.state s.executionId "pipeline" none).act
    (Run.runNamed (Run.setting line.services line.settings.keepsDefinitions false) line.request.workflow)

/-- The result of the run. -/
def result (line : RunLine s args) : RunResult := line.outcome.1

/-- What the command prints of a result last, and how it ends. -/
def verdict (s : Surroundings) (result : RunResult) : Shell Unit :=
  if result.succeeded then Shell.print s.render "[green]✓ Workflow completed successfully[/]"
  else do
    s.printErrors result.errors
    Shell.print s.render "[red]✗ Workflow failed[/]"
    Shell.finish 1

/-- What the command does once the run is over. -/
def closing (line : RunLine s args) : Shell Unit := do
  Shell.log line.outcome.2.world.rows
  s.printOutput line.result.output
  verdict s line.result

theorem report_status (line : RunLine s args) :
    (s.report args).status =
      (Shell.print s.render (s.announcement line.request.workflow) >>= fun _ => line.closing).statusFrom
        line.opened := by
  have hgeneral : (Surroundings.orExplain (Invocation.readGeneral args)).run {} =
      (.ok (line.general, line.words), {}) := by
    rw [line.general_eq]
    rfl
  have hname : (Surroundings.orExplain (Invocation.readName line.words)).run {} = (.ok (.run, line.rest), {}) := by
    rw [line.name_eq]
    rfl
  have hrequest : (Surroundings.orExplain (Invocation.readCommand s.kind .run line.rest)).run line.ready =
      (.ok (.run line.request), line.ready) := by
    rw [line.request_eq]
    rfl
  have hstate : (Surroundings.readState line.request.state).run line.loaded = (.ok line.state, line.loaded) := by
    rw [Surroundings.readState, line.state_eq]
    rfl
  rw [Surroundings.report, Shell.report_status, Surroundings.obey, Shell.statusFrom_bind_ok hgeneral]
  dsimp only
  rw [Shell.statusFrom_bind_ok hname]
  dsimp only
  rw [Shell.statusFrom_bind_ok line.settings_eq, Shell.statusFrom_bind_ok hrequest, Surroundings.perform,
    Surroundings.run, Shell.statusFrom_bind_ok line.registry_eq, Shell.statusFrom_bind_ok hstate,
    Shell.statusFrom_bind_ok line.flow_eq]
  rfl

/-- The last of what is printed can be printed where the run has succeeded; where it has failed it does not matter. -/
theorem verdict_status (hrender : s.render.Documented) (result : RunResult) (screen : Screen) :
    (verdict s result).statusFrom screen = if result.succeeded then 0 else 1 := by
  unfold verdict
  split
  · have hproper : s.render.IsProper "[green]✓ Workflow completed successfully[/]" :=
      hrender.styled [.styled "green" "✓ Workflow completed successfully"]
        (List.forall_mem_singleton.2 ⟨by decide, by decide⟩)
    obtain ⟨after, hrun⟩ := (Shell.prints_print s.render _ screen).1 hproper
    rw [Shell.statusFrom, hrun]
  · have herrors : Shell.Prints (s.printErrors result.errors) _ := Shell.prints_orEscape _ .table
    exact herrors.statusFrom_eq_one ((Shell.prints_print s.render _).statusFrom_eq_one fun _ => rfl) screen

/-- The log of the run goes to the screen first. -/
theorem statusFrom_closing (line : RunLine s args) (screen : Screen) :
    ∃ logged, line.closing.statusFrom screen =
      (s.printOutput line.result.output >>= fun _ => verdict s line.result).statusFrom logged :=
  ⟨{ screen with rows := screen.rows ++ line.outcome.2.world.rows }, Shell.statusFrom_bind_ok rfl⟩

theorem closing_status (line : RunLine s args) (hrender : s.render.Documented) (screen : Screen) :
    (s.IsShown line.result.output → line.closing.statusFrom screen = if line.result.succeeded then 0 else 1) ∧
      (¬s.IsShown line.result.output → line.closing.statusFrom screen = 1) := by
  obtain ⟨logged, hclosing⟩ := line.statusFrom_closing screen
  rw [hclosing]
  obtain ⟨hshown, hnot⟩ := (s.prints_printOutput hrender line.result.output).statusFrom
    (fun _ => verdict s line.result) logged
  refine ⟨fun h => ?_, hnot⟩
  obtain ⟨after, hafter⟩ := hshown h
  rw [hafter, verdict_status hrender]

/-- A run that has failed ends in the status 1, whatever it leaves behind. -/
theorem closing_failed (line : RunLine s args) (hrender : s.render.Documented) (h : line.result.succeeded = false)
    (screen : Screen) : line.closing.statusFrom screen = 1 := by
  have hverdict (screen : Screen) : (verdict s line.result).statusFrom screen = 1 := by
    rw [verdict_status hrender, h]
    rfl
  obtain ⟨logged, hclosing⟩ := line.statusFrom_closing screen
  rw [hclosing]
  exact (s.prints_printOutput hrender line.result.output).statusFrom_eq_one hverdict logged

theorem result_refused (line : RunLine s args) {f : Fault} (h : WorkflowName.check line.request.workflow = .error f) :
    line.result.succeeded = false := by
  have hfind : (s.definitions line.settings.workflowsDirectory).find line.request.workflow = .error f :=
    (FileTree.find_eq _ _).trans (by rw [h]; rfl)
  exact Run.runNamed_refused (Run.setting line.services line.settings.keepsDefinitions false) rfl hfind _

/-- Where all that a run leaves behind can be shown, the status tells how it has ended. -/
theorem status_shown (line : RunLine s args) (hrender : s.render.Documented)
    (hid : Renderer.IsPlainText s.executionId) (h : s.IsShown line.result.output) :
    (s.report args).status = if line.result.succeeded then 0 else 1 := by
  rw [line.report_status]
  rcases hcheck : WorkflowName.check line.request.workflow with f | checked
  · have hfailed : line.result.succeeded = false := line.result_refused hcheck
    rw [hfailed]
    exact (Shell.prints_print s.render _).statusFrom_eq_one (line.closing_failed hrender hfailed) line.opened
  · have hproper := s.isProper_announcement hrender hcheck hid
    obtain ⟨after, hafter⟩ := ((Shell.prints_print s.render _).statusFrom (fun _ => line.closing) line.opened).1 hproper
    rw [hafter]
    exact (line.closing_status hrender after).1 h

/-- Where something that a run leaves behind cannot be shown, the status is 1. -/
theorem status_unshown (line : RunLine s args) (hrender : s.render.Documented) (h : ¬s.IsShown line.result.output) :
    (s.report args).status = 1 := by
  rw [line.report_status]
  exact (Shell.prints_print s.render _).statusFrom_eq_one
    (fun screen => (line.closing_status hrender screen).2 h) line.opened

/-- A key whose first tag ends a style makes the status 1, whatever comes of the run. -/
theorem status_unmatched (line : RunLine s args) (hrender : s.render.Documented) {lead style rest : String} {v : Value}
    (hlead : Renderer.IsPlainText lead) (hstyle : Renderer.IsStyleName style)
    (h : (lead ++ "[/" ++ style ++ "]" ++ rest, v) ∈ line.result.output) : (s.report args).status = 1 :=
  line.status_unshown hrender fun hshown => hrender.unmatched lead style rest hlead hstyle (hshown _ h).1

end RunLine

/-- With a renderer as it is documented the exit status is 0 where the run has succeeded and all that it leaves behind
can be shown, and otherwise 1. -/
theorem run_status_iff {s : Surroundings} {args : List String} (line : RunLine s args) (hrender : s.render.Documented)
    (hid : Renderer.IsPlainText s.executionId) :
    ((s.report args).status = 0 ↔ line.result.succeeded = true ∧ s.IsShown line.result.output) ∧
      ((s.report args).status = 1 ↔ ¬(line.result.succeeded = true ∧ s.IsShown line.result.output)) := by
  by_cases h : s.IsShown line.result.output
  · rw [line.status_shown hrender hid h]
    cases line.result.succeeded <;> simp [h]
  · rw [line.status_unshown hrender h]
    simp [h]

private def shop : Surroundings where
  workingDirectory := "/work"
  files := [(["work", "workflows", "Done.json"], .text (Json.written (.object [])))]
  executionId := "5f2c"
  construct := fun _ _ => .error (.type (.stated "no classes"))

private def shopScreen : Screen :=
  { earlyRows := [Settings.missingFileRow "rule-pipeline.yaml"], log := some {} }

/-- A run of an empty workflow on a state with one entry, which is empty. -/
private def shopLine {entry key : String}
    (hgeneral : Invocation.readGeneral ["run", "Done", "-s", entry] = .ok ({}, ["run", "Done", "-s", entry]))
    (hrequest : Invocation.readCommand shop.kind .run ["Done", "-s", entry] =
      .ok (.run { workflow := "Done", state := [entry] }))
    (hstate : StateEntry.readAll [entry] = .ok [(key, .text "")]) : RunLine shop ["run", "Done", "-s", entry] where
  general := {}
  words := ["run", "Done", "-s", entry]
  rest := ["Done", "-s", entry]
  settings := {}
  ready := shopScreen
  request := { workflow := "Done", state := [entry] }
  registry := {}
  loaded := shopScreen
  state := [(key, .text "")]
  flow := .null
  opened := shopScreen
  general_eq := hgeneral
  name_eq := rfl
  settings_eq := rfl
  request_eq := hrequest
  registry_eq := rfl
  state_eq := hstate
  flow_eq := rfl

private def noteLine : RunLine shop ["run", "Done", "-s", "note="] :=
  shopLine (by decide +kernel) (by decide +kernel) rfl

/-- A key without tags. -/
theorem run_status_iff_note :
    shop.render.Documented ∧ Renderer.IsPlainText shop.executionId ∧
      (shop.report ["run", "Done", "-s", "note="]).status = 0 := by
  have hrender : shop.render.Documented := Renderer.standard_documented
  have hid : Renderer.IsPlainText shop.executionId := by decide
  have hshown : shop.IsShown [("note", .text "")] :=
    List.forall_mem_singleton.2 ⟨hrender.unended _ (by decide), "''", rfl, hrender.unended _ (by decide)⟩
  exact ⟨hrender, hid, (run_status_iff noteLine hrender hid).1.2 ⟨rfl, hshown⟩⟩

private def tagLine : RunLine shop ["run", "Done", "-s", "[/x]="] :=
  shopLine (by decide +kernel) (by decide +kernel) rfl

/-- A key that is the text of a tag: the run succeeds, and the status is 1. -/
theorem success_unshown :
    ∃ line : RunLine shop ["run", "Done", "-s", "[/x]="],
      line.result.succeeded = true ∧ (shop.report ["run", "Done", "-s", "[/x]="]).status = 1 := by
  have houtput : ("" ++ "[/" ++ "x" ++ "]" ++ "", Value.text "") ∈ tagLine.result.output :=
    List.mem_singleton.2 rfl
  exact ⟨tagLine, rfl, tagLine.status_unmatched Renderer.standard_documented (by decide) (by decide) houtput⟩

end FlowRules
