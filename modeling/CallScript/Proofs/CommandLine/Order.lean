import CallScript.Proofs.CommandLine.Course
import CallScript.Proofs.Disk.Requests
import CallScript.Proofs.Scenario.Compiling

/-!
# Manifests in order

What a command line leaves behind where every manifest ends without a fault or with one that is
reported.  Looking at files does not change what a still view of the world shows, so a run that
prints leaves it as it was.

Main statement: `CommandLine.run_in_order`, on the status of a run, its output and the world.
-/

namespace CallScript
namespace CommandLine

open Disk

section Looking

/-- Holds of the views of a world that do not change when files are looked at. -/
structure IsStill {σ δ : Type} [Storage (StateM σ)] (view : σ → δ) : Prop where
  read (path : Path) (w : σ) :
    view ((Storage.read path : StateM σ (Except Failure Bytes)).run w).2 = view w
  status (path : Path) (w : σ) :
    view ((Storage.status path : StateM σ (Except Failure (Bool × Bool))).run w).2 = view w

/-- Looking at the files of a tree takes no more than a refusal out of its plan. -/
theorem isStill_tree :
    IsStill fun t : Tree => (t.working, t.nodes) := by
  have hlook : ∀ {α : Type} (path : Path) (act : Tree → Except Failure α) (t : Tree),
      ((Tree.look path act).run t).2 = t.asked := by
    intro α path act t
    rw [Tree.run_look]
    split <;> rfl
  constructor
  · intro path t
    exact (congrArg (fun t : Tree => (t.working, t.nodes)) (hlook path (·.read path) t)).trans rfl
  · intro path t
    exact (congrArg (fun t : Tree => (t.working, t.nodes))
      (hlook path (fun t => (t.nodeAt path).map Tree.statusOf) t)).trans rfl

variable {σ δ : Type} [Storage (StateM σ)] {view : σ → δ}

theorem IsStill.loading
    (h : IsStill view)
    (settings : Settings) (path : Path) (w : σ) :
    view (CommandLine.loading settings path w).2 = view w := by
  exact h.read path w

theorem IsStill.hasFile
    (h : IsStill view)
    (path : Path) (w : σ) :
    view ((Storage.hasFile path : StateM σ (Except Failure Bool)).run w).2 = view w := by
  have hstatus := h.status path w
  rw [Storage.hasFile, run_bind]
  rcases hrun : (Storage.status path : StateM σ (Except Failure (Bool × Bool))).run w with
    ⟨failure | ⟨_, _⟩, after⟩
  all_goals
    rw [hrun] at hstatus
    exact hstatus

theorem IsStill.settings
    (h : IsStill view)
    (environment : List (String × String)) (w : σ) :
    view ((Settings.read [] environment : StateM σ (Except Fault Settings)).run w).2 = view w := by
  have hfile := h.hasFile Settings.filePath w
  rw [Settings.read, run_bind]
  rcases hrun : (Storage.hasFile Settings.filePath : StateM σ (Except Failure Bool)).run w with
    ⟨failure | _ | _, between⟩
  · rw [hrun] at hfile
    exact hfile
  · rw [hrun] at hfile
    exact hfile
  · have hread := h.read Settings.filePath between
    rw [hrun] at hfile
    dsimp only
    rw [run_bind]
    rcases hcontent : (Storage.read Settings.filePath : StateM σ (Except Failure Bytes)).run
      between with ⟨failure | bytes, after⟩
    all_goals
      rw [hcontent] at hread
      exact hread.trans hfile

variable {clock : StateM σ Capture.Clock} {job : Job} {w after : σ}

theorem IsStill.passes
    {path : Path} {s : Scenario}
    (h : IsStill view)
    (hprint : job.print = true)
    (hpasses : Passes clock job path w s after) :
    view after = view w := by
  have hstill := h.loading job.settings path w
  cases hpasses with
  | loaded _ hloading =>
      rw [hloading] at hstill
      exact hstill
  | compiled hwritten =>
      rw [hprint] at hwritten
      cases hwritten

/-- Manifests that are printed leave a still view of the world as it was. -/
theorem IsStill.passAll
    {paths : List Path} {scenarios : List Scenario}
    (h : IsStill view)
    (hprint : job.print = true)
    (hall : PassAll clock job paths w scenarios after) :
    view after = view w := by
  induction hall with
  | nil w =>
      rfl
  | cons hpasses _ ih =>
      exact ih.trans (h.passes hprint hpasses)

theorem IsStill.fails
    {path : Path} {fault : Fault}
    (h : IsStill view)
    (hprint : job.print = true)
    (hfails : Fails clock job path w fault after) :
    view after = view w := by
  have hstill := h.loading job.settings path w
  cases hfails with
  | unloaded hloading =>
      rw [hloading] at hstill
      exact hstill
  | unprinted _ hloading _ =>
      rw [hloading] at hstill
      exact hstill
  | uncompiled hwritten =>
      rw [hprint] at hwritten
      cases hwritten

end Looking

section Commands

variable {σ : Type} [Storage (StateM σ)]

/-- Holds of what a run over some scenarios puts out: what they show, in their order. -/
def Prints (job : Job) (scenarios : List Scenario) (output : Text) : Prop :=
  ∃ texts, scenarios.mapM (shown job) = .ok texts ∧ output = Text.join texts

theorem run_of_choices
    {clock : StateM σ Capture.Clock} {environment : List (String × String)} {words : List String}
    {settings : Settings} {choices : Choices} {threshold : Nat} {w start : σ}
    (hsettings :
      (Settings.read [] environment : StateM σ (Except Fault Settings)).run w =
        (.ok settings, start))
    (hchoices : choose words = .ok choices)
    (hthreshold : thresholdOf settings choices = .ok threshold) :
    (run clock environment words).run w =
      let (report, final) :=
        (processAll clock (choices.job settings) [] [] (choices.job settings).manifests).run start
      ({ report with notices := atLeast threshold report.notices }, final) := by
  rw [run, run_bind, hsettings]
  simp only [runWith, hchoices, hthreshold]
  rfl

/--
**Command lines.**  Where every manifest that a run comes to ends without a fault or with one that
is reported: the run ends with status 0 exactly if all manifests load and, unless they are to be
printed, compile; it leaves the world as they leave it one after the other.  Otherwise it ends with
status 1 and leaves the world as the manifests before the first failing one and then this one leave
it; whatever manifests come after, they make no difference to the world.  The output is what the
manifests before the first failing one show.  A run that prints leaves all still views of the world
as they were.
-/
theorem run_in_order
    {δ : Type} {view : σ → δ} (clock : StateM σ Capture.Clock)
    {environment : List (String × String)} {words : List String}
    {settings : Settings} {choices : Choices} {threshold : Nat} {w start : σ}
    (hsettings :
      (Settings.read [] environment : StateM σ (Except Fault Settings)).run w =
        (.ok settings, start))
    (hchoices : choose words = .ok choices)
    (hthreshold : thresholdOf settings choices = .ok threshold)
    (hends :
      ∀ before path rest scenarios between fault after,
        (choices.job settings).manifests = before ++ path :: rest →
        PassAll clock (choices.job settings) before start scenarios between →
        Fails clock (choices.job settings) path between fault after →
        fault.isReported = true)
    (hview : IsStill view) :
    let job := choices.job settings
    let report := ((run clock environment words).run w).1
    let final := ((run clock environment words).run w).2
    (report.ending = .status 0 ↔
      ∃ scenarios after, PassAll clock job job.manifests start scenarios after) ∧
    (report.ending = .status 0 →
      ∃ scenarios,
        PassAll clock job job.manifests start scenarios final ∧
        Prints job scenarios report.output) ∧
    (report.ending ≠ .status 0 →
      report.ending = .status 1 ∧
      ∃ before path rest scenarios between fault,
        job.manifests = before ++ path :: rest ∧
        PassAll clock job before start scenarios between ∧
        Fails clock job path between fault final ∧
        Prints job scenarios report.output ∧
        ∃ whole, ∀ others,
          (processAll clock job [] [] (before ++ path :: others)).run start = (whole, final)) ∧
    (choices.print = true → view final = view w) := by
  have hstart : view start = view w := by
    rw [← hview.settings environment w, hsettings]
  dsimp only
  rw [run_of_choices hsettings hchoices hthreshold]
  rcases processAll_course clock (choices.job settings) [] [] (choices.job settings).manifests
      start with
    ⟨scenarios, texts, reported, after, hall, htexts, hrun⟩ |
    ⟨before, path, rest, scenarios, texts, reported, between, fault, after, hsplit, hall, hfails,
      htexts, hrun⟩
  · rw [hrun]
    refine ⟨iff_of_true rfl ⟨scenarios, after, hall⟩, fun _ => ⟨scenarios, hall, texts, htexts, rfl⟩,
      fun hnot => absurd rfl hnot, fun hprint => ?_⟩
    exact (hview.passAll hprint hall).trans hstart
  · have hreported := hends before path rest scenarios between fault after hsplit hall hfails
    have hpassing : ¬ ∃ scenarios after,
        PassAll clock (choices.job settings) (choices.job settings).manifests start scenarios
          after := by
      rintro ⟨all, final, hpass⟩
      rw [hsplit] at hpass
      exact hall.not_of_fails hfails hreported hpass
    have hwhole := hrun rest
    rw [← hsplit, if_pos hreported] at hwhole
    have hending : Ending.status 1 ≠ .status 0 := by
      intro h
      cases h
    rw [hwhole]
    dsimp only
    refine ⟨iff_of_false hending hpassing, fun h => absurd h hending, fun _ => ⟨rfl, ?_⟩,
      fun hprint => ?_⟩
    · exact ⟨before, path, rest, scenarios, between, fault, hsplit, hall, hfails,
        ⟨texts, htexts, rfl⟩, _, hrun⟩
    · exact ((hview.fails hprint hfails).trans (hview.passAll hprint hall)).trans hstart

end Commands

section Desks

open Yaml

/-- A text key that is not there yet comes last. -/
theorem put_of_absent
    {rows : Maker.Rows} {t : Text}
    (habsent : rows.places[t]? = none)
    (place : Nat) (member : Member) :
    rows.put ⟨.text t, place⟩ member =
      ⟨rows.rows.push (⟨.text t, place⟩, member), rows.places.insert t rows.rows.size⟩ := by
  simp [Maker.Rows.put, Maker.Rows.find?, habsent]

/-- A manifest without steps. -/
def sheet : String := "\x7bname: c, source: 'a:1', destination: 'b:2'\x7d"

/-- What the manifest without steps says. -/
def sheetEntries : List (Value × Value) :=
  [(.text "name", .text "c"), (.text "source", .text "a:1"), (.text "destination", .text "b:2")]

/-- The nodes of the manifest without steps. -/
def sheetGraph : Graph where
  nodes :=
    #[⟨.map, .mapping [(1, 2), (3, 4), (5, 6)]⟩,
      ⟨.text, .scalar "name"⟩, ⟨.text, .scalar "c"⟩,
      ⟨.text, .scalar "source"⟩, ⟨.text, .scalar "a:1"⟩,
      ⟨.text, .scalar "destination"⟩, ⟨.text, .scalar "b:2"⟩]
  root := 0

/-- The rows of the manifest without steps. -/
def sheetRows : Maker.Rows :=
  ((Maker.Rows.empty.put ⟨.text "name", 1⟩ (.value (.text "c"))).put
    ⟨.text "source", 3⟩ (.value (.text "a:1"))).put
    ⟨.text "destination", 5⟩ (.value (.text "b:2"))

theorem rows_of_sheet :
    sheetRows.rows.toList =
      [(⟨.text "name", 1⟩, .value (.text "c")), (⟨.text "source", 3⟩, .value (.text "a:1")),
        (⟨.text "destination", 5⟩, .value (.text "b:2"))] := by
  have hname : Maker.Rows.empty.places[Text.ofString "name"]? = none := by
    simp [Maker.Rows.empty]
  have hfirst := put_of_absent hname 1 (.value (.text "c"))
  have hsource :
      (Maker.Rows.empty.put ⟨.text "name", 1⟩ (.value (.text "c"))).places[Text.ofString "source"]? =
        none := by
    rw [hfirst, Std.HashMap.getElem?_insert, if_neg (by decide)]
    simp [Maker.Rows.empty]
  have hsecond := put_of_absent hsource 3 (.value (.text "a:1"))
  have hdestination :
      ((Maker.Rows.empty.put ⟨.text "name", 1⟩ (.value (.text "c"))).put
        ⟨.text "source", 3⟩ (.value (.text "a:1"))).places[Text.ofString "destination"]? = none := by
    rw [hsecond, Std.HashMap.getElem?_insert, if_neg (by decide), hfirst,
      Std.HashMap.getElem?_insert, if_neg (by decide)]
    simp [Maker.Rows.empty]
  rw [sheetRows, put_of_absent hdestination, hsecond, hfirst]
  rfl

theorem read_sheet : Yaml.read sheet = .ok (.map sheetEntries) := by
  have hgraph : Graph.ofText? sheet = .ok (some sheetGraph) := by
    have hparts :
        (Graph.ofText? sheet).toOption.map (·.map fun graph => (graph.nodes.toList, graph.root)) =
          some (some (sheetGraph.nodes.toList, sheetGraph.root)) := by
      decide +kernel
    obtain ⟨found, hfound, hgraph⟩ := Result.toOption_map_eq_some hparts
    obtain ⟨⟨⟨nodes⟩, root⟩, rfl, hgraph⟩ := Option.map_eq_some_iff.mp hgraph
    cases hgraph
    exact hfound
  -- Places in a hash map do not compute, so the rows stay as they are put until this is done.
  have hmade : ((Maker.document sheetGraph.root).run
      ⟨sheetGraph.nodes, Array.replicate sheetGraph.nodes.size none, #[], #[]⟩).map
        (fun made => made.2.drafts.valueOf made.1) =
      .ok (Drafts.valueOf
        #[.cell (.map (sheetRows.rows.toList.map fun row => (row.1.value, row.2)))] (.cell 0)) := by
    rfl
  rw [rows_of_sheet] at hmade
  rw [Yaml.read, hgraph]
  exact hmade

/-- A directory with the first one of two manifests in it. -/
def desk : Tree := ⟨[], [(["a.yml"], .file sheet.toUTF8.toList)], []⟩

/-- The choices of a run that prints two manifests. -/
def bothPrinted : Choices := ⟨["a.yml", "b.yml"], none, none, true⟩

theorem settings_of_desk :
    (Settings.read [] [] : StateM Tree (Except Fault Settings)).run desk =
      (.ok .standard, desk) := by
  have hparts : Settings.ofParts [] [] none = .ok .standard := by
    have hsome : (Settings.ofParts [] [] none).toOption.map id = some .standard := by
      decide +kernel
    obtain ⟨_, hread, rfl⟩ := Result.toOption_map_eq_some hsome
    exact hread
  have hfile : (Storage.hasFile Settings.filePath : StateM Tree (Except Failure Bool)).run desk =
      (.ok false, desk) := rfl
  rw [Settings.read, run_bind, hfile]
  exact Prod.ext hparts rfl

/-- The script of the manifest without steps. -/
def emptyScript : Text := "<?xml version=\"1.0\"?>\n<scenario name=\"c\">\n</scenario>\n"

theorem first_of_desk :
    ∃ s, loading .standard ⟨"", ["a.yml"]⟩ desk = (.ok s, desk) ∧ s.document = .ok emptyScript := by
  have hbuilt :
      (Manifest.buildMap sheetEntries (.ok .standard)).result.toOption.map (·.document.toOption) =
        some (some emptyScript) := by
    decide +kernel
  obtain ⟨s, hs, hscript⟩ := Result.toOption_map_eq_some hbuilt
  have hdocument : s.document = .ok emptyScript := by
    cases hresult : s.document with
    | error fault =>
        rw [hresult] at hscript
        cases hscript
    | ok text =>
        rw [hresult] at hscript
        exact congrArg Except.ok (Option.some.inj hscript)
  have hbytes : Text.decode? sheet.toUTF8.toList = some sheet := by decide +kernel
  have hparse : Manifest.parse ⟨"", ["a.yml"]⟩ sheet.toUTF8.toList = .ok sheetEntries := by
    rw [Manifest.parse, hbytes]
    dsimp only
    rw [read_sheet]
    rfl
  have hread : (Storage.read ⟨"", ["a.yml"]⟩ : StateM Tree (Except Failure Bytes)).run desk =
      (.ok sheet.toUTF8.toList, desk) := by
    rfl
  have hload :
      loading .standard ⟨"", ["a.yml"]⟩ desk =
        ((Manifest.buildFile ⟨"", ["a.yml"]⟩ (.ok sheet.toUTF8.toList) (.ok .standard)).result,
          desk) := by
    rw [loading, Manifest.load, run_bind, hread]
    rfl
  refine ⟨s, ?_, hdocument⟩
  rw [hload, Manifest.buildFile, hparse]
  exact congrArg (·, desk) hs

theorem second_of_desk :
    ∃ failure, loading .standard ⟨"", ["b.yml"]⟩ desk =
      (.error (.manifestUnreadable ⟨"", ["b.yml"]⟩ failure), desk) := by
  exact ⟨_, rfl⟩

/-- Where a run over the two manifests fails, the first one has passed and the second one has not
been found. -/
theorem failure_of_desk
    {clock : StateM Tree Capture.Clock} {before rest : List Path} {path : Path}
    {scenarios : List Scenario} {between after : Tree} {fault : Fault}
    (hsplit : (bothPrinted.job .standard).manifests = before ++ path :: rest)
    (hall : PassAll clock (bothPrinted.job .standard) before desk scenarios between)
    (hfails : Fails clock (bothPrinted.job .standard) path between fault after) :
    fault.isReported = true ∧
      scenarios.mapM (shown (bothPrinted.job .standard)) = .ok [emptyScript] := by
  obtain ⟨s, hfirst, hdocument⟩ := first_of_desk
  obtain ⟨failure, hsecond⟩ := second_of_desk
  have hmanifests :
      (bothPrinted.job .standard).manifests = [⟨"", ["a.yml"]⟩, ⟨"", ["b.yml"]⟩] := rfl
  rw [hmanifests] at hsplit
  match before with
  | [] =>
      cases hsplit
      cases hall
      cases hfails with
      | unloaded hloading =>
          cases hfirst.symm.trans hloading
      | unprinted _ hloading hfault =>
          cases hfirst.symm.trans hloading
          cases hdocument.symm.trans hfault
      | uncompiled hwritten =>
          cases hwritten
  | [_] =>
      cases hsplit
      have honly : PassAll clock (bothPrinted.job .standard) [⟨"", ["a.yml"]⟩] desk [s] desk :=
        .cons (.loaded rfl hfirst) (.nil desk)
      obtain ⟨rfl, rfl⟩ := hall.unique honly
      cases hfails with
      | unloaded hloading =>
          cases hsecond.symm.trans hloading
          have hshown : shown (bothPrinted.job .standard) s = .ok emptyScript := hdocument
          refine ⟨rfl, ?_⟩
          rw [List.mapM_cons, hshown]
          rfl
      | unprinted _ hloading _ =>
          cases hsecond.symm.trans hloading
      | uncompiled hwritten =>
          cases hwritten
  | _ :: _ :: _ =>
      simp at hsplit

theorem not_passAll_of_desk
    {clock : StateM Tree Capture.Clock} {scenarios : List Scenario} {after : Tree} :
    ¬ PassAll clock (bothPrinted.job .standard) (bothPrinted.job .standard).manifests desk
      scenarios after := by
  obtain ⟨s, hfirst, -⟩ := first_of_desk
  obtain ⟨failure, hsecond⟩ := second_of_desk
  have hall : PassAll clock (bothPrinted.job .standard) [⟨"", ["a.yml"]⟩] desk [s] desk :=
    .cons (.loaded rfl hfirst) (.nil desk)
  exact hall.not_of_fails (.unloaded hsecond) rfl

/-- What a run that prints the two manifests leaves behind. -/
def deskRun : Report × Tree :=
  (run (pure Compiling.clockAtRest) [] ["--print", "a.yml", "b.yml"] : StateM Tree Report).run desk

/-- A run that prints two manifests and does not find the second one. -/
theorem run_in_order_on_desk :
    deskRun.1.ending = .status 1 ∧
    deskRun.1.output = emptyScript ∧
    deskRun.2.nodes = desk.nodes := by
  have hchoices : choose ["--print", "a.yml", "b.yml"] = .ok bothPrinted := rfl
  have hthreshold : thresholdOf .standard bothPrinted = .ok 20 := rfl
  obtain ⟨-, hpassed, hfailed, hstill⟩ :=
    run_in_order (pure Compiling.clockAtRest) settings_of_desk hchoices hthreshold
      (fun _ _ _ _ _ _ _ hsplit hall hfails => (failure_of_desk hsplit hall hfails).1)
      isStill_tree
  have hending : deskRun.1.ending ≠ .status 0 := by
    intro hzero
    obtain ⟨scenarios, hall, -⟩ := hpassed hzero
    exact not_passAll_of_desk hall
  obtain ⟨hstatus, before, path, rest, scenarios, between, fault, hsplit, hall, hfails,
    ⟨texts, htexts, houtput⟩, -⟩ := hfailed hending
  rw [(failure_of_desk hsplit hall hfails).2] at htexts
  cases htexts
  refine ⟨hstatus, ?_, congrArg Prod.snd (hstill rfl)⟩
  exact houtput.trans (List.append_nil _)

end Desks

end CommandLine
end CallScript
