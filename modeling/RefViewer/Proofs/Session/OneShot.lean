import RefViewer.Program
import RefViewer.Proofs.Engine.Reuse
import RefViewer.Proofs.Viewer.Display

/-!
# One query and its answer

A run with a query on the command line. The query is held until the worker has the dataset,
and the worker answers the two requests in turn. `start_answers`: the program prints the first
batch of what an engine gives for this query and the counts of all of it, or fails as the
engine does.
-/

namespace RefViewer

-- ---------------------------------------------------------------------------
-- What a sheet shows of a result
-- ---------------------------------------------------------------------------

/-- The lines of a new result, of which only the first entries are shown. -/
def shownLines (first : Nat) (results : List Entry) : List String :=
  "" :: if results = [] then ["No results found. Try adjusting your query."]
    else (results.take first).map Card.text ++
      if first < results.length then
        ["-- " ++ ("Showing " ++ toString first ++ " of " ++ toString results.length ++
          " results. Scroll to load more...") ++ " (:more) --"]
      else []

namespace TextSheet

variable {sheet : TextSheet}

theorem writeLine_eq (hw : sheet.writable = true) (line : String) :
    sheet.writeLine line = ⟨true, sheet.lines ++ [line]⟩ := by
  simp [writeLine, hw]

theorem append_eq (hw : sheet.writable = true) (entries : List Entry) :
    Target.append entries sheet = ⟨true, sheet.lines ++ entries.map Card.text⟩ := by
  have happend : Target.append entries sheet =
      entries.foldl (fun sheet entry => sheet.writeLine (Card.text entry)) sheet := rfl
  rw [happend]
  induction entries generalizing sheet with
  | nil =>
    obtain ⟨writable, lines⟩ := sheet
    obtain rfl : writable = true := hw
    simp
  | cons entry rest ih =>
    rw [List.foldl_cons, writeLine_eq hw, ih rfl rfl]
    simp

theorem showProgress_eq (hw : sheet.writable = true) (rendered total : Nat) :
    Target.showProgress rendered total sheet =
      ⟨true, sheet.lines ++ if rendered < total then
        ["-- " ++ ("Showing " ++ toString rendered ++ " of " ++ toString total ++
          " results. Scroll to load more...") ++ " (:more) --"] else []⟩ := by
  have hprogress : Target.showProgress rendered total sheet =
      if rendered < total then
        sheet.writeLine ("-- " ++ progressText rendered total ++ " (:more) --")
      else sheet := rfl
  rw [hprogress]
  split
  · exact writeLine_eq hw _
  · obtain ⟨writable, lines⟩ := sheet
    obtain rfl : writable = true := hw
    simp

theorem present_eq (hw : sheet.writable = true) (renderer : Renderer) (results : List Entry) :
    (renderer.present results sheet).2.2 =
      ⟨true, sheet.lines ++ shownLines renderer.batchSize results⟩ := by
  have hclear : Target.clear sheet = (⟨true, sheet.lines ++ [""]⟩ : TextSheet) :=
    writeLine_eq hw ""
  unfold Renderer.present
  simp only
  split
  · next hn =>
    have hnone : Target.showNoResults (Target.clear sheet) =
        (Target.clear sheet).writeLine noResultsText := rfl
    rw [hnone, hclear, writeLine_eq rfl]
    simp [shownLines, hn, noResultsText]
  · next hn =>
    have hlength : 0 < (renderer.setResults results).total := List.length_pos_iff.mpr hn
    rcases (renderer.setResults results).renderNext_cases (Target.clear sheet) with
      ⟨hnone | hnone, -⟩ | ⟨-, -, he⟩
    · cases hnone
    · exact absurd hlength (Nat.not_lt.mpr hnone)
    · have hupcoming : (renderer.setResults results).upcoming =
          results.take renderer.batchSize := by
        simp [Renderer.upcoming, Renderer.advanced, Renderer.setResults, Renderer.total]
      have hrendered : (renderer.setResults results).advanced.rendered =
          min renderer.batchSize results.length := by
        simp [Renderer.advanced, Renderer.setResults, Renderer.total]
      have htotal : (renderer.setResults results).total = results.length := rfl
      rw [he, hclear, append_eq rfl, hupcoming, hrendered, htotal, showProgress_eq rfl]
      by_cases hmore : renderer.batchSize < results.length
      · simp [shownLines, hn, hmore, Nat.min_eq_left (Nat.le_of_lt hmore)]
      · simp [shownLines, hn, hmore, Nat.min_eq_right (Nat.not_lt.mp hmore)]

end TextSheet

-- ---------------------------------------------------------------------------
-- The two answers
-- ---------------------------------------------------------------------------

namespace Session

def asked? (session : Session) : Option Request :=
  (session.worker.take session.viewer.channel.link).1.handling

def askedFor : Nat → Session → List Request
  | 0, _ => []
  | count + 1, session =>
    match session.answer? with
    | some (true, next) => session.asked?.toList ++ next.askedFor count
    | _ => []

def opened (session : Session) (dataset : Dataset) (query : String) : Session :=
  let (_, viewer) := session.viewer.setQuery query
  let (_, viewer) := viewer.load dataset
  { session with viewer }

/-- An idle worker answers the only request on the link, and the viewer hears it. -/
theorem answer?_eq {session : Session} (hh : session.worker.handling = none)
    (hl : session.viewer.channel.link = ⟨[request], true, [], true⟩) :
    session.asked? = some request ∧
    session.answer? = some (true, { session with
      worker := ⟨(session.worker.engine.handle request).2, none⟩
      viewer := session.viewer.followAndStart
        [Channel.eventOf (session.worker.engine.handle request).1]
        { session.viewer.channel with state := .ready, link := .new } }) := by
  have htake : session.worker.take session.viewer.channel.link =
      ({ session.worker with handling := some request }, .new) := by
    simp [Worker.take, hh, hl, Link.take?, Link.new]
  refine ⟨by simp [asked?, htake], ?_⟩
  simp [answer?, Worker.work, htake, Worker.answer, Link.answer?, Link.new, Viewer.wait?,
    Channel.wait?, Link.receive, Channel.dispatch]
  rfl

variable {session : Session} {settings : Settings} (dataset : Dataset) (query : String)

theorem opened_answer (created : Session.new settings = .ok session) :
    ∃ middle, (session.opened dataset query).asked? = some (.init dataset) ∧
      (session.opened dataset query).answer? = some (true, middle) ∧
      middle.worker = ⟨(Engine.new settings.queryCacheCapacity).load dataset, none⟩ ∧
      middle.viewer.channel.link = ⟨[.filter query], true, [], true⟩ ∧
      middle.viewer.view =
        .new (.new settings.batchSize settings.scrollThreshold) TextSheet.empty := by
  have hopened : (session.opened dataset query).worker.handling = none ∧
      (session.opened dataset query).viewer.channel.link = ⟨[.init dataset], true, [], true⟩ := by
    cases created
    exact ⟨rfl, rfl⟩
  obtain ⟨hasked, hanswer⟩ := answer?_eq hopened.1 hopened.2
  refine ⟨_, hasked, hanswer, ?_, ?_, ?_⟩
  · cases created
    rfl
  · cases created
    rfl
  · cases created
    rfl

theorem middle_answer {middle : Session} {engine : Engine}
    (hw : middle.worker = ⟨engine, none⟩)
    (hl : middle.viewer.channel.link = ⟨[.filter query], true, [], true⟩) :
    ∃ last, middle.asked? = some (.filter query) ∧ middle.answer? = some (true, last) ∧
      last.viewer.channel.link = .new ∧
      last.viewer.view =
        middle.viewer.view.hear (Channel.eventOf (engine.handle (.filter query)).1) := by
  obtain ⟨hasked, hanswer⟩ := answer?_eq (by rw [hw]) hl
  refine ⟨_, hasked, hanswer, ?_, ?_⟩
  · simp only [hw, Engine.handle_filter]
    cases (engine.filter query).1 <;> rfl
  · simp only [hw, Engine.handle_filter]
    cases (engine.filter query).1 <;> rfl

theorem oneShot_eq (created : Session.new settings = .ok session) :
    ∃ last : Session, (session.opened dataset query).askedFor 2 = [.init dataset, .filter query] ∧
      last.viewer.channel.link = .new ∧
      last.viewer.view =
        (View.new (.new settings.batchSize settings.scrollThreshold) TextSheet.empty).hear
          (Channel.eventOf (((Engine.new settings.queryCacheCapacity).load dataset).handle
            (.filter query)).1) ∧
      (∀ error, last.viewer.view.error = some error →
        session.oneShot dataset query = last.fail (.query error none)) ∧
      (last.viewer.view.error = none → session.oneShot dataset query =
        { last.say last.viewer.view.stats.text with outcome := some (.ok ()) }) := by
  obtain ⟨middle, hfirst, hloaded, hworker, hlink, hview⟩ := opened_answer dataset query created
  obtain ⟨last, hsecond, hfiltered, hdone, hshown⟩ := middle_answer query hworker hlink
  have hawait : (session.opened dataset query).awaitAnswers 2 = some last := by
    simp [awaitAnswers, hloaded, hfiltered]
  simp only [opened] at hawait
  refine ⟨last, ?_, hdone, hview ▸ hshown, fun error he => ?_, fun he => ?_⟩
  · simp [askedFor, hloaded, hfiltered, hfirst, hsecond]
  · simp [oneShot, hawait, he]
  · simp [oneShot, hawait, he]

theorem oneShot_asks (created : Session.new settings = .ok session) :
    (session.opened dataset query).askedFor 2 = [.init dataset, .filter query] ∧
      (session.oneShot dataset query).viewer.channel.link = .new := by
  obtain ⟨last, hasked, hdone, -, hfail, hend⟩ := oneShot_eq dataset query created
  refine ⟨hasked, ?_⟩
  cases he : last.viewer.view.error with
  | none =>
    rw [hend he]
    exact hdone
  | some error =>
    rw [hfail error he]
    exact hdone

theorem filter_new {engine : Engine} (held : engine.Holds (some dataset)) (capacity : Nat) :
    (((Engine.new capacity).load dataset).filter query).1 = (engine.filter query).1 := by
  rw [held.filter_result, ((Engine.Holds.new capacity).load dataset).filter_result]

theorem oneShot_results {engine : Engine} (created : Session.new settings = .ok session)
    (held : engine.Holds (some dataset)) (hr : (engine.filter query).1 = .ok results) :
    (session.oneShot dataset query).outcome = some (.ok ()) ∧
      (session.oneShot dataset query).sheet.lines =
        shownLines (max settings.batchSize 1) results ++ [(Stats.ofEntries results).text] := by
  obtain ⟨last, -, -, hview, -, hend⟩ := oneShot_eq dataset query created
  rw [Engine.handle_filter, filter_new dataset query held, hr] at hview
  have hempty : TextSheet.empty.writable = true := rfl
  have hpresent := TextSheet.present_eq hempty (.new settings.batchSize settings.scrollThreshold)
    results
  have htarget : last.viewer.view.target =
      ⟨true, shownLines (max settings.batchSize 1) results⟩ := by
    rw [hview]
    exact hpresent
  have herror : last.viewer.view.error = none := by rw [hview]; rfl
  have hstats : last.viewer.view.stats = .ofEntries results := by rw [hview]; rfl
  rw [hend herror, hstats]
  refine ⟨rfl, ?_⟩
  simp [say, sheet, htarget, TextSheet.writeLine]

theorem oneShot_failure {engine : Engine} {failure : Failure}
    (created : Session.new settings = .ok session)
    (held : engine.Holds (some dataset)) (hr : (engine.filter query).1 = .error failure) :
    (session.oneShot dataset query).outcome =
        some (.error (.query ("Query error: " ++ failure.text) none)) ∧
      (session.oneShot dataset query).sheet.lines =
        ["", "No results found. Try adjusting your query."] := by
  obtain ⟨last, -, -, hview, hfail, -⟩ := oneShot_eq dataset query created
  rw [Engine.handle_filter, filter_new dataset query held, hr] at hview
  have hempty : TextSheet.empty.writable = true := rfl
  have hpresent := TextSheet.present_eq hempty (.new settings.batchSize settings.scrollThreshold) []
  have htarget : last.viewer.view.target =
      ⟨true, ["", "No results found. Try adjusting your query."]⟩ := by
    rw [hview]
    exact hpresent
  have herror : last.viewer.view.error = some ("Query error: " ++ failure.text) := by
    rw [hview]
    rfl
  rw [hfail _ herror]
  exact ⟨rfl, congrArg TextSheet.lines htarget⟩

end Session

-- ---------------------------------------------------------------------------
-- The program
-- ---------------------------------------------------------------------------

namespace Program

variable {m : Type → Type} [Monad m] [LawfulMonad m] {around : Surroundings m}

/-- A query on the command line: settings and dataset are found first, and a failure to do so
ends the program without output. -/
theorem start_query (hw : CommandLine.read words = .run arguments)
    (hq : arguments.query = some query) :
    start around words = do
      match ← (findSettings around arguments).run with
      | .error failure => return .done (.failure failure) ""
      | .ok settings =>
        match ← (findDataset around settings).run with
        | .error failure => return .done (.failure failure) ""
        | .ok dataset =>
          match Session.new settings with
          | .error failure => return .done (.failure failure) ""
          | .ok session => return course (session.oneShot dataset query) := by
  simp only [start, hw, run, hq, ExceptT.run_bind, bind_assoc]
  congr 1
  funext found
  cases found with
  | error failure => simp
  | ok settings =>
    simp only [bind_assoc]
    congr 1
    funext found
    cases found with
    | error failure => simp
    | ok dataset =>
      cases hs : Session.new settings with
      | error failure => simp [liftExcept]
      | ok session => simp [liftExcept]

def textOf (lines : List String) : String := String.join (lines.map (· ++ "\n"))

/-- For every dataset that is found and every query on the command line, the program asks its
worker for this query alone and ends well exactly if an engine with the dataset gives results.
Then it prints an empty line, the first batch of the results, what is left if anything is, and
the counts of all results; a batch has at least one entry. Otherwise it prints that there are
no results and fails. -/
theorem start_answers {engine : Engine} (hw : CommandLine.read words = .run arguments)
    (hq : arguments.query = some query)
    (hs : (findSettings around arguments).run = pure (.ok settings))
    (hd : (findDataset around settings).run = pure (.ok dataset))
    (held : engine.Holds (some dataset)) :
    ∃ session exit output, Session.new settings = .ok session ∧
      start around words = pure (.done exit output) ∧
      start around words = pure (course (session.oneShot dataset query)) ∧
      (session.opened dataset query).askedFor 2 = [.init dataset, .filter query] ∧
      (session.oneShot dataset query).viewer.channel.link = .new ∧
      (exit = .success ↔ ∃ results, (engine.filter query).1 = .ok results) ∧
      (∀ results, (engine.filter query).1 = .ok results →
        output = textOf (shownLines (max settings.batchSize 1) results ++
          [(Stats.ofEntries results).text])) ∧
      (∀ failure, (engine.filter query).1 = .error failure →
        exit.code = 1 ∧ output = textOf ["", "No results found. Try adjusting your query."]) := by
  obtain ⟨session, created⟩ : ∃ session, Session.new settings = .ok session := ⟨_, rfl⟩
  obtain ⟨hasked, hdone⟩ := Session.oneShot_asks dataset query created
  have hstart : start around words = pure (course (session.oneShot dataset query)) := by
    rw [start_query hw hq, hs, pure_bind]
    simp [hd, created]
  have hcourse {outcome : Except Failure Unit} {lines : List String}
      (ho : (session.oneShot dataset query).outcome = some outcome)
      (hl : (session.oneShot dataset query).sheet.lines = lines) :
      start around words = pure (.done (.ofOutcome outcome) (textOf lines)) := by
    rw [hstart, course, ho, ← hl]
    rfl
  cases hr : (engine.filter query).1 with
  | ok results =>
    obtain ⟨houtcome, hlines⟩ := Session.oneShot_results dataset query created held hr
    refine ⟨session, _, _, created, hcourse houtcome hlines, hstart, hasked, hdone, ?_, ?_, nofun⟩
    · simp [Exit.ofOutcome]
    · rintro _ ⟨⟩
      rfl
  | error failure =>
    obtain ⟨houtcome, hlines⟩ := Session.oneShot_failure dataset query created held hr
    refine ⟨session, _, _, created, hcourse houtcome hlines, hstart, hasked, hdone, ?_, nofun, ?_⟩
    · simp [Exit.ofOutcome]
    · exact fun _ _ => ⟨rfl, rfl⟩

def directory (name text : String) : Surroundings Id where
  content path := if path = name then some (text.toList.map fun c => .ofNat c.toNat) else none
  environment := []
  now := ⟨0, 0, 0⟩

theorem eq_ok {result : Except Failure α} (h : result.toOption = some value) :
    result = .ok value := by
  cases result with
  | error failure => cases h
  | ok other => exact congrArg Except.ok (Option.some.inj h)

def twoEnums : Dataset := { Dataset.empty with enums := [⟨"A", []⟩, ⟨"B", []⟩] }

def twoEnumsFile : Surroundings Id :=
  directory "d.json" "\x7b\"enums\":[\x7b\"name\":\"A\"\x7d,\x7b\"name\":\"B\"\x7d]\x7d"

def inBatchesOf (batchSize : Nat) : Settings :=
  { Settings.default with dataset := some "d.json", batchSize }

theorem start_answers_first_of_two :
    start twoEnumsFile ["--dataset", "d.json", "--query", "", "--batch-size", "1"] =
      .done .success (textOf ["", "A [Enum]\n  Enum (0 items)",
        "-- Showing 1 of 2 results. Scroll to load more... (:more) --",
        "Total Results: 2 | Unreplicated: 0 | Deprecated: 0 | Hidden: 0 | Unscriptable: 0"]) := by
  have hresults : (((Engine.new 64).load twoEnums).filter "").1 =
      .ok [.enumType ⟨"A", []⟩, .enumType ⟨"B", []⟩] := eq_ok (by decide +kernel)
  let arguments : Arguments := ⟨some "d.json", none, some "", some 1⟩
  have hwords : CommandLine.read ["--dataset", "d.json", "--query", "", "--batch-size", "1"] =
      .run arguments := by decide +kernel
  have hsettings : (findSettings twoEnumsFile arguments).run = pure (.ok (inBatchesOf 1)) :=
    eq_ok (by decide +kernel)
  have hdataset : (findDataset twoEnumsFile (inBatchesOf 1)).run = pure (.ok twoEnums) :=
    eq_ok (by decide +kernel)
  obtain ⟨_, exit, output, -, hstart, -, -, -, hexit, houtput, -⟩ :=
    start_answers hwords rfl hsettings hdataset ((Engine.Holds.new 64).load twoEnums)
  rw [hstart, hexit.mpr ⟨_, hresults⟩, houtput _ hresults]
  exact congrArg (fun lines => Course.done .success (textOf lines)) (by decide +kernel)

def outputOf : Course → String
  | .done _ output => output
  | .interactive session => session.sheet.text

/-- A batch size of zero would show nothing of the results; it counts as one. -/
theorem start_batch_of_zero : ¬ ∀ (around : Surroundings Id) words arguments query settings dataset
    (engine : Engine) results,
    CommandLine.read words = .run arguments → arguments.query = some query →
    (findSettings around arguments).run = pure (.ok settings) →
    (findDataset around settings).run = pure (.ok dataset) →
    engine.Holds (some dataset) → (engine.filter query).1 = .ok results →
    start around words = .done .success
      (textOf (shownLines settings.batchSize results ++ [(Stats.ofEntries results).text])) := by
  intro hclaim
  have hstart := hclaim twoEnumsFile ["--dataset", "d.json", "--query", "", "--batch-size", "0"]
    ⟨some "d.json", none, some "", some 0⟩ "" (inBatchesOf 0) twoEnums
    ((Engine.new 64).load twoEnums) [.enumType ⟨"A", []⟩, .enumType ⟨"B", []⟩] (by decide +kernel)
    rfl (eq_ok (by decide +kernel)) (eq_ok (by decide +kernel))
    ((Engine.Holds.new 64).load twoEnums) (eq_ok (by decide +kernel))
  exact absurd (congrArg outputOf hstart) (by decide +kernel)

end Program

end RefViewer
