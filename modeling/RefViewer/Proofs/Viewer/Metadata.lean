import RefViewer.Proofs.Viewer.Calls

/-!
# Where the data is from

A viewer tells where the dataset of its latest load is from, and its channel holds the latest
one that was accepted. `run_metadata`: the two agree exactly while no load with other metadata
has been refused since. A refused load changes nothing else.
-/

namespace RefViewer

-- ---------------------------------------------------------------------------
-- The loads of a run
-- ---------------------------------------------------------------------------

def ViewerAction.dataset? : ViewerAction → Option Dataset
  | .load dataset => some dataset
  | _ => none

namespace ViewerCall

def accepted? (call : ViewerCall) : Option Dataset :=
  if call.submission = some .dropped then none else call.action.dataset?

def refused? (call : ViewerCall) : Option Dataset :=
  if call.submission = some .dropped then call.action.dataset? else none

end ViewerCall

def lastAccepted (trace : List ViewerCall) : Option Dataset := trace.findSome? ViewerCall.accepted?

def refusedSince : List ViewerCall → Option Dataset
  | [] => none
  | call :: earlier =>
    match call.accepted? with
    | some _ => none
    | none => call.refused?.or (refusedSince earlier)

def metadataOf (dataset : Option Dataset) : Metadata := (dataset.map Dataset.metadata).getD .unknown

theorem lastAccepted_cons (call : ViewerCall) (trace : List ViewerCall) :
    lastAccepted (call :: trace) = call.accepted?.or (lastAccepted trace) := by
  cases ha : call.accepted? <;> simp [lastAccepted, ha]

/-- The dataset of the latest load, whatever came of it. -/
def latestLoad (trace : List ViewerCall) : Option Dataset :=
  (refusedSince trace).or (lastAccepted trace)

theorem latestLoad_cons (call : ViewerCall) (trace : List ViewerCall) :
    latestLoad (call :: trace) = call.action.dataset?.or (latestLoad trace) := by
  by_cases hs : call.submission = some .dropped
  · simp [latestLoad, refusedSince, lastAccepted_cons, ViewerCall.accepted?, ViewerCall.refused?,
      hs, Option.or_assoc]
  · cases hd : call.action.dataset? <;>
      simp [latestLoad, refusedSince, lastAccepted_cons, ViewerCall.accepted?,
        ViewerCall.refused?, hs, hd]

-- ---------------------------------------------------------------------------
-- What a viewer and its channel keep of them
-- ---------------------------------------------------------------------------

variable {T : Type} [Target T]

namespace Viewer

variable {viewer after : Viewer T} {action : ViewerAction}

theorem followAndStart_dataset (viewer : Viewer T) (events : List Event) (channel : Channel) :
    (viewer.followAndStart events channel).channel.dataset = channel.dataset := by
  unfold followAndStart
  simp only
  split
  · exact channel.filter_dataset viewer.query
  · rfl

/-- Only a load has to do with where the data is from, and only an accepted one with the data
of the channel. -/
theorem call?_source (taken : List Response) (sent : List Request)
    (hc : viewer.call? action = some (submission, after)) :
    after.metadata = (action.dataset?.map Dataset.metadata).getD viewer.metadata ∧
      after.channel.dataset =
        (ViewerCall.accepted? ⟨action, submission, taken, sent⟩).or viewer.channel.dataset := by
  have hheard (events : List Event) {channel : Channel}
      (hd : channel.dataset = viewer.channel.dataset) :
      (viewer.followAndStart events channel).metadata = viewer.metadata ∧
        (viewer.followAndStart events channel).channel.dataset = viewer.channel.dataset :=
    ⟨(viewer.followAndStart_kept events channel).2.2,
      (viewer.followAndStart_dataset events channel).trans hd⟩
  have hnone (hd : action.dataset? = none) :
      ViewerCall.accepted? ⟨action, submission, taken, sent⟩ = none := by
    simp [ViewerCall.accepted?, hd]
  cases action with
  | load dataset =>
    obtain ⟨rfl, rfl⟩ : _ ∧ _ := by simpa [call?] using hc
    refine ⟨rfl, ?_⟩
    have hsubmission : (viewer.load dataset).1 = (viewer.channel.load dataset).1 := rfl
    have hchannel : (viewer.load dataset).2.channel = (viewer.channel.load dataset).2.2 := rfl
    rw [hchannel, hsubmission]
    rcases viewer.channel.load_cases dataset with ⟨-, he⟩ | ⟨-, -, he⟩ | ⟨-, -, he⟩
    · rw [he]
      rfl
    · rw [he]
      rfl
    · rw [he]
      rfl
  | tick now =>
    rw [hnone rfl]
    simp only [call?, tick, Option.some.injEq] at hc
    split at hc
    · obtain ⟨rfl, rfl⟩ := Prod.mk.inj hc
      exact ⟨rfl, viewer.channel.filter_dataset viewer.query⟩
    · obtain ⟨rfl, rfl⟩ := Prod.mk.inj hc
      exact ⟨rfl, rfl⟩
  | submit =>
    rw [hnone rfl]
    obtain ⟨rfl, rfl⟩ : _ ∧ _ := by simpa [call?] using hc
    exact ⟨rfl, viewer.channel.filter_dataset viewer.query⟩
  | setQuery text =>
    rw [hnone rfl]
    obtain ⟨rfl, rfl⟩ : _ ∧ _ := by simpa [call?] using hc
    exact ⟨rfl, viewer.channel.filter_dataset text⟩
  | reset =>
    rw [hnone rfl]
    obtain ⟨rfl, rfl⟩ : _ ∧ _ := by simpa [call?] using hc
    exact ⟨rfl, viewer.channel.filter_dataset ""⟩
  | pump =>
    rw [hnone rfl]
    obtain ⟨rfl, rfl⟩ : _ ∧ _ := by simpa [call?] using hc
    exact hheard _ viewer.channel.pump_dataset
  | wait =>
    rw [hnone rfl]
    obtain ⟨-, ⟨response, rest, -, rfl⟩ | ⟨-, -, rfl⟩⟩ := call?_wait hc
    · exact hheard _ rfl
    · exact hheard _ viewer.channel.disconnect_dataset
  | receive =>
    rw [hnone rfl]
    obtain ⟨response, rest, -, -, rfl⟩ := call?_receive hc
    exact hheard _ rfl
  | disconnect =>
    rw [hnone rfl]
    obtain ⟨-, -, -, rfl⟩ := call?_disconnect hc
    exact ⟨rfl, viewer.channel.disconnect_dataset⟩
  | restart =>
    rw [hnone rfl]
    obtain ⟨rfl, rfl⟩ : _ ∧ _ := by simpa [call?] using hc
    exact ⟨rfl, viewer.channel.restart_dataset⟩
  | worker step => cases hc
  | _ =>
    rw [hnone rfl]
    obtain ⟨rfl, rfl⟩ : _ ∧ _ := by simpa [call?] using hc
    exact ⟨rfl, rfl⟩

end Viewer

/-- The channel holds the latest accepted dataset, and the viewer tells of the latest one. -/
structure Sourced (trace : List ViewerCall) (viewer : Viewer T) : Prop where
  held : viewer.channel.dataset = lastAccepted trace
  told : viewer.metadata = metadataOf (latestLoad trace)

namespace Sourced

theorem called {viewer after : Viewer T} {call : ViewerCall} (h : Sourced trace viewer)
    (hc : viewer.call? call.action = some (call.submission, after)) :
    Sourced (call :: trace) after := by
  obtain ⟨hmetadata, hdataset⟩ := Viewer.call?_source call.taken call.sent hc
  refine ⟨by rw [hdataset, lastAccepted_cons, h.held], ?_⟩
  rw [hmetadata, latestLoad_cons, h.told]
  cases call.action.dataset? <;> rfl

theorem act {console after : Console T} (h : Sourced trace console.viewer)
    (ha : console.act action = some (call, after)) : Sourced (call :: trace) after.viewer := by
  rcases Console.act_cases ha with ⟨step, turn, rfl, rfl, hfar, hv⟩ | ⟨rfl, rfl, hv, -⟩ |
    ⟨-, submission, hc, rfl, -⟩
  · have hheld : after.viewer.channel.dataset = console.viewer.channel.dataset := by
      have hchannel : after.viewer.channel = { console.viewer.channel with
        link := after.viewer.channel.link } := WorkerStep.channel_eq hfar
      rw [hchannel]
    have htold : after.viewer.metadata = console.viewer.metadata := by rw [hv]
    exact ⟨hheld.trans h.held, htold.trans h.told⟩
  · exact h.called (by rw [hv]; rfl)
  · exact h.called hc

end Sourced

theorem CallRun.sourced {console : Console T} (h : CallRun settings trace console) :
    Sourced trace console.viewer := by
  induction h with
  | start _ _ _ created =>
    rw [Viewer.new_eq created]
    exact ⟨rfl, rfl⟩
  | next _ ha ih => exact ih.act ha

-- ---------------------------------------------------------------------------
-- Accepted and refused loads
-- ---------------------------------------------------------------------------

theorem Sourced.agrees_iff {T : Type} {viewer : Viewer T} (h : Sourced trace viewer) :
    viewer.metadata = metadataOf (lastAccepted trace) ↔
      ∀ dataset, refusedSince trace = some dataset →
        dataset.metadata = metadataOf (lastAccepted trace) := by
  rw [h.told, latestLoad]
  cases hr : refusedSince trace with
  | none => simp
  | some refused => simp [metadataOf]

theorem Sourced.restart_sent {console : Console T} (h : Sourced trace console.viewer)
    (ha : console.act .restart = some (call, after)) :
    call.sent = (lastAccepted trace).toList.map .init := by
  obtain ⟨rfl, rfl⟩ : _ ∧ _ := by simpa [Console.act, Viewer.call?] using ha
  have hsent : (ViewerCall.on .restart (some console.viewer.restart.1) .new
      console.viewer.restart.2.channel.link).sent =
    console.viewer.channel.restart.2.2.link.requests := rfl
  rw [hsent, ← h.held]
  cases hd : console.viewer.channel.dataset with
  | none =>
    rw [Channel.restart_none hd]
    rfl
  | some dataset =>
    rw [Channel.restart_some hd]
    rfl

theorem Console.act_load_dropped {console : Console T}
    (ha : console.act (.load dataset) = some (call, after))
    (hs : call.submission = some .dropped) :
    after = { console with viewer := { console.viewer with metadata := dataset.metadata } } := by
  obtain ⟨rfl, rfl⟩ : _ ∧ _ := by simpa [Console.act, Viewer.call?] using ha
  have hsubmission : (console.viewer.channel.load dataset).1 = .dropped := Option.some.inj hs
  have hload : (console.viewer.load dataset).2 =
      { console.viewer with metadata := dataset.metadata }.follow
        (console.viewer.channel.load dataset).2.1 (console.viewer.channel.load dataset).2.2 := rfl
  rw [hload]
  rcases console.viewer.channel.load_cases dataset with ⟨-, he⟩ | ⟨-, -, he⟩ | ⟨-, -, he⟩
  · rw [he]
    rfl
  · simp [he] at hsubmission
  · simp [he] at hsubmission

/-- On every run the channel holds the dataset of the latest load that was not dropped, and a
restart hands that one over again. The metadata are its own exactly if the latest load was not
dropped or came with the same metadata: a load that is dropped replaces them, and nothing
else. -/
theorem run_metadata {console : Console T} (h : CallRun settings trace console) :
    console.viewer.channel.dataset = lastAccepted trace ∧
    (∀ call after, console.act .restart = some (call, after) →
      call.sent = (lastAccepted trace).toList.map .init) ∧
    (console.viewer.metadata = metadataOf (lastAccepted trace) ↔
      ∀ dataset, refusedSince trace = some dataset →
        dataset.metadata = metadataOf (lastAccepted trace)) ∧
    (∀ dataset call after, console.act (.load dataset) = some (call, after) →
      call.submission = some .dropped →
      after = { console with viewer := { console.viewer with metadata := dataset.metadata } }) := by
  have hsourced := h.sourced
  exact ⟨hsourced.held, fun _ _ ha => hsourced.restart_sent ha, hsourced.agrees_iff,
    fun _ _ _ ha hs => Console.act_load_dropped ha hs⟩

def versioned (version : String) : Dataset :=
  { Dataset.empty with metadata := ⟨some version, none⟩ }

/-- The worker dies after the dataset was taken in, and is replaced: the metadata stay. -/
theorem run_metadata_restarted : ∃ trace console,
    CallRun ⟨20, Renderer.defaultScrollThreshold, 300⟩ trace (console : Console HtmlPage) ∧
      console.viewer.metadata = ⟨some "1.0", none⟩ ∧ refusedSince trace = none := by
  obtain ⟨trace, console, hrun, hend⟩ := CallRun.of_perform 8 8
    ⟨20, Renderer.defaultScrollThreshold, 300⟩
    [.load (versioned "1.0"), .worker .take, .worker .answer, .wait, .worker .die, .restart]
    (fun trace _ => lastAccepted trace = some (versioned "1.0") && refusedSince trace = none)
    (by decide +kernel)
  simp only [Bool.and_eq_true, decide_eq_true_eq] at hend
  obtain ⟨haccepted, hrefused⟩ := hend
  obtain ⟨-, -, hagrees, -⟩ := run_metadata hrun
  have hmetadata := hagrees.mpr (by simp [hrefused])
  rw [haccepted] at hmetadata
  exact ⟨trace, console, hrun, hmetadata, hrefused⟩

/-- A second load is dropped while the first is under way, but its version is shown. -/
theorem dropped_load_shown : ¬ ∀ trace console,
    CallRun ⟨20, Renderer.defaultScrollThreshold, 300⟩ trace (console : Console HtmlPage) →
      console.viewer.metadata = metadataOf (lastAccepted trace) := by
  intro hagrees
  obtain ⟨trace, console, hrun, hend⟩ := CallRun.of_perform 8 8
    ⟨20, Renderer.defaultScrollThreshold, 300⟩
    [.load (versioned "1.0"), .load (versioned "2.0")]
    (fun trace console => lastAccepted trace = some (versioned "1.0") &&
      console.viewer.metadata.version = some "2.0")
    (by decide +kernel)
  simp only [Bool.and_eq_true, decide_eq_true_eq] at hend
  obtain ⟨haccepted, hversion⟩ := hend
  rw [hagrees trace console hrun, haccepted] at hversion
  simp [metadataOf, versioned] at hversion

end RefViewer
