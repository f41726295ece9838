import Scanout.Overlay.Manager.Stream
import Scanout.Proofs.Overlay.Presentation

/-!
# Runs that end a stream

Taking the plane over makes four requests and acquires nothing. An end of stream, and a release of
the overlay that is not one already, asks to disable the plane and then gives back everything the
manager holds, whatever the device answers.
-/

namespace Scanout.Overlay

open Display Proc

def disableEvent (config : Config) (answer : Except DeviceError Unit) : Event interface :=
  match config.strategy with
  | .atomic => .answered (.commit (disableBatch config.targets.videoPlane) true) answer
  | .legacy => .answered (.setPlane (disableUpdate config.targets)) answer

def disableRequest (config : Config) : Request :=
  match config.strategy with
  | .atomic => .commit (disableBatch config.targets.videoPlane) true
  | .legacy => .setPlane (disableUpdate config.targets)

@[simp] theorem requestsOf_disableEvent (config : Config) (answer : Except DeviceError Unit)
    (events : List (Event interface)) :
    requestsOf (disableEvent config answer :: events)
      = disableRequest config :: requestsOf events := by
  unfold disableEvent disableRequest
  cases config.strategy <;> rfl

theorem mem_requestsOf_disableEvent {config : Config} {answer : Except DeviceError Unit}
    {events : List (Event interface)} (member : disableEvent config answer ∈ events) :
    disableRequest config ∈ requestsOf events := by
  obtain ⟨before, after, rfl⟩ := List.append_of_mem member
  simp

@[simp] theorem movementsOf_disableEvent (config : Config) (answer : Except DeviceError Unit)
    (events : List (Event interface)) :
    movementsOf (disableEvent config answer :: events) = movementsOf events := by
  unfold disableEvent
  cases config.strategy <;> rfl

@[simp] theorem noLeak_disableEvent {config : Config} {answer : Except DeviceError Unit}
    {events : List (Event interface)} :
    NoLeak (disableEvent config answer :: events) ↔ NoLeak events := by
  unfold disableEvent
  cases config.strategy <;> simp

@[simp] theorem neutral_disableRequest (config : Config) : (disableRequest config).Neutral := by
  unfold disableRequest
  cases config.strategy <;> simp

theorem disablePlane_runs {config : Config} {events : List (Event interface)} {u : Unit}
    (run : (disablePlane config).Runs events u) :
    ∃ answer reports, events = disableEvent config answer :: reports ∧
      requestsOf reports = [] ∧ NoLeak reports := by
  obtain ⟨call, answer, reports, rfl, asked, rest⟩ := runs_bind.mp run
  have silent := noticeFailure_noLeak (by simp) rest
  unfold requestDisable at asked
  unfold disableEvent
  cases strategy : config.strategy with
  | atomic =>
    rw [strategy] at asked
    obtain rfl := runs_ask.mp asked
    exact ⟨answer, reports, rfl, silent⟩
  | legacy =>
    rw [strategy] at asked
    obtain rfl := runs_ask.mp asked
    exact ⟨answer, reports, rfl, silent⟩

namespace Manager

variable {m left : Manager} {events : List (Event interface)}

def sessionResources (m : Manager) : List Resource := m.hdr.toList.map fun session => .blob session.blob

/-- Everything a manager holds on the device, in the order in which it is given back. -/
def resources (m : Manager) : List Resource :=
  m.ring.slots.flatMap Generation.resources ++ m.sessionResources

def drained (m : Manager) : Manager :=
  { m with ring := m.ring.drain.2, hdr := none, stats := { m.stats with liveHandles := 0 } }

def ended (m : Manager) : Manager :=
  { m.drained with stats := { m.drained.stats with drains := m.stats.drains + 1 } }

def released (m : Manager) : Manager := { m.drained with tornDown := true }

def resumed (m : Manager) : Manager := { m with tornDown := false }

@[simp] theorem resources_ended (m : Manager) : m.ended.resources = [] := rfl

@[simp] theorem resources_released (m : Manager) : m.released.resources = [] := rfl

@[simp] theorem resources_resumed (m : Manager) : m.resumed.resources = m.resources := rfl

theorem drainRing_runs (run : m.drainRing.Runs events left) :
    left = { m with ring := m.ring.drain.2, stats := { m.stats with liveHandles := 0 } } ∧
      requestsOf events = (m.ring.slots.flatMap Generation.resources).map Resource.releaseCall ∧
      NoLeak events := by
  obtain ⟨retires, _, last, rfl, retired, done⟩ := runs_bind.mp run
  obtain ⟨rfl, rfl⟩ := runs_pure.mp done
  obtain ⟨requests, quiet⟩ := Generation.retireAll_runs retired
  rw [List.append_nil]
  exact ⟨rfl, requests, quiet⟩

theorem closeSession_runs (run : m.closeSession.Runs events left) :
    left = { m with hdr := none } ∧
      requestsOf events = m.sessionResources.map Resource.releaseCall ∧ NoLeak events := by
  unfold closeSession at run
  unfold sessionResources
  split at run
  · rename_i absent
    obtain ⟨rfl, unchanged⟩ := runs_pure.mp run
    have closed : { m with hdr := none } = m := by rw [← absent]
    exact ⟨unchanged.trans closed.symm, by rw [absent]; rfl, noLeak_nil⟩
  · rename_i session present
    obtain ⟨call, answer, later, rfl, asked, rest⟩ := runs_bind.mp run
    obtain rfl := runs_ask.mp asked
    obtain ⟨reports, _, last, rfl, reported, done⟩ := runs_bind.mp rest
    obtain ⟨rfl, rfl⟩ := runs_pure.mp done
    obtain ⟨calls, quiet⟩ := noticeFailure_noLeak (by simp) reported
    refine ⟨rfl, ?_, by simpa using quiet⟩
    rw [present]
    simp [calls, Resource.releaseCall]

/-- What any end of stream does: one request for the plane, then the releases. -/
structure Drains (m : Manager) (events : List (Event interface)) : Prop where
  calls : ∃ answer releases, events = disableEvent m.config answer :: releases ∧
    requestsOf releases = m.resources.map Resource.releaseCall
  quiet : NoLeak events

theorem drains_of_runs {afterRing : Manager} {disables drains closes : List (Event interface)}
    {u : Unit} (disabled : (disablePlane m.config).Runs disables u)
    (emptied : m.drainRing.Runs drains afterRing) (closed : afterRing.closeSession.Runs closes left)
    (report : Notice) (silent : ∀ count, report ≠ .handlesLeaked count) :
    m.Drains (disables ++ (drains ++ (closes ++ [.reported report]))) ∧ left = m.drained := by
  obtain ⟨answer, reports, rfl, silence, reportsQuiet⟩ := disablePlane_runs disabled
  obtain ⟨rfl, ringCalls, ringQuiet⟩ := drainRing_runs emptied
  obtain ⟨rfl, sessionCalls, sessionQuiet⟩ := closeSession_runs closed
  refine ⟨⟨⟨answer, _, rfl, ?_⟩, ?_⟩, rfl⟩
  · simp [silence, ringCalls, sessionCalls, resources, sessionResources]
  · simp [reportsQuiet, ringQuiet, sessionQuiet, silent]

theorem endStream_runs {batch next : Batch} (run : (m.endStream batch).Runs events (left, next)) :
    m.Drains events ∧ next = m.resetBatch batch ∧ left = m.ended := by
  obtain ⟨disables, _, others, rfl, disabled, rest⟩ := runs_bind.mp run
  obtain ⟨drains, afterRing, later, rfl, emptied, closing⟩ := runs_bind.mp rest
  obtain ⟨closes, afterAll, last, rfl, closed, reporting⟩ := runs_bind.mp closing
  obtain ⟨report, _, nothing, rfl, reported, done⟩ := runs_bind.mp reporting
  obtain rfl := runs_notice.mp reported
  obtain ⟨rfl, left_eq, next_eq⟩ := runs_pure_pair.mp done
  obtain ⟨drains, rfl⟩ := drains_of_runs disabled emptied closed (.streamEnded m.ring.size)
    (by simp)
  exact ⟨drains, next_eq, left_eq⟩

theorem uninit_runs (run : m.uninit.Runs events left) :
    (m.tornDown = true ∧ events = [] ∧ left = m) ∨
      (m.tornDown = false ∧ m.Drains events ∧ left = m.released) := by
  unfold uninit at run
  split at run
  · rename_i torn
    obtain ⟨rfl, unchanged⟩ := runs_pure.mp run
    exact .inl ⟨torn, rfl, unchanged⟩
  · rename_i running
    obtain ⟨disables, _, others, rfl, disabled, rest⟩ := runs_bind.mp run
    obtain ⟨drains, afterRing, later, rfl, emptied, closing⟩ := runs_bind.mp rest
    obtain ⟨closes, afterAll, last, rfl, closed, reporting⟩ := runs_bind.mp closing
    obtain ⟨report, _, nothing, rfl, reported, done⟩ := runs_bind.mp reporting
    obtain rfl := runs_notice.mp reported
    obtain ⟨rfl, rfl⟩ := runs_pure.mp done
    obtain ⟨drains, rfl⟩ := drains_of_runs disabled emptied closed
      (.overlayReleased afterAll.stats.framesPresented) (by simp)
    exact .inr ⟨by simpa using running, drains, rfl⟩

theorem drop_runs (emptied : m.tornDown = true → m.ring.slots = []) {u : Unit}
    (run : m.drop.Runs events u) : ∃ left, m.uninit.Runs events left := by
  obtain ⟨releases, left, discards, rfl, released, discarded⟩ := runs_bind.mp run
  have nothing : left.ring.slots = [] := by
    rcases uninit_runs released with ⟨torn, -, rfl⟩ | ⟨-, -, rfl⟩
    · exact emptied torn
    · rfl
  rw [nothing] at discarded
  obtain ⟨rfl, -⟩ := runs_pure.mp discarded
  exact ⟨left, by rwa [List.append_nil]⟩

theorem presentSome_runs {image : Image} {src dst : Rect} {batch : Batch} {p : Presentation}
    (run : (m.present (some image) src dst batch).Runs events p) :
    m.resumed.Presents image src dst batch events p :=
  presentImage_runs run

theorem presentNone_runs {src dst : Rect} {batch : Batch} {p : Presentation}
    (run : (m.present none src dst batch).Runs events p) :
    m.Drains events ∧ p = ⟨m.ended, m.resetBatch batch, .ok ()⟩ := by
  obtain ⟨ending, ⟨left, next⟩, last, rfl, ends, done⟩ := runs_bind.mp run
  obtain ⟨rfl, rfl⟩ := runs_pure.mp done
  obtain ⟨drains, rfl, rfl⟩ := endStream_runs ends
  rw [List.append_nil]
  exact ⟨drains, rfl⟩

theorem queryPanel_runs {connector : UInt32} {panel : Panel}
    (run : (queryPanel connector).Runs events panel) :
    requestsOf events = [.propertyBlob (.connector connector) Property.hdrPanelMetadata] ∧
      NoLeak events := by
  obtain ⟨answer, later, rfl, rest⟩ := runs_ask_bind.mp run
  rcases answer with cause | (_ | blob)
  · obtain ⟨report, _, last, rfl, reported, done⟩ := runs_bind.mp rest
    obtain rfl := runs_notice.mp reported
    obtain ⟨rfl, -⟩ := runs_pure.mp done
    exact ⟨rfl, by simp⟩
  · obtain ⟨rfl, -⟩ := runs_pure.mp rest
    exact ⟨rfl, by simp⟩
  · obtain ⟨rfl, -⟩ := runs_pure.mp rest
    exact ⟨rfl, by simp⟩

theorem takeOver_runs {config : Config} {size : Option Size} {panel : Panel}
    (run : (takeOver config size panel).Runs events left) :
    (∃ answer reports, events = .reported (.overlayReady config.targets config.strategy.name size)
      :: disableEvent config answer :: reports ∧ requestsOf reports = [] ∧ NoLeak reports) ∧
    left = fresh config size panel := by
  obtain ⟨announce, _, disables, rfl, announced, rest⟩ := runs_bind.mp run
  obtain rfl := runs_notice.mp announced
  obtain ⟨disabling, _, last, rfl, disabled, done⟩ := runs_bind.mp rest
  obtain ⟨rfl, rfl⟩ := runs_pure.mp done
  obtain ⟨answer, reports, rfl, silent⟩ := disablePlane_runs disabled
  rw [List.append_nil]
  exact ⟨⟨answer, reports, rfl, silent⟩, rfl⟩

/-- What creating a manager can do: it ends with the first query, or takes the plane over. -/
inductive Creates (config : Config) :
    List (Event interface) → Except PresentError Manager → Prop where
  | refused {answer : Except DeviceError Bool} {e : PresentError} :
      Creates config [.answered .supportsPrimeImport answer] (.error e)
  | created {answer : Except DeviceError (Option Size)} {later : List (Event interface)}
      {panel : Panel} (calls : requestsOf later
        = [.propertyBlob (.connector config.targets.connector) Property.hdrPanelMetadata,
          disableRequest config])
      (quiet : NoLeak later) :
      Creates config (.answered .supportsPrimeImport (.ok true) ::
          .answered (.crtcModeSize config.targets.crtc) answer :: later)
        (.ok (fresh config answer.toOption.join panel))

theorem create_cases {config : Config} {outcome : Except PresentError Manager}
    (run : (create config).Runs events outcome) : Creates config events outcome := by
  obtain ⟨answer, later, rfl, rest⟩ := runs_ask_bind.mp run
  rcases answer with cause | (_ | _)
  · obtain ⟨rfl, rfl⟩ := runs_pure.mp rest
    exact .refused
  · obtain ⟨rfl, rfl⟩ := runs_pure.mp rest
    exact .refused
  · obtain ⟨modes, size, others, rfl, sized, afterMode⟩ := runs_bind.mp rest
    obtain ⟨answer, modeReports, rfl, rfl, modeSilent, modeQuiet⟩ := queryMode_runs sized
    obtain ⟨panels, panel, reports, rfl, queried, afterPanel⟩ := runs_bind.mp afterMode
    obtain ⟨panelCalls, panelQuiet⟩ := queryPanel_runs queried
    have told : ∃ hdr ready, reports = hdr ++ ready ∧ requestsOf hdr = [] ∧ NoLeak hdr ∧
        (Except.ok <$> takeOver config answer.toOption.join panel).Runs ready outcome := by
      split at afterPanel
      · obtain ⟨hdr, _, ready, rfl, told, taken⟩ := runs_bind.mp afterPanel
        obtain rfl := runs_notice.mp told
        exact ⟨_, ready, rfl, rfl, by simp, by rwa [map_eq_pure_bind]⟩
      · exact ⟨[], reports, rfl, rfl, noLeak_nil, by rwa [map_eq_pure_bind]⟩
    obtain ⟨hdr, ready, rfl, hdrSilent, hdrQuiet, taken⟩ := told
    obtain ⟨m, taking, rfl⟩ := runs_map.mp taken
    obtain ⟨⟨answered, disables, rfl, disableSilent, disableQuiet⟩, rfl⟩ := takeOver_runs taking
    exact .created (by simp [modeSilent, panelCalls, hdrSilent, disableSilent])
      (by simp [modeQuiet, panelQuiet, hdrQuiet, disableQuiet])

/-- A manager is created by requests that hand nothing out and take nothing back. -/
theorem create_runs {config : Config} {outcome : Except PresentError Manager}
    (run : (create config).Runs events outcome) :
    NoLeak events ∧ (∀ request ∈ requestsOf events, request.Neutral) ∧
      ∀ m, outcome = .ok m → ∃ size panel, m = fresh config size panel := by
  cases create_cases run with
  | refused => simp
  | created calls quiet => simp [calls, quiet]

end Manager

end Scanout.Overlay
