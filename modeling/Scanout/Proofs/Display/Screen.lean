import Scanout.Proofs.Display.Ledger

/-!
# What a plane reads

A plane reads one framebuffer, and after a commit that did not block it goes over to another at a
moment that no call sees. `Screen` is that state, and a `Moment` is what can change it: an answered
call, or the latch of an accepted commit. Latches stand anywhere between the calls of a program, so
a statement about all lists of moments with given events is one about every order of the two.

`Keeps` says that nothing is given back while it is guarded. `keeps_of_still` reduces it to the
ledger for calls that submit nothing: between submissions, what a plane reads can only become less.
-/

namespace Scanout

open Display

/-- A plane, and the handles that framebuffers were made from. -/
structure Screen where
  current : Option FramebufferId
  /-- What is shown once the accepted commit latches. -/
  pending : Option (Option FramebufferId)
  layouts : FramebufferId → List GemHandle

/-- Something that can change what a plane reads. -/
inductive Moment where
  | event (event : Event interface)
  | latch

def eventsOf (moments : List Moment) : List (Event interface) :=
  moments.filterMap fun
    | .event e => some e
    | .latch => none

@[simp] theorem eventsOf_nil : eventsOf [] = [] := rfl

@[simp] theorem eventsOf_event (e : Event interface) (moments : List Moment) :
    eventsOf (.event e :: moments) = e :: eventsOf moments := rfl

@[simp] theorem eventsOf_latch (moments : List Moment) :
    eventsOf (.latch :: moments) = eventsOf moments := rfl

@[simp] theorem eventsOf_append (before after : List Moment) :
    eventsOf (before ++ after) = eventsOf before ++ eventsOf after :=
  List.filterMap_append

@[simp] theorem eventsOf_map_event (events : List (Event interface)) :
    eventsOf (events.map .event) = events := by
  induction events with
  | nil => rfl
  | cons e rest ih => rw [List.map_cons, eventsOf_event, ih]

theorem exists_of_eventsOf_append {moments : List Moment} {before after : List (Event interface)}
    (split : eventsOf moments = before ++ after) :
    ∃ first last, moments = first ++ last ∧ eventsOf first = before ∧ eventsOf last = after := by
  induction moments generalizing before with
  | nil =>
    obtain ⟨rfl, rfl⟩ := List.append_eq_nil_iff.mp split.symm
    exact ⟨[], [], rfl, rfl, rfl⟩
  | cons moment rest ih =>
    cases moment with
    | latch =>
      obtain ⟨first, last, rfl, front, back⟩ := ih split
      exact ⟨.latch :: first, last, rfl, front, back⟩
    | event e =>
      cases before with
      | nil => exact ⟨[], .event e :: rest, rfl, rfl, split⟩
      | cons head before =>
        rw [eventsOf_event, List.cons_append, List.cons.injEq] at split
        obtain ⟨rfl, split⟩ := split
        obtain ⟨first, last, rfl, front, back⟩ := ih split
        exact ⟨.event e :: first, last, rfl, by rw [eventsOf_event, front], back⟩

theorem exists_of_eventsOf_singleton {moments : List Moment} {e : Event interface}
    (single : eventsOf moments = [e]) :
    ∃ first last, moments = first ++ .event e :: last ∧ eventsOf first = [] ∧
      eventsOf last = [] := by
  induction moments with
  | nil => cases single
  | cons moment rest ih =>
    cases moment with
    | latch =>
      obtain ⟨first, last, rfl, front, back⟩ := ih single
      exact ⟨.latch :: first, last, rfl, front, back⟩
    | event head =>
      rw [eventsOf_event, List.cons.injEq] at single
      obtain ⟨rfl, last⟩ := single
      exact ⟨[], rest, rfl, rfl, last⟩

theorem exists_of_eventsOf_concat {moments : List Moment} {before : List (Event interface)}
    {e : Event interface} (split : eventsOf moments = before ++ [e]) :
    ∃ first last, moments = first ++ .event e :: last ∧ eventsOf first = before ∧
      eventsOf last = [] := by
  obtain ⟨front, rest, rfl, early, late⟩ := exists_of_eventsOf_append split
  obtain ⟨waits, last, rfl, waiting, idle⟩ := exists_of_eventsOf_singleton late
  exact ⟨front ++ waits, last, (List.append_assoc _ _ _).symm, by
    rw [eventsOf_append, early, waiting, List.append_nil], idle⟩

def Moment.released? : Moment → Option Resource
  | .event (.answered request _) => request.released?
  | .event (.reported _) | .latch => none

theorem Moment.mem_released? {moment : Moment} {r : Resource} :
    r ∈ moment.released? ↔ .release r ∈ movementsOf (eventsOf [moment]) := by
  cases moment with
  | latch => simp [released?]
  | event e =>
    cases e with
    | reported n => simp [released?]
    | answered request a =>
      rw [eventsOf_event, eventsOf_nil, movementsOf_answered, movementsOf_nil, List.append_nil,
        Option.mem_toList, Option.mem_def, movement?_eq_release_iff]
      rfl

/-- A commit that was accepted without waiting for the hardware. -/
def Moment.unblocked : Moment → Bool
  | .event (.answered (.commit _ nonblock) (.ok _)) => nonblock
  | _ => false

/-- The framebuffer a property value names; zero names none. -/
def framebufferOf (value : UInt64) : Option FramebufferId :=
  if value = 0 then none else some ⟨value.toUInt32⟩

theorem eq_of_framebufferOf {f other : FramebufferId}
    (named : framebufferOf f.id.toUInt64 = some other) : other = f := by
  unfold framebufferOf at named
  split at named
  · cases named
  · cases named
    rw [UInt32.toUInt32_toUInt64]

namespace Screen

/-- What is shown when all accepted commits have latched. -/
def latest (s : Screen) : Option FramebufferId := s.pending.getD s.current

def shown (s : Screen) : List FramebufferId := s.current.toList ++ s.pending.join.toList

/-- The framebuffers that are read now or will be, with the handles they were made from. -/
def inUse (s : Screen) : List Resource :=
  s.shown.flatMap fun f => .framebuffer f :: (s.layouts f).map .handle

def scanned (s : Screen) : List Resource := s.current.toList.map .framebuffer

def turnTo (s : Screen) (target : Option FramebufferId) : Screen :=
  { s with current := target, pending := none }

def await (s : Screen) (target : Option FramebufferId) : Screen := { s with pending := some target }

def latch (s : Screen) : Screen :=
  match s.pending with
  | none => s
  | some target => s.turnTo target

@[simp] theorem turnTo_shown (s : Screen) (target : Option FramebufferId) :
    (s.turnTo target).shown = target.toList := List.append_nil _

@[simp] theorem turnTo_latest (s : Screen) (target : Option FramebufferId) :
    (s.turnTo target).latest = target := rfl

@[simp] theorem await_shown (s : Screen) (target : Option FramebufferId) :
    (s.await target).shown = s.current.toList ++ target.toList := rfl

@[simp] theorem await_current (s : Screen) (target : Option FramebufferId) :
    (s.await target).current = s.current := rfl

@[simp] theorem await_latest (s : Screen) (target : Option FramebufferId) :
    (s.await target).latest = target := rfl

theorem latch_settled (s : Screen) : s.latch.pending = none ∧ s.latch.current = s.latest := by
  unfold latch latest
  cases pending : s.pending with
  | none => exact ⟨pending, rfl⟩
  | some target => exact ⟨rfl, rfl⟩

theorem latest_of_settled {s : Screen} (settled : s.pending = none) : s.latest = s.current := by
  rw [latest, settled]
  rfl

def answer (plane : UInt32) (s : Screen) :
    (request : Request) → Except DeviceError request.Reply → Screen
  | .addFramebuffer layout, .ok f =>
    { s with layouts := fun g => if g = f then layout.handles.toList.filterMap id else s.layouts g }
  | .setPlane update, .ok _ => if update.plane = plane then s.turnTo update.framebuffer else s
  | .commit batch nonblock, .ok _ =>
    match batch.value? (.plane plane) Property.fbId with
    | none => s
    | some value =>
      if nonblock then s.await (framebufferOf value) else s.turnTo (framebufferOf value)
  | _, _ => s

def after (plane : UInt32) (s : Screen) : Moment → Screen
  | .event (.answered request a) => s.answer plane request a
  | .event (.reported _) => s
  | .latch => s.latch

def run (plane : UInt32) (s : Screen) (moments : List Moment) : Screen :=
  moments.foldl (after plane) s

@[simp] theorem run_nil (plane : UInt32) (s : Screen) : s.run plane [] = s := rfl

@[simp] theorem run_cons (plane : UInt32) (s : Screen) (moment : Moment) (rest : List Moment) :
    s.run plane (moment :: rest) = (s.after plane moment).run plane rest := rfl

@[simp] theorem run_append (plane : UInt32) (s : Screen) (first last : List Moment) :
    s.run plane (first ++ last) = (s.run plane first).run plane last :=
  List.foldl_append

end Screen

/-- The hardware takes a commit that does not block only when no other is pending. -/
def Orderly (plane : UInt32) : Screen → List Moment → Prop
  | _, [] => True
  | s, moment :: rest =>
    (moment.unblocked = true → s.pending = none) ∧ Orderly plane (s.after plane moment) rest

/-- Nothing is given back at a moment at which it is guarded. -/
def Keeps (guarded : Screen → List Resource) (plane : UInt32) : Screen → List Moment → Prop
  | _, [] => True
  | s, moment :: rest =>
    (∀ r ∈ moment.released?, r ∉ guarded s) ∧ Keeps guarded plane (s.after plane moment) rest

instance decidableOrderly (plane : UInt32) :
    (s : Screen) → (moments : List Moment) → Decidable (Orderly plane s moments)
  | _, [] => inferInstanceAs (Decidable True)
  | s, moment :: rest =>
    have := decidableOrderly plane (s.after plane moment) rest
    inferInstanceAs (Decidable ((moment.unblocked = true → s.pending = none) ∧
      Orderly plane (s.after plane moment) rest))

instance decidableKeeps (guarded : Screen → List Resource) (plane : UInt32) :
    (s : Screen) → (moments : List Moment) → Decidable (Keeps guarded plane s moments)
  | _, [] => inferInstanceAs (Decidable True)
  | s, moment :: rest =>
    have := decidableKeeps guarded plane (s.after plane moment) rest
    inferInstanceAs (Decidable ((∀ r ∈ moment.released?, r ∉ guarded s) ∧
      Keeps guarded plane (s.after plane moment) rest))

variable {guarded : Screen → List Resource} {plane : UInt32}

theorem orderly_append {s : Screen} {first last : List Moment} :
    Orderly plane s (first ++ last)
      ↔ Orderly plane s first ∧ Orderly plane (s.run plane first) last := by
  induction first generalizing s with
  | nil => simp [Orderly]
  | cons moment rest ih => simp only [List.cons_append, Orderly, ih, Screen.run_cons, and_assoc]

theorem keeps_append {s : Screen} {first last : List Moment} :
    Keeps guarded plane s (first ++ last)
      ↔ Keeps guarded plane s first ∧ Keeps guarded plane (s.run plane first) last := by
  induction first generalizing s with
  | nil => simp [Keeps]
  | cons moment rest ih => simp only [List.cons_append, Keeps, ih, Screen.run_cons, and_assoc]

/-- A submission that succeeded: the only kind of event that shows something else. -/
def Submitted : Event interface → Prop
  | .answered (.setPlane _) (.ok _) | .answered (.commit ..) (.ok _) => True
  | _ => False

def Still (events : List (Event interface)) : Prop := ∀ e ∈ events, ¬ Submitted e

def Display.Request.Submits : Request → Prop
  | .setPlane _ | .commit .. => True
  | _ => False

theorem Submitted.submits {request : Request} {a : interface.Answer request}
    (submitted : Submitted (.answered request a)) : request.Submits := by
  cases request with
  | setPlane | commit => trivial
  | _ => cases a <;> exact submitted

@[simp] theorem still_nil : Still [] := fun _ member => absurd member List.not_mem_nil

@[simp] theorem still_cons {e : Event interface} {events : List (Event interface)} :
    Still (e :: events) ↔ ¬ Submitted e ∧ Still events := by
  simp only [Still, List.forall_mem_cons]

@[simp] theorem still_append {before after : List (Event interface)} :
    Still (before ++ after) ↔ Still before ∧ Still after := by
  simp only [Still, List.forall_mem_append]

theorem still_of_requests {events : List (Event interface)}
    (requests : ∀ request ∈ requestsOf events, ¬ request.Submits) : Still events := by
  induction events with
  | nil => exact still_nil
  | cons e rest ih =>
    cases e with
    | reported n => exact still_cons.mpr ⟨id, ih requests⟩
    | answered request a =>
      simp only [requestsOf_answered, List.forall_mem_cons] at requests
      exact still_cons.mpr ⟨fun submitted => requests.1 submitted.submits, ih requests.2⟩

namespace Screen

/-- A screen that reads no more than another, knows as much about what it reads, and ends up showing
the same. -/
structure Within (later s : Screen) : Prop where
  shown : ∀ f ∈ later.shown, f ∈ s.shown
  layouts : ∀ f ∈ later.shown, later.layouts f = s.layouts f
  latest : later.latest = s.latest

theorem mem_inUse {s : Screen} {r : Resource} :
    r ∈ s.inUse ↔ ∃ f ∈ s.shown, r = .framebuffer f ∨ ∃ h ∈ s.layouts f, r = .handle h := by
  simp only [inUse, List.mem_flatMap, List.mem_cons, List.mem_map, eq_comm]

theorem mem_shown_of_latest {s : Screen} {f : FramebufferId} (latest : s.latest = some f) :
    f ∈ s.shown := by
  unfold Screen.latest at latest
  cases pending : s.pending with
  | none =>
    rw [pending] at latest
    exact List.mem_append_left _ (Option.mem_toList.mpr latest)
  | some target =>
    rw [pending] at latest
    refine List.mem_append_right _ (Option.mem_toList.mpr ?_)
    rw [pending]
    exact latest

namespace Within

variable {later s : Screen}

theorem refl (s : Screen) : s.Within s := ⟨fun _ member => member, fun _ _ => rfl, rfl⟩

theorem trans {first : Screen} (second : later.Within s) (earlier : s.Within first) :
    later.Within first where
  shown f member := earlier.shown f (second.shown f member)
  layouts f member :=
    (second.layouts f member).trans (earlier.layouts f (second.shown f member))
  latest := second.latest.trans earlier.latest

theorem inUse (within : later.Within s) {r : Resource} (used : r ∈ later.inUse) : r ∈ s.inUse := by
  obtain ⟨f, member, what⟩ := mem_inUse.mp used
  rw [within.layouts f member] at what
  exact mem_inUse.mpr ⟨f, within.shown f member, what⟩

theorem latch (s : Screen) : s.latch.Within s := by
  unfold Screen.latch
  split
  · exact refl s
  · rename_i target pending
    refine ⟨fun f member => ?_, fun _ _ => rfl, ?_⟩
    · rw [turnTo_shown] at member
      exact List.mem_append_right _ (by rwa [pending])
    · rw [turnTo_latest, Screen.latest, pending]
      rfl

/-- A call that submits nothing leaves alone what is read, unless it hands out a framebuffer that is
read already. -/
theorem answer {plane : UInt32} {request : Request} {a : interface.Answer request}
    (still : ¬ Submitted (.answered request a))
    (fresh : ∀ f, movement? (.answered request a) = some (.acquire (.framebuffer f)) → f ∉ s.shown) :
    (s.answer plane request a).Within s := by
  cases request with
  | setPlane | commit =>
    cases a with
    | error => exact refl s
    | ok => exact absurd trivial still
  | addFramebuffer layout =>
    cases a with
    | error => exact refl s
    | ok made =>
      refine ⟨fun _ member => member, fun f member => ?_, rfl⟩
      have other : f ≠ made := by
        rintro rfl
        exact fresh f rfl member
      exact if_neg other
  | _ => exact refl s

end Within

theorem after_within {plane : UInt32} {s : Screen} {moment : Moment}
    (still : Still (eventsOf [moment]))
    (fresh : ∀ f, .acquire (.framebuffer f) ∈ movementsOf (eventsOf [moment]) → f ∉ s.shown) :
    (s.after plane moment).Within s := by
  cases moment with
  | latch => exact .latch s
  | event e =>
    cases e with
    | reported n => exact .refl s
    | answered request a =>
      refine .answer (still _ (List.mem_singleton_self _)) fun f handed => fresh f ?_
      rw [eventsOf_event, movementsOf_answered, handed]
      exact List.mem_cons_self

end Screen

/-- As long as nothing is submitted, a plane reads less and less. Something that is guarded only for
being read is then safe if no call gives it back, and none hands it out again. -/
theorem keeps_of_still {s : Screen} {moments : List Moment}
    (shrinks : ∀ {later s : Screen}, later.Within s → ∀ r ∈ guarded later, r ∈ guarded s)
    (still : Still (eventsOf moments))
    (fresh : ∀ f, .acquire (.framebuffer f) ∈ movementsOf (eventsOf moments) → f ∉ s.shown)
    (spared : ∀ r, .release r ∈ movementsOf (eventsOf moments) → r ∉ guarded s) :
    Keeps guarded plane s moments ∧ (s.run plane moments).Within s := by
  induction moments generalizing s with
  | nil => exact ⟨trivial, .refl s⟩
  | cons moment rest ih =>
    rw [← List.singleton_append, eventsOf_append] at still fresh spared
    simp only [movementsOf_append, List.mem_append] at fresh spared
    obtain ⟨stillNow, stillLater⟩ := still_append.mp still
    have now : (s.after plane moment).Within s :=
      Screen.after_within stillNow fun f handed => fresh f (.inl handed)
    obtain ⟨keeps, later⟩ := ih stillLater
      (fun f handed member => fresh f (.inr handed) (now.shown f member))
      (fun r given used => spared r (.inr given) (shrinks now r used))
    exact ⟨⟨fun r given => spared r (.inl (Moment.mem_released?.mp given)), keeps⟩, later.trans now⟩

theorem keeps_of_idle {s : Screen} {moments : List Moment} (idle : eventsOf moments = []) :
    Keeps guarded plane s moments ∧ (s.run plane moments).Within s := by
  induction moments generalizing s with
  | nil => exact ⟨trivial, .refl s⟩
  | cons moment rest ih =>
    cases moment with
    | event e => cases idle
    | latch =>
      obtain ⟨keeps, within⟩ := ih (s := s.latch) idle
      exact ⟨⟨fun _ given => (nomatch given), keeps⟩, within.trans (.latch s)⟩

theorem Keeps.mono {fewer : Screen → List Resource} {s : Screen} {moments : List Moment}
    (keeps : Keeps guarded plane s moments) (subset : ∀ s, ∀ r ∈ fewer s, r ∈ guarded s) :
    Keeps fewer plane s moments := by
  induction moments generalizing s with
  | nil => trivial
  | cons moment rest ih =>
    exact ⟨fun r given member => keeps.1 r given (subset s r member), ih keeps.2⟩

theorem Moment.not_still {moment : Moment} (unblocked : moment.unblocked = true) :
    ¬ Still (eventsOf [moment]) := by
  cases moment with
  | latch => exact absurd unblocked Bool.false_ne_true
  | event e =>
    cases e with
    | reported n => exact absurd unblocked Bool.false_ne_true
    | answered request a =>
      cases request with
      | commit batch nonblock =>
        cases a with
        | error cause => exact absurd unblocked Bool.false_ne_true
        | ok _ => exact fun still => still _ (List.mem_singleton_self _) trivial
      | _ => exact absurd unblocked Bool.false_ne_true

theorem orderly_of_still {s : Screen} {moments : List Moment} (still : Still (eventsOf moments)) :
    Orderly plane s moments := by
  induction moments generalizing s with
  | nil => trivial
  | cons moment rest ih =>
    rw [← List.singleton_append, eventsOf_append, still_append] at still
    exact ⟨fun unblocked => absurd still.1 (Moment.not_still unblocked), ih still.2⟩

theorem Screen.answer_commit {s : Screen} {batch : Batch} {nonblock : Bool} {value : UInt64}
    (named : batch.value? (.plane plane) Property.fbId = some value) :
    s.answer plane (.commit batch nonblock) (.ok ())
      = if nonblock then s.await (framebufferOf value) else s.turnTo (framebufferOf value) := by
  simp only [Screen.answer, named]

namespace Screen

theorem answer_layouts {s : Screen} {request : Request} {a : interface.Answer request}
    (unmade : ∀ f, movement? (.answered request a) ≠ some (.acquire (.framebuffer f))) :
    (s.answer plane request a).layouts = s.layouts := by
  cases a with
  | error cause => cases request <;> rfl
  | ok reply =>
    cases request with
    | setPlane update =>
      simp only [answer]
      split <;> rfl
    | commit batch nonblock =>
      simp only [answer]
      split
      · rfl
      · split <;> rfl
    | addFramebuffer layout => exact absurd rfl (unmade reply)
    | _ => rfl

theorem after_layouts {s : Screen} {moment : Moment}
    (unmade : ∀ f, .acquire (.framebuffer f) ∉ movementsOf (eventsOf [moment])) :
    (s.after plane moment).layouts = s.layouts := by
  cases moment with
  | latch =>
    change s.latch.layouts = s.layouts
    unfold latch
    split <;> rfl
  | event e =>
    cases e with
    | reported n => rfl
    | answered request a =>
      refine answer_layouts fun f made => unmade f ?_
      rw [eventsOf_event, movementsOf_answered, made]
      exact List.mem_cons_self

theorem run_layouts {s : Screen} {moments : List Moment}
    (unmade : ∀ f, .acquire (.framebuffer f) ∉ movementsOf (eventsOf moments)) :
    (s.run plane moments).layouts = s.layouts := by
  induction moments generalizing s with
  | nil => rfl
  | cons moment rest ih =>
    rw [← List.singleton_append, eventsOf_append, movementsOf_append] at unmade
    simp only [List.mem_append, not_or] at unmade
    rw [run_cons, ih fun f => (unmade f).2, after_layouts fun f => (unmade f).1]

theorem layouts_of_made {s : Screen} {moments : List Moment} {before later : List (Event interface)}
    {layout : FramebufferLayout} {f : FramebufferId}
    (split : eventsOf moments = before ++ .answered (.addFramebuffer layout) (.ok f) :: later)
    (unmade : ∀ other, .acquire (.framebuffer other) ∉ movementsOf later) :
    (s.run plane moments).layouts f = layout.handles.toList.filterMap id := by
  rw [← List.singleton_append] at split
  obtain ⟨first, rest, rfl, -, split⟩ := exists_of_eventsOf_append split
  obtain ⟨making, last, rfl, made, after⟩ := exists_of_eventsOf_append split
  obtain ⟨waits, idles, rfl, -, idle⟩ := exists_of_eventsOf_singleton made
  rw [run_append, run_append, run_append, run_cons, run_layouts (by rwa [after]),
    run_layouts (by simp [idle])]
  exact if_pos rfl

theorem after_current {s : Screen} {e : Event interface} (still : ¬ Submitted e) :
    (s.after plane (.event e)).current = s.current := by
  cases e with
  | reported n => rfl
  | answered request a =>
    cases request with
    | setPlane | commit =>
      cases a with
      | error => rfl
      | ok => exact absurd trivial still
    | _ => cases a <;> rfl

end Screen

/-- Nothing that the plane reads is given back by a call that keeps it and during which no commit
latches. -/
theorem not_scanned_of_keeps {s : Screen} {events : List (Event interface)} (still : Still events)
    (keeps : Keeps Screen.scanned plane s (events.map .event)) {r : Resource}
    (given : .release r ∈ movementsOf events) : r ∉ s.scanned := by
  induction events generalizing s with
  | nil => cases given
  | cons e rest ih =>
    rw [← List.singleton_append, movementsOf_append, List.mem_append] at given
    obtain ⟨stillNow, stillLater⟩ := still_cons.mp still
    rcases given with now | later
    · exact keeps.1 r (Moment.mem_released?.mpr now)
    · have same := ih stillLater keeps.2 later
      rwa [Screen.scanned, Screen.after_current stillNow] at same

end Scanout
