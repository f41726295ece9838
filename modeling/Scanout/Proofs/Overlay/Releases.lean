import Scanout.Proofs.Import.Shared
import Scanout.Proofs.Overlay.Generation

/-!
# Releases on a device that shares handles

A generation closes the handles it lists, whatever other generations list. `ClosesOnce` says that
this goes well, `closesOnce_releases` what it takes when some generations of a ring are released, and
`Turnover.closesOnce` what that means for the buffers of their images: there it goes well just if the
ring shows none of them twice.
-/

namespace Scanout

open Display Proc

/-- The calls that a release is made of. -/
def Display.Request.retires : Request → Bool
  | .closeHandle _ | .destroyFramebuffer _ => true
  | _ => false

/-- A call that opens nothing, closes nothing and releases nothing. -/
def Display.Request.Passive (request : Request) : Prop :=
  request.trades = false ∧ request.retires = false

namespace Generation

variable {Buffer : Type} {memory : Option Image → Fd → Buffer}

def buffers (memory : Option Image → Fd → Buffer) (g : Generation) : List Buffer :=
  match g.image with
  | none => []
  | some image => image.descriptor.buffersOf (memory (some image)) image.descriptor.scanoutObjects

def handlesOf (gs : List Generation) : List GemHandle := gs.flatMap fun g => g.handles.held

theorem handlesOf_cons (g : Generation) (gs : List Generation) :
    handlesOf (g :: gs) = g.handles.held ++ handlesOf gs :=
  List.flatMap_cons

theorem handlesOf_append (gs others : List Generation) :
    handlesOf (gs ++ others) = handlesOf gs ++ handlesOf others :=
  List.flatMap_append

theorem handle_mem_resources {gs : List Generation} {h : GemHandle} :
    .handle h ∈ gs.flatMap resources ↔ h ∈ handlesOf gs := by
  simp [handlesOf, resources, HandleSet.resources]

variable {o : Openings Buffer} {gs : List Generation}

/-- Every generation lists the handles under which the buffers of its image are open. -/
def Listed (memory : Option Image → Fd → Buffer) (o : Openings Buffer) (gs : List Generation) :
    Prop :=
  ∀ g ∈ gs, o.Names (g.buffers memory) g.handles.held

/-- No buffer is scanned out from twice, by one generation or by two. -/
def Apart (memory : Option Image → Fd → Buffer) (gs : List Generation) : Prop :=
  (gs.flatMap (buffers memory)).Nodup

instance (memory : Option Image → Fd → Buffer) [DecidableEq Buffer] (gs : List Generation) :
    Decidable (Apart memory gs) :=
  inferInstanceAs (Decidable (List.Nodup _))

theorem Listed.names (listed : Listed memory o gs) :
    o.Names (gs.flatMap (buffers memory)) (handlesOf gs) := by
  induction gs with
  | nil => exact .nil
  | cons g rest ih =>
    obtain ⟨here, later⟩ := List.forall_mem_cons.mp listed
    exact Openings.Names.append here (ih later)

theorem Listed.apart_iff (listed : Listed memory o gs) :
    Apart memory gs ↔ (handlesOf gs).Nodup :=
  listed.names.nodup_iff

/-- Every closing succeeds, and none closes a handle of a generation that is yet to be released.
`held` are these generations, oldest first. A release begins with the framebuffer, so there the
oldest is no longer one of them. -/
def ClosesOnce : (held : List Generation) → List (Event interface) → Prop
  | _, [] => True
  | held, .reported _ :: later => ClosesOnce held later
  | held, .answered (.destroyFramebuffer _) _ :: later => ClosesOnce held.tail later
  | held, .answered (.closeHandle h) answer :: later =>
    answer = .ok () ∧ h ∉ handlesOf held ∧ ClosesOnce held later
  | held, .answered _ _ :: later => ClosesOnce held later

variable {held : List Generation} {before after : List (Event interface)}

theorem closesOnce_closeHandle {h : GemHandle} {answer : interface.Answer (.closeHandle h)} :
    ClosesOnce held (.answered (.closeHandle h) answer :: after) ↔
      answer = .ok () ∧ h ∉ handlesOf held ∧ ClosesOnce held after :=
  Iff.rfl

theorem closesOnce_append_of_idle (idle : ∀ request ∈ requestsOf before, request.retires = false) :
    ClosesOnce held (before ++ after) ↔ ClosesOnce held after := by
  induction before with
  | nil => rfl
  | cons event rest ih =>
    cases event with
    | reported n => exact ih idle
    | answered request answer =>
      have here := idle request List.mem_cons_self
      have later := ih fun r asked => idle r (List.mem_cons_of_mem _ asked)
      cases request with
      | closeHandle | destroyFramebuffer => cases here
      | supportsPrimeImport | crtcModeSize | propertyBlob | importPrimeFd | addFramebuffer
      | createBlob | destroyBlob | setPlane | commit => exact later

variable [DecidableEq Buffer] {reads : Fd → Buffer} {next : Openings Buffer}

/-- To close some handles once, they have to be open and no two of them the same. -/
theorem closesOnce_closes {handles : List GemHandle} (along : o.Along reads before next)
    (closes : requestsOf before = handles.map .closeHandle) :
    ClosesOnce held (before ++ after) ↔
      handles.Nodup ∧ (∀ h ∈ handles, o.IsOpen h) ∧
        (∀ h ∈ handles, h ∉ handlesOf held) ∧ ClosesOnce held after := by
  induction along generalizing handles with
  | nil =>
    obtain rfl := List.map_eq_nil_iff.mp closes.symm
    simp
  | @cons o _ _ event _ serves _ ih =>
    cases event with
    | reported n =>
      cases serves
      exact ih closes
    | answered request answer =>
      obtain ⟨h, rest, rfl, rfl, others⟩ := List.map_eq_cons_iff.mp closes.symm
      cases serves with
      | closed isOpen =>
        have rest := ih others.symm
        simp only [Openings.isOpen_closing] at rest
        rw [List.cons_append, closesOnce_closeHandle, rest, List.nodup_cons,
          List.forall_mem_cons, List.forall_mem_cons]
        constructor
        · rintro ⟨-, spares, once, opened, others, later⟩
          have unlike : h ∉ _ := fun again => (opened h again).2 rfl
          exact ⟨⟨unlike, once⟩, ⟨isOpen, fun k among => (opened k among).1⟩,
            ⟨spares, others⟩, later⟩
        · rintro ⟨⟨unlike, once⟩, ⟨-, opened⟩, ⟨spares, others⟩, later⟩
          refine ⟨rfl, spares, once, fun k among => ⟨opened k among, ?_⟩, others, later⟩
          rintro rfl
          exact unlike among
      | refused shut =>
        refine iff_of_false (fun once => ?_) fun ⟨_, opened, _⟩ => shut (opened h List.mem_cons_self)
        cases once.1
      | other other => cases other

/-- A release begins with the framebuffer, and the generation has left the ring. -/
theorem closesOnce_release {g : Generation} (framed : g.framebuffer.isSome)
    (along : o.Along reads before next)
    (releases : requestsOf before = g.resources.map Resource.releaseCall) :
    ClosesOnce (g :: held) (before ++ after) ↔
      g.handles.held.Nodup ∧ (∀ h ∈ g.handles.held, o.IsOpen h) ∧
        (∀ h ∈ g.handles.held, h ∉ handlesOf held) ∧ ClosesOnce held after := by
  obtain ⟨framebuffer, made⟩ := Option.isSome_iff_exists.mp framed
  have calls : requestsOf before
      = .destroyFramebuffer framebuffer :: g.handles.held.map .closeHandle := by
    rw [releases, resources, made, HandleSet.resources]
    simp [Resource.releaseCall, Function.comp_def]
  induction along with
  | nil => cases calls
  | @cons o _ _ event _ serves later ih =>
    cases event with
    | reported n =>
      cases serves
      exact ih releases calls
    | answered request answer =>
      obtain ⟨rfl, closes⟩ := List.cons.inj calls
      cases serves
      exact closesOnce_closes later closes

theorem isOpen_of_releases (along : o.Along reads before next)
    (releases : requestsOf before = (gs.flatMap resources).map Resource.releaseCall)
    {h : GemHandle} : next.IsOpen h ↔ o.IsOpen h ∧ h ∉ handlesOf gs := by
  simp only [Openings.IsOpen, along.handle?_of_releases releases, handle_mem_resources,
    exists_and_right]

/-- To release some generations of the ring and close nothing twice, no handle may be listed twice
among them, and none by a generation that stays. -/
theorem closesOnce_releases {kept : List Generation} (framed : ∀ g ∈ gs, g.framebuffer.isSome)
    (along : o.Along reads before next)
    (releases : requestsOf before = (gs.flatMap resources).map Resource.releaseCall) :
    ClosesOnce (gs ++ kept) (before ++ after) ↔
      (handlesOf gs).Nodup ∧ (∀ h ∈ handlesOf gs, o.IsOpen h) ∧
        (∀ h ∈ handlesOf gs, h ∉ handlesOf kept) ∧ ClosesOnce kept after := by
  induction gs generalizing before o with
  | nil =>
    have idle : ∀ request ∈ requestsOf before, request.retires = false := by simp [releases]
    simp [handlesOf, closesOnce_append_of_idle idle]
  | cons g rest ih =>
    rw [List.flatMap_cons, List.map_append] at releases
    obtain ⟨first, others, rfl, here, there⟩ := List.filterMap_eq_append_iff.mp releases
    obtain ⟨middle, begins, ends⟩ := Openings.along_append.mp along
    obtain ⟨framedHere, framedThere⟩ := List.forall_mem_cons.mp framed
    have later := ih framedThere ends there
    have opened : ∀ h, middle.IsOpen h ↔ o.IsOpen h ∧ h ∉ g.handles.held := by
      have alone : requestsOf first = ([g].flatMap resources).map Resource.releaseCall := by
        rwa [List.flatMap_singleton]
      intro h
      rw [isOpen_of_releases begins alone, handlesOf, List.flatMap_singleton]
    rw [List.append_assoc, List.cons_append, closesOnce_release framedHere begins here, later,
      handlesOf_cons]
    simp only [handlesOf_append, List.mem_append, not_or, opened, List.nodup_append]
    constructor
    · rintro ⟨once, isOpen, spares, onceToo, isOpenToo, sparesToo, done⟩
      refine ⟨⟨once, onceToo, fun h among k amongToo same => ?_⟩, ?_, ?_, done⟩
      · exact (spares h among).1 (same ▸ amongToo)
      · rintro h (among | among)
        · exact isOpen h among
        · exact (isOpenToo h among).1
      · rintro h (among | among)
        · exact (spares h among).2
        · exact sparesToo h among
    · rintro ⟨⟨once, onceToo, unlike⟩, isOpen, spares, done⟩
      refine ⟨once, fun h among => isOpen h (.inl among), fun h among => ⟨fun again => ?_, ?_⟩,
        onceToo, fun h among => ⟨isOpen h (.inr among), fun again => ?_⟩,
        fun h among => spares h (.inr among), done⟩
      · exact unlike h among h again rfl
      · exact spares h (.inl among)
      · exact unlike h again h among rfl

/-- What happens to the ring while a device is asked for something: some generations are released
from its front, and some others come in at its end. -/
inductive Turnover (memory : Option Image → Fd → Buffer) (reads : Fd → Buffer) :
    List Generation → List (Event interface) → List Generation → Prop where
  | mk {gone kept come : List Generation} {query releases rest : List (Event interface)}
      (passive : ∀ request ∈ requestsOf query, request.Passive)
      (released : requestsOf releases = (gone.flatMap resources).map Resource.releaseCall)
      (spares : ∀ request ∈ requestsOf rest, request.retires = false)
      (comes : ∀ {o last : Openings Buffer}, o.Along reads rest last →
        (∀ b h, o.handle? b = some h → last.handle? b = some h) ∧ Listed memory last come) :
      Turnover memory reads (gone ++ kept) (query ++ releases ++ rest) (kept ++ come)

theorem Turnover.still {slots : List Generation} {events : List (Event interface)}
    (passive : ∀ request ∈ requestsOf events, request.Passive) :
    Turnover memory reads slots events slots := by
  have turnover : Turnover memory reads ([] ++ slots) (events ++ [] ++ []) (slots ++ []) := by
    refine .mk passive rfl (fun request asked => nomatch asked) fun along => ?_
    cases along
    exact ⟨fun _ _ named => named, List.forall_mem_nil _⟩
  simpa using turnover

/-- A ring that shows no buffer twice is turned over well. If it is turned over well, its list stays
right, and a ring that comes to show no buffer twice did not before. -/
theorem Turnover.closesOnce {last : Openings Buffer} {slots left : List Generation}
    {events : List (Event interface)} (turnover : Turnover memory reads slots events left)
    (framed : ∀ g ∈ slots, g.framebuffer.isSome) (listed : Listed memory o slots)
    (along : o.Along reads events last) :
    (Apart memory slots → ClosesOnce slots events) ∧
      (ClosesOnce slots events →
        Listed memory last left ∧ (Apart memory left → Apart memory slots)) := by
  obtain @⟨gone, kept, come, query, releases, rest, passive, released, spares, comes⟩ := turnover
  obtain ⟨middle, begins, coming⟩ := Openings.along_append.mp along
  obtain ⟨asked, querying, releasing⟩ := Openings.along_append.mp begins
  obtain rfl := querying.eq_of_idle fun request member => (passive request member).1
  obtain ⟨framedGone, -⟩ := List.forall_mem_append.mp framed
  obtain ⟨listedGone, listedKept⟩ := List.forall_mem_append.mp listed
  have silent : ClosesOnce kept rest := by
    rw [← List.append_nil rest, closesOnce_append_of_idle spares]
    trivial
  rw [List.append_assoc, closesOnce_append_of_idle fun request member => (passive request member).2,
    closesOnce_releases framedGone releasing released, Listed.apart_iff listed, handlesOf_append,
    List.nodup_append]
  constructor
  · rintro ⟨once, -, unlike⟩
    refine ⟨once, fun h among => (Listed.names listedGone).isOpen among, fun h among again => ?_,
      silent⟩
    exact unlike h among h again rfl
  · rintro ⟨once, -, unlike, -⟩
    obtain ⟨grows, listedCome⟩ := comes coming
    have stays : Listed memory last kept := by
      intro g member
      refine (listedKept g member).lasts fun b h held named => grows b h ?_
      refine (releasing.handle?_of_releases released).mpr ⟨named, fun among => ?_⟩
      exact unlike h (handle_mem_resources.mp among) (List.mem_flatMap_of_mem member held)
    refine ⟨List.forall_mem_append.mpr ⟨stays, listedCome⟩, fun apart => ⟨once, ?_, ?_⟩⟩
    · rw [← Listed.apart_iff listedKept]
      rw [Apart, List.flatMap_append] at apart
      exact (List.nodup_append.mp apart).1
    · rintro h among k again rfl
      exact unlike h among again

end Generation

end Scanout
