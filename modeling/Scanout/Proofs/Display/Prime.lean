import Mathlib.Data.List.Perm.Basic
import Mathlib.Logic.Function.Basic
import Scanout.Proofs.Display.Ledger

/-!
# Handles that are shared

A device that imports buffers keeps, for the file it is used through, at most one handle for every
buffer. Importing a buffer that is open hands out the handle it is open under, and nothing counts
how often: the first call that closes the handle closes it for everyone. `Serves` says how such a
device answers one event, `Along` a list of events, if nothing else ever fails.
-/

namespace Scanout.Display

open Proc

def Request.trades : Request → Bool
  | .importPrimeFd _ | .closeHandle _ => true
  | _ => false

/-- The handle under which each buffer is open, if it is. -/
@[ext]
structure Openings (Buffer : Type) where
  handle? : Buffer → Option GemHandle
  /-- A handle names one buffer. -/
  unique : ∀ {b b' h}, handle? b = some h → handle? b' = some h → b = b'

namespace Openings

variable {Buffer : Type}

def IsOpen (o : Openings Buffer) (h : GemHandle) : Prop := ∃ b, o.handle? b = some h

def opening [DecidableEq Buffer] (o : Openings Buffer) (b : Buffer) (h : GemHandle)
    (unused : ¬o.IsOpen h) : Openings Buffer where
  handle? := Function.update o.handle? b (some h)
  unique := by
    intro c c' k named namedToo
    have other : ∀ {x}, x ≠ b → Function.update o.handle? b (some h) x = some k →
        o.handle? x = some k := by
      intro x apart found
      rwa [Function.update_of_ne apart] at found
    by_cases first : c = b
    · by_cases second : c' = b
      · rw [first, second]
      · rw [first, Function.update_self] at named
        cases named
        exact absurd ⟨c', other second namedToo⟩ unused
    · by_cases second : c' = b
      · rw [second, Function.update_self] at namedToo
        cases namedToo
        exact absurd ⟨c, other first named⟩ unused
      · exact o.unique (other first named) (other second namedToo)

def closing (o : Openings Buffer) (h : GemHandle) : Openings Buffer where
  handle? b := if o.handle? b = some h then none else o.handle? b
  unique := by
    intro b b' k named namedToo
    split at named
    · cases named
    · split at namedToo
      · cases namedToo
      · exact o.unique named namedToo

theorem closing_eq_some {o : Openings Buffer} {h k : GemHandle} {b : Buffer} :
    (o.closing h).handle? b = some k ↔ o.handle? b = some k ∧ k ≠ h := by
  simp only [closing]
  split
  · rename_i same
    rw [same]
    simp [eq_comm]
  · rename_i other
    constructor
    · intro named
      exact ⟨named, fun same => other (same ▸ named)⟩
    · exact And.left

theorem isOpen_closing {o : Openings Buffer} {h k : GemHandle} :
    (o.closing h).IsOpen k ↔ o.IsOpen k ∧ k ≠ h := by
  simp only [IsOpen, closing_eq_some, exists_and_right]

/-- The handles are those under which the buffers are open, in any order. -/
def Names (o : Openings Buffer) (buffers : List Buffer) (handles : List GemHandle) : Prop :=
  (buffers.map o.handle?).Perm (handles.map some)

namespace Names

variable {o last : Openings Buffer} {buffers more : List Buffer} {handles others : List GemHandle}

theorem nil : o.Names [] [] := List.Perm.refl _

theorem append (names : o.Names buffers handles) (too : o.Names more others) :
    o.Names (buffers ++ more) (handles ++ others) := by
  unfold Names
  rw [List.map_append, List.map_append]
  exact List.Perm.append names too

theorem of_perm (names : o.Names buffers handles) (same : buffers.Perm more)
    (alike : handles.Perm others) : o.Names more others :=
  ((same.map _).symm.trans names).trans (alike.map _)

theorem named (names : o.Names buffers handles) {b : Buffer} (member : b ∈ buffers) :
    ∃ h ∈ handles, o.handle? b = some h := by
  have among := names.mem_iff.mp (List.mem_map_of_mem (f := o.handle?) member)
  obtain ⟨h, held, same⟩ := List.mem_map.mp among
  exact ⟨h, held, same.symm⟩

theorem isOpen (names : o.Names buffers handles) {h : GemHandle} (held : h ∈ handles) :
    o.IsOpen h := by
  have among := names.mem_iff.mpr (List.mem_map_of_mem (f := some) held)
  obtain ⟨b, -, named⟩ := List.mem_map.mp among
  exact ⟨b, named⟩

theorem lasts (names : o.Names buffers handles)
    (stays : ∀ b, ∀ h ∈ handles, o.handle? b = some h → last.handle? b = some h) :
    last.Names buffers handles := by
  have same : buffers.map last.handle? = buffers.map o.handle? := by
    refine List.map_congr_left fun b member => ?_
    obtain ⟨h, held, named⟩ := names.named member
    rw [named]
    exact stays b h held named
  unfold Names
  rw [same]
  exact names

theorem nodup_iff (names : o.Names buffers handles) : buffers.Nodup ↔ handles.Nodup := by
  rw [← List.nodup_map_iff (Option.some_injective GemHandle), ← List.Perm.nodup_iff names]
  constructor
  · intro apart
    refine apart.map_on ?_
    intro b member b' memberToo same
    obtain ⟨h, -, named⟩ := names.named member
    exact o.unique named (same ▸ named)
  · exact List.Nodup.of_map _

end Names

/-- How a device answers on which `memory` tells the buffer behind every file descriptor. -/
inductive Serves [DecidableEq Buffer] (memory : Fd → Buffer) (o : Openings Buffer) :
    Event interface → Openings Buffer → Prop where
  | reported (n : Notice) : Serves memory o (.reported n) o
  | found {fd : Fd} {h : GemHandle} (isOpen : o.handle? (memory fd) = some h) :
      Serves memory o (.answered (.importPrimeFd fd) (.ok h)) o
  | opened {fd : Fd} {h : GemHandle} (shut : o.handle? (memory fd) = none)
      (unused : ¬o.IsOpen h) :
      Serves memory o (.answered (.importPrimeFd fd) (.ok h)) (o.opening (memory fd) h unused)
  | closed {h : GemHandle} (isOpen : o.IsOpen h) :
      Serves memory o (.answered (.closeHandle h) (.ok ())) (o.closing h)
  | refused {h : GemHandle} {cause : DeviceError} (shut : ¬o.IsOpen h) :
      Serves memory o (.answered (.closeHandle h) (.error cause)) o
  | other {request : Request} {reply : request.Reply} (other : request.trades = false) :
      Serves memory o (.answered request (.ok reply)) o

inductive Along [DecidableEq Buffer] (memory : Fd → Buffer) :
    Openings Buffer → List (Event interface) → Openings Buffer → Prop where
  | nil (o : Openings Buffer) : Along memory o [] o
  | cons {o next last : Openings Buffer} {event : Event interface}
      {events : List (Event interface)} (serves : Serves memory o event next)
      (later : Along memory next events last) : Along memory o (event :: events) last

variable [DecidableEq Buffer] {memory : Fd → Buffer} {o next last : Openings Buffer}
  {events before after : List (Event interface)}

/-- An import hands out the handle that the buffer is open under from then on. -/
theorem Serves.of_import {fd : Fd} {h : GemHandle}
    (serves : Serves memory o (.answered (.importPrimeFd fd) (.ok h)) next) :
    next.handle? (memory fd) = some h ∧
      ∀ b k, o.handle? b = some k → next.handle? b = some k := by
  cases serves with
  | found isOpen => exact ⟨isOpen, fun _ _ named => named⟩
  | opened shut unused =>
    refine ⟨Function.update_self .., fun b k named => ?_⟩
    have other : b ≠ memory fd := by
      rintro rfl
      rw [shut] at named
      cases named
    exact (Function.update_of_ne other ..).trans named
  | other other => cases other

theorem Along.append (first : Along memory o before next) (second : Along memory next after last) :
    Along memory o (before ++ after) last := by
  induction first with
  | nil => exact second
  | cons serves _ ih => exact .cons serves (ih second)

theorem along_append :
    Along memory o (before ++ after) last ↔
      ∃ next, Along memory o before next ∧ Along memory next after last := by
  constructor
  · intro along
    induction before generalizing o with
    | nil => exact ⟨o, .nil o, along⟩
    | cons event rest ih =>
      cases along with
      | cons serves later =>
        obtain ⟨next, first, second⟩ := ih later
        exact ⟨next, .cons serves first, second⟩
  · rintro ⟨next, first, second⟩
    exact first.append second

theorem Along.of_error (along : Along memory o events last) {request : Request}
    {cause : DeviceError} (failed : .answered request (.error cause) ∈ events) :
    ∃ h, request = .closeHandle h := by
  induction along with
  | nil => cases failed
  | cons serves _ ih =>
    rcases List.mem_cons.mp failed with here | later
    · subst here
      cases serves with
      | @refused h => exact ⟨h, rfl⟩
    · exact ih later

theorem Along.eq_of_idle (along : Along memory o events last)
    (idle : ∀ request ∈ requestsOf events, request.trades = false) : last = o := by
  induction along with
  | nil => rfl
  | cons serves _ ih =>
    cases serves with
    | reported => exact ih idle
    | found => cases idle _ List.mem_cons_self
    | opened => cases idle _ List.mem_cons_self
    | closed => cases idle _ List.mem_cons_self
    | refused => cases idle _ List.mem_cons_self
    | other => exact ih fun request later => idle request (List.mem_cons_of_mem _ later)

/-- Releases close the handles among them, and nothing opens one. -/
theorem Along.handle?_of_releases {rs : List Resource} (along : Along memory o events last)
    (releases : requestsOf events = rs.map Resource.releaseCall) {b : Buffer} {h : GemHandle} :
    last.handle? b = some h ↔ o.handle? b = some h ∧ .handle h ∉ rs := by
  induction along generalizing rs with
  | nil =>
    obtain rfl := List.map_eq_nil_iff.mp releases.symm
    simp
  | @cons o _ _ event _ serves _ ih =>
    cases event with
    | reported n =>
      cases serves
      exact ih releases
    | answered request answer =>
      obtain ⟨r, rest, rfl, rfl, others⟩ := List.map_eq_cons_iff.mp releases.symm
      rw [ih others.symm, List.mem_cons, not_or, ← and_assoc]
      refine and_congr_left fun _ => ?_
      cases r with
      | handle k =>
        rw [Resource.handle.injEq]
        cases serves with
        | closed => exact closing_eq_some
        | refused shut =>
          constructor
          · intro named
            exact ⟨named, fun same => shut (same ▸ ⟨b, named⟩)⟩
          · exact And.left
        | other other => cases other
      | framebuffer f =>
        cases serves
        simp
      | blob f =>
        cases serves
        simp

end Openings

end Scanout.Display

namespace Scanout.Simulation

open Display Proc

/-! ### A device that shares handles

It opens every buffer under the buffer's own number, and everything but the closing of a handle that
is not open succeeds. -/

structure PrimeDevice where
  opened : List UInt32

namespace PrimeDevice

def openings (d : PrimeDevice) : Openings UInt32 where
  handle? b := if b ∈ d.opened then some ⟨b⟩ else none
  unique := by
    intro b b' h named namedToo
    split at named
    · split at namedToo
      · cases named
        cases namedToo
        rfl
      · cases namedToo
    · cases named

def answer (memory : Fd → UInt32) :
    (r : Request) → PrimeDevice → Except DeviceError r.Reply × PrimeDevice
  | .supportsPrimeImport, d => (.ok true, d)
  | .crtcModeSize _, d => (.ok none, d)
  | .propertyBlob .., d => (.ok none, d)
  | .importPrimeFd fd, d => (.ok ⟨memory fd⟩, ⟨d.opened.insert (memory fd)⟩)
  | .closeHandle h, d =>
    if h.id ∈ d.opened then (.ok (), ⟨d.opened.filter (· ≠ h.id)⟩)
    else (.error (.os Errno.invalidArgument), d)
  | .addFramebuffer _, d => (.ok ⟨1⟩, d)
  | .destroyFramebuffer _, d => (.ok (), d)
  | .createBlob _, d => (.ok ⟨1⟩, d)
  | .destroyBlob _, d => (.ok (), d)
  | .setPlane _, d => (.ok (), d)
  | .commit .., d => (.ok (), d)

variable {memory : Fd → UInt32} {d : PrimeDevice}

theorem isOpen_openings {h : GemHandle} : d.openings.IsOpen h ↔ h.id ∈ d.opened := by
  constructor
  · rintro ⟨b, named⟩
    simp only [openings] at named
    split at named
    · rename_i among
      cases named
      exact among
    · cases named
  · intro among
    exact ⟨h.id, if_pos among⟩

theorem openings_insert (b : UInt32) (unused : ¬d.openings.IsOpen ⟨b⟩) :
    openings ⟨d.opened.insert b⟩ = d.openings.opening b ⟨b⟩ unused := by
  refine Openings.ext (funext fun c => ?_)
  simp only [openings, Openings.opening, List.mem_insert_iff]
  by_cases same : c = b
  · rw [same, Function.update_self, if_pos (.inl rfl)]
  · rw [Function.update_of_ne same]
    simp [same]

theorem openings_filter (h : GemHandle) :
    openings ⟨d.opened.filter (· ≠ h.id)⟩ = d.openings.closing h := by
  refine Openings.ext (funext fun b => Option.ext fun k => ?_)
  rw [Openings.closing_eq_some]
  cases h with
  | mk id =>
    simp only [openings, List.mem_filter, decide_eq_true_eq]
    by_cases among : b ∈ d.opened
    · by_cases same : b = id
      · subst same
        simp [among, eq_comm]
      · simp [among, same]
        rintro rfl
        simpa using same
    · simp [among]

theorem serves_answer (r : Request) :
    d.openings.Serves memory (.answered r (d.answer memory r).1) (d.answer memory r).2.openings := by
  cases r with
  | importPrimeFd fd =>
    by_cases found : memory fd ∈ d.opened
    · have same : (d.answer memory (.importPrimeFd fd)).2 = d := by
        simp [answer, List.insert_of_mem found]
      rw [same]
      exact .found (if_pos found)
    · have unused : ¬d.openings.IsOpen ⟨memory fd⟩ := fun isOpen => found (isOpen_openings.mp isOpen)
      have next := openings_insert (memory fd) unused
      change d.openings.Serves memory _ (openings ⟨d.opened.insert (memory fd)⟩)
      rw [next]
      exact .opened (if_neg found) unused
  | closeHandle h =>
    by_cases found : h.id ∈ d.opened
    · have next : d.answer memory (.closeHandle h) = (.ok (), ⟨d.opened.filter (· ≠ h.id)⟩) :=
        if_pos found
      rw [next, openings_filter]
      exact .closed (isOpen_openings.mpr found)
    · have next : d.answer memory (.closeHandle h) = (.error (.os Errno.invalidArgument), d) :=
        if_neg found
      rw [next]
      exact .refused fun isOpen => found (isOpen_openings.mp isOpen)
  | supportsPrimeImport | crtcModeSize | propertyBlob | addFramebuffer | destroyFramebuffer
  | createBlob | destroyBlob | setPlane | commit => exact .other rfl

/-- Every run of a program on it is one that such a device gives. -/
theorem along_run {α : Type} (p : Program α) (d : PrimeDevice) :
    d.openings.Along memory (p.run (answer memory) d).1
      (p.run (answer memory) d).2.2.openings := by
  induction p generalizing d with
  | result value => exact .nil _
  | report n next ih => exact .cons (.reported n) (ih d)
  | request r next ih => exact .cons (serves_answer r) (ih _ _)

end PrimeDevice

end Scanout.Simulation
