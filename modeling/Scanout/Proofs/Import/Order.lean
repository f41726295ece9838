import Scanout.Proofs.Frame.Descriptor
import Scanout.Proofs.Import.Acquired
import Scanout.Proofs.Proc.Answers
import Scanout.Simulation.DisplayDevice

/-!
# The order of an import

An import goes through the objects that its planes lie in, in the order of first use, and asks the
device for each of them once. It stops at the first object that the frame does not have or that the
device refuses, and then closes what it has opened by then.

The planes themselves may name an object many times. `Extends.ends` is the induction over them: what
is left to be imported are the objects that have no handle yet, so a plane whose object has one
leaves them as they are.
-/

namespace Scanout

open Display Proc

abbrev exchangesOf {I : Interface} (events : List (Event I)) : List (Event I) :=
  callsOf (fun _ => true) events

theorem mem_exchangesOf {I : Interface} {r : I.Request} {a : I.Answer r} {events : List (Event I)} :
    .answered r a ∈ exchangesOf events ↔ .answered r a ∈ events :=
  mem_callsOf.trans (and_iff_left rfl)

namespace HandleSet

/-- An object of a frame that was imported, with the handle it was given. -/
structure Imported where
  index : Nat
  memory : MemoryObject
  handle : GemHandle

def Imported.exchange (x : Imported) : Event interface :=
  .answered (.importPrimeFd x.memory.fd) (.ok x.handle)

/-- A set has the handles of another, and beside them those of some imports. -/
structure Adds (s : HandleSet) (imports : List Imported) (filled : HandleSet) : Prop where
  get?_iff : ∀ i h, filled.get? i = some h ↔
    s.get? i = some h ∨ ∃ x ∈ imports, x.index = i ∧ x.handle = h
  held : filled.held.Perm (imports.map Imported.handle ++ s.held)

/-- How an import ends that has filled a set, and has these objects still to import. -/
inductive Ends (d : FrameDescriptor) (filled : HandleSet) :
    List Nat → List (Event interface) → Except PresentError HandleSet → Prop where
  | complete : Ends d filled [] [] (.ok filled)
  | unresolved {i : Nat} {rest : List Nat} {closes : List (Event interface)}
      (absent : d.object? i = none) (closed : requestsOf closes = filled.held.map .closeHandle) :
      Ends d filled (i :: rest) closes (.error (.missingObject i))
  | refused {i : Nat} {rest : List Nat} {memory : MemoryObject} {cause : DeviceError}
      {closes : List (Event interface)} (found : d.object? i = some memory)
      (closed : requestsOf closes = filled.held.map .closeHandle) :
      Ends d filled (i :: rest) (.answered (.importPrimeFd memory.fd) (.error cause) :: closes)
        (.error (.objectImportFailed i cause))

variable {d : FrameDescriptor} {planes : List Plane} {s filled : HandleSet}
  {events : List (Event interface)} {outcome : Except PresentError HandleSet}

/-- Objects that planes lie in and that have no handle yet, in the order of first use. -/
def awaited (s : HandleSet) (planes : List Plane) : List Nat :=
  ((planes.map Plane.object).filter fun i => (s.get? i).isNone).eraseDups

theorem awaited_empty (planes : List Plane) : empty.awaited planes = usedObjects planes := by
  simp [awaited, usedObjects]

theorem awaited_of_present {plane : Plane} (rest : List Plane)
    (present : (s.get? plane.object).isSome) : s.awaited (plane :: rest) = s.awaited rest := by
  rw [awaited, List.map_cons, List.filter_cons_of_neg (by simpa [Option.ne_none_iff_isSome])]
  rfl

theorem awaited_of_missing {plane : Plane} (rest : List Plane)
    (missing : s.get? plane.object = none) :
    ∃ later, s.awaited (plane :: rest) = plane.object :: later := by
  rw [awaited, List.map_cons, List.filter_cons_of_pos (by simp [missing]), List.eraseDups_cons]
  exact ⟨_, rfl⟩

theorem awaited_insert {plane : Plane} (rest : List Plane) (bound : plane.object < maxPlanes)
    (missing : s.get? plane.object = none) (h : GemHandle) :
    s.awaited (plane :: rest)
      = plane.object :: (s.insert plane.object bound h).awaited rest := by
  rw [awaited, List.map_cons, List.filter_cons_of_pos (by simp [missing]), List.eraseDups_cons,
    List.filter_filter, awaited]
  congr 3
  funext i
  rw [get?_insert]
  by_cases same : i = plane.object <;> simp [same]

theorem adds_nil (s : HandleSet) : Adds s [] s where
  get?_iff i h := by simp
  held := List.Perm.refl _

theorem Adds.cons {x : Imported} {imports : List Imported} (bound : x.index < maxPlanes)
    (missing : s.get? x.index = none)
    (adds : Adds (s.insert x.index bound x.handle) imports filled) :
    Adds s (x :: imports) filled where
  get?_iff i h := by
    rw [adds.get?_iff, get?_insert, List.exists_mem_cons_iff, ← or_assoc]
    refine or_congr ?_ Iff.rfl
    split
    · rename_i same
      subst same
      simp [missing]
    · rename_i other
      simp [Ne.symm other]
  held := by
    refine adds.held.trans ?_
    refine ((held_insert_perm bound missing x.handle).append_left _).trans ?_
    exact List.perm_middle

theorem closes_of_rollBack {closes : List (Event interface)} {u : Unit}
    (rolled : s.rollBack.Runs closes u) : requestsOf closes = s.held.map .closeHandle := by
  rw [(rollBack_runs rolled).1, resources, List.map_map]
  rfl

/-- The calls of an import, in order: the objects that it gets hold of, and then how it ends. -/
theorem Extends.ends (ways : Extends d planes s events outcome) :
    ∃ imports rest ending filled, s.awaited planes = imports.map Imported.index ++ rest ∧
      exchangesOf events = imports.map Imported.exchange ++ exchangesOf ending ∧
      (∀ x ∈ imports, d.object? x.index = some x.memory) ∧ Adds s imports filled ∧
      Ends d filled rest ending outcome := by
  induction ways with
  | done s => exact ⟨[], [], [], s, rfl, rfl, by simp, adds_nil s, .complete⟩
  | kept present _ ih =>
    rw [awaited_of_present _ present]
    exact ih
  | @unknown plane rest s events absent rolled missing =>
    obtain ⟨later, awaited_eq⟩ := awaited_of_missing rest missing
    have unlisted : d.object? plane.object = none := by
      by_contra listed
      obtain ⟨object, found⟩ := Option.ne_none_iff_exists'.mp listed
      exact d.object_present (List.getElem?_eq_some_iff.mp found).1 absent
    exact ⟨[], _, events, s, awaited_eq, rfl, by simp, adds_nil s,
      .unresolved unlisted (closes_of_rollBack rolled)⟩
  | @imported plane rest s memory h events _ missing found bound _ ih =>
    obtain ⟨imports, left, ending, filled, awaited_eq, calls, listed, adds, ends⟩ := ih
    refine ⟨⟨plane.object, memory, h⟩ :: imports, left, ending, filled, ?_, ?_, ?_, ?_, ends⟩
    · rw [awaited_insert rest bound missing h, awaited_eq]
      rfl
    · exact congrArg (List.cons _) calls
    · exact List.forall_mem_cons.mpr ⟨found, listed⟩
    · exact adds.cons bound missing
  | @failed plane rest s memory events cause found rolled missing =>
    obtain ⟨later, awaited_eq⟩ := awaited_of_missing rest missing
    exact ⟨[], _, _, s, awaited_eq, rfl, by simp, adds_nil s,
      .refused found (closes_of_rollBack rolled)⟩

theorem Extends.complete {next : HandleSet} (ways : Extends d planes s events (.ok next)) :
    ∃ imports, imports.map Imported.index = s.awaited planes ∧
      exchangesOf events = imports.map Imported.exchange ∧
      (∀ x ∈ imports, d.object? x.index = some x.memory) ∧ Adds s imports next := by
  obtain ⟨imports, rest, ending, filled, wanted, calls, listed, adds, ends⟩ := ways.ends
  cases ends
  rw [List.append_nil] at wanted
  exact ⟨imports, wanted.symm, calls.trans (List.append_nil _), listed, adds⟩

def Refused (events : List (Event interface)) : Prop :=
  ∃ fd cause, .answered (.importPrimeFd fd) (.error cause) ∈ events

/-- What an import of the objects of some planes has done, and what came of it. -/
structure ImportsInOrder (d : FrameDescriptor) (planes : List Plane)
    (events : List (Event interface)) (outcome : Except PresentError HandleSet)
    (imports : List Imported) (filled : HandleSet) : Prop where
  /-- The objects are asked for in the order of first use, until one is missing or is refused. -/
  calls : ∃ rest ending, usedObjects planes = imports.map Imported.index ++ rest ∧
    exchangesOf events = imports.map Imported.exchange ++ exchangesOf ending ∧
    Ends d filled rest ending outcome
  listed : ∀ x ∈ imports, d.object? x.index = some x.memory
  once : (imports.map Imported.index).Nodup
  /-- The handles that there are at the end, to be handed out or to be closed, are those that were
  imported. -/
  get?_iff : ∀ i h, filled.get? i = some h ↔ ∃ x ∈ imports, x.index = i ∧ x.handle = h
  held : filled.held.Perm (imports.map Imported.handle)
  acquired : ∀ s, outcome = .ok s → s = filled ∧
    imports.map Imported.index = usedObjects planes ∧ s.size = (usedObjects planes).length
  succeeds_iff : (∃ s, outcome = .ok s) ↔
    (∀ p ∈ planes, p.object < d.objects.length) ∧ ¬Refused events
  fails : ∀ e, outcome = .error e →
    e.kind = .invalidFrame ∧ ¬Refused events ∨ e.kind = .importing ∧ Refused events
  /-- For the framebuffer of a frame, the order is that in which the frame refers to objects. -/
  referenced : planes = d.scanoutPlanes →
    (d.layers.length = 1 → usedObjects planes = d.referencedObjects) ∧
      ∀ x ∈ imports, x.index ∈ d.referencedObjects

theorem refused_iff {imports : List Imported} {ending : List (Event interface)}
    (calls : exchangesOf events = imports.map Imported.exchange ++ exchangesOf ending) :
    Refused events ↔ Refused ending := by
  have member (fd : Fd) (cause : DeviceError) :
      .answered (.importPrimeFd fd) (.error cause) ∈ events ↔
        .answered (.importPrimeFd fd) (.error cause) ∈ ending := by
    rw [← mem_exchangesOf, calls, List.mem_append, mem_exchangesOf]
    refine or_iff_right ?_
    rintro imported
    obtain ⟨x, -, same⟩ := List.mem_map.mp imported
    cases same
  simp only [Refused, member]

theorem not_refused_of_closes {closes : List (Event interface)} {order : List GemHandle}
    (closed : requestsOf closes = order.map .closeHandle) : ¬Refused closes := by
  rintro ⟨fd, cause, member⟩
  have asked := mem_requestsOf member
  rw [closed] at asked
  obtain ⟨h, -, same⟩ := List.mem_map.mp asked
  cases same

theorem Ends.fails {rest : List Nat} {ending : List (Event interface)} {e : PresentError}
    (ends : Ends d filled rest ending (.error e)) :
    e.kind = .invalidFrame ∧ ¬Refused ending ∨ e.kind = .importing ∧ Refused ending := by
  cases ends with
  | unresolved absent closed => exact .inl ⟨rfl, not_refused_of_closes closed⟩
  | refused found closed => exact .inr ⟨rfl, _, _, List.mem_cons_self⟩

/-- An import succeeds if all the objects are there and none is refused. -/
theorem Ends.succeeds_iff {imports : List Imported} {rest : List Nat}
    {ending : List (Event interface)} (listed : ∀ x ∈ imports, d.object? x.index = some x.memory)
    (wanted : usedObjects planes = imports.map Imported.index ++ rest)
    (ends : Ends d filled rest ending outcome) :
    (∃ s, outcome = .ok s) ↔ (∀ p ∈ planes, p.object < d.objects.length) ∧ ¬Refused ending := by
  cases ends with
  | complete =>
    refine iff_of_true ⟨filled, rfl⟩ ⟨fun p member => ?_, by simp [Refused]⟩
    have used := mem_usedObjects.mpr ⟨p, member, rfl⟩
    rw [wanted, List.append_nil] at used
    obtain ⟨x, imported, same⟩ := List.mem_map.mp used
    rw [← same]
    exact (List.getElem?_eq_some_iff.mp (listed x imported)).1
  | @unresolved i rest closes absent closed =>
    refine iff_of_false (by simp) ?_
    rintro ⟨present, -⟩
    have used : i ∈ usedObjects planes := by simp [wanted]
    obtain ⟨p, member, rfl⟩ := mem_usedObjects.mp used
    exact d.object_present (present p member) (.inl absent)
  | refused =>
    refine iff_of_false (by simp) ?_
    rintro ⟨-, unrefused⟩
    exact unrefused ⟨_, _, List.mem_cons_self⟩

/-- Whatever the planes and however the device answers: an import asks for each object once, in the
order of first use, and hands out all the handles or closes all of them. -/
theorem ofPlanes_in_order (run : (ofPlanes d planes).Runs events outcome) :
    ∃ imports filled, ImportsInOrder d planes events outcome imports filled := by
  obtain ⟨imports, rest, ending, filled, wanted, calls, listed, adds, ends⟩ :=
    (extends_of_runs run).ends
  rw [awaited_empty] at wanted
  have nodup := usedObjects_nodup planes
  rw [wanted] at nodup
  have held : filled.held.Perm (imports.map Imported.handle) := by
    have nothing : empty.held = [] := rfl
    rw [← List.append_nil (imports.map Imported.handle), ← nothing]
    exact adds.held
  refine ⟨imports, filled, {
    calls := ⟨rest, ending, wanted, calls, ends⟩
    listed := listed
    once := nodup.of_append_left
    get?_iff := fun i h => by rw [adds.get?_iff, get?_empty]; simp
    held := held
    acquired := ?_
    succeeds_iff := by rw [refused_iff calls]; exact ends.succeeds_iff listed wanted
    fails := fun e failed => by
      rw [refused_iff calls]
      exact (failed ▸ ends).fails
    referenced := ?_ }⟩
  · rintro s rfl
    cases ends with
    | complete =>
      rw [List.append_nil] at wanted
      refine ⟨rfl, wanted.symm, ?_⟩
      rw [size, held.length_eq, wanted, List.length_map, List.length_map]
  · rintro rfl
    refine ⟨FrameDescriptor.usedObjects_of_single, fun x member => d.usedObjects_subset ?_⟩
    rw [wanted]
    exact List.mem_append_left _ (List.mem_map_of_mem member)

namespace Sample

open Simulation

def frame : FrameDescriptor where
  objects := [⟨⟨7⟩, 4096⟩, ⟨⟨8⟩, 4096⟩, ⟨⟨9⟩, 4096⟩]
  layers := [⟨.yuv420, [⟨1, 0, 64⟩, ⟨0, 0, 32⟩, ⟨1, 2048, 32⟩, ⟨2, 0, 32⟩]⟩]
  objects_allowed := by decide
  layers_allowed := by decide
  layers_fit := by simp [Layer.Fits, CountAllowed, maxPlanes]

/-- It refuses the third import, and then to close the first handle. -/
def device : DisplayDevice :=
  ⟨true, none, [], 0, [⟨"import_prime_fd", 2, 1, "import_prime_fd rejected"⟩,
    ⟨"close_handle", 0, 1, "close_handle rejected"⟩], [], [], []⟩

end Sample

/-- Both handles are closed, although the first closing fails. -/
theorem ofPlanes_in_order_refused :
    ∃ events outcome imports filled,
      (ofPlanes Sample.frame Sample.frame.scanoutPlanes).Runs events outcome ∧
      requestsOf events = [.importPrimeFd ⟨8⟩, .importPrimeFd ⟨7⟩, .importPrimeFd ⟨9⟩,
        .closeHandle ⟨2⟩, .closeHandle ⟨1⟩] ∧
      outcome = .error (.objectImportFailed 2 (.reported "import_prime_fd rejected")) ∧
      ImportsInOrder Sample.frame Sample.frame.scanoutPlanes events outcome imports filled := by
  have run := runs_run (I := interface) Simulation.DisplayDevice.answer
    (ofPlanes Sample.frame Sample.frame.scanoutPlanes) Sample.device
  obtain ⟨imports, filled, inOrder⟩ := ofPlanes_in_order run
  exact ⟨_, _, imports, filled, run, by decide, by decide, inOrder⟩

end HandleSet

end Scanout
