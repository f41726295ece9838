import Scanout.Import.HandleSet
import Scanout.Proofs.Display.Ledger

/-!
# Runs of import and release

What every run of the programs on a set of handles does. A release closes each held handle once, in
the order of the objects. An import settles to the handles of the new set if it succeeds, and to
nothing if it fails, so a set is imported all or nothing whatever the device answers.
-/

namespace Scanout

open Display Proc

/-- No set of handles went out of use while it still held one. -/
def NoLeak (events : List (Event interface)) : Prop :=
  ∀ count, Notice.handlesLeaked count ∉ noticesOf events

@[simp] theorem noLeak_append {before after : List (Event interface)} :
    NoLeak (before ++ after) ↔ NoLeak before ∧ NoLeak after := by
  simp only [NoLeak, noticesOf_append, List.mem_append, not_or, forall_and]

@[simp] theorem noLeak_nil : NoLeak [] := fun _ => List.not_mem_nil

@[simp] theorem noLeak_answered {request : Request} {answer : interface.Answer request}
    {events : List (Event interface)} :
    NoLeak (.answered request answer :: events) ↔ NoLeak events := by
  simp only [NoLeak, noticesOf_answered]

@[simp] theorem noLeak_reported {n : Notice} {events : List (Event interface)} :
    NoLeak (.reported n :: events) ↔ (∀ count, n ≠ .handlesLeaked count) ∧ NoLeak events := by
  simp only [NoLeak, noticesOf_reported, List.mem_cons, not_or, forall_and, ne_comm, ne_eq]

/-- What is reported of a failure says nothing of a leak, if no failure is described as one. -/
theorem noticeFailure_noLeak {ε : Type} {describe : ε → Notice} {outcome : Except ε Unit}
    {events : List (Event interface)} {u : Unit}
    (described : ∀ cause count, describe cause ≠ .handlesLeaked count)
    (run : (noticeFailure describe outcome : Program Unit).Runs events u) :
    requestsOf events = [] ∧ NoLeak events := by
  obtain ⟨calls, notices⟩ := Proc.noticeFailure_runs run
  refine ⟨calls, fun count member => ?_⟩
  obtain ⟨cause, same⟩ := notices _ member
  exact described cause count same.symm

theorem FrameDescriptor.scanoutPlanes_fit {d : FrameDescriptor} {p : Plane}
    (member : p ∈ d.scanoutPlanes) : p.object < d.objects.length := by
  unfold scanoutPlanes at member
  split at member
  · rename_i layer single
    exact (d.layers_fit layer (by simp [single])).2 p member
  · obtain ⟨layer, present, first⟩ := List.mem_filterMap.mp member
    exact (d.layers_fit layer present).2 p (List.mem_of_head? first)

theorem FrameDescriptor.scanoutPlanes_ne_nil (d : FrameDescriptor) : d.scanoutPlanes ≠ [] := by
  have planed : ∀ layer ∈ d.layers, layer.planes ≠ [] := fun layer present =>
    List.ne_nil_of_length_pos (d.layers_fit layer present).1.1
  unfold scanoutPlanes
  split
  · rename_i layer single
    exact planed layer (by simp [single])
  · obtain ⟨layer, present⟩ := List.exists_mem_of_length_pos d.layers_allowed.1
    obtain ⟨p, rest, planes⟩ := List.exists_cons_of_ne_nil (planed layer present)
    refine List.ne_nil_of_mem (a := p) (List.mem_filterMap.mpr ⟨layer, present, ?_⟩)
    rw [planes, List.head?_cons]

/-- A frame has no more objects than a set of handles has slots. -/
theorem FrameDescriptor.object_present {d : FrameDescriptor} {i : Nat}
    (present : i < d.objects.length) : ¬ (d.object? i = none ∨ maxPlanes ≤ i) := by
  rintro (unlisted | outside)
  · rw [object?, List.getElem?_eq_none_iff] at unlisted
    exact absurd present (Nat.not_lt.mpr unlisted)
  · exact absurd (Nat.lt_of_lt_of_le present d.objects_allowed.2) (Nat.not_lt.mpr outside)

namespace HandleSet

def resources (s : HandleSet) : List Resource := s.held.map .handle

@[simp] theorem resources_empty : empty.resources = [] := rfl

@[simp] theorem discard_empty : empty.discard = pure () := rfl

theorem mem_held_of_get? {s : HandleSet} {object : Nat} {h : GemHandle}
    (found : s.get? object = some h) : h ∈ s.held := by
  simp only [get?, Option.join_eq_some_iff] at found
  obtain ⟨bound, slot⟩ := Vector.getElem?_eq_some_iff.mp found
  refine List.mem_filterMap.mpr ⟨some h, ?_, rfl⟩
  rw [← slot]
  exact Vector.mem_toList_iff.mpr (Vector.getElem_mem bound)

theorem perm_filterMap_set {α : Type} {slots : List (Option α)} {i : Nat}
    (free : slots[i]? = some none) (a : α) :
    ((slots.set i (some a)).filterMap id).Perm (a :: slots.filterMap id) := by
  induction slots generalizing i with
  | nil => cases free
  | cons slot rest ih =>
    cases i with
    | zero =>
      simp only [List.getElem?_cons_zero, Option.some.injEq] at free
      subst free
      exact List.Perm.refl _
    | succ i =>
      simp only [List.getElem?_cons_succ] at free
      cases slot with
      | none => exact ih free
      | some b => exact ((ih free).cons b).trans (List.Perm.swap a b _)

theorem held_insert_perm {s : HandleSet} {object : Nat} (bound : object < maxPlanes)
    (free : s.get? object = none) (h : GemHandle) :
    (s.insert object bound h).held.Perm (h :: s.held) := by
  have slot : s.slots.toList[object]? = some none := by
    simp only [get?] at free
    rw [Vector.getElem?_eq_getElem bound] at free
    rw [Vector.getElem?_toList, Vector.getElem?_eq_getElem bound]
    exact congrArg some free
  simpa only [insert, held, Vector.toList_set] using perm_filterMap_set slot h

theorem closeFrom_runs {slots : List (Option GemHandle)} {object : Nat}
    {events : List (Event interface)} {outcome : Except PresentError Unit}
    (run : (closeFrom object slots).Runs events outcome) :
    requestsOf events = (slots.filterMap id).map .closeHandle ∧ NoLeak events := by
  induction slots generalizing object events outcome with
  | nil =>
    obtain ⟨rfl, -⟩ := runs_pure.mp run
    exact ⟨rfl, noLeak_nil⟩
  | cons slot rest ih =>
    cases slot with
    | none => exact ih run
    | some h =>
      obtain ⟨answer, later, rfl, followed⟩ := runs_ask_bind.mp run
      cases answer with
      | ok closed =>
        obtain ⟨requests, quiet⟩ := ih followed
        exact ⟨by simp [requests], by simpa using quiet⟩
      | error cause =>
        obtain ⟨report, _, later, rfl, reported, others⟩ := runs_bind.mp followed
        obtain rfl := runs_notice.mp reported
        obtain ⟨closes, _, last, rfl, closed, done⟩ := runs_bind.mp others
        obtain ⟨rfl, -⟩ := runs_pure.mp done
        obtain ⟨requests, quiet⟩ := ih closed
        exact ⟨by simp [requests], by simpa using quiet⟩

theorem release_runs {s left : HandleSet} {events : List (Event interface)}
    {outcome : Except PresentError Unit} (run : s.release.Runs events (outcome, left)) :
    left = empty ∧ requestsOf events = s.resources.map Resource.releaseCall ∧ NoLeak events := by
  obtain ⟨closes, _, last, rfl, closed, done⟩ := runs_bind.mp run
  obtain ⟨rfl, -, emptied⟩ := runs_pure_pair.mp done
  obtain ⟨requests, quiet⟩ := closeFrom_runs closed
  refine ⟨emptied, ?_, by simpa using quiet⟩
  rw [List.append_nil, requests, resources, List.map_map]
  rfl

theorem rollBack_runs {s : HandleSet} {events : List (Event interface)} {u : Unit}
    (run : s.rollBack.Runs events u) :
    requestsOf events = s.resources.map Resource.releaseCall ∧ NoLeak events := by
  obtain ⟨closes, ⟨outcome, left⟩, last, rfl, released, rest⟩ := runs_bind.mp run
  obtain ⟨rfl, requests, quiet⟩ := release_runs released
  obtain ⟨reports, _, discarded, rfl, reported, done⟩ := runs_bind.mp rest
  obtain ⟨calls, reportsQuiet⟩ := noticeFailure_noLeak (by simp) reported
  obtain ⟨rfl, -⟩ := runs_pure.mp done
  simp [requests, calls, quiet, reportsQuiet]

def kept : Except PresentError HandleSet → Multiset Resource
  | .ok s => s.resources
  | .error _ => 0

/-- What is true of every run of an import that begins with the handles of `s`. -/
structure Imports (s : HandleSet) (events : List (Event interface))
    (outcome : Except PresentError HandleSet) : Prop where
  settles : Settles s.resources (movementsOf events) (kept outcome)
  /-- It imports, and then closes if it fails. -/
  calls : ∃ (fds : List Fd) (given : List GemHandle), requestsOf events
    = fds.map Request.importPrimeFd ++ given.map Request.closeHandle
  quiet : NoLeak events

namespace Imports

variable {s next : HandleSet} {events : List (Event interface)}
  {outcome : Except PresentError HandleSet}

theorem rolledBack {u : Unit} (e : PresentError) (run : s.rollBack.Runs events u) :
    Imports s events (.error e) := by
  obtain ⟨requests, quiet⟩ := rollBack_runs run
  refine ⟨?_, ⟨[], s.held, ?_⟩, quiet⟩
  · rw [movementsOf_of_releases requests]
    exact .release_all s.resources
  · rw [requests, resources, List.map_map]
    rfl

theorem cons {object : Nat} {fd : Fd} {h : GemHandle} (held : next.held.Perm (h :: s.held))
    (later : Imports next events outcome) :
    Imports s (.answered (.importPrimeFd fd) (.ok h) :: .reported (.objectImported object h)
      :: events) outcome := by
  obtain ⟨settles, ⟨fds, given, calls⟩, quiet⟩ := later
  refine ⟨?_, ⟨fd :: fds, given, by simp [calls]⟩, by simpa using quiet⟩
  have same : (next.resources : Multiset Resource) = .handle h ::ₘ s.resources := by
    rw [Multiset.cons_coe, resources, resources, ← List.map_cons]
    exact Multiset.coe_eq_coe.mpr (held.map _)
  rw [same] at settles
  exact .acquire settles

theorem failed {fd : Fd} {cause : DeviceError} {u : Unit} (e : PresentError)
    (run : s.rollBack.Runs events u) :
    Imports s (.answered (.importPrimeFd fd) (.error cause) :: events) (.error e) := by
  obtain ⟨settles, ⟨fds, given, calls⟩, quiet⟩ := rolledBack e run
  exact ⟨settles, ⟨fd :: fds, given, by simp [calls]⟩, by simpa using quiet⟩

theorem request_cases (imports : Imports s events outcome) {request : Request}
    (asked : request ∈ requestsOf events) :
    (∃ fd, request = .importPrimeFd fd) ∨ ∃ h, request = .closeHandle h := by
  obtain ⟨fds, given, calls⟩ := imports.calls
  rw [calls] at asked
  rcases List.mem_append.mp asked with imported | closed
  · obtain ⟨fd, -, rfl⟩ := List.mem_map.mp imported
    exact .inl ⟨fd, rfl⟩
  · obtain ⟨h, -, rfl⟩ := List.mem_map.mp closed
    exact .inr ⟨h, rfl⟩

end Imports

inductive Extends (d : FrameDescriptor) : List Plane → HandleSet → List (Event interface) →
    Except PresentError HandleSet → Prop where
  | done (s : HandleSet) : Extends d [] s [] (.ok s)
  | kept {plane : Plane} {rest : List Plane} {s : HandleSet} {events : List (Event interface)}
      {outcome : Except PresentError HandleSet} (present : (s.get? plane.object).isSome)
      (later : Extends d rest s events outcome) : Extends d (plane :: rest) s events outcome
  | unknown {plane : Plane} {rest : List Plane} {s : HandleSet} {events : List (Event interface)}
      (absent : d.object? plane.object = none ∨ maxPlanes ≤ plane.object)
      (rolled : s.rollBack.Runs events ()) (missing : s.get? plane.object = none) :
      Extends d (plane :: rest) s events (.error (.missingObject plane.object))
  | imported {plane : Plane} {rest : List Plane} {s : HandleSet} {memory : MemoryObject}
      {h : GemHandle} {events : List (Event interface)} {outcome : Except PresentError HandleSet}
      (missing : s.get? plane.object = none) (found : d.object? plane.object = some memory)
      (bound : plane.object < maxPlanes)
      (later : Extends d rest (s.insert plane.object bound h) events outcome) :
      Extends d (plane :: rest) s (.answered (.importPrimeFd memory.fd) (.ok h) ::
        .reported (.objectImported plane.object h) :: events) outcome
  | failed {plane : Plane} {rest : List Plane} {s : HandleSet} {memory : MemoryObject}
      {events : List (Event interface)} {cause : DeviceError}
      (found : d.object? plane.object = some memory) (rolled : s.rollBack.Runs events ())
      (missing : s.get? plane.object = none) :
      Extends d (plane :: rest) s (.answered (.importPrimeFd memory.fd) (.error cause) :: events)
        (.error (.objectImportFailed plane.object cause))

section Extending

variable {d : FrameDescriptor} {planes : List Plane} {s next : HandleSet}
  {events : List (Event interface)} {outcome : Except PresentError HandleSet}

theorem extends_of_runs (run : (extend d planes s).Runs events outcome) :
    Extends d planes s events outcome := by
  induction planes generalizing s events outcome with
  | nil =>
    obtain ⟨rfl, rfl⟩ := runs_pure.mp run
    exact .done s
  | cons plane rest ih =>
    simp only [extend] at run
    split at run
    · rename_i present
      exact .kept present (ih run)
    rename_i absent
    have missing : s.get? plane.object = none := by simpa using absent
    split at run
    · rename_i unknown
      obtain ⟨closes, _, last, rfl, rolled, done⟩ := runs_bind.mp run
      obtain ⟨rfl, rfl⟩ := runs_pure.mp done
      rw [List.append_nil]
      exact .unknown (.inl unknown) rolled missing
    rename_i memory found
    split at run
    · rename_i bound
      obtain ⟨answer, later, rfl, followed⟩ := runs_ask_bind.mp run
      cases answer with
      | ok h =>
        obtain ⟨report, _, others, rfl, reported, done⟩ := runs_bind.mp followed
        obtain rfl := runs_notice.mp reported
        exact .imported missing found bound (ih done)
      | error cause =>
        obtain ⟨closes, _, last, rfl, rolled, done⟩ := runs_bind.mp followed
        obtain ⟨rfl, rfl⟩ := runs_pure.mp done
        rw [List.append_nil]
        exact .failed found rolled missing
    · rename_i outside
      obtain ⟨closes, _, last, rfl, rolled, done⟩ := runs_bind.mp run
      obtain ⟨rfl, rfl⟩ := runs_pure.mp done
      rw [List.append_nil]
      exact .unknown (.inr (Nat.not_lt.mp outside)) rolled missing

theorem Extends.imports (ways : Extends d planes s events outcome) : Imports s events outcome := by
  induction ways with
  | done => exact ⟨.nil _, ⟨[], [], rfl⟩, noLeak_nil⟩
  | kept _ _ ih => exact ih
  | unknown _ rolled => exact .rolledBack _ rolled
  | @imported _ _ _ _ h _ _ missing _ bound _ ih => exact ih.cons (held_insert_perm bound missing h)
  | failed _ rolled => exact .failed _ rolled

theorem extend_runs (run : (extend d planes s).Runs events outcome) : Imports s events outcome :=
  (extends_of_runs run).imports

theorem get?_insert {object : Nat} (bound : object < maxPlanes) (h : GemHandle) (i : Nat) :
    (s.insert object bound h).get? i = if i = object then some h else s.get? i := by
  split
  · rename_i same
    subst same
    simp [insert, get?, bound]
  · rename_i other
    simp [insert, get?, Ne.symm other]

theorem Extends.isSome_get? (ways : Extends d planes s events outcome) (succeeds : outcome = .ok next)
    {i : Nat} (wanted : (s.get? i).isSome = true ∨ ∃ p ∈ planes, p.object = i) :
    (next.get? i).isSome = true := by
  induction ways with
  | done =>
    cases succeeds
    exact wanted.resolve_right (by simp)
  | kept present _ ih =>
    rw [List.exists_mem_cons_iff] at wanted
    refine ih succeeds ?_
    rcases wanted with held | rfl | later
    · exact .inl held
    · exact .inl present
    · exact .inr later
  | imported missing found bound _ ih =>
    rw [List.exists_mem_cons_iff] at wanted
    refine ih succeeds ?_
    rw [get?_insert]
    rcases wanted with held | rfl | later
    · exact .inl (by split <;> simp [held])
    · simp
    · exact .inr later
  | unknown | failed => cases succeeds

theorem size_pos_of_ofPlanes (run : (ofPlanes d d.scanoutPlanes).Runs events (.ok s)) :
    0 < s.size := by
  obtain ⟨p, member⟩ := List.exists_mem_of_ne_nil _ d.scanoutPlanes_ne_nil
  have held := (extends_of_runs run).isSome_get? rfl (.inr ⟨p, member, rfl⟩)
  obtain ⟨h, found⟩ := Option.isSome_iff_exists.mp held
  exact List.length_pos_of_mem (mem_held_of_get? found)

/-- An import whose planes lie in objects of the frame fails only by the device's word. -/
theorem Extends.error {e : PresentError} (ways : Extends d planes s events outcome)
    (fails : outcome = .error e) (fits : ∀ p ∈ planes, p.object < d.objects.length) :
    ∃ object fd cause, e = .objectImportFailed object cause ∧
      .answered (.importPrimeFd fd) (.error cause) ∈ events := by
  induction ways with
  | done => cases fails
  | kept _ _ ih => exact ih fails fun p later => fits p (List.mem_cons_of_mem _ later)
  | unknown absent => exact absurd absent (d.object_present (fits _ List.mem_cons_self))
  | imported _ _ _ _ ih =>
    obtain ⟨object, fd, cause, same, member⟩ :=
      ih fails fun p later => fits p (List.mem_cons_of_mem _ later)
    exact ⟨object, fd, cause, same, List.mem_cons_of_mem _ (List.mem_cons_of_mem _ member)⟩
  | @failed plane _ _ memory _ cause =>
    cases fails
    exact ⟨plane.object, memory.fd, cause, rfl, List.mem_cons_self⟩

theorem ofPlanes_error {e : PresentError}
    (run : (ofPlanes d d.scanoutPlanes).Runs events (.error e)) :
    ∃ object fd cause, e = .objectImportFailed object cause ∧
      .answered (.importPrimeFd fd) (.error cause) ∈ events :=
  (extends_of_runs run).error rfl fun _ member => d.scanoutPlanes_fit member

end Extending

end HandleSet

end Scanout
