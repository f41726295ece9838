import Mathlib.Data.Multiset.AddSub
import Mathlib.Data.Multiset.UnionInter
import Scanout.Display.Device
import Scanout.Proofs.Proc.Runs

/-!
# The ledger of a display device

A display device hands out handles, framebuffers and blobs, and takes each of them back by one kind
of call. The ledger of a list of events keeps what has been handed out and not yet been passed to
its release call, as a multiset: what counts is that the release was called, not that it succeeded.

`Settles held ts left` is the judgement that the proofs about an overlay compose. It is local, since
what a piece of a program does not touch can be added on both sides (`Settles.frame`), and it needs
no assumption on the numbers a device gives out. Such an assumption is `Fresh`: it makes the
multisets sets (`Settles.nodup`).
-/

namespace Scanout

open Display

/-- Something a display device hands out and takes back. -/
inductive Resource where
  | handle (handle : GemHandle)
  | framebuffer (framebuffer : FramebufferId)
  | blob (blob : BlobId)
  deriving DecidableEq, Repr

def Resource.releaseCall : Resource → Request
  | handle h => .closeHandle h
  | framebuffer f => .destroyFramebuffer f
  | blob b => .destroyBlob b

def Display.Request.released? : Request → Option Resource
  | .closeHandle h => some (.handle h)
  | .destroyFramebuffer f => some (.framebuffer f)
  | .destroyBlob b => some (.blob b)
  | _ => none

@[simp] theorem released?_releaseCall (r : Resource) : r.releaseCall.released? = some r := by
  cases r <;> rfl

def acquired? : (request : Request) → Except DeviceError request.Reply → Option Resource
  | .importPrimeFd _, .ok h => some (.handle h)
  | .addFramebuffer _, .ok f => some (.framebuffer f)
  | .createBlob _, .ok b => some (.blob b)
  | _, _ => none

inductive Movement where
  | acquire (r : Resource)
  | release (r : Resource)
  deriving DecidableEq, Repr

def movement? : Event interface → Option Movement
  | .reported _ => none
  | .answered request answer =>
    match request.released? with
    | some r => some (.release r)
    | none => (acquired? request answer).map .acquire

theorem movement?_eq_release_iff {request : Request} {answer : interface.Answer request}
    {r : Resource} :
    movement? (.answered request answer) = some (.release r) ↔ request.released? = some r := by
  cases given : request.released? <;> simp [movement?, given]

def movementsOf (events : List (Event interface)) : List Movement := events.filterMap movement?

@[simp] theorem movementsOf_nil : movementsOf [] = [] := rfl

@[simp] theorem movementsOf_append (before after : List (Event interface)) :
    movementsOf (before ++ after) = movementsOf before ++ movementsOf after :=
  List.filterMap_append

@[simp] theorem movementsOf_reported (n : Notice) (events : List (Event interface)) :
    movementsOf (.reported n :: events) = movementsOf events := rfl

theorem movementsOf_answered (request : Request) (answer : interface.Answer request)
    (events : List (Event interface)) :
    movementsOf (.answered request answer :: events)
      = (movement? (.answered request answer)).toList ++ movementsOf events := by
  rw [movementsOf, List.filterMap_cons]
  cases movement? (.answered request answer) <;> rfl

/-- A call that hands nothing out, whatever the answer, and gives nothing back. -/
def Display.Request.Neutral (request : Request) : Prop :=
  request.released? = none ∧ ∀ answer, acquired? request answer = none

@[simp] theorem neutral_supportsPrimeImport : Request.supportsPrimeImport.Neutral :=
  ⟨rfl, fun _ => rfl⟩

@[simp] theorem neutral_crtcModeSize (crtc : UInt32) : (Request.crtcModeSize crtc).Neutral :=
  ⟨rfl, fun _ => rfl⟩

@[simp] theorem neutral_propertyBlob (object : ModeObject) (name : String) :
    (Request.propertyBlob object name).Neutral :=
  ⟨rfl, fun _ => rfl⟩

@[simp] theorem neutral_setPlane (update : PlaneUpdate) : (Request.setPlane update).Neutral :=
  ⟨rfl, fun _ => rfl⟩

@[simp] theorem neutral_commit (batch : Batch) (nonblock : Bool) :
    (Request.commit batch nonblock).Neutral :=
  ⟨rfl, fun _ => rfl⟩

theorem movementsOf_of_neutral {events : List (Event interface)}
    (neutral : ∀ request ∈ requestsOf events, request.Neutral) : movementsOf events = [] := by
  induction events with
  | nil => rfl
  | cons event rest ih =>
    cases event with
    | reported n => exact ih neutral
    | answered request answer =>
      simp only [requestsOf_answered, List.mem_cons, forall_eq_or_imp] at neutral
      obtain ⟨⟨keeps, nothing⟩, others⟩ := neutral
      have none : movement? (.answered request answer) = none := by
        simp only [movement?, keeps, nothing answer, Option.map_none]
      rw [movementsOf_answered, none, ih others]
      rfl

theorem movementsOf_of_releases {events : List (Event interface)} {rs : List Resource}
    (releases : requestsOf events = rs.map Resource.releaseCall) :
    movementsOf events = rs.map .release := by
  induction events generalizing rs with
  | nil =>
    have : rs = [] := List.map_eq_nil_iff.mp releases.symm
    rw [this]
    rfl
  | cons event rest ih =>
    cases event with
    | reported n => exact ih releases
    | answered request answer =>
      cases rs with
      | nil => cases releases
      | cons r rs =>
        simp only [requestsOf_answered, List.map_cons, List.cons.injEq] at releases
        obtain ⟨rfl, others⟩ := releases
        rw [movementsOf_answered, movement?_eq_release_iff.mpr (released?_releaseCall r), ih others]
        rfl

def acquiredOf (ts : List Movement) : List Resource :=
  ts.filterMap fun
    | .acquire r => some r
    | .release _ => none

def releasedOf (ts : List Movement) : List Resource :=
  ts.filterMap fun
    | .acquire _ => none
    | .release r => some r

@[simp] theorem mem_acquiredOf {ts : List Movement} {r : Resource} :
    r ∈ acquiredOf ts ↔ .acquire r ∈ ts := by
  simp only [acquiredOf, List.mem_filterMap]
  constructor
  · rintro ⟨t, member, h⟩
    cases t <;> simp at h
    exact h ▸ member
  · intro member
    exact ⟨_, member, rfl⟩

@[simp] theorem mem_releasedOf {ts : List Movement} {r : Resource} :
    r ∈ releasedOf ts ↔ .release r ∈ ts := by
  simp only [releasedOf, List.mem_filterMap]
  constructor
  · rintro ⟨t, member, h⟩
    cases t <;> simp at h
    exact h ▸ member
  · intro member
    exact ⟨_, member, rfl⟩

@[simp] theorem acquiredOf_append (before after : List Movement) :
    acquiredOf (before ++ after) = acquiredOf before ++ acquiredOf after :=
  List.filterMap_append

@[simp] theorem acquiredOf_acquires (rs : List Resource) : acquiredOf (rs.map .acquire) = rs := by
  simp [acquiredOf, List.filterMap_map]

@[simp] theorem acquiredOf_releases (rs : List Resource) : acquiredOf (rs.map .release) = [] := by
  simp [acquiredOf]

/-- Entries that lead from what is outstanding to what is left, where nothing is ever given back
that is not outstanding at that moment. -/
inductive Settles : Multiset Resource → List Movement → Multiset Resource → Prop where
  | nil (held : Multiset Resource) : Settles held [] held
  | acquire {held left : Multiset Resource} {r : Resource} {ts : List Movement} :
      Settles (r ::ₘ held) ts left → Settles held (.acquire r :: ts) left
  | release {held left : Multiset Resource} {r : Resource} {ts : List Movement} :
      Settles held ts left → Settles (r ::ₘ held) (.release r :: ts) left

def Fresh : Multiset Resource → List Movement → Prop
  | _, [] => True
  | held, .acquire r :: ts => r ∉ held ∧ Fresh (r ::ₘ held) ts
  | held, .release r :: ts => Fresh (held.erase r) ts

instance decidableFresh : (held : Multiset Resource) → (ts : List Movement) →
    Decidable (Fresh held ts)
  | _, [] => inferInstanceAs (Decidable True)
  | held, .acquire r :: ts =>
    have := decidableFresh (r ::ₘ held) ts
    inferInstanceAs (Decidable (r ∉ held ∧ Fresh (r ::ₘ held) ts))
  | held, .release r :: ts => decidableFresh (held.erase r) ts

/-- No entry concerns any of these. -/
def Spares (ts : List Movement) (rs : List Resource) : Prop :=
  ∀ r ∈ rs, .release r ∉ ts ∧ .acquire r ∉ ts

theorem Spares.of_append_left {before after : List Movement} {rs : List Resource}
    (spares : Spares (before ++ after) rs) : Spares before rs := by
  intro r member
  obtain ⟨unreleased, unacquired⟩ := spares r member
  exact ⟨fun given => unreleased (List.mem_append_left _ given),
    fun handed => unacquired (List.mem_append_left _ handed)⟩

namespace Settles

variable {held left middle rest : Multiset Resource} {ts before after : List Movement}

theorem append (first : Settles held before middle) (last : Settles middle after left) :
    Settles held (before ++ after) left := by
  induction first with
  | nil _ => exact last
  | acquire _ ih => exact .acquire (ih last)
  | release _ ih => exact .release (ih last)

/-- What is not touched stays outstanding. -/
theorem frame (settles : Settles held ts left) (rest : Multiset Resource) :
    Settles (held + rest) ts (left + rest) := by
  induction settles with
  | nil held => exact .nil _
  | acquire _ ih => exact .acquire (by rwa [← Multiset.cons_add])
  | release _ ih =>
    rw [Multiset.cons_add]
    exact .release ih

theorem release_all (rs : List Resource) : Settles rs (rs.map .release) 0 := by
  induction rs with
  | nil => exact .nil 0
  | cons r rs ih =>
    rw [← Multiset.cons_coe]
    exact .release ih

/-- The books balance: what was there and what was handed out is what is left and what was given
back. -/
theorem balance (settles : Settles held ts left) :
    held + (acquiredOf ts : Multiset Resource) = left + (releasedOf ts : Multiset Resource) := by
  induction settles with
  | nil held => rfl
  | @acquire held left r ts _ ih =>
    have head : acquiredOf (.acquire r :: ts) = r :: acquiredOf ts := rfl
    have same : releasedOf (.acquire r :: ts) = releasedOf ts := rfl
    rw [head, same, ← ih, ← Multiset.cons_coe, Multiset.add_cons, Multiset.cons_add]
  | @release held left r ts _ ih =>
    have same : acquiredOf (.release r :: ts) = acquiredOf ts := rfl
    have head : releasedOf (.release r :: ts) = r :: releasedOf ts := rfl
    rw [head, same, ← Multiset.cons_coe, Multiset.add_cons, ← ih, Multiset.cons_add]

theorem mem_of_release (settles : Settles held ts left) {r : Resource} (given : .release r ∈ ts) :
    r ∈ held ∨ .acquire r ∈ ts := by
  have member : r ∈ left + (releasedOf ts : Multiset Resource) :=
    Multiset.mem_add.mpr (.inr (Multiset.mem_coe.mpr (mem_releasedOf.mpr given)))
  rw [← settles.balance, Multiset.mem_add, Multiset.mem_coe, mem_acquiredOf] at member
  exact member

theorem nodup (settles : Settles held ts left) (fresh : Fresh held ts) (unique : held.Nodup) :
    left.Nodup := by
  induction settles with
  | nil _ => exact unique
  | acquire _ ih => exact ih fresh.2 (Multiset.nodup_cons.mpr ⟨fresh.1, unique⟩)
  | release _ ih =>
    simp only [Fresh, Multiset.erase_cons_head] at fresh
    exact ih fresh (Multiset.nodup_cons.mp unique).2

theorem fresh_append (settles : Settles held before left) :
    Fresh held (before ++ after) ↔ Fresh held before ∧ Fresh left after := by
  induction settles with
  | nil _ => simp [Fresh]
  | acquire _ ih => simp only [List.cons_append, Fresh, ih, and_assoc]
  | release _ ih => simpa only [List.cons_append, Fresh, Multiset.erase_cons_head] using ih

theorem not_mem_of_acquire (settles : Settles held ts left) (fresh : Fresh (held + rest) ts)
    {r : Resource} (handed : .acquire r ∈ ts) : r ∉ rest := by
  induction settles with
  | nil _ => cases handed
  | acquire _ ih =>
    obtain ⟨unused, later⟩ := fresh
    rcases List.mem_cons.mp handed with same | handed
    · cases same
      exact fun member => unused (Multiset.mem_add.mpr (.inr member))
    · exact ih (by rwa [Multiset.cons_add]) handed
  | release _ ih =>
    rcases List.mem_cons.mp handed with same | handed
    · cases same
    · exact ih (by simpa only [Fresh, Multiset.cons_add, Multiset.erase_cons_head] using fresh)
        handed

theorem not_mem_of_release (settles : Settles held ts left) (fresh : Fresh (held + rest) ts)
    (unique : (held + rest).Nodup) {r : Resource} (given : .release r ∈ ts) : r ∉ rest := by
  intro stays
  rcases settles.mem_of_release given with was | handed
  · exact Multiset.disjoint_left.mp (Multiset.nodup_add.mp unique).2.2 was stays
  · exact settles.not_mem_of_acquire fresh handed stays

/-- What stays outstanding throughout is spared. -/
theorem spares {rs : List Resource} (settles : Settles held ts left)
    (fresh : Fresh (held + (rs : Multiset Resource)) ts)
    (unique : (held + (rs : Multiset Resource)).Nodup) : Spares ts rs := by
  intro r stays
  exact ⟨fun given => settles.not_mem_of_release fresh unique given stays,
    fun handed => settles.not_mem_of_acquire fresh handed stays⟩

end Settles

end Scanout
