import Scanout.Proofs.Kernel.Commit
import Scanout.Simulation.Card

/-!
# A commit submits what its batch means

Where the kernel's answers are those of a catalogue, what is known from earlier commits is right
(`History.reflects`), only what is not known is looked up (`Collected`), and the request of a commit
has the entries that the catalogue gives the batch.
-/

namespace Scanout.Kernel

open Proc

variable {c : Catalogue}

namespace PropertyCache

variable {cache left : PropertyCache} {key : PropertyKey} {events : List (Event interface)}
  {outcome : Except Errno (Option UInt32)}

theorem get?_cons (cache : PropertyCache) (key other : PropertyKey) (found : Option UInt32) :
    get? ((key, found) :: cache) other = if other = key then some found else cache.get? other := by
  rw [get?, List.lookup_cons]
  by_cases same : other = key
  · simp [same]
  · simp [same, beq_eq_false_iff_ne.mpr same, get?]

/-- What a property's number turns out to be. -/
structure Resolved (c : Catalogue) (cache : PropertyCache) (key : PropertyKey)
    (events : List (Event interface)) (outcome : Except Errno (Option UInt32))
    (left : PropertyCache) : Prop where
  reflects : left.Reflects c
  failed_iff : (∃ e, outcome = .error e) ↔ LookupFailed events
  found : ∀ found, outcome = .ok found → found = c.property? key.object key.name
  needed : ∀ r ∈ requestsOf events, cache.get? key = none ∧ r ∈ c.lookups key.object key.name
  complete : (∃ found, outcome = .ok found) → cache.get? key = none →
    requestsOf events = c.lookups key.object key.name
  /-- The property is known from now on, as well as those that were known before. -/
  known : (∃ found, outcome = .ok found) → ∀ other,
    left.get? other = none ↔ other ≠ key ∧ cache.get? other = none

theorem Resolves.resolved (resolves : cache.Resolves key events outcome left)
    (reflects : cache.Reflects c) (describes : c.Describes events) :
    Resolved c cache key events outcome left := by
  cases resolves with
  | kept hit =>
    refine ⟨reflects, by simp, ?found, by simp, by simp [hit], fun _ other => ?known⟩
    case found =>
      rintro found ⟨⟩
      exact reflects _ (mem_of_get? hit)
    case known =>
      refine (and_iff_right_of_imp ?_).symm
      rintro unknown rfl
      cases hit.symm.trans unknown
  | looked miss run =>
    obtain ⟨-, failed_iff, found⟩ := lookupProperty_finds run describes
    obtain ⟨asked, value⟩ := found _ rfl
    refine ⟨?reflects, by simpa using failed_iff, ?found, fun r member => ⟨miss, asked ▸ member⟩,
      fun _ _ => asked, fun _ other => ?known⟩
    case reflects =>
      intro entry member
      rcases List.mem_cons.mp member with first | earlier
      · rw [first]
        exact value
      · exact reflects entry earlier
    case found =>
      intro found same
      rw [← value]
      exact (Except.ok.inj same).symm
    case known =>
      rw [get?_cons]
      split <;> simp [*]
  | failed miss run =>
    obtain ⟨requests, failed_iff, -⟩ := lookupProperty_finds run describes
    exact ⟨reflects, by simpa using failed_iff, by simp,
      fun r member => ⟨miss, requests.subset member⟩, by simp, by simp⟩

end PropertyCache

namespace Device

variable {d left : Device} {writes : List PropertyWrite} {sets : List AtomicSet}
  {events : List (Event interface)} {r : Request}

/-- A request that looks up what the device does not know yet of some properties. -/
def Needs (c : Catalogue) (d : Device) (writes : List PropertyWrite) (r : Request) : Prop :=
  ∃ w ∈ writes, d.cache.get? ⟨w.object, w.name⟩ = none ∧ r ∈ c.lookups w.object w.name

theorem Needs.submission? (needs : d.Needs c writes r) : Kernel.submission? r = none := by
  obtain ⟨w, -, -, lookup⟩ := needs
  exact Catalogue.submission?_lookups lookup

structure Collected (c : Catalogue) (writes : List PropertyWrite) (sets : List AtomicSet)
    (d : Device) (events : List (Event interface)) (outcome : Except DeviceError (List AtomicSet))
    (left : Device) : Prop where
  reflects : left.cache.Reflects c
  failed_iff : (∃ e, outcome = .error e) ↔ (∃ w ∈ writes, w.object.id = 0) ∨ LookupFailed events
  entries : ∀ all, outcome = .ok all → all = writes.foldl
    (fun sets w => AtomicSet.enter w (c.property? w.object w.name) sets) sets
  needed : ∀ r ∈ requestsOf events, d.Needs c writes r
  complete : (∃ all, outcome = .ok all) → ∀ r, d.Needs c writes r → r ∈ requestsOf events

theorem Collects.collected {outcome : Except DeviceError (List AtomicSet)}
    (collects : Collects writes sets d events outcome left) (reflects : d.cache.Reflects c)
    (describes : c.Describes events) : Collected c writes sets d events outcome left := by
  induction collects with
  | done => exact ⟨reflects, by simp, by simp, by simp, by simp [Needs]⟩
  | unnamed zero => exact ⟨reflects, by simp [zero], by simp, by simp, by simp⟩
  | @failed write rest _ _ _ _ _ named resolves =>
    have resolved := resolves.resolved reflects describes
    have failed := resolved.failed_iff.mp ⟨_, rfl⟩
    exact ⟨resolved.reflects, by simp [failed], by simp,
      fun r member => ⟨write, List.mem_cons_self, resolved.needed r member⟩, by simp⟩
  | @next write rest _ _ _ _ _ _ _ _ _ _ named resolves silent _ ih =>
    obtain ⟨describesLookup, describesLater⟩ := c.describes_append.mp describes
    have resolved := resolves.resolved reflects describesLookup
    have found := resolved.found _ rfl
    have collected := ih resolved.reflects (c.describes_append.mp describesLater).2
    refine ⟨collected.reflects, ?failed_iff, ?entries, ?needed, ?complete⟩
    case failed_iff =>
      have looked : ¬ LookupFailed _ := fun failed => by simpa using resolved.failed_iff.mpr failed
      simp [collected.failed_iff, named, looked, not_lookupFailed_of_silent silent]
    case entries =>
      rw [List.foldl_cons, ← found]
      exact collected.entries
    case needed =>
      intro r member
      rw [requestsOf_append, requestsOf_append, silent, List.nil_append, List.mem_append] at member
      rcases member with lookup | later
      · exact ⟨write, List.mem_cons_self, resolved.needed r lookup⟩
      · obtain ⟨w, among, unknown, lookup⟩ := collected.needed r later
        have before := ((resolved.known ⟨_, rfl⟩ _).mp unknown).2
        exact ⟨w, List.mem_cons_of_mem _ among, before, lookup⟩
    case complete =>
      intro succeeds r ⟨w, among, unknown, lookup⟩
      rw [requestsOf_append, requestsOf_append, List.mem_append, List.mem_append]
      -- The property of a later write may be that of the first, and is then known already.
      by_cases same : PropertyKey.mk w.object w.name = ⟨write.object, write.name⟩
      · rw [same] at unknown
        obtain ⟨object, name⟩ := (PropertyKey.mk.injEq ..).mp same
        rw [object, name, ← resolved.complete ⟨_, rfl⟩ unknown] at lookup
        exact .inl lookup
      · have later : w ∈ rest := (List.mem_cons.mp among).resolve_left fun first => same (first ▸ rfl)
        have still := (resolved.known ⟨_, rfl⟩ _).mpr ⟨same, unknown⟩
        exact .inr (.inr (collected.complete succeeds r ⟨w, later, still, lookup⟩))

theorem connect_runs {path : String} {atomic : Bool} {start : Device}
    (run : (connect path atomic).Runs events (.ok start)) : start = ⟨[], []⟩ := by
  unfold connect at run
  obtain ⟨-, _ | ⟨⟩, events, -, -, run⟩ := runs_bind.mp run
  · cases (runs_pure.mp run).2
  obtain ⟨-, _ | ⟨⟩, events, -, -, run⟩ := runs_bind.mp run
  · cases (runs_pure.mp run).2
  dsimp only at run
  -- With and without the second capability, what follows is the same.
  split at run
  all_goals
    obtain ⟨-, _ | ⟨⟩, events, -, -, run⟩ := runs_bind.mp run
    · cases (runs_pure.mp run).2
    · obtain ⟨-, -, events, -, -, run⟩ := runs_bind.mp run
      exact Except.ok.inj (runs_pure.mp run).2

theorem Collected.submissionsOf_eq {outcome : Except DeviceError (List AtomicSet)}
    (collected : Collected c writes sets d events outcome left) : submissionsOf events = [] :=
  submissionsOf_eq_nil fun r member => (collected.needed r member).submission?

end Device

structure Commit where
  batch : Batch
  nonblock : Bool

abbrev Turn : Type := Scanout.Turn interface Device Commit (Except DeviceError Unit × Device)

abbrev History : Device → List Turn → Device → Prop :=
  Scanout.History (fun d asked => d.commit asked.batch asked.nonblock) Prod.snd

variable {start d left : Device} {turns : List Turn} {batch : Batch} {nonblock : Bool}
  {events : List (Event interface)} {outcome : Except DeviceError Unit}

theorem Device.Commits.reflects (commits : d.Commits batch nonblock events outcome left)
    (reflects : d.cache.Reflects c) (describes : c.Describes events) : left.cache.Reflects c := by
  cases commits with
  | givenUp collects => exact (collects.collected reflects describes).reflects
  | submitted collects =>
    exact (collects.collected reflects (c.describes_append.mp describes).1).reflects

theorem describes_concat {t : Turn} :
    c.Describes (journal (turns ++ [t])) ↔ c.Describes (journal turns) ∧ c.Describes t.events := by
  rw [journal_append, c.describes_append, journal_cons, journal_nil, List.append_nil]

/-- Whatever was committed, and even if commits were given up, what is known is right. -/
theorem History.reflects (history : History start turns d) (begins : start.cache.Reflects c)
    (describes : c.Describes (journal turns)) : d.cache.Reflects c := by
  induction history with
  | nil => exact begins
  | concat _ run ih =>
    obtain ⟨earlier, now⟩ := describes_concat.mp describes
    exact (Device.commit_runs run).reflects (ih earlier) now

/-- What a commit does. It is given up before the request, or it makes its one request in the end. -/
structure SubmitsBatch (c : Catalogue) (d : Device) (batch : Batch) (nonblock : Bool)
    (events : List (Event interface)) (outcome : Except DeviceError Unit) : Prop where
  given_up : submissionsOf events = [] → ∃ e, outcome = .error e
  given_up_iff : submissionsOf events = [] ↔
    (∃ w ∈ batch.writes, w.object.id = 0) ∨ LookupFailed events
  submitted : submissionsOf events ≠ [] → ∃ lookups sets answer,
    events = lookups ++ [.answered (.atomic nonblock sets) answer] ∧
      submissionsOf lookups = [] ∧ outcome = answer.mapError .os ∧ c.Means batch sets
  /-- No lookup is made that is not needed. -/
  needed : ∀ r ∈ requestsOf events, submission? r = none → d.Needs c batch.writes r
  complete : submissionsOf events ≠ [] → ∀ r, d.Needs c batch.writes r → r ∈ requestsOf events

/-- A commit submits exactly what its batch means, or it is given up because a write names no object
or because a lookup that is needed fails. -/
theorem commit_submits_batch {path : String} {atomic : Bool} {opening : List (Event interface)}
    (opened : (Device.connect path atomic).Runs opening (.ok start))
    (history : History start turns d)
    (run : (d.commit batch nonblock).Runs events (outcome, left))
    (describes : c.Describes (journal turns ++ events)) (apart : c.KindsApart) :
    SubmitsBatch c d batch nonblock events outcome := by
  obtain ⟨describesPast, describes⟩ := c.describes_append.mp describes
  obtain rfl := Device.connect_runs opened
  have reflects := history.reflects (by simp [PropertyCache.Reflects]) describesPast
  cases Device.commit_runs run with
  | givenUp collects =>
    have collected := collects.collected reflects describes
    have none := collected.submissionsOf_eq
    exact ⟨fun _ => ⟨_, rfl⟩, iff_of_true none (collected.failed_iff.mp ⟨_, rfl⟩),
      fun some => absurd none some, fun r member _ => collected.needed r member,
      fun some => absurd none some⟩
  | @submitted lookups sets _ answer collects =>
    have collected := collects.collected reflects (c.describes_append.mp describes).1
    have none := collected.submissionsOf_eq
    have one : submissionsOf (lookups ++ [.answered (.atomic nonblock sets) answer]) ≠ [] := by
      simp [none]
    have succeeds := mt collected.failed_iff.mpr (by simp)
    refine ⟨fun givenUp => absurd givenUp one, iff_of_false one ?unfailed, ?request, ?needed,
      ?complete⟩
    case unfailed => simpa [failsLookup] using succeeds
    case request =>
      refine fun _ => ⟨lookups, sets, answer, rfl, none, rfl, ?_⟩
      rw [collected.entries sets rfl]
      exact Catalogue.means_entries apart batch
    case needed =>
      intro r member other
      rw [requestsOf_append, List.mem_append] at member
      rcases member with lookup | last
      · exact collected.needed r lookup
      · rw [List.mem_singleton.mp last] at other
        cases other
    case complete =>
      intro _ r needs
      rw [requestsOf_append, List.mem_append]
      exact .inl (collected.complete ⟨_, rfl⟩ r needs)

namespace Sample

open Simulation

/-- A plane and a CRTC. The second time that the name of a property is asked for fails. -/
def card : Card where
  prime := 3
  lastId := 100
  failures := [⟨"GETPROPERTY", 1, 1, Errno.noDevice⟩]
  connectors := []
  encoders := []
  crtcs := []
  planes := []
  propertyNames := [(1, Property.fbId), (2, Property.zpos)]
  objects := [(.plane 7, [⟨1, 0⟩, ⟨2, 0⟩]), (.crtc 8, [⟨1, 0⟩])]
  blobs := []
  journal := []

def catalogue : Catalogue where
  properties object := ((card.objects.lookup object).getD []).map PropertyValue.property
  name id := (card.propertyNames.lookup id).getD ""

theorem catalogue_apart : catalogue.KindsApart := by
  have known : ∀ object, catalogue.properties object ≠ [] →
      object = .plane 7 ∨ object = .crtc 8 := by
    intro object some
    by_contra! other
    refine some ?_
    simp [catalogue, card, List.lookup_cons, beq_eq_false_iff_ne.mpr other.1,
      beq_eq_false_iff_ne.mpr other.2]
  intro a b same someA someB
  rcases known a someA with rfl | rfl <;> rcases known b someB with rfl | rfl
  · rfl
  · exact absurd same (by decide)
  · exact absurd same (by decide)
  · rfl

/-- The card's node can be opened, and what follows is answered by the card. -/
def answer : (r : Request) → Card → Except Errno r.Reply × Card
  | .openNode _, c => (.ok (), c)
  | r, c => c.answer r

def opened : Device := ⟨[], []⟩

def opening : List (Event interface) :=
  ((Device.connect "/dev/dri/card0" true).run answer card).1

theorem opening_runs : (Device.connect "/dev/dri/card0" true).Runs opening (.ok opened) :=
  runs_run (I := interface) answer (Device.connect "/dev/dri/card0" true) card

def commits (asked : List Commit) : List Turn × Device :=
  simulate (fun d (asked : Commit) => d.commit asked.batch asked.nonblock) Prod.snd answer asked
    opened card

theorem commits_history (asked : List Commit) :
    History opened (commits asked).1 (commits asked).2 :=
  simulate_history (I := interface) answer asked opened card

def raised : Commit := ⟨⟨[⟨.plane 7, Property.zpos, 1⟩]⟩, false⟩

/-- One property is written twice, and one is missing. -/
def mixed : Commit :=
  ⟨⟨[⟨.plane 7, Property.zpos, 1⟩, ⟨.crtc 8, Property.zpos, 4⟩, ⟨.plane 7, Property.fbId, 55⟩,
    ⟨.plane 7, Property.zpos, 2⟩]⟩, true⟩

end Sample

/-- A commit that failed in the middle of a lookup, and then one that did not. -/
theorem commit_submits_batch_after_failure :
    let past := Sample.commits [Sample.raised]
    let submitting := (past.2.commit Sample.mixed.batch true).run Sample.answer
      { Sample.card with failures := [] }
    past.1.map (fun t => t.reply.1) = [.error (.os Errno.noDevice)] ∧
      submissionsOf submitting.1 = [⟨true, [⟨7, 1, 55⟩, ⟨7, 2, 2⟩]⟩] ∧
      SubmitsBatch Sample.catalogue past.2 Sample.mixed.batch true submitting.1
        submitting.2.1.1 := by
  intro past submitting
  have run := runs_run (I := interface) Sample.answer (past.2.commit Sample.mixed.batch true)
    { Sample.card with failures := [] }
  have described : Sample.catalogue.Describes (journal past.1 ++ submitting.1) := by decide +kernel
  exact ⟨rfl, rfl, commit_submits_batch Sample.opening_runs (Sample.commits_history _) run described
    Sample.catalogue_apart⟩

end Scanout.Kernel
