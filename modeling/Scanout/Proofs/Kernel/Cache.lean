import Scanout.Proofs.Kernel.Meaning

/-!
# The cache cannot be noticed

Properties are looked up once and kept. As long as the kernel's descriptions stay the same, what is
kept is what a lookup would find now, only lookups that were completed are kept, and a commit makes
the request that a device makes that knows nothing yet.
-/

namespace Scanout.Kernel

open Proc

variable {c : Catalogue}

namespace Device

variable {d left : Device} {writes : List PropertyWrite} {sets : List AtomicSet}
  {events : List (Event interface)} {outcome : Except DeviceError (List AtomicSet)}

/-- Somewhere in these events, a property was looked up from start to end. -/
def LookedUp (events : List (Event interface)) (key : PropertyKey) (found : Option UInt32) : Prop :=
  ∃ before lookup after entry, events = before ++ (lookup ++ after) ∧
    (lookupProperty key.object key.name).Runs lookup (.ok entry) ∧
    found = entry.map PropertyValue.property

theorem LookedUp.append {earlier : List (Event interface)} {key : PropertyKey}
    {found : Option UInt32} (lookedUp : LookedUp events key found) :
    LookedUp (earlier ++ events) key found := by
  obtain ⟨before, lookup, after, entry, rfl, run, same⟩ := lookedUp
  exact ⟨earlier ++ before, lookup, after, entry, (List.append_assoc ..).symm, run, same⟩

theorem Collects.lookedUp (collects : Collects writes sets d events outcome left)
    {key : PropertyKey} {found : Option UInt32} (known : left.cache.get? key = some found) :
    d.cache.get? key = some found ∨ LookedUp events key found := by
  induction collects with
  | done => exact .inl known
  | unnamed => exact .inl known
  | failed named resolves =>
    cases resolves
    exact .inl known
  | @next _ _ _ _ _ lookup reports events _ _ _ _ named resolves _ _ ih =>
    rcases ih known with before | later
    · cases resolves with
      | kept => exact .inl before
      | @looked _ entry miss run =>
        rw [PropertyCache.get?_cons] at before
        split at before
        · rename_i same
          rw [same]
          exact .inr ⟨[], lookup, reports ++ events, entry, rfl, run, (Option.some.inj before).symm⟩
        · exact .inl before
    · exact .inr (List.append_assoc lookup reports events ▸ later.append)

/-- The last thing that happens is a lookup that fails, and nothing is kept of it. -/
def StopsAtLookup {α : Type} (writes : List PropertyWrite) (events : List (Event interface))
    (outcome : Except DeviceError α) (left : Device) : Prop :=
  ∃ w ∈ writes, ∃ before lookup e, events = before ++ lookup ∧
    (lookupProperty w.object w.name).Runs lookup (.error e) ∧ outcome = .error (.os e) ∧
    left.cache.get? ⟨w.object, w.name⟩ = none

theorem Collects.stopsAtLookup (collects : Collects writes sets d events outcome left)
    (reflects : d.cache.Reflects c) (describes : c.Describes events) (failed : LookupFailed events) :
    StopsAtLookup writes events outcome left := by
  induction collects with
  | done => exact absurd failed not_lookupFailed_nil
  | unnamed => exact absurd failed not_lookupFailed_nil
  | @failed write _ _ _ lookup e _ named resolves =>
    cases resolves with
    | failed miss run => exact ⟨write, List.mem_cons_self, [], lookup, e, rfl, run, rfl, miss⟩
  | @next _ _ _ _ _ lookup reports _ _ _ _ _ named resolves silent _ ih =>
    obtain ⟨describesLookup, describesLater⟩ := c.describes_append.mp describes
    have resolved := resolves.resolved reflects describesLookup
    rw [lookupFailed_append, lookupFailed_append] at failed
    have later := (failed.resolve_left fun looked => by simpa using resolved.failed_iff.mpr looked)
      |>.resolve_left (not_lookupFailed_of_silent silent)
    obtain ⟨w, among, before, last, e, rfl, rest⟩ :=
      ih resolved.reflects (c.describes_append.mp describesLater).2 later
    exact ⟨w, List.mem_cons_of_mem _ among, lookup ++ (reports ++ before), last, e, by simp, rest⟩

end Device

variable {start d left : Device} {turns : List Turn} {batch : Batch} {nonblock : Bool}
  {events : List (Event interface)} {outcome : Except DeviceError Unit}

theorem Device.Commits.lookedUp (commits : d.Commits batch nonblock events outcome left)
    {key : PropertyKey} {found : Option UInt32} (known : left.cache.get? key = some found) :
    d.cache.get? key = some found ∨ Device.LookedUp events key found := by
  cases commits with
  | givenUp collects => exact collects.lookedUp known
  | submitted collects =>
    refine (collects.lookedUp known).imp_right ?_
    rintro ⟨before, lookup, after, entry, rfl, looked⟩
    exact ⟨before, lookup, _, entry, by rw [List.append_assoc, List.append_assoc], looked⟩

theorem History.lookedUp (history : History start turns d) (begins : start.cache = [])
    {key : PropertyKey} {found : Option UInt32} (known : d.cache.get? key = some found) :
    ∃ t ∈ turns, Device.LookedUp t.events key found := by
  induction history with
  | nil => simp [begins, PropertyCache.get?] at known
  | @concat turns t _ run ih =>
    rcases (Device.commit_runs run).lookedUp known with known | now
    · obtain ⟨t, member, looked⟩ := ih known
      exact ⟨t, List.mem_append_left _ member, looked⟩
    · exact ⟨t, by simp, now⟩

/-- A commit that succeeds made one request, which depends on the batch alone. -/
theorem Device.Commits.submissionsOf_eq (commits : d.Commits batch nonblock events outcome left)
    (reflects : d.cache.Reflects c) (describes : c.Describes events) (succeeds : outcome = .ok ()) :
    submissionsOf events = [⟨nonblock, c.entries batch.writes⟩] := by
  cases commits with
  | givenUp => cases succeeds
  | submitted collects =>
    have collected := collects.collected reflects (c.describes_append.mp describes).1
    rw [submissionsOf_append, collected.submissionsOf_eq, List.nil_append, submissionsOf_atomic,
      collected.entries _ rfl]
    rfl

theorem Device.Commits.stopsAtLookup (commits : d.Commits batch nonblock events outcome left)
    (reflects : d.cache.Reflects c) (describes : c.Describes events) (failed : LookupFailed events) :
    StopsAtLookup batch.writes events outcome left := by
  cases commits with
  | givenUp collects =>
    obtain ⟨w, among, before, lookup, e, split, run, outcome, unknown⟩ :=
      collects.stopsAtLookup reflects describes failed
    exact ⟨w, among, before, lookup, e, split, run, by rw [Except.error.inj outcome], unknown⟩
  | @submitted lookups _ _ _ collects =>
    have collected := collects.collected reflects (c.describes_append.mp describes).1
    have looked : LookupFailed lookups := by simpa [failsLookup] using failed
    simpa using collected.failed_iff.mpr (.inr looked)

theorem History.stopsAtLookup (history : History start turns d) (begins : start.cache.Reflects c)
    (describes : c.Describes (journal turns)) :
    ∀ t ∈ turns, LookupFailed t.events →
      Device.StopsAtLookup t.asked.batch.writes t.events t.reply.1 t.reply.2 := by
  induction history with
  | nil => simp
  | concat past run ih =>
    obtain ⟨earlier, now⟩ := describes_concat.mp describes
    intro t member failed
    rcases List.mem_append.mp member with before | last
    · exact ih earlier t before failed
    · obtain rfl := List.mem_singleton.mp last
      exact (Device.commit_runs run).stopsAtLookup (History.reflects past begins earlier) now failed

/-- What a device does that has been used, next to what it would do without what it remembers. -/
structure Transparent (c : Catalogue) (turns : List Turn) (d : Device) : Prop where
  /-- What is kept is the first property of the name, or none if the object has none of it. -/
  entries : ∀ key found, d.cache.get? key = some found →
    found = c.property? key.object key.name
  /-- A lookup that is made now finds the same. -/
  current : ∀ key found lookup entry, d.cache.get? key = some found → c.Describes lookup →
    (lookupProperty key.object key.name).Runs lookup (.ok entry) →
    entry.map PropertyValue.property = found
  /-- Only lookups that were completed are kept. -/
  completed : ∀ key found, d.cache.get? key = some found →
    ∃ t ∈ turns, Device.LookedUp t.events key found
  /-- Where a lookup failed, the commit was given up, and nothing was kept of the lookup. -/
  failed : ∀ t ∈ turns, LookupFailed t.events →
    Device.StopsAtLookup t.asked.batch.writes t.events t.reply.1 t.reply.2
  /-- A commit makes the request that it makes on a device that was just opened. -/
  same : ∀ (asked : Commit) events left path atomic opening fresh events' left',
    (d.commit asked.batch asked.nonblock).Runs events (.ok (), left) →
    (Device.connect path atomic).Runs opening (.ok fresh) →
    (fresh.commit asked.batch asked.nonblock).Runs events' (.ok (), left') →
    c.Describes events → c.Describes events' →
    ∃ request, submissionsOf events = [request] ∧ submissionsOf events' = [request]

/-- What a device keeps of its lookups makes no difference, whatever was committed on it and whatever
failed. -/
theorem cache_transparent {path : String} {atomic : Bool} {opening : List (Event interface)}
    (opened : (Device.connect path atomic).Runs opening (.ok start))
    (history : History start turns d) (describes : c.Describes (journal turns)) :
    Transparent c turns d := by
  obtain rfl := Device.connect_runs opened
  have begins : PropertyCache.Reflects [] c := by simp [PropertyCache.Reflects]
  have reflects := history.reflects begins describes
  refine ⟨?entries, ?current, ?completed, ?failed, ?same⟩
  case entries => exact fun key found known => reflects _ (PropertyCache.mem_of_get? known)
  case current =>
    intro key found lookup entry known described run
    have found_eq := reflects _ (PropertyCache.mem_of_get? known)
    exact ((lookupProperty_finds run described).found entry rfl).2.trans found_eq.symm
  case completed => exact fun key found known => history.lookedUp rfl known
  case failed => exact history.stopsAtLookup begins describes
  case same =>
    intro asked events left path atomic opening fresh events' left' run opened run' described
      described'
    obtain rfl := Device.connect_runs opened
    exact ⟨_, (Device.commit_runs run).submissionsOf_eq reflects described rfl,
      (Device.commit_runs run').submissionsOf_eq begins described' rfl⟩

/-- A commit that fails in the middle of a lookup, and then one that finds what it writes and misses
something. -/
theorem cache_transparent_after_failure :
    let past := Sample.commits [Sample.raised, Sample.mixed]
    past.1.map (fun t => t.reply.1) = [.error (.os Errno.noDevice), .ok ()] ∧
      past.2.cache = [(⟨.plane 7, Property.fbId⟩, some 1), (⟨.crtc 8, Property.zpos⟩, none),
        (⟨.plane 7, Property.zpos⟩, some 2)] ∧
      Transparent Sample.catalogue past.1 past.2 := by
  intro past
  have described : Sample.catalogue.Describes (journal past.1) := by decide +kernel
  exact ⟨rfl, rfl, cache_transparent Sample.opening_runs (Sample.commits_history _) described⟩

end Scanout.Kernel
