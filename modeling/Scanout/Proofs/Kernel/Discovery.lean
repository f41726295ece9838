import Scanout.Kernel.Discover
import Scanout.Proofs.Proc.Runs
import Scanout.Simulation.Card

/-!
# The first match

A card is searched for something to present on: first its connectors, for one that shows a picture,
and then its planes, for one that reaches the CRTC found. An `Inventory` is what the card answers
when it answers at all. `Searches` says of a search what it asks for and what it finds in the
inventory, and that it ends with the first query that fails.

A mask has a bit for each of 32 CRTCs. Where a card has more, the search fails at the first plane
that it looks at, and that is the only way in which it misses what the inventory offers.
-/

namespace Scanout.Kernel

open Proc

/-- The elements that a search for the first with a property looks at, this one included. -/
def lookedAt {α : Type} (p : α → Bool) : List α → List α
  | [] => []
  | a :: rest => a :: if p a then [] else lookedAt p rest

/-- What a card has, as far as a search can ask for it. -/
structure Inventory where
  resources : Resources
  connector : UInt32 → Connector
  encoder : UInt32 → Option UInt32
  planes : List UInt32
  mask : UInt32 → UInt32
  properties : ModeObject → List PropertyValue
  name : UInt32 → String

def failsQuery : Event interface → Bool
  | .answered _ (.error _) => true
  | _ => false

def QueryFailed (events : List (Event interface)) : Prop := ∃ event ∈ events, failsQuery event

instance (events : List (Event interface)) : Decidable (QueryFailed events) :=
  inferInstanceAs (Decidable (∃ event ∈ events, failsQuery event))

namespace Inventory

variable (inv : Inventory)

def confirms : Event interface → Bool
  | .answered .resources (.ok (found : Resources)) => found = inv.resources
  | .answered (.connector id) (.ok (found : Connector)) => found = inv.connector id
  | .answered (.encoder id) (.ok (found : Option UInt32)) => found = inv.encoder id
  | .answered .planes (.ok (found : List UInt32)) => found = inv.planes
  | .answered (.plane id) (.ok (found : UInt32)) => found = inv.mask id
  | .answered (.objectProperties object) (.ok (found : List PropertyValue)) =>
    found = inv.properties object
  | .answered (.property id) (.ok (found : String)) => found = inv.name id
  | _ => true

def Describes (events : List (Event interface)) : Prop := ∀ event ∈ events, inv.confirms event

instance (events : List (Event interface)) : Decidable (inv.Describes events) :=
  inferInstanceAs (Decidable (∀ event ∈ events, inv.confirms event))

/-- The CRTC that a connector shows: that of the encoder it is attached to, if it is connected. -/
def drives? (id : UInt32) : Option UInt32 :=
  if (inv.connector id).connected then (inv.connector id).encoder.bind inv.encoder else none

def connectorQueries (id : UInt32) : List Request :=
  .connector id ::
    if (inv.connector id).connected then (inv.connector id).encoder.toList.map .encoder else []

/-- The mask of a plane has the bit of a place at which the CRTC is listed. -/
def Reaches (crtc plane : UInt32) : Prop :=
  ∃ place : Nat, inv.resources.crtcs[place]? = some crtc ∧ (inv.mask plane).toNat.testBit place

theorem any_zipIdx_iff {crtcs : List UInt32} {mask crtc : UInt32} :
    (crtcs.zipIdx.any fun (id, place) => mask.toNat.testBit place && id = crtc) = true ↔
      ∃ place : Nat, crtcs[place]? = some crtc ∧ mask.toNat.testBit place := by
  rw [List.any_eq_true]
  constructor
  · rintro ⟨⟨id, place⟩, member, holds⟩
    obtain ⟨bit, rfl⟩ : mask.toNat.testBit place = true ∧ id = crtc := by simpa using holds
    exact ⟨place, List.mem_zipIdx_iff_getElem?.mp member, bit⟩
  · rintro ⟨place, listed, bit⟩
    refine ⟨(crtc, place), List.mem_zipIdx_iff_getElem?.mpr listed, ?_⟩
    simp [bit]

instance (crtc plane : UInt32) : Decidable (inv.Reaches crtc plane) :=
  decidable_of_iff _ any_zipIdx_iff

/-- The type of a plane: the value of its first property of this name. -/
def type? (plane : UInt32) : Option UInt64 :=
  ((inv.properties (.plane plane)).find? fun entry => inv.name entry.property = "type").map
    PropertyValue.value

/-- An overlay plane that reaches a CRTC. -/
def Overlays (crtc plane : UInt32) : Prop :=
  inv.Reaches crtc plane ∧ inv.type? plane = some overlayType

instance (crtc plane : UInt32) : Decidable (inv.Overlays crtc plane) :=
  inferInstanceAs (Decidable (_ ∧ _))

def propertyQueries (object : ModeObject) (name : String) : List Request :=
  .objectProperties object ::
    (lookedAt (fun entry => inv.name entry.property = name) (inv.properties object)).map
      fun entry => .property entry.property

/-- What is asked about a plane. The type of one that does not reach the CRTC does not matter. -/
def planeQueries (crtc plane : UInt32) : List Request :=
  .plane plane :: if inv.Reaches crtc plane then inv.propertyQueries (.plane plane) "type" else []

end Inventory

/-- What comes of a search with the queries `needed`, which finds `expected`. -/
structure Searches {ε α : Type} (needed : List Request) (expected : Except ε α)
    (events : List (Event interface)) (outcome : Except ε α) : Prop where
  requests : requestsOf events <+: needed
  failed : QueryFailed events → ∃ e, outcome = .error e
  answered : ¬QueryFailed events → requestsOf events = needed ∧ outcome = expected

/-- The queries of a search that depends on what another has found. -/
def afterwards {ε α : Type} (following : α → List Request) : Except ε α → List Request
  | .error _ => []
  | .ok a => following a

section Searching

variable {ε α : Type} {needed more : List Request} {expected outcome : Except ε α}
  {events before after : List (Event interface)}

@[simp] theorem queryFailed_append :
    QueryFailed (before ++ after) ↔ QueryFailed before ∨ QueryFailed after := by
  simp only [QueryFailed, List.mem_append, or_and_right, exists_or]

@[simp] theorem queryFailed_cons {event : Event interface} :
    QueryFailed (event :: events) ↔ failsQuery event ∨ QueryFailed events := by
  simp only [QueryFailed, List.mem_cons, exists_eq_or_imp]

@[simp] theorem not_queryFailed_nil : ¬QueryFailed [] := by
  simp [QueryFailed]

theorem searches_done (expected : Except ε α) : Searches [] expected [] expected :=
  ⟨List.nil_prefix, by simp, fun _ => ⟨rfl, rfl⟩⟩

theorem searches_refused (r : Request) (cause : Errno) (e : ε) (expected : Except ε α) :
    Searches (r :: needed) expected [.answered r (.error cause)] (.error e) :=
  ⟨by simp, fun _ => ⟨e, rfl⟩, by simp [failsQuery]⟩

theorem Searches.cons {r : Request} {reply : r.Reply}
    (later : Searches needed expected events outcome) :
    Searches (r :: needed) expected (.answered r (.ok reply) :: events) outcome := by
  refine ⟨?_, ?_, ?_⟩
  · exact List.cons_prefix_cons.mpr ⟨rfl, later.requests⟩
  · simpa [failsQuery] using later.failed
  · simpa [failsQuery] using later.answered

/-- A search goes on after one that has found what it looked for. -/
theorem Searches.append {β δ : Type} {sought result : Except δ β}
    (first : Searches needed sought before result) (succeeds : ¬QueryFailed before)
    (second : Searches more expected after outcome) :
    Searches (needed ++ more) expected (before ++ after) outcome := by
  obtain ⟨asked, -⟩ := first.answered succeeds
  refine ⟨?_, ?_, ?_⟩
  · rw [requestsOf_append, asked]
    exact (List.prefix_append_right_inj needed).mpr second.requests
  · simpa [succeeds] using second.failed
  · simpa [succeeds, asked] using second.answered

/-- It does not go on after one in which a query has failed. -/
theorem Searches.givenUp {β δ : Type} {sought result : Except δ β}
    (first : Searches needed sought before result) (failed : QueryFailed before) (e : ε) :
    Searches (needed ++ more) expected before (.error e) :=
  ⟨first.requests.trans (List.prefix_append _ _), fun _ => ⟨e, rfl⟩,
    fun succeeds => absurd failed succeeds⟩

theorem not_queryFailed_of_silent (silent : requestsOf events = []) : ¬QueryFailed events := by
  rintro ⟨event, member, failed⟩
  cases event with
  | reported n => cases failed
  | answered r a =>
    have asked := mem_requestsOf member
    rw [silent] at asked
    cases asked

theorem Searches.map {β : Type} (search : Searches needed expected before outcome) (f : α → β)
    (silent : requestsOf after = []) :
    Searches needed (expected.map f) (before ++ after) (outcome.map f) := by
  have unfailed := not_queryFailed_of_silent silent
  refine ⟨?_, ?_, ?_⟩
  · rw [requestsOf_append, silent, List.append_nil]
    exact search.requests
  · intro failed
    obtain ⟨e, rfl⟩ := search.failed ((queryFailed_append.mp failed).resolve_right unfailed)
    exact ⟨e, rfl⟩
  · intro succeeds
    obtain ⟨asked, rfl⟩ :=
      search.answered fun failed => succeeds (queryFailed_append.mpr (.inl failed))
    rw [requestsOf_append, silent, List.append_nil]
    exact ⟨asked, rfl⟩

theorem Searches.of_ok {a : α} (search : Searches needed expected events (.ok a)) :
    ¬QueryFailed events ∧ expected = .ok a := by
  have succeeds : ¬QueryFailed events := by
    intro failed
    obtain ⟨e, same⟩ := search.failed failed
    cases same
  exact ⟨succeeds, (search.answered succeeds).2.symm⟩

theorem Searches.andThen {β : Type} {sought result : Except ε β} {following : β → List Request}
    {next : β → Except ε α} (first : Searches needed sought before result)
    (stops : ∀ e, result = .error e → after = [] ∧ outcome = .error e)
    (goesOn : ∀ b, result = .ok b → Searches (following b) (next b) after outcome) :
    Searches (needed ++ afterwards following sought) (sought >>= next) (before ++ after)
      outcome := by
  cases result with
  | error e =>
    obtain ⟨rfl, rfl⟩ := stops e rfl
    rw [List.append_nil]
    by_cases failed : QueryFailed before
    · exact first.givenUp failed e
    · obtain ⟨asked, rfl⟩ := first.answered failed
      rw [afterwards, List.append_nil]
      exact ⟨first.requests, fun _ => ⟨e, rfl⟩, fun _ => ⟨asked, rfl⟩⟩
  | ok b =>
    obtain ⟨succeeds, rfl⟩ := first.of_ok
    exact first.append succeeds (goesOn b rfl)

/-- A search that is bound to find something is given up only because a query has failed. -/
theorem Searches.failed_of_error {a : α} {e : ε}
    (search : Searches needed (.ok a) events (.error e)) : QueryFailed events := by
  apply Classical.byContradiction
  intro succeeds
  cases (search.answered succeeds).2

end Searching

variable {inv : Inventory} {events : List (Event interface)}

theorem Inventory.describes_append {before after : List (Event interface)} :
    inv.Describes (before ++ after) ↔ inv.Describes before ∧ inv.Describes after :=
  List.forall_mem_append

theorem Inventory.describes_cons {event : Event interface} :
    inv.Describes (event :: events) ↔ inv.confirms event ∧ inv.Describes events :=
  List.forall_mem_cons

theorem searchProperty_searches {name : String} {entries : List PropertyValue}
    {outcome : Except Errno (Option PropertyValue)}
    (run : (searchProperty name entries).Runs events outcome) (describes : inv.Describes events) :
    Searches ((lookedAt (fun entry => inv.name entry.property = name) entries).map
        fun entry => .property entry.property)
      (.ok (entries.find? fun entry => inv.name entry.property = name)) events outcome := by
  induction entries generalizing events with
  | nil =>
    obtain ⟨rfl, rfl⟩ := runs_pure.mp run
    exact searches_done _
  | cons entry rest ih =>
    obtain ⟨answer, later, rfl, followed⟩ := runs_ask_bind.mp run
    obtain ⟨confirmed, describesLater⟩ := inv.describes_cons.mp describes
    cases answer with
    | error e =>
      obtain ⟨rfl, rfl⟩ := runs_pure.mp followed
      exact searches_refused ..
    | ok found =>
      obtain rfl : found = inv.name entry.property := by simpa [Inventory.confirms] using confirmed
      dsimp only at followed
      apply Searches.cons
      split at followed
      · rename_i same
        obtain ⟨rfl, rfl⟩ := runs_pure.mp followed
        simpa [same] using searches_done _
      · rename_i other
        simpa [other] using ih followed describesLater

theorem lookupProperty_searches {object : ModeObject} {name : String}
    {outcome : Except Errno (Option PropertyValue)}
    (run : (lookupProperty object name).Runs events outcome) (describes : inv.Describes events) :
    Searches (inv.propertyQueries object name)
      (.ok ((inv.properties object).find? fun entry => inv.name entry.property = name)) events
      outcome := by
  obtain ⟨answer, later, rfl, followed⟩ := runs_ask_bind.mp run
  obtain ⟨confirmed, describesLater⟩ := inv.describes_cons.mp describes
  cases answer with
  | error e =>
    obtain ⟨rfl, rfl⟩ := runs_pure.mp followed
    exact searches_refused ..
  | ok entries =>
    obtain rfl : entries = inv.properties object := by simpa [Inventory.confirms] using confirmed
    exact (searchProperty_searches followed describesLater).cons

namespace Inventory

variable (inv : Inventory)

def output? (connectors : List UInt32) : Option (UInt32 × UInt32) :=
  connectors.findSome? fun id => (inv.drives? id).map fun crtc => (id, crtc)

def outputQueries (connectors : List UInt32) : List Request :=
  (lookedAt (fun id => (inv.drives? id).isSome) connectors).flatMap inv.connectorQueries

def overlayQueries (crtc : UInt32) (planes : List UInt32) : List Request :=
  (lookedAt (fun id => inv.Overlays crtc id) planes).flatMap (inv.planeQueries crtc)

variable {inv}

theorem outputQueries_cons (id : UInt32) (rest : List UInt32) :
    inv.outputQueries (id :: rest) = inv.connectorQueries id ++
      if (inv.drives? id).isSome then [] else inv.outputQueries rest := by
  simp only [outputQueries, lookedAt, List.flatMap_cons]
  split <;> rfl

theorem overlayQueries_cons (crtc id : UInt32) (rest : List UInt32) :
    inv.overlayQueries crtc (id :: rest) = inv.planeQueries crtc id ++
      if inv.Overlays crtc id then [] else inv.overlayQueries crtc rest := by
  simp only [overlayQueries, lookedAt, List.flatMap_cons, decide_eq_true_eq]
  split <;> rfl

theorem output?_cons (id : UInt32) (rest : List UInt32) :
    inv.output? (id :: rest)
      = ((inv.drives? id).map fun crtc => (id, crtc)).or (inv.output? rest) := by
  rw [output?, List.findSome?_cons]
  cases inv.drives? id <;> rfl

/-- A connector that is off or not attached shows nothing, and nothing more is asked about it. -/
theorem of_dark {id : UInt32}
    (dark : ∀ encoder, (inv.connector id).connected = true →
      (inv.connector id).encoder = some encoder → False) :
    inv.drives? id = none ∧ inv.connectorQueries id = [.connector id] := by
  cases on : (inv.connector id).connected with
  | false => simp [drives?, connectorQueries, on]
  | true =>
    cases attached : (inv.connector id).encoder with
    | none => simp [drives?, connectorQueries, on, attached]
    | some encoder => exact (dark encoder on attached).elim

theorem of_attached {id encoder : UInt32} (on : (inv.connector id).connected = true)
    (attached : (inv.connector id).encoder = some encoder) :
    inv.drives? id = inv.encoder encoder ∧
      inv.connectorQueries id = [.connector id, .encoder encoder] := by
  simp [drives?, connectorQueries, on, attached]

end Inventory

def foundOr {α : Type} (failure : DiscoveryFailure) : Option α → Except DiscoveryFailure α
  | some a => .ok a
  | none => .error failure

theorem findConnector_searches {connectors : List UInt32}
    {outcome : Except DiscoveryFailure (UInt32 × UInt32)}
    (run : (findConnector connectors).Runs events outcome) (describes : inv.Describes events) :
    Searches (inv.outputQueries connectors) (foundOr .noConnector (inv.output? connectors)) events
      outcome := by
  induction connectors generalizing events with
  | nil =>
    obtain ⟨rfl, rfl⟩ := runs_pure.mp run
    exact searches_done _
  | cons id rest ih =>
    obtain ⟨answer, later, rfl, followed⟩ := runs_ask_bind.mp run
    obtain ⟨confirmed, describesLater⟩ := inv.describes_cons.mp describes
    rw [Inventory.outputQueries_cons, Inventory.output?_cons]
    cases answer with
    | error e =>
      obtain ⟨rfl, rfl⟩ := runs_pure.mp followed
      exact searches_refused ..
    | ok connector =>
      obtain rfl : connector = inv.connector id := by simpa [Inventory.confirms] using confirmed
      dsimp only at followed
      split at followed
      · rename_i encoder on attached
        obtain ⟨drives, queries⟩ := Inventory.of_attached on attached
        rw [drives, queries]
        apply Searches.cons
        obtain ⟨answer, last, rfl, ended⟩ := runs_ask_bind.mp followed
        obtain ⟨confirmed, describesLast⟩ := inv.describes_cons.mp describesLater
        cases answer with
        | error e =>
          obtain ⟨rfl, rfl⟩ := runs_pure.mp ended
          exact searches_refused ..
        | ok crtc =>
          obtain rfl : crtc = inv.encoder encoder := by simpa [Inventory.confirms] using confirmed
          apply Searches.cons
          dsimp only at ended
          split at ended
          · rename_i crtc drive
            obtain ⟨rfl, rfl⟩ := runs_pure.mp ended
            rw [drive]
            exact searches_done _
          · rename_i drive
            rw [drive]
            exact ih ended describesLast
      · rename_i dark
        obtain ⟨drives, queries⟩ := Inventory.of_dark dark
        rw [drives, queries]
        exact Searches.cons (ih followed describesLater)

/-- Where every place in the list of CRTCs has a bit, the mask is read as it is meant. -/
theorem reaches_of_narrow (narrow : inv.resources.crtcs.length ≤ maskWidth) (crtc plane : UInt32) :
    reaches inv.resources.crtcs (inv.mask plane) crtc = .ok (decide (inv.Reaches crtc plane)) := by
  rw [reaches, if_neg (Nat.not_lt.mpr narrow)]
  congr 1
  rw [Bool.eq_iff_iff, Inventory.any_zipIdx_iff, decide_eq_true_eq]
  rfl

theorem findPlane_searches (narrow : inv.resources.crtcs.length ≤ maskWidth) {crtc : UInt32}
    {planes : List UInt32} {outcome : Except DiscoveryFailure UInt32}
    (run : (findPlane inv.resources.crtcs crtc planes).Runs events outcome)
    (describes : inv.Describes events) :
    Searches (inv.overlayQueries crtc planes)
      (foundOr .noPlane (planes.find? fun id => inv.Overlays crtc id)) events outcome := by
  induction planes generalizing events with
  | nil =>
    obtain ⟨rfl, rfl⟩ := runs_pure.mp run
    exact searches_done _
  | cons id rest ih =>
    obtain ⟨answer, later, rfl, followed⟩ := runs_ask_bind.mp run
    obtain ⟨confirmed, describesLater⟩ : _ ∧ inv.Describes later := inv.describes_cons.mp describes
    rw [Inventory.overlayQueries_cons, List.find?_cons]
    cases answer with
    | error e =>
      obtain ⟨rfl, rfl⟩ := runs_pure.mp followed
      exact searches_refused ..
    | ok mask =>
      obtain rfl : mask = inv.mask id := by simpa [Inventory.confirms] using confirmed
      dsimp only at followed
      rw [reaches_of_narrow narrow] at followed
      apply Searches.cons
      by_cases reached : inv.Reaches crtc id
      · simp only [reached, decide_true, if_true] at followed ⊢
        obtain ⟨lookup, found, last, rfl, looked, ended⟩ := runs_bind.mp followed
        obtain ⟨describesLookup, describesLast⟩ := inv.describes_append.mp describesLater
        have search := lookupProperty_searches looked describesLookup
        cases found with
        | error e =>
          obtain ⟨rfl, rfl⟩ := runs_pure.mp ended
          rw [List.append_nil]
          exact search.givenUp search.failed_of_error _
        | ok entry =>
          obtain ⟨succeeds, ⟨⟩⟩ := search.of_ok
          apply search.append succeeds
          dsimp only at ended
          split at ended
          · rename_i overlay
            have overlays : inv.Overlays crtc id := ⟨reached, overlay⟩
            obtain ⟨rfl, rfl⟩ := runs_pure.mp ended
            simp only [overlays, decide_true, if_true]
            exact searches_done _
          · rename_i other
            have passed : ¬inv.Overlays crtc id := fun overlays => other overlays.2
            simpa [passed] using ih ended describesLast
      · have passed : ¬inv.Overlays crtc id := fun overlays => reached overlays.1
        simp only [reached, decide_false] at followed
        simpa [passed, reached] using ih followed describesLater

namespace Inventory

variable (inv : Inventory)

/-- What is asked about planes. Where a place has no bit, there is no search behind the first. -/
def planesQueries (crtc : UInt32) : List Request :=
  if maskWidth < inv.resources.crtcs.length then inv.planes.head?.toList.map .plane
  else inv.overlayQueries crtc inv.planes

def overlay (crtc : UInt32) : Except DiscoveryFailure UInt32 :=
  if maskWidth < inv.resources.crtcs.length ∧ inv.planes ≠ [] then .error (.arithmetic .shift)
  else foundOr .noPlane (inv.planes.find? fun id => inv.Overlays crtc id)

end Inventory

theorem findPlane_overflows (wide : maskWidth < inv.resources.crtcs.length) {crtc : UInt32}
    {planes : List UInt32} {outcome : Except DiscoveryFailure UInt32}
    (run : (findPlane inv.resources.crtcs crtc planes).Runs events outcome) :
    Searches (planes.head?.toList.map .plane)
      (if planes ≠ [] then .error (.arithmetic .shift) else .error .noPlane) events outcome := by
  cases planes with
  | nil =>
    obtain ⟨rfl, rfl⟩ := runs_pure.mp run
    exact searches_done _
  | cons id rest =>
    obtain ⟨answer, later, rfl, followed⟩ := runs_ask_bind.mp run
    cases answer with
    | error e =>
      obtain ⟨rfl, rfl⟩ := runs_pure.mp followed
      exact searches_refused ..
    | ok mask =>
      apply Searches.cons
      simp only [reaches, if_pos wide] at followed
      obtain ⟨rfl, rfl⟩ := runs_pure.mp followed
      exact searches_done _

theorem findPlane_finds {crtc : UInt32} {outcome : Except DiscoveryFailure UInt32}
    (run : (findPlane inv.resources.crtcs crtc inv.planes).Runs events outcome)
    (describes : inv.Describes events) :
    Searches (inv.planesQueries crtc) (inv.overlay crtc) events outcome := by
  rw [Inventory.planesQueries, Inventory.overlay]
  by_cases wide : maskWidth < inv.resources.crtcs.length
  · have overflows := findPlane_overflows wide run
    rw [if_pos wide]
    by_cases none : inv.planes = []
    · simpa [none, foundOr] using overflows
    · simpa [none, wide] using overflows
  · rw [if_neg wide, if_neg fun both => wide both.1]
    exact findPlane_searches (Nat.not_lt.mp wide) run describes

namespace Inventory

variable (inv : Inventory)

def output : Except DiscoveryFailure (UInt32 × UInt32) :=
  foundOr .noConnector (inv.output? inv.resources.connectors)

/-- The queries of a whole search, of which none is about anything behind a first match. -/
def queries : List Request :=
  .resources :: (inv.outputQueries inv.resources.connectors ++
    afterwards (fun (_, crtc) => .planes :: inv.planesQueries crtc) inv.output)

def found : Except DiscoveryFailure Targets := do
  let (connector, crtc) ← inv.output
  (inv.overlay crtc).map fun videoPlane => { crtc, connector, videoPlane }

end Inventory

theorem discoverTargets_searches {outcome : Except DiscoveryFailure Targets}
    (run : discoverTargets.Runs events outcome) (describes : inv.Describes events) :
    Searches inv.queries inv.found events outcome := by
  obtain ⟨answer, later, rfl, followed⟩ := runs_ask_bind.mp run
  obtain ⟨confirmed, describesLater⟩ : _ ∧ inv.Describes later := inv.describes_cons.mp describes
  cases answer with
  | error e =>
    obtain ⟨rfl, rfl⟩ := runs_pure.mp followed
    exact searches_refused ..
  | ok card =>
    obtain rfl : card = inv.resources := by simpa [Inventory.confirms] using confirmed
    apply Searches.cons
    obtain ⟨search, output, others, rfl, searched, rest⟩ := runs_bind.mp followed
    obtain ⟨describesSearch, describesOthers⟩ := inv.describes_append.mp describesLater
    refine (findConnector_searches searched describesSearch).andThen ?_ ?_
    · rintro e rfl
      exact runs_pure.mp rest
    · rintro ⟨connector, crtc⟩ rfl
      obtain ⟨answer, later, rfl, planning⟩ := runs_ask_bind.mp rest
      obtain ⟨confirmed, describesPlanes⟩ : _ ∧ inv.Describes later :=
        inv.describes_cons.mp describesOthers
      cases answer with
      | error e =>
        obtain ⟨rfl, rfl⟩ := runs_pure.mp planning
        exact searches_refused ..
      | ok planes =>
        obtain rfl : planes = inv.planes := by simpa [Inventory.confirms] using confirmed
        apply Searches.cons
        obtain ⟨lookup, plane, reports, rfl, looked, ended⟩ := runs_bind.mp planning
        have search := findPlane_finds looked (inv.describes_append.mp describesPlanes).1
        cases plane with
        | error e =>
          obtain ⟨rfl, rfl⟩ := runs_pure.mp ended
          exact search.map _ requestsOf_nil
        | ok videoPlane =>
          obtain ⟨report, _, nothing, rfl, reported, done⟩ := runs_bind.mp ended
          obtain rfl := runs_notice.mp reported
          obtain ⟨rfl, rfl⟩ := runs_pure.mp done
          exact search.map _ rfl

theorem foundOr_eq_ok {α : Type} {failure : DiscoveryFailure} {sought : Option α} {a : α} :
    foundOr failure sought = .ok a ↔ sought = some a := by
  cases sought <;> simp [foundOr]

namespace Inventory

/-- The first connector that shows a CRTC, the CRTC, and the first overlay plane that reaches it. -/
structure Offers (inv : Inventory) (targets : Targets) : Prop where
  connector_eq : inv.resources.connectors.find? (fun id => (inv.drives? id).isSome)
    = some targets.connector
  crtc_eq : inv.drives? targets.connector = some targets.crtc
  plane_eq : inv.planes.find? (fun id => inv.Overlays targets.crtc id) = some targets.videoPlane

theorem output?_eq_some {connectors : List UInt32} {connector crtc : UInt32} :
    inv.output? connectors = some (connector, crtc) ↔
      connectors.find? (fun id => (inv.drives? id).isSome) = some connector ∧
        inv.drives? connector = some crtc := by
  induction connectors with
  | nil => simp [output?]
  | cons id rest ih =>
    rw [output?_cons, List.find?_cons]
    cases drives : inv.drives? id with
    | none => simpa using ih
    | some found =>
      simp only [Option.map_some, Option.some_or, Option.isSome_some, Option.some.injEq,
        Prod.mk.injEq]
      constructor
      · rintro ⟨rfl, rfl⟩
        exact ⟨rfl, drives⟩
      · rintro ⟨rfl, same⟩
        rw [drives] at same
        exact ⟨rfl, Option.some.inj same⟩

theorem overlay_eq_ok {crtc plane : UInt32} :
    inv.overlay crtc = .ok plane ↔
      inv.planes.find? (fun id => inv.Overlays crtc id) = some plane ∧
        inv.resources.crtcs.length ≤ maskWidth := by
  rw [overlay]
  split
  · rename_i overflows
    refine iff_of_false (by simp) fun both => ?_
    exact Nat.not_lt.mpr both.2 overflows.1
  · rename_i sound
    rw [foundOr_eq_ok]
    refine (and_iff_left_of_imp fun found => ?_).symm
    have some : inv.planes ≠ [] := List.ne_nil_of_mem (List.mem_of_find?_eq_some found)
    exact Nat.not_lt.mp fun wide => sound ⟨wide, some⟩

theorem found_eq_ok {targets : Targets} :
    inv.found = .ok targets ↔ inv.Offers targets ∧ inv.resources.crtcs.length ≤ maskWidth := by
  constructor
  · intro found
    rw [Inventory.found] at found
    cases output : inv.output with
    | error e =>
      rw [output] at found
      cases found
    | ok shown =>
      obtain ⟨connector, crtc⟩ := shown
      rw [output] at found
      cases overlay : inv.overlay crtc with
      | error e =>
        simp only [bind, Except.bind, overlay, Except.map] at found
        cases found
      | ok plane =>
        simp only [bind, Except.bind, overlay, Except.map] at found
        cases found
        obtain ⟨first, drives⟩ := output?_eq_some.mp (foundOr_eq_ok.mp output)
        obtain ⟨reached, narrow⟩ := overlay_eq_ok.mp overlay
        exact ⟨⟨first, drives, reached⟩, narrow⟩
  · rintro ⟨offers, narrow⟩
    have output : inv.output = .ok (targets.connector, targets.crtc) :=
      foundOr_eq_ok.mpr (output?_eq_some.mpr ⟨offers.connector_eq, offers.crtc_eq⟩)
    have overlay : inv.overlay targets.crtc = .ok targets.videoPlane :=
      overlay_eq_ok.mpr ⟨offers.plane_eq, narrow⟩
    rw [Inventory.found, output]
    show (inv.overlay targets.crtc).map _ = _
    rw [overlay]
    rfl

end Inventory

/-- What comes of a search for targets on a card. -/
structure Discovers (inv : Inventory) (events : List (Event interface))
    (outcome : Except DiscoveryFailure Targets) : Prop where
  /-- Nothing behind a first match is asked about. -/
  requests : requestsOf events <+: inv.queries
  complete : ¬QueryFailed events → requestsOf events = inv.queries
  failed : QueryFailed events → ∃ e, outcome = .error e
  chosen : ∀ targets, outcome = .ok targets → inv.Offers targets
  ok_iff : ¬QueryFailed events → ((∃ targets, outcome = .ok targets) ↔
    (∃ targets, inv.Offers targets) ∧ inv.resources.crtcs.length ≤ maskWidth)
  /-- If there are more CRTCs than a mask has bits, the first plane is the end. -/
  overflows : ¬QueryFailed events → maskWidth < inv.resources.crtcs.length →
    ∀ shown, inv.output = .ok shown → inv.planes ≠ [] → outcome = .error (.arithmetic .shift)

/-- Whatever the card has, and whichever of the queries fail. -/
theorem discoverTargets_first_match {outcome : Except DiscoveryFailure Targets}
    (run : discoverTargets.Runs events outcome) (describes : inv.Describes events) :
    Discovers inv events outcome := by
  have searches := discoverTargets_searches run describes
  refine ⟨searches.requests, fun succeeds => (searches.answered succeeds).1, searches.failed,
    ?chosen, ?ok_iff, ?overflows⟩
  case chosen =>
    rintro targets rfl
    exact (Inventory.found_eq_ok.mp searches.of_ok.2).1
  case ok_iff =>
    intro succeeds
    rw [(searches.answered succeeds).2]
    simp only [Inventory.found_eq_ok, exists_and_right]
  case overflows =>
    rintro succeeds wide ⟨connector, crtc⟩ shown some
    rw [(searches.answered succeeds).2, Inventory.found, shown]
    show (inv.overlay crtc).map _ = _
    rw [Inventory.overlay, if_pos ⟨wide, some⟩]
    rfl

namespace Sample

open Simulation

def inventory (c : Card) : Inventory where
  resources := ⟨c.connectors.map (·.1), c.crtcs.map (·.1)⟩
  connector id := (c.connectors.lookup id).getD ⟨false, none⟩
  encoder id := (c.encoders.lookup id).getD none
  planes := c.planes.map (·.1)
  mask id := (c.planes.lookup id).getD 0
  properties object := (c.objects.lookup object).getD []
  name id := (c.propertyNames.lookup id).getD ""

/-- The first connector is off, the second not attached. Of the planes, the first cannot show the
CRTC, and the second is no overlay. -/
def desk : Card where
  prime := 3
  lastId := 100
  failures := []
  connectors := [(50, ⟨false, some 60⟩), (51, ⟨true, none⟩), (52, ⟨true, some 61⟩),
    (53, ⟨true, some 60⟩)]
  encoders := [(60, some 40), (61, some 41)]
  crtcs := [(40, none), (41, none)]
  planes := [(62, 1), (63, 3), (64, 2), (65, 2)]
  propertyNames := [(1, "type"), (2, Property.fbId)]
  objects := [(.plane 62, [⟨1, 0⟩]), (.plane 63, [⟨2, 0⟩, ⟨1, 1⟩]), (.plane 64, [⟨2, 0⟩, ⟨1, 0⟩]),
    (.plane 65, [⟨1, 0⟩])]
  blobs := []
  journal := []

end Sample

/-- It finds the third connector and the third plane. -/
theorem discoverTargets_first_match_desk :
    let search := discoverTargets.run Simulation.Card.answer Sample.desk
    (Sample.inventory Sample.desk).Describes search.1 ∧
      search.2.1 = .ok { crtc := 41, connector := 52, videoPlane := 64 } ∧
      Discovers (Sample.inventory Sample.desk) search.1 search.2.1 := by
  intro search
  have run := runs_run (I := interface) Simulation.Card.answer discoverTargets Sample.desk
  have describes : (Sample.inventory Sample.desk).Describes search.1 := by decide +kernel
  exact ⟨describes, rfl, discoverTargets_first_match run describes⟩

namespace Sample

open Simulation

/-- It has one CRTC more than a mask has bits. -/
def wide : Card where
  prime := 3
  lastId := 100
  failures := []
  connectors := [(52, ⟨true, some 60⟩)]
  encoders := [(60, some 400)]
  crtcs := (List.range 33).map fun place => (UInt32.ofNat (400 + place), none)
  planes := [(63, 1)]
  propertyNames := [(1, "type")]
  objects := [(.plane 63, [⟨1, 0⟩])]
  blobs := []
  journal := []

/-- Its plane has two types. -/
def twofold : Card where
  prime := 3
  lastId := 100
  failures := []
  connectors := [(52, ⟨true, some 60⟩)]
  encoders := [(60, some 41)]
  crtcs := [(41, none)]
  planes := [(63, 1)]
  propertyNames := [(1, "type"), (2, "type")]
  objects := [(.plane 63, [⟨1, 1⟩, ⟨2, 0⟩])]
  blobs := []
  journal := []

end Sample

/-- What a card offers is not found if it has 33 CRTCs, nor if its plane is an overlay plane by the
second property that is named so. -/
theorem discoverTargets_misses :
    let search := discoverTargets.run Simulation.Card.answer
    (((Sample.inventory Sample.wide).Describes (search Sample.wide).1 ∧
        ¬QueryFailed (search Sample.wide).1 ∧
        (Sample.inventory Sample.wide).Offers { crtc := 400, connector := 52, videoPlane := 63 }) ∧
      (search Sample.wide).2.1 = .error (.arithmetic .shift)) ∧
    (((Sample.inventory Sample.twofold).Describes (search Sample.twofold).1 ∧
        ¬QueryFailed (search Sample.twofold).1 ∧
        (Sample.inventory Sample.twofold).output = .ok (52, 41) ∧
        63 ∈ (Sample.inventory Sample.twofold).planes ∧
        (Sample.inventory Sample.twofold).Reaches 41 63 ∧
        ∃ entry ∈ (Sample.inventory Sample.twofold).properties (.plane 63),
          (Sample.inventory Sample.twofold).name entry.property = "type" ∧
            entry.value = overlayType) ∧
      (search Sample.twofold).2.1 = .error .noPlane) := by
  refine ⟨⟨⟨by decide +kernel, by decide +kernel, ⟨rfl, rfl, by decide +kernel⟩⟩, rfl⟩,
    ⟨⟨by decide +kernel, by decide +kernel, rfl, by decide, by decide +kernel, by decide +kernel⟩,
      rfl⟩⟩

end Scanout.Kernel
