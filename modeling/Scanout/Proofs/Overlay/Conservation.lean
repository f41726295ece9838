import Scanout.Proofs.Overlay.Lifetime

/-!
# Conservation of resources

Over a whole life, what a manager has acquired and not yet given back is what the frames in its ring
and its session hold, however the device fails. Nothing is given back twice, and nothing is left once
the stream is closed.
-/

namespace Scanout.Overlay

open Display Proc

/-- What the frames and the session of a manager hold; without a manager nothing is held. -/
def holdings : Option Manager → Multiset Resource
  | none => 0
  | some m => m.resources

theorem Manager.Drains.movements {m : Manager} {events : List (Event interface)}
    (drains : m.Drains events) : movementsOf events = m.resources.map .release := by
  obtain ⟨answer, releases, rfl, given⟩ := drains.calls
  rw [movementsOf_disableEvent, movementsOf_of_releases given]

theorem Manager.Drains.settles {m : Manager} {events : List (Event interface)}
    (drains : m.Drains events) : Settles m.resources (movementsOf events) 0 := by
  rw [drains.movements]
  exact .release_all _

theorem settles_of_neutral {held : Multiset Resource} {events : List (Event interface)}
    (neutral : ∀ request ∈ requestsOf events, request.Neutral) :
    Settles held (movementsOf events) held := by
  rw [movementsOf_of_neutral neutral]
  exact .nil held

variable {config : Config}

theorem Call.Does.settles {m left : Manager} {call : Call} {events : List (Event interface)}
    (does : call.Does m events left) : Settles m.resources (movementsOf events) left.resources := by
  cases does with
  | presented presents => exact presents.settles
  | ended drains => exact drains.settles
  | refreshed _ calls => exact settles_of_neutral (by simp [calls])
  | disabled _ calls => exact settles_of_neutral (by simp [calls])
  | idle => exact .nil _
  | released _ drains => exact drains.settles

theorem Call.Does.quiet {m left : Manager} {call : Call} {events : List (Event interface)}
    (does : call.Does m events left) : NoLeak events := by
  cases does with
  | presented presents => exact presents.quiet
  | ended drains => exact drains.quiet
  | refreshed quiet => exact quiet
  | disabled quiet => exact quiet
  | idle => exact noLeak_nil
  | released _ drains => exact drains.quiet

theorem Call.Does.closed {m left : Manager} {call : Call} {events : List (Event interface)}
    (sound : m.Sound config) (closes : call.Closes) (does : call.Does m events left) :
    left.resources = [] := by
  cases does with
  | presented => cases closes
  | ended => exact m.resources_ended
  | refreshed | disabled => exact closes.elim
  | idle torn => exact sound.torn_resources torn
  | released => exact m.resources_released

structure Act.Accounts (act : Act) (owner : Option Manager) (events : List (Event interface))
    (left : Option Manager) : Prop where
  settles : Settles (holdings owner) (movementsOf events) (holdings left)
  quiet : NoLeak events
  closed : act.Closes → holdings left = 0

theorem Acts.accounts {owner left : Option Manager} {act : Act} {events : List (Event interface)}
    (acts : Acts config owner act events left) (sound : ∀ m, owner = some m → m.Sound config) :
    act.Accounts owner events left := by
  cases acts with
  | refused creating =>
    obtain ⟨quiet, neutral, -⟩ := Manager.create_runs creating
    exact ⟨settles_of_neutral neutral, quiet, False.elim⟩
  | created creating =>
    obtain ⟨quiet, neutral, made⟩ := Manager.create_runs creating
    obtain ⟨size, panel, rfl⟩ := made _ rfl
    exact ⟨settles_of_neutral neutral, quiet, False.elim⟩
  | called calling =>
    have does := Call.does calling
    refine ⟨does.settles, does.quiet, fun closes => ?_⟩
    rw [holdings, does.closed (sound _ rfl) closes]
    rfl
  | dropped dropping =>
    have sound := sound _ rfl
    -- A released manager has nothing to discard, so a drop is a release.
    obtain ⟨left, releasing⟩ := Manager.drop_runs (fun torn => (sound.torn torn).1) dropping
    have does : Call.uninit.Does _ events left := Call.does releasing
    have closes : Call.uninit.Closes := trivial
    have settles := does.settles
    rw [does.closed sound closes] at settles
    exact ⟨settles, does.quiet, fun _ => rfl⟩

/-- What is true of the books after any life of a manager. -/
structure Conserves (acts : List Act) (events : List (Event interface)) (owner : Option Manager) :
    Prop where
  /-- Only what is outstanding is ever given back, and what is outstanding now is what is held. -/
  settles : Settles 0 (movementsOf events) (holdings owner)
  distinct : (holdings owner).Nodup
  quiet : NoLeak events
  /-- Everything handed out has been given back, once for each time that it was handed out. -/
  closed : ∀ act, acts.getLast? = some act → act.Closes →
    holdings owner = 0 ∧ (acquiredOf (movementsOf events)).Perm (releasedOf (movementsOf events))

theorem Lifetime.settles {acts : List Act} {events : List (Event interface)}
    {owner : Option Manager} (life : Lifetime config acts events owner) :
    Settles 0 (movementsOf events) (holdings owner) ∧ NoLeak events := by
  induction life with
  | start => exact ⟨.nil 0, noLeak_nil⟩
  | next life step ih =>
    have accounts := step.accounts life.sound
    rw [movementsOf_append, noLeak_append]
    exact ⟨ih.1.append accounts.settles, ih.2, accounts.quiet⟩

/-- The resources of a device are conserved over the life of a manager, provided that the device
never hands out a number that is still in use. -/
theorem lifetime_conserves {acts : List Act} {events : List (Event interface)}
    {owner : Option Manager} (life : Lifetime config acts events owner)
    (fresh : Fresh 0 (movementsOf events)) : Conserves acts events owner := by
  obtain ⟨settles, quiet⟩ := life.settles
  refine ⟨settles, settles.nodup fresh Multiset.nodup_zero, quiet, fun act last closes => ?_⟩
  have empty : holdings owner = 0 := by
    cases life with
    | start => cases last
    | next life step =>
      rw [List.getLast?_concat, Option.some.injEq] at last
      subst last
      exact (step.accounts life.sound).closed closes
  have balance := settles.balance
  rw [empty, Multiset.zero_add, Multiset.zero_add] at balance
  exact ⟨empty, Multiset.coe_eq_coe.mp balance⟩

/-- One image is shown, and the manager is dropped. -/
theorem lifetime_conserves_shown_dropped :
    ∃ events, Lifetime Sample.config
      [.create, .call (.present (some Sample.image) Sample.area Sample.area .empty), .drop]
      events none ∧ Fresh 0 (movementsOf events) ∧
      acquiredOf (movementsOf events)
        = [.handle ⟨1⟩, .framebuffer ⟨2⟩, .blob ⟨3⟩] ∧
      Conserves [.create, .call (.present (some Sample.image) Sample.area Sample.area .empty), .drop]
        events none := by
  have dropping := runs_run (I := interface) Simulation.DisplayDevice.answer
    Sample.showing.2.1.manager.drop Sample.showing.2.2
  have life := Sample.shown_life.next (.dropped dropping)
  exact ⟨_, life, by decide, by decide, lifetime_conserves life (by decide)⟩

end Scanout.Overlay
