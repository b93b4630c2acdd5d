import MutationTesting.Proofs.Trampoline.Handles
import MutationTesting.Session.Workbench

/-! Activations nest like a stack. All that an activation remembers is where its slot pointed
before, so that releasing the latest one on a slot uncovers the one below it, whatever is done to
other slots in the meantime. Once nothing is active, every slot is as it was.
-/

namespace MutationTesting

/-- What is done to the slots of a workbench. -/
inductive SlotEvent where
  | activate (name : String) (address : Address)
  /-- Releases an activation, by its place among those that the events make. -/
  | release (number : Nat)
  /-- Activates a mutant in code that panics. -/
  | unwind (name : String) (address : Address)
deriving DecidableEq

/-- A mutant that was put into a slot, with the number of its activation. -/
structure Occupant where
  number : Nat
  name : String
  address : Address
deriving DecidableEq

namespace SlotEvent

-----------------------------------------------------------------------------------------
-- Activations that are alive
-----------------------------------------------------------------------------------------

/-- The slot and the mutant of an activation that lasts. -/
def activation? : SlotEvent → Option (String × Address)
  | .activate name address => some (name, address)
  | .release _ | .unwind _ _ => none

/-- All activations, numbered in their order. -/
def occupants (events : List SlotEvent) : List Occupant :=
  (events.filterMap activation?).mapIdx fun number activation =>
    { number, name := activation.1, address := activation.2 }

/-- The activations that have not been released, in their order. -/
def alive (events : List SlotEvent) : List Occupant :=
  (occupants events).filter fun occupant => .release occupant.number ∉ events

/-- The activations that are alive on one slot, the latest one last. -/
def aliveOn (events : List SlotEvent) (name : String) : List Occupant :=
  (alive events).filter (·.name = name)

/-- Where a slot points while these activations are alive on it: at the mutant of the latest one,
and without any where it pointed before them.
-/
def covered (slot : Slot) (occupants : List Occupant) : Option Address :=
  (occupants.getLast?.map (·.address)).or slot.target

/-- What may happen after some events: a slot of the table is activated, or of the activations
that are alive on a slot the latest one is released.
-/
inductive Allowed (table : TrampolineTable) (events : List SlotEvent) : SlotEvent → Prop
  | activate {name : String} (known : (table.find? name).isSome) (address : Address)
    : Allowed table events (.activate name address)
  | release (name : String) (occupant : Occupant)
    (latest : (aliveOn events name).getLast? = some occupant)
    : Allowed table events (.release occupant.number)
  | unwind {name : String} (known : (table.find? name).isSome) (address : Address)
    : Allowed table events (.unwind name address)

/-- Each event is allowed after those before it. -/
inductive Nested (table : TrampolineTable) : List SlotEvent → Prop
  | start : Nested table []
  | next {events : List SlotEvent} {event : SlotEvent} (earlier : Nested table events)
    (allowed : Allowed table events event)
    : Nested table (events ++ [event])

/-- Events that are nested are so up to every moment. -/
theorem Nested.upTo {table : TrampolineTable} {events moment : List SlotEvent}
    (nested : Nested table events) (before : moment <+: events)
    : Nested table moment := by
  induction nested with
  | start => rw [List.prefix_nil.mp before]; exact .start
  | next earlier allowed ih =>
      rcases List.prefix_concat_iff.mp before with rfl | before
      · exact .next earlier allowed
      · exact ih before

-----------------------------------------------------------------------------------------
-- One more event
-----------------------------------------------------------------------------------------

theorem occupants_activate (events : List SlotEvent) (name : String) (address : Address)
    : occupants (events ++ [.activate name address])
      = occupants events ++ [{ number := (occupants events).length, name, address }] := by
  simp [occupants, activation?, List.mapIdx_append]

theorem occupants_release (events : List SlotEvent) (number : Nat)
    : occupants (events ++ [.release number]) = occupants events := by
  simp [occupants, List.filterMap_cons, activation?]

theorem occupants_unwind (events : List SlotEvent) (name : String) (address : Address)
    : occupants (events ++ [.unwind name address]) = occupants events := by
  simp [occupants, List.filterMap_cons, activation?]

theorem numbers_occupants (events : List SlotEvent)
    : (occupants events).map (·.number) = List.range (occupants events).length := by
  refine List.ext_getElem (by simp) fun place inside _ => ?_
  simp [occupants]

theorem nodup_numbers (events : List SlotEvent) : ((alive events).map (·.number)).Nodup := by
  have all : ((occupants events).map (·.number)).Nodup := by
    rw [numbers_occupants]
    exact List.nodup_range
  exact all.sublist (List.filter_sublist.map _)

theorem number_lt {events : List SlotEvent} {occupant : Occupant}
    (member : occupant ∈ occupants events)
    : occupant.number < (occupants events).length := by
  rw [← List.mem_range, ← numbers_occupants]
  exact List.mem_map_of_mem member

theorem mem_aliveOn {events : List SlotEvent} {name : String} {occupant : Occupant}
    : occupant ∈ aliveOn events name ↔ occupant ∈ alive events ∧ occupant.name = name := by
  simp [aliveOn]

theorem mem_of_mem_occupants {events : List SlotEvent} {occupant : Occupant}
    (member : occupant ∈ occupants events)
    : .activate occupant.name occupant.address ∈ events := by
  obtain ⟨place, inside, rfl⟩ := List.mem_mapIdx.mp member
  obtain ⟨event, there, made⟩ := List.mem_filterMap.mp (List.getElem_mem inside)
  cases event with
  | activate name address =>
      rw [← Option.some.inj made]
      exact there
  | release number => nomatch made
  | unwind name address => nomatch made

/-- Only activations that have been made are released. -/
theorem Nested.number_lt {table : TrampolineTable} {events : List SlotEvent}
    (nested : Nested table events) {number : Nat} (released : .release number ∈ events)
    : number < (occupants events).length := by
  induction nested with
  | start => simp at released
  | next earlier allowed ih =>
      cases allowed with
      | activate known address =>
          rw [occupants_activate, List.length_append]
          exact Nat.lt_add_right _ (ih (by simpa using released))
      | release name occupant latest =>
          rw [occupants_release]
          rcases List.mem_append.mp released with before | now
          · exact ih before
          · obtain rfl : number = occupant.number := by simpa using now
            have living := (mem_aliveOn.mp (List.mem_of_getLast? latest)).1
            exact SlotEvent.number_lt (List.mem_filter.mp living).1
      | unwind known address =>
          rw [occupants_unwind]
          exact ih (by simpa using released)

/-- Activations occupy slots of the table. -/
theorem Nested.known {table : TrampolineTable} {events : List SlotEvent}
    (nested : Nested table events)
    : ∀ occupant ∈ occupants events, (table.find? occupant.name).isSome := by
  induction nested with
  | start => simp [occupants]
  | next earlier allowed ih =>
      cases allowed with
      | activate known address =>
          rw [occupants_activate]
          exact List.forall_mem_append.mpr ⟨ih, by simpa using known⟩
      | release name occupant latest => rwa [occupants_release]
      | unwind known address => rwa [occupants_unwind]

/-- A new activation is alive on its own slot, behind all others. -/
theorem Nested.aliveOn_activate {table : TrampolineTable} {events : List SlotEvent}
    (nested : Nested table events) (name : String) (address : Address) (other : String)
    : aliveOn (events ++ [.activate name address]) other
      = aliveOn events other
        ++ if name = other then
            [{ number := (occupants events).length, name, address }]
          else
            [] := by
  have fresh : .release (occupants events).length ∉ events := fun released =>
    absurd (nested.number_lt released) (Nat.lt_irrefl _)
  simp only [aliveOn, alive, occupants_activate, List.filter_append]
  by_cases own : name = other <;> simp [own, fresh]

theorem aliveOn_release (events : List SlotEvent) (number : Nat) (name : String)
    : aliveOn (events ++ [.release number]) name
      = (aliveOn events name).filter (·.number ≠ number) := by
  simp only [aliveOn, alive, occupants_release, List.filter_filter]
  refine List.filter_congr fun occupant _ => ?_
  simp [Bool.and_comm, Bool.and_left_comm]

theorem aliveOn_unwind (events : List SlotEvent) (name : String) (address : Address)
    (other : String)
    : aliveOn (events ++ [.unwind name address]) other = aliveOn events other := by
  simp [aliveOn, alive, occupants_unwind]

/-- Releasing the latest activation on a slot leaves those below it alive, and all on other slots:
numbers tell activations apart.
-/
theorem aliveOn_release_latest {events : List SlotEvent} {name : String} {occupant : Occupant}
    {below : List Occupant} (latest : aliveOn events name = below ++ [occupant]) (other : String)
    : aliveOn (events ++ [.release occupant.number]) other
      = if other = name then below else aliveOn events other := by
  obtain ⟨living, named⟩ := mem_aliveOn.mp (latest ▸ List.mem_concat_self)
  rw [aliveOn_release]
  by_cases own : other = name
  · have distinct : ((aliveOn events name).map (·.number)).Nodup :=
      (nodup_numbers events).sublist (List.filter_sublist.map _)
    rw [latest, List.map_append, List.map_singleton, List.nodup_append] at distinct
    rw [if_pos own, own, latest, List.filter_append, List.filter_eq_self.mpr]
    · simp
    · intro there member
      simpa using distinct.2.2 _ (List.mem_map_of_mem member) _ (by simp)
  · rw [if_neg own, List.filter_eq_self]
    intro there member
    obtain ⟨livingToo, elsewhere⟩ := mem_aliveOn.mp member
    simp only [ne_eq, decide_eq_true_eq]
    intro same
    have equal := List.inj_on_of_nodup_map (nodup_numbers events) livingToo living same
    exact own (elsewhere.symm.trans (equal ▸ named))

end SlotEvent

-----------------------------------------------------------------------------------------
-- Workbenches
-----------------------------------------------------------------------------------------

/-- Pointing a slot elsewhere when all slots have been pointed somewhere before. -/
theorem TrampolineTable.setTarget_of_map {table : TrampolineTable} {slots : List Slot}
    {held next : Slot → Option Address}
    (now : table.slots = slots.map fun slot => { slot with target := held slot })
    (name : String) (target : Option Address)
    (agree : ∀ slot ∈ slots, next slot = if slot.name = name then target else held slot)
    : (table.setTarget name target).slots
      = slots.map fun slot => { slot with target := next slot } := by
  rw [setTarget, now, List.map_map]
  refine List.map_congr_left fun slot member => ?_
  by_cases own : slot.name = name <;> simp [agree slot member, own]

namespace Workbench

open SlotEvent

/-- Does what an event says, where `first` activations had been made before the events began. -/
def follow? (first : Nat) (bench : Workbench) : SlotEvent → Option Workbench
  | .activate name address => (bench.activate name address).toOption.map (·.2)
  | .release number => bench.release? (first + number)
  | .unwind name address => (bench.unwind name address).toOption

/-- Does what events say, one after the other. -/
def followAll? (bench : Workbench) (events : List SlotEvent) : Option Workbench :=
  events.foldlM (follow? bench.guards.length) bench

/-- How a workbench has changed by some events. Every activation that is alive remembers where
its slot pointed above those that are below it.
-/
structure CoveredBy (bench : Workbench) (events : List SlotEvent) (now : Workbench) : Prop where
  rest : now = { bench with table := now.table, guards := now.guards }
  slots
    : now.table.slots
      = bench.table.slots.map fun slot =>
          { slot with target := covered slot (aliveOn events slot.name) }
  numbered : now.guards.length = bench.guards.length + (occupants events).length
  remembered
    : ∀ slot ∈ bench.table.slots,
        ∀ below occupant,
          below ++ [occupant] <+: aliveOn events slot.name
          → now.guards[bench.guards.length + occupant.number]?
            = some (some { name := slot.name, previous := covered slot below })

theorem CoveredBy.start (bench : Workbench) : bench.CoveredBy [] bench where
  rest := rfl
  slots := by simp [aliveOn, alive, occupants, covered]
  numbered := rfl
  remembered := by simp [aliveOn, alive, occupants]

/-- A slot is found as it was, but for where it points. -/
theorem CoveredBy.find?_eq {bench now : Workbench} {events : List SlotEvent}
    (current : bench.CoveredBy events now) (name : String)
    : now.table.find? name
      = (bench.table.find? name).map fun slot =>
          { slot with target := covered slot (aliveOn events slot.name) } := by
  unfold TrampolineTable.find?
  rw [current.slots, List.find?_map]
  rfl

theorem CoveredBy.distinct {bench now : Workbench} {events : List SlotEvent}
    (current : bench.CoveredBy events now) (distinct : bench.table.Distinct)
    : now.table.Distinct := by
  unfold TrampolineTable.Distinct
  rw [current.slots, List.map_map]
  exact distinct

/-- An activation covers its slot and remembers what was there. -/
theorem CoveredBy.activate {bench now : Workbench} {events : List SlotEvent}
    (current : bench.CoveredBy events now) (distinct : bench.table.Distinct)
    (nested : SlotEvent.Nested bench.table events) {name : String}
    (known : (bench.table.find? name).isSome) (address : Address)
    : ∃ next,
        now.follow? bench.guards.length (.activate name address) = some next
        ∧ bench.CoveredBy (events ++ [.activate name address]) next := by
  obtain ⟨slot, found⟩ := Option.isSome_iff_exists.mp known
  obtain rfl := TrampolineTable.find?_name found
  let held : Slot := { slot with target := covered slot (aliveOn events slot.name) }
  have there : now.table.find slot.name = .ok held := by
    rw [TrampolineTable.find_eq_ok_iff, current.find?_eq, found]
    rfl
  have on := nested.aliveOn_activate slot.name address
  refine ⟨
    {
      now with
      table := (now.table.activate held address).1
      guards := now.guards ++ [some (now.table.activate held address).2]
    }, ?_, ?_⟩
  · simp only [follow?, Workbench.activate, there]
    rfl
  refine {
    rest := by rw [current.rest]
    slots := ?_
    numbered := by simp [current.numbered, occupants_activate, Nat.add_assoc]
    remembered := ?_
  }
  · refine TrampolineTable.setTarget_of_map current.slots _ _ fun other _ => ?_
    by_cases own : other.name = slot.name
    · simp [on, own, held, covered]
    · simp [on, own, held, Ne.symm own]
  · intro other member below occupant upTo
    have kept {place : Nat} {guard : Option Activation} (old : now.guards[place]? = some guard)
        : (now.guards ++ [some (now.table.activate held address).2])[place]? = some guard :=
      (List.getElem?_append_left (List.getElem?_eq_some_iff.mp old).1).trans old
    rw [on] at upTo
    by_cases own : slot.name = other.name
    · rw [if_pos own, List.prefix_concat_iff] at upTo
      rcases upTo with new | old
      · obtain ⟨rfl, last⟩ := List.append_inj' new rfl
        obtain rfl := List.cons.inj last |>.1
        obtain rfl := distinct.eq_of_name (TrampolineTable.mem_of_find? found) member own
        rw [← current.numbered, List.getElem?_concat_length]
        rfl
      · exact kept (current.remembered other member below occupant old)
    · rw [if_neg own, List.append_nil] at upTo
      exact kept (current.remembered other member below occupant upTo)

/-- Releasing the latest activation on a slot uncovers what was below it. -/
theorem CoveredBy.release {bench now : Workbench} {events : List SlotEvent}
    (current : bench.CoveredBy events now) (distinct : bench.table.Distinct)
    (nested : SlotEvent.Nested bench.table events) {name : String} {occupant : Occupant}
    (latest : (aliveOn events name).getLast? = some occupant)
    : ∃ next,
        now.follow? bench.guards.length (.release occupant.number) = some next
        ∧ bench.CoveredBy (events ++ [.release occupant.number]) next := by
  obtain ⟨living, rfl⟩ := mem_aliveOn.mp (List.mem_of_getLast? latest)
  obtain ⟨below, stack⟩ := List.getLast?_eq_some_iff.mp latest
  obtain ⟨slot, found⟩ :=
    Option.isSome_iff_exists.mp (nested.known occupant (List.mem_filter.mp living).1)
  have named := TrampolineTable.find?_name found
  have remembered := current.remembered slot (TrampolineTable.mem_of_find? found) below occupant
    (by simp only [named, stack, List.prefix_refl])
  have on := aliveOn_release_latest stack
  refine ⟨
    {
      now with
      table := now.table.setTarget slot.name (covered slot below)
      guards := now.guards.set (bench.guards.length + occupant.number) none
    }, ?_, ?_⟩
  · simp only [follow?, Workbench.release?, remembered]
    rfl
  refine {
    rest := by rw [current.rest]
    slots := ?_
    numbered := by rw [List.length_set, current.numbered, occupants_release]
    remembered := ?_
  }
  · refine TrampolineTable.setTarget_of_map current.slots _ _ fun other member => ?_
    rw [on, named]
    by_cases own : other.name = occupant.name
    · obtain rfl := distinct.eq_of_name member (TrampolineTable.mem_of_find? found)
        (own.trans named.symm)
      rw [if_pos own, if_pos own]
    · rw [if_neg own, if_neg own]
  · intro other member front another upTo
    have old : front ++ [another] <+: aliveOn events other.name := by
      rw [on] at upTo
      split at upTo
      · rename_i own
        rw [own, stack]
        exact upTo.trans (List.prefix_append _ _)
      · exact upTo
    have apart : another.number ≠ occupant.number := by
      have listed := upTo.subset List.mem_concat_self
      rw [aliveOn_release] at listed
      simpa using (List.mem_filter.mp listed).2
    rw [List.getElem?_set_ne (by omega)]
    exact current.remembered other member front another old

/-- A panic leaves everything as it was. -/
theorem CoveredBy.unwind {bench now : Workbench} {events : List SlotEvent}
    (current : bench.CoveredBy events now) (distinct : bench.table.Distinct) {name : String}
    (known : (bench.table.find? name).isSome) (address : Address)
    : ∃ next,
        now.follow? bench.guards.length (.unwind name address) = some next
        ∧ bench.CoveredBy (events ++ [.unwind name address]) next := by
  obtain ⟨slot, found⟩ := Option.isSome_iff_exists.mp known
  have there := current.find?_eq name
  rw [found, Option.map_some] at there
  have back := TrampolineTable.release_activate (current.distinct distinct)
    (TrampolineTable.mem_of_find? there) address
  refine ⟨now, ?_, ?_⟩
  · simp only [follow?, Workbench.unwind, TrampolineTable.find_eq_ok_iff.mpr there]
    exact congrArg (fun table => some { now with table }) back
  · exact {
      rest := current.rest
      slots := by simpa only [aliveOn_unwind] using current.slots
      numbered := by rw [occupants_unwind, current.numbered]
      remembered := by simpa only [aliveOn_unwind] using current.remembered
    }

/-- Every event that is allowed can be followed. -/
theorem CoveredBy.follow {bench now : Workbench} {events : List SlotEvent} {event : SlotEvent}
    (current : bench.CoveredBy events now) (distinct : bench.table.Distinct)
    (nested : SlotEvent.Nested bench.table events) (allowed : Allowed bench.table events event)
    : ∃ next,
        now.follow? bench.guards.length event = some next
        ∧ bench.CoveredBy (events ++ [event]) next := by
  cases allowed with
  | activate known address => exact current.activate distinct nested known address
  | release name occupant latest => exact current.release distinct nested latest
  | unwind known address => exact current.unwind distinct known address

/-- Nested events can be followed, and cover slots as they say. -/
theorem followAll?_covers (bench : Workbench) (distinct : bench.table.Distinct)
    {events : List SlotEvent} (nested : SlotEvent.Nested bench.table events)
    : ∃ now, bench.followAll? events = some now ∧ bench.CoveredBy events now := by
  induction nested with
  | start => exact ⟨bench, rfl, .start bench⟩
  | @next events event earlier allowed ih =>
      obtain ⟨now, followed, current⟩ := ih
      obtain ⟨next, step, covers⟩ := current.follow distinct earlier allowed
      refine ⟨next, ?_, covers⟩
      have together : bench.followAll? (events ++ [event])
          = (bench.followAll? events).bind (follow? bench.guards.length · event) := by
        simp [followAll?, List.foldlM_append]
      rw [together, followed]
      exact step

/-- Activations nest like a stack. The slots of a table have different names
(`ofFunctions_distinct`) and may hold anything. Then events that release the activations on each
slot in the reverse order can all be followed. At every moment a slot points at the mutant of the
latest activation that is alive on it, and where it pointed at the start while there is none;
nothing else changes. Once all activations have been released the table is the one of the start,
and slots that are not activated do not change at any moment. By induction on the events: an
activation remembers where its slot pointed, which is what its release uncovers.
-/
theorem followAll_nested (bench : Workbench) (distinct : bench.table.Distinct)
    {events : List SlotEvent} (nested : SlotEvent.Nested bench.table events)
    : ∀ moment,
        moment <+: events
        → ∃ now,
            bench.followAll? moment = some now
            ∧ now = { bench with table := now.table, guards := now.guards }
            ∧ now.table.slots
              = bench.table.slots.map (fun slot =>
                  { slot with target := covered slot (aliveOn moment slot.name) })
            ∧ (alive moment = [] → now.table = bench.table)
            ∧ ∀ (place : Nat) (slot : Slot),
                bench.table.slots[place]? = some slot
                → (∀ address, .activate slot.name address ∉ events)
                → now.table.slots[place]? = some slot := by
  intro moment before
  obtain ⟨now, followed, current⟩ := bench.followAll?_covers distinct (nested.upTo before)
  have uncovered {slot : Slot} (none : aliveOn moment slot.name = [])
      : { slot with target := covered slot (aliveOn moment slot.name) } = slot := by
    rw [none]
    rfl
  refine ⟨now, followed, current.rest, current.slots, fun released => ?_, ?_⟩
  · refine congrArg TrampolineTable.mk (current.slots.trans ?_)
    refine (List.map_congr_left fun slot _ => uncovered ?_).trans (List.map_id' _)
    rw [aliveOn, released, List.filter_nil]
  · intro place slot lies idle
    rw [current.slots, List.getElem?_map, lies, Option.map_some, uncovered]
    refine List.eq_nil_iff_forall_not_mem.mpr fun occupant member => ?_
    obtain ⟨living, own⟩ := mem_aliveOn.mp member
    have made := mem_of_mem_occupants (List.mem_filter.mp living).1
    exact idle occupant.address (own ▸ before.subset made)

/-- Two slots are activated in turn, one of them twice and once more by code that panics. Both the
slot that points somewhere and the empty one get back what they held.
-/
theorem sample_followAll_nested
    : let bench : Workbench :=
        {
          objects := []
          runner := {}
          table :=
            {
              slots :=
                [
                  { name := "f", function := "f", target := Address.ofIndex 9 },
                  { name := "g", function := "g" },
                  { name := "h", function := "h", target := Address.ofIndex 2 }
                ]
            }
        }
      let events : List SlotEvent :=
        [
          .activate "f" (.ofIndex 5), .activate "g" (.ofIndex 6), .activate "f" (.ofIndex 7),
          .release 1, .unwind "f" (.ofIndex 8), .release 2, .release 0
        ]
      let targets (now : Workbench) := now.table.slots.map (·.target)
      bench.table.Distinct
      ∧ SlotEvent.Nested bench.table events
      ∧ (∃ now,
          bench.followAll? (events.take 3) = some now
          ∧ targets now = [some (.ofIndex 7), some (.ofIndex 6), some (.ofIndex 2)])
      ∧ (∃ now,
          bench.followAll? (events.take 6) = some now
          ∧ targets now = [some (.ofIndex 5), none, some (.ofIndex 2)])
      ∧ ∃ now, bench.followAll? events = some now ∧ now.table = bench.table := by
  intro bench events targets
  have distinct : bench.table.Distinct := by
    unfold TrampolineTable.Distinct
    decide
  have nested : SlotEvent.Nested bench.table events := by
    refine .next (.next (.next (.next (.next (.next (.next .start ?_) ?_) ?_) ?_) ?_) ?_) ?_
    · exact .activate rfl _
    · exact .activate rfl _
    · exact .activate rfl _
    · exact .release "g" ⟨1, "g", .ofIndex 6⟩ (by decide)
    · exact .unwind rfl _
    · exact .release "f" ⟨2, "f", .ofIndex 7⟩ (by decide)
    · exact .release "f" ⟨0, "f", .ofIndex 5⟩ (by decide)
  have moments := bench.followAll_nested distinct nested
  obtain ⟨early, first, -, held, -⟩ := moments (events.take 3) (List.take_prefix 3 events)
  obtain ⟨late, second, -, heldThen, -⟩ := moments (events.take 6) (List.take_prefix 6 events)
  obtain ⟨last, third, -, -, restored, -⟩ := moments events (List.prefix_refl events)
  refine ⟨distinct, nested, ⟨early, first, ?_⟩, ⟨late, second, ?_⟩, last, third,
    restored (by decide)⟩
  · simp only [targets, held]
    decide
  · simp only [targets, heldThen]
    decide

end Workbench

end MutationTesting
