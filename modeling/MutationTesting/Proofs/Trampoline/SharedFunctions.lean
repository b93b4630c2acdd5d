import MutationTesting.Proofs.Naming.SharedSymbols
import MutationTesting.Proofs.Trampoline.Registration

/-! Functions with several slots. Slots are told apart by their own names, and a plain name and the
verbatim name of its symbol stand for one function but have a slot each. A mutant that occupies one
of them is not reached through the other one.
-/

namespace MutationTesting

namespace TrampolineTable

/-- No function has more than one slot. -/
def OneSlotEach (table : TrampolineTable) : Prop := (table.slots.map (·.function)).Nodup

/-- Wherever the functions lie, activating a mutant of one of them takes over all its slots. -/
def RedirectsAll (table : TrampolineTable) : Prop :=
  ∀ address? fixed,
    table.fixup address? = (fixed, none)
    → ∀ slot ∈ fixed.slots,
        ∀ address,
        ∀ other ∈ (fixed.activate slot address).1.slots,
          other.function = slot.function → other.target = some address

-----------------------------------------------------------------------------------------
-- Redirecting
-----------------------------------------------------------------------------------------

/-- Where an activation leaves a slot: only slots of the given name lead elsewhere. -/
theorem mem_activate {table : TrampolineTable} {slot other : Slot} {address : Address}
    : other ∈ (table.activate slot address).1.slots
      ↔ ∃ before ∈ table.slots,
          (if before.name = slot.name then { before with target := some address } else before)
          = other := by
  simp only [activate, setTarget, List.mem_map]

theorem mem_of_fixup {table fixed : TrampolineTable} {address? : String → Option Address}
    (complete : table.fixup address? = (fixed, none)) {slot : Slot}
    : slot ∈ fixed.slots ↔ ∃ before ∈ table.slots, before.fixedUp address? = slot := by
  rw [(fixup_of_none complete).1, List.mem_map]

/-- A table is fixed up completely where every function has an address. -/
theorem fixup_complete (table : TrampolineTable) (address? : String → Option Address)
    (found : ∀ slot ∈ table.slots, (address? slot.function).isSome)
    : ∃ fixed, table.fixup address? = (fixed, none) := by
  refine ⟨(table.fixup address?).1, Prod.ext rfl ?_⟩
  change (fixupSlots address? table.slots).2 = none
  rw [fixupSlots_error, Option.map_eq_none_iff, List.find?_eq_none]
  simpa [Option.isSome_iff_ne_none] using found

/-- Mutants take over all slots of their functions exactly if there is only one of each. Two slots
of one function have different names, so that an activation of the first one leaves the second one
where it was.
-/
theorem Distinct.redirectsAll_iff {table : TrampolineTable} (distinct : table.Distinct)
    : table.RedirectsAll ↔ table.OneSlotEach := by
  have inj := List.nodup_map_iff_inj_on (f := (·.function)) (List.Nodup.of_map _ distinct)
  constructor
  · intro redirects
    refine inj.mpr fun first member second memberToo same => ?_
    by_contra different
    have names : second.name ≠ first.name := fun name =>
      different (distinct.eq_of_name member memberToo name.symm)
    obtain ⟨fixed, complete⟩ := table.fixup_complete (fun _ => some (.ofIndex 0)) fun _ _ => rfl
    have left := (mem_of_fixup complete).mpr ⟨first, member, rfl⟩
    have right := (mem_of_fixup complete).mpr ⟨second, memberToo, rfl⟩
    have taken : some (Address.ofIndex 0) = some (Address.ofIndex 1) :=
      redirects _ fixed complete _ left (.ofIndex 1) _
        (mem_activate.mpr ⟨_, right, if_neg names⟩) same.symm
    exact absurd taken (by decide)
  · intro once address? fixed complete slot member address other found same
    obtain ⟨before, there, rfl⟩ := mem_activate.mp found
    obtain ⟨own, listed, rfl⟩ := (mem_of_fixup complete).mp member
    obtain ⟨its, listedToo, rfl⟩ := (mem_of_fixup complete).mp there
    obtain rfl : its = own := by
      refine inj.mp once its listedToo own listed ?_
      split at same <;> exact same
    rw [if_pos rfl]

-----------------------------------------------------------------------------------------
-- Tables made for functions
-----------------------------------------------------------------------------------------

/-- A table has one slot for each function exactly if no name is listed together with the verbatim
name of its symbol.
-/
theorem ofFunctions_oneSlotEach_iff (mangler : Mangler) (functions : List String)
    : (ofFunctions mangler functions).OneSlotEach
      ↔ ∀ function ∈ functions,
          ¬ Mangler.isVerbatim function → mangler.verbatimName function ∉ functions := by
  have slots : (ofFunctions mangler functions).slots.map (·.function)
      = functions.eraseDups.map mangler.mangle := by
    rw [slots_ofFunctions, List.map_map]
    rfl
  rw [OneSlotEach, slots, List.nodup_map_iff_inj_on (nodup_eraseDups functions)]
  simp only [List.mem_eraseDups]
  constructor
  · intro distinct function listed plain listedToo
    have same : mangler.mangle function = mangler.mangle (mangler.verbatimName function) :=
      mangler.mangle_eq_iff.mpr (.inr (.inl ⟨plain, rfl⟩))
    rw [distinct function listed _ listedToo same] at plain
    exact plain (mangler.isVerbatim_verbatimName function)
  · intro apart first listed second listedToo same
    rcases mangler.mangle_eq_iff.mp same with rfl | ⟨plain, rfl⟩ | ⟨plain, rfl⟩
    · rfl
    · exact absurd listedToo (apart first listed plain)
    · exact absurd listed (apart second listedToo plain)

/-- When every function has one slot: no name is listed together with the verbatim name of its
symbol. Exactly then a mutant takes over all slots of its function. For an activation points the
slot of the given name at the mutant, and the slots of all other names still lead to their
functions, even if that is the same one.
-/
theorem ofFunctions_redirects (mangler : Mangler) (functions : List String)
    : let table := ofFunctions mangler functions
      (table.OneSlotEach
        ↔ ∀ function ∈ functions,
            ¬ Mangler.isVerbatim function → mangler.verbatimName function ∉ functions)
      ∧ (table.RedirectsAll ↔ table.OneSlotEach)
      ∧ ∀ address? fixed,
          table.fixup address? = (fixed, none)
          → ∀ function ∈ functions,
              ∃ slot,
                fixed.find (mangler.mangle (trampolineName function)) = .ok slot
                ∧ ∀ address,
                  ∀ other ∈ functions,
                    ((fixed.activate slot address).1.find?
                        (mangler.mangle (trampolineName other))).bind (·.target)
                      = if other = function then
                          some address
                        else
                          address? (mangler.mangle other) := by
  intro table
  refine ⟨ofFunctions_oneSlotEach_iff mangler functions,
    (ofFunctions_distinct mangler functions).redirectsAll_iff, ?_⟩
  intro address? fixed complete function listed
  have slots (name : String) (member : name ∈ functions)
      : fixed.find? (mangler.mangle (trampolineName name))
        = some ((Slot.ofFunction mangler name).fixedUp address?) := by
    rw [find?_of_fixup complete, find?_ofFunctions, if_pos member, Option.map_some]
  have own := slots function listed
  refine ⟨_, find_eq_ok_iff.mpr own, fun address other listedToo => ?_⟩
  by_cases same : other = function
  · rw [same, find?_activate_self own, if_pos rfl, Option.bind_some]
  · have different : mangler.mangle (trampolineName other)
        ≠ mangler.mangle (trampolineName function) :=
      fun names => same (mangler.mangle_trampolineName_inj names)
    rw [find?_activate_of_ne own different, slots other listedToo, if_neg same, Option.bind_some]
    rfl

/-- One function under both of its names. Calls through the second slot miss the mutant that is in
the first one.
-/
theorem sample_ofFunctions_redirects
    : let table := ofFunctions {} ["f", "\x01f"]
      let address? : String → Option Address := fun name =>
        if name = "f" then some (.ofIndex 0) else none
      ∃ fixed slot,
        table.fixup address? = (fixed, none)
        ∧ fixed.find "_f_trampoline" = .ok slot
        ∧ ((fixed.activate slot (.ofIndex 1)).1.find? "_f_trampoline").bind (·.target)
          = some (.ofIndex 1)
        ∧ ((fixed.activate slot (.ofIndex 1)).1.find? "_\x01f_trampoline").bind (·.target)
          = some (.ofIndex 0) := by
  intro table address?
  obtain ⟨fixed, complete⟩ := table.fixup_complete address? (by decide)
  obtain ⟨-, -, leads⟩ := ofFunctions_redirects {} ["f", "\x01f"]
  obtain ⟨slot, found, targets⟩ := leads address? fixed complete "f" (by decide)
  exact ⟨fixed, slot, complete, found, targets (.ofIndex 1) "f" (by decide),
    targets (.ofIndex 1) "\x01f" (by decide)⟩

/-- A function that is listed with its plain and with its verbatim name has two slots. -/
theorem not_ofFunctions_oneSlotEach
    : ¬ ∀ (mangler : Mangler) (functions : List String),
          (ofFunctions mangler functions).OneSlotEach := by
  intro claimed
  have once := claimed {} ["f", "\x01f"]
  unfold OneSlotEach at once
  revert once
  decide

end TrampolineTable

end MutationTesting
