import Lexeme.Log.Event
import Lexeme.Proofs.FirstKeys

/-!
# The context of an event

The entries of context that are given for an event are added one after the other
(`Log.gather`). The keys that stay are the first distinct ones, as many as there is room for
(`Log.keys_gather`), and each has the value that was given for it last, whether the context was full
by then or not (`Log.get?_gather`). One more entry of context is added to what the others left
(`Log.Event.ofEntry_withContext`). Calls that add to the context of an event, with a key of their
own or with the path of a file, leave such a context and change nothing else
(`Log.Event.addAll_make`).
-/

set_option autoImplicit false
set_option relaxedAutoImplicit false

namespace Lexeme.Log

open Text (Dictionary)
open Text.Dictionary (Takes firstKeys)

/-! ### Adding entries of context -/

section Gathering

variable {limit : Nat} (context : List (String × String)) (key : String)

theorem addContext_of_takes {kept : Dictionary String} (htakes : Takes limit kept key)
    (value : String) : addContext limit kept key value = kept.insert key value := by
  rw [addContext, if_pos]
  rw [Bool.or_eq_true_iff, decide_eq_true_iff, Dictionary.contains_iff]
  exact htakes.symm

theorem addContext_of_not_takes {kept : Dictionary String} (hrefused : ¬ Takes limit kept key)
    (value : String) : addContext limit kept key value = kept := by
  rw [addContext, if_neg]
  rw [Bool.or_eq_true_iff, decide_eq_true_iff, Dictionary.contains_iff]
  exact fun htakes ↦ hrefused htakes.symm

/-- The context that is left of entries of context, added one after the other. -/
def gather (limit : Nat) (context : List (String × String)) : Dictionary String :=
  context.foldl (fun kept fact ↦ addContext limit kept fact.1 fact.2) .empty

theorem gather_concat (value : String) :
    gather limit (context ++ [(key, value)]) = addContext limit (gather limit context) key value := by
  rw [gather, List.foldl_append]
  rfl

/-- The keys that stay are the first distinct ones. -/
theorem keys_gather : (gather limit context).keys.Perm (firstKeys limit (context.map (·.1))) := by
  induction context using List.reverseRecOn with
  | nil => rw [List.map_nil, Dictionary.firstKeys_nil]; rfl
  | append_singleton context fact ih =>
    rw [gather_concat, List.map_append]
    by_cases htakes : Takes limit (gather limit context) fact.1
    · rw [addContext_of_takes fact.1 htakes]
      exact Dictionary.keys_insert_perm ih htakes fact.2
    · rw [addContext_of_not_takes fact.1 htakes]
      exact (Dictionary.firstKeys_concat_of_full ih htakes).symm ▸ ih

/-- A key that stays has the value that was given for it last. -/
theorem get?_gather_eq : (gather limit context).get? key =
    if key ∈ (gather limit context).keys then context.reverse.lookup key else none := by
  induction context using List.reverseRecOn with
  | nil => rfl
  | append_singleton context fact ih =>
    rw [gather_concat, List.reverse_concat, Dictionary.lookup_cons]
    by_cases htakes : Takes limit (gather limit context) fact.1
    · rw [addContext_of_takes fact.1 htakes, Dictionary.get?_insert, ih]
      by_cases hkey : key = fact.1 <;> simp [Dictionary.mem_keys_insert, hkey]
    · -- A refused key is none of those kept, so no earlier value of it is shown either.
      have hfresh : fact.1 ∉ (gather limit context).keys := fun hmem ↦ htakes (Or.inl hmem)
      rw [addContext_of_not_takes fact.1 htakes, ih]
      by_cases hkey : key = fact.1
      · rw [hkey, if_neg hfresh, if_neg hfresh]
      · rw [if_neg hkey]

theorem get?_gather : (gather limit context).get? key =
    if key ∈ firstKeys limit (context.map (·.1)) then context.reverse.lookup key else none := by
  simp only [get?_gather_eq, (keys_gather context).mem_iff]

/-- Where there is room for all entries, each key has the value that was given for it last. -/
theorem get?_gather_of_length_le (hroom : context.length ≤ limit) :
    (gather limit context).get? key = context.reverse.lookup key := by
  have hkeys : (context.map (·.1)).length ≤ limit := by rwa [List.length_map]
  simp only [get?_gather, Dictionary.mem_firstKeys_of_subset (List.Subset.refl _) hkeys,
    ite_eq_left_iff]
  intro hnone
  refine (List.lookup_eq_none_iff.mpr fun fact hfact ↦ ?_).symm
  exact bne_iff_ne.mpr fun heq ↦
    hnone (List.mem_map.mpr ⟨fact, List.mem_reverse.mp hfact, heq.symm⟩)

/-- A key is taken in if it is one of the first ones or there are fewer keys than there is room
for. -/
theorem takes_gather_iff : Takes limit (gather limit context) key ↔
    (context.map (·.1)).eraseDups.length < limit ∨
      key ∈ (context.map (·.1)).eraseDups.take limit := by
  have hkeys : (gather limit context).keys.Perm _ := keys_gather context
  have hsize := Dictionary.size_eq_min hkeys
  have hroom : (gather limit context).size < limit ↔
      (context.map (·.1)).eraseDups.length < limit := by omega
  rw [Takes, hkeys.mem_iff, hroom, or_comm, firstKeys]

end Gathering

namespace Event

theorem addContexts_eq (event : Event) (context : List (String × String)) :
    event.addContexts context = { event with
      context := context.foldl
        (fun kept fact ↦ Log.addContext Limits.current.maxContextEntries kept fact.1 fact.2)
        event.context } := by
  induction context generalizing event with
  | nil => rfl
  | cons fact context ih => exact ih (event.addContext fact.1 fact.2)

theorem context_ofEntry (time : Time.Instant) (entry : Entry) :
    (ofEntry time entry).context = gather Limits.current.maxContextEntries entry.context := by
  rw [ofEntry, addContexts_eq]
  rfl

/-- One more entry of context is added after all others. -/
theorem ofEntry_withContext (time : Time.Instant) (entry : Entry) (key value : String) :
    ofEntry time (entry.withContext [(key, value)]) =
      (ofEntry time entry).addContext key value := by
  rw [ofEntry, Entry.withContext, addContexts, List.foldl_append]
  rfl

end Event

/-! ### Calls that add to the context -/

/-- The last call that names a key gives it a value. -/
def Addition.LastGives (additions : List Addition) (key value : String) : Prop :=
  ∃ earlier addition later, additions = earlier ++ addition :: later ∧
    addition.fact = (key, value) ∧ ∀ other ∈ later, other.fact.1 ≠ key

theorem Addition.lookup_reverse_eq_some_iff (additions : List Addition) (key value : String) :
    (additions.map fact).reverse.lookup key = some value ↔ LastGives additions key value := by
  rw [← List.map_reverse, List.lookup_eq_some_iff]
  constructor
  · rintro ⟨front, back, hsplit, hfront⟩
    obtain ⟨later, rest, hadditions, rfl, hrest⟩ := List.map_eq_append_iff.mp hsplit
    obtain ⟨addition, earlier, rfl, hfact, -⟩ := List.map_eq_cons_iff.mp hrest
    refine ⟨earlier.reverse, addition, later.reverse, ?_, hfact, fun other hother ↦ ?_⟩
    · simpa using congrArg List.reverse hadditions
    · have hne := hfront _ (List.mem_map_of_mem (List.mem_reverse.mp hother))
      exact (bne_iff_ne.mp hne).symm
  · rintro ⟨earlier, addition, later, rfl, hfact, hlater⟩
    refine ⟨(later.map fact).reverse, (earlier.map fact).reverse, by simp [hfact], ?_⟩
    intro other hother
    obtain ⟨call, hcall, rfl⟩ := List.mem_map.mp (List.mem_reverse.mp hother)
    exact bne_iff_ne.mpr (hlater call hcall).symm

namespace Event

theorem add_eq (event : Event) (addition : Addition) :
    event.add addition = event.addContext addition.fact.1 addition.fact.2 := by
  cases addition <;> rfl

theorem addAll_eq (event : Event) (additions : List Addition) :
    event.addAll additions = event.addContexts (additions.map Addition.fact) := by
  rw [addAll, addContexts, List.foldl_map, funext₂ add_eq]

/-- Calls that add to the context of a new event leave the first distinct keys, as many as there is
room for, each with the value that the last call for it gives. Nothing else of the event changes. -/
theorem addAll_make (time : Time.Instant) (level : Level) (code : Code) (message : String)
    (span : Option Span) (additions : List Addition) :
    let event := addAll { make time level code message with span } additions
    let first := firstKeys Limits.current.maxContextEntries (additions.map (·.fact.1))
    event.context.keys.Perm first ∧
      (∀ key value, event.context.get? key = some value ↔
        key ∈ first ∧ Addition.LastGives additions key value) ∧
      event.time = time ∧ event.level = level ∧ event.code = code ∧
      event.message = shorten message ∧ event.span = span := by
  intro event first
  have hevent : event = { make time level code message with
      span
      context := gather Limits.current.maxContextEntries (additions.map Addition.fact) } :=
    (addAll_eq _ additions).trans (addContexts_eq _ _)
  have hkeys : (additions.map Addition.fact).map (·.1) = additions.map (·.fact.1) := List.map_map
  have hperm : (gather Limits.current.maxContextEntries (additions.map Addition.fact)).keys.Perm
      (firstKeys _ ((additions.map Addition.fact).map (·.1))) := keys_gather _
  rw [hkeys] at hperm
  rw [hevent]
  refine ⟨hperm, fun key value ↦ ?_, rfl, rfl, rfl, rfl, rfl⟩
  rw [get?_gather, hkeys, Option.ite_none_right_eq_some, Addition.lookup_reverse_eq_some_iff]

end Event

end Lexeme.Log
