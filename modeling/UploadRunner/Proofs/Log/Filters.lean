import Mathlib.Data.List.Basic
import Mathlib.Data.List.Induction
import UploadRunner.Log.Filter

/-! The rule by which directives enable records.

Of the directives with one name the last one holds. Of those that hold and speak of an
origin, the one with the longest name decides about its records. -/

namespace UploadRunner.Log

/-! ## The rule -/

/-- Whether a directive is the last one with its name. -/
def Holds (directives : List Directive) (directive : Directive) : Prop :=
  ∃ before after, directives = before ++ directive :: after ∧
    ∀ later ∈ after, later.name ≠ directive.name

structure Decides (directives : List Directive) (origin : Origin) (directive : Directive) :
    Prop where
  holds : Holds directives directive
  covers : directive.covers origin
  longest : ∀ other, Holds directives other → other.covers origin →
    other.weight ≤ directive.weight

/-- Whether directives, in addition to the standard ones, let a record pass. -/
def Enables (request : List Directive) (record : Record) : Prop :=
  ∃ directive level, Decides (Filter.standard ++ request) record.origin directive ∧
    directive.limit = some level ∧ record.level.rank ≤ level.rank

/-! ## Directives that hold

A filter keeps one directive for each name: an added one takes the place of the one before
it. -/

theorem holds_concat_iff (directives : List Directive) (added directive : Directive) :
    Holds (directives ++ [added]) directive ↔
      directive = added ∨ Holds directives directive ∧ directive.name ≠ added.name := by
  constructor
  · rintro ⟨before, after, split, later⟩
    rcases List.eq_nil_or_concat after with rfl | ⟨after, last, rfl⟩
    · exact .inl (List.singleton_inj.mp (List.append_inj' split rfl).2).symm
    · rw [List.concat_eq_append] at split later
      rw [← List.cons_append, ← List.append_assoc] at split
      rcases List.append_inj' split rfl with ⟨rfl, isLast⟩
      rw [List.singleton_inj.mp isLast]
      refine .inr ⟨⟨before, after, rfl, ?_⟩, (later last (by simp)).symm⟩
      exact fun other member => later other (List.mem_append_left _ member)
  · rintro (rfl | ⟨⟨before, after, rfl, later⟩, different⟩)
    · exact ⟨directives, [], rfl, by simp⟩
    · refine ⟨before, after ++ [added], by simp, ?_⟩
      intro other member
      rcases List.mem_append.mp member with earlier | isLast
      · exact later other earlier
      · rw [List.mem_singleton.mp isLast]
        exact different.symm

theorem not_holds_nil (directive : Directive) : ¬ Holds [] directive := by
  rintro ⟨before, after, split, _⟩
  exact List.append_ne_nil_of_right_ne_nil before (List.cons_ne_nil _ _) split.symm

theorem Holds.eq_of_name {directives : List Directive} {first second : Directive}
    (firstHolds : Holds directives first) (secondHolds : Holds directives second)
    (same : first.name = second.name) : first = second := by
  induction directives using List.reverseRecOn with
  | nil => exact absurd firstHolds (not_holds_nil first)
  | append_singleton directives added induction =>
      rw [holds_concat_iff] at firstHolds secondHolds
      rcases firstHolds with rfl | ⟨firstHolds, firstOther⟩ <;>
        rcases secondHolds with rfl | ⟨secondHolds, secondOther⟩
      · rfl
      · exact absurd same.symm secondOther
      · exact absurd same firstOther
      · exact induction firstHolds secondHolds

theorem mem_add_iff (filter : Filter) (added directive : Directive) :
    directive ∈ filter.add added ↔
      directive = added ∨ directive ∈ filter ∧ directive.name ≠ added.name := by
  rw [Filter.add]
  split
  · rename_i known
    rw [List.any_eq_true] at known
    rw [List.mem_map]
    constructor
    · rintro ⟨old, isOld, rfl⟩
      split
      · exact .inl rfl
      · rename_i different
        exact .inr ⟨isOld, different⟩
    · rintro (rfl | ⟨isOld, different⟩)
      · rcases known with ⟨old, isOld, same⟩
        exact ⟨old, isOld, if_pos (of_decide_eq_true same)⟩
      · exact ⟨directive, isOld, if_neg different⟩
  · rename_i unknown
    simp only [List.any_eq_true, decide_eq_true_eq, not_exists, not_and] at unknown
    rw [List.mem_append, List.mem_singleton, or_comm]
    exact or_congr_right ⟨fun isOld => ⟨isOld, unknown directive isOld⟩, And.left⟩

theorem mem_foldl_add_iff (request : List Directive) (directive : Directive) :
    directive ∈ request.foldl Filter.add Filter.standard ↔
      Holds (Filter.standard ++ request) directive := by
  induction request using List.reverseRecOn generalizing directive with
  | nil =>
      have single := holds_concat_iff [] ⟨none, some .info⟩ directive
      simp only [not_holds_nil, false_and, or_false, List.nil_append] at single
      rw [List.foldl_nil, List.append_nil, Filter.standard, single, List.mem_singleton]
  | append_singleton request added induction =>
      rw [List.foldl_concat, mem_add_iff, induction, ← List.append_assoc, holds_concat_iff]

/-! ## Directives that decide -/

def heavier (best : Option Directive) (directive : Directive) : Option Directive :=
  match best with
  | none => some directive
  | some known => if known.weight ≤ directive.weight then some directive else some known

theorem foldl_heavier (directives : List Directive) :
    ∀ first, ∃ best, directives.foldl heavier (some first) = some best ∧
      best ∈ first :: directives ∧ ∀ other ∈ first :: directives, other.weight ≤ best.weight := by
  induction directives with
  | nil =>
      intro first
      exact ⟨first, rfl, List.mem_cons_self, by simp⟩
  | cons second directives induction =>
      intro first
      rw [List.foldl_cons, heavier]
      split
      · rename_i heavy
        rcases induction second with ⟨best, found, member, bound⟩
        refine ⟨best, found, List.mem_cons_of_mem first member, ?_⟩
        rw [List.forall_mem_cons]
        exact ⟨Nat.le_trans heavy (bound second List.mem_cons_self), bound⟩
      · rename_i light
        rcases induction first with ⟨best, found, member, bound⟩
        rw [List.forall_mem_cons] at bound
        refine ⟨best, found, ?_, ?_⟩
        · rcases List.mem_cons.mp member with rfl | later
          · exact List.mem_cons_self
          · exact List.mem_cons_of_mem first (List.mem_cons_of_mem second later)
        · rw [List.forall_mem_cons, List.forall_mem_cons]
          exact ⟨bound.1, Nat.le_trans (Nat.le_of_not_le light) bound.1, bound.2⟩

theorem decisive?_eq_foldl (filter : Filter) (origin : Origin) :
    filter.decisive? origin = (filter.filter (·.covers origin)).foldl heavier none := rfl

theorem decisive?_of_mem {filter : Filter} {origin : Origin} {directive : Directive}
    (member : directive ∈ filter) (covers : directive.covers origin) :
    ∃ best, filter.decisive? origin = some best ∧ best ∈ filter ∧ best.covers origin ∧
      ∀ other ∈ filter, other.covers origin → other.weight ≤ best.weight := by
  have covering : directive ∈ filter.filter (·.covers origin) :=
    List.mem_filter.mpr ⟨member, covers⟩
  rw [decisive?_eq_foldl]
  cases listed : filter.filter (·.covers origin) with
  | nil =>
      rw [listed] at covering
      cases covering
  | cons first directives =>
      rcases foldl_heavier directives first with ⟨best, found, isBest, bound⟩
      rw [← listed] at isBest bound
      refine ⟨best, found, (List.mem_filter.mp isBest).1, (List.mem_filter.mp isBest).2, ?_⟩
      intro other isOther otherCovers
      exact bound other (List.mem_filter.mpr ⟨isOther, otherCovers⟩)

theorem decisive?_inv {filter : Filter} {origin : Origin} {best : Directive}
    (found : filter.decisive? origin = some best) :
    ∃ directive ∈ filter, directive.covers origin := by
  rw [decisive?_eq_foldl] at found
  cases listed : filter.filter (·.covers origin) with
  | nil =>
      rw [listed] at found
      cases found
  | cons first directives =>
      have member : first ∈ filter.filter (·.covers origin) := by simp [listed]
      exact ⟨first, List.mem_filter.mp member⟩

/-- Of the names with which an origin begins, only one has a given length. -/
theorem name_eq_of_covers {origin : Origin} {first second : Directive}
    (firstCovers : first.covers origin) (secondCovers : second.covers origin)
    (same : first.weight = second.weight) : first.name = second.name := by
  rcases first with ⟨firstName, firstLimit⟩
  rcases second with ⟨secondName, secondLimit⟩
  cases firstName with
  | none => cases secondName <;> simp [Directive.weight] at same ⊢
  | some firstName =>
      cases secondName with
      | none => simp [Directive.weight] at same
      | some secondName =>
          simp only [Directive.covers, List.isPrefixOf_iff_prefix] at firstCovers secondCovers
          rw [Directive.weight, Directive.weight, Nat.add_right_cancel_iff,
            ← String.length_toList, ← String.length_toList] at same
          have begins := List.prefix_of_prefix_length_le firstCovers secondCovers
            (Nat.le_of_eq same)
          rw [String.toList_injective (begins.eq_of_length same)]

theorem decides_of_decisive? {request : List Directive} {origin : Origin} {best : Directive}
    (found : (request.foldl Filter.add Filter.standard).decisive? origin = some best) :
    Decides (Filter.standard ++ request) origin best := by
  rcases decisive?_inv found with ⟨directive, member, covers⟩
  rcases decisive?_of_mem member covers with ⟨other, otherFound, isBest, bestCovers, longest⟩
  rw [found, Option.some.injEq] at otherFound
  subst otherFound
  simp only [mem_foldl_add_iff] at isBest longest
  exact ⟨isBest, bestCovers, longest⟩

theorem decisive?_of_decides {request : List Directive} {origin : Origin} {directive : Directive}
    (decides : Decides (Filter.standard ++ request) origin directive) :
    (request.foldl Filter.add Filter.standard).decisive? origin = some directive := by
  have member := (mem_foldl_add_iff request directive).mpr decides.holds
  rcases decisive?_of_mem member decides.covers with ⟨best, found, isBest, covers, longest⟩
  have bestHolds := (mem_foldl_add_iff request best).mp isBest
  -- Two directives that speak of one origin and weigh the same have the same name.
  have same : best.weight = directive.weight :=
    Nat.le_antisymm (decides.longest best bestHolds covers)
      (longest directive member decides.covers)
  rw [found, bestHolds.eq_of_name decides.holds (name_eq_of_covers covers decides.covers same)]

theorem admits_iff (request : List Directive) (record : Record) :
    (request.foldl Filter.add Filter.standard).admits record ↔ Enables request record := by
  rw [Filter.admits]
  constructor
  · intro admitted
    split at admitted
    · cases admitted
    · rename_i level found
      rcases Option.bind_eq_some_iff.mp found with ⟨best, decisive, limited⟩
      exact ⟨best, level, decides_of_decisive? decisive, limited, of_decide_eq_true admitted⟩
  · rintro ⟨directive, level, decides, limited, bound⟩
    rw [decisive?_of_decides decides, Option.bind_some, limited]
    exact decide_eq_true bound

instance (request : List Directive) (record : Record) : Decidable (Enables request record) :=
  decidable_of_iff _ (admits_iff request record)

end UploadRunner.Log
