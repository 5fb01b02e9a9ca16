import Mathlib.Data.Finset.Basic
import Mathlib.Data.List.Basic
import Converge.Proofs.Membership

/-!
# Reconciliation of sets

What `Delta.between` lists stands in the order in which its side first names it. Carried out one
by one, the changes lead from the observed set to the desired one in whatever order they are
made, since no name is both added and removed; and every way that leads there makes each of them,
so that none is shorter.
-/

namespace Converge.Delta

/-! ## Order of first appearance -/

/-- Without repetitions, names stand in the order of their first places. -/
theorem pairwise_idxOf_eraseDups (names : List String) :
    names.eraseDups.Pairwise fun first second => names.idxOf first < names.idxOf second := by
  induction names with
  | nil => exact .nil
  | cons name names ih =>
      rw [List.eraseDups_cons, eraseDups_filter, List.pairwise_cons]
      constructor
      · intro other member
        have different : name ≠ other := by
          rintro rfl
          simp at member
        rw [List.idxOf_cons_self, List.idxOf_cons_ne names different]
        exact Nat.succ_pos _
      · refine List.Pairwise.imp_of_mem ?_ (ih.filter _)
        intro first second firstMember secondMember before
        have firstOther : name ≠ first := by
          rintro rfl
          simp at firstMember
        have secondOther : name ≠ second := by
          rintro rfl
          simp at secondMember
        rw [List.idxOf_cons_ne names firstOther, List.idxOf_cons_ne names secondOther]
        exact Nat.succ_lt_succ before

theorem pairwise_idxOf_missing (wanted held : List String) :
    (missing wanted held).Pairwise fun first second =>
      wanted.idxOf first < wanted.idxOf second := by
  rw [missing, eraseDups_filter]
  exact (pairwise_idxOf_eraseDups wanted).filter _

/-! ## Single changes -/

/-- One change of a set of names. -/
inductive Single where
  | add (name : String)
  | remove (name : String)
deriving DecidableEq, Repr

namespace Single

variable {single : Single} {singles : List Single} {names : Finset String} {name : String}

def apply : Single → Finset String → Finset String
  | .add name, names => insert name names
  | .remove name, names => names.erase name

/-- Carry out changes one after the other. -/
def run (singles : List Single) (names : Finset String) : Finset String :=
  singles.foldl (fun names single => single.apply names) names

theorem run_cons : run (single :: singles) names = run singles (single.apply names) := rfl

theorem mem_apply_iff :
    name ∈ single.apply names ↔ single = .add name ∨ name ∈ names ∧ single ≠ .remove name := by
  cases single with
  | add other => simp [apply, eq_comm]
  | remove other => simp [apply, and_comm, eq_comm]

/-- Where no name is both added and removed, the order of the changes makes no difference. -/
theorem mem_run_iff (consistent : ∀ name, .add name ∈ singles → .remove name ∉ singles) :
    name ∈ run singles names ↔
      .add name ∈ singles ∨ name ∈ names ∧ .remove name ∉ singles := by
  induction singles generalizing names with
  | nil => simp [run]
  | cons single singles ih =>
      have behind : ∀ name, .add name ∈ singles → .remove name ∉ singles := by
        intro name added removed
        exact consistent name (.tail _ added) (.tail _ removed)
      have notRemoved : single = .add name → .remove name ∉ singles := by
        rintro rfl removed
        exact consistent name (.head _) (.tail _ removed)
      rw [run_cons, ih behind, mem_apply_iff, List.mem_cons, List.mem_cons]
      grind

/-- What is there in the end was there before or has been added. -/
theorem mem_of_mem_run (member : name ∈ run singles names) :
    name ∈ names ∨ .add name ∈ singles := by
  induction singles generalizing names with
  | nil => exact .inl member
  | cons single singles ih =>
      rcases ih member with applied | added
      · rcases mem_apply_iff.mp applied with rfl | ⟨held, _⟩
        · exact .inr (.head _)
        · exact .inl held
      · exact .inr (.tail _ added)

/-- What was there before is there in the end or has been removed. -/
theorem mem_run_of_mem (held : name ∈ names) :
    name ∈ run singles names ∨ .remove name ∈ singles := by
  induction singles generalizing names with
  | nil => exact .inl held
  | cons single singles ih =>
      by_cases removal : single = .remove name
      · rw [removal]
        exact .inr (.head _)
      · rcases ih (mem_apply_iff.mpr (.inr ⟨held, removal⟩)) with kept | removed
        · exact .inl kept
        · exact .inr (.tail _ removed)

end Single

/-- The changes of a delta one by one. -/
def singles (delta : Delta) : List Single :=
  delta.toAdd.map .add ++ delta.toRemove.map .remove

theorem length_singles (delta : Delta) : delta.singles.length = delta.size := by
  simp [singles, size]

theorem add_mem_singles {delta : Delta} {name : String} :
    .add name ∈ delta.singles ↔ name ∈ delta.toAdd := by
  simp [singles]

theorem remove_mem_singles {delta : Delta} {name : String} :
    .remove name ∈ delta.singles ↔ name ∈ delta.toRemove := by
  simp [singles]

/-! ## The changes between two lists -/

variable {desired observed : List String} {name : String}

theorem mem_toAdd_iff :
    name ∈ (between desired observed).toAdd ↔ name ∈ desired ∧ name ∉ observed := by
  rw [between_eq, mem_missing_iff]

theorem mem_toRemove_iff :
    name ∈ (between desired observed).toRemove ↔ name ∈ observed ∧ name ∉ desired := by
  rw [between_eq, mem_missing_iff]

/-- The other way round, what was to be added is to be removed. -/
theorem between_swap (desired observed : List String) :
    between observed desired =
      ⟨(between desired observed).toRemove, (between desired observed).toAdd⟩ := by
  rw [between_eq, between_eq]

theorem nodup_singles : (between desired observed).singles.Nodup := by
  rw [between_eq]
  apply List.Nodup.append
  · exact (nodup_missing _ _).map fun _ _ same => Single.add.inj same
  · exact (nodup_missing _ _).map fun _ _ same => Single.remove.inj same
  · intro single added removed
    rw [List.mem_map] at added removed
    obtain ⟨_, _, rfl⟩ := added
    obtain ⟨_, _, impossible⟩ := removed
    cases impossible

/-- In whatever order the changes are made, they lead to the desired set. -/
theorem run_of_perm {singles : List Single}
    (reordered : singles.Perm (between desired observed).singles) :
    Single.run singles observed.toFinset = desired.toFinset := by
  have consistent : ∀ name, Single.add name ∈ singles → Single.remove name ∉ singles := by
    intro name
    rw [reordered.mem_iff, reordered.mem_iff, add_mem_singles, remove_mem_singles, mem_toAdd_iff,
      mem_toRemove_iff]
    exact fun added removed => added.2 removed.1
  ext name
  rw [Single.mem_run_iff consistent, reordered.mem_iff, reordered.mem_iff, add_mem_singles,
    remove_mem_singles, mem_toAdd_iff, mem_toRemove_iff, List.mem_toFinset, List.mem_toFinset]
  grind

/-- Whatever leads to the desired set makes each of the changes. -/
theorem singles_subset_of_run {singles : List Single}
    (reaches : Single.run singles observed.toFinset = desired.toFinset) :
    (between desired observed).singles ⊆ singles := by
  intro single member
  cases single with
  | add name =>
      rw [add_mem_singles, mem_toAdd_iff] at member
      have arrives : name ∈ Single.run singles observed.toFinset := by
        rw [reaches, List.mem_toFinset]
        exact member.1
      refine (Single.mem_of_mem_run arrives).resolve_left ?_
      rw [List.mem_toFinset]
      exact member.2
  | remove name =>
      rw [remove_mem_singles, mem_toRemove_iff] at member
      have held : name ∈ observed.toFinset := List.mem_toFinset.mpr member.1
      refine (Single.mem_run_of_mem held).resolve_left ?_
      rw [reaches, List.mem_toFinset]
      exact member.2

/-- At once or one by one, the changes lead to the desired set. -/
theorem toFinset_apply :
    ((between desired observed).apply observed).toFinset = desired.toFinset := by
  ext name
  simp only [apply, List.mem_toFinset, List.mem_filter, List.mem_append, Bool.not_eq_true',
    List.contains_eq_mem, decide_eq_false_iff_not, mem_toAdd_iff, mem_toRemove_iff]
  grind

/-- **Reconciliation of sets.** What is to be added are the names of the desired list that are
not observed, what is to be removed the observed names that are not desired, either in the order
in which its list first names them; so no name is listed twice or on both sides. The changes lead
to the desired set, also one by one and in any order. There are none exactly where both lists name
one set, no other way to the desired set is shorter, and the way back exchanges the two sides. -/
theorem between_reconciles (desired observed : List String) :
    let delta := between desired observed
    ((∀ name, name ∈ delta.toAdd ↔ name ∈ desired ∧ name ∉ observed) ∧
      delta.toAdd.Pairwise fun first second => desired.idxOf first < desired.idxOf second) ∧
    ((∀ name, name ∈ delta.toRemove ↔ name ∈ observed ∧ name ∉ desired) ∧
      delta.toRemove.Pairwise fun first second => observed.idxOf first < observed.idxOf second) ∧
    (delta.toAdd.Nodup ∧ delta.toRemove.Nodup ∧ delta.toAdd.Disjoint delta.toRemove) ∧
    ((delta.apply observed).toFinset = desired.toFinset ∧
      ∀ singles, singles.Perm delta.singles →
        Single.run singles observed.toFinset = desired.toFinset) ∧
    (delta.isEmpty = true ↔ observed.toFinset = desired.toFinset) ∧
    (delta.singles.length = delta.size ∧
      ∀ singles, Single.run singles observed.toFinset = desired.toFinset →
        delta.size ≤ singles.length) ∧
    between observed desired = ⟨delta.toRemove, delta.toAdd⟩ := by
  intro delta
  have listed : delta = ⟨missing desired observed, missing observed desired⟩ := between_eq _ _
  refine ⟨⟨fun _ => mem_toAdd_iff, ?added⟩, ⟨fun _ => mem_toRemove_iff, ?removed⟩,
    ⟨?addedOnce, ?removedOnce, ?disjoint⟩, ⟨toFinset_apply, fun _ => run_of_perm⟩, ?empty,
    ⟨length_singles _, ?shortest⟩, between_swap _ _⟩
  case added =>
    rw [listed]
    exact pairwise_idxOf_missing _ _
  case removed =>
    rw [listed]
    exact pairwise_idxOf_missing _ _
  case addedOnce =>
    rw [listed]
    exact nodup_missing _ _
  case removedOnce =>
    rw [listed]
    exact nodup_missing _ _
  case disjoint =>
    intro name added removed
    exact (mem_toAdd_iff.mp added).2 (mem_toRemove_iff.mp removed).1
  case empty =>
    rw [isEmpty_between_iff, Finset.ext_iff]
    simp only [List.mem_toFinset]
  case shortest =>
    intro singles reaches
    rw [← length_singles]
    exact (nodup_singles.subperm (singles_subset_of_run reaches)).length_le

/-- Repetitions on both sides, a name that stays, and the changes from the last to the first. -/
theorem between_reconciles_backwards :
    let desired := ["b", "a", "b", "e"]
    let observed := ["a", "c", "c", "d"]
    let backwards : List Single := [.remove "d", .remove "c", .add "e", .add "b"]
    between desired observed = ⟨["b", "e"], ["c", "d"]⟩ ∧
      Single.run backwards observed.toFinset = desired.toFinset ∧
      (between desired observed).size ≤ backwards.length := by
  intro desired observed backwards
  obtain ⟨_, _, _, ⟨_, anyOrder⟩, _, ⟨_, shortest⟩, _⟩ := between_reconciles desired observed
  have reached := anyOrder backwards (by decide)
  exact ⟨by decide, reached, shortest backwards reached⟩

end Converge.Delta
