import Converge.Membership

/-!
# Carrying out membership changes

The tally of two lists counts up what only the desired list names, counts down what only the
observed list names, and leaves what both name at zero; so `Delta.between` finds, on either side,
the names that the other side lacks, each once and in order of first appearance. Once the first
change has been made, the same changes without that one remain to be found, in the same order. A
run of the changes that stops anywhere is therefore resumed by comparing the two lists again.
-/

namespace Converge

/-! ## Each name once -/

/-- Repetitions may be dropped before or after names are chosen. -/
theorem eraseDups_filter (keep : String → Bool) (names : List String) :
    (names.filter keep).eraseDups = names.eraseDups.filter keep := by
  induction names generalizing keep with
  | nil => rfl
  | cons name names ih =>
      rw [List.eraseDups_cons, ih, List.filter_cons, List.filter_cons, List.filter_filter]
      cases kept : keep name with
      | true => simp [List.eraseDups_cons, ih, List.filter_filter, Bool.and_comm]
      | false =>
          simp only [Bool.false_eq_true, if_false]
          rw [ih]
          apply List.filter_congr
          intro other _
          by_cases equal : other = name <;> simp [equal, kept]

/-- Behind its first element, a list without repetitions lists the others once. -/
theorem eraseDups_filter_of_eq_cons {names rest : List String} {first : String}
    (found : names.eraseDups = first :: rest) :
    (names.filter (· != first)).eraseDups = rest := by
  cases names with
  | nil => simp at found
  | cons name names =>
      rw [List.eraseDups_cons, List.cons.injEq] at found
      obtain ⟨rfl, restEqual⟩ := found
      rw [List.filter_cons_of_neg (by simp)]
      exact restEqual

theorem nodup_of_eraseDups_eq {names distinct : List String}
    (found : names.eraseDups = distinct) : distinct.Nodup := by
  induction distinct generalizing names with
  | nil => exact List.nodup_nil
  | cons first rest ih =>
      have remaining := eraseDups_filter_of_eq_cons found
      refine List.nodup_cons.mpr ⟨?_, ih remaining⟩
      rw [← remaining, List.mem_eraseDups]
      simp

/-! ## Tallies -/

namespace Tally

variable {tally : Tally} {weight : Int} {name : String} {names : List String}

/-- The names that a tally counts, in its order. -/
def keys (tally : Tally) : List String := tally.map Prod.fst

/-- The tally in which the given names count more, where they are counted. -/
def raise (weight : Int) (names : List String) (tally : Tally) : Tally :=
  tally.map fun entry => (entry.1, if names.contains entry.1 then entry.2 + weight else entry.2)

@[simp] theorem keys_nil : keys [] = [] := rfl

@[simp] theorem keys_cons (entry : String × Int) : keys (entry :: tally) = entry.1 :: keys tally :=
  rfl

@[simp] theorem keys_append (other : Tally) : keys (tally ++ other) = keys tally ++ keys other :=
  List.map_append

@[simp] theorem keys_raise : (tally.raise weight names).keys = tally.keys := by
  simp [keys, raise]

@[simp] theorem raise_cons (entry : String × Int) :
    raise weight names (entry :: tally) =
      (entry.1, if names.contains entry.1 then entry.2 + weight else entry.2) ::
        tally.raise weight names :=
  rfl

theorem raise_append (other : Tally) :
    raise weight names (tally ++ other) = tally.raise weight names ++ raise weight names other :=
  List.map_append

/-- Names that are not counted raise nothing. -/
theorem raise_of_disjoint (disjoint : ∀ name ∈ names, name ∉ tally.keys) :
    tally.raise weight names = tally := by
  induction tally with
  | nil => rfl
  | cons entry rest ih =>
      have other : entry.1 ∉ names := fun member => disjoint _ member (by simp)
      have behind : ∀ name ∈ names, name ∉ keys rest := by
        intro name member
        have absent := disjoint name member
        rw [keys_cons, List.mem_cons, not_or] at absent
        exact absent.2
      rw [raise_cons, ih behind, List.contains_eq_mem, decide_eq_false other]
      rfl

/-- Names may be raised one after the other. -/
theorem raise_raise (fresh : name ∉ names) :
    (tally.raise weight [name]).raise weight names = tally.raise weight (name :: names) := by
  rw [raise, raise, raise, List.map_map]
  apply List.map_congr_left
  intro entry _
  by_cases same : entry.1 = name <;> simp [same, fresh]

/-- A name that is met first is counted behind the others. -/
theorem count_of_not_mem (absent : name ∉ tally.keys) :
    count weight name tally = tally ++ [(name, weight)] := by
  induction tally with
  | nil => rfl
  | cons entry rest ih =>
      rw [keys_cons, List.mem_cons, not_or] at absent
      rw [count, if_neg (Ne.symm absent.1), ih absent.2, List.cons_append]

/-- A name that has been met counts more where it stands. -/
theorem count_of_mem (distinct : tally.keys.Nodup) (member : name ∈ tally.keys) :
    count weight name tally = tally.raise weight [name] := by
  induction tally with
  | nil => cases member
  | cons entry rest ih =>
      rw [keys_cons, List.nodup_cons] at distinct
      rw [keys_cons, List.mem_cons] at member
      by_cases same : entry.1 = name
      · have unmoved : raise weight [name] rest = rest := by
          apply raise_of_disjoint
          intro other isName
          rw [List.mem_singleton.mp isName, ← same]
          exact distinct.1
        rw [count, if_pos same, raise_cons, unmoved]
        simp [same]
      · rw [count, if_neg same, raise_cons, ih distinct.2 (member.resolve_left (Ne.symm same))]
        simp [same]

/-- Counting distinct names raises those that have been met and lists the others behind. -/
theorem foldl_count (namesDistinct : names.Nodup) (distinct : tally.keys.Nodup) :
    names.foldl (fun tally name => count weight name tally) tally =
      tally.raise weight names ++
        (names.filter fun name => !tally.keys.contains name).map (·, weight) := by
  induction names generalizing tally with
  | nil => simp [raise]
  | cons name names ih =>
      rw [List.nodup_cons] at namesDistinct
      rw [List.foldl_cons]
      by_cases member : name ∈ tally.keys
      · rw [count_of_mem distinct member, ih namesDistinct.2 (by rwa [keys_raise]), keys_raise,
          raise_raise namesDistinct.1, List.filter_cons_of_neg (by simpa using member)]
      · have addedDistinct : (tally ++ [(name, weight)]).keys.Nodup := by
          rw [keys_append, List.nodup_append]
          refine ⟨distinct, by simp, ?_⟩
          intro first counted second isName same
          rw [same, List.mem_singleton.mp isName] at counted
          exact member counted
        have raised : tally.raise weight (name :: names) = tally.raise weight names := by
          rw [← raise_raise namesDistinct.1]
          congr 1
          exact raise_of_disjoint (by simpa using member)
        have unmoved : raise weight names [(name, weight)] = [(name, weight)] := by
          apply raise_of_disjoint
          intro other isOther same
          rw [keys_cons, keys_nil, List.mem_singleton] at same
          rw [same] at isOther
          exact namesDistinct.1 isOther
        have others : names.filter (fun other => !(tally ++ [(name, weight)]).keys.contains other) =
            names.filter fun other => !tally.keys.contains other := by
          apply List.filter_congr
          intro other isOther
          have different : other ≠ name := fun same => namesDistinct.1 (same ▸ isOther)
          simp [different]
        rw [count_of_not_mem member, ih namesDistinct.2 addedDistinct, raise_append, unmoved,
          raised, others, List.filter_cons_of_pos (by simpa using member), List.map_cons,
          List.append_assoc, List.singleton_append]

/-- A list is counted as its distinct names are that have not been seen before. -/
theorem countAll_eq (seen : List String) :
    countAll weight seen names tally =
      (names.filter fun name => !seen.contains name).eraseDups.foldl
        (fun tally name => count weight name tally) tally := by
  induction names generalizing seen tally with
  | nil => rfl
  | cons name names ih =>
      rw [countAll]
      by_cases known : seen.contains name = true
      · rw [if_pos known, ih, List.filter_cons_of_neg (by rw [known]; simp)]
      · rw [Bool.not_eq_true] at known
        have unseen : (fun other => !(name :: seen).contains other) =
            fun other => (!other == name) && !seen.contains other := by
          funext other
          rw [List.contains_cons, Bool.not_or]
        rw [known, if_neg (by simp), ih, List.filter_cons_of_pos (by rw [known]; rfl),
          List.eraseDups_cons, List.foldl_cons, List.filter_filter, unseen]

end Tally

namespace Delta

/-- The names of `wanted` that `held` lacks, each once, in order of first appearance. -/
def missing (wanted held : List String) : List String :=
  (wanted.filter fun name => !held.contains name).eraseDups

end Delta

namespace Tally

theorem filter_unseen (names : List String) :
    names.filter (fun name => !([] : List String).contains name) = names :=
  List.filter_eq_self.mpr fun _ _ => rfl

/-- A list is counted as its distinct names are. -/
theorem countAll_nil :
    countAll weight [] names tally =
      names.eraseDups.foldl (fun tally name => count weight name tally) tally := by
  rw [countAll_eq, filter_unseen]

/-- The tally holds the distinct names of the desired list, at zero those that are observed and
at one the others, and behind them what is observed besides. -/
theorem between_eq (desired observed : List String) :
    between desired observed =
      desired.eraseDups.map (fun name => (name, if observed.contains name then 0 else 1)) ++
        (Delta.missing observed desired).map (·, -1) := by
  have first : countAll 1 [] desired [] = desired.eraseDups.map (·, 1) := by
    rw [countAll_nil, foldl_count (nodup_of_eraseDups_eq rfl) (by simp), keys_nil, filter_unseen]
    rfl
  have counted : keys (desired.eraseDups.map (·, (1 : Int))) = desired.eraseDups := by
    simp [keys, Function.comp_def]
  rw [between, first, countAll_nil, foldl_count (nodup_of_eraseDups_eq rfl)
    (by rw [counted]; exact nodup_of_eraseDups_eq rfl), counted, raise, List.map_map,
    Delta.missing, eraseDups_filter]
  congr 1
  · apply List.map_congr_left
    intro name _
    by_cases held : name ∈ observed <;> simp [held]
  · congr 1
    apply List.filter_congr
    intro name _
    simp

end Tally

namespace Delta

/-! ## Missing names -/

theorem mem_missing_iff {wanted held : List String} {name : String} :
    name ∈ missing wanted held ↔ name ∈ wanted ∧ name ∉ held := by
  simp [missing]

theorem nodup_missing (wanted held : List String) : (missing wanted held).Nodup :=
  nodup_of_eraseDups_eq rfl

theorem missing_eq_nil_iff {wanted held : List String} :
    missing wanted held = [] ↔ ∀ name ∈ wanted, name ∈ held := by
  rw [List.eq_nil_iff_forall_not_mem]
  constructor
  · intro nothing name member
    have found := nothing name
    rw [mem_missing_iff] at found
    exact Classical.byContradiction fun absent => found ⟨member, absent⟩
  · intro all name found
    rw [mem_missing_iff] at found
    exact found.2 (all name found.1)

/-- Once the first missing name is added, the others are missing. -/
theorem missing_append_of_eq_cons {wanted held rest : List String} {first : String}
    (found : missing wanted held = first :: rest) :
    missing wanted (held ++ [first]) = rest := by
  have remaining := eraseDups_filter_of_eq_cons found
  rw [List.filter_filter] at remaining
  rw [← remaining, missing]
  congr 2
  funext name
  by_cases equal : name = first <;> simp [equal]

/-- Once the first superfluous name is removed, the others are superfluous. -/
theorem missing_filter_of_eq_cons {wanted held rest : List String} {first : String}
    (found : missing held wanted = first :: rest) :
    missing (held.filter (· != first)) wanted = rest := by
  have remaining := eraseDups_filter_of_eq_cons found
  rw [List.filter_filter] at remaining
  rw [← remaining, missing, List.filter_filter]
  congr 2
  funext name
  rw [Bool.and_comm]

/-- A wanted name is not superfluous. -/
theorem missing_append_of_mem {wanted held : List String} {name : String}
    (member : name ∈ wanted) : missing (held ++ [name]) wanted = missing held wanted := by
  rw [missing, missing, List.filter_append]
  simp [member]

/-- Removing a name that is not wanted leaves what is missing. -/
theorem missing_filter_of_not_mem {wanted held : List String} {name : String}
    (absent : name ∉ wanted) :
    missing wanted (held.filter (· != name)) = missing wanted held := by
  rw [missing, missing]
  congr 1
  apply List.filter_congr
  intro other member
  have different : other ≠ name := fun equal => absent (equal ▸ member)
  simp [different]

/-! ## Changes -/

/-- The names whose counts are chosen. -/
theorem keys_filter_map (choose : Int → Bool) (worth : String → Int) (names : List String) :
    ((names.map fun name => (name, worth name)).filter fun entry => choose entry.2).map Prod.fst =
      names.filter fun name => choose (worth name) := by
  rw [List.filter_map, List.map_map]
  exact List.map_id' _

/-- The tally finds what is missing on either side. -/
theorem between_eq (desired observed : List String) :
    between desired observed = ⟨missing desired observed, missing observed desired⟩ := by
  have positive : (desired.eraseDups.filter fun name =>
      decide (0 < (if observed.contains name then 0 else 1 : Int))) = missing desired observed := by
    rw [missing, eraseDups_filter]
    apply List.filter_congr
    intro name _
    cases observed.contains name <;> rfl
  have noneNegative : (desired.eraseDups.filter fun name =>
      decide ((if observed.contains name then 0 else 1 : Int) < 0)) = [] := by
    rw [List.filter_eq_nil_iff]
    intro name _
    cases observed.contains name <;> decide
  have nonePositive : ((missing observed desired).filter fun _ => decide (0 < (-1 : Int))) = [] :=
    List.filter_eq_nil_iff.mpr fun _ _ => by decide
  have negative : ((missing observed desired).filter fun _ => decide ((-1 : Int) < 0)) =
      missing observed desired :=
    List.filter_eq_self.mpr fun _ _ => by decide
  rw [between, Tally.between_eq, List.filter_append, List.filter_append, List.map_append,
    List.map_append, keys_filter_map (fun count => decide (0 < count)),
    keys_filter_map (fun count => decide (0 < count)),
    keys_filter_map (fun count => decide (count < 0)),
    keys_filter_map (fun count => decide (count < 0)), positive, nonePositive, noneNegative,
    negative, List.append_nil, List.nil_append]

/-- There is nothing to change where both lists name the same set. -/
theorem isEmpty_between_iff {desired observed : List String} :
    (between desired observed).isEmpty = true ↔
      ∀ name, name ∈ observed ↔ name ∈ desired := by
  simp only [isEmpty, between_eq, Bool.and_eq_true, List.isEmpty_iff, missing_eq_nil_iff]
  constructor
  · intro ⟨allHeld, allWanted⟩ name
    exact ⟨allWanted name, allHeld name⟩
  · intro same
    exact ⟨fun name => (same name).mpr, fun name => (same name).mp⟩

end Delta

end Converge
