import Converge.Proofs.Value.Sorted
import Converge.Yaml.Document

/-!
# Documents of YAML texts

Entries of a mapping come in any order, and a key may be repeated. The document that a text
becomes is in key order at every depth all the same, also where an alias is followed.
-/

namespace Converge.Yaml

open Json

/-! ## Reading with a count -/

theorem Untyped.bind_eq_some {α β : Type} {first : Untyped α} {next : α → Untyped β}
    {count later : Nat} {found : β}
    (done : (first >>= next).run count = some (found, later)) :
    ∃ one between, first.run count = some (one, between) ∧
      (next one).run between = some (found, later) := by
  rw [StateT.run_bind, Option.bind_eq_bind, Option.bind_eq_some_iff] at done
  obtain ⟨⟨one, between⟩, isFirst, ends⟩ := done
  exact ⟨one, between, isFirst, ends⟩

/-- What each item of a list is read as holds of all that the list is read as. -/
theorem Untyped.forall_of_mapM {α β : Type} {holds : β → Prop} {read : α → Untyped β}
    (each : ∀ item count found later, (read item).run count = some (found, later) → holds found)
    {items : List α} {count later : Nat} {found : List β}
    (done : (items.mapM read).run count = some (found, later)) : ∀ one ∈ found, holds one := by
  induction items generalizing count later found with
  | nil =>
      cases done
      exact nofun
  | cons item items ih =>
      rw [List.mapM_cons] at done
      obtain ⟨first, _, isFirst, done⟩ := Untyped.bind_eq_some done
      obtain ⟨rest, _, isRest, done⟩ := Untyped.bind_eq_some done
      cases done
      exact List.forall_mem_cons.mpr ⟨each item _ first _ isFirst, ih isRest⟩

/-! ## Scalars -/

theorem sorted_ofBinary64 (number : Binary64) : (Json.ofBinary64 number).Sorted := by
  rw [Json.ofBinary64]
  split
  · exact sorted_number _
  · trivial

theorem sorted_of_wholeDocument {value : Int} {document : Json}
    (read : wholeDocument? value = some document) : document.Sorted := by
  rw [wholeDocument?] at read
  split at read
  · cases read
    exact sorted_number _
  · split at read
    · cases read
      exact sorted_number _
    · cases read

theorem sorted_of_plainDocument {text : String} {document : Json}
    (read : plainDocument? text = some document) : document.Sorted := by
  rw [plainDocument?] at read
  split at read
  · cases read
    trivial
  · cases read
    trivial
  · exact sorted_of_wholeDocument read
  · cases read
    exact sorted_ofBinary64 _
  · cases read
    trivial

theorem sorted_of_scalar {properties : Properties} {style : Style} {text : String}
    {document : Json} (read : scalarDocument? properties style text = some document) :
    document.Sorted := by
  rw [scalarDocument?.eq_def] at read
  split at read
  · split at read
    · obtain ⟨value, _, rfl⟩ := Option.map_eq_some_iff.mp read
      trivial
    split at read
    · split at read
      · exact sorted_of_wholeDocument read
      · cases read
    split at read
    · obtain ⟨value, _, rfl⟩ := Option.map_eq_some_iff.mp read
      exact sorted_ofBinary64 value
    split at read
    · split at read
      · cases read
        trivial
      · cases read
    cases read
    trivial
  · split at read
    · exact sorted_of_plainDocument read
    · cases read
      trivial

/-! ## Nodes -/

/-- A node is a scalar, or a collection whose parts are read with one level less. -/
theorem sorted_of_node {anchored : List (Nat × Node)} {limit levels : Nat} {node : Node}
    {count later : Nat} {document : Json}
    (read : (node.document anchored limit levels).run count = some (document, later)) :
    document.Sorted := by
  induction levels using Nat.strongRecOn generalizing node count later document with
  | ind levels ih =>
      rw [Node.document] at read
      obtain ⟨_, _, _, read⟩ := Untyped.bind_eq_some read
      dsimp only at read
      split at read
      · cases read
      split at read
      · rename_i properties style text _ _
        cases isScalar : scalarDocument? properties style text with
        | none =>
            rw [isScalar] at read
            cases read
        | some scalar =>
            rw [isScalar] at read
            cases read
            exact sorted_of_scalar isScalar
      · obtain ⟨items, _, parts, read⟩ := Untyped.bind_eq_some read
        cases read
        refine sorted_array_iff.mpr (Untyped.forall_of_mapM ?_ parts)
        exact fun item count found later => ih _ (Nat.lt_succ_self _)
      · obtain ⟨entries, _, parts, read⟩ := Untyped.bind_eq_some read
        cases read
        refine sorted_ofEntries (Untyped.forall_of_mapM ?_ parts)
        rintro ⟨key, value⟩ count ⟨name, found⟩ later read
        dsimp only at read
        obtain ⟨_, _, _, read⟩ := Untyped.bind_eq_some read
        obtain ⟨_, _, _, read⟩ := Untyped.bind_eq_some read
        obtain ⟨_, _, isValue, read⟩ := Untyped.bind_eq_some read
        cases read
        exact ih _ (Nat.lt_succ_self _) isValue
      · cases read

/-- The document of a text is sorted. -/
theorem sorted_of_document? {text : String} {document : Json}
    (read : document? text = some document) : document.Sorted := by
  rw [document?] at read
  obtain ⟨root, _, read⟩ := Option.bind_eq_some_iff.mp read
  obtain ⟨⟨_, _⟩, isDocument, read⟩ := Option.bind_eq_some_iff.mp read
  cases read
  exact sorted_of_node isDocument

end Converge.Yaml
