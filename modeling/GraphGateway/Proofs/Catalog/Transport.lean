/-
Schemas on the wire.

A schema is read back from its text whatever names, types and comments it holds and whichever of its
optional parts it has. It nests brackets five deep: the schema, its tables, a table, its properties
or connections, and one of these.
-/
import GraphGateway.Catalog.Schema
import GraphGateway.Proofs.Json.ReadBack

namespace GraphGateway.Catalog

open Json Json.Codec

variable {levels : Nat}

theorem TableKind.readsBack (kind : TableKind) : codec.ReadsBack levels kind := by
  refine choice_readsBack ?_
  cases kind <;> rfl

theorem Property.readsBack (p : Property) : codec.ReadsBack (levels + 1) p := by
  refine record_readsBack ⟨text_readsBack _, text_readsBack _, ?_, trivial⟩ (by decide) rfl
  refine Field.optional_readsBack (fun b _ => flag_readsBack b) fun b _ => ?_
  cases b <;> exact ⟨_, rfl, by decide⟩

theorem Connection.readsBack (c : Connection) : codec.ReadsBack (levels + 1) c :=
  record_readsBack ⟨text_readsBack _, text_readsBack _, trivial⟩ (by decide) rfl

theorem Table.readsBack (t : Table) : codec.ReadsBack (levels + 3) t := by
  refine record_readsBack ⟨text_readsBack _, t.kind.readsBack, ?_, ?_, ?_, trivial⟩ (by decide) rfl
  · exact Field.optional_readsBack (fun s _ => text_readsBack s) fun s _ =>
      ⟨_, rfl, by decide⟩
  · exact list_readsBack (fun p _ => p.readsBack) fun p _ => rfl
  · exact Field.optional_readsBack
      (fun cs _ => list_readsBack (fun c _ => c.readsBack) fun c _ => rfl)
      fun cs _ => ⟨_, rfl, by decide⟩

theorem Schema.readsBack (s : Schema) : codec.ReadsBack (levels + 5) s :=
  record_readsBack
    ⟨list_readsBack (fun t _ => t.readsBack) fun _ _ => rfl,
      list_readsBack (fun t _ => t.readsBack) fun _ _ => rfl, trivial⟩ (by decide) rfl

/-- A schema is decoded from what clients get to see of it. -/
theorem Schema.decode_text (s : Schema) : codec.decode s.text = .ok s := by
  have h : codec.ReadsBack Json.maxNesting s := s.readsBack
  exact h.decode.2

end GraphGateway.Catalog
