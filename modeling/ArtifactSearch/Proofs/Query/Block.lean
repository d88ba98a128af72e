import ArtifactSearch.Query

/-!
# ArtifactSearch.Proofs.Query.Block

**Results are made of blocks**, one for each index in map order: the records of
that index which the query `picks`, in record order (`hits_eq_flatMap`). Whether a
record is picked depends on its own index alone, in all three kinds of query.
-/

namespace ArtifactSearch.Query

/-- Whether a record of an index is a result of the query. -/
def picks (query : Query) (index : Index) (record : Record) : Bool :=
  match query with
  | .all => true
  | .within name needle =>
    Text.lower index.name = name && (needle.isEmpty || holds needle index.columns record)
  | .anywhere needle => needle.isEmpty || holds needle index.columns record

/-- The results of a query in one index. -/
def block (query : Query) (index : Index) : List (Hit Text) :=
  (index.records.filter (query.picks index)).map fun record => ⟨index.name, record⟩

/-- Restricting a list first is the same as leaving out what the others yield. -/
theorem flatMap_filter {α β : Type} (p : α → Bool) (f : α → List β) (l : List α) :
    (l.filter p).flatMap f = l.flatMap fun a => if p a then f a else [] := by
  induction l with
  | nil => rfl
  | cons a rest ih =>
      rw [List.flatMap_cons, ← ih]
      by_cases h : p a = true
      · rw [List.filter_cons_of_pos h, List.flatMap_cons, if_pos h]
      · rw [List.filter_cons_of_neg h, if_neg h, List.nil_append]

theorem hits_eq_flatMap (query : Query) (indexes : List Index) :
    query.hits indexes = indexes.flatMap query.block := by
  cases query with
  | all => rfl
  | within name needle =>
      rw [hits, flatMap_filter]
      congr 1
      funext index
      by_cases h : Text.lower index.name = name
      · have hpicks : (within name needle).picks index =
            fun record => needle.isEmpty || holds needle index.columns record := by
          funext record
          simp [picks, h]
        rw [if_pos (by simpa using h), hitsIn, block, hpicks]
      · have hpicks : (within name needle).picks index = fun _ => false := by
          funext record
          simp [picks, h]
        rw [if_neg (by simpa using h), block, hpicks]
        simp
  | anywhere needle => rfl

/-- A result has the name of an index and is one of its records. -/
theorem mem_hits {query : Query} {indexes : List Index} {hit : Hit Text}
    (h : hit ∈ query.hits indexes) :
    ∃ index ∈ indexes, hit.index = index.name ∧ hit.row ∈ index.records := by
  rw [hits_eq_flatMap, List.mem_flatMap] at h
  obtain ⟨index, hindex, hblock⟩ := h
  obtain ⟨record, hrecord, rfl⟩ := List.mem_map.mp hblock
  exact ⟨index, hindex, rfl, (List.mem_filter.mp hrecord).1⟩

theorem mem_hits_of_picks {query : Query} {indexes : List Index} {index : Index} {record : Record}
    (hindex : index ∈ indexes) (hrecord : record ∈ index.records)
    (h : query.picks index record = true) : ⟨index.name, record⟩ ∈ query.hits indexes := by
  rw [hits_eq_flatMap, List.mem_flatMap]
  exact ⟨index, hindex, List.mem_map_of_mem (List.mem_filter.mpr ⟨hrecord, h⟩)⟩

end ArtifactSearch.Query
