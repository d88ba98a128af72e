import ArtifactSearch.Proofs.Store.Slots

/-!
# ArtifactSearch.Proofs.Store.Intake

**Taking in files one after another.** `Placed` says of keys that each is where its
file stands once this file is taken in; a later file of the same name may replace
it. Every way of bringing files into a store reports such keys.
-/

namespace ArtifactSearch.Store

/-- The changes that take in files of the given names and texts. -/
def intake (texts : List (Text × Text)) : List Change :=
  texts.map fun text => .ingest text.1 text.2

/-- The keys of files that are taken in one after another. -/
inductive Placed : Store → List (Text × Text) → List Text → Prop where
  | nil (store : Store) : Placed store [] []
  | cons {store : Store} {fileName content key : Text} {rest : List (Text × Text)}
      {keys : List Text} :
      (store.ingest fileName content).indexes.get? key
        = some (.ofTable key fileName (Table.parse content)) →
      Placed (store.ingest fileName content) rest keys →
      Placed store ((fileName, content) :: rest) (key :: keys)

variable {store : Store} {texts : List (Text × Text)} {keys : List Text}

/-- A file is found under the key that its name stands for afterwards. -/
theorem Placed.ingest (h : store.indexes.WellFormed) {fileName content : Text}
    (hrest : Placed (store.ingest fileName content) texts keys) :
    Placed store ((fileName, content) :: texts)
      ((store.ingest fileName content).keyFor fileName :: keys) :=
  .cons (get?_keyFor_ingest h fileName content) hrest

/-- The rows that are reported for a file just taken in are those of its table. -/
theorem rowCount_keyFor_ingest (h : store.indexes.WellFormed) (fileName content : Text) :
    let after := store.ingest fileName content
    ((after.indexes.get? (after.keyFor fileName)).map Index.rowCount).getD 0
      = (Table.parse content).records.length := by
  intro after
  rw [get?_keyFor_ingest h, Option.map_some, Option.getD_some]
  rfl

end ArtifactSearch.Store
