/-
# The references of a system

The references of a system are numbered from left to right, from the recogniser that it starts
with through its definitions.  So the number of a reference is its place among the names that
are referred to, and tells it from every other reference.
-/

import Mathlib.Data.List.Nodup
import PluralForms.Recognizer.System

namespace PluralForms.Recognizer

mutual

/-- The labels of the deferred references in a recogniser, from left to right. -/
def labels {ν : Type} : Recognizer ν → List ν
  | .literal _ => []
  | .pattern _ => []
  | .sequence items => labelsAll items
  | .choice items => labelsAll items
  | .repetition item _ _ => item.labels
  | .acting item _ => item.labels
  | .deferred label => [label]
termination_by structural recognizer => recognizer

/-- The labels of the references in several recognisers, one after another. -/
def labelsAll {ν : Type} : List (Recognizer ν) → List ν
  | [] => []
  | item :: rest => item.labels ++ labelsAll rest
termination_by structural items => items

end

/-- Names with numbers that start with `next`. -/
def numbered (names : List String) (next : Nat) : List Label :=
  (names.zipIdx next).map fun entry => ⟨entry.2, entry.1⟩

theorem numbered_append (names others : List String) (next : Nat) :
    numbered (names ++ others) next =
      numbered names next ++ numbered others (next + names.length) := by
  rw [numbered, List.zipIdx_append, List.map_append]
  rfl

/-- The number of a reference is its place among the names. -/
theorem mem_numbered_iff {names : List String} {label : Label} :
    label ∈ numbered names 0 ↔ names[label.node]? = some label.name := by
  obtain ⟨node, name⟩ := label
  simp [numbered, List.mem_zipIdx_iff_getElem?]

theorem nodup_numbered (names : List String) (next : Nat) : (numbered names next).Nodup := by
  refine List.Nodup.of_map Label.node ?_
  have nodes : (numbered names next).map Label.node = List.range' next names.length := by
    rw [numbered, List.map_map]
    exact List.zipIdx_map_snd next names
  rw [nodes]
  exact List.nodup_range'

mutual

/-- Numbering gives the references the numbers from `next` on, and keeps their names. -/
theorem number_spec : ∀ (recognizer : Recognizer String) (next : Nat),
    (recognizer.number next).1.labels = numbered recognizer.labels next ∧
      (recognizer.number next).2 = next + recognizer.labels.length
  | .literal _, _ => ⟨rfl, rfl⟩
  | .pattern _, _ => ⟨rfl, rfl⟩
  | .sequence items, next => numberAll_spec items next
  | .choice items, next => numberAll_spec items next
  | .repetition item _ _, next => number_spec item next
  | .acting item _, next => number_spec item next
  | .deferred _, _ => ⟨rfl, rfl⟩
termination_by structural recognizer => recognizer

theorem numberAll_spec : ∀ (items : List (Recognizer String)) (next : Nat),
    labelsAll (numberAll items next).1 = numbered (labelsAll items) next ∧
      (numberAll items next).2 = next + (labelsAll items).length
  | [], _ => ⟨rfl, rfl⟩
  | item :: rest, next => by
      obtain ⟨labels, reached⟩ := number_spec item next
      obtain ⟨others, last⟩ := numberAll_spec rest (item.number next).2
      rw [numberAll, labelsAll, labelsAll, labels, others, last, reached, numbered_append,
        List.length_append, Nat.add_assoc]
      exact ⟨rfl, rfl⟩
termination_by structural items => items

end

namespace System

/-- The labels of all references of a system. -/
def labels {ν : Type} (system : System ν) : List ν :=
  system.start.labels ++ system.definitions.flatMap fun entry => entry.2.labels

theorem numberDefinitions_spec (definitions : List (String × Recognizer String)) (next : Nat) :
    ((numberDefinitions definitions next).1.flatMap fun entry => entry.2.labels) =
        numbered (definitions.flatMap fun entry => entry.2.labels) next ∧
      (numberDefinitions definitions next).2 =
        next + (definitions.flatMap fun entry => entry.2.labels).length := by
  induction definitions generalizing next with
  | nil => exact ⟨rfl, rfl⟩
  | cons entry rest ih =>
      obtain ⟨labels, reached⟩ := number_spec entry.2 next
      obtain ⟨others, last⟩ := ih (entry.2.number next).2
      rw [numberDefinitions, List.flatMap_cons, List.flatMap_cons, labels, others, last, reached,
        numbered_append, List.length_append, Nat.add_assoc]
      exact ⟨rfl, rfl⟩

/-- The references of a system are numbered from zero on. -/
theorem labels_labelled (system : System String) :
    system.labelled.labels = numbered system.labels 0 := by
  obtain ⟨labels, reached⟩ := number_spec system.start 0
  obtain ⟨others, -⟩ := numberDefinitions_spec system.definitions (system.start.number 0).2
  calc
    system.labelled.labels = numbered system.start.labels 0 ++
        numbered (system.definitions.flatMap fun entry => entry.2.labels)
          (system.start.number 0).2 := congrArg₂ (· ++ ·) labels others
    _ = numbered system.labels 0 := by
      rw [reached, ← numbered_append]
      rfl

theorem references_eq (system : System String) : system.references = system.labels.length := by
  obtain ⟨-, reached⟩ := number_spec system.start 0
  obtain ⟨-, last⟩ := numberDefinitions_spec system.definitions (system.start.number 0).2
  rw [references, last, reached, Nat.zero_add, System.labels, List.length_append]

/-- No two references of a system have the same label. -/
theorem nodup_labels_labelled (system : System String) : system.labelled.labels.Nodup :=
  system.labels_labelled ▸ nodup_numbered _ _

/-- References of a system with one number have one name.  Such references are the same one,
which may stand at several places. -/
def NamesByNumber (system : System Label) : Prop :=
  ∀ label ∈ system.labels, ∀ other ∈ system.labels,
    label.node = other.node → label.name = other.name

instance (system : System Label) : Decidable system.NamesByNumber :=
  inferInstanceAs (Decidable (∀ label ∈ system.labels, ∀ other ∈ system.labels,
    label.node = other.node → label.name = other.name))

theorem NamesByNumber.eq_of_node_eq {system : System Label} (named : system.NamesByNumber)
    {label other : Label} (isLabel : label ∈ system.labels) (isOther : other ∈ system.labels)
    (same : label.node = other.node) : label = other := by
  have sameName := named label isLabel other isOther same
  obtain ⟨node, name⟩ := label
  obtain ⟨node', name'⟩ := other
  exact congrArg₂ Label.mk same sameName

/-- References that were numbered one after another are all different. -/
theorem namesByNumber_labelled (system : System String) : system.labelled.NamesByNumber := by
  intro label isLabel other isOther same
  rw [labels_labelled, mem_numbered_iff] at isLabel isOther
  rw [same, isOther] at isLabel
  exact (Option.some.inj isLabel).symm

/-- A definition that a reference names is one of the system's. -/
theorem exists_entry_of_definition {system : System Label} {label : Label}
    {definition : Recognizer Label} (defined : system.definition label = .ok definition) :
    (label.name, definition) ∈ system.definitions := by
  unfold System.definition at defined
  split at defined
  next found isFound =>
    cases defined
    obtain ⟨earlier, later, split, -⟩ := List.lookup_eq_some_iff.1 isFound
    rw [split]
    exact List.mem_append_right _ List.mem_cons_self
  · cases defined

/-- The references of a definition are references of the system. -/
theorem mem_labels_of_definition {system : System Label} {label other : Label}
    {definition : Recognizer Label} (defined : system.definition label = .ok definition)
    (isLabel : other ∈ definition.labels) : other ∈ system.labels :=
  List.mem_append_right _
    (List.mem_flatMap.2 ⟨_, exists_entry_of_definition defined, isLabel⟩)

end System

end PluralForms.Recognizer
